import OnlineShoppingCenter.TextCodec

/-!
# A database of named entries

A RocksDB database as the program uses it: column families by name, each a
map from keys to texts, listed by their numbers, that is in the order they were
created in. An absent database is the empty one. Opening for reading needs
every listed entry to exist; opening for writing needs every existing entry to
be listed and creates the missing ones.
-/
namespace ColumnFamilies

open TextCodec

abbrev Entry (K : Type) := K → Option Text

/-- The entries, and their names in the order of their creation. -/
structure Database (K : Type) where
  entries : Std.ExtTreeMap Text (Entry K)
  created : List Text
  nodup : created.Nodup
  mem_created : ∀ name, name ∈ created ↔ name ∈ entries

abbrev Batch (K : Type) := List (K × Text)

def kDefault : Text := "default".toList

variable {K : Type}

def Entry.empty : Entry K := fun _ => none

namespace Database

instance : Membership Text (Database K) := ⟨fun db name => name ∈ db.entries⟩

instance (name : Text) (db : Database K) : Decidable (name ∈ db) :=
  inferInstanceAs (Decidable (name ∈ db.entries))

instance : GetElem? (Database K) Text (Entry K) fun db name => name ∈ db where
  getElem db name h := db.entries.get name h
  getElem? db name := db.entries[name]?

/-- No entries at all: what is there of an absent database. -/
instance : EmptyCollection (Database K) := ⟨⟨∅, [], List.nodup_nil, by simp⟩⟩

/-- `DB::ListColumnFamilies`; an absent database lists nothing. -/
def listEntries (db : Database K) : List Text := db.created

theorem mem_iff_isSome {db : Database K} {name : Text} : name ∈ db ↔ (db[name]?).isSome = true :=
  Std.ExtTreeMap.mem_iff_isSome_getElem?

theorem mem_iff_exists {db : Database K} {name : Text} : name ∈ db ↔ ∃ e, db[name]? = some e :=
  mem_iff_isSome.trans Option.isSome_iff_exists

theorem getElem?_eq_none {db : Database K} {name : Text} (h : name ∉ db) : db[name]? = none :=
  Std.ExtTreeMap.getElem?_eq_none h

@[simp] theorem getElem?_empty (name : Text) : (∅ : Database K)[name]? = none :=
  Std.ExtTreeMap.getElem?_empty

@[simp] theorem mem_listEntries {db : Database K} {name : Text} : name ∈ db.listEntries ↔ name ∈ db :=
  db.mem_created name

theorem nodup_listEntries (db : Database K) : db.listEntries.Nodup := db.nodup

theorem ext_getElem? {db db' : Database K} (hlist : db.listEntries = db'.listEntries)
    (h : ∀ name : Text, db[name]? = db'[name]?) : db = db' := by
  obtain ⟨entries, created, _, _⟩ := db
  obtain ⟨entries', created', _, _⟩ := db'
  have hentries : entries = entries' := Std.ExtTreeMap.ext_getElem? fun name => h name
  subst hentries
  change created = created' at hlist
  subst hlist
  rfl

/-- An entry under its name; a new one is the last to be listed. -/
def insert (db : Database K) (name : Text) (e : Entry K) : Database K where
  entries := db.entries.insert name e
  created := if name ∈ db then db.created else db.created ++ [name]
  nodup := by
    split
    · exact db.nodup
    · rename_i h
      exact List.nodup_append.mpr ⟨db.nodup, List.nodup_singleton name, by
        intro a ha b hb heq
        rw [List.mem_singleton] at hb
        rw [heq, hb] at ha
        exact h (mem_listEntries.mp ha)⟩
  mem_created other := by
    rw [Std.ExtTreeMap.mem_insert, ← db.mem_created, Std.compare_eq_iff_eq, eq_comm (a := name)]
    split
    · rename_i h
      constructor
      · exact .inr
      · rintro (rfl | hother)
        · exact mem_listEntries.mpr h
        · exact hother
    · rw [List.mem_append, List.mem_singleton, or_comm]

theorem getElem?_insert (db : Database K) (name : Text) (e : Entry K) (other : Text) :
    (db.insert name e)[other]? = if other = name then some e else db[other]? := by
  change (db.entries.insert name e)[other]? = _
  simp only [Std.ExtTreeMap.getElem?_insert, Std.compare_eq_iff_eq, eq_comm (a := name)]
  rfl

/-- A name that is listed already, or is the last. -/
def enlist (names : List Text) (name : Text) : List Text :=
  if names.contains name then names else names ++ [name]

theorem enlist_of_mem {names : List Text} {name : Text} (h : name ∈ names) :
    enlist names name = names := if_pos (List.contains_iff_mem.mpr h)

theorem mem_enlist {names : List Text} {name other : Text} :
    other ∈ enlist names name ↔ other = name ∨ other ∈ names := by
  unfold enlist
  split
  · rename_i h
    constructor
    · exact .inr
    · rintro (rfl | hother)
      · exact List.contains_iff_mem.mp h
      · exact hother
  · simp [or_comm]

theorem listEntries_insert (db : Database K) (name : Text) (e : Entry K) :
    (db.insert name e).listEntries = enlist db.listEntries name := by
  by_cases h : name ∈ db
  · rw [enlist_of_mem (mem_listEntries.mpr h)]
    exact if_pos h
  · have hnot : ¬ db.listEntries.contains name = true :=
      fun hlisted => h (mem_listEntries.mp (List.contains_iff_mem.mp hlisted))
    rw [enlist, if_neg hnot]
    exact if_neg h

/-- Every entry changed in its place. -/
def map (f : Entry K → Entry K) (db : Database K) : Database K where
  entries := db.entries.map fun _ => f
  created := db.created
  nodup := db.nodup
  mem_created name := by
    rw [db.mem_created, Std.ExtTreeMap.mem_map]

theorem getElem?_map (f : Entry K → Entry K) (db : Database K) (name : Text) :
    (db.map f)[name]? = (db[name]?).map f := Std.ExtTreeMap.getElem?_map

/-- The entries by their names. -/
def toList (db : Database K) : List (Text × Entry K) := db.entries.toList

theorem mem_toList {db : Database K} {name : Text} {e : Entry K} :
    (name, e) ∈ db.toList ↔ db[name]? = some e := Std.ExtTreeMap.mem_toList_iff_getElem?_eq_some

/-- `DB::OpenForReadOnly`: the handles read the entries as they are now. -/
def openForReadOnly (db : Database K) (descriptors : List Text) : Option (List (Entry K)) :=
  descriptors.mapM (fun name => db[name]?)

def create (db : Database K) (name : Text) : Database K :=
  if name ∈ db then db else db.insert name Entry.empty

/-- `DB::Open` with `create_if_missing` and `create_missing_column_families`. -/
def openDB (db : Database K) (descriptors : List Text) : Option (Database K) :=
  if db.listEntries ⊆ descriptors then some (descriptors.foldl create db) else none

/-- The default entry, the target, and every other entry there is. -/
def entryDescriptors (db : Database K) (name : Text) : List Text :=
  kDefault :: name :: (db.listEntries.erase kDefault).erase name

/-- The first two entries of a pair of descriptors opened for reading. -/
theorem openForReadOnly_pair (db : Database K) (name : Text) :
    db.openForReadOnly [kDefault, name] =
      (db[kDefault]?.bind fun d => db[name]?.map fun e => [d, e]) := by
  cases hd : db[kDefault]? <;> cases hn : db[name]? <;> simp [openForReadOnly, hd, hn]

theorem getElem?_create (db : Database K) (name other : Text) :
    (db.create name)[other]? =
      if other = name then some (db[name]?.getD Entry.empty) else db[other]? := by
  unfold create
  split
  · rename_i h
    obtain ⟨e, he⟩ := mem_iff_exists.mp h
    by_cases ho : other = name
    · simp [ho, he]
    · simp [ho]
  · rename_i h
    rw [getElem?_insert, getElem?_eq_none h, Option.getD_none]

theorem listEntries_create (db : Database K) (name : Text) :
    (db.create name).listEntries = enlist db.listEntries name := by
  unfold create
  split
  · rename_i h
    exact (enlist_of_mem (mem_listEntries.mpr h)).symm
  · exact listEntries_insert db name Entry.empty

/-- Creating several entries adds those that are missing and nothing else. -/
theorem getElem?_foldl_create (names : List Text) (db : Database K) (other : Text) :
    (names.foldl create db)[other]? =
      if other ∈ names then some (db[other]?.getD Entry.empty) else db[other]? := by
  induction names generalizing db with
  | nil => simp
  | cons name names ih =>
    rw [List.foldl_cons, ih, getElem?_create]
    by_cases hn : other = name <;> by_cases ho : other ∈ names <;> simp_all

theorem listEntries_subset (db : Database K) (name : Text) :
    db.listEntries ⊆ db.entryDescriptors name := by
  intro n hn
  by_cases hd : n = kDefault
  · simp [entryDescriptors, hd]
  by_cases ht : n = name
  · simp [entryDescriptors, ht]
  · simp [entryDescriptors, List.mem_erase_of_ne, hd, ht, hn]

end Database

variable [DecidableEq K]

/-- The puts of a batch, applied in order. -/
def Batch.overlay (batch : Batch K) (entry : Entry K) : Entry K :=
  batch.foldl (fun e (key, value) => Function.update e key (some value)) entry

namespace Batch

theorem overlay_of_not_mem {batch : Batch K} {key : K} (h : key ∉ batch.map Prod.fst)
    (e : Entry K) : batch.overlay e key = e key := by
  induction batch generalizing e with
  | nil => rfl
  | cons put batch ih =>
    rw [List.map_cons, List.mem_cons, not_or] at h
    exact (ih h.2 _).trans (Function.update_of_ne h.1 _ _)

/-- The puts of a batch that names no key twice are all found afterwards. -/
theorem overlay_of_mem {batch : Batch K} {key : K} {text : Text}
    (hkeys : (batch.map Prod.fst).Nodup) (h : (key, text) ∈ batch) (e : Entry K) :
    batch.overlay e key = some text := by
  induction batch generalizing e with
  | nil => cases h
  | cons put batch ih =>
    rw [List.map_cons, List.nodup_cons] at hkeys
    rcases List.mem_cons.mp h with rfl | h
    · exact (overlay_of_not_mem hkeys.1 _).trans (Function.update_self _ _ _)
    · exact ih hkeys.2 h _

end Batch

namespace Database

def write (db : Database K) (name : Text) (batch : Batch K) : Database K :=
  db.insert name (batch.overlay (db[name]?.getD Entry.empty))

/-- List, open for writing and write a batch through the second handle, as the
three store methods do; the status of the open is not looked at. -/
def store (db : Database K) (name : Text) (batch : Batch K) : Option (Database K) := do
  let descriptors := db.entryDescriptors name
  let opened ← db.openDB descriptors
  let handle ← descriptors[1]?
  some (opened.write handle batch)

/-- What a store leaves in the database. -/
def put (db : Database K) (name : Text) (batch : Batch K) : Database K :=
  ((db.entryDescriptors name).foldl create db).write name batch

/-- The open of a store is always accepted, and its second handle is the target. -/
@[simp] theorem store_eq_put (db : Database K) (name : Text) (batch : Batch K) :
    db.store name batch = some (db.put name batch) := by
  have hopen : db.openDB (db.entryDescriptors name) =
      some ((db.entryDescriptors name).foldl create db) := by
    rw [openDB, if_pos (listEntries_subset db name)]
  have hhandle : (db.entryDescriptors name)[1]? = some name := rfl
  simp [store, hopen, hhandle, put]

/-- The target holds its old record overlaid with the batch, the default entry
exists, and no other entry is touched. -/
theorem getElem?_put (db : Database K) (name : Text) (batch : Batch K) (other : Text) :
    (db.put name batch)[other]? =
      if other = name then some (batch.overlay (db[name]?.getD Entry.empty))
      else if other = kDefault then some (db[kDefault]?.getD Entry.empty) else db[other]? := by
  have hmem : name ∈ db.entryDescriptors name := by simp [entryDescriptors]
  rw [put, write, getElem?_insert, getElem?_foldl_create, getElem?_foldl_create]
  by_cases hn : other = name
  · simp [hn, hmem]
  by_cases hd : other = kDefault
  · subst hd
    simp [hn, entryDescriptors]
  · have hlist : other ∈ db.entryDescriptors name → other ∈ db := by
      simp [entryDescriptors, List.mem_erase_of_ne, hn, hd]
    by_cases hm : other ∈ db
    · obtain ⟨e, he⟩ := mem_iff_exists.mp hm
      simp [hn, hd, he]
    · simp [hn, hd, getElem?_eq_none hm, mt hlist hm]

@[simp] theorem getElem?_put_self (db : Database K) (name : Text) (batch : Batch K) :
    (db.put name batch)[name]? = some (batch.overlay (db[name]?.getD Entry.empty)) := by
  simp [getElem?_put]

theorem getElem?_put_of_ne {db : Database K} {name other : Text} (batch : Batch K)
    (h : other ≠ name) (hd : kDefault ∈ db) : (db.put name batch)[other]? = db[other]? := by
  obtain ⟨e, he⟩ := mem_iff_exists.mp hd
  rw [getElem?_put, if_neg h]
  split
  · rename_i ho
    simp [ho, he]
  · rfl

/-- No entry disappears, and only the target and the default one are added. -/
theorem mem_put {db : Database K} {name other : Text} {batch : Batch K} :
    other ∈ db.put name batch ↔ other = name ∨ other = kDefault ∨ other ∈ db := by
  rw [mem_iff_isSome, getElem?_put, mem_iff_isSome]
  by_cases hn : other = name
  · simp [hn]
  by_cases hd : other = kDefault
  · subst hd
    simp [hn]
  · simp [hn, hd]

/-- The entries that a store lists afterwards: new ones are the default one and
then the target. -/
theorem listEntries_put (db : Database K) (name : Text) (batch : Batch K) :
    (db.put name batch).listEntries = enlist (enlist db.listEntries kDefault) name := by
  have hold : ∀ (names : List Text) (db' : Database K), (∀ other ∈ names, other ∈ db'.listEntries) →
      (names.foldl create db').listEntries = db'.listEntries := by
    intro names
    induction names with
    | nil => exact fun _ _ => rfl
    | cons other names ih =>
      intro db' h
      have hcreate : (db'.create other).listEntries = db'.listEntries := by
        rw [listEntries_create, enlist_of_mem (h other List.mem_cons_self)]
      rw [List.foldl_cons, ih _ ?_, hcreate]
      rw [hcreate]
      exact fun other hother => h other (List.mem_cons_of_mem _ hother)
  have hrest : ∀ other ∈ (db.listEntries.erase kDefault).erase name,
      other ∈ ((db.create kDefault).create name).listEntries := by
    intro other hother
    rw [listEntries_create, listEntries_create, mem_enlist, mem_enlist]
    exact .inr (.inr (List.mem_of_mem_erase (List.mem_of_mem_erase hother)))
  rw [put, write, listEntries_insert, entryDescriptors, List.foldl_cons, List.foldl_cons,
    hold _ _ hrest, listEntries_create, listEntries_create, enlist_of_mem]
  exact mem_enlist.mpr (.inl rfl)

theorem listEntries_put_of_mem {db : Database K} {name : Text} (batch : Batch K) (h : name ∈ db)
    (hd : kDefault ∈ db) : (db.put name batch).listEntries = db.listEntries := by
  rw [listEntries_put, enlist_of_mem (mem_listEntries.mpr hd),
    enlist_of_mem (mem_listEntries.mpr h)]

end Database

end ColumnFamilies
