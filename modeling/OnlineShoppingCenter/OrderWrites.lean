import OnlineShoppingCenter.Isolation
import OnlineShoppingCenter.Layers

/-!
# Orders on their way to the database

`storeTransaction` lists the entries, opens the database, which creates the
entry of the new order, and writes the record into it. Other sessions may run
between any two of these steps. After the open they see an entry without a
record, and until the write is done they cannot open the database for writing
themselves. Even so an order that is stored stays as it is.
-/
namespace OnlineShoppingCenter

open TextCodec ColumnFamilies EffectProgram StorageSystem

variable [Platform]

/-- The databases, and the lock of the one of the orders: a single writer has it open. -/
structure Disk where
  world : World
  locked : Bool

/-- The steps of a store of an order. The other calls are as they were. -/
inductive StepCall where
  | whole (op : DbCall)
  | listOrders
  | openOrders (descriptors : List Text)
  | writeOrder (handle : Text) (batch : Batch OrderKey)

def StepCall.Ret : StepCall → Type
  | .whole op => op.Ret
  | .listOrders | .openOrders _ => List Text
  | .writeOrder .. => Unit

abbrev stepSig : Signature := ⟨StepCall, StepCall.Ret⟩

abbrev StepM := Prog stepSig Exn

abbrev take (op : StepCall) : StepM op.Ret := Prog.perform (S := stepSig) op

abbrev listOrders : StepM (List Text) := take .listOrders

abbrev openOrders (descriptors : List Text) : StepM (List Text) := take (.openOrders descriptors)

/-- The status of the open is not looked at: a refused one leaves no handles, and
the first `Put` goes through the second of them. -/
def writeSteps (name : Text) (batch : Batch OrderKey) : StepM Unit := do
  let tid_sv ← listOrders
  let entry_handles ← openOrders (kDefault :: name :: (tid_sv.erase kDefault).erase name)
  match entry_handles[1]? with
  | some handle => take (.writeOrder handle batch)
  | none => .fail .undefined

def stepwise : (op : DbCall) → StepM op.Ret
  | .writeOrder name batch => writeSteps name batch
  | op => take (.whole op)

/-- An open is refused while another writer is there, and when there is an entry
that it does not name. -/
def Disk.openOrders (d : Disk) (descriptors : List Text) : List Text × Disk :=
  if d.locked then ([], d)
  else
    match d.world.orders.openDB descriptors with
    | some orders => (descriptors, ⟨{ d.world with orders }, true⟩)
    | none => ([], d)

def disk : Handler stepSig Exn Disk
  | .whole op, d => ((db op d.world).1, { d with world := (db op d.world).2 })
  | .listOrders, d => (.ok d.world.orders.listEntries, d)
  | .openOrders descriptors, d => (.ok (d.openOrders descriptors).1, (d.openOrders descriptors).2)
  | .writeOrder handle batch, d =>
    (.ok (), ⟨{ d.world with orders := d.world.orders.write handle batch }, false⟩)

section Opens

variable {d : Disk} {descriptors : List Text} {orders : Database OrderKey}

theorem disk_open_granted (hfree : d.locked = false)
    (h : d.world.orders.openDB descriptors = some orders) :
    disk (.openOrders descriptors) d = (.ok descriptors, ⟨{ d.world with orders }, true⟩) := by
  have hopen : d.openOrders descriptors = (descriptors, ⟨{ d.world with orders }, true⟩) := by
    simp [Disk.openOrders, hfree, h]
  change (Except.ok (d.openOrders descriptors).1, (d.openOrders descriptors).2) = _
  rw [hopen]
  rfl

variable (descriptors) in
theorem disk_open_refused (h : d.locked = true ∨ d.world.orders.openDB descriptors = none) :
    disk (.openOrders descriptors) d = (.ok [], d) := by
  have hopen : d.openOrders descriptors = ([], d) := by
    rcases h with h | h <;> simp [Disk.openOrders, h]
  change (Except.ok (d.openOrders descriptors).1, (d.openOrders descriptors).2) = _
  rw [hopen]
  rfl

theorem Disk.drawn_openOrders (d : Disk) (descriptors : List Text) :
    (d.openOrders descriptors).2.world.drawn = d.world.drawn := by
  unfold openOrders
  split
  · rfl
  · split <;> rfl

end Opens

/-- Without other sessions in between the steps are the call. -/
theorem run_stepwise {α : Type} (m : StorageM α) (w : World) :
    run disk (m.interp stepwise) ⟨w, false⟩ = ((run db m w).1, ⟨(run db m w).2, false⟩) := by
  rw [run_interp]
  apply run_of_same (f := fun w => (⟨w, false⟩ : Disk))
  intro op w
  cases op with
  | writeOrder name batch =>
    let opened := (w.orders.entryDescriptors name).foldl Database.create w.orders
    have hopen : w.orders.openDB (kDefault :: name :: (w.orders.listEntries.erase kDefault).erase name) =
        some opened := if_pos (Database.listEntries_subset w.orders name)
    change run disk (writeSteps name batch) ⟨w, false⟩ = _
    simp only [db, Database.store_eq_put]
    unfold writeSteps
    have hlist : run disk listOrders ⟨w, false⟩ = (.ok w.orders.listEntries, ⟨w, false⟩) := rfl
    have hopened : run disk (openOrders (kDefault :: name ::
        (w.orders.listEntries.erase kDefault).erase name)) ⟨w, false⟩ =
          (.ok (w.orders.entryDescriptors name), ⟨{ w with orders := opened }, true⟩) := by
      have hgranted := disk_open_granted (d := ⟨w, false⟩) rfl hopen
      exact (run_perform disk (.openOrders _) _).trans hgranted
    rw [run_bind_ok hlist, run_bind_ok hopened]
    rfl
  | openUser | openProduct | openOrder | listProducts | uuid_generate | gmtime => rfl
  | writeUser | writeProduct => exact run_perform disk _ _

/-- Where a thread stands in a store. -/
inductive Phase where
  | idle
  | listed (names : List Text)
  | opened (name : Text)

/-- The ids a thread has drawn and not used, and where it stands. -/
structure Hand where
  ids : Set Uuid
  phase : Phase

def Hand.idle (ids : Set Uuid) : Hand := ⟨ids, .idle⟩

/-- The steps of a session: it creates the entry of an order whose id is at hand,
and writes to the entry it has created. -/
def OwnStep (username : Text) (g : Hand) : StepCall → Prop
  | .whole op => g.phase = .idle ∧ Own username g.ids op ∧ ¬ op.Refusable
  | .listOrders => g.phase = .idle
  | .openOrders descriptors => ∃ names, ∃ t : Transaction,
    g.phase = .listed names ∧ t.transaction_id ∈ g.ids ∧
      descriptors = kDefault :: uuid_unparse_lower t.transaction_id ::
        (names.erase kDefault).erase (uuid_unparse_lower t.transaction_id)
  | .writeOrder handle batch => g.phase = .opened handle ∧
    ∃ t : Transaction, handle = uuid_unparse_lower t.transaction_id ∧ batch = orderBatch t

/-- What a step answers, and where it leaves the thread. -/
def Stepped (g : Hand) : (op : StepCall) → Except Exn op.Ret → Hand → Prop
  | .whole op, r, g' => ∃ a, r = .ok a ∧ g' = .idle (atHand g.ids op a)
  | .listOrders, r, g' => ∃ names, r = .ok names ∧ g' = ⟨g.ids, .listed names⟩
  | .openOrders descriptors, r, g' => (r = .ok [] ∧ g' = .idle g.ids) ∨
    (r = .ok descriptors ∧ ∃ name, descriptors[1]? = some name ∧
      g' = ⟨{id ∈ g.ids | uuid_unparse_lower id ≠ name}, .opened name⟩)
  | .writeOrder .., r, g' => r = .ok () ∧ g' = .idle g.ids

def ownSteps (username : Text) : Contract stepSig Exn Hand where
  pre := OwnStep username
  post := Stepped

section Steps

variable {username : Text} {ids : Set Uuid}

theorem own_writeSteps {t : Transaction} (ht : t.transaction_id ∈ ids) :
    wp (ownSteps username) (writeSteps (uuid_unparse_lower t.transaction_id) (orderBatch t)) (.idle ids)
      (fun _ g => g = .idle {id ∈ ids | uuid_unparse_lower id ≠ uuid_unparse_lower t.transaction_id})
      fun e g => e = .undefined ∧ g = .idle ids := by
  unfold writeSteps
  refine wp_bind.mpr (wp_perform.mpr ⟨rfl, ?_, ?_⟩)
  · rintro names _ ⟨_, ⟨⟩, rfl⟩
    refine wp_bind.mpr (wp_perform.mpr ⟨⟨names, t, rfl, ht, rfl⟩, ?_, ?_⟩)
    · rintro handles _ (⟨⟨⟩, rfl⟩ | ⟨⟨⟩, name, hname, rfl⟩)
      · exact ⟨rfl, rfl⟩
      · cases hname
        refine wp_perform.mpr ⟨⟨rfl, t, rfl, rfl⟩, ?_, ?_⟩
        · rintro _ _ ⟨-, rfl⟩
          rfl
        · rintro e _ ⟨⟨⟩, -⟩
    · rintro e _ (⟨⟨⟩, -⟩ | ⟨⟨⟩, -⟩)
  · rintro e _ ⟨_, ⟨⟩, -⟩

theorem own_stepwise (op : DbCall) (hop : Own username ids op) :
    wp (ownSteps username) (stepwise op) (.idle ids)
      (fun a g => ∃ ids', (own username).post ids op (.ok a) ids' ∧ g = .idle ids')
      fun e g => ∃ ids', (own username).post ids op (.error e) ids' ∧ g = .idle ids' := by
  have hwhole : ¬ op.Refusable → wp (ownSteps username) (take (.whole op)) (.idle ids)
      (fun a g => ∃ ids', (own username).post ids op (.ok a) ids' ∧ g = .idle ids')
      fun e g => ∃ ids', (own username).post ids op (.error e) ids' ∧ g = .idle ids' := by
    intro hread
    refine wp_perform.mpr ⟨⟨rfl, hop, hread⟩, ?_, ?_⟩
    · rintro a _ ⟨_, ⟨⟩, rfl⟩
      exact ⟨_, .inl ⟨a, rfl, rfl⟩, rfl⟩
    · rintro e _ ⟨_, ⟨⟩, -⟩
  cases op with
  | writeOrder name batch =>
    obtain ⟨t, ht, rfl, rfl⟩ := hop
    refine wp_mono (own_writeSteps ht) ?_ ?_
    · rintro ⟨⟩ _ rfl
      exact ⟨_, .inl ⟨(), rfl, rfl⟩, rfl⟩
    · rintro e _ ⟨rfl, rfl⟩
      exact ⟨ids, .inr ⟨trivial, rfl, rfl⟩, rfl⟩
  | openUser | openProduct | openOrder | listProducts | writeUser | writeProduct | uuid_generate
  | gmtime => exact hwhole id

theorem own_steps (lines : List Text) :
    wp (ownSteps username) ((fine (session username lines)).interp stepwise) (.idle ids)
      (fun _ _ => True) fun _ _ => True := by
  refine wp_mono (wp_interp_map (f := Hand.idle) (fun op _ hop => own_stepwise op hop)
    (own_session lines)) ?_ ?_
  · exact fun _ _ _ => trivial
  · exact fun _ _ _ => trivial

end Steps

/-- The ids that the threads have drawn and not used are told apart, and no order
there is has one of them or one that is still to come. -/
structure Unused {ι : Type} (n : Nat) (w : World) (ids : ι → Set Uuid) : Prop where
  fresh : FreshIds w n
  unused : ∀ i, ∀ id ∈ ids i, uuid_unparse_lower id ∉ w.orders
  apart : ∀ i j id, id ∈ ids i → id ∈ ids j → i = j
  ahead : ∀ i k, w.drawn ≤ k → k < n → w.uuids k ∉ ids i

section Unused

variable {ι : Type} {w w' : World} {n : Nat} {ids : ι → Set Uuid}

theorem Unused.other (h : Unused n w ids) (horders : w'.orders = w.orders)
    (huuids : w'.uuids = w.uuids) (hdrawn : w'.drawn = w.drawn) : Unused n w' ids := by
  obtain ⟨⟨hdistinct, hfresh⟩, hunused, hapart, hahead⟩ := h
  rw [← horders] at hfresh hunused
  rw [← huuids] at hdistinct hfresh hahead
  rw [← hdrawn] at hdistinct hfresh hahead
  exact ⟨⟨hdistinct, hfresh⟩, hunused, hapart, hahead⟩

variable [DecidableEq ι]

omit [Platform] in
theorem mem_update {α : Type} {ids : ι → Set α} {s : Set α} {i j : ι} {a : α} :
    a ∈ Function.update ids i s j ↔ (j = i ∧ a ∈ s) ∨ (j ≠ i ∧ a ∈ ids j) := by
  by_cases hj : j = i
  · subst hj
    simp
  · simp [hj]

theorem Unused.draw (h : Unused n w ids) (i : ι) (hlt : w.drawn < n) :
    Unused n { w with drawn := w.drawn + 1 }
      (Function.update ids i (insert (w.uuids w.drawn) (ids i))) := by
  have hmem : ∀ j id, id ∈ Function.update ids i (insert (w.uuids w.drawn) (ids i)) j →
      (j = i ∧ id = w.uuids w.drawn) ∨ id ∈ ids j := by
    intro j id hid
    rcases mem_update.mp hid with ⟨rfl, hid⟩ | ⟨-, hid⟩
    · rcases Set.mem_insert_iff.mp hid with rfl | hid
      · exact .inl ⟨rfl, rfl⟩
      · exact .inr hid
    · exact .inr hid
  have hnew : ∀ j, w.uuids w.drawn ∉ ids j := fun j => h.ahead j w.drawn (le_refl _) hlt
  constructor
  · constructor
    · intro k l hk hkl hl
      exact h.fresh.distinct k l (Nat.le_of_succ_le hk) hkl hl
    · intro k hk hlt
      exact h.fresh.unused k (Nat.le_of_succ_le hk) hlt
  · intro j id hid
    rcases hmem j id hid with ⟨-, rfl⟩ | hid
    · exact h.fresh.unused w.drawn (le_refl _) hlt
    · exact h.unused j id hid
  · intro j k id hj hk
    rcases hmem j id hj with ⟨rfl, rfl⟩ | hold
    · rcases hmem k _ hk with ⟨rfl, -⟩ | hold
      · rfl
      · exact absurd hold (hnew k)
    · rcases hmem k id hk with ⟨rfl, rfl⟩ | hold'
      · exact absurd hold (hnew j)
      · exact h.apart j k id hold hold'
  · intro j k hk hkn hid
    have hdrawn : w.drawn < k := hk
    rcases hmem j _ hid with ⟨-, heq⟩ | hid
    · exact h.fresh.distinct w.drawn k (le_refl _) hdrawn hkn heq.symm
    · exact h.ahead j k (Nat.le_of_lt hdrawn) hkn hid

/-- An id at hand becomes the name of an entry. -/
theorem Unused.use (h : Unused n w ids) {i : ι} {id : Uuid} (hid : id ∈ ids i)
    (horders : ∀ name : Text, name ∈ w'.orders →
      name = uuid_unparse_lower id ∨ name = kDefault ∨ name ∈ w.orders)
    (huuids : w'.uuids = w.uuids) (hdrawn : w'.drawn = w.drawn) :
    Unused n w' (Function.update ids i
      {other ∈ ids i | uuid_unparse_lower other ≠ uuid_unparse_lower id}) := by
  have hmem : ∀ j other, other ∈ Function.update ids i
      {other ∈ ids i | uuid_unparse_lower other ≠ uuid_unparse_lower id} j →
        other ∈ ids j ∧ other ≠ id := by
    intro j other hother
    rcases mem_update.mp hother with ⟨rfl, hother, hne⟩ | ⟨hj, hother⟩
    · exact ⟨hother, fun heq => hne (by rw [heq])⟩
    · refine ⟨hother, fun heq => ?_⟩
      rw [heq] at hother
      exact hj (h.apart j i id hother hid)
  have hunused : ∀ other, other ≠ id → uuid_unparse_lower other ∉ w.orders →
      uuid_unparse_lower other ∉ w'.orders := by
    intro other hne hnot hother
    rcases horders _ hother with hother | hother | hother
    · exact hne (orderName_injective hother)
    · exact orderName_ne_kDefault other hother
    · exact hnot hother
  constructor
  · constructor
    · rw [huuids, hdrawn]
      exact h.fresh.distinct
    · rw [huuids, hdrawn]
      intro k hk hkn
      apply hunused _ _ (h.fresh.unused k hk hkn)
      intro heq
      exact h.ahead i k hk hkn (heq ▸ hid)
  · intro j other hother
    obtain ⟨hother, hne⟩ := hmem j other hother
    exact hunused other hne (h.unused j other hother)
  · exact fun j k other hj hk => h.apart j k other (hmem j other hj).1 (hmem k other hk).1
  · rw [huuids, hdrawn]
    exact fun j k hk hkn hother => h.ahead j k hk hkn (hmem j _ hother).1

end Unused

/-- The entry was there without a record, and its order has been written since. -/
def Completed (start d : Disk) (name : Text) (e : Entry OrderKey) : Prop :=
  e = Entry.empty ∧ start.locked = true ∧ ∃ t : Transaction,
    name = uuid_unparse_lower t.transaction_id ∧ d.world.orders[name]? = some (orderEntry t)

/-- What has become of the orders since a point of the run, with the threads where they stand. -/
structure Growing {ι : Type} (start d : Disk) (phases : ι → Phase) : Prop where
  kept : ∀ (name : Text) e, start.world.orders[name]? = some e →
    d.world.orders[name]? = some e ∨ Completed start d name e
  added : ∀ (name : Text) e, d.world.orders[name]? = some e → start.world.orders[name]? = none →
    name ≠ kDefault → ∃ t : Transaction, name = uuid_unparse_lower t.transaction_id ∧
      (e = orderEntry t ∨ e = Entry.empty ∧ ∃ i, phases i = .opened name)
  opened : ∀ i name, phases i = .opened name → d.locked = true ∧
    d.world.orders[name]? = some Entry.empty ∧
      (start.world.orders[name]? = none ∨ start.locked = true)
  writer : ∀ i j name other, phases i = .opened name → phases j = .opened other → i = j
  listed : ∀ i names, phases i = .listed names → ∀ name ∈ names, name ∈ d.world.orders

section Growing

variable {ι : Type} {start d : Disk} {phases : ι → Phase}

theorem orderEntry_ne_empty (t : Transaction) : orderEntry t ≠ Entry.empty := by
  intro h
  have hdate := congrFun h .date
  cases hdate

theorem Completed.kept {d' : Disk} {name : Text} {e : Entry OrderKey} (h : Completed start d name e)
    (hd : ∀ (name : Text) e, e ≠ Entry.empty → d.world.orders[name]? = some e →
      d'.world.orders[name]? = some e) : Completed start d' name e := by
  obtain ⟨hempty, hlocked, t, hname, hentry⟩ := h
  exact ⟨hempty, hlocked, t, hname, hd _ _ (orderEntry_ne_empty t) hentry⟩

/-- A step that leaves the orders alone. -/
theorem Growing.other (h : Growing start d phases) {w : World} (hw : w.orders = d.world.orders) :
    Growing start ⟨w, d.locked⟩ phases := by
  obtain ⟨hkept, hadded, hopened, hwriter, hlisted⟩ := h
  unfold Completed at hkept
  rw [← hw] at hkept hadded hopened hlisted
  exact ⟨hkept, hadded, hopened, hwriter, hlisted⟩

/-- What has become of them from here on. -/
theorem Growing.restart (h : Growing start d phases) : Growing d d phases where
  kept _ _ he := .inl he
  added _ _ he hnone := by
    rw [he] at hnone
    cases hnone
  opened i name hi := ⟨(h.opened i name hi).1, (h.opened i name hi).2.1, .inr (h.opened i name hi).1⟩
  writer := h.writer
  listed := h.listed

variable [DecidableEq ι]

omit [Platform] in
theorem update_eq_opened {i j : ι} {phase : Phase} {name : Text} (hphase : ∀ name, phase ≠ .opened name)
    (hj : Function.update phases i phase j = .opened name) : j ≠ i ∧ phases j = .opened name := by
  by_cases hi : j = i
  · subst hi
    rw [Function.update_self] at hj
    exact absurd hj (hphase name)
  · rw [Function.update_of_ne hi] at hj
    exact ⟨hi, hj⟩

/-- What is listed stays there, whoever moves on. -/
theorem Growing.listed_update (h : Growing start d phases) {i : ι} {phase : Phase} {w : World}
    (hgrown : ∀ name : Text, name ∈ d.world.orders → name ∈ w.orders)
    (hphase : ∀ names, phase = .listed names → ∀ name ∈ names, name ∈ w.orders) :
    ∀ j names, Function.update phases i phase j = .listed names →
      ∀ name ∈ names, name ∈ w.orders := by
  intro j names hj name hname
  by_cases hne : j = i
  · subst hne
    rw [Function.update_self] at hj
    exact hphase names hj name hname
  · rw [Function.update_of_ne hne] at hj
    exact hgrown name (h.listed j names hj name hname)

/-- A thread moves on that has nothing open, and opens nothing. -/
theorem Growing.move (h : Growing start d phases) {i : ι} {phase : Phase}
    (hi : ∀ name, phases i ≠ .opened name) (hphase : ∀ name, phase ≠ .opened name)
    (hlisted : ∀ names, phase = .listed names → ∀ name ∈ names, name ∈ d.world.orders) :
    Growing start d (Function.update phases i phase) where
  kept := h.kept
  added name e he hnone hdefault := by
    obtain ⟨t, hname, hrecord | ⟨hempty, j, hj⟩⟩ := h.added name e he hnone hdefault
    · exact ⟨t, hname, .inl hrecord⟩
    · have hne : j ≠ i := by
        rintro rfl
        exact hi name hj
      exact ⟨t, hname, .inr ⟨hempty, j, by rwa [Function.update_of_ne hne]⟩⟩
  opened j name hj := h.opened j name (update_eq_opened hphase hj).2
  writer j k name other hj hk :=
    h.writer j k name other (update_eq_opened hphase hj).2 (update_eq_opened hphase hk).2
  listed := h.listed_update (fun _ hmem => hmem) hlisted

/-- The entry of a new order is created, all others being listed. -/
theorem Growing.create (h : Growing start d phases) (hfree : d.locked = false) {i : ι} {t : Transaction}
    (hnew : uuid_unparse_lower t.transaction_id ∉ d.world.orders) {w : World}
    (hself : w.orders[uuid_unparse_lower t.transaction_id]? = some Entry.empty)
    (hold : ∀ (name : Text) e, d.world.orders[name]? = some e → w.orders[name]? = some e)
    (honly : ∀ name : Text, name ∈ w.orders →
      name = uuid_unparse_lower t.transaction_id ∨ name = kDefault ∨ name ∈ d.world.orders) :
    Growing start ⟨w, true⟩
      (Function.update phases i (.opened (uuid_unparse_lower t.transaction_id))) := by
  have hnobody : ∀ j name, phases j ≠ .opened name := by
    intro j name hj
    have hlocked := (h.opened j name hj).1
    rw [hfree] at hlocked
    cases hlocked
  have hopened : ∀ j name, Function.update phases i
      (.opened (uuid_unparse_lower t.transaction_id)) j = .opened name →
        j = i ∧ name = uuid_unparse_lower t.transaction_id := by
    intro j name hj
    by_cases hne : j = i
    · subst hne
      rw [Function.update_self] at hj
      cases hj
      exact ⟨rfl, rfl⟩
    · rw [Function.update_of_ne hne] at hj
      exact absurd hj (hnobody j name)
  constructor
  · intro name e he
    rcases h.kept name e he with hsame | hdone
    · exact .inl (hold name e hsame)
    · exact .inr (hdone.kept fun name e _ => hold name e)
  · intro name e he hnone hdefault
    by_cases hname : name = uuid_unparse_lower t.transaction_id
    · subst hname
      rw [hself] at he
      exact ⟨t, rfl, .inr ⟨(Option.some.inj he).symm, i, Function.update_self _ _ _⟩⟩
    · obtain heq | heq | hmem := honly name (Database.mem_iff_exists.mpr ⟨e, he⟩)
      · exact absurd heq hname
      · exact absurd heq hdefault
      · obtain ⟨old, hget⟩ := Database.mem_iff_exists.mp hmem
        have heq : old = e := Option.some.inj ((hold name old hget).symm.trans he)
        subst heq
        obtain ⟨t', hname', hrecord | ⟨-, j, hj⟩⟩ := h.added name old hget hnone hdefault
        · exact ⟨t', hname', .inl hrecord⟩
        · exact absurd hj (hnobody j name)
  · intro j name hj
    obtain ⟨rfl, rfl⟩ := hopened j name hj
    refine ⟨rfl, hself, .inl ?_⟩
    cases hstart : start.world.orders[uuid_unparse_lower t.transaction_id]? with
    | none => rfl
    | some e =>
      have hmem : uuid_unparse_lower t.transaction_id ∈ d.world.orders := by
        rcases h.kept _ e hstart with hsame | ⟨-, -, t', -, hdone⟩
        · exact Database.mem_iff_exists.mpr ⟨_, hsame⟩
        · exact Database.mem_iff_exists.mpr ⟨_, hdone⟩
      exact absurd hmem hnew
  · intro j k name other hj hk
    rw [(hopened j name hj).1, (hopened k other hk).1]
  · apply h.listed_update
    · intro name hmem
      obtain ⟨e, he⟩ := Database.mem_iff_exists.mp hmem
      exact Database.mem_iff_exists.mpr ⟨e, hold name e he⟩
    · rintro names ⟨⟩

/-- The record is written into the entry that was created for it. -/
theorem Growing.write (h : Growing start d phases) {i : ι} {t : Transaction}
    (hi : phases i = .opened (uuid_unparse_lower t.transaction_id)) {w : World}
    (hget : ∀ name : Text, w.orders[name]? =
      if name = uuid_unparse_lower t.transaction_id then some (orderEntry t)
      else d.world.orders[name]?) :
    Growing start ⟨w, false⟩ (Function.update phases i .idle) := by
  obtain ⟨-, hempty, horigin⟩ := h.opened i _ hi
  have hself : w.orders[uuid_unparse_lower t.transaction_id]? = some (orderEntry t) := by
    rw [hget, if_pos rfl]
  have hnobody : ∀ j name, Function.update phases i .idle j ≠ .opened name := by
    intro j name hj
    obtain ⟨hne, hj⟩ := update_eq_opened (fun _ => by rintro ⟨⟩) hj
    exact hne (h.writer j i name _ hj hi)
  constructor
  · intro name e he
    by_cases hname : name = uuid_unparse_lower t.transaction_id
    · subst hname
      rw [he] at horigin
      have hlocked : start.locked = true := by
        rcases horigin with hnone | hlocked
        · cases hnone
        · exact hlocked
      rcases h.kept _ e he with hsame | ⟨hdone, -⟩
      · rw [hempty] at hsame
        exact .inr ⟨(Option.some.inj hsame).symm, hlocked, t, rfl, hself⟩
      · exact .inr ⟨hdone, hlocked, t, rfl, hself⟩
    · rcases h.kept name e he with hsame | ⟨hdone, hlocked, t', hname', hrecord⟩
      · exact .inl (by rw [hget, if_neg hname, hsame])
      · exact .inr ⟨hdone, hlocked, t', hname', by rw [hget, if_neg hname, hrecord]⟩
  · intro name e he hnone hdefault
    by_cases hname : name = uuid_unparse_lower t.transaction_id
    · subst hname
      rw [hself] at he
      exact ⟨t, rfl, .inl (Option.some.inj he).symm⟩
    · rw [hget, if_neg hname] at he
      obtain ⟨t', hname', hrecord | ⟨-, j, hj⟩⟩ := h.added name e he hnone hdefault
      · exact ⟨t', hname', .inl hrecord⟩
      · obtain rfl := h.writer j i name _ hj hi
        rw [hi] at hj
        cases hj
        exact absurd rfl hname
  · exact fun j name hj => absurd hj (hnobody j name)
  · exact fun j k name other hj => absurd hj (hnobody j name)
  · apply h.listed_update
    · intro name hmem
      rw [Database.mem_iff_isSome] at hmem ⊢
      rw [hget]
      split
      · rfl
      · exact hmem
    · rintro names ⟨⟩

end Growing

section Interleaved

variable {ι : Type} [DecidableEq ι]

/-- The threads and the orders, at any point. -/
structure Orderly (start : Disk) (n : Nat) (d : Disk) (g : ι → Hand) : Prop where
  ids : Unused n d.world fun i => (g i).ids
  orders : Growing start d fun i => (g i).phase

/-- A draw, which the bound allows. -/
def Draws (op : StepCall) : Prop := op = .whole .uuid_generate

theorem ids_update (g : ι → Hand) (i : ι) (hand : Hand) :
    (fun j => (Function.update g i hand j).ids) = Function.update (fun j => (g j).ids) i hand.ids :=
  Function.comp_update Hand.ids g i hand

theorem phases_update (g : ι → Hand) (i : ι) (hand : Hand) :
    (fun j => (Function.update g i hand j).phase) =
      Function.update (fun j => (g j).phase) i hand.phase :=
  Function.comp_update Hand.phase g i hand

theorem orderly_whole {start d : Disk} {n : Nat} {g : ι → Hand} (h : Orderly start n d g) {i : ι}
    {op : DbCall} (hidle : (g i).phase = .idle) (hread : ¬ op.Refusable)
    (hdraws : op = .uuid_generate → d.world.drawn < n) {a : op.Ret} (ha : (db op d.world).1 = .ok a) :
    Orderly start n ⟨(db op d.world).2, d.locked⟩
      (Function.update g i (.idle (atHand (g i).ids op a))) := by
  have hphases : (fun j => (Function.update g i (Hand.idle (atHand (g i).ids op a)) j).phase) =
      fun j => (g j).phase := by
    rw [phases_update]
    change Function.update (fun j => (g j).phase) i Phase.idle = _
    rw [← hidle]
    exact Function.update_eq_self i fun j => (g j).phase
  have hids := ids_update g i (.idle (atHand (g i).ids op a))
  constructor
  · rw [hids]
    change Unused n _ (Function.update (fun j => (g j).ids) i (atHand (g i).ids op a))
    cases op with
    | uuid_generate =>
      cases ha
      exact h.ids.draw i (hdraws rfl)
    | openUser | openProduct | openOrder | listProducts | gmtime =>
      simp only [atHand, Function.update_eq_self]
      exact h.ids.other rfl rfl rfl
    | writeUser | writeProduct =>
      simp only [atHand, Function.update_eq_self, db, Database.store_eq_put]
      exact h.ids.other rfl rfl rfl
    | writeOrder => exact absurd trivial hread
  · rw [hphases]
    apply h.orders.other
    cases op with
    | openUser | openProduct | openOrder | listProducts | uuid_generate | gmtime => rfl
    | writeUser | writeProduct =>
      simp only [db, Database.store_eq_put]
    | writeOrder => exact absurd trivial hread

/-- Opening the database creates the entry of the order and no other. -/
theorem orderly_open {start d : Disk} {n : Nat} {g : ι → Hand} (h : Orderly start n d g) {i : ι}
    {t : Transaction} (ht : t.transaction_id ∈ (g i).ids) {names : List Text}
    (hlisted : ∀ name ∈ names, name ∈ d.world.orders) (hfree : d.locked = false)
    {orders : Database OrderKey}
    (hopen : d.world.orders.openDB (kDefault :: uuid_unparse_lower t.transaction_id ::
      (names.erase kDefault).erase (uuid_unparse_lower t.transaction_id)) = some orders) :
    Orderly start n ⟨{ d.world with orders }, true⟩
      (Function.update g i ⟨{id ∈ (g i).ids |
        uuid_unparse_lower id ≠ uuid_unparse_lower t.transaction_id},
          .opened (uuid_unparse_lower t.transaction_id)⟩) := by
  have hnew := h.ids.unused i _ ht
  obtain ⟨-, hcreated⟩ := Option.ite_none_right_eq_some.mp hopen
  cases hcreated
  have hmem : ∀ name : Text, name ∈ kDefault :: uuid_unparse_lower t.transaction_id ::
      (names.erase kDefault).erase (uuid_unparse_lower t.transaction_id) →
        name = uuid_unparse_lower t.transaction_id ∨ name = kDefault ∨ name ∈ d.world.orders := by
    intro name hname
    rcases List.mem_cons.mp hname with rfl | hname
    · exact .inr (.inl rfl)
    rcases List.mem_cons.mp hname with rfl | hname
    · exact .inl rfl
    · exact .inr (.inr (hlisted name (List.mem_of_mem_erase (List.mem_of_mem_erase hname))))
  have honly : ∀ name : Text, name ∈ (kDefault :: uuid_unparse_lower t.transaction_id ::
      (names.erase kDefault).erase (uuid_unparse_lower t.transaction_id)).foldl
        Database.create d.world.orders →
          name = uuid_unparse_lower t.transaction_id ∨ name = kDefault ∨ name ∈ d.world.orders := by
    intro name hname
    rw [Database.mem_iff_isSome, Database.getElem?_foldl_create] at hname
    split at hname
    · rename_i hdescriptor
      exact hmem name hdescriptor
    · exact .inr (.inr (Database.mem_iff_isSome.mpr hname))
  constructor
  · rw [ids_update]
    exact h.ids.use ht honly rfl rfl
  · rw [phases_update]
    apply h.orders.create hfree hnew
    · rw [Database.getElem?_foldl_create, if_pos (by simp), Database.getElem?_eq_none hnew]
      rfl
    · intro name e he
      rw [Database.getElem?_foldl_create, he]
      simp
    · exact honly

/-- A thread lists the entries, or gives its store up. -/
theorem Orderly.move {start d : Disk} {n : Nat} {g : ι → Hand} (h : Orderly start n d g) {i : ι}
    {phase : Phase} (hi : ∀ name, (g i).phase ≠ .opened name) (hphase : ∀ name, phase ≠ .opened name)
    (hlisted : ∀ names, phase = .listed names → ∀ name ∈ names, name ∈ d.world.orders) :
    Orderly start n d (Function.update g i ⟨(g i).ids, phase⟩) := by
  constructor
  · rw [ids_update]
    simp only [Function.update_eq_self]
    exact h.ids
  · rw [phases_update]
    exact h.orders.move hi hphase hlisted

/-- An open that is granted is followed by the write, one that is refused ends the store. -/
theorem orderly_openOrders {username : Text} {start d : Disk} {n : Nat} {g : ι → Hand}
    (h : Orderly start n d g) {i : ι} {descriptors : List Text}
    (hop : OwnStep username (g i) (.openOrders descriptors)) :
    ∃ g', Stepped (g i) (.openOrders descriptors) (disk (.openOrders descriptors) d).1 g' ∧
      Orderly start n (disk (.openOrders descriptors) d).2 (Function.update g i g') := by
  obtain ⟨names, t, hphase, ht, hdescriptors⟩ := hop
  have hrefused : d.locked = true ∨ d.world.orders.openDB descriptors = none →
      ∃ g', Stepped (g i) (.openOrders descriptors) (disk (.openOrders descriptors) d).1 g' ∧
        Orderly start n (disk (.openOrders descriptors) d).2 (Function.update g i g') := by
    intro hrefuses
    rw [disk_open_refused _ hrefuses]
    refine ⟨_, .inl ⟨rfl, rfl⟩, h.move ?_ ?_ ?_⟩
    · intro name
      rw [hphase]
      rintro ⟨⟩
    · rintro name ⟨⟩
    · rintro names ⟨⟩
  cases hlocked : d.locked with
  | true => exact hrefused (.inl hlocked)
  | false =>
    cases hdb : d.world.orders.openDB descriptors with
    | none => exact hrefused (.inr hdb)
    | some orders =>
      have hgranted := disk_open_granted hlocked hdb
      subst hdescriptors
      have hopened := orderly_open h ht (h.orders.listed i names hphase) hlocked hdb
      refine ⟨_, .inr ⟨congrArg Prod.fst hgranted, _, rfl, rfl⟩, ?_⟩
      rw [congrArg Prod.snd hgranted]
      exact hopened

/-- The write adds no entry. -/
theorem orderly_writeOrder {start d : Disk} {n : Nat} {g : ι → Hand} (h : Orderly start n d g)
    {i : ι} {t : Transaction} (hphase : (g i).phase = .opened (uuid_unparse_lower t.transaction_id)) :
    Orderly start n (disk (.writeOrder (uuid_unparse_lower t.transaction_id) (orderBatch t)) d).2
      (Function.update g i (.idle (g i).ids)) := by
  have hmem : ∀ name : Text, name ∈ d.world.orders.write
      (uuid_unparse_lower t.transaction_id) (orderBatch t) → name ∈ d.world.orders := by
    intro name hname
    rw [Database.mem_iff_isSome, Database.write, Database.getElem?_insert] at hname
    split at hname
    · rename_i heq
      rw [heq]
      exact Database.mem_iff_exists.mpr ⟨_, (h.orders.opened i _ hphase).2.1⟩
    · exact Database.mem_iff_isSome.mpr hname
  constructor
  · rw [ids_update]
    simp only [Hand.idle, Function.update_eq_self]
    obtain ⟨⟨hdistinct, hfresh⟩, hunused, hapart, hahead⟩ := h.ids
    exact ⟨⟨hdistinct, fun k hk hkn hin => hfresh k hk hkn (hmem _ hin)⟩,
      fun j id hid hin => hunused j id hid (hmem _ hin), hapart, hahead⟩
  · rw [phases_update]
    apply h.orders.write hphase
    intro name
    change (d.world.orders.write _ _)[name]? = _
    rw [Database.write, Database.getElem?_insert, overlay_orderBatch]

theorem serves_ownSteps (username : ι → Text) (start : Disk) (n : Nat) :
    Serves disk (fun i => ownSteps (username i)) (Orderly start n)
      fun d op => Draws op → d.world.drawn < n := by
  intro i op d g h hdraws hop
  cases op with
  | whole op =>
    obtain ⟨hidle, hown, hread⟩ := hop
    obtain ⟨a, ha⟩ := db_answers op d.world
    refine ⟨_, ⟨a, ha, rfl⟩, ?_⟩
    exact orderly_whole h hidle hread (fun hdraw => hdraws (congrArg StepCall.whole hdraw)) ha
  | listOrders =>
    have hidle : (g i).phase = .idle := hop
    refine ⟨_, ⟨_, rfl, rfl⟩, h.move ?_ ?_ ?_⟩
    · intro name
      rw [hidle]
      rintro ⟨⟩
    · rintro name ⟨⟩
    · rintro _ ⟨⟩ name hname
      exact Database.mem_listEntries.mp hname
  | openOrders descriptors =>
    have hown : OwnStep (username i) (g i) (.openOrders descriptors) := hop
    exact orderly_openOrders h hown
  | writeOrder handle batch =>
    obtain ⟨hphase, t, rfl, rfl⟩ := hop
    exact ⟨_, ⟨rfl, rfl⟩, orderly_writeOrder h hphase⟩

omit [DecidableEq ι] in
theorem orderly_start {w : World} {n : Nat} (hfresh : FreshIds w n) :
    Orderly ⟨w, false⟩ n ⟨w, false⟩ fun _ : ι => Hand.idle ∅ where
  ids := {
    fresh := hfresh
    unused := fun _ _ hid => absurd hid (Set.notMem_empty _)
    apart := fun _ _ _ hid => absurd hid (Set.notMem_empty _)
    ahead := fun _ _ _ _ => Set.notMem_empty _ }
  orders := {
    kept := fun _ _ he => .inl he
    added := fun _ _ he hnone => by
      rw [he] at hnone
      cases hnone
    opened := by rintro _ _ ⟨⟩
    writer := by rintro _ _ _ _ ⟨⟩
    listed := by rintro _ _ ⟨⟩ }

theorem drawn_le_disk (op : StepCall) (d : Disk) : d.world.drawn ≤ (disk op d).2.world.drawn := by
  cases op with
  | whole op =>
    cases op with
    | uuid_generate => exact Nat.le_succ _
    | openUser | openProduct | openOrder | listProducts | gmtime => exact le_refl _
    | writeUser | writeProduct | writeOrder =>
      simp only [disk, db, Database.store_eq_put]
      exact le_refl _
  | listOrders | writeOrder => exact le_refl _
  | openOrders descriptors => exact (d.drawn_openOrders descriptors).ge

theorem drawn_lt_disk (op : StepCall) (d : Disk) (hop : Draws op) :
    d.world.drawn < (disk op d).2.world.drawn := by
  cases hop
  exact Nat.lt_succ_self _

/-- The clients of a pool, with the stores of their orders in steps. -/
def stepPool (clients : ι → Text × List Text) (w : World) : Pool stepSig Exn (Trail × Proc) Disk ι :=
  ⟨fun i => (fine (session (clients i).1 (clients i).2)).interp stepwise, ⟨w, false⟩⟩

/-- Between any two points of any interleaving of the steps, as long as the ids
drawn are fresh, an order is neither lost nor changed, but for an entry that a
writer had just created and that has got its record; what is added are whole
orders, and such an entry while its writer holds the lock. -/
theorem orders_append_only (clients : ι → Text × List Text) (w : World) (before after : List ι)
    (hfresh : FreshIds w
      ((stepPool clients w).run disk (before ++ after)).state.world.drawn) :
    let d₁ := ((stepPool clients w).run disk before).state
    let d₂ := ((stepPool clients w).run disk (before ++ after)).state
    (∀ (name : Text) e, d₁.world.orders[name]? = some e →
      d₂.world.orders[name]? = some e ∨ (e = Entry.empty ∧ d₁.locked = true ∧ ∃ t : Transaction,
        name = uuid_unparse_lower t.transaction_id ∧
          d₂.world.orders[name]? = some (orderEntry t))) ∧
      ∀ (name : Text) e, d₂.world.orders[name]? = some e → d₁.world.orders[name]? = none →
        name ≠ kDefault → ∃ t : Transaction, name = uuid_unparse_lower t.transaction_id ∧
          (e = orderEntry t ∨ e = Entry.empty ∧ d₂.locked = true) := by
  intro d₁ d₂
  have hserves := fun start => serves_ownSteps (fun i => (clients i).1) start d₂.world.drawn
  have hmeets : ∀ p : Pool stepSig Exn (Trail × Proc) Disk ι, ∀ schedule,
      (p.run disk schedule).state.world.drawn ≤ d₂.world.drawn →
        p.Meets disk (fun d op => Draws op → d.world.drawn < d₂.world.drawn) schedule :=
    fun p schedule h => Pool.meets_count (fun d : Disk => d.world.drawn) drawn_le_disk drawn_lt_disk h
  have hsplit : (stepPool clients w).run disk (before ++ after) =
      ((stepPool clients w).run disk before).run disk after := Pool.run_append disk _ before after
  have hlast : (((stepPool clients w).run disk before).run disk after).state.world.drawn ≤
      d₂.world.drawn := by rw [← hsplit]
  have hfirst : ((stepPool clients w).run disk before).state.world.drawn ≤ d₂.world.drawn :=
    (Pool.count_le_run (fun d : Disk => d.world.drawn) drawn_le_disk _ after).trans hlast
  obtain ⟨g, hg, hthreads⟩ := Pool.run_keeps (p := stepPool clients w) (hserves ⟨w, false⟩)
    (orderly_start hfresh) (fun i => own_steps (clients i).2) before (hmeets _ _ hfirst)
  have hhere : Orderly d₁ d₂.world.drawn d₁ g := ⟨hg.ids, hg.orders.restart⟩
  obtain ⟨g', hg', -⟩ := Pool.run_keeps (hserves d₁) hhere hthreads after (hmeets _ _ hlast)
  rw [← hsplit] at hg'
  refine ⟨hg'.orders.kept, ?_⟩
  intro name e he hnone hdefault
  obtain ⟨t, hname, hrecord | ⟨hempty, i, hi⟩⟩ := hg'.orders.added name e he hnone hdefault
  · exact ⟨t, hname, .inl hrecord⟩
  · exact ⟨t, hname, .inr ⟨hempty, (hg'.orders.opened i name hi).1⟩⟩

end Interleaved

end OnlineShoppingCenter

namespace OnlineShoppingCenter

open TextCodec ColumnFamilies EffectProgram

attribute [local instance] posix

theorem pair_draws : ((stepPool pairOfClients smallWorld).run disk
    (pairTurns 15 ++ pairTurns 5)).state.world.drawn = 1 := by decide +kernel

theorem pair_freshIds : FreshIds smallWorld ((stepPool pairOfClients smallWorld).run disk
    (pairTurns 15 ++ pairTurns 5)).state.world.drawn := by
  rw [pair_draws]
  constructor
  · intro i j _ hij hj
    omega
  · intro i _ hi
    have hzero : i = 0 := by omega
    rw [hzero]
    decide +kernel

/-- At the first of the two points the entry of the order is there and its record is not. -/
theorem pair_orders_kept :
    let d₁ := ((stepPool pairOfClients smallWorld).run disk (pairTurns 15)).state
    let d₂ := ((stepPool pairOfClients smallWorld).run disk (pairTurns 15 ++ pairTurns 5)).state
    d₁.locked = true ∧
      (∀ (name : Text) e, d₁.world.orders[name]? = some e →
        d₂.world.orders[name]? = some e ∨ (e = Entry.empty ∧ d₁.locked = true ∧ ∃ t : Transaction,
          name = uuid_unparse_lower t.transaction_id ∧
            d₂.world.orders[name]? = some (orderEntry t))) ∧
        ∀ (name : Text) e, d₂.world.orders[name]? = some e → d₁.world.orders[name]? = none →
          name ≠ kDefault → ∃ t : Transaction, name = uuid_unparse_lower t.transaction_id ∧
            (e = orderEntry t ∨ e = Entry.empty ∧ d₂.locked = true) :=
  ⟨by decide +kernel,
    orders_append_only pairOfClients smallWorld (pairTurns 15) (pairTurns 5) pair_freshIds⟩

end OnlineShoppingCenter
