import OnlineShoppingCenter.Integrity
import OnlineShoppingCenter.SampleData

/-!
# The shop that `initDB` opens

The users, products and orders written out in `initDB` decode and refer to each
other only, on every platform.
-/
namespace OnlineShoppingCenter

open TextCodec ColumnFamilies StorageSystem

namespace StorageSystem

section Fill

variable {K : Type} [DecidableEq K]

theorem getElem?_foldl_write (entries : List (Text × Batch K))
    (hnodup : (entries.map Prod.fst).Nodup) (db : Database K) (name : Text) :
    (entries.foldl (fun db (name, batch) => db.write name batch) db)[name]? =
      match entries.find? fun x => x.1 = name with
      | some x => some (x.2.overlay (db[name]?.getD Entry.empty))
      | none => db[name]? := by
  induction entries generalizing db with
  | nil => rfl
  | cons x entries ih =>
    obtain ⟨hnot, hnodup⟩ := List.nodup_cons.mp hnodup
    rw [List.foldl_cons, ih hnodup]
    simp only [Database.write, Database.getElem?_insert]
    by_cases hx : x.1 = name
    · have hnone : entries.find? (fun y => y.1 = name) = none := by
        rw [List.find?_eq_none]
        intro y hy heq
        exact hnot (List.mem_map.mpr ⟨y, hy, by simpa [hx] using heq⟩)
      simp [hx, hnone]
    · simp [hx, Ne.symm hx]

omit [DecidableEq K] in
/-- The entries that are there before the first write. -/
theorem getElem?_created (entries : List (Text × Batch K)) (name : Text) :
    ((entries.foldl (fun db (name, _) => db.create name)
      (Database.create ∅ kDefault))[name]? : Option (Entry K)) =
        if name ∈ entries.map Prod.fst ∨ name = kDefault then some Entry.empty else none := by
  have hmap : entries.foldl (fun db (name, _) => db.create name) (Database.create ∅ kDefault) =
      (entries.map Prod.fst).foldl Database.create (Database.create (∅ : Database K) kDefault) := by
    rw [List.foldl_map]
  rw [hmap, Database.getElem?_foldl_create, Database.getElem?_create]
  by_cases hn : name ∈ entries.map Prod.fst <;> by_cases hd : name = kDefault <;> simp [hn, hd]

theorem getElem?_fill {entries : List (Text × Batch K)} (hnodup : (entries.map Prod.fst).Nodup)
    (name : Text) :
    (fill entries)[name]? =
      match entries.find? fun x => x.1 = name with
      | some x => some (x.2.overlay Entry.empty)
      | none => if name = kDefault then some Entry.empty else none := by
  rw [fill, getElem?_foldl_write _ hnodup, getElem?_created]
  cases hfind : entries.find? fun x => x.1 = name with
  | none =>
    have hnot : name ∉ entries.map Prod.fst := by
      intro hmem
      obtain ⟨x, hx, rfl⟩ := List.mem_map.mp hmem
      simpa using List.find?_eq_none.mp hfind x hx
    simp only [hnot, false_or]
  | some x =>
    have hmem : name ∈ entries.map Prod.fst :=
      List.mem_map.mpr ⟨x, List.mem_of_find?_eq_some hfind, by simpa using List.find?_some hfind⟩
    simp only [hmem, true_or, if_true, Option.getD_some]

/-- An entry of a filled database is the default one or holds its batch. -/
theorem fill_cases {entries : List (Text × Batch K)} (hnodup : (entries.map Prod.fst).Nodup)
    {name : Text} {e : Entry K} (h : (fill entries)[name]? = some e) :
    (name = kDefault ∧ e = Entry.empty) ∨ ∃ x ∈ entries, x.1 = name ∧ e = x.2.overlay Entry.empty := by
  rw [getElem?_fill hnodup] at h
  cases hfind : entries.find? fun x => x.1 = name with
  | none =>
    simp only [hfind] at h
    split at h
    · rename_i hname
      exact .inl ⟨hname, (Option.some.inj h).symm⟩
    · cases h
  | some x =>
    simp only [hfind, Option.some.injEq] at h
    exact .inr ⟨x, List.mem_of_find?_eq_some hfind, by simpa using List.find?_some hfind, h.symm⟩

theorem mem_fill {entries : List (Text × Batch K)} (hnodup : (entries.map Prod.fst).Nodup)
    {name : Text} : name ∈ fill entries ↔ name = kDefault ∨ name ∈ entries.map Prod.fst := by
  rw [Database.mem_iff_isSome, getElem?_fill hnodup]
  cases hfind : entries.find? fun x => x.1 = name with
  | none =>
    have hnot : name ∉ entries.map Prod.fst := by
      intro hmem
      obtain ⟨x, hx, rfl⟩ := List.mem_map.mp hmem
      simpa using List.find?_eq_none.mp hfind x hx
    simp only [hnot, or_false]
    split <;> simp_all
  | some x =>
    have hmem : name ∈ entries.map Prod.fst :=
      List.mem_map.mpr ⟨x, List.mem_of_find?_eq_some hfind, by simpa using List.find?_some hfind⟩
    simp [hmem]

end Fill

end StorageSystem

theorem initUsers_nodup : (initUsers.map Prod.fst).Nodup := by decide +kernel

theorem initProducts_nodup : (initProducts.map Prod.fst).Nodup := by decide +kernel

theorem initOrders_nodup : (initOrders.map Prod.fst).Nodup := by decide +kernel

/-- The number before a decimal point, and the digits after it. -/
def wholePart (t : Text) : Text := t.takeWhile (· ≠ '.')

def fractionPart (t : Text) : Text := (t.dropWhile (· ≠ '.')).tail

/-- A text of the form that every platform reads as a float. -/
def Priced (t : Text) : Prop :=
  t = wholePart t ++ '.' :: fractionPart t ∧ wholePart t ≠ [] ∧
    (wholePart t ++ fractionPart t).all Char.isDigit = true ∧ (wholePart t).length ≤ 30 ∧
      (fractionPart t).length ≤ 30

instance (t : Text) : Decidable (Priced t) := inferInstanceAs (Decidable (_ ∧ _ ∧ _ ∧ _ ∧ _))

theorem stof_priced [Platform] {t : Text} (h : Priced t) : ∃ f, stof t = .ok f := by
  obtain ⟨heq, hne, hdigits, hwhole, hfraction⟩ := h
  rw [heq]
  exact Platform.stof_plain _ _ ⟨hne, List.all_eq_true.mp hdigits, hwhole, hfraction⟩

theorem initUsers_orders : ∀ x ∈ initUsers, ∀ line ∈ orderLines (x.2.overlay Entry.empty),
    uuidText line = true ∧ line ∈ initOrders.map Prod.fst := by decide +kernel

theorem initUsers_cart : ∀ x ∈ initUsers, ∀ item ∈ cartLines (x.2.overlay Entry.empty),
    ∃ i ∈ (parseItem item).toOption, to_string i.1.toNat ∈ initProducts.map Prod.fst := by
  decide +kernel

theorem initUsers_card : ∀ x ∈ initUsers, ∀ num ∈ x.2.overlay Entry.empty .cc_num,
    ((stoul num).toOption).isSome = true := by decide +kernel

theorem initProducts_named : ∀ x ∈ initProducts,
    ∃ UPC ∈ (stoul x.1).toOption, x.1 = to_string UPC.toNat := by decide +kernel

theorem initProducts_price : ∀ x ∈ initProducts,
    ∃ t ∈ x.2.overlay Entry.empty .price, Priced t := by decide +kernel

theorem initProducts_on_hand : ∀ x ∈ initProducts,
    ∃ t ∈ x.2.overlay Entry.empty .on_hand, (stoui t).toOption.isSome = true := by decide +kernel

theorem initOrders_items : ∀ x ∈ initOrders,
    ∀ item ∈ split (get (x.2.overlay Entry.empty) .items []) '\n',
      ∃ i ∈ (parseItem item).toOption, to_string i.1.toNat ∈ initProducts.map Prod.fst := by
  decide +kernel

theorem initOrders_decode : ∀ x ∈ initOrders,
    (∃ t ∈ x.2.overlay Entry.empty .total, Priced t) ∧
      (∃ t ∈ x.2.overlay Entry.empty .shipaddr_zip, (stoui t).toOption.isSome = true) ∧
        (∃ t ∈ x.2.overlay Entry.empty .cc_num, (stoul t).toOption.isSome = true) ∧
          ∃ t ∈ x.2.overlay Entry.empty .cc_cv2, (stoui t).toOption.isSome = true := by
  decide +kernel

/-- The users and products that `initDB` creates, and the default entry. -/
def initShop : Shop where
  accounts := {name | name = kDefault ∨ name ∈ initUsers.map Prod.fst}
  catalogue := {UPC | to_string UPC.toNat ∈ initProducts.map Prod.fst}

/-- Item lines as the checks above find them. -/
theorem itemsKnown_initShop {items : List Text}
    (h : ∀ item ∈ items,
      ∃ i ∈ (parseItem item).toOption, to_string i.1.toNat ∈ initProducts.map Prod.fst) :
    initShop.ItemsKnown items := by
  intro item hitem
  obtain ⟨⟨UPC, qty⟩, hi, hUPC⟩ := h item hitem
  exact ⟨UPC, qty, ok_of_mem hi, hUPC⟩

section Good

variable [Platform]

theorem userEntryGood_init {w : World} {x : Text × Batch UserKey} (hx : x ∈ initUsers) :
    initShop.UserEntryGood (initDB w).placed (x.2.overlay Entry.empty) := by
  constructor
  · intro line hline
    obtain ⟨htext, hmem⟩ := initUsers_orders x hx line hline
    obtain ⟨id, rfl⟩ := Platform.text_unparse line htext
    exact ⟨id, parse_unparse id, (mem_fill initOrders_nodup).mpr (.inr hmem)⟩
  · exact itemsKnown_initShop (initUsers_cart x hx)
  · intro num hnum
    exact ok_of_isSome (initUsers_card x hx num hnum)

theorem userEntryGood_empty (shop : Shop) (placed : Set Uuid) :
    shop.UserEntryGood placed Entry.empty := by
  constructor
  · intro line hline
    cases hline
  · intro item hitem
    cases hitem
  · intro num hnum
    cases hnum

theorem orderEntryGood_init {x : Text × Batch OrderKey} (hx : x ∈ initOrders) :
    initShop.OrderEntryGood (x.2.overlay Entry.empty) := by
  refine ⟨itemsKnown_initShop (initOrders_items x hx), fun id => ?_⟩
  obtain ⟨⟨total_s, htotal, hpriced⟩, ⟨zip_s, hzip, hzip'⟩, ⟨num_s, hnum, hnum'⟩, cv2_s, hcv2, hcv2'⟩ :=
    initOrders_decode x hx
  obtain ⟨total, htotal'⟩ := stof_priced hpriced
  obtain ⟨zip, hzip'⟩ := ok_of_isSome hzip'
  obtain ⟨num, hnum'⟩ := ok_of_isSome hnum'
  obtain ⟨cv2, hcv2'⟩ := ok_of_isSome hcv2'
  have hstof : stof total_s = .ok total := htotal'
  simp only [decodeOrder, StorageSystem.get, Option.mem_def.mp htotal, Option.mem_def.mp hzip,
    Option.mem_def.mp hnum, Option.mem_def.mp hcv2, Option.getD_some, hstof, hzip', hnum', hcv2']
  exact ⟨_, rfl⟩

theorem productEntryGood_init {x : Text × Batch ProductKey} (hx : x ∈ initProducts) :
    ProductEntryGood (x.2.overlay Entry.empty) := by
  intro UPC
  obtain ⟨price_s, hprice, hpriced⟩ := initProducts_price x hx
  obtain ⟨qty_s, hqty, hqty'⟩ := initProducts_on_hand x hx
  obtain ⟨price, hprice'⟩ := stof_priced hpriced
  obtain ⟨qty, hqty'⟩ := ok_of_isSome hqty'
  have hstof : stof price_s = .ok price := hprice'
  simp only [decodeProduct, StorageSystem.get, Option.mem_def.mp hprice, Option.mem_def.mp hqty,
    Option.getD_some, hstof, hqty']
  exact ⟨_, rfl⟩

theorem good_initDB (w : World) : Good initShop (initDB w) where
  users_default := (mem_fill initUsers_nodup).mpr (.inl rfl)
  products_default := (mem_fill initProducts_nodup).mpr (.inl rfl)
  orders_default := (mem_fill initOrders_nodup).mpr (.inl rfl)
  accounts _ := mem_fill initUsers_nodup
  catalogue UPC := by
    refine (mem_fill initProducts_nodup).trans ?_
    simp only [productName_ne_kDefault, false_or]
    exact Iff.rfl
  products_named := by
    intro name hname hne
    obtain ⟨x, hx, rfl⟩ := List.mem_map.mp (((mem_fill initProducts_nodup).mp hname).resolve_left hne)
    obtain ⟨UPC, -, hUPC⟩ := initProducts_named x hx
    exact ⟨UPC, hUPC⟩
  users := by
    intro name e he
    rcases fill_cases initUsers_nodup he with ⟨-, rfl⟩ | ⟨x, hx, -, rfl⟩
    · exact userEntryGood_empty _ _
    · exact userEntryGood_init hx
  orders := by
    intro name e he hne
    rcases fill_cases initOrders_nodup he with ⟨rfl, -⟩ | ⟨x, hx, -, rfl⟩
    · exact absurd rfl hne
    · exact orderEntryGood_init hx
  products := by
    intro name e he hne
    rcases fill_cases initProducts_nodup he with ⟨rfl, -⟩ | ⟨x, hx, -, rfl⟩
    · exact absurd rfl hne
    · exact productEntryGood_init hx

end Good

end OnlineShoppingCenter
