import OnlineShoppingCenter.LoadingRules
import OnlineShoppingCenter.Client

/-!
# Quantities on hand and on order

The number stored for a SKU, the units of a SKU on an order, and how the
stores of a product change the one and leave the other entries alone.
-/
namespace OnlineShoppingCenter

open TextCodec ColumnFamilies StorageSystem

variable [Platform]

/-- The number that the `on_hand` text of a SKU denotes; 0 where there is none. -/
def onHand (products : Database ProductKey) (UPC : SKU) : Nat :=
  match products[to_string UPC.toNat]?.bind (· .on_hand) with
  | some on_hand => match stoul on_hand with
    | .ok n => n.toNat
    | .error _ => 0
  | none => 0

/-- Every product entry has the numeral of an unsigned int on hand. -/
def WellStocked (products : Database ProductKey) : Prop :=
  ∀ (UPC : SKU) e, products[to_string UPC.toNat]? = some e →
    ∃ on_hand n, e .on_hand = some on_hand ∧ stoul on_hand = .ok n ∧ n.toNat < 2 ^ 32

omit [Platform] in
theorem productName_ne_kDefault (UPC : SKU) : to_string UPC.toNat ≠ kDefault := by
  intro h
  have hd : 'd' ∈ to_string UPC.toNat := by
    rw [h]
    decide
  exact not_mem_to_string (by decide) hd

omit [Platform] in
theorem productName_injective {UPC other : SKU} (h : to_string UPC.toNat = to_string other.toNat) :
    UPC = other := UInt64.toNat_inj.mp (to_string_injective h)

/-- The condition on one entry, as a check. -/
def stockedEntry (x : Text × Entry ProductKey) : Bool :=
  x.1 = kDefault || match (x.2 .on_hand).map stoul with
    | some (.ok n) => decide (n.toNat < 2 ^ 32)
    | _ => false

omit [Platform] in
theorem wellStocked_of_all {products : Database ProductKey}
    (h : products.toList.all stockedEntry = true) : WellStocked products := by
  intro UPC e he
  have hx := List.all_eq_true.mp h _ (Database.mem_toList.mpr he)
  rcases Bool.or_eq_true_iff.mp hx with hname | hnumber
  · exact absurd (of_decide_eq_true hname) (productName_ne_kDefault UPC)
  · cases hget : e .on_hand with
    | none => simp [hget] at hnumber
    | some on_hand =>
      cases hn : stoul on_hand with
      | error x => simp [hget, hn] at hnumber
      | ok n => exact ⟨on_hand, n, rfl, hn, by simpa [hget, hn] using hnumber⟩

theorem overlay_productBatch (p : Product) (e : Entry ProductKey) :
    (productBatch p).overlay e = fun
      | .name => some p.name
      | .category => some p.category
      | .price => some (to_string_f p.price)
      | .on_hand => some (to_string p.quantity.toNat) := by
  funext key
  cases key <;> rfl

/-- Storing a product touches the entry of its own SKU only. -/
theorem getElem?_restock (w : World) (p : Product) (UPC : SKU) :
    (w.restock p).products[to_string UPC.toNat]? =
      if UPC = p.UPC then
        some ((productBatch p).overlay
          (w.products[to_string p.UPC.toNat]?.getD Entry.empty))
      else w.products[to_string UPC.toNat]? := by
  unfold World.restock
  dsimp only
  rw [Database.getElem?_put]
  by_cases h : UPC = p.UPC
  · rw [if_pos (by rw [h]), if_pos h]
  · rw [if_neg (fun heq => h (productName_injective heq)),
      if_neg (productName_ne_kDefault UPC), if_neg h]

theorem onHand_restock (w : World) (p : Product) (UPC : SKU) :
    onHand (w.restock p).products UPC =
      if UPC = p.UPC then p.quantity.toNat else onHand w.products UPC := by
  unfold onHand
  rw [getElem?_restock]
  by_cases h : UPC = p.UPC
  · have hq : p.quantity.toNat < 2 ^ 64 := by
      have := p.quantity.toNat_lt
      omega
    rw [if_pos h, if_pos h, overlay_productBatch]
    simp only [Option.bind_some, stoul_to_string hq, UInt64.toNat_ofNat']
    omega
  · rw [if_neg h, if_neg h]

theorem WellStocked.restock {w : World} (h : WellStocked w.products) (p : Product) :
    WellStocked (w.restock p).products := by
  intro UPC e he
  rw [getElem?_restock] at he
  split at he
  · have hq : p.quantity.toNat < 2 ^ 64 := by
      have := p.quantity.toNat_lt
      omega
    obtain rfl := Option.some.inj he
    rw [overlay_productBatch]
    refine ⟨_, _, rfl, stoul_to_string hq, ?_⟩
    have := p.quantity.toNat_lt
    rw [UInt64.toNat_ofNat']
    omega
  · exact h UPC e he

/-- A product read from a well-stocked database carries the number stored. -/
theorem StorageSystem.Decoded.quantity {w : World} {UPC : SKU} {p : Product} (h : Decoded w UPC p)
    (hw : WellStocked w.products) : onHand w.products UPC = p.quantity.toNat := by
  obtain ⟨e, he, hp⟩ := h
  obtain ⟨-, he⟩ := openEntry_eq_some.mp he
  obtain ⟨on_hand, n, hget, hn, hlt⟩ := hw UPC e he
  obtain ⟨price, -, hp⟩ := bind_ok hp
  obtain ⟨quantity, hquantity, hp⟩ := bind_ok hp
  cases hp
  have hstoui : stoui on_hand = .ok n.toUInt32 := by
    rw [stoui, hn]
    rfl
  simp only [StorageSystem.get, hget, Option.getD_some, hstoui, Except.ok.injEq] at hquantity
  subst hquantity
  have honHand : onHand w.products UPC = n.toNat := by
    unfold onHand
    rw [he, Option.bind_some, hget]
    simp only [hn]
  rw [honHand, UInt64.toNat_toUInt32]
  omega

/-- So the store that ends every read leaves all numbers as they are. -/
theorem onHand_reread {w : World} {UPC : SKU} {p : Product} (h : Decoded w UPC p)
    (hw : WellStocked w.products) : onHand (w.restock p).products = onHand w.products := by
  funext other
  rw [onHand_restock]
  split
  · rename_i heq
    rw [heq, h.sound.1, h.quantity hw]
  · rfl

/-- The units of a SKU on an order. -/
def Transaction.units (t : Transaction) (UPC : SKU) : Nat := (t.shopping_cart.getCount UPC).toNat

/-- The order that a call places. -/
def Call.placed : Call → Option Transaction
  | .storeTransaction t => some t
  | _ => none

def placedOrders (calls : List Call) : List Transaction := calls.filterMap Call.placed

/-- The units of a SKU on all the orders placed by some calls. -/
def placedUnits (calls : List Call) (UPC : SKU) : Nat :=
  ((placedOrders calls).map (·.units UPC)).sum

@[simp] theorem placedUnits_nil (UPC : SKU) : placedUnits [] UPC = 0 := rfl

theorem placedUnits_append (calls more : List Call) (UPC : SKU) :
    placedUnits (calls ++ more) UPC = placedUnits calls UPC + placedUnits more UPC := by
  simp [placedUnits, placedOrders]

theorem placedUnits_snoc {call : Call} (h : call.placed = none) (calls : List Call) (UPC : SKU) :
    placedUnits (calls ++ [call]) UPC = placedUnits calls UPC := by
  simp [placedUnits, placedOrders, h]

theorem placedUnits_snoc_storeTransaction (calls : List Call) (t : Transaction) (UPC : SKU) :
    placedUnits (calls ++ [.storeTransaction t]) UPC = placedUnits calls UPC + t.units UPC := by
  simp [placedUnits, placedOrders, Call.placed]

/-- The units of a SKU on the items still to be charged. -/
def itemUnits (items : List (SKU × Product × UInt32)) (UPC : SKU) : Nat :=
  (items.map fun (key, _, qty) => if key = UPC then qty.toNat else 0).sum

theorem itemUnits_cons (key : SKU) (p : Product) (qty : UInt32)
    (items : List (SKU × Product × UInt32)) (UPC : SKU) :
    itemUnits ((key, p, qty) :: items) UPC =
      (if key = UPC then qty.toNat else 0) + itemUnits items UPC := by
  simp [itemUnits]

theorem itemUnits_of_not_mem {items : List (SKU × Product × UInt32)} {UPC : SKU}
    (h : UPC ∉ items.map Prod.fst) : itemUnits items UPC = 0 := by
  induction items with
  | nil => rfl
  | cons item items ih =>
    obtain ⟨key, p, qty⟩ := item
    simp only [List.map_cons, List.mem_cons, not_or] at h
    rw [itemUnits_cons, if_neg (Ne.symm h.1), ih h.2]

theorem itemUnits_of_mem {items : List (SKU × Product × UInt32)} {UPC : SKU} {p : Product}
    {qty : UInt32} (hnodup : (items.map Prod.fst).Nodup) (h : (UPC, p, qty) ∈ items) :
    itemUnits items UPC = qty.toNat := by
  induction items with
  | nil => cases h
  | cons item items ih =>
    obtain ⟨key, q, n⟩ := item
    rw [List.map_cons, List.nodup_cons] at hnodup
    rw [itemUnits_cons]
    rcases List.mem_cons.mp h with heq | hmem
    · cases heq
      rw [if_pos rfl, itemUnits_of_not_mem hnodup.1]
      omega
    · have hne : key ≠ UPC := by
        rintro rfl
        exact hnodup.1 (List.mem_map.mpr ⟨_, hmem, rfl⟩)
      rw [if_neg hne, ih hnodup.2 hmem]
      omega

theorem nodup_cart_keys (c : ShoppingCart) : (c.cart.toList.map Prod.fst).Nodup := by
  rw [Std.ExtTreeMap.map_fst_toList_eq_keys]
  exact Std.ExtTreeMap.nodup_keys

/-- The items of an order are its units. -/
theorem itemUnits_cart (t : Transaction) (UPC : SKU) :
    itemUnits t.shopping_cart.cart.toList UPC = t.units UPC := by
  unfold Transaction.units ShoppingCart.getCount
  cases h : t.shopping_cart.cart[UPC]? with
  | none =>
    refine itemUnits_of_not_mem ?_
    rw [Std.ExtTreeMap.map_fst_toList_eq_keys, Std.ExtTreeMap.mem_keys]
    intro hmem
    rw [Std.ExtTreeMap.mem_iff_isSome_getElem?, h] at hmem
    cases hmem
  | some e =>
    obtain ⟨p, qty⟩ := e
    exact itemUnits_of_mem (nodup_cart_keys t.shopping_cart)
      (Std.ExtTreeMap.mem_toList_iff_getElem?_eq_some.mpr h)

end OnlineShoppingCenter
