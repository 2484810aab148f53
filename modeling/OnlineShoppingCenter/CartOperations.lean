import OnlineShoppingCenter.ShoppingCart

/-!
# What is in a cart

An entry is in the cart for `isEmpty` and for the cart view, and it is in the
cart for `checkCart` when its quantity is positive. The two agree as long as no
operation is given the quantity zero, which is stored like any other.
-/
namespace OnlineShoppingCenter

open TextCodec EffectProgram

variable [Platform]

/-- The mutating methods of a cart. The overloads on a SKU come with the product
that the storage system returns for it. -/
inductive CartOp where
  | addProduct (p : Product)
  | addProductQty (p : Product) (qty : UInt32)
  | addUPC (UPC : SKU) (read : Product)
  | addUPCQty (UPC : SKU) (read : Product) (qty : UInt32)
  | deleteProduct (p : Product)
  | deleteUPC (UPC : SKU)
  | changeQuantity (p : Product) (qty : UInt32)
  | changeUPCQuantity (UPC : SKU) (read : Product) (qty : UInt32)
  | emptyCart

namespace CartOp

/-- The quantity passed to the method. -/
def quantity : CartOp → Option UInt32
  | .addProductQty _ qty | .addUPCQty _ _ qty | .changeQuantity _ qty
  | .changeUPCQuantity _ _ qty => some qty
  | .addProduct _ | .addUPC .. | .deleteProduct _ | .deleteUPC _ | .emptyCart => none

/-- The method on a cart that nothing stores. -/
def apply (c : ShoppingCart) : CartOp → ShoppingCart
  | .addProduct p => Id.run (c.addProduct (fun _ => pure ()) p)
  | .addProductQty p qty => Id.run (c.addProductQty (fun _ => pure ()) p qty)
  | .addUPC UPC read => Id.run (c.addUPC (fun _ => pure ()) (fun _ => pure read) UPC)
  | .addUPCQty UPC read qty => Id.run (c.addUPCQty (fun _ => pure ()) (fun _ => pure read) UPC qty)
  | .deleteProduct p => Id.run (c.deleteProduct (fun _ => pure ()) p)
  | .deleteUPC UPC => Id.run (c.deleteUPC (fun _ => pure ()) UPC)
  | .changeQuantity p qty => Id.run (c.changeQuantity (fun _ => pure ()) p qty)
  | .changeUPCQuantity UPC read qty =>
    Id.run (c.changeUPCQuantity (fun _ => pure ()) (fun _ => pure read) UPC qty)
  | .emptyCart => Id.run (c.emptyCart fun _ => pure ())

/-- A new cart after some operations. -/
def applyAll (ops : List CartOp) : ShoppingCart := ops.foldl apply {}

end CartOp

namespace ShoppingCart

/-- No entry has the quantity zero. -/
def Positive (c : ShoppingCart) : Prop :=
  ∀ (UPC : SKU) (p : Product) (qty : UInt32), c.cart[UPC]? = some (p, qty) → 1 ≤ qty

/-- Every entry is filed under the UPC of its product and counts something, and
so the queries have one notion of what is in the cart. -/
structure Consistent (c : ShoppingCart) : Prop where
  keys : ∀ (UPC : SKU) (p : Product) (qty : UInt32), c.cart[UPC]? = some (p, qty) → p.UPC = UPC
  positive : c.Positive
  isEmpty_eq_false : c.isEmpty = false ↔ ∃ UPC, c.checkCart UPC = true
  listed : ∀ UPC ∈ c.cart, c.checkCart UPC = true

variable {c : ShoppingCart}

omit [Platform] in
theorem one_le_of_ne_zero {qty : UInt32} (h : qty ≠ 0) : 1 ≤ qty := by
  rw [UInt32.le_iff_toNat_le]
  have hne : qty.toNat ≠ 0 := fun hz => h (UInt32.toNat_inj.mp hz)
  change 1 ≤ qty.toNat
  omega

theorem Positive.checkCart (h : c.Positive) {UPC : SKU} (hUPC : UPC ∈ c.cart) :
    c.checkCart UPC = true := by
  unfold ShoppingCart.checkCart
  rw [Std.ExtTreeMap.mem_iff_isSome_getElem?] at hUPC
  obtain ⟨⟨p, qty⟩, he⟩ := Option.isSome_iff_exists.mp hUPC
  have hqty := h UPC p qty he
  rw [he]
  rw [UInt32.le_iff_toNat_le] at hqty
  exact decide_eq_true (UInt32.lt_iff_toNat_lt.mpr hqty)

theorem mem_of_checkCart {UPC : SKU} (h : c.checkCart UPC = true) : UPC ∈ c.cart := by
  unfold ShoppingCart.checkCart at h
  rw [Std.ExtTreeMap.mem_iff_isSome_getElem?]
  cases hc : c.cart[UPC]? with
  | none => simp [hc] at h
  | some e => rfl

theorem isEmpty_eq_false_iff : c.isEmpty = false ↔ ∃ UPC, UPC ∈ c.cart := by
  unfold isEmpty
  rw [Std.ExtTreeMap.isEmpty_eq_false_iff, Std.ExtTreeMap.eq_empty_iff_forall_not_mem]
  simp

/-- The entries decide the rest. -/
theorem consistent_of_entries
    (hkeys : ∀ (UPC : SKU) (p : Product) (qty : UInt32), c.cart[UPC]? = some (p, qty) → p.UPC = UPC)
    (h : c.Positive) : c.Consistent := by
  refine ⟨hkeys, h, ?_, fun UPC => h.checkCart⟩
  rw [isEmpty_eq_false_iff]
  exact exists_congr fun UPC => ⟨h.checkCart, mem_of_checkCart⟩

theorem positive_empty : ({} : ShoppingCart).Positive := by
  intro UPC p qty h
  simp at h

theorem Positive.set (h : c.Positive) (p : Product) {qty : UInt32} (hqty : 1 ≤ qty) :
    (c.set p qty).Positive := by
  intro UPC q n hq
  rw [getElem?_set] at hq
  split at hq
  · cases hq
    exact hqty
  · exact h UPC q n hq

theorem Positive.remove (h : c.Positive) (UPC : SKU) : (c.remove UPC).Positive := by
  intro other q n hq
  rw [getElem?_remove] at hq
  split at hq
  · cases hq
  · exact h other q n hq

theorem consistent_empty : ({} : ShoppingCart).Consistent := by
  apply consistent_of_entries _ positive_empty
  intro UPC p qty h
  simp at h

theorem Consistent.set (h : c.Consistent) (p : Product) {qty : UInt32} (hqty : 1 ≤ qty) :
    (c.set p qty).Consistent := by
  apply consistent_of_entries _ (h.positive.set p hqty)
  intro UPC q n hq
  rw [getElem?_set] at hq
  split at hq
  · rename_i hUPC
    cases hq
    exact hUPC.symm
  · exact h.keys UPC q n hq

theorem Consistent.remove (h : c.Consistent) (UPC : SKU) : (c.remove UPC).Consistent := by
  apply consistent_of_entries _ (h.positive.remove UPC)
  intro other q n hq
  rw [getElem?_remove] at hq
  split at hq
  · cases hq
  · exact h.keys other q n hq

end ShoppingCart

namespace CartOp

variable {c : ShoppingCart} {p : Product} {qty : UInt32}

/-- Deleting an entry and writing it again leaves it as it is written. -/
theorem run_addProductQty (c : ShoppingCart) (p : Product) (qty : UInt32) :
    Id.run (c.addProductQty (fun _ => pure ()) p qty) = c.set p qty := by
  by_cases h : qty = 0
  · subst h
    rw [ShoppingCart.addProductQty_zero]
    rfl
  · rw [ShoppingCart.addProductQty_pos h]
    rfl

theorem run_addProduct (c : ShoppingCart) (p : Product) :
    Id.run (c.addProduct (fun _ => pure ()) p) = c ∨
      Id.run (c.addProduct (fun _ => pure ()) p) = c.set p 1 := by
  cases h : c.checkCart p.UPC with
  | true =>
    rw [ShoppingCart.addProduct_old h]
    exact .inl rfl
  | false =>
    rw [ShoppingCart.addProduct_new h]
    exact .inr rfl

/-- A quantity that is passed is written as it is. -/
theorem apply_quantity {op : CartOp} (h : op.quantity = some qty) :
    ∃ p, apply c op = c.set p qty := by
  cases op with
  | addProductQty p n | changeQuantity p n =>
    cases h
    exact ⟨p, run_addProductQty c p qty⟩
  | addUPCQty UPC p n | changeUPCQuantity UPC p n =>
    cases h
    exact ⟨p, run_addProductQty c p qty⟩
  | addProduct | addUPC | deleteProduct | deleteUPC | emptyCart => cases h

theorem consistent_apply {op : CartOp} (h : c.Consistent) (hop : op.quantity ≠ some 0) :
    (apply c op).Consistent := by
  have hone : (1 : UInt32) ≤ 1 := by decide
  cases hq : op.quantity with
  | some qty =>
    obtain ⟨p, hp⟩ := apply_quantity (c := c) hq
    rw [hp]
    apply h.set p
    apply ShoppingCart.one_le_of_ne_zero
    rintro rfl
    exact hop hq
  | none =>
    cases op with
    | addProduct p =>
      change (Id.run (c.addProduct (fun _ => pure ()) p)).Consistent
      rcases run_addProduct c p with hp | hp
      · rw [hp]
        exact h
      · rw [hp]
        exact h.set p hone
    | addUPC UPC p =>
      have hadd : apply c (.addUPC UPC p) = c.set p 1 := run_addProductQty c p 1
      rw [hadd]
      exact h.set p hone
    | deleteProduct p => exact h.remove p.UPC
    | deleteUPC UPC => exact h.remove UPC
    | emptyCart => exact ShoppingCart.consistent_empty
    | addProductQty | addUPCQty | changeQuantity | changeUPCQuantity => cases hq

/-- An entry with the quantity zero is in the cart for one query and not for the other. -/
theorem not_consistent_set_zero (c : ShoppingCart) (p : Product) : ¬ (c.set p 0).Consistent := by
  intro h
  have hentry : (c.set p 0).cart[p.UPC]? = some (p, 0) := by
    rw [ShoppingCart.getElem?_set, if_pos rfl]
  exact absurd (h.positive p.UPC p 0 hentry) (by decide)

/-- A new cart is consistent after every operation exactly when none of them is
given the quantity zero. -/
theorem consistent_iff (ops : List CartOp) :
    (∀ front back, ops = front ++ back → (applyAll front).Consistent) ↔
      ∀ op ∈ ops, op.quantity ≠ some 0 := by
  constructor
  · intro h op hop hzero
    obtain ⟨front, back, rfl⟩ := List.append_of_mem hop
    have hafter := h (front ++ [op]) back (by simp)
    rw [applyAll, List.foldl_append] at hafter
    obtain ⟨p, hp⟩ := apply_quantity (c := front.foldl apply {}) hzero
    change (apply (front.foldl apply {}) op).Consistent at hafter
    rw [hp] at hafter
    exact not_consistent_set_zero _ p hafter
  · intro h front back hops
    have hfront : ∀ op ∈ front, op.quantity ≠ some 0 := by
      intro op hop
      exact h op (hops ▸ List.mem_append_left back hop)
    clear hops h
    induction front using List.reverseRecOn with
    | nil => exact ShoppingCart.consistent_empty
    | append_singleton front op ih =>
      rw [applyAll, List.foldl_append]
      exact consistent_apply (ih fun op hop => hfront op (List.mem_append_left _ hop))
        (hfront op (by simp))

end CartOp

end OnlineShoppingCenter
