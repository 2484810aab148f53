import OnlineShoppingCenter.EffectProgram
import OnlineShoppingCenter.Records

/-!
# Cart operations

The mutating methods end by storing the logged-in user when `this` is the cart
of the session. What that last step does is the argument `store`; on any other
cart it does nothing.
-/
namespace OnlineShoppingCenter

open EffectProgram

variable [Platform]

namespace ShoppingCart

section Methods

variable {m : Type → Type} [Monad m] (store : ShoppingCart → m Unit) (getProduct : SKU → m Product)

/-- `deleteProduct(SKU)` -/
def deleteUPC (this : ShoppingCart) (UPC : SKU) : m ShoppingCart := do
  let this : ShoppingCart := ⟨this.cart.erase UPC⟩
  store this
  return this

/-- `deleteProduct(Product)` -/
def deleteProduct (this : ShoppingCart) (p : Product) : m ShoppingCart :=
  deleteUPC store this p.UPC

/-- `addProduct(Product)` -/
def addProduct (this : ShoppingCart) (p : Product) : m ShoppingCart := do
  if this.checkCart p.UPC then
    return this
  else
    let this : ShoppingCart := ⟨this.cart.insert p.UPC (p, 1)⟩
    store this
    return this

/-- `addProduct(Product, unsigned int)`: the deletion does not end the call. -/
def addProductQty (this : ShoppingCart) (p : Product) (qty : UInt32) : m ShoppingCart := do
  let this ← if qty = 0 then deleteProduct store this p else pure this
  let this : ShoppingCart := ⟨this.cart.insert p.UPC (p, qty)⟩
  store this
  return this

/-- `addProduct(SKU, unsigned int)` -/
def addUPCQty (this : ShoppingCart) (UPC : SKU) (qty : UInt32) : m ShoppingCart := do
  let p ← getProduct UPC
  addProductQty store this p qty

/-- `addProduct(SKU)` -/
def addUPC (this : ShoppingCart) (UPC : SKU) : m ShoppingCart := do
  let p ← getProduct UPC
  addProductQty store this p 1

/-- `changeQuantity(Product, unsigned int)` -/
def changeQuantity (this : ShoppingCart) (p : Product) (qty : UInt32) : m ShoppingCart :=
  addProductQty store this p qty

/-- `changeQuantity(SKU, unsigned int)` -/
def changeUPCQuantity (this : ShoppingCart) (UPC : SKU) (qty : UInt32) : m ShoppingCart := do
  let p ← getProduct UPC
  addProductQty store this p qty

def emptyCart (_this : ShoppingCart) : m ShoppingCart := do
  let this : ShoppingCart := ⟨∅⟩
  store this
  return this

end Methods

/-- The cart with one entry replaced. -/
def set (c : ShoppingCart) (p : Product) (qty : UInt32) : ShoppingCart :=
  ⟨c.cart.insert p.UPC (p, qty)⟩

def remove (c : ShoppingCart) (UPC : SKU) : ShoppingCart := ⟨c.cart.erase UPC⟩

theorem getElem?_set (c : ShoppingCart) (p : Product) (qty : UInt32) (UPC : SKU) :
    (c.set p qty).cart[UPC]? = if UPC = p.UPC then some (p, qty) else c.cart[UPC]? := by
  simp only [set, Std.ExtTreeMap.getElem?_insert, Std.compare_eq_iff_eq]
  by_cases h : UPC = p.UPC
  · simp [h]
  · simp [h, Ne.symm h]

theorem getElem?_remove (c : ShoppingCart) (UPC other : SKU) :
    (c.remove UPC).cart[other]? = if other = UPC then none else c.cart[other]? := by
  simp only [remove, Std.ExtTreeMap.getElem?_erase, Std.compare_eq_iff_eq]
  by_cases h : other = UPC
  · simp [h]
  · simp [h, Ne.symm h]

/-- The deletion made for a zero quantity is undone by the insertion after it. -/
@[simp] theorem set_remove (c : ShoppingCart) (p : Product) (qty : UInt32) :
    (c.remove p.UPC).set p qty = c.set p qty := by
  refine congrArg ShoppingCart.mk (Std.ExtTreeMap.ext_getElem? fun UPC => ?_)
  change ((c.remove p.UPC).set p qty).cart[UPC]? = (c.set p qty).cart[UPC]?
  simp only [getElem?_set, getElem?_remove]
  split <;> rfl

section Equations

variable {m : Type → Type} [Monad m] {store : ShoppingCart → m Unit} {c : ShoppingCart} {p : Product} {qty : UInt32}

theorem addProduct_old (h : c.checkCart p.UPC = true) : addProduct store c p = pure c := by
  rw [addProduct, if_pos h]

theorem addProduct_new (h : c.checkCart p.UPC = false) :
    addProduct store c p = (do store (c.set p 1); pure (c.set p 1)) := by
  rw [addProduct, if_neg (by simp [h])]
  rfl

theorem addProductQty_zero [LawfulMonad m] :
    addProductQty store c p 0 = (do
      store (c.remove p.UPC)
      store (c.set p 0)
      pure (c.set p 0)) := by
  rw [← set_remove]
  simp [addProductQty, deleteProduct, deleteUPC, remove, set]

theorem addProductQty_pos [LawfulMonad m] (h : qty ≠ 0) :
    addProductQty store c p qty = (do store (c.set p qty); pure (c.set p qty)) := by
  simp [addProductQty, h, set]

end Equations

/-- On a cart that nothing stores, adding sets the entry, whatever the quantity. -/
@[simp] theorem addProductQty_local {S : Signature} {ε : Type} (c : ShoppingCart) (p : Product)
    (qty : UInt32) :
    addProductQty (fun _ => (pure () : Prog S ε Unit)) c p qty = .ret (c.set p qty) := by
  by_cases h : qty = 0
  · subst h
    rw [addProductQty_zero]
    rfl
  · rw [addProductQty_pos h]
    rfl

end ShoppingCart

end OnlineShoppingCenter
