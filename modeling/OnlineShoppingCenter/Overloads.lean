import OnlineShoppingCenter.Orders
import OnlineShoppingCenter.SampleData
import OnlineShoppingCenter.SequentialRules

/-!
# The overloads of the cart operations

Seven methods lead to an entry of the cart. Those that take a quantity write
it as it is, zero included; those that take none differ when the product is in
the cart more than once.
-/
namespace OnlineShoppingCenter

open TextCodec EffectProgram StorageSystem

variable [Platform]

/-- What the mutating methods end with: the cart of the session is stored with
its user, any other cart is not. -/
def ownerStore : Option User → ShoppingCart → ClientM Unit
  | some logged_in, cart => logged_in.cartStore cart
  | none, _ => return ()

/-- A method returns a cart with these quantities. -/
def Leaves (m : ClientM ShoppingCart) (w : World) (quantity : SKU → Option UInt32) : Prop :=
  ∃ c w', run sys m w = (.ok c, w') ∧ c.quantity = quantity

/-- The quantities after `p` has been given the quantity `q`. -/
def ShoppingCart.given (c : ShoppingCart) (p : Product) (q : UInt32) : SKU → Option UInt32 :=
  Function.update c.quantity p.UPC (if q = 0 then none else some q)

/-- The overloads leave the same quantities, and `addtocart` follows one law. -/
structure OverloadsAgree (owner : Option User) (w : World) (c : ShoppingCart) (p : Product)
    (q : UInt32) : Prop where
  addProductQty : Leaves (c.addProductQty (ownerStore owner) p q) w (c.given p q)
  addUPCQty : Leaves (c.addUPCQty (ownerStore owner) local_storage.getProduct p.UPC q) w (c.given p q)
  changeQuantity : Leaves (c.changeQuantity (ownerStore owner) p q) w (c.given p q)
  changeUPCQuantity :
    Leaves (c.changeUPCQuantity (ownerStore owner) local_storage.getProduct p.UPC q) w (c.given p q)
  one : ∃ quantity, Leaves (c.addProduct (ownerStore owner) p) w quantity ∧
    Leaves (c.addUPC (ownerStore owner) local_storage.getProduct p.UPC) w quantity ∧
    Leaves (c.addProductQty (ownerStore owner) p 1) w quantity
  addtocart : Leaves (if q = 1 then c.addProduct (ownerStore owner) p
    else c.addProductQty (ownerStore owner) p q) w (c.given p q)

section Methods

variable {owner : Option User} {w : World} {c : ShoppingCart} {p : Product} {q : UInt32}
  {E : Exn → World → Prop}

theorem wp_ownerStore {Q : Unit → World → Prop} (h : ∀ w', Q () w') :
    wp sys.exact (ownerStore owner c) w Q E := by
  cases owner with
  | none => exact h w
  | some u => exact wp_sys.mpr (wp_storeUser.mpr (h _))

/-- The quantity is written, whatever it is. -/
theorem wp_addProductQty {Q : ShoppingCart → World → Prop} (h : ∀ w', Q (c.set p q) w') :
    wp sys.exact (c.addProductQty (ownerStore owner) p q) w Q E := by
  by_cases hq : q = 0
  · subst hq
    rw [ShoppingCart.addProductQty_zero]
    exact wp_bind.mpr (wp_ownerStore fun w' => wp_bind.mpr (wp_ownerStore h))
  · rw [ShoppingCart.addProductQty_pos hq]
    exact wp_bind.mpr (wp_ownerStore h)

/-- A product in the cart stays as it is. -/
theorem wp_addProduct {Q : ShoppingCart → World → Prop}
    (h : ∀ w', Q (if c.checkCart p.UPC then c else c.set p 1) w') :
    wp sys.exact (c.addProduct (ownerStore owner) p) w Q E := by
  cases hc : c.checkCart p.UPC with
  | true =>
    rw [ShoppingCart.addProduct_old hc]
    simpa [hc] using h w
  | false =>
    rw [ShoppingCart.addProduct_new hc]
    refine wp_bind.mpr (wp_ownerStore fun w' => ?_)
    simpa [hc] using h w'

theorem StorageSystem.Decoded.unique {UPC : SKU} {p' : Product} (h : Decoded w UPC p)
    (h' : Decoded w UPC p') : p' = p := by
  obtain ⟨e, he, hp⟩ := h
  obtain ⟨e', he', hp'⟩ := h'
  rw [he] at he'
  cases he'
  rw [hp] at hp'
  exact (Except.ok.inj hp').symm

/-- Reading the SKU gives the product that is stored. -/
theorem wp_getProduct_stored (hp : Decoded w p.UPC p) {Q : Product → World → Prop}
    (h : Q p (w.restock p)) : wp sys.exact (local_storage.getProduct p.UPC) w Q E := by
  refine wp_sys.mpr (wp_getProduct ?_ ?_)
  · intro p' hp'
    rw [hp.unique hp']
    exact h
  · intro e _ hnone
    exact absurd ⟨p, hp⟩ hnone

theorem wp_addUPCQty (hp : Decoded w p.UPC p) {Q : ShoppingCart → World → Prop}
    (h : ∀ w', Q (c.set p q) w') :
    wp sys.exact (c.addUPCQty (ownerStore owner) local_storage.getProduct p.UPC q) w Q E :=
  wp_bind.mpr (wp_getProduct_stored hp (wp_addProductQty h))

theorem leaves_of_wp {m : ClientM ShoppingCart} {quantity : SKU → Option UInt32}
    (h : wp sys.exact m w (fun c' _ => c'.quantity = quantity) fun _ _ => False) :
    Leaves m w quantity := exists_run_ok h

theorem Leaves.unique {m : ClientM ShoppingCart} {quantity other : SKU → Option UInt32}
    (h : Leaves m w quantity) (h' : Leaves m w other) : other = quantity := by
  obtain ⟨c, w₁, hrun, rfl⟩ := h
  obtain ⟨c', w₂, hrun', rfl⟩ := h'
  rw [hrun] at hrun'
  cases hrun'
  rfl

theorem leaves_addProductQty :
    Leaves (c.addProductQty (ownerStore owner) p q) w (c.set p q).quantity :=
  leaves_of_wp (wp_addProductQty fun _ => rfl)

theorem leaves_addUPCQty (hp : Decoded w p.UPC p) :
    Leaves (c.addUPCQty (ownerStore owner) local_storage.getProduct p.UPC q) w (c.set p q).quantity :=
  leaves_of_wp (wp_addUPCQty hp fun _ => rfl)

theorem leaves_addProduct :
    Leaves (c.addProduct (ownerStore owner) p) w
      (if c.checkCart p.UPC then c else c.set p 1).quantity :=
  leaves_of_wp (wp_addProduct fun _ => rfl)

/-- The quantity asked for is the one written unless it is zero. -/
theorem quantity_set_eq_given : (c.set p q).quantity = c.given p q ↔ q ≠ 0 := by
  rw [ShoppingCart.quantity_set, ShoppingCart.given]
  by_cases hq : q = 0
  · subst hq
    refine iff_of_false ?_ fun h => h rfl
    intro h
    have hself := congrFun h p.UPC
    simp at hself
  · rw [if_neg hq]
    exact iff_of_true rfl hq

/-- A product that is there is there once, exactly when adding it again is
setting its quantity to one. -/
theorem quantity_added_eq :
    (if c.checkCart p.UPC then c else c.set p 1).quantity = (c.set p 1).quantity ↔
      c.getCount p.UPC ≤ 1 := by
  have hcount : c.getCount p.UPC = (c.quantity p.UPC).getD 0 := by
    unfold ShoppingCart.getCount ShoppingCart.quantity
    cases c.cart[p.UPC]? <;> rfl
  have hcheck : c.checkCart p.UPC = decide (0 < c.getCount p.UPC) := by
    unfold ShoppingCart.checkCart ShoppingCart.getCount
    cases c.cart[p.UPC]? <;> rfl
  rw [hcheck]
  by_cases hpos : 0 < c.getCount p.UPC
  · rw [if_pos (decide_eq_true hpos), ShoppingCart.quantity_set]
    constructor
    · intro h
      rw [hcount, h, Function.update_self]
      exact UInt32.le_refl 1
    · intro hle
      have hone : c.getCount p.UPC = 1 := by
        apply UInt32.toNat_inj.mp
        have hlt := UInt32.lt_iff_toNat_lt.mp hpos
        have hle := UInt32.le_iff_toNat_le.mp hle
        simp only [UInt32.toNat_zero, UInt32.toNat_one] at hlt hle ⊢
        omega
      have hsome : c.quantity p.UPC = some 1 := by
        cases hq : c.quantity p.UPC with
        | none =>
          rw [hcount, hq] at hone
          exact absurd hone (by decide)
        | some n =>
          rw [hcount, hq] at hone
          exact congrArg some hone
      rw [← hsome, Function.update_eq_self]
  · rw [if_neg (by simpa using hpos)]
    refine iff_of_true rfl ?_
    have hzero : c.getCount p.UPC = 0 := by
      apply UInt32.toNat_inj.mp
      have hnot := mt UInt32.lt_iff_toNat_lt.mpr hpos
      simp only [UInt32.toNat_zero] at hnot ⊢
      omega
    rw [hzero]
    decide

/-- The overloads agree exactly on a quantity that is not zero and a product
that was in the cart at most once. -/
theorem overloads_agree_iff (owner : Option User) (c : ShoppingCart) (q : UInt32)
    (hp : Decoded w p.UPC p) :
    OverloadsAgree owner w c p q ↔ q ≠ 0 ∧ c.getCount p.UPC ≤ 1 := by
  constructor
  · intro h
    obtain ⟨quantity, hadd, -, hone⟩ := h.one
    constructor
    · exact quantity_set_eq_given.mp (h.addProductQty.unique leaves_addProductQty)
    · have hleft := leaves_addProduct.unique hadd
      have hright := leaves_addProductQty.unique hone
      exact quantity_added_eq.mp (hleft.symm.trans hright)
  · rintro ⟨hq, hcount⟩
    have hgiven := (quantity_set_eq_given (c := c) (p := p)).mpr hq
    have hone := (quantity_added_eq (c := c) (p := p)).mpr hcount
    have hadd : Leaves (c.addProduct (ownerStore owner) p) w (c.set p 1).quantity := by
      rw [← hone]
      exact leaves_addProduct
    have hqty : Leaves (c.addProductQty (ownerStore owner) p q) w (c.given p q) := by
      rw [← hgiven]
      exact leaves_addProductQty
    have hUPC : Leaves (c.addUPCQty (ownerStore owner) local_storage.getProduct p.UPC q) w
        (c.given p q) := by
      rw [← hgiven]
      exact leaves_addUPCQty hp
    refine ⟨hqty, hUPC, hqty, hUPC, ⟨_, hadd, leaves_addUPCQty hp, leaves_addProductQty⟩, ?_⟩
    by_cases h1 : q = 1
    · subst h1
      rw [if_pos rfl, ← hgiven]
      exact hadd
    · rw [if_neg h1]
      exact hqty

end Methods

end OnlineShoppingCenter

namespace OnlineShoppingCenter

open TextCodec EffectProgram StorageSystem

attribute [local instance] posix

/-- The toy as the sample databases hold it. -/
def sampleToy : Product := (run db (getProduct 653569401025) sampleWorld).1.toOption.getD {}

theorem sampleToy_decoded : Decoded sampleWorld sampleToy.UPC sampleToy := by
  have hread : wp db.exact (getProduct 653569401025) sampleWorld
      (fun p _ => Decoded sampleWorld 653569401025 p) fun _ _ => True :=
    wp_getProduct (fun p hp => hp) fun _ _ _ => trivial
  have hok : (run db (getProduct 653569401025) sampleWorld).1.toOption.isSome = true := by
    decide +kernel
  obtain ⟨p, hp⟩ := ok_of_isSome hok
  have htoy : sampleToy = p := by
    rw [sampleToy, hp]
    rfl
  rw [wp_exact, hp] at hread
  have hdecoded : Decoded sampleWorld 653569401025 p := hread
  rw [htoy, hdecoded.sound.1]
  exact hdecoded

theorem sample_overloads_agree :
    OverloadsAgree none sampleWorld {} sampleToy 5 ↔
      (5 : UInt32) ≠ 0 ∧ ({} : ShoppingCart).getCount sampleToy.UPC ≤ 1 :=
  overloads_agree_iff none {} 5 sampleToy_decoded

/-- Zero is written as an entry, and adding what is there twice changes nothing
where the other overloads set it to one. -/
theorem overloads_differ :
    ¬ OverloadsAgree none sampleWorld {} sampleToy 0 ∧
      ¬ OverloadsAgree none sampleWorld (({} : ShoppingCart).set sampleToy 2) sampleToy 5 := by
  constructor
  · intro h
    have hsame := h.addProductQty.unique leaves_addProductQty
    exact quantity_set_eq_given.mp hsame rfl
  · intro h
    obtain ⟨quantity, hadd, -, hone⟩ := h.one
    have hsame := (leaves_addProduct.unique hadd).symm.trans (leaves_addProductQty.unique hone)
    have hcount := quantity_added_eq.mp hsame
    have htwo : (({} : ShoppingCart).set sampleToy 2).getCount sampleToy.UPC = 2 := by
      unfold ShoppingCart.getCount
      rw [ShoppingCart.getElem?_set, if_pos rfl]
    rw [htwo] at hcount
    exact absurd hcount (by decide)

end OnlineShoppingCenter
