import OnlineShoppingCenter.Coupling
import OnlineShoppingCenter.MainLoop

/-!
# Carts and orders side by side

The methods of the cart and of an order on two sessions at once, for products
and carts that are alike in some sense. All that the methods ask of it is that
it tells which products are in a cart and that a change of the cart keeps it.
-/
namespace OnlineShoppingCenter

open EffectProgram

variable [Platform]

/-- A likeness of products and one of carts that go together. -/
structure CartLikeness (P : Product → Product → Prop) (K : ShoppingCart → ShoppingCart → Prop) :
    Prop where
  UPC : ∀ {p p'}, P p p' → p.UPC = p'.UPC
  checkCart : ∀ {c c'}, K c c' → ∀ UPC, c.checkCart UPC = c'.checkCart UPC
  set : ∀ {c c' p p'}, K c c' → P p p' → ∀ qty, K (c.set p qty) (c'.set p' qty)
  remove : ∀ {c c'}, K c c' → ∀ UPC, K (c.remove UPC) (c'.remove UPC)
  empty : K ⟨∅⟩ ⟨∅⟩

/-- What is alike is the same. -/
theorem cartLikeness_eq : CartLikeness Eq Eq where
  UPC := congrArg Product.UPC
  checkCart h _ := h ▸ rfl
  set hc hp _ := hc ▸ hp ▸ rfl
  remove h _ := h ▸ rfl
  empty := rfl

/-- Carts that are alike are stored by calls that correspond. -/
abbrev CoupledStores (C : Coupling clientSig) (K : ShoppingCart → ShoppingCart → Prop)
    (store store' : ShoppingCart → ClientM Unit) : Prop :=
  ∀ c c', K c c' → Coupled C (fun _ _ => True) (store c) (store' c')

section Cart

variable {C : Coupling clientSig} {P : Product → Product → Prop}
  {K : ShoppingCart → ShoppingCart → Prop} {store store' : ShoppingCart → ClientM Unit}
  {c c' : ShoppingCart} {p p' : Product}

theorem coupled_store (hstore : CoupledStores C K store store') (hc : K c c') :
    Coupled C K (do store c; pure c) (do store' c'; pure c') :=
  (hstore c c' hc).bind fun _ _ _ => .ret hc

theorem CartLikeness.deleteUPC (h : CartLikeness P K) (hstore : CoupledStores C K store store')
    (hc : K c c') (UPC : SKU) : Coupled C K (c.deleteUPC store UPC) (c'.deleteUPC store' UPC) :=
  coupled_store hstore (h.remove hc UPC)

theorem CartLikeness.emptyCart (h : CartLikeness P K) (hstore : CoupledStores C K store store') :
    Coupled C K (c.emptyCart store) (c'.emptyCart store') := coupled_store hstore h.empty

/-- A product that is in one cart is in the other, and nothing is stored. -/
theorem CartLikeness.addProduct (h : CartLikeness P K) (hstore : CoupledStores C K store store')
    (hc : K c c') (hp : P p p') : Coupled C K (c.addProduct store p) (c'.addProduct store' p') := by
  have hcheck : c.checkCart p.UPC = c'.checkCart p'.UPC := by rw [h.UPC hp, h.checkCart hc]
  cases hold : c'.checkCart p'.UPC with
  | true =>
    rw [ShoppingCart.addProduct_old hold, ShoppingCart.addProduct_old (hcheck.trans hold)]
    exact .ret hc
  | false =>
    rw [ShoppingCart.addProduct_new hold, ShoppingCart.addProduct_new (hcheck.trans hold)]
    exact coupled_store hstore (h.set hc hp 1)

/-- With a quantity of zero the carts without the product are stored first. -/
theorem CartLikeness.addProductQty (h : CartLikeness P K) (hstore : CoupledStores C K store store')
    (hc : K c c') (hp : P p p') (qty : UInt32) :
    Coupled C K (c.addProductQty store p qty) (c'.addProductQty store' p' qty) := by
  by_cases hqty : qty = 0
  · subst hqty
    rw [ShoppingCart.addProductQty_zero, ShoppingCart.addProductQty_zero, h.UPC hp]
    apply (hstore _ _ (h.remove hc p'.UPC)).bind
    exact fun _ _ _ => coupled_store hstore (h.set hc hp 0)
  · rw [ShoppingCart.addProductQty_pos hqty, ShoppingCart.addProductQty_pos hqty]
    exact coupled_store hstore (h.set hc hp qty)

/-- The product is read again, and on both sides it is alike. -/
theorem CartLikeness.changeUPCQuantity {getProduct : SKU → ClientM Product} (h : CartLikeness P K)
    (hstore : CoupledStores C K store store')
    (hget : ∀ UPC, Coupled C P (getProduct UPC) (getProduct UPC)) (hc : K c c') (UPC : SKU)
    (qty : UInt32) :
    Coupled C K (c.changeUPCQuantity store getProduct UPC qty)
      (c'.changeUPCQuantity store' getProduct UPC qty) :=
  (hget UPC).bind fun _ _ hp => h.addProductQty hstore hc hp qty

/-- A method of the carts of two sessions. -/
theorem coupled_onCart {R : User → User → Prop} {u u' : User}
    {method method' : (ShoppingCart → ClientM Unit) → ShoppingCart → ClientM ShoppingCart}
    (h : Coupled C K (method u.cartStore u.shopping_cart) (method' u'.cartStore u'.shopping_cart))
    (hR : ∀ c c', K c c' → R { u with shopping_cart := c } { u' with shopping_cart := c' }) :
    Coupled C R (onCart u method) (onCart u' method') :=
  h.bind fun c c' hc => .ret (hR c c' hc)

end Cart

section Order

variable {C : Coupling clientSig} {P : Product → Product → Prop}

/-- An id that is drawn on both sides starts orders for carts that are refused alike. -/
theorem coupled_buyCart {R : Transaction → Transaction → Prop} {c c' : ShoppingCart}
    (hid : C .uuid_generate .uuid_generate Eq) (hinvalid : c.invalidQty = c'.invalidQty)
    (hR : ∀ id, R (.new c id) (.new c' id)) : Coupled C R c.buyCart c'.buyCart := by
  unfold ShoppingCart.buyCart
  rw [hinvalid]
  apply Coupled.ite (.fail _)
  apply (Coupled.perform hid).bind
  rintro id _ rfl
  exact .ret (hR id)

/-- Items whose products are alike are charged alike, one after the other. -/
theorem coupled_chargeItems {items items' : List (SKU × Product × UInt32)}
    (hquantity : ∀ {p p'}, P p p' → p.quantity = p'.quantity)
    (hset : ∀ {p p'} n, P p p' → C (.setQuantity p n) (.setQuantity p' n) P)
    (hstore : ∀ {p p'}, P p p' → Coupled C (fun _ _ => True)
      (request (.storeProduct p)) (request (.storeProduct p')))
    (h : List.Forall₂ (fun e e' => P e.2.1 e'.2.1 ∧ e.2.2 = e'.2.2) items items') :
    Coupled C (fun _ _ => True) (Transaction.chargeItems items) (Transaction.chargeItems items') := by
  induction h with
  | nil => exact .ret trivial
  | @cons e e' rest rest' hitem _ ih =>
    obtain ⟨UPC, p, qty⟩ := e
    obtain ⟨UPC', p', qty'⟩ := e'
    obtain ⟨hp, rfl⟩ := hitem
    rw [Transaction.chargeItems, Transaction.chargeItems, hquantity hp]
    apply Coupled.ite (.fail _)
    apply (Coupled.perform (hset _ hp)).bind
    intro q q' hq
    exact (hstore hq).bind fun _ _ _ => ih

end Order

/-- Histories whose orders tell the same have an order at the same numbers. -/
theorem orderAt_map {β : Type} {f : Transaction → β} {h h' : TransactionHistory}
    (hf : h.transaction_list.map f = h'.transaction_list.map f) (t_idx : UInt32) :
    Option.Rel (fun t t' => f t = f t') (orderAt h t_idx) (orderAt h' t_idx) := by
  unfold orderAt
  split
  · have hget : (h.transaction_list[(t_idx - 1).toNat]?).map f =
        (h'.transaction_list[(t_idx - 1).toNat]?).map f := by
      rw [← List.getElem?_map, hf, List.getElem?_map]
    cases ht : h.transaction_list[(t_idx - 1).toNat]? <;>
      cases ht' : h'.transaction_list[(t_idx - 1).toNat]? <;> simp_all
  · exact .none

end OnlineShoppingCenter
