import OnlineShoppingCenter.MainLoop

/-!
# Rules for sessions

An invariant of a session is given by what it says between two calls, at rest,
with a product just read and with an order in progress, and by one condition
for each call. The rules walk once through every command of `main`; sound carts,
orders that are drafts of the cart and the like are instances of them.
-/
namespace OnlineShoppingCenter

open TextCodec EffectProgram

variable [Platform]

/-- Every entry is filed under the UPC of its complete product copy. -/
def ShoppingCart.Sound (c : ShoppingCart) : Prop :=
  ∀ UPC (p : Product) (qty : UInt32),
    c.cart[UPC]? = some (p, qty) → p.UPC = UPC ∧ p.is_set = true

structure User.Sound (u : User) : Prop where
  address : u.shipping_address.Whole
  cart : u.shopping_cart.Sound

/-- An order in progress: a copy of the cart, none of whose quantities is too large. -/
structure Draft (u : User) (order : Transaction) : Prop where
  cart : order.shopping_cart = u.shopping_cart
  valid : u.shopping_cart.invalidQty = false
  nonempty : u.shopping_cart.isEmpty = false
  address : order.shipping_address.Whole

/-- What is known at each prompt. -/
def Loc.Sound (u : User) : Loc → Prop
  | .cartshell invalid_qty => invalid_qty = u.shopping_cart.invalidQty
  | .useAddress order => Draft u order ∧ u.shipping_address.is_set = true
  | .orderAddr order prompt =>
    Draft u order ∧ order.shipping_address.is_set = false ∧ prompt.Sound
  | .usePayment order =>
    Draft u order ∧ order.shipping_address.is_set = true ∧ u.payment_info.is_set = true
  | .orderPay order prompt =>
    Draft u order ∧ order.shipping_address.is_set = true ∧ order.payment_info.is_set = false ∧
      prompt.Sound
  | .placeOrder order =>
    Draft u order ∧ order.shipping_address.is_set = true ∧ order.payment_info.is_set = true
  | .accountAddr prompt => prompt.Sound
  | .accountPay prompt => prompt.Sound
  | .mainshell | .accshell | .tshell | .exited => True

theorem Draft.setPayment {u : User} {order : Transaction} {cc : PaymentInfo} (h : Draft u order) :
    Draft u (order.setPaymentInfo cc) := ⟨h.cart, h.valid, h.nonempty, h.address⟩

structure Proc.Sound (p : Proc) : Prop where
  user : p.logged_in.Sound
  loc : p.loc.Sound p.logged_in

namespace ShoppingCart

theorem sound_empty : ({} : ShoppingCart).Sound := by
  intro UPC p qty h
  simp at h

theorem Sound.set {c : ShoppingCart} (h : c.Sound) {p : Product} (hp : p.is_set = true)
    (qty : UInt32) : (c.set p qty).Sound := by
  intro UPC q n hq
  rw [getElem?_set] at hq
  split at hq
  · rename_i hUPC
    obtain ⟨rfl, rfl⟩ := Prod.mk.inj (Option.some.inj hq)
    exact ⟨hUPC.symm, hp⟩
  · exact h UPC q n hq

theorem Sound.remove {c : ShoppingCart} (h : c.Sound) (UPC : SKU) : (c.remove UPC).Sound := by
  intro other q n hq
  rw [getElem?_remove] at hq
  split at hq
  · cases hq
  · exact h other q n hq

/-- The flag of the cart view is down when every quantity is covered. -/
theorem invalidQty_eq_false {c : ShoppingCart} :
    c.invalidQty = false ↔ ∀ e ∈ c.cart.toList, ¬ e.2.1.quantity < e.2.2 := by
  simp [invalidQty, List.any_eq_false]

theorem mem_cart {c : ShoppingCart} {UPC : SKU} {p : Product} {qty : UInt32} :
    (UPC, p, qty) ∈ c.cart.toList ↔ c.cart[UPC]? = some (p, qty) :=
  Std.ExtTreeMap.mem_toList_iff_getElem?_eq_some

end ShoppingCart

/-- What a session is in the middle of. -/
inductive Task where
  | idle
  | copy (p : Product)
  | order (t : Transaction)

/-- The task at a prompt; none once the session has exited. -/
def Loc.task : Loc → Option Task
  | .useAddress order | .orderAddr order _ | .usePayment order | .orderPay order _
  | .placeOrder order => some (.order order)
  | .mainshell | .cartshell _ | .accshell | .accountAddr _ | .accountPay _ | .tshell => some .idle
  | .exited => none

theorem task_of_ne {loc : Loc} (h : loc ≠ .exited) : ∃ task, loc.task = some task := by
  cases loc with
  | exited => exact absurd rfl h
  | mainshell | cartshell | useAddress | orderAddr | usePayment | orderPay | placeOrder | accshell
  | accountAddr | accountPay | tshell => exact ⟨_, rfl⟩

variable {G : Type}

/-- An invariant of a session under a contract: what holds in the middle of
each task, while the items of an order are charged, when no session runs and
after an exception, with what each call has to preserve. -/
structure SessionSpec (C : Contract clientSig Exn G) where
  holds : G → User → Task → Prop
  charging : G → User → Transaction → List (SKU × Product × UInt32) → Prop
  rest : G → Prop
  failed : Exn → G → Prop
  okQty : UInt32 → Prop
  rest_of_holds : ∀ {g u a}, holds g u a → rest g
  failed_of_holds : ∀ {g u a e}, holds g u a → e ≠ .runtime_error → failed e g
  rest_of_refused : ∀ {g}, failed .system_error g → rest g
  forget : ∀ {g u a}, holds g u a → holds g u .idle
  ask : ∀ {g u a question}, holds g u a → wp C (ask question) g (fun _ g' => holds g' u a) failed
  showOrder : ∀ {g u t}, holds g u .idle →
    wp C (showOrder t) g (fun _ g' => holds g' u .idle) failed
  getProducts : ∀ {g u}, holds g u .idle →
    wp C local_storage.getProducts g (fun _ g' => holds g' u .idle) failed
  getProduct : ∀ {g u UPC}, holds g u .idle →
    wp C (local_storage.getProduct UPC) g (fun p g' => holds g' u (.copy p) ∧ p.is_set = true)
      (fun e g' => holds g' u .idle ∧ e ≠ .runtime_error)
  setItem : ∀ {g u p qty}, holds g u (.copy p) → u.Sound → p.is_set = true → okQty qty →
    wp C (u.cartStore (u.shopping_cart.set p qty)) g
      (fun _ g' => holds g' { u with shopping_cart := u.shopping_cart.set p qty } .idle) failed
  removeItem : ∀ {g u UPC}, holds g u .idle → u.Sound →
    wp C (u.cartStore (u.shopping_cart.remove UPC)) g
      (fun _ g' => holds g' { u with shopping_cart := u.shopping_cart.remove UPC } .idle) failed
  removeCopy : ∀ {g u p}, holds g u (.copy p) → u.Sound → p.is_set = true → okQty 0 →
    wp C (u.cartStore (u.shopping_cart.remove p.UPC)) g
      (fun _ g' => holds g' { u with shopping_cart := u.shopping_cart.remove p.UPC } (.copy p))
      failed
  emptyCart : ∀ {g u}, holds g u .idle → u.Sound →
    wp C (u.cartStore {}) g (fun _ g' => holds g' { u with shopping_cart := {} } .idle) failed
  buyCart : ∀ {g u}, holds g u .idle → u.Sound → u.shopping_cart.isEmpty = false →
    wp C uuid_generate g
      (fun id g' => holds g' u (.order (Transaction.new u.shopping_cart id))) failed
  setAddress : ∀ {g u t addr}, holds g u (.order t) → holds g u (.order (t.setShippingAddress addr))
  setPayment : ∀ {g u t cc}, holds g u (.order t) → holds g u (.order (t.setPaymentInfo cc))
  storeAddress : ∀ {g u a addr}, holds g u a → u.Sound → addr.Complete →
    wp C (local_storage.storeUser { u with shipping_address := addr }) g
      (fun _ g' => holds g' { u with shipping_address := addr } a) failed
  storePayment : ∀ {g u a cc}, holds g u a → u.Sound → cc.is_set = true →
    wp C (local_storage.storeUser { u with payment_info := cc }) g
      (fun _ g' => holds g' { u with payment_info := cc } a) failed
  startCharge : ∀ {g u t}, holds g u (.order t) → Proc.Sound ⟨u, .placeOrder t⟩ →
    wp C gmtime g
      (fun date g' => charging g' u (t.finalize date) t.shopping_cart.cart.toList) failed
  chargeItem : ∀ {g u t UPC p qty rest}, charging g u t ((UPC, p, qty) :: rest) →
    p.is_set = true → ¬ p.quantity < qty →
    wp C (local_storage.setQuantity p (p.quantity - qty)) g
      (fun p' g' => wp C (local_storage.storeProduct p') g' (fun _ g'' => charging g'' u t rest)
        failed) failed
  finishCharge : ∀ {g u t}, charging g u t [] →
    wp C (local_storage.storeTransaction t) g
      (fun _ g' => wp C (local_storage.storeUser { u with
          shopping_cart := {}
          transaction_history := u.transaction_history.addTransaction t }) g'
        (fun _ g'' => holds g'' { u with
          shopping_cart := {}
          transaction_history := u.transaction_history.addTransaction t } .idle) failed) failed

namespace SessionSpec

variable {C : Contract clientSig Exn G} (S : SessionSpec C) {g : G} {u : User}

/-- The task that is pending, or no session at all. -/
def At (g : G) (u : User) : Option Task → Prop
  | some task => S.holds g u task
  | none => S.rest g

structure Inv (g : G) (p : Proc) : Prop where
  sound : p.Sound
  task : S.At g p.logged_in p.loc.task

variable {S} in
theorem Inv.rest {p : Proc} (h : S.Inv g p) : S.rest g := by
  have htask := h.task
  cases hloc : p.loc.task with
  | none =>
    rw [hloc] at htask
    exact htask
  | some task =>
    rw [hloc] at htask
    exact S.rest_of_holds htask

variable {S} in
theorem Inv.holds {p : Proc} (h : S.Inv g p) (hloc : p.loc ≠ .exited) :
    ∃ task, S.holds g p.logged_in task := by
  obtain ⟨task, htask⟩ := task_of_ne hloc
  have hat := h.task
  rw [htask] at hat
  exact ⟨task, hat⟩

/-- A program that ends at a prompt where the invariant holds. -/
abbrev Keeps (m : ClientM Proc) (g : G) : Prop := wp C m g (fun p g' => S.Inv g' p) S.failed

theorem keeps_waitAt (loc : Loc) {task : Task} (ht : loc.task = some task)
    (h : S.holds g u task) (hp : Proc.Sound ⟨u, loc⟩) : S.Keeps (waitAt u loc) g := by
  have hat : ∀ g', S.holds g' u task → S.Inv g' ⟨u, loc⟩ := by
    intro g' h'
    refine ⟨hp, ?_⟩
    rw [ht]
    exact h'
  unfold Keeps waitAt
  cases loc.question with
  | none => exact hat g h
  | some question => exact wp_bind.mpr (wp_mono (S.ask h) (fun _ g' h' => hat g' h') fun _ _ => id)

theorem keeps_exit (h : S.holds g u .idle) (hu : u.Sound) : S.Keeps (exit u) g :=
  ⟨⟨hu, trivial⟩, S.rest_of_holds h⟩

theorem keeps_mainshell (h : S.holds g u .idle) (hu : u.Sound) : S.Keeps (mainshell u) g :=
  S.keeps_waitAt .mainshell rfl h ⟨hu, trivial⟩

theorem wp_listInventory (prodlist : List SKU) (h : S.holds g u .idle) :
    wp C (listInventory prodlist) g (fun _ g' => S.holds g' u .idle) S.failed := by
  induction prodlist generalizing g with
  | nil => exact h
  | cons upc prodlist ih =>
    refine wp_bind.mpr (wp_mono (S.getProduct h) ?_ ?_)
    · intro p g' h'
      exact ih (S.forget h'.1)
    · intro e g' h'
      exact S.failed_of_holds h'.1 h'.2

theorem keeps_mainbby (h : S.holds g u .idle) (hu : u.Sound) : S.Keeps (mainbby u) g := by
  refine wp_bind.mpr (wp_mono (S.getProducts h) ?_ fun _ _ => id)
  intro prodlist g' h'
  refine wp_bind.mpr (wp_mono (S.wp_listInventory prodlist h') ?_ fun _ _ => id)
  intro _ g'' h''
  exact S.keeps_mainshell h'' hu

theorem keeps_cartview (h : S.holds g u .idle) (hu : u.Sound) : S.Keeps (cartview u) g :=
  S.keeps_waitAt (.cartshell _) rfl h ⟨hu, rfl⟩

theorem keeps_cartshell {invalid_qty : Bool} (h : S.holds g u .idle) (hu : u.Sound)
    (hflag : invalid_qty = u.shopping_cart.invalidQty) : S.Keeps (cartshell u invalid_qty) g :=
  S.keeps_waitAt (.cartshell _) rfl h ⟨hu, hflag⟩

theorem keeps_accshell (h : S.holds g u .idle) (hu : u.Sound) : S.Keeps (accshell u) g :=
  S.keeps_waitAt .accshell rfl h ⟨hu, trivial⟩

theorem keeps_tshell (h : S.holds g u .idle) (hu : u.Sound) : S.Keeps (tshell u) g :=
  S.keeps_waitAt .tshell rfl h ⟨hu, trivial⟩

/-- What a command leaves that has changed the user. -/
abbrev Leaves (m : ClientM User) (g : G) : Prop :=
  wp C m g (fun u g' => S.holds g' u .idle ∧ u.Sound) S.failed

theorem leaves_deleteUPC (h : S.holds g u .idle) (hu : u.Sound) (UPC : SKU) :
    S.Leaves (onCart u fun store cart => cart.deleteUPC store UPC) g := by
  refine wp_bind.mpr (wp_bind.mpr (wp_mono (S.removeItem h hu) ?_ fun _ _ => id))
  intro _ g' h'
  exact ⟨h', hu.address, hu.cart.remove UPC⟩

theorem leaves_emptyCart (h : S.holds g u .idle) (hu : u.Sound) :
    S.Leaves (onCart u fun store cart => cart.emptyCart store) g := by
  refine wp_bind.mpr (wp_bind.mpr (wp_mono (S.emptyCart h hu) ?_ fun _ _ => id))
  intro _ g' h'
  exact ⟨h', hu.address, ShoppingCart.sound_empty⟩

theorem leaves_set {p : Product} {qty : UInt32} (h : S.holds g u (.copy p)) (hu : u.Sound)
    (hp : p.is_set = true) (hqty : S.okQty qty) :
    wp C (u.cartStore (u.shopping_cart.set p qty)) g
      (fun _ g' => S.holds g' { u with shopping_cart := u.shopping_cart.set p qty } .idle ∧
        User.Sound { u with shopping_cart := u.shopping_cart.set p qty }) S.failed := by
  refine wp_mono (S.setItem h hu hp hqty) ?_ fun _ _ => id
  intro _ g' h'
  exact ⟨h', hu.address, hu.cart.set hp qty⟩

theorem leaves_addProduct {p : Product} (h : S.holds g u (.copy p)) (hu : u.Sound)
    (hp : p.is_set = true) (hqty : S.okQty 1) :
    S.Leaves (onCart u fun store cart => cart.addProduct store p) g := by
  unfold Leaves onCart
  beta_reduce
  cases hc : u.shopping_cart.checkCart p.UPC with
  | true =>
    rw [ShoppingCart.addProduct_old hc]
    exact ⟨S.forget h, hu⟩
  | false =>
    rw [ShoppingCart.addProduct_new hc]
    exact wp_bind.mpr (wp_bind.mpr (S.leaves_set h hu hp hqty))

theorem leaves_addProductQty {p : Product} {qty : UInt32} (h : S.holds g u (.copy p))
    (hu : u.Sound) (hp : p.is_set = true) (hqty : S.okQty qty) :
    S.Leaves (onCart u fun store cart => cart.addProductQty store p qty) g := by
  unfold Leaves onCart
  beta_reduce
  by_cases hz : qty = 0
  · subst hz
    rw [ShoppingCart.addProductQty_zero]
    refine wp_bind.mpr (wp_bind.mpr (wp_mono (S.removeCopy h hu hp hqty) ?_ fun _ _ => id))
    intro _ g' h'
    have hu' : User.Sound { u with shopping_cart := u.shopping_cart.remove p.UPC } :=
      ⟨hu.address, hu.cart.remove p.UPC⟩
    rw [← ShoppingCart.set_remove]
    exact wp_bind.mpr (S.leaves_set h' hu' hp hqty)
  · rw [ShoppingCart.addProductQty_pos hz]
    exact wp_bind.mpr (wp_bind.mpr (S.leaves_set h hu hp hqty))

theorem leaves_changeUPCQuantity {qty : UInt32} (h : S.holds g u .idle) (hu : u.Sound)
    (hqty : S.okQty qty) (UPC : SKU) :
    S.Leaves (onCart u fun store cart => cart.changeUPCQuantity store
      (fun UPC => local_storage.getProduct UPC) UPC qty) g := by
  refine wp_bind.mpr (wp_bind.mpr (wp_mono (S.getProduct h) ?_ ?_))
  · intro p g' h'
    exact wp_bind.mp (S.leaves_addProductQty h'.1 hu h'.2 hqty)
  · intro e g' h'
    exact S.failed_of_holds h'.1 h'.2

theorem keeps_of_leaves {m : ClientM User} {k : User → ClientM Proc} (hm : S.Leaves m g)
    (hk : ∀ g' u', S.holds g' u' .idle → u'.Sound → S.Keeps (k u') g') :
    S.Keeps (m >>= k) g :=
  wp_bind.mpr (wp_mono hm (fun u' g' h' => hk g' u' h'.1 h'.2) fun _ _ => id)

/-- The quantity that the rest of an `addtocart` line passes to the cart. -/
def okRest : List Text → Prop
  | [] => S.okQty 1
  | qty_s :: _ => ∀ qty, stoui qty_s = .ok qty → S.okQty qty

/-- What a command line passes to the cart, if the product is found and the item
is in the cart. -/
def okLine (g : G) (p : Proc) (line : Text) : Prop :=
  match p.loc, split line ' ' with
  | .mainshell, cmd :: upc_s :: rest => cmd = "addtocart".toList →
    ∀ UPC prod g', stoul upc_s = .ok UPC → C.post g (.getProduct UPC) (.ok prod) g' → S.okRest rest
  | .cartshell _, cmd :: upc_s :: qty_s :: _ => cmd = "changeqty".toList →
    ∀ UPC qty, stoul upc_s = .ok UPC → p.logged_in.shopping_cart.checkCart UPC = true →
      stoui qty_s = .ok qty → S.okQty qty
  | _, _ => True

theorem okLine_of_all (h : ∀ qty, S.okQty qty) (g : G) (p : Proc) (line : Text) :
    S.okLine g p line := by
  have hrest : ∀ rest, S.okRest rest := by
    intro rest
    cases rest with
    | nil => exact h 1
    | cons qty_s rest => exact fun qty _ => h qty
  unfold okLine
  split
  · exact fun _ _ _ _ _ _ => hrest _
  · exact fun _ _ qty _ _ _ => h qty
  · trivial

/-- A product that is read, and what is known of the line when it is. -/
theorem wp_getProduct {UPC : SKU} {P : Prop} (h : S.holds g u .idle)
    (hread : ∀ prod g', C.post g (.getProduct UPC) (.ok prod) g' → P) :
    wp C (local_storage.getProduct UPC) g
      (fun p g' => (S.holds g' u (.copy p) ∧ p.is_set = true) ∧ P)
      (fun e g' => S.holds g' u .idle ∧ e ≠ .runtime_error) := by
  obtain ⟨hpre, hok, herror⟩ := wp_perform.mp (S.getProduct h)
  exact wp_perform.mpr ⟨hpre, fun prod g' hpost => ⟨hok prod g' hpost, hread prod g' hpost⟩, herror⟩

theorem keeps_addtocart {upc_s : Text} {rest : List Text} (h : S.holds g u .idle) (hu : u.Sound)
    (hqty : ∀ UPC prod g', stoul upc_s = .ok UPC → C.post g (.getProduct UPC) (.ok prod) g' →
      S.okRest rest) :
    S.Keeps (addtocart u (upc_s :: rest)) g := by
  have hmain : ∀ g' u', S.holds g' u' .idle → u'.Sound → S.Keeps (mainshell u') g' :=
    fun g' u' => S.keeps_mainshell
  have herror : ∀ e g' (m : ClientM Proc), S.holds g' u .idle ∧ e ≠ .runtime_error →
      m = (if e = .system_error ∨ e = .invalid_argument then mainbby u else .fail e) →
        S.Keeps m g' := by
    intro e g' m h' hm
    subst hm
    split
    · exact S.keeps_mainbby h'.1 hu
    · exact S.failed_of_holds h'.1 h'.2
  refine wp_bind.mpr (wp_attempt.mpr (wp_bind.mpr (wp_ofExcept.mpr ⟨?_, ?_⟩)))
  · intro UPC hUPC
    refine wp_mono (S.wp_getProduct h fun prod g' => hqty UPC prod g' hUPC) ?_ ?_
    · intro prod g' ⟨⟨h', hp⟩, hqty⟩
      cases rest with
      | nil => exact S.keeps_of_leaves (S.leaves_addProduct h' hu hp hqty) hmain
      | cons qty_s rest =>
        dsimp only
        split
        · exact S.keeps_mainshell (S.forget h') hu
        · rename_i e _ he
          exact S.failed_of_holds h' (stoui_error he)
        · rename_i qty hq
          have hok := hqty qty hq
          by_cases hone : qty = 1
          · subst hone
            exact S.keeps_of_leaves (S.leaves_addProduct h' hu hp hok) hmain
          · simp only [if_neg hone]
            exact S.keeps_of_leaves (S.leaves_addProductQty h' hu hp hok) hmain
    · intro e g' h'
      exact herror e g' _ h' (by cases e <;> rfl)
  · intro e he
    exact herror e g _ ⟨h, stoul_error he⟩ (by cases e <;> rfl)

theorem keeps_remove {invalid_qty : Bool} {args : List Text} (h : S.holds g u .idle)
    (hu : u.Sound) (hflag : invalid_qty = u.shopping_cart.invalidQty) :
    S.Keeps (remove u invalid_qty args) g := by
  cases args with
  | nil => exact S.keeps_cartshell h hu hflag
  | cons upc_s rest =>
    rw [remove]
    split
    · exact S.keeps_cartshell h hu hflag
    split
    · exact S.keeps_cartview h hu
    · rename_i e _ he
      exact S.failed_of_holds h (stoul_error he)
    split
    · exact S.keeps_cartview h hu
    · exact S.keeps_of_leaves (S.leaves_deleteUPC h hu _) fun g' u' => S.keeps_cartview

theorem keeps_changeqty {invalid_qty : Bool} {upc_s qty_s : Text} {rest : List Text}
    (h : S.holds g u .idle) (hu : u.Sound) (hflag : invalid_qty = u.shopping_cart.invalidQty)
    (hqty : ∀ UPC qty, stoul upc_s = .ok UPC → u.shopping_cart.checkCart UPC = true →
      stoui qty_s = .ok qty → S.okQty qty) :
    S.Keeps (changeqty u invalid_qty (upc_s :: qty_s :: rest)) g := by
  rw [changeqty]
  split
  · exact S.keeps_cartshell h hu hflag
  split
  · exact S.keeps_cartview h hu
  · rename_i e _ he
    exact S.failed_of_holds h (stoul_error he)
  split
  · exact S.keeps_cartshell h hu hflag
  · rename_i e _ he
    exact S.failed_of_holds h (stoui_error he)
  rename_i sel_upc hUPC _ qty hq
  cases hcheck : u.shopping_cart.checkCart sel_upc with
  | false => exact S.keeps_cartview h hu
  | true =>
    have hok := hqty sel_upc qty hUPC hcheck hq
    exact S.keeps_of_leaves (S.leaves_changeUPCQuantity h hu hok _) fun g' u' => S.keeps_cartview

theorem keeps_clear {invalid_qty : Bool} (h : S.holds g u .idle) (hu : u.Sound)
    (hflag : invalid_qty = u.shopping_cart.invalidQty) : S.Keeps (clear u invalid_qty) g := by
  unfold clear
  split
  · exact S.keeps_cartshell h hu hflag
  · exact S.keeps_of_leaves (S.leaves_emptyCart h hu) fun g' u' => S.keeps_mainbby

section Checkout

variable {order : Transaction}

theorem keeps_placeOrder (h : S.holds g u (.order order)) (hu : u.Sound) (hd : Draft u order)
    (haddr : order.shipping_address.is_set = true) (hpay : order.payment_info.is_set = true) :
    S.Keeps (placeOrder u order) g :=
  S.keeps_waitAt (.placeOrder order) rfl h ⟨hu, hd, haddr, hpay⟩

theorem keeps_orderNewPay (h : S.holds g u (.order order)) (hu : u.Sound) (hd : Draft u order)
    (haddr : order.shipping_address.is_set = true) : S.Keeps (orderNewPay u order) g := by
  unfold orderNewPay
  split
  · rename_i hpay
    exact S.keeps_placeOrder h hu hd haddr hpay
  · rename_i hpay
    exact S.keeps_waitAt (.orderPay order .num) rfl h ⟨hu, hd, haddr, by simpa using hpay, trivial⟩

theorem keeps_ordercc (h : S.holds g u (.order order)) (hu : u.Sound) (hd : Draft u order)
    (haddr : order.shipping_address.is_set = true) : S.Keeps (ordercc u order) g := by
  unfold ordercc
  split
  · rename_i hpay
    exact S.keeps_waitAt (.usePayment order) rfl h ⟨hu, hd, haddr, hpay⟩
  · exact S.keeps_orderNewPay h hu hd haddr

theorem keeps_orderNewAddr (h : S.holds g u (.order order)) (hu : u.Sound) (hd : Draft u order) :
    S.Keeps (orderNewAddr u order (ordercc u order)) g := by
  unfold orderNewAddr
  split
  · rename_i haddr
    exact S.keeps_ordercc h hu hd haddr
  · rename_i haddr
    exact S.keeps_waitAt (.orderAddr order .name1) rfl h ⟨hu, hd, by simpa using haddr, trivial⟩

theorem keeps_orderaddr (h : S.holds g u (.order order)) (hu : u.Sound) (hd : Draft u order) :
    S.Keeps (orderaddr u order) g := by
  unfold orderaddr
  split
  · rename_i haddr
    exact S.keeps_waitAt (.useAddress order) rfl h ⟨hu, hd, haddr⟩
  · exact S.keeps_orderNewAddr h hu hd

theorem keeps_checkout {invalid_qty : Bool} (h : S.holds g u .idle) (hu : u.Sound)
    (hflag : invalid_qty = u.shopping_cart.invalidQty) : S.Keeps (checkout u invalid_qty) g := by
  unfold checkout
  split
  · exact S.keeps_cartshell h hu hflag
  rename_i hempty
  split
  · exact S.keeps_cartview h hu
  rename_i hvalid
  have hvalid' : u.shopping_cart.invalidQty = false := by simpa [hflag] using hvalid
  have hempty' : u.shopping_cart.isEmpty = false := by simpa using hempty
  rw [ShoppingCart.buyCart, if_neg (by simp [hvalid'])]
  refine wp_bind.mpr (wp_bind.mpr (wp_mono (S.buyCart h hu hempty') ?_ fun _ _ => id))
  intro id g' h'
  exact S.keeps_orderaddr h' hu ⟨rfl, hvalid', hempty', nofun⟩

theorem keeps_useAddress {cmd : Text} (h : S.holds g u (.order order)) (hu : u.Sound)
    (hd : Draft u order) : S.Keeps (useAddress u order cmd) g := by
  unfold useAddress
  cases saysNo cmd with
  | true => exact S.keeps_orderNewAddr h hu hd
  | false =>
    exact S.keeps_orderNewAddr (S.setAddress h) hu ⟨hd.cart, hd.valid, hd.nonempty, hu.address⟩

theorem keeps_orderAddr {prompt : AddrPrompt} {cmd : Text} (h : S.holds g u (.order order))
    (hu : u.Sound) (hd : Draft u order) (hset : order.shipping_address.is_set = false)
    (hp : prompt.Sound) : S.Keeps (orderAddr u order prompt cmd) g := by
  refine wp_bind.mpr (wp_ofExcept.mpr ⟨?_, ?_⟩)
  · intro a ha
    have hall := orderAddrStep_sound hp ha
    cases a with
    | next prompt => exact S.keeps_waitAt (.orderAddr order prompt) rfl h ⟨hu, hd, hset, hall⟩
    | reject => exact S.keeps_orderaddr h hu hd
    | decline => exact S.keeps_orderaddr h hu hd
    | accept addr =>
      have hwhole : addr.Whole := fun _ => hall.2
      refine wp_bind.mpr (wp_mono (S.ask h) ?_ fun _ _ => id)
      intro _ g' h'
      cases saysNo cmd with
      | true =>
        exact S.keeps_ordercc (S.setAddress h') hu ⟨hd.cart, hd.valid, hd.nonempty, hwhole⟩ hall.1
      | false =>
        refine wp_bind.mpr (wp_bind.mpr (wp_mono (S.storeAddress h' hu hall) ?_ fun _ _ => id))
        intro _ g'' h''
        exact S.keeps_ordercc (S.setAddress h'') ⟨hwhole, hu.cart⟩
          ⟨hd.cart, hd.valid, hd.nonempty, hwhole⟩ hall.1
  · intro e he
    exact S.failed_of_holds h (orderAddrStep_error he)

theorem keeps_usePayment {cmd : Text} (h : S.holds g u (.order order)) (hu : u.Sound)
    (hd : Draft u order) (haddr : order.shipping_address.is_set = true) :
    S.Keeps (usePayment u order cmd) g := by
  unfold usePayment
  cases saysNo cmd with
  | true => exact S.keeps_orderNewPay h hu hd haddr
  | false => exact S.keeps_orderNewPay (S.setPayment h) hu hd.setPayment haddr

theorem keeps_orderPay {prompt : PayPrompt} {cmd : Text} (h : S.holds g u (.order order))
    (hu : u.Sound) (hd : Draft u order) (haddr : order.shipping_address.is_set = true)
    (hset : order.payment_info.is_set = false) (hp : prompt.Sound) :
    S.Keeps (orderPay u order prompt cmd) g := by
  refine wp_bind.mpr (wp_ofExcept.mpr ⟨?_, ?_⟩)
  · intro a ha
    have hall := orderPayStep_sound hp ha
    cases a with
    | next prompt => exact S.keeps_waitAt (.orderPay order prompt) rfl h ⟨hu, hd, haddr, hset, hall⟩
    | reject => exact S.keeps_ordercc h hu hd haddr
    | decline => exact S.keeps_orderaddr h hu hd
    | accept cc =>
      refine wp_bind.mpr (wp_mono (S.ask h) ?_ fun _ _ => id)
      intro _ g' h'
      cases saysNo cmd with
      | true => exact S.keeps_placeOrder (S.setPayment h') hu hd.setPayment haddr hall
      | false =>
        refine wp_bind.mpr (wp_bind.mpr (wp_mono (S.storePayment h' hu hall) ?_ fun _ _ => id))
        intro _ g'' h''
        exact S.keeps_placeOrder (S.setPayment h'') ⟨hu.address, hu.cart⟩
          ⟨hd.cart, hd.valid, hd.nonempty, hd.address⟩ haddr hall
  · intro e he
    exact S.failed_of_holds h (orderPayStep_error he)

/-- The loop over the items: what is left to charge shrinks by one item. -/
theorem wp_chargeItems {t : Transaction} (items : List (SKU × Product × UInt32))
    (h : S.charging g u t items) (hset : ∀ e ∈ items, e.2.1.is_set = true)
    (hqty : ∀ e ∈ items, ¬ e.2.1.quantity < e.2.2) :
    wp C (Transaction.chargeItems items) g (fun _ g' => S.charging g' u t []) S.failed := by
  induction items generalizing g with
  | nil => exact h
  | cons item rest ih =>
    obtain ⟨UPC, p, qty⟩ := item
    have hp : p.is_set = true := hset (UPC, p, qty) (by simp)
    have hq : ¬ p.quantity < qty := hqty (UPC, p, qty) (by simp)
    rw [Transaction.chargeItems, if_neg hq]
    refine wp_bind.mpr (wp_mono (S.chargeItem h hp hq) ?_ fun _ _ => id)
    intro p' g' h'
    refine wp_bind.mpr (wp_mono h' ?_ fun _ _ => id)
    intro _ g'' h''
    exact ih h'' (fun e he => hset e (by simp [he])) fun e he => hqty e (by simp [he])

theorem leaves_chargeCreditCard (h : S.holds g u (.order order))
    (hp : Proc.Sound ⟨u, .placeOrder order⟩) : S.Leaves (order.chargeCreditCard u) g := by
  have hcart : ∀ date, (order.finalize date).shopping_cart = u.shopping_cart :=
    fun _ => hp.loc.1.cart
  have hvalid := ShoppingCart.invalidQty_eq_false.mp hp.loc.1.valid
  refine wp_bind.mpr (wp_mono (S.startCharge h hp) ?_ fun _ _ => id)
  intro date g' h'
  refine wp_bind.mpr (wp_mono (S.wp_chargeItems _ h' ?_ ?_) ?_ fun _ _ => id)
  · intro e he
    rw [hcart, ShoppingCart.mem_cart] at he
    exact (hp.user.cart _ _ _ he).2
  · intro e he
    rw [hcart] at he
    exact hvalid e he
  · intro _ g'' h''
    refine wp_bind.mpr (wp_mono (S.finishCharge h'') ?_ fun _ _ => id)
    intro _ g3 h3
    refine wp_bind.mpr (wp_mono h3 ?_ fun _ _ => id)
    intro _ g4 h4
    exact ⟨h4, hp.user.address, ShoppingCart.sound_empty⟩

theorem keeps_confirmOrder {cmd : Text} (h : S.holds g u (.order order))
    (hp : Proc.Sound ⟨u, .placeOrder order⟩) : S.Keeps (confirmOrder u order cmd) g := by
  unfold confirmOrder
  split
  · exact S.keeps_of_leaves (S.leaves_chargeCreditCard h hp) fun g' u' => S.keeps_mainbby
  · exact S.keeps_cartview (S.forget h) hp.user

end Checkout

theorem keeps_accountAddr {prompt : AddrPrompt} {cmd : Text} (h : S.holds g u .idle)
    (hu : u.Sound) (hp : prompt.Sound) : S.Keeps (accountAddr u prompt cmd) g := by
  unfold accountAddr
  rw [accountAddrStep_eq]
  refine wp_bind.mpr (wp_ofExcept.mpr ⟨?_, ?_⟩)
  · intro a ha
    have hall := orderAddrStep_sound hp ha
    cases a with
    | next prompt => exact S.keeps_waitAt (.accountAddr prompt) rfl h ⟨hu, hall⟩
    | reject => exact S.keeps_accshell h hu
    | decline => exact S.keeps_accshell h hu
    | accept addr =>
      refine wp_bind.mpr (wp_bind.mpr (wp_mono (S.storeAddress h hu hall) ?_ fun _ _ => id))
      intro _ g' h'
      exact S.keeps_accshell h' ⟨fun _ => hall.2, hu.cart⟩
  · intro e he
    exact S.failed_of_holds h (orderAddrStep_error he)

theorem keeps_accountPay {prompt : PayPrompt} {cmd : Text} (h : S.holds g u .idle)
    (hu : u.Sound) (hp : prompt.Sound) : S.Keeps (accountPay u prompt cmd) g := by
  unfold accountPay
  rw [accountPayStep_eq]
  refine wp_bind.mpr (wp_ofExcept.mpr ⟨?_, ?_⟩)
  · intro a ha
    have hall := orderPayStep_sound hp ha
    cases a with
    | next prompt => exact S.keeps_waitAt (.accountPay prompt) rfl h ⟨hu, hall⟩
    | reject => exact S.keeps_accshell h hu
    | decline => exact S.keeps_accshell h hu
    | accept cc =>
      refine wp_bind.mpr (wp_bind.mpr (wp_mono (S.storePayment h hu hall) ?_ fun _ _ => id))
      intro _ g' h'
      exact S.keeps_accshell h' ⟨hu.address, hu.cart⟩
  · intro e he
    exact S.failed_of_holds h (orderPayStep_error he)

theorem keeps_orders {args : List Text} (h : S.holds g u .idle) (hu : u.Sound) :
    S.Keeps (orders u args) g := by
  cases args with
  | nil => exact S.keeps_tshell h hu
  | cons cmd_part rest =>
    rw [orders]
    split
    · exact S.keeps_exit h hu
    split
    · exact S.keeps_accshell h hu
    split
    · exact S.keeps_tshell h hu
    · rename_i e _ he
      exact S.failed_of_holds h (stoui_error he)
    split
    · exact S.keeps_tshell h hu
    · refine wp_bind.mpr (wp_mono (S.showOrder h) ?_ fun _ _ => id)
      intro _ g' h'
      exact S.keeps_tshell h' hu

theorem keeps_mainCommand {line : Text} (h : S.holds g u .idle) (hu : u.Sound)
    (hok : S.okLine g ⟨u, .mainshell⟩ line) : S.Keeps (mainCommand u (split line ' ')) g := by
  unfold okLine at hok
  cases hsplit : split line ' ' with
  | nil => exact S.keeps_mainshell h hu
  | cons cmd args =>
    rw [mainCommand]
    split
    · exact S.keeps_exit h hu
    split
    · rename_i hcmd
      cases args with
      | nil => exact S.keeps_mainshell h hu
      | cons upc_s rest =>
        rw [hsplit] at hok
        exact S.keeps_addtocart h hu (hok hcmd)
    split
    · exact S.keeps_cartview h hu
    split
    · exact S.keeps_accshell h hu
    · exact S.keeps_mainshell h hu

theorem keeps_cartCommand {invalid_qty : Bool} {line : Text} (h : S.holds g u .idle)
    (hu : u.Sound) (hflag : invalid_qty = u.shopping_cart.invalidQty)
    (hok : S.okLine g ⟨u, .cartshell invalid_qty⟩ line) :
    S.Keeps (cartCommand u invalid_qty (split line ' ')) g := by
  unfold okLine at hok
  cases hsplit : split line ' ' with
  | nil => exact S.keeps_cartshell h hu hflag
  | cons cmd args =>
    rw [cartCommand]
    split
    · exact S.keeps_exit h hu
    split
    · exact S.keeps_mainbby h hu
    split
    · exact S.keeps_remove h hu hflag
    split
    · rename_i hcmd
      match args with
      | [] => exact S.keeps_cartshell h hu hflag
      | [upc_s] => exact S.keeps_cartshell h hu hflag
      | upc_s :: qty_s :: rest =>
        rw [hsplit] at hok
        exact S.keeps_changeqty h hu hflag (hok hcmd)
    split
    · exact S.keeps_clear h hu hflag
    split
    · exact S.keeps_checkout h hu hflag
    · exact S.keeps_cartshell h hu hflag

theorem keeps_accountCommand {args : List Text} (h : S.holds g u .idle) (hu : u.Sound) :
    S.Keeps (accountCommand u args) g := by
  cases args with
  | nil => exact S.keeps_accshell h hu
  | cons cmd rest =>
    rw [accountCommand]
    split
    · exact S.keeps_exit h hu
    split
    · exact S.keeps_mainbby h hu
    split
    · exact S.keeps_waitAt (.accountAddr .name1) rfl h ⟨hu, trivial⟩
    split
    · exact S.keeps_waitAt (.accountPay .num) rfl h ⟨hu, trivial⟩
    split
    · split
      · exact S.keeps_accshell h hu
      · exact S.keeps_tshell h hu
    · exact S.keeps_accshell h hu

/-- One line keeps the invariant. -/
theorem keeps_step {p : Proc} {line : Text} (h : S.Inv g p) (hok : S.okLine g p line) :
    S.Keeps (p.step line) g := by
  obtain ⟨u, loc⟩ := p
  obtain ⟨⟨hu, hloc⟩, htask⟩ := h
  cases loc with
  | mainshell => exact S.keeps_mainCommand htask hu hok
  | cartshell invalid_qty => exact S.keeps_cartCommand htask hu hloc hok
  | useAddress order => exact S.keeps_useAddress htask hu hloc.1
  | orderAddr order prompt => exact S.keeps_orderAddr htask hu hloc.1 hloc.2.1 hloc.2.2
  | usePayment order => exact S.keeps_usePayment htask hu hloc.1 hloc.2.1
  | orderPay order prompt =>
    exact S.keeps_orderPay htask hu hloc.1 hloc.2.1 hloc.2.2.1 hloc.2.2.2
  | placeOrder order => exact S.keeps_confirmOrder htask ⟨hu, hloc⟩
  | accshell => exact S.keeps_accountCommand htask hu
  | accountAddr prompt => exact S.keeps_accountAddr htask hu hloc
  | accountPay prompt => exact S.keeps_accountPay htask hu hloc
  | tshell => exact S.keeps_orders htask hu
  | exited => exact ⟨⟨hu, hloc⟩, htask⟩

/-- Any lines keep the invariant, and every prompt on the way is sound. -/
theorem keeps_play {p : Proc} (lines : List Text) (h : S.Inv g p) (hok : ∀ qty, S.okQty qty) :
    wp C (p.play lines) g (fun r g' => S.Inv g' r.2 ∧ ∀ e ∈ r.1, e.1.Sound) S.failed := by
  induction lines generalizing p g with
  | nil => exact ⟨h, by simp⟩
  | cons line lines ih =>
    refine wp_bind.mpr (wp_mono (S.keeps_step h (S.okLine_of_all hok _ _ _)) ?_ fun _ _ => id)
    intro next g' h'
    refine wp_bind.mpr (wp_mono (ih h') ?_ fun _ _ => id)
    intro r g'' ⟨hlast, htrail⟩
    refine ⟨hlast, ?_⟩
    intro e he
    rcases List.mem_cons.mp he with rfl | he
    · exact h.sound
    · exact htrail e he

theorem proc_sound_default : ({} : Proc).Sound :=
  ⟨⟨nofun, ShoppingCart.sound_empty⟩, trivial⟩

/-- What the login has to establish. -/
abbrev Login (username : Text) (g : G) : Prop :=
  wp C (local_storage.getUser username) g (fun u g' => S.holds g' u .idle ∧ u.Sound) S.failed

theorem keeps_login {username : Text} (h : S.Login username g) : S.Keeps (login username) g := by
  refine wp_bind.mpr (wp_attempt.mpr (wp_mono h ?_ ?_))
  · intro u g' h'
    exact S.keeps_mainbby h'.1 h'.2
  · intro e g' h'
    cases e with
    | system_error => exact ⟨proc_sound_default, S.rest_of_refused h'⟩
    | invalid_argument | out_of_range | runtime_error | undefined => exact h'

theorem keeps_session {username : Text} (lines : List Text) (h : S.Login username g)
    (hok : ∀ qty, S.okQty qty) :
    wp C (session username lines) g (fun r g' => S.Inv g' r.2 ∧ ∀ e ∈ r.1, e.1.Sound) S.failed := by
  refine wp_bind.mpr (wp_mono (S.keeps_login h) ?_ fun _ _ => id)
  intro p g' h'
  exact S.keeps_play lines h' hok

end SessionSpec

end OnlineShoppingCenter
