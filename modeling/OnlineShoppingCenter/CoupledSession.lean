import OnlineShoppingCenter.CoupledCarts
import OnlineShoppingCenter.CoupledStorage

/-!
# What a session makes of what it reads

A session that reads other prices, names or texts types the same questions and
stores the same numbers, as long as the numbers on hand that it reads are the
same.
-/
namespace OnlineShoppingCenter

open TextCodec ColumnFamilies EffectProgram StorageSystem

variable [Platform]

/-- Calls of a session that look the same. -/
inductive SameRequest : Coupling clientSig where
  | storeUser (u u' : User) : SameRequest (.storeUser u) (.storeUser u') fun _ _ => True
  | getProducts : SameRequest .getProducts .getProducts Eq
  | getProduct (UPC : SKU) : SameRequest (.getProduct UPC) (.getProduct UPC)
      fun (p p' : Product) => p.numbers = p'.numbers
  | setQuantity {p p' : Product} (n : UInt32) : p.numbers = p'.numbers →
      SameRequest (.setQuantity p n) (.setQuantity p' n)
        fun (q q' : Product) => q.numbers = q'.numbers
  | storeProduct {p p' : Product} : p.numbers = p'.numbers →
      SameRequest (.storeProduct p) (.storeProduct p') fun _ _ => True
  | storeTransaction {t t' : Transaction} : t.Alike t' →
      SameRequest (.storeTransaction t) (.storeTransaction t') fun _ _ => True
  | uuid_generate : SameRequest .uuid_generate .uuid_generate Eq
  | gmtime : SameRequest .gmtime .gmtime Eq
  | ask (question : Question) : SameRequest (.ask question) (.ask question) fun _ _ => True
  | showOrder (t t' : Transaction) : SameRequest (.showOrder t) (.showOrder t') fun _ _ => True

/-- Calls of a session that look the same are carried out by database calls that do. -/
theorem coupled_method {op op' : Call} {R : op.Ret → op'.Ret → Prop} (h : SameRequest op op' R) :
    Coupled SameCall R op.method op'.method := by
  cases h with
  | storeUser u u' => exact coupled_storeUser u u'
  | getProducts => exact coupled_getProducts
  | getProduct UPC => exact coupled_getProduct UPC
  | setQuantity n hp => exact coupled_setQuantity hp n
  | storeProduct hp => exact coupled_storeProduct hp
  | storeTransaction ht => exact coupled_storeTransaction ht
  | uuid_generate => exact coupled_query .uuid_generate
  | gmtime => exact coupled_query .gmtime
  | ask question => exact .ret trivial
  | showOrder t t' => exact .ret trivial

theorem coupled_request {op op' : Call} {R : op.Ret → op'.Ret → Prop} (h : SameRequest op op' R) :
    Coupled SameRequest R (request op) (request op') := Coupled.perform h

/-- Prompts that look the same: the same one, with orders that look the same. -/
inductive Loc.Alike : Loc → Loc → Prop where
  | mainshell : Loc.Alike .mainshell .mainshell
  | cartshell (invalid_qty : Bool) : Loc.Alike (.cartshell invalid_qty) (.cartshell invalid_qty)
  | useAddress {t t' : Transaction} : t.Alike t' → Loc.Alike (.useAddress t) (.useAddress t')
  | orderAddr {t t' : Transaction} (prompt : AddrPrompt) : t.Alike t' →
      Loc.Alike (.orderAddr t prompt) (.orderAddr t' prompt)
  | usePayment {t t' : Transaction} : t.Alike t' → Loc.Alike (.usePayment t) (.usePayment t')
  | orderPay {t t' : Transaction} (prompt : PayPrompt) : t.Alike t' →
      Loc.Alike (.orderPay t prompt) (.orderPay t' prompt)
  | placeOrder {t t' : Transaction} : t.Alike t' → Loc.Alike (.placeOrder t) (.placeOrder t')
  | accshell : Loc.Alike .accshell .accshell
  | accountAddr (prompt : AddrPrompt) : Loc.Alike (.accountAddr prompt) (.accountAddr prompt)
  | accountPay (prompt : PayPrompt) : Loc.Alike (.accountPay prompt) (.accountPay prompt)
  | tshell : Loc.Alike .tshell .tshell
  | exited : Loc.Alike .exited .exited

/-- Sessions that look the same. -/
structure Proc.Alike (p p' : Proc) : Prop where
  logged_in : p.logged_in.Alike p'.logged_in
  loc : p.loc.Alike p'.loc

/-- Programs that lead to prompts that look the same. -/
abbrev Steps (m m' : ClientM Proc) : Prop := Coupled SameRequest Proc.Alike m m'

section Prompts

variable {u u' : User} {t t' : Transaction} {loc loc' : Loc}

/-- The question is that of the prompt. -/
theorem steps_waitAt (hu : u.Alike u') (hloc : loc.Alike loc') :
    Steps (waitAt u loc) (waitAt u' loc') := by
  have hquestion : loc.question = loc'.question := by cases hloc <;> rfl
  unfold waitAt
  rw [hquestion]
  cases loc'.question with
  | none => exact .ret ⟨hu, hloc⟩
  | some question => exact (coupled_request (.ask question)).bind fun _ _ _ => .ret ⟨hu, hloc⟩

/-- The same products are read one after the other. -/
theorem coupled_listInventory (prodlist : List SKU) :
    Coupled SameRequest (fun _ _ => True) (listInventory prodlist) (listInventory prodlist) := by
  induction prodlist with
  | nil => exact .ret trivial
  | cons UPC rest ih => exact (coupled_request (.getProduct UPC)).bind fun _ _ _ => ih

theorem steps_mainshell (hu : u.Alike u') : Steps (mainshell u) (mainshell u') :=
  steps_waitAt hu .mainshell

theorem steps_mainbby (hu : u.Alike u') : Steps (mainbby u) (mainbby u') := by
  apply (coupled_request .getProducts).bind
  rintro prodlist _ rfl
  exact (coupled_listInventory prodlist).bind fun _ _ _ => steps_mainshell hu

theorem steps_cartshell (hu : u.Alike u') (invalid_qty : Bool) :
    Steps (cartshell u invalid_qty) (cartshell u' invalid_qty) := steps_waitAt hu (.cartshell _)

/-- The flag depends on numbers alone. -/
theorem steps_cartview (hu : u.Alike u') : Steps (cartview u) (cartview u') := by
  unfold cartview
  rw [ShoppingCart.invalidQty_of_numbers hu.shopping_cart]
  exact steps_cartshell hu _

theorem steps_accshell (hu : u.Alike u') : Steps (accshell u) (accshell u') := steps_waitAt hu .accshell

theorem steps_tshell (hu : u.Alike u') : Steps (tshell u) (tshell u') := steps_waitAt hu .tshell

theorem steps_exit (hu : u.Alike u') : Steps (exit u) (exit u') := steps_waitAt hu .exited

end Prompts

section Cart

variable {u u' : User}

/-- Products and carts that tell the same numbers. -/
theorem cartLikeness_numbers : CartLikeness (fun p p' => p.numbers = p'.numbers)
    fun c c' => c.numbers = c'.numbers where
  UPC := congrArg Prod.fst
  checkCart := ShoppingCart.checkCart_of_numbers
  set := ShoppingCart.numbers_set
  remove := ShoppingCart.numbers_remove
  empty := rfl

/-- Carts that look the same. -/
abbrev Carts (m m' : ClientM ShoppingCart) : Prop :=
  Coupled SameRequest (fun c c' => c.numbers = c'.numbers) m m'

/-- Records of users look the same whatever is in them. -/
theorem stores_cartStore (u u' : User) :
    CoupledStores SameRequest (fun c c' => c.numbers = c'.numbers) u.cartStore u'.cartStore :=
  fun _ _ _ => coupled_request (.storeUser _ _)

theorem alike_onCart {method method' : (ShoppingCart → ClientM Unit) → ShoppingCart → ClientM ShoppingCart}
    (hu : u.Alike u')
    (h : Carts (method u.cartStore u.shopping_cart) (method' u'.cartStore u'.shopping_cart)) :
    Coupled SameRequest User.Alike (onCart u method) (onCart u' method') :=
  coupled_onCart h fun _ _ hc => ⟨hu.shipping_address, hu.payment_info, hu.history, hc⟩

/-- Where the line goes is decided by the line and by whether the product is found. -/
theorem steps_addtocart (hu : u.Alike u') (args : List Text) :
    Steps (addtocart u args) (addtocart u' args) := by
  have hstore := stores_cartStore u u'
  have hc := hu.shopping_cart
  cases args with
  | nil => exact steps_mainshell hu
  | cons upc_s rest =>
    have hread : Coupled SameRequest (fun p p' => p.numbers = p'.numbers)
        (do local_storage.getProduct (← .ofExcept (stoul upc_s)))
        (do local_storage.getProduct (← .ofExcept (stoul upc_s))) := by
      apply (coupled_ofExcept_self _).bind
      rintro UPC _ rfl
      exact coupled_request (.getProduct UPC)
    apply hread.attempt.bind
    intro r r' hr
    cases hr with
    | error e =>
      cases e with
      | system_error | invalid_argument => exact steps_mainbby hu
      | out_of_range | runtime_error | undefined => exact .fail _
    | ok hp =>
      cases rest with
      | nil =>
        apply (alike_onCart hu (cartLikeness_numbers.addProduct hstore hc hp)).bind
        exact fun _ _ hu' => steps_mainshell hu'
      | cons qty_s rest =>
        dsimp only
        cases stoui qty_s with
        | error e =>
          cases e with
          | invalid_argument => exact steps_mainshell hu
          | system_error | out_of_range | runtime_error | undefined => exact .fail _
        | ok qty =>
          dsimp only
          by_cases hqty : qty = 1
          · simp only [hqty, if_true]
            apply (alike_onCart hu (cartLikeness_numbers.addProduct hstore hc hp)).bind
            exact fun _ _ hu' => steps_mainshell hu'
          · simp only [hqty, if_false]
            apply (alike_onCart hu (cartLikeness_numbers.addProductQty hstore hc hp qty)).bind
            exact fun _ _ hu' => steps_mainshell hu'

/-- The item is in both carts or in neither. -/
theorem steps_remove (hu : u.Alike u') (invalid_qty : Bool) (args : List Text) :
    Steps (remove u invalid_qty args) (remove u' invalid_qty args) := by
  have hc := hu.shopping_cart
  cases args with
  | nil => exact steps_cartshell hu _
  | cons upc_s rest =>
    rw [remove, remove, ShoppingCart.isEmpty_of_numbers hc]
    apply Coupled.ite (steps_cartshell hu _)
    cases stoul upc_s with
    | error e =>
      cases e with
      | invalid_argument => exact steps_cartview hu
      | system_error | out_of_range | runtime_error | undefined => exact .fail _
    | ok sel_upc =>
      dsimp only
      rw [ShoppingCart.checkCart_of_numbers hc]
      cases u'.shopping_cart.checkCart sel_upc with
      | false => exact steps_cartview hu
      | true =>
        have hcart := cartLikeness_numbers.deleteUPC (stores_cartStore u u') hc sel_upc
        apply (alike_onCart hu hcart).bind
        exact fun _ _ hu' => steps_cartview hu'

/-- The same, and the product is read once more. -/
theorem steps_changeqty (hu : u.Alike u') (invalid_qty : Bool) (args : List Text) :
    Steps (changeqty u invalid_qty args) (changeqty u' invalid_qty args) := by
  have hc := hu.shopping_cart
  match args with
  | [] => exact steps_cartshell hu _
  | [upc_s] => exact steps_cartshell hu _
  | upc_s :: qty_s :: rest =>
    rw [changeqty, changeqty, ShoppingCart.isEmpty_of_numbers hc]
    apply Coupled.ite (steps_cartshell hu _)
    cases stoul upc_s with
    | error e =>
      cases e with
      | invalid_argument => exact steps_cartview hu
      | system_error | out_of_range | runtime_error | undefined => exact .fail _
    | ok sel_upc =>
      dsimp only
      cases stoui qty_s with
      | error e =>
        cases e with
        | invalid_argument => exact steps_cartshell hu _
        | system_error | out_of_range | runtime_error | undefined => exact .fail _
      | ok new_qty =>
        dsimp only
        rw [ShoppingCart.checkCart_of_numbers hc]
        cases u'.shopping_cart.checkCart sel_upc with
        | false => exact steps_cartview hu
        | true =>
          have hcart := cartLikeness_numbers.changeUPCQuantity (stores_cartStore u u')
            (fun UPC => coupled_request (.getProduct UPC)) hc sel_upc new_qty
          exact (alike_onCart hu hcart).bind fun _ _ hu' => steps_cartview hu'

theorem steps_clear (hu : u.Alike u') (invalid_qty : Bool) :
    Steps (clear u invalid_qty) (clear u' invalid_qty) := by
  rw [clear, clear, ShoppingCart.isEmpty_of_numbers hu.shopping_cart]
  apply Coupled.ite (steps_cartshell hu _)
  have hcart : Carts (u.shopping_cart.emptyCart u.cartStore) (u'.shopping_cart.emptyCart u'.cartStore) :=
    cartLikeness_numbers.emptyCart (stores_cartStore u u')
  exact (alike_onCart hu hcart).bind fun _ _ hu' => steps_mainbby hu'

end Cart

section Checkout

variable {u u' : User} {t t' : Transaction}

/-- An address that both orders get. -/
theorem Transaction.Alike.setShippingAddress (ht : t.Alike t') (addr : ShippingAddress) :
    (t.setShippingAddress addr).Alike (t'.setShippingAddress addr) :=
  ⟨ht.transaction_id, ht.shopping_cart, ht.payment_info, rfl, ht.is_finalized⟩

theorem Transaction.Alike.setPaymentInfo (ht : t.Alike t') (cc : PaymentInfo) :
    (t.setPaymentInfo cc).Alike (t'.setPaymentInfo cc) :=
  ⟨ht.transaction_id, ht.shopping_cart, rfl, ht.shipping_address, ht.is_finalized⟩

/-- Records of users are not compared; what the session holds is. -/
theorem coupled_changeShippingAddress (hu : u.Alike u') (addr : ShippingAddress) :
    Coupled SameRequest User.Alike (u.changeShippingAddress local_storage.storeUser addr)
      (u'.changeShippingAddress local_storage.storeUser addr) :=
  (coupled_request (.storeUser _ _)).bind fun _ _ _ =>
    .ret ⟨rfl, hu.payment_info, hu.history, hu.shopping_cart⟩

theorem coupled_changeCreditCard (hu : u.Alike u') (cc : PaymentInfo) :
    Coupled SameRequest User.Alike (u.changeCreditCard local_storage.storeUser cc)
      (u'.changeCreditCard local_storage.storeUser cc) :=
  (coupled_request (.storeUser _ _)).bind fun _ _ _ =>
    .ret ⟨hu.shipping_address, rfl, hu.history, hu.shopping_cart⟩

theorem steps_placeOrder (hu : u.Alike u') (ht : t.Alike t') :
    Steps (placeOrder u t) (placeOrder u' t') := steps_waitAt hu (.placeOrder ht)

theorem steps_orderNewPay (hu : u.Alike u') (ht : t.Alike t') :
    Steps (orderNewPay u t) (orderNewPay u' t') := by
  unfold orderNewPay
  rw [ht.payment_info]
  apply Coupled.ite (steps_placeOrder hu ht)
  exact steps_waitAt hu (.orderPay .num ht)

theorem steps_ordercc (hu : u.Alike u') (ht : t.Alike t') : Steps (ordercc u t) (ordercc u' t') := by
  unfold ordercc
  rw [hu.payment_info]
  apply Coupled.ite (steps_waitAt hu (.usePayment ht))
  exact steps_orderNewPay hu ht

theorem steps_orderNewAddr (hu : u.Alike u') (ht : t.Alike t') :
    Steps (orderNewAddr u t (ordercc u t)) (orderNewAddr u' t' (ordercc u' t')) := by
  unfold orderNewAddr
  rw [ht.shipping_address]
  apply Coupled.ite (steps_ordercc hu ht)
  exact steps_waitAt hu (.orderAddr .name1 ht)

/-- Whether there is an address on file is the same on both sides. -/
theorem steps_orderaddr (hu : u.Alike u') (ht : t.Alike t') :
    Steps (orderaddr u t) (orderaddr u' t') := by
  unfold orderaddr
  rw [hu.shipping_address]
  apply Coupled.ite (steps_waitAt hu (.useAddress ht))
  exact steps_orderNewAddr hu ht

/-- The cart is valid on both sides or on neither, and the id is the same. -/
theorem steps_checkout (hu : u.Alike u') (invalid_qty : Bool) :
    Steps (checkout u invalid_qty) (checkout u' invalid_qty) := by
  unfold checkout
  rw [ShoppingCart.isEmpty_of_numbers hu.shopping_cart]
  apply Coupled.ite (steps_cartshell hu _)
  cases invalid_qty with
  | true => exact steps_cartview hu
  | false =>
    have hcart := hu.shopping_cart
    have hbuy : Coupled SameRequest Transaction.Alike u.shopping_cart.buyCart u'.shopping_cart.buyCart :=
      coupled_buyCart .uuid_generate (ShoppingCart.invalidQty_of_numbers hcart)
        fun _ => ⟨rfl, hcart, rfl, rfl, rfl⟩
    exact hbuy.bind fun _ _ ht => steps_orderaddr hu ht

theorem steps_useAddress (hu : u.Alike u') (ht : t.Alike t') (cmd : Text) :
    Steps (useAddress u t cmd) (useAddress u' t' cmd) := by
  unfold useAddress
  cases saysNo cmd with
  | true => exact steps_orderNewAddr hu ht
  | false =>
    rw [hu.shipping_address]
    exact steps_orderNewAddr hu (ht.setShippingAddress _)

/-- The dialogue depends on the lines typed only. -/
theorem steps_orderAddr (hu : u.Alike u') (ht : t.Alike t') (prompt : AddrPrompt) (cmd : Text) :
    Steps (orderAddr u t prompt cmd) (orderAddr u' t' prompt cmd) := by
  apply (coupled_ofExcept_self (orderAddrStep prompt cmd)).bind
  rintro outcome _ rfl
  cases outcome with
  | next prompt => exact steps_waitAt hu (.orderAddr prompt ht)
  | reject => exact steps_orderaddr hu ht
  | decline => exact steps_orderaddr hu ht
  | accept addr =>
    have ht' := ht.setShippingAddress addr
    apply (coupled_request (.ask .keepAddress)).bind
    intro _ _ _
    cases saysNo cmd with
    | true => exact steps_ordercc hu ht'
    | false => exact (coupled_changeShippingAddress hu addr).bind fun _ _ hu' => steps_ordercc hu' ht'

theorem steps_usePayment (hu : u.Alike u') (ht : t.Alike t') (cmd : Text) :
    Steps (usePayment u t cmd) (usePayment u' t' cmd) := by
  unfold usePayment
  cases saysNo cmd with
  | true => exact steps_orderNewPay hu ht
  | false =>
    rw [hu.payment_info]
    exact steps_orderNewPay hu (ht.setPaymentInfo _)

/-- So does the one for the card. -/
theorem steps_orderPay (hu : u.Alike u') (ht : t.Alike t') (prompt : PayPrompt) (cmd : Text) :
    Steps (orderPay u t prompt cmd) (orderPay u' t' prompt cmd) := by
  apply (coupled_ofExcept_self (orderPayStep prompt cmd)).bind
  rintro outcome _ rfl
  cases outcome with
  | next prompt => exact steps_waitAt hu (.orderPay prompt ht)
  | reject => exact steps_ordercc hu ht
  | decline => exact steps_orderaddr hu ht
  | accept cc =>
    have ht' := ht.setPaymentInfo cc
    apply (coupled_request (.ask .keepPayment)).bind
    intro _ _ _
    cases saysNo cmd with
    | true => exact steps_placeOrder hu ht'
    | false => exact (coupled_changeCreditCard hu cc).bind fun _ _ hu' => steps_placeOrder hu' ht'

/-- The items of carts that look the same do so one by one. -/
theorem ShoppingCart.forall₂_items_of_numbers {c c' : ShoppingCart} (h : c.numbers = c'.numbers) :
    List.Forall₂ (fun e e' => e.2.1.numbers = e'.2.1.numbers ∧ e.2.2 = e'.2.2)
      c.cart.toList c'.cart.toList := by
  have hitems := items_of_numbers h
  rw [← List.forall₂_eq_eq_eq, List.forall₂_map_left_iff, List.forall₂_map_right_iff] at hitems
  apply hitems.imp
  intro e e' he
  exact ⟨congrArg (·.2.1) he, congrArg (·.2.2) he⟩

/-- A charge takes the same numbers from products that may differ in name and price. -/
theorem coupled_chargeCreditCard (hu : u.Alike u') (ht : t.Alike t') :
    Coupled SameRequest User.Alike (t.chargeCreditCard u) (t'.chargeCreditCard u') := by
  apply (coupled_request .gmtime).bind
  rintro date _ rfl
  have ht' : (t.finalize date).Alike (t'.finalize date) :=
    ⟨ht.transaction_id, ht.shopping_cart, ht.payment_info, ht.shipping_address, rfl⟩
  apply (coupled_chargeItems (fun hp => congrArg (·.2.1) hp) (fun n hp => .setQuantity n hp)
    (fun hp => coupled_request (.storeProduct hp))
    (ShoppingCart.forall₂_items_of_numbers ht.shopping_cart)).bind
  intro _ _ _
  apply (coupled_request (.storeTransaction ht')).bind
  intro _ _ _
  apply (coupled_request (.storeUser _ _)).bind
  intro _ _ _
  refine .ret ⟨hu.shipping_address, hu.payment_info, ?_, rfl⟩
  simp [TransactionHistory.addTransaction, hu.history]

theorem steps_confirmOrder (hu : u.Alike u') (ht : t.Alike t') (cmd : Text) :
    Steps (confirmOrder u t cmd) (confirmOrder u' t' cmd) := by
  unfold confirmOrder
  cases saysNo cmd with
  | true => exact steps_cartview hu
  | false => exact (coupled_chargeCreditCard hu ht).bind fun _ _ hu' => steps_mainbby hu'

end Checkout

section Lines

variable {u u' : User} {p p' : Proc}

theorem steps_accountAddr (hu : u.Alike u') (prompt : AddrPrompt) (cmd : Text) :
    Steps (accountAddr u prompt cmd) (accountAddr u' prompt cmd) := by
  apply (coupled_ofExcept_self (accountAddrStep prompt cmd)).bind
  rintro outcome _ rfl
  cases outcome with
  | next prompt => exact steps_waitAt hu (.accountAddr prompt)
  | reject => exact steps_accshell hu
  | decline => exact steps_accshell hu
  | accept addr => exact (coupled_changeShippingAddress hu addr).bind fun _ _ hu' => steps_accshell hu'

theorem steps_accountPay (hu : u.Alike u') (prompt : PayPrompt) (cmd : Text) :
    Steps (accountPay u prompt cmd) (accountPay u' prompt cmd) := by
  apply (coupled_ofExcept_self (accountPayStep prompt cmd)).bind
  rintro outcome _ rfl
  cases outcome with
  | next prompt => exact steps_waitAt hu (.accountPay prompt)
  | reject => exact steps_accshell hu
  | decline => exact steps_accshell hu
  | accept cc => exact (coupled_changeCreditCard hu cc).bind fun _ _ hu' => steps_accshell hu'

/-- Which number is an order depends on how many there are. -/
theorem steps_orders (hu : u.Alike u') (args : List Text) : Steps (orders u args) (orders u' args) := by
  cases args with
  | nil => exact steps_tshell hu
  | cons cmd_part rest =>
    rw [orders, orders]
    apply Coupled.ite (steps_exit hu)
    apply Coupled.ite (steps_accshell hu)
    cases stoui cmd_part with
    | error e =>
      cases e with
      | invalid_argument => exact steps_tshell hu
      | system_error | out_of_range | runtime_error | undefined => exact .fail _
    | ok t_idx =>
      have hlist : u.transaction_history.transaction_list.map (fun _ => ()) =
          u'.transaction_history.transaction_list.map fun _ => () := by
        simp [List.map_const', hu.history]
      have hfound := orderAt_map hlist t_idx
      dsimp only
      generalize orderAt u.transaction_history t_idx = t at hfound ⊢
      generalize orderAt u'.transaction_history t_idx = t' at hfound ⊢
      cases hfound with
      | none => exact steps_tshell hu
      | some => exact (coupled_request (.showOrder _ _)).bind fun _ _ _ => steps_tshell hu

/-- Any command at the main prompt. -/
theorem steps_mainCommand (hu : u.Alike u') (args : List Text) :
    Steps (mainCommand u args) (mainCommand u' args) := by
  cases args with
  | nil => exact steps_mainshell hu
  | cons cmd args =>
    rw [mainCommand, mainCommand]
    apply Coupled.ite (steps_exit hu)
    apply Coupled.ite (steps_addtocart hu args)
    apply Coupled.ite (steps_cartview hu)
    apply Coupled.ite (steps_accshell hu)
    exact steps_mainshell hu

theorem steps_cartCommand (hu : u.Alike u') (invalid_qty : Bool) (args : List Text) :
    Steps (cartCommand u invalid_qty args) (cartCommand u' invalid_qty args) := by
  cases args with
  | nil => exact steps_cartshell hu _
  | cons cmd args =>
    rw [cartCommand, cartCommand]
    apply Coupled.ite (steps_exit hu)
    apply Coupled.ite (steps_mainbby hu)
    apply Coupled.ite (steps_remove hu invalid_qty args)
    apply Coupled.ite (steps_changeqty hu invalid_qty args)
    apply Coupled.ite (steps_clear hu invalid_qty)
    apply Coupled.ite (steps_checkout hu invalid_qty)
    exact steps_cartshell hu _

/-- Whether there is a history to show depends on how many orders there are. -/
theorem steps_accountCommand (hu : u.Alike u') (args : List Text) :
    Steps (accountCommand u args) (accountCommand u' args) := by
  have hempty : u.transaction_history.transaction_list.isEmpty =
      u'.transaction_history.transaction_list.isEmpty := by
    rw [Bool.eq_iff_iff, List.isEmpty_iff_length_eq_zero, List.isEmpty_iff_length_eq_zero, hu.history]
  cases args with
  | nil => exact steps_accshell hu
  | cons cmd args =>
    rw [accountCommand, accountCommand, hempty]
    apply Coupled.ite (steps_exit hu)
    apply Coupled.ite (steps_mainbby hu)
    apply Coupled.ite (steps_waitAt hu (.accountAddr .name1))
    apply Coupled.ite (steps_waitAt hu (.accountPay .num))
    apply Coupled.ite _ (steps_accshell hu)
    cases u'.transaction_history.transaction_list.isEmpty with
    | true => exact steps_accshell hu
    | false => exact steps_tshell hu

/-- A line leads to prompts that look the same. -/
theorem steps_step (h : p.Alike p') (line : Text) : Steps (p.step line) (p'.step line) := by
  obtain ⟨u, loc⟩ := p
  obtain ⟨u', loc'⟩ := p'
  obtain ⟨hu, hloc⟩ := h
  dsimp only at hu hloc
  cases hloc with
  | mainshell => exact steps_mainCommand hu _
  | cartshell invalid_qty => exact steps_cartCommand hu _ _
  | useAddress ht => exact steps_useAddress hu ht _
  | orderAddr prompt ht => exact steps_orderAddr hu ht _ _
  | usePayment ht => exact steps_usePayment hu ht _
  | orderPay prompt ht => exact steps_orderPay hu ht _ _
  | placeOrder ht => exact steps_confirmOrder hu ht _
  | accshell => exact steps_accountCommand hu _
  | accountAddr prompt => exact steps_accountAddr hu _ _
  | accountPay prompt => exact steps_accountPay hu _ _
  | tshell => exact steps_orders hu _
  | exited => exact .ret ⟨hu, .exited⟩

/-- Lines one after the other. -/
theorem coupled_play (h : p.Alike p') (lines : List Text) :
    Coupled SameRequest (fun _ _ => True) (p.play lines) (p'.play lines) := by
  induction lines generalizing p p' with
  | nil => exact .ret trivial
  | cons line lines ih =>
    apply (steps_step h line).bind
    intro next next' hnext
    exact (ih hnext).bind fun _ _ _ => .ret trivial

end Lines

end OnlineShoppingCenter
