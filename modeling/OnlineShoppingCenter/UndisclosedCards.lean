import OnlineShoppingCenter.AkinRequests
import OnlineShoppingCenter.Erasure

/-!
# Card numbers are not disclosed

Sessions that read databases with other cards print the same, as long as the
cards end with the same four digits and expire on the same date. So whatever the
other digits and the cv2 codes in the databases are, no screen tells them.
-/
namespace OnlineShoppingCenter

open TextCodec EffectProgram

variable [Platform]

/-- Prompts that are the same but for the cards of the orders. -/
inductive Loc.Akin : Loc → Loc → Prop where
  | mainshell : Loc.Akin .mainshell .mainshell
  | cartshell (invalid_qty : Bool) : Loc.Akin (.cartshell invalid_qty) (.cartshell invalid_qty)
  | useAddress {t t' : Transaction} : t.masked = t'.masked →
      Loc.Akin (.useAddress t) (.useAddress t')
  | orderAddr {t t' : Transaction} (prompt : AddrPrompt) : t.masked = t'.masked →
      Loc.Akin (.orderAddr t prompt) (.orderAddr t' prompt)
  | usePayment {t t' : Transaction} : t.masked = t'.masked →
      Loc.Akin (.usePayment t) (.usePayment t')
  | orderPay {t t' : Transaction} (prompt : PayPrompt) : t.masked = t'.masked →
      Loc.Akin (.orderPay t prompt) (.orderPay t' prompt)
  | placeOrder {t t' : Transaction} : t.masked = t'.masked →
      Loc.Akin (.placeOrder t) (.placeOrder t')
  | accshell : Loc.Akin .accshell .accshell
  | accountAddr (prompt : AddrPrompt) : Loc.Akin (.accountAddr prompt) (.accountAddr prompt)
  | accountPay (prompt : PayPrompt) : Loc.Akin (.accountPay prompt) (.accountPay prompt)
  | tshell : Loc.Akin .tshell .tshell
  | exited : Loc.Akin .exited .exited

/-- Sessions that are the same but for cards. -/
structure Proc.Akin (p p' : Proc) : Prop where
  logged_in : p.logged_in.Akin p'.logged_in
  loc : p.loc.Akin p'.loc

namespace Console

/-- The same lines are printed, and the same is asked but for cards. -/
inductive AkinOp : Coupling Console.sig where
  | call {op op' : Call} {R : op.Ret → op'.Ret → Prop} : AkinRequest op op' R →
      AkinOp (.call op) (.call op') R
  | print (line : Printed) : AkinOp (.print line) (.print line) fun _ _ => True

/-- Programs that print the same and lead to prompts that are the same but for cards. -/
abbrev PrintSame (m m' : ConsoleM Proc) : Prop := Coupled (S := sig) AkinOp Proc.Akin m m'

section Basics

variable {α β : Type} {Q : α → β → Prop} {m : ClientM α} {m' : ClientM β}

/-- Calls without a line between them. -/
theorem same_quiet (h : Coupled AkinRequest Q m m') :
    Coupled (S := sig) AkinOp Q (quiet m) (quiet m') := by
  apply Coupled.interp (T := sig) _ h
  intro op op' R hop
  exact Coupled.perform (S := sig) (C := AkinOp) (.call hop)

/-- Any lines, printed on both sides. -/
theorem same_display (lines : Screen) :
    Coupled (S := sig) AkinOp (fun _ _ => True) (display lines) (display lines) := by
  induction lines with
  | nil => exact .ret trivial
  | cons line lines ih =>
    exact (Coupled.perform (S := sig) (AkinOp.print line)).bind fun _ _ _ => ih

end Basics

section Prompts

variable {u u' : User} {loc loc' : Loc} {m m' : ConsoleM Proc}

/-- The same lines, and then what prints the same. -/
theorem same_after (lines : Screen) (h : PrintSame m m') :
    PrintSame (do display lines; m) (do display lines; m') :=
  (same_display lines).bind fun _ _ _ => h

/-- The prompt decides what is asked. -/
theorem same_waitAt (hu : u.Akin u') (hloc : loc.Akin loc') :
    PrintSame (waitAt u loc) (waitAt u' loc') := by
  have hquestion : loc.question = loc'.question := by cases hloc <;> rfl
  have hquiet : Coupled AkinRequest Proc.Akin (OnlineShoppingCenter.waitAt u loc)
      (OnlineShoppingCenter.waitAt u' loc') := by
    unfold OnlineShoppingCenter.waitAt
    rw [hquestion]
    cases loc'.question with
    | none => exact .ret ⟨hu, hloc⟩
    | some question =>
      exact (akin_cardless_request (.ask question) trivial).bind fun _ _ _ => .ret ⟨hu, hloc⟩
  unfold waitAt
  rw [hquestion]
  exact same_after _ (same_quiet hquiet)

theorem same_ask (question : Question) :
    Coupled (S := sig) AkinOp (fun _ _ => True) (ask question) (ask question) := by
  apply (same_display _).bind
  intro _ _ _
  exact (same_quiet (akin_cardless_request (.ask question) trivial)).mono fun _ _ _ => trivial

theorem same_exit (hu : u.Akin u') : PrintSame (exit u) (exit u') :=
  same_after _ (same_waitAt hu .exited)

theorem same_mainshell (hu : u.Akin u') : PrintSame (mainshell u) (mainshell u') :=
  same_waitAt hu .mainshell

theorem same_mainhelp (hu : u.Akin u') : PrintSame (mainhelp u) (mainhelp u') :=
  same_after _ (same_mainshell hu)

/-- Products have nothing to do with cards. -/
theorem same_listInventory (prodlist : List SKU) :
    Coupled (S := sig) AkinOp (fun _ _ => True) (listInventory prodlist)
      (listInventory prodlist) := by
  induction prodlist with
  | nil => exact .ret trivial
  | cons upc prodlist ih =>
    apply (same_quiet (akin_cardless_request (.getProduct upc) trivial)).bind
    rintro prod _ rfl
    exact (same_display _).bind fun _ _ _ => ih

theorem same_mainbby (hu : u.Akin u') : PrintSame (mainbby u) (mainbby u') := by
  apply same_after
  apply (same_quiet (akin_cardless_request .getProducts trivial)).bind
  rintro prodlist _ rfl
  exact (same_listInventory prodlist).bind fun _ _ _ => same_mainhelp hu

theorem same_cartshell (hu : u.Akin u') (invalid_qty : Bool) :
    PrintSame (cartshell u invalid_qty) (cartshell u' invalid_qty) := same_waitAt hu (.cartshell _)

theorem same_carthelp (hu : u.Akin u') (invalid_qty : Bool) :
    PrintSame (carthelp u invalid_qty) (carthelp u' invalid_qty) := by
  unfold carthelp
  rw [hu.shopping_cart]
  exact same_after _ (same_cartshell hu _)

/-- Neither do carts. -/
theorem same_cartview (hu : u.Akin u') : PrintSame (cartview u) (cartview u') := by
  unfold cartview
  rw [hu.shopping_cart]
  exact same_after _ (same_carthelp hu _)

theorem same_accshell (hu : u.Akin u') : PrintSame (accshell u) (accshell u') :=
  same_waitAt hu .accshell

theorem same_acchelp (hu : u.Akin u') : PrintSame (acchelp u) (acchelp u') :=
  same_after _ (same_accshell hu)

/-- The account view, with the last four digits. -/
theorem same_account (hu : u.Akin u') : PrintSame (account u) (account u') := by
  unfold account
  rw [accountLines_akin hu]
  exact same_after _ (same_acchelp hu)

theorem same_tshell (hu : u.Akin u') : PrintSame (tshell u) (tshell u') := same_waitAt hu .tshell

theorem same_thelp (hu : u.Akin u') : PrintSame (thelp u) (thelp u') :=
  same_after _ (same_tshell hu)

/-- The history, with dates and totals. -/
theorem same_history [Terminal] (hu : u.Akin u') : PrintSame (history u) (history u') := by
  unfold history
  rw [historyLines_akin hu.transaction_history]
  exact same_after _ (same_thelp hu)

end Prompts

section Cart

variable {u u' : User}

theorem same_addQuantity (hu : u.Akin u') (prod : Product) (qty : UInt32) :
    PrintSame (addQuantity u prod qty) (addQuantity u' prod qty) := by
  have hmethod : ∀ c c' : ShoppingCart, c = c' → Coupled AkinRequest Eq
      (if qty = 1 then c.addProduct u.cartStore prod else c.addProductQty u.cartStore prod qty)
      (if qty = 1 then c'.addProduct u'.cartStore prod
        else c'.addProductQty u'.cartStore prod qty) := by
    intro c c' hc
    have hstore := akin_cartStore hu
    exact Coupled.ite (cartLikeness_eq.addProduct hstore hc rfl)
      (cartLikeness_eq.addProductQty hstore hc rfl qty)
  apply same_after
  apply (same_quiet (akin_onCart hu hmethod)).bind
  exact fun _ _ hu' => same_after _ (same_mainshell hu')

/-- A line is refused on both sides or on neither. -/
theorem same_addtocart (hu : u.Akin u') (args : List Text) :
    PrintSame (addtocart u args) (addtocart u' args) := by
  cases args with
  | nil => exact same_after _ (same_mainhelp hu)
  | cons upc_s rest =>
    have hread : Coupled AkinRequest Eq
        (do local_storage.getProduct (← .ofExcept (stoul upc_s)))
        (do local_storage.getProduct (← .ofExcept (stoul upc_s))) := by
      apply (coupled_ofExcept_self _).bind
      rintro UPC _ rfl
      exact akin_cardless_request (.getProduct UPC) trivial
    apply (Coupled.attempt (S := sig) (same_quiet hread)).bind
    intro r r' hr
    cases hr with
    | error e =>
      cases e with
      | system_error | invalid_argument => exact same_after _ (same_mainbby hu)
      | out_of_range | runtime_error | undefined => exact .fail _
    | @ok prod _ hprod =>
      subst hprod
      cases rest with
      | nil => exact same_addQuantity hu prod 1
      | cons qty_s rest =>
        dsimp only
        cases stoui qty_s with
        | error e =>
          cases e with
          | invalid_argument => exact same_after _ (same_mainhelp hu)
          | system_error | out_of_range | runtime_error | undefined => exact .fail _
        | ok qty => exact same_addQuantity hu prod qty

theorem same_remove (hu : u.Akin u') (invalid_qty : Bool) (args : List Text) :
    PrintSame (remove u invalid_qty args) (remove u' invalid_qty args) := by
  cases args with
  | nil => exact same_after _ (same_carthelp hu _)
  | cons upc_s rest =>
    rw [remove, remove, hu.shopping_cart]
    apply Coupled.ite (same_after _ (same_carthelp hu _))
    cases stoul upc_s with
    | error e =>
      cases e with
      | invalid_argument => exact same_after _ (same_cartview hu)
      | system_error | out_of_range | runtime_error | undefined => exact .fail _
    | ok sel_upc =>
      apply Coupled.ite (same_after _ (same_cartview hu))
      have hdelete : Coupled AkinRequest User.Akin
          (onCart u fun store cart => cart.deleteUPC store sel_upc)
          (onCart u' fun store cart => cart.deleteUPC store sel_upc) :=
        akin_onCart hu fun _ _ hc => cartLikeness_eq.deleteUPC (akin_cartStore hu) hc sel_upc
      apply (same_quiet hdelete).bind
      exact fun _ _ hu' => same_after _ (same_cartview hu')

/-- The checks look at the cart and the line. -/
theorem same_changeqty (hu : u.Akin u') (invalid_qty : Bool) (args : List Text) :
    PrintSame (changeqty u invalid_qty args) (changeqty u' invalid_qty args) := by
  match args with
  | [] => exact same_after _ (same_carthelp hu _)
  | [upc_s] => exact same_after _ (same_carthelp hu _)
  | upc_s :: qty_s :: rest =>
    rw [changeqty, changeqty, hu.shopping_cart]
    apply Coupled.ite (same_after _ (same_carthelp hu _))
    cases stoul upc_s with
    | error e =>
      cases e with
      | invalid_argument => exact same_after _ (same_cartview hu)
      | system_error | out_of_range | runtime_error | undefined => exact .fail _
    | ok sel_upc =>
      dsimp only
      cases stoui qty_s with
      | error e =>
        cases e with
        | invalid_argument => exact same_after _ (same_carthelp hu _)
        | system_error | out_of_range | runtime_error | undefined => exact .fail _
      | ok new_qty =>
        apply Coupled.ite (same_after _ (same_cartview hu))
        have hchange : ∀ c c' : ShoppingCart, c = c' → Coupled AkinRequest Eq
            (c.changeUPCQuantity u.cartStore (fun UPC => local_storage.getProduct UPC) sel_upc new_qty)
            (c'.changeUPCQuantity u'.cartStore (fun UPC => local_storage.getProduct UPC) sel_upc
              new_qty) := by
          intro c c' hc
          exact cartLikeness_eq.changeUPCQuantity (akin_cartStore hu)
            (fun UPC => akin_cardless_request (.getProduct UPC) trivial) hc sel_upc new_qty
        apply same_after
        apply (same_quiet (akin_onCart hu hchange)).bind
        exact fun _ _ hu' => same_after _ (same_cartview hu')

theorem same_clear (hu : u.Akin u') (invalid_qty : Bool) :
    PrintSame (clear u invalid_qty) (clear u' invalid_qty) := by
  rw [clear, clear, hu.shopping_cart]
  apply Coupled.ite (same_after _ (same_carthelp hu _))
  have hempty := akin_onCart hu fun _ _ _ => cartLikeness_eq.emptyCart (akin_cartStore hu)
  apply (same_quiet hempty).bind
  exact fun _ _ hu' => same_after _ (same_mainbby hu')

end Cart

section Checkout

variable {u u' : User} {t t' : Transaction}

/-- The confirmation, with the last four digits. -/
theorem same_placeOrder (hu : u.Akin u') (ht : t.masked = t'.masked) :
    PrintSame (placeOrder u t) (placeOrder u' t') := by
  unfold placeOrder
  rw [confirmationLines_akin ht]
  exact same_after _ (same_waitAt hu (.placeOrder ht))

theorem same_orderNewPay (hu : u.Akin u') (ht : t.masked = t'.masked) :
    PrintSame (orderNewPay u t) (orderNewPay u' t') := by
  have hset : t.masked.payment_info.is_set = t'.masked.payment_info.is_set := by rw [ht]
  change t.payment_info.is_set = t'.payment_info.is_set at hset
  unfold orderNewPay
  rw [hset]
  apply Coupled.ite (same_placeOrder hu ht)
  exact same_after _ (same_waitAt hu (.orderPay .num ht))

/-- The card on file is offered by its last four digits. -/
theorem same_ordercc (hu : u.Akin u') (ht : t.masked = t'.masked) :
    PrintSame (ordercc u t) (ordercc u' t') := by
  have hset : u.payment_info.masked.is_set = u'.payment_info.masked.is_set := by
    rw [hu.payment_info]
  change u.payment_info.is_set = u'.payment_info.is_set at hset
  unfold ordercc
  rw [hset, paymentOnFile_akin hu.payment_info]
  apply Coupled.ite _ (same_orderNewPay hu ht)
  exact same_after _ (same_waitAt hu (.usePayment ht))

theorem same_orderNewAddr (hu : u.Akin u') (ht : t.masked = t'.masked) :
    PrintSame (orderNewAddr u t (ordercc u t)) (orderNewAddr u' t' (ordercc u' t')) := by
  have hset : t.masked.shipping_address.is_set = t'.masked.shipping_address.is_set := by rw [ht]
  change t.shipping_address.is_set = t'.shipping_address.is_set at hset
  unfold orderNewAddr
  rw [hset]
  apply Coupled.ite (same_ordercc hu ht)
  exact same_after _ (same_waitAt hu (.orderAddr .name1 ht))

theorem same_orderaddr (hu : u.Akin u') (ht : t.masked = t'.masked) :
    PrintSame (orderaddr u t) (orderaddr u' t') := by
  unfold orderaddr
  rw [hu.shipping_address]
  apply Coupled.ite _ (same_orderNewAddr hu ht)
  exact same_after _ (same_waitAt hu (.useAddress ht))

theorem same_checkout (hu : u.Akin u') (invalid_qty : Bool) :
    PrintSame (checkout u invalid_qty) (checkout u' invalid_qty) := by
  unfold checkout
  rw [hu.shopping_cart]
  apply Coupled.ite (same_after _ (same_carthelp hu _))
  apply Coupled.ite (same_after _ (same_cartview hu))
  have hid : AkinRequest .uuid_generate .uuid_generate Eq :=
    .same (show Call.uuid_generate.Cardless from trivial)
  have hbuy : Coupled AkinRequest Eq u'.shopping_cart.buyCart u'.shopping_cart.buyCart :=
    coupled_buyCart hid rfl fun _ => rfl
  apply (same_quiet hbuy).bind
  rintro t _ rfl
  exact same_orderaddr hu rfl

theorem same_useAddress (hu : u.Akin u') (ht : t.masked = t'.masked) (cmd : Text) :
    PrintSame (useAddress u t cmd) (useAddress u' t' cmd) := by
  unfold useAddress
  apply Coupled.ite (same_after _ (same_orderNewAddr hu ht))
  rw [hu.shipping_address]
  exact same_orderNewAddr hu (masked_setShippingAddress ht _)

/-- An address that is typed is the same on both sides. -/
theorem same_orderAddr (hu : u.Akin u') (ht : t.masked = t'.masked) (prompt : AddrPrompt)
    (cmd : Text) : PrintSame (orderAddr u t prompt cmd) (orderAddr u' t' prompt cmd) := by
  apply (coupled_ofExcept_self (orderAddrStep prompt cmd)).bind
  rintro outcome _ rfl
  cases outcome with
  | next prompt => exact same_after _ (same_waitAt hu (.orderAddr prompt ht))
  | reject => exact same_after _ (same_orderaddr hu ht)
  | decline => exact same_after _ (same_orderaddr hu ht)
  | accept addr =>
    have ht' := masked_setShippingAddress ht addr
    apply (same_ask .keepAddress).bind
    intro _ _ _
    apply Coupled.ite _ (same_ordercc hu ht')
    apply (same_quiet (akin_changeShippingAddress hu addr)).bind
    exact fun _ _ hu' => same_ordercc hu' ht'

theorem same_usePayment (hu : u.Akin u') (ht : t.masked = t'.masked) (cmd : Text) :
    PrintSame (usePayment u t cmd) (usePayment u' t' cmd) := by
  unfold usePayment
  cases saysNo cmd with
  | true => exact same_orderNewPay hu ht
  | false => exact same_orderNewPay hu (masked_setPaymentInfo ht hu.payment_info)

/-- A card that is typed is the same on both sides. -/
theorem same_orderPay (hu : u.Akin u') (ht : t.masked = t'.masked) (prompt : PayPrompt)
    (cmd : Text) : PrintSame (orderPay u t prompt cmd) (orderPay u' t' prompt cmd) := by
  apply (coupled_ofExcept_self (orderPayStep prompt cmd)).bind
  rintro outcome _ rfl
  cases outcome with
  | next prompt => exact same_after _ (same_waitAt hu (.orderPay prompt ht))
  | reject => exact same_after _ (same_ordercc hu ht)
  | decline => exact same_after _ (same_orderaddr hu ht)
  | accept cc =>
    have ht' : (t.setPaymentInfo cc).masked = (t'.setPaymentInfo cc).masked :=
      masked_setPaymentInfo ht rfl
    apply (same_ask .keepPayment).bind
    intro _ _ _
    apply Coupled.ite _ (same_placeOrder hu ht')
    apply (same_quiet (akin_changeCreditCard hu cc)).bind
    exact fun _ _ hu' => same_placeOrder hu' ht'

/-- The order is charged on both sides. -/
theorem same_confirmOrder (hu : u.Akin u') (ht : t.masked = t'.masked) (cmd : Text) :
    PrintSame (confirmOrder u t cmd) (confirmOrder u' t' cmd) := by
  unfold confirmOrder
  apply Coupled.ite _ (same_cartview hu)
  apply (same_quiet (akin_chargeCreditCard hu ht)).bind
  exact fun _ _ hu' => same_after _ (same_mainbby hu')

end Checkout

section Account

variable {u u' : User}

theorem same_accountAddr (hu : u.Akin u') (prompt : AddrPrompt) (cmd : Text) :
    PrintSame (accountAddr u prompt cmd) (accountAddr u' prompt cmd) := by
  apply (coupled_ofExcept_self (accountAddrStep prompt cmd)).bind
  rintro outcome _ rfl
  cases outcome with
  | next prompt => exact same_after _ (same_waitAt hu (.accountAddr prompt))
  | reject => exact same_after _ (same_account hu)
  | decline => exact same_after _ (same_account hu)
  | accept addr =>
    apply (same_quiet (akin_changeShippingAddress hu addr)).bind
    exact fun _ _ hu' => same_after _ (same_account hu')

/-- The new card is stored on both sides. -/
theorem same_accountPay (hu : u.Akin u') (prompt : PayPrompt) (cmd : Text) :
    PrintSame (accountPay u prompt cmd) (accountPay u' prompt cmd) := by
  apply (coupled_ofExcept_self (accountPayStep prompt cmd)).bind
  rintro outcome _ rfl
  cases outcome with
  | next prompt => exact same_after _ (same_waitAt hu (.accountPay prompt))
  | reject => exact same_after _ (same_account hu)
  | decline => exact same_after _ (same_account hu)
  | accept cc =>
    apply (same_quiet (akin_changeCreditCard hu cc)).bind
    exact fun _ _ hu' => same_after _ (same_account hu')

variable [Terminal]

/-- An order of the history, with the last four digits. -/
theorem same_showOrder {t t' : Transaction} (ht : t.masked = t'.masked) :
    Coupled (S := sig) AkinOp (fun _ _ => True) (showOrder t) (showOrder t') := by
  unfold showOrder
  rw [orderLines_akin ht]
  apply (same_display _).bind
  intro _ _ _
  exact same_quiet (akin_request (.showOrder t t'))

theorem same_orders (hu : u.Akin u') (args : List Text) :
    PrintSame (orders u args) (orders u' args) := by
  cases args with
  | nil => exact same_tshell hu
  | cons cmd_part rest =>
    rw [orders, orders]
    apply Coupled.ite (same_exit hu)
    apply Coupled.ite (same_account hu)
    cases stoui cmd_part with
    | error e =>
      cases e with
      | invalid_argument => exact same_thelp hu
      | system_error | out_of_range | runtime_error | undefined => exact .fail _
    | ok t_idx =>
      have hlist : u.transaction_history.transaction_list.map Transaction.masked =
          u'.transaction_history.transaction_list.map Transaction.masked :=
        congrArg TransactionHistory.transaction_list hu.transaction_history
      have hfound := orderAt_map hlist t_idx
      dsimp only
      generalize orderAt u.transaction_history t_idx = t at hfound ⊢
      generalize orderAt u'.transaction_history t_idx = t' at hfound ⊢
      cases hfound with
      | none => exact same_history hu
      | some ht => exact (same_showOrder ht).bind fun _ _ _ => same_tshell hu

omit [Terminal] in
theorem same_mainCommand (hu : u.Akin u') (args : List Text) :
    PrintSame (mainCommand u args) (mainCommand u' args) := by
  cases args with
  | nil => exact same_mainshell hu
  | cons cmd args =>
    rw [mainCommand, mainCommand]
    apply Coupled.ite (same_exit hu)
    apply Coupled.ite (same_addtocart hu args)
    apply Coupled.ite (same_cartview hu)
    apply Coupled.ite (same_account hu)
    exact same_after _ (same_mainhelp hu)

omit [Terminal] in
theorem same_cartCommand (hu : u.Akin u') (invalid_qty : Bool) (args : List Text) :
    PrintSame (cartCommand u invalid_qty args) (cartCommand u' invalid_qty args) := by
  cases args with
  | nil => exact same_cartshell hu _
  | cons cmd args =>
    rw [cartCommand, cartCommand]
    apply Coupled.ite (same_exit hu)
    apply Coupled.ite (same_mainbby hu)
    apply Coupled.ite (same_remove hu invalid_qty args)
    apply Coupled.ite (same_changeqty hu invalid_qty args)
    apply Coupled.ite (same_clear hu invalid_qty)
    apply Coupled.ite (same_checkout hu invalid_qty)
    exact same_after _ (same_carthelp hu _)

theorem same_accountCommand (hu : u.Akin u') (args : List Text) :
    PrintSame (accountCommand u args) (accountCommand u' args) := by
  have hlist : u.transaction_history.transaction_list.map Transaction.masked =
      u'.transaction_history.transaction_list.map Transaction.masked :=
    congrArg TransactionHistory.transaction_list hu.transaction_history
  have hempty : u.transaction_history.transaction_list.isEmpty =
      u'.transaction_history.transaction_list.isEmpty := by
    rw [← List.isEmpty_map (f := Transaction.masked), hlist, List.isEmpty_map]
  cases args with
  | nil => exact same_accshell hu
  | cons cmd args =>
    rw [accountCommand, accountCommand, hempty]
    apply Coupled.ite (same_exit hu)
    apply Coupled.ite (same_mainbby hu)
    apply Coupled.ite (same_after _ (same_waitAt hu (.accountAddr .name1)))
    apply Coupled.ite (same_after _ (same_waitAt hu (.accountPay .num)))
    apply Coupled.ite _ (same_after _ (same_acchelp hu))
    exact Coupled.ite (same_after _ (same_accshell hu)) (same_history hu)

/-- Any line at any prompt. -/
theorem same_step {p p' : Proc} (h : p.Akin p') (line : Text) :
    PrintSame (step p line) (step p' line) := by
  obtain ⟨u, loc⟩ := p
  obtain ⟨u', loc'⟩ := p'
  obtain ⟨hu, hloc⟩ := h
  dsimp only at hu hloc
  cases hloc with
  | mainshell => exact same_mainCommand hu _
  | cartshell invalid_qty => exact same_cartCommand hu _ _
  | useAddress ht => exact same_useAddress hu ht _
  | orderAddr prompt ht => exact same_orderAddr hu ht _ _
  | usePayment ht => exact same_usePayment hu ht _
  | orderPay prompt ht => exact same_orderPay hu ht _ _
  | placeOrder ht => exact same_confirmOrder hu ht _
  | accshell => exact same_accountCommand hu _
  | accountAddr prompt => exact same_accountAddr hu _ _
  | accountPay prompt => exact same_accountPay hu _ _
  | tshell => exact same_orders hu _
  | exited => exact .ret ⟨hu, .exited⟩

theorem same_play {p p' : Proc} (h : p.Akin p') (lines : List Text) :
    Coupled (S := sig) AkinOp (fun _ _ => True) (play p lines) (play p' lines) := by
  induction lines generalizing p p' with
  | nil => exact .ret trivial
  | cons line lines ih =>
    apply (same_step h line).bind
    intro next next' hnext
    exact (ih hnext).bind fun _ _ _ => .ret trivial

omit [Terminal] in
theorem same_login (username : Text) : PrintSame (login username) (login username) := by
  apply same_after
  apply (Coupled.attempt (S := sig) (same_quiet (akin_request (.getUser username)))).bind
  intro r r' hr
  cases hr with
  | ok hu =>
    dsimp only
    rw [User.Akin.user_name hu]
    exact same_after _ (same_mainbby hu)
  | error e =>
    cases e with
    | system_error => exact same_after _ (.ret ⟨⟨rfl, rfl, rfl, rfl, rfl, rfl⟩, .exited⟩)
    | invalid_argument | out_of_range | runtime_error | undefined => exact .fail _

theorem same_session (username : Text) (lines : List Text) :
    Coupled (S := sig) AkinOp (fun _ _ => True) (session username lines)
      (session username lines) :=
  (same_login username).bind fun _ _ hp => same_play hp lines

end Account

section Fine

/-- The same lines, and the same calls but for the cards that are written. -/
inductive AkinFine : Coupling fineSig where
  | query {op op' : DbCall} {R : op.Ret → op'.Ret → Prop} : AkinCall op op' R →
      AkinFine (.query op) (.query op') R
  | print (line : Printed) : AkinFine (.print line) (.print line) fun _ _ => True

theorem same_method {op op' : Op} {R : op.Ret → op'.Ret → Prop} (h : AkinOp op op' R) :
    Coupled (S := fineSig) AkinFine R (method op) (method op') := by
  cases h with
  | call hop =>
    apply Coupled.interp (T := fineSig) _ (akin_method hop)
    intro op op' R hop
    exact Coupled.perform (S := fineSig) (C := AkinFine) (.query hop)
  | print line => exact Coupled.perform (S := fineSig) (C := AkinFine) (.print line)

/-- The same screen, and databases that are the same but for cards. -/
structure AkinSite (s s' : Site World) : Prop where
  world : s.world.Akin s'.world
  screen : s.screen = s'.screen

theorem respects_site : Respects (S := fineSig) site AkinFine AkinSite := by
  intro op op' R s s' hop h
  cases hop with
  | query hop =>
    obtain ⟨hreply, hworld⟩ := respects_akinCall _ _ _ _ _ hop h.world
    exact ⟨hreply, hworld, h.screen⟩
  | print line =>
    refine ⟨.ok trivial, h.world, ?_⟩
    simp only [site, h.screen]

/-- Clients on databases with every card masked that is stored with its expiry
date, in any order of their turns, see what they would see on the databases as
they are. (The program stores no number without an expiry date.) -/
theorem cards_undisclosed [Terminal] {ι : Type} [DecidableEq ι] (clients : ι → Text × List Text)
    (w : World) (screen : Screen) (schedule : List ι) :
    (Pool.run site ⟨fun i => fine (session (clients i).1 (clients i).2), ⟨w, screen⟩⟩
        schedule).state.screen =
      (Pool.run site ⟨fun i => fine (session (clients i).1 (clients i).2), ⟨w.masked, screen⟩⟩
        schedule).state.screen := by
  have hthreads : ∀ i, Coupled (S := fineSig) AkinFine (fun _ _ => True)
      (fine (session (clients i).1 (clients i).2)) (fine (session (clients i).1 (clients i).2)) := by
    intro i
    apply Coupled.interp (T := fineSig) _ (same_session (clients i).1 (clients i).2)
    exact fun op op' R => same_method
  have hstart : AkinSite ⟨w, screen⟩ ⟨w.masked, screen⟩ := ⟨w.akin_masked, rfl⟩
  exact (Pool.coupled_run respects_site hthreads hstart schedule).2.screen

end Fine

end Console

end OnlineShoppingCenter
