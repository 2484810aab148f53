import OnlineShoppingCenter.CurrentScreens

/-!
# Every prompt shows its views

One rule for each label and command of `main`. A command that jumps to a view
prints it anew; one that jumps behind it prints no heading that would hide it.
-/
namespace OnlineShoppingCenter.Console

open TextCodec EffectProgram SectionedLog

variable [Platform] [Terminal] {screen : Screen} {u : User} {order : Transaction}

/-- The prompt keeps the menu that is on the screen. -/
theorem prints_mainshell (h : Shown .commands mainMenu screen) : Prints (mainshell u) screen := by
  apply prints_menu
  · intro v hv
    rw [List.mem_singleton.mp hv]
    exact h
  · rfl
  · trivial

theorem prints_mainhelp : Prints (mainhelp u) screen := by
  rw [Prints, mainhelp, wp_bind, wp_display]
  exact prints_mainshell (shown_menu _ _)

omit [Terminal] in
/-- The loop stores no order, and what it has printed does not matter to the menu after it. -/
theorem wp_listInventory (prodlist : List SKU) {Q : Unit → Screen → Prop}
    (hQ : ∀ screen, Q () screen) : wp shown (listInventory prodlist) screen Q fun _ _ => True := by
  induction prodlist generalizing screen with
  | nil => exact hQ screen
  | cons upc prodlist ih =>
    rw [listInventory, wp_bind]
    apply wp_orderless (only_getProduct daily_orderless upc)
    intro prod
    rw [wp_bind, wp_display]
    exact ih

/-- The inventory comes with the menu, whatever was on the screen. -/
theorem prints_mainbby : Prints (mainbby u) screen := by
  rw [Prints, mainbby, wp_bind, wp_display, wp_bind]
  apply wp_orderless (orderless_request (by simp [Call.Orderless]))
  intro prodlist
  rw [wp_bind]
  exact wp_listInventory prodlist fun _ => prints_mainhelp

theorem prints_addQuantity (h : Shown .commands mainMenu screen) (prod : Product) (qty : UInt32) :
    Prints (addQuantity u prod qty) screen := by
  rw [Prints, addQuantity, wp_bind, wp_display, wp_bind]
  apply wp_orderless (only_addQuantity daily_orderless u prod qty)
  intro u'
  rw [wp_bind, wp_display]
  apply prints_mainshell
  exact Shows.plain (Shows.plain h (plain_addWarning _ _)) (by simp)

/-- Either only a message is printed under the menu, or the menu comes anew. -/
theorem prints_addtocart (h : Shown .commands mainMenu screen) (args : List Text) :
    Prints (addtocart u args) screen := by
  cases args with
  | nil =>
    rw [Prints, addtocart, wp_bind, wp_display]
    exact prints_mainhelp
  | cons upc_s rest =>
    rw [Prints, addtocart, wp_bind, wp_attempt]
    have honly : (do local_storage.getProduct (← .ofExcept (stoul upc_s)) : ClientM Product).Only
        Call.Orderless := (Prog.only_ofExcept _).bind fun _ => only_getProduct daily_orderless _
    apply wp_mono (wp_quiet (wp_unprinted honly screen))
    · rintro prod _ rfl
      cases rest with
      | nil => exact prints_addQuantity h prod 1
      | cons qty_s rest =>
        dsimp only
        cases stoui qty_s with
        | error e =>
          cases e with
          | invalid_argument =>
            rw [wp_bind, wp_display]
            exact prints_mainhelp
          | system_error | out_of_range | runtime_error | undefined => trivial
        | ok qty => exact prints_addQuantity h prod qty
    · rintro e _ rfl
      cases e with
      | system_error | invalid_argument =>
        rw [wp_bind, wp_display]
        exact prints_mainbby
      | out_of_range | runtime_error | undefined => trivial

section Cart

variable {invalid_qty : Bool}

/-- The cart is shown and the flag is the one of its view. -/
structure CartShown (u : User) (invalid_qty : Bool) (screen : Screen) : Prop where
  view : Shown .cart (cartLines u.shopping_cart) screen
  flag : invalid_qty = u.shopping_cart.invalidQty

theorem prints_cartshell (h : CartShown u invalid_qty screen)
    (hmenu : Shown .commands (cartMenu u.shopping_cart invalid_qty) screen) :
    Prints (cartshell u invalid_qty) screen := by
  apply prints_menu
  · intro v hv
    rcases List.mem_cons.mp hv with rfl | hv
    · exact h.view
    · rw [List.mem_singleton.mp hv]
      exact hmenu
  · rfl
  · exact h.flag

theorem prints_carthelp (h : CartShown u invalid_qty screen) :
    Prints (carthelp u invalid_qty) screen := by
  rw [Prints, carthelp, wp_bind, wp_display]
  exact prints_cartshell ⟨Shows.menu h.view (by decide) _, h.flag⟩ (shown_menu _ _)

/-- The cart and its menu are printed from the cart at hand, and the flag with them. -/
theorem prints_cartview : Prints (cartview u) screen := by
  rw [Prints, cartview, wp_bind, wp_display]
  exact prints_carthelp ⟨shown_view (plain_cartBody _) _, rfl⟩

/-- Some words and back to the commands. -/
theorem prints_refused {lines : Screen} (h : CartShown u invalid_qty screen)
    (hlines : Plain lines) :
    Prints (do display lines; carthelp u invalid_qty) screen := by
  rw [Prints, wp_bind, wp_display]
  exact prints_carthelp ⟨Shows.plain h.view hlines, h.flag⟩

/-- Some words and back to the cart. -/
theorem prints_again (lines : Screen) : Prints (do display lines; cartview u) screen := by
  rw [Prints, wp_bind, wp_display]
  exact prints_cartview

/-- A cart that has changed is printed anew. -/
theorem prints_remove (h : CartShown u invalid_qty screen) (args : List Text) :
    Prints (remove u invalid_qty args) screen := by
  cases args with
  | nil => exact prints_refused h (by simp)
  | cons upc_s rest =>
    rw [remove]
    split
    · exact prints_refused h (by simp)
    · cases stoul upc_s with
      | error e =>
        cases e with
        | invalid_argument => exact prints_again _
        | system_error | out_of_range | runtime_error | undefined => trivial
      | ok sel_upc =>
        dsimp only
        split
        · exact prints_again _
        · rw [Prints, wp_bind]
          apply wp_orderless (only_remove daily_orderless u sel_upc)
          intro u'
          exact prints_again _

/-- A quantity that is no number brings the menu back, under the same cart. -/
theorem prints_changeqty (h : CartShown u invalid_qty screen) (args : List Text) :
    Prints (changeqty u invalid_qty args) screen := by
  match args with
  | [] => exact prints_refused h (by simp)
  | [upc_s] => exact prints_refused h (by simp)
  | upc_s :: qty_s :: rest =>
    rw [changeqty]
    split
    · exact prints_refused h (by simp)
    · cases stoul upc_s with
      | error e =>
        cases e with
        | invalid_argument => exact prints_again _
        | system_error | out_of_range | runtime_error | undefined => trivial
      | ok sel_upc =>
        dsimp only
        cases stoui qty_s with
        | error e =>
          cases e with
          | invalid_argument => exact prints_refused h (by simp)
          | system_error | out_of_range | runtime_error | undefined => trivial
        | ok new_qty =>
          dsimp only
          split
          · exact prints_again _
          · rw [Prints, wp_bind, wp_display, wp_bind]
            apply wp_orderless (only_changeUPCQuantity daily_orderless u sel_upc new_qty)
            intro u'
            exact prints_again _

theorem prints_clear (h : CartShown u invalid_qty screen) :
    Prints (clear u invalid_qty) screen := by
  rw [clear]
  split
  · exact prints_refused h (by simp)
  · rw [Prints, wp_bind]
    apply wp_orderless (only_emptyCart daily_orderless u)
    intro u'
    rw [wp_bind, wp_display]
    exact prints_mainbby

end Cart

section Checkout

/-- The total that is printed is the one the order has been given. -/
theorem prints_placeOrder (h : order.Totalled) : Prints (placeOrder u order) screen :=
  prints_prompt rfl (List.suffix_cons _ _) h

theorem prints_orderNewPay (h : order.Totalled) : Prints (orderNewPay u order) screen := by
  rw [orderNewPay]
  split
  · exact prints_placeOrder h
  · exact prints_prompt rfl (List.suffix_refl _) h

theorem prints_ordercc (h : order.Totalled) : Prints (ordercc u order) screen := by
  rw [ordercc]
  split
  · exact prints_prompt rfl (List.suffix_refl _) h
  · exact prints_orderNewPay h

theorem prints_orderNewAddr (h : order.Totalled) :
    Prints (orderNewAddr u order (ordercc u order)) screen := by
  rw [orderNewAddr]
  split
  · exact prints_ordercc h
  · exact prints_prompt rfl (List.suffix_refl _) h

theorem prints_orderaddr (h : order.Totalled) : Prints (orderaddr u order) screen := by
  rw [orderaddr]
  split
  · exact prints_prompt rfl (List.suffix_refl _) h
  · exact prints_orderNewAddr h

omit [Terminal] in
/-- A new order carries the total of its cart. -/
theorem wp_buyCart (c : ShoppingCart) :
    wp unprinted c.buyCart screen (fun order screen' => screen' = screen ∧ order.Totalled)
      fun _ _ => True := by
  unfold ShoppingCart.buyCart
  split
  · trivial
  · rw [wp_bind]
    apply wp_mono (wp_unprinted (orderless_request (by simp [Call.Orderless])) screen)
    · intro id screen' hscreen
      exact ⟨hscreen, rfl⟩
    · exact fun _ _ _ => trivial

/-- The order is a copy of the cart on the screen. -/
theorem prints_checkout {invalid_qty : Bool} (h : CartShown u invalid_qty screen) :
    Prints (checkout u invalid_qty) screen := by
  rw [checkout]
  split
  · exact prints_refused h (by simp)
  · split
    · exact prints_again _
    · rw [Prints, wp_bind]
      apply wp_quiet
      apply wp_mono (wp_buyCart u.shopping_cart) _ fun _ _ _ => trivial
      rintro order _ ⟨rfl, horder⟩
      exact prints_orderaddr horder

theorem prints_useAddress (h : order.Totalled) (cmd : Text) :
    Prints (useAddress u order cmd) screen := by
  rw [useAddress]
  split
  · rw [Prints, wp_bind, wp_display]
    exact prints_orderNewAddr h
  · exact prints_orderNewAddr h

/-- A numeral that does not fit ends the session; its screen does not matter. -/
theorem wp_ofExcept {α : Type} {r : Except Exn α} {f : α → ConsoleM Proc}
    (h : ∀ a, Prints (f a) screen) : Prints (.ofExcept r >>= f) screen := by
  cases r with
  | ok a => exact h a
  | error e => trivial

theorem wp_ask (question : Question) {f : Unit → ConsoleM Proc}
    (h : ∀ screen, Prints (f ()) screen) : Prints (ask question >>= f) screen := by
  rw [Prints, wp_bind, ask, wp_bind, wp_display]
  exact wp_orderless (orderless_request (by simp [Call.Orderless])) fun _ => h _

/-- The address of an order does not change its total. -/
theorem prints_orderAddr (h : order.Totalled) (prompt : AddrPrompt) (cmd : Text) :
    Prints (orderAddr u order prompt cmd) screen := by
  rw [orderAddr]
  apply wp_ofExcept
  intro answer
  cases answer with
  | next prompt => exact prints_prompt rfl (List.suffix_refl _) h
  | reject | decline =>
    dsimp only
    rw [Prints, wp_bind, wp_display]
    exact prints_orderaddr h
  | accept addr =>
    have h' : (order.setShippingAddress addr).Totalled := h
    apply wp_ask
    intro screen
    split
    · rw [Prints, wp_bind]
      exact wp_orderless (only_changeShippingAddress daily_orderless u addr) fun u' => prints_ordercc h'
    · exact prints_ordercc h'

theorem prints_usePayment (h : order.Totalled) (cmd : Text) :
    Prints (usePayment u order cmd) screen := by
  rw [usePayment]
  apply prints_orderNewPay
  split
  · exact h
  · exact h

/-- Neither does its card. -/
theorem prints_orderPay (h : order.Totalled) (prompt : PayPrompt) (cmd : Text) :
    Prints (orderPay u order prompt cmd) screen := by
  rw [orderPay]
  apply wp_ofExcept
  intro answer
  cases answer with
  | next prompt => exact prints_prompt rfl (List.suffix_refl _) h
  | reject =>
    dsimp only
    rw [Prints, wp_bind, wp_display]
    exact prints_ordercc h
  | decline =>
    dsimp only
    rw [Prints, wp_bind, wp_display]
    exact prints_orderaddr h
  | accept cc =>
    have h' : (order.setPaymentInfo cc).Totalled := h
    apply wp_ask
    intro screen
    split
    · rw [Prints, wp_bind]
      exact wp_orderless (only_changeCreditCard daily_orderless u cc) fun u' => prints_placeOrder h'
    · exact prints_placeOrder h'

omit [Terminal] in
/-- The order that is stored is the one shown, dated and finalised. -/
theorem wp_chargeCreditCard (h : Confirming order screen) :
    wp unprinted (order.chargeCreditCard u) screen (fun _ screen' => screen' = screen)
      fun _ _ => True := by
  have hcall : ∀ {op : Call} {Q : op.Ret → Screen → Prop}, op.Orderless → (∀ a, Q a screen) →
      wp unprinted (request op) screen Q fun _ _ => True := by
    intro op Q hop hQ
    apply wp_mono (wp_unprinted (orderless_request hop) screen) _ fun _ _ _ => trivial
    rintro a _ rfl
    exact hQ a
  unfold Transaction.chargeCreditCard
  rw [wp_bind]
  apply hcall (by simp [Call.Orderless])
  intro date
  rw [wp_bind]
  apply wp_mono (wp_unprinted (orderless_chargeItems _) screen) _ fun _ _ _ => trivial
  rintro _ _ rfl
  rw [wp_bind]
  refine wp_perform.mpr ⟨?_, ?_, fun _ _ _ => trivial⟩
  · intro t ht
    cases ht
    exact h
  · rintro _ _ rfl
    rw [wp_bind]
    exact hcall (by simp [Call.Orderless]) fun _ => rfl

theorem prints_confirmOrder (h : Confirming order screen) (cmd : Text) : Prints (confirmOrder u order cmd) screen := by
  rw [confirmOrder]
  split
  · rw [Prints, wp_bind]
    apply wp_quiet
    apply wp_mono (wp_chargeCreditCard h) _ fun _ _ _ => trivial
    rintro u' _ rfl
    rw [wp_bind, wp_display]
    exact prints_mainbby
  · exact prints_cartview

end Checkout

section Account

theorem prints_accshell (haccount : Shown .account (accountLines u) screen)
    (hmenu : Shown .commands accountMenu screen) : Prints (accshell u) screen := by
  apply prints_menu
  · intro v hv
    rcases List.mem_cons.mp hv with rfl | hv
    · exact haccount
    · rw [List.mem_singleton.mp hv]
      exact hmenu
  · rfl
  · trivial

theorem prints_acchelp (h : Shown .account (accountLines u) screen) : Prints (acchelp u) screen := by
  rw [Prints, acchelp, wp_bind, wp_display]
  exact prints_accshell (Shows.menu h (by decide) _) (shown_menu _ _)

theorem prints_account : Prints (account u) screen := by
  rw [Prints, account, wp_bind, wp_display]
  exact prints_acchelp (shown_view (plain_accountBody u) screen)

/-- Some words and back to the account. -/
theorem prints_account_after (lines : Screen) : Prints (do display lines; account u) screen := by
  rw [Prints, wp_bind, wp_display]
  exact prints_account

/-- Whatever becomes of the dialogue, the account is printed at its end. -/
theorem prints_accountAddr (prompt : AddrPrompt) (cmd : Text) :
    Prints (accountAddr u prompt cmd) screen := by
  rw [accountAddr]
  apply wp_ofExcept
  intro answer
  cases answer with
  | next prompt => exact prints_prompt rfl (List.suffix_refl _) trivial
  | reject | decline => exact prints_account_after _
  | accept addr =>
    dsimp only
    rw [Prints, wp_bind]
    exact wp_orderless (only_changeShippingAddress daily_orderless u addr) fun u' => prints_account_after _

theorem prints_accountPay (prompt : PayPrompt) (cmd : Text) :
    Prints (accountPay u prompt cmd) screen := by
  rw [accountPay]
  apply wp_ofExcept
  intro answer
  cases answer with
  | next prompt => exact prints_prompt rfl (List.suffix_refl _) trivial
  | reject | decline => exact prints_account_after _
  | accept cc =>
    dsimp only
    rw [Prints, wp_bind]
    exact wp_orderless (only_changeCreditCard daily_orderless u cc) fun u' => prints_account_after _

theorem prints_tshell (h : Shown .orders (historyLines u.transaction_history) screen) :
    Prints (tshell u) screen := by
  apply prints_menu
  · intro v hv
    rw [List.mem_singleton.mp hv]
    exact h
  · rfl
  · trivial

theorem prints_thelp (h : Shown .orders (historyLines u.transaction_history) screen) :
    Prints (thelp u) screen := by
  rw [Prints, thelp, wp_bind, wp_display]
  exact prints_tshell (Shows.plain h (by simp [historyHelp]))

theorem prints_history : Prints (history u) screen := by
  rw [Prints, history, wp_bind, wp_display]
  exact prints_thelp (shown_view (plain_historyBody _) screen)

/-- An order that is shown leaves the history printed before it. -/
theorem prints_orders (h : Shown .orders (historyLines u.transaction_history) screen)
    (args : List Text) : Prints (orders u args) screen := by
  cases args with
  | nil => exact prints_tshell h
  | cons cmd_part rest =>
    rw [orders]
    split
    · exact prints_exit
    split
    · exact prints_account
    cases stoui cmd_part with
    | error e =>
      cases e with
      | invalid_argument => exact prints_thelp h
      | system_error | out_of_range | runtime_error | undefined => trivial
    | ok t_idx =>
      dsimp only
      cases orderAt u.transaction_history t_idx with
      | none => exact prints_history
      | some t =>
        dsimp only
        rw [Prints, wp_bind, showOrder, wp_bind, wp_display]
        apply wp_orderless (orderless_request (by simp [Call.Orderless]))
        intro _
        exact prints_tshell (Shows.plain h (plain_orderLines t))

end Account

/-- Any command at the main prompt. -/
theorem prints_mainCommand (h : Shown .commands mainMenu screen) (args : List Text) :
    Prints (mainCommand u args) screen := by
  cases args with
  | nil => exact prints_mainshell h
  | cons cmd args =>
    rw [mainCommand]
    split
    · exact prints_exit
    split
    · exact prints_addtocart h args
    split
    · exact prints_cartview
    split
    · exact prints_account
    · rw [Prints, wp_bind, wp_display]
      exact prints_mainhelp

/-- Any command at the cart prompt. -/
theorem prints_cartCommand {invalid_qty : Bool} (hcart : CartShown u invalid_qty screen)
    (hmenu : Shown .commands (cartMenu u.shopping_cart invalid_qty) screen) (args : List Text) :
    Prints (cartCommand u invalid_qty args) screen := by
  cases args with
  | nil => exact prints_cartshell hcart hmenu
  | cons cmd args =>
    rw [cartCommand]
    split
    · exact prints_exit
    split
    · exact prints_mainbby
    split
    · exact prints_remove hcart args
    split
    · exact prints_changeqty hcart args
    split
    · exact prints_clear hcart
    split
    · exact prints_checkout hcart
    · exact prints_refused hcart (plain_unrecognized cmd)

/-- Any command at the account prompt. -/
theorem prints_accountCommand (haccount : Shown .account (accountLines u) screen)
    (hmenu : Shown .commands accountMenu screen) (args : List Text) :
    Prints (accountCommand u args) screen := by
  cases args with
  | nil => exact prints_accshell haccount hmenu
  | cons cmd args =>
    rw [accountCommand]
    split
    · exact prints_exit
    split
    · exact prints_mainbby
    split
    · exact prints_prompt rfl (List.suffix_refl _) trivial
    split
    · exact prints_prompt rfl (List.suffix_refl _) trivial
    split
    · split
      · rw [Prints, wp_bind, wp_display]
        exact prints_accshell (Shows.plain haccount (by simp)) (Shows.plain hmenu (by simp))
      · exact prints_history
    · rw [Prints, wp_bind, wp_display]
      exact prints_acchelp (Shows.plain haccount (plain_unrecognized cmd))

/-- From one prompt to the next. -/
theorem prints_step {p : Proc} (h : Current p screen) (line : Text) :
    Prints (step p line) screen := by
  obtain ⟨u, loc⟩ := p
  have hviews := h.views
  have hsettled := h.settled
  unfold step
  cases loc with
  | mainshell => exact prints_mainCommand (hviews _ List.mem_cons_self) _
  | cartshell invalid_qty =>
    exact prints_cartCommand ⟨hviews _ List.mem_cons_self, hsettled⟩
      (hviews _ (List.mem_cons_of_mem _ List.mem_cons_self)) _
  | useAddress order => exact prints_useAddress hsettled line
  | orderAddr order prompt => exact prints_orderAddr hsettled prompt line
  | usePayment order => exact prints_usePayment hsettled line
  | orderPay order prompt => exact prints_orderPay hsettled prompt line
  | placeOrder order =>
    exact prints_confirmOrder ⟨h.closing .placeOrder rfl, hsettled⟩ line
  | accshell =>
    exact prints_accountCommand (hviews _ List.mem_cons_self)
      (hviews _ (List.mem_cons_of_mem _ List.mem_cons_self)) _
  | accountAddr prompt => exact prints_accountAddr prompt line
  | accountPay prompt => exact prints_accountPay prompt line
  | tshell => exact prints_orders (hviews _ List.mem_cons_self) _
  | exited => exact h

/-- A login that is let in ends with the inventory and the menu. -/
theorem prints_login (username : Text) : Prints (login username) screen := by
  rw [Prints, login, wp_bind, wp_display, wp_bind, wp_attempt]
  apply wp_mono (wp_quiet (wp_unprinted (orderless_request (by simp [Call.Orderless])) _))
  · rintro user _ rfl
    rw [wp_bind, wp_display]
    exact prints_mainbby
  · rintro e _ rfl
    cases e with
    | system_error =>
      rw [wp_bind, wp_display]
      exact current_exited _ _
    | invalid_argument | out_of_range | runtime_error | undefined => trivial

/-- Any number of lines, from a prompt that shows its views. -/
theorem wp_play {p : Proc} (h : Current p screen) (lines : List Text) :
    wp shown (play p lines) screen (fun r screen' => Current r.2 screen') fun _ _ => True := by
  induction lines generalizing p screen with
  | nil => exact h
  | cons line lines ih =>
    rw [play, wp_bind]
    apply wp_mono (prints_step h line) _ fun _ _ _ => trivial
    intro next screen' hnext
    rw [wp_bind]
    exact wp_mono (ih hnext) (fun _ _ h => h) fun _ _ _ => trivial

/-- From the login on, over any handler. -/
theorem wp_session (username : Text) (lines : List Text) :
    wp shown (session username lines) screen (fun r screen' => Current r.2 screen')
      fun _ _ => True := by
  rw [session, wp_bind]
  exact wp_mono (prints_login username) (fun p screen' h => wp_play h lines) fun _ _ _ => trivial

end OnlineShoppingCenter.Console
