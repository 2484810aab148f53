import OnlineShoppingCenter.Shelves

/-!
# The inventory on the screen

A single client at a time. The list of products stays on the screen until it is
printed again, and whatever changes a stock prints it again: at every prompt it
names the products that the database lists and what is on hand of them.
-/
namespace OnlineShoppingCenter.Console

open TextCodec EffectProgram SectionedLog StorageSystem

variable [Platform]

section Commands

variable {u : User} {order : Transaction}

/-- Daily calls leave every stock. -/
theorem daily_steady : Call.Daily Call.Steady := by
  constructor <;> simp [Call.Steady]

theorem lists_waitAt (u : User) (loc : Loc) : Lists (waitAt u loc) :=
  lists_plain (plain_map _ fun _ => rfl) (lists_quiet (only_waitAt daily_steady u loc))

/-- A question prints no inventory and reads nothing. -/
theorem lists_ask (question : Question) : Lists (ask question) :=
  lists_plain (by simp) (lists_quiet (Prog.only_perform (daily_steady.ask question)))

theorem lists_exit (u : User) : Lists (exit u) := lists_plain (by simp) (lists_waitAt u _)

theorem lists_mainshell (u : User) : Lists (mainshell u) := lists_waitAt u _

theorem lists_mainhelp (u : User) : Lists (mainhelp u) :=
  lists_view (by decide) (plain_menu _) (lists_mainshell u)

/-- The loop prints what it reads, and reading it changes nothing that is listed. -/
theorem wp_listInventory_listed (upcs : List SKU) (s : Site World) :
    wp (terminal sys).exact (listInventory upcs) s (fun _ s' => ∃ prodlist : List Product,
      prodlist.map (·.UPC) = upcs ∧
        s'.screen = s.screen ++ prodlist.flatMap (fun p => inventoryLines p.UPC p) ∧
          SameShelves s.world s'.world ∧
            ∀ p ∈ prodlist, s'.world.shelf p.UPC = some (.ok (p.name, p.category, p.quantity)))
      fun _ _ => True := by
  induction upcs generalizing s with
  | nil => exact ⟨[], rfl, by simp, sameShelves_refl _, by simp⟩
  | cons upc upcs ih =>
    rw [listInventory, wp_bind]
    apply wp_terminal_call.mpr
    apply wp_getProduct
    · intro p hp
      have hUPC := hp.sound.1
      subst hUPC
      rw [wp_bind, wp_terminal_display]
      apply wp_mono (ih _) _ fun _ _ h => h
      rintro _ s' ⟨prodlist, hupcs, hscreen, hsame, hcurrent⟩
      have hkept : SameShelves s.world s'.world :=
        ⟨hp.sameShelves.listEntries.trans hsame.listEntries,
          fun name => (hp.sameShelves.entry name).trans (hsame.entry name)⟩
      refine ⟨p :: prodlist, ?_, ?_, hkept, ?_⟩
      · rw [List.map_cons, hupcs]
      · rw [hscreen, List.flatMap_cons, List.append_assoc]
      · intro q hq
        rcases List.mem_cons.mp hq with rfl | hq
        · rw [← hkept.shelf]
          exact hp.shelf
        · exact hcurrent q hq
    · exact fun _ _ _ => trivial

/-- The view prints the inventory anew, so nothing is asked of what was printed before. -/
theorem relists_mainbby (u : User) : Relists (mainbby u) := by
  intro s
  rw [mainbby, wp_bind, wp_terminal_display, wp_bind]
  apply wp_terminal_call.mpr
  apply wp_bind.mpr
  apply wp_listProducts.mpr
  refine EffectProgram.wp_ofExcept.mpr ⟨?_, fun _ _ => trivial⟩
  intro upcs hupcs
  rw [wp_bind]
  apply wp_mono (wp_listInventory_listed upcs _) _ fun _ _ h => h
  rintro _ s' ⟨prodlist, rfl, hscreen, hsame, hcurrent⟩
  have hlisting : Listing s'.world prodlist := by
    constructor
    · rw [← hsame.listEntries]
      exact hupcs
    · exact hcurrent
  have hrows : Plain (prodlist.flatMap fun p => inventoryLines p.UPC p) :=
    plain_flatMap _ fun p => plain_inventoryLines _ _
  have hshown : Shown .inventory (inventoryScreen prodlist) (s'.screen ++ mainMenu) := by
    have hhead : Printed.opens (.heading .inventory) = some .inventory := rfl
    rw [hscreen, List.append_assoc, List.append_assoc]
    apply shows_open hhead
    intro line hline
    rcases List.mem_append.mp hline with hline | hline
    · rw [hrows line hline]
      simp
    · rcases List.mem_cons.mp hline with rfl | hline
      · simp
      · rw [plain_menu _ line hline]
        simp
  rw [mainhelp, wp_bind, wp_terminal_display]
  exact lists_mainshell u _ ⟨prodlist, hlisting, hshown⟩

theorem lists_mainbby (u : User) : Lists (mainbby u) := (relists_mainbby u).lists

/-- The numbers on hand stay as they are when a cart changes. -/
theorem lists_addQuantity (p : Product) (qty : UInt32) : Lists (addQuantity u p qty) := by
  apply lists_plain (plain_addWarning _ _)
  apply lists_bind (lists_quiet (only_addQuantity daily_steady u p qty))
  intro u'
  exact lists_plain (by simp) (lists_mainshell u')

/-- A UPC that is not found leads back to the view, which is printed anew. -/
theorem lists_addtocart (args : List Text) : Lists (addtocart u args) := by
  cases args with
  | nil => exact lists_plain (by simp) (lists_mainhelp u)
  | cons upc_s rest =>
    have honly : (do local_storage.getProduct (← .ofExcept (stoul upc_s)) : ClientM Product).Only
        Call.Steady := (Prog.only_ofExcept _).bind fun _ => only_getProduct daily_steady _
    apply lists_bind (lists_attempt honly)
    intro r
    cases r with
    | error e =>
      cases e with
      | system_error | invalid_argument => exact lists_plain (by simp) (lists_mainbby u)
      | out_of_range | runtime_error | undefined => exact lists_fail _
    | ok prod =>
      cases rest with
      | nil => exact lists_addQuantity prod 1
      | cons qty_s rest =>
        dsimp only
        cases stoui qty_s with
        | error e =>
          cases e with
          | invalid_argument => exact lists_plain (by simp) (lists_mainhelp u)
          | system_error | out_of_range | runtime_error | undefined => exact lists_fail _
        | ok qty => exact lists_addQuantity prod qty

section Cart

variable {invalid_qty : Bool}

theorem lists_cartshell : Lists (cartshell u invalid_qty) := lists_waitAt u _

theorem lists_carthelp : Lists (carthelp u invalid_qty) :=
  lists_view (by decide) (plain_menu _) lists_cartshell

/-- The view of the cart has headings of its own and none of the inventory. -/
theorem lists_cartview : Lists (cartview u) := lists_view (by decide) (plain_cartBody _) lists_carthelp

/-- Some words and back to the commands. -/
theorem lists_refused {lines : Screen} (h : Plain lines) :
    Lists (do display lines; carthelp u invalid_qty) := lists_plain h lists_carthelp

/-- Some words and back to the cart. -/
theorem lists_again {lines : Screen} (h : Plain lines) : Lists (do display lines; cartview u) :=
  lists_plain h lists_cartview

/-- Every way out of the command prints plain lines and the cart. -/
theorem lists_remove (args : List Text) : Lists (remove u invalid_qty args) := by
  cases args with
  | nil => exact lists_refused (by simp)
  | cons upc_s rest =>
    rw [remove]
    split
    · exact lists_refused (by simp)
    · cases stoul upc_s with
      | error e =>
        cases e with
        | invalid_argument => exact lists_again (by simp)
        | system_error | out_of_range | runtime_error | undefined => exact lists_fail _
      | ok sel_upc =>
        dsimp only
        split
        · exact lists_again (by simp)
        · apply lists_bind (lists_quiet (only_remove daily_steady u sel_upc))
          exact fun u' => lists_again (by simp)

/-- The product is read once more, which leaves its number on hand. -/
theorem lists_changeqty (args : List Text) : Lists (changeqty u invalid_qty args) := by
  match args with
  | [] => exact lists_refused (by simp)
  | [upc_s] => exact lists_refused (by simp)
  | upc_s :: qty_s :: rest =>
    rw [changeqty]
    split
    · exact lists_refused (by simp)
    · cases stoul upc_s with
      | error e =>
        cases e with
        | invalid_argument => exact lists_again (by simp)
        | system_error | out_of_range | runtime_error | undefined => exact lists_fail _
      | ok sel_upc =>
        dsimp only
        cases stoui qty_s with
        | error e =>
          cases e with
          | invalid_argument => exact lists_refused (by simp)
          | system_error | out_of_range | runtime_error | undefined => exact lists_fail _
        | ok new_qty =>
          dsimp only
          split
          · exact lists_again (by simp)
          · apply lists_plain (plain_changeWarning _ _)
            apply lists_bind (lists_quiet (only_changeUPCQuantity daily_steady u sel_upc new_qty))
            exact fun u' => lists_again (by simp)

theorem lists_clear : Lists (clear u invalid_qty) := by
  rw [clear]
  split
  · exact lists_refused (by simp)
  · apply lists_bind (lists_quiet (only_emptyCart daily_steady u))
    exact fun u' => lists_plain (by simp) (lists_mainbby u')

end Cart

/-- The lines that lead to the next question of an address. -/
theorem lists_addrLines (prompt : AddrPrompt) (loc : Loc) :
    Lists (do display (addrLines prompt); waitAt u loc) := by
  cases prompt with
  | correct addr => exact lists_led rfl (by decide) (plain_addressLines addr) (lists_waitAt u loc)
  | name1 | name2 | street1 | street2 | city | state | zip | country =>
    exact lists_plain (by simp [addrLines]) (lists_waitAt u loc)

theorem lists_orderAddrPrompt (prompt : AddrPrompt) :
    Lists (do display (orderAddrLines prompt); waitAt u (.orderAddr order prompt)) := by
  cases prompt with
  | name1 => exact lists_plain (by simp [orderAddrLines]) (lists_waitAt u _)
  | name2 | street1 | street2 | city | state | zip | country | correct =>
    simp only [orderAddrLines]
    exact lists_addrLines _ _

theorem lists_accountAddrPrompt (prompt : AddrPrompt) :
    Lists (do display (accountAddrLines prompt); waitAt u (.accountAddr prompt)) := by
  cases prompt with
  | name1 => exact lists_plain (by simp [accountAddrLines]) (lists_waitAt u _)
  | name2 | street1 | street2 | city | state | zip | country | correct =>
    simp only [accountAddrLines]
    exact lists_addrLines _ _

/-- The lines that lead to the next question of a card. -/
theorem lists_payLines (prompt : PayPrompt) (loc : Loc) :
    Lists (do display (payLines prompt); waitAt u loc) := by
  cases prompt with
  | correct cc => exact lists_led rfl (by decide) (by simp) (lists_waitAt u loc)
  | num | exp | cv2 => exact lists_plain (by simp [payLines]) (lists_waitAt u loc)

theorem lists_orderPayPrompt (prompt : PayPrompt) :
    Lists (do display (orderPayLines prompt); waitAt u (.orderPay order prompt)) := by
  cases prompt with
  | num => exact lists_plain (by simp [orderPayLines]) (lists_waitAt u _)
  | exp | cv2 | correct =>
    simp only [orderPayLines]
    exact lists_payLines _ _

theorem lists_accountPayPrompt (prompt : PayPrompt) :
    Lists (do display (accountPayLines prompt); waitAt u (.accountPay prompt)) := by
  cases prompt with
  | num => exact lists_plain (by simp [accountPayLines]) (lists_waitAt u _)
  | exp | cv2 | correct =>
    simp only [accountPayLines]
    exact lists_payLines _ _

/-- The confirmation lists the items of the order, under a heading of its own. -/
theorem lists_placeOrder : Lists (placeOrder u order) :=
  lists_led rfl (by decide) (plain_confirmationBody order) (lists_waitAt u _)

theorem lists_orderNewPay : Lists (orderNewPay u order) := by
  rw [orderNewPay]
  split
  · exact lists_placeOrder
  · exact lists_plain (by simp [orderPayLines]) (lists_waitAt u _)

theorem lists_ordercc : Lists (ordercc u order) := by
  rw [ordercc]
  split
  · exact lists_view (by decide) (by simp) (lists_waitAt u _)
  · exact lists_orderNewPay

theorem lists_orderNewAddr : Lists (orderNewAddr u order (ordercc u order)) := by
  rw [orderNewAddr]
  split
  · exact lists_ordercc
  · exact lists_plain (by simp [orderAddrLines]) (lists_waitAt u _)

theorem lists_orderaddr : Lists (orderaddr u order) := by
  rw [orderaddr]
  split
  · exact lists_view (by decide) (plain_addressLines _) (lists_waitAt u _)
  · exact lists_orderNewAddr

/-- A refusal says what was wrong and prints no view. -/
theorem plain_orderAddrReject (prompt : AddrPrompt) : Plain (orderAddrReject prompt) := by
  cases prompt <;> simp [orderAddrReject, zipLines]

theorem plain_accountAddrReject (prompt : AddrPrompt) : Plain (accountAddrReject prompt) := by
  cases prompt <;> simp [accountAddrReject, zipLines]

theorem plain_orderPayReject (prompt : PayPrompt) : Plain (orderPayReject prompt) := by
  cases prompt <;> simp [orderPayReject]

theorem plain_accountPayReject (prompt : PayPrompt) : Plain (accountPayReject prompt) := by
  rw [accountPayReject, plain_append]
  exact ⟨plain_orderPayReject prompt, by simp⟩

theorem lists_checkout (invalid_qty : Bool) : Lists (checkout u invalid_qty) := by
  rw [checkout]
  split
  · exact lists_refused (by simp)
  · split
    · exact lists_again (by simp)
    · apply lists_bind (lists_quiet (only_buyCart daily_steady _))
      exact fun order => lists_orderaddr

theorem lists_useAddress (cmd : Text) : Lists (useAddress u order cmd) := by
  rw [useAddress]
  split
  · exact lists_plain (by simp) lists_orderNewAddr
  · exact lists_orderNewAddr

/-- The address is stored for the user; products are not touched. -/
theorem lists_orderAddr (prompt : AddrPrompt) (cmd : Text) :
    Lists (orderAddr u order prompt cmd) := by
  rw [orderAddr]
  apply lists_bind (lists_ofExcept _)
  intro answer
  cases answer with
  | next prompt => exact lists_orderAddrPrompt prompt
  | reject => exact lists_plain (plain_orderAddrReject prompt) lists_orderaddr
  | decline => exact lists_plain (by simp) lists_orderaddr
  | accept addr =>
    apply lists_bind (lists_ask .keepAddress)
    intro _
    split
    · apply lists_bind (lists_quiet (only_changeShippingAddress daily_steady u addr))
      exact fun u' => lists_ordercc
    · exact lists_ordercc

theorem lists_usePayment (cmd : Text) : Lists (usePayment u order cmd) := lists_orderNewPay

theorem lists_orderPay (prompt : PayPrompt) (cmd : Text) :
    Lists (orderPay u order prompt cmd) := by
  rw [orderPay]
  apply lists_bind (lists_ofExcept _)
  intro answer
  cases answer with
  | next prompt => exact lists_orderPayPrompt prompt
  | reject => exact lists_plain (plain_orderPayReject prompt) lists_ordercc
  | decline => exact lists_plain (by simp) lists_orderaddr
  | accept cc =>
    apply lists_bind (lists_ask .keepPayment)
    intro _
    split
    · apply lists_bind (lists_quiet (only_changeCreditCard daily_steady u cc))
      exact fun u' => lists_placeOrder
    · exact lists_placeOrder

/-- The stock changes with the order, and the list is printed anew behind it. -/
theorem lists_confirmOrder (cmd : Text) : Lists (confirmOrder u order cmd) := by
  rw [confirmOrder]
  split
  · apply Relists.lists
    apply relists_bind
    intro u'
    exact relists_bind _ fun _ => relists_mainbby u'
  · exact lists_cartview

theorem lists_acchelp : Lists (acchelp u) :=
  lists_view (by decide) (plain_menu _) (lists_waitAt u _)

/-- The account view stands under its own heading. -/
theorem lists_account : Lists (account u) :=
  lists_view (by decide) (plain_accountBody u) lists_acchelp

theorem lists_accountAddr (prompt : AddrPrompt) (cmd : Text) : Lists (accountAddr u prompt cmd) := by
  rw [accountAddr]
  apply lists_bind (lists_ofExcept _)
  intro answer
  cases answer with
  | next prompt => exact lists_accountAddrPrompt prompt
  | reject => exact lists_plain (plain_accountAddrReject prompt) lists_account
  | decline => exact lists_plain (by simp) lists_account
  | accept addr =>
    apply lists_bind (lists_quiet (only_changeShippingAddress daily_steady u addr))
    exact fun u' => lists_plain (by simp) lists_account

theorem lists_accountPay (prompt : PayPrompt) (cmd : Text) : Lists (accountPay u prompt cmd) := by
  rw [accountPay]
  apply lists_bind (lists_ofExcept _)
  intro answer
  cases answer with
  | next prompt => exact lists_accountPayPrompt prompt
  | reject => exact lists_plain (plain_accountPayReject prompt) lists_account
  | decline => exact lists_plain (by simp) lists_account
  | accept cc =>
    apply lists_bind (lists_quiet (only_changeCreditCard daily_steady u cc))
    exact fun u' => lists_plain (by simp) lists_account

theorem lists_thelp : Lists (thelp u) := lists_plain (by simp [historyHelp]) (lists_waitAt u _)

variable [Terminal]

/-- So does the order history. -/
theorem lists_history : Lists (history u) :=
  lists_view (by decide) (plain_historyBody _) lists_thelp

/-- An order that is shown has no inventory in it. -/
theorem lists_orders (args : List Text) : Lists (orders u args) := by
  cases args with
  | nil => exact lists_waitAt u _
  | cons cmd_part rest =>
    rw [orders]
    split
    · exact lists_exit u
    · split
      · exact lists_account
      · cases stoui cmd_part with
        | error e =>
          cases e with
          | invalid_argument => exact lists_thelp
          | system_error | out_of_range | runtime_error | undefined => exact lists_fail _
        | ok t_idx =>
          dsimp only
          cases orderAt u.transaction_history t_idx with
          | none => exact lists_history
          | some t =>
            apply lists_bind _ fun _ => lists_waitAt u _
            apply lists_plain (plain_orderLines t)
            exact lists_quiet (Prog.only_perform (daily_steady.showOrder t))

omit [Terminal] in
/-- Any command at the main prompt. -/
theorem lists_mainCommand (args : List Text) : Lists (mainCommand u args) := by
  cases args with
  | nil => exact lists_mainshell u
  | cons cmd args =>
    rw [mainCommand]
    split
    · exact lists_exit u
    · split
      · exact lists_addtocart args
      · split
        · exact lists_cartview
        · split
          · exact lists_account
          · exact lists_plain (plain_unrecognized cmd) (lists_mainhelp u)

omit [Terminal] in
theorem lists_cartCommand (invalid_qty : Bool) (args : List Text) :
    Lists (cartCommand u invalid_qty args) := by
  cases args with
  | nil => exact lists_cartshell
  | cons cmd args =>
    rw [cartCommand]
    split
    · exact lists_exit u
    · split
      · exact lists_mainbby u
      · split
        · exact lists_remove args
        · split
          · exact lists_changeqty args
          · split
            · exact lists_clear
            · split
              · exact lists_checkout invalid_qty
              · exact lists_refused (plain_unrecognized cmd)

theorem lists_accountCommand (args : List Text) : Lists (accountCommand u args) := by
  cases args with
  | nil => exact lists_waitAt u _
  | cons cmd args =>
    rw [accountCommand]
    split
    · exact lists_exit u
    · split
      · exact lists_mainbby u
      · split
        · exact lists_accountAddrPrompt .name1
        · split
          · exact lists_accountPayPrompt .num
          · split
            · split
              · exact lists_plain (by simp) (lists_waitAt u _)
              · exact lists_history
            · exact lists_plain (plain_unrecognized cmd) lists_acchelp

/-- Any line at any prompt. -/
theorem lists_step (p : Proc) (line : Text) : Lists (step p line) := by
  unfold step
  cases p.loc with
  | mainshell => exact lists_mainCommand _
  | cartshell invalid_qty => exact lists_cartCommand invalid_qty _
  | useAddress order => exact lists_useAddress line
  | orderAddr order prompt => exact lists_orderAddr prompt line
  | usePayment order => exact lists_usePayment line
  | orderPay order prompt => exact lists_orderPay prompt line
  | placeOrder order => exact lists_confirmOrder line
  | accshell => exact lists_accountCommand _
  | accountAddr prompt => exact lists_accountAddr prompt line
  | accountPay prompt => exact lists_accountPay prompt line
  | tshell => exact lists_orders _
  | exited => exact lists_ret p

/-- Any number of lines, from a prompt at which the list is current. -/
theorem lists_play (p : Proc) (lines : List Text) : Lists (play p lines) := by
  induction lines generalizing p with
  | nil => exact lists_ret _
  | cons line lines ih =>
    apply lists_bind (lists_step p line)
    intro next
    exact lists_bind (ih next) fun _ => lists_ret _

/-- After the exit nothing is printed and nothing is called. -/
theorem wp_play_exited {p : Proc} (hp : p.loc = .exited) (lines : List Text) {s : Site World} :
    wp (terminal sys).exact (play p lines) s (fun r _ => r.2.loc = .exited) fun _ _ => True := by
  induction lines generalizing s with
  | nil => exact hp
  | cons line lines ih =>
    have hstep : step p line = .ret p := by
      unfold step
      rw [hp]
      rfl
    rw [play, hstep, Prog.ret_bind, wp_bind]
    exact wp_mono ih (fun _ _ h => h) fun _ _ h => h

end Commands

section Runs

variable [Terminal]

/-- A session that a client has alone, on any databases and behind any earlier
output: at every prompt the list last printed, with nothing between it and the
menu, is the one of the database as it is now. -/
theorem inventory_current (username : Text) (lines : List Text) (s : Site World) :
    Ends (fun r s' => r.2.loc = .exited ∨ InventoryShown s') (fun _ _ => True)
      (run (terminal sys) (session username lines) s).1
      (run (terminal sys) (session username lines) s).2 := by
  rw [← wp_exact, session, wp_bind, login, wp_bind, wp_terminal_display, wp_bind, wp_attempt]
  apply wp_mono (wp_true _ _)
  · intro user s' _
    rw [wp_bind, wp_terminal_display]
    apply wp_mono (relists_mainbby user _) _ fun _ _ h => h
    intro p s'' hs''
    exact wp_mono (lists_play p lines s'' hs'') (fun _ _ h => .inr h) fun _ _ h => h
  · intro e s' _
    cases e with
    | system_error =>
      rw [wp_bind, wp_terminal_display]
      change wp (terminal sys).exact (play {} lines) _ _ _
      exact wp_mono (wp_play_exited rfl lines) (fun _ _ h => .inl h) fun _ _ h => h
    | invalid_argument | out_of_range | runtime_error | undefined => trivial

end Runs

end OnlineShoppingCenter.Console
