import OnlineShoppingCenter.Checkout
import OnlineShoppingCenter.ScreenRules

/-!
# What a customer reads

In every run, and however the calls are answered: each prompt shows its views,
the last menu names just the commands that are carried out there, and an order
is stored only as it stood on the screen when the customer was asked.
-/
namespace OnlineShoppingCenter

open TextCodec EffectProgram SectionedLog

namespace Console

variable [Platform]

section Runs

variable [Terminal] {W : Type}

theorem current_of_run {H : Handler clientSig Exn W} {username : Text} {lines : List Text}
    {s s' : Site W} {r : Trail × Proc}
    (hrun : run (terminal H) (session username lines) s = (.ok r, s')) :
    Current r.2 s'.screen := by
  obtain ⟨screen, hscreen, hend⟩ :=
    wp_run (implements_shown H) rfl (wp_session username lines) (w := s)
  rw [hrun] at hscreen hend
  rw [hscreen]
  exact hend

/-- A session that has read its lines stands at a prompt that shows its views. -/
theorem screen_current (H : Handler clientSig Exn W) (username : Text) (lines : List Text)
    (s : Site W) :
    Ends (fun r s' => Current r.2 s'.screen) (fun _ _ => True)
      (run (terminal H) (session username lines) s).1
      (run (terminal H) (session username lines) s).2 := by
  cases hrun : run (terminal H) (session username lines) s with
  | mk outcome s' =>
    cases outcome with
    | ok r => exact current_of_run hrun
    | error e => trivial

theorem orders_stored_as_confirmed (H : Handler clientSig Exn W) (username : Text)
    (lines : List Text) (s : Site W) {v : Site W × Op} {t : Transaction}
    (hv : v ∈ visits (terminal H) (session username lines) s)
    (hstore : v.2 = .call (.storeTransaction t)) :
    confirmationLines t ++ [out Question.placeOrder.text] <:+ v.1.screen ∧
      t.transaction_amount = t.shopping_cart.total := by
  obtain ⟨screen, rfl, hpre⟩ := pre_of_wp (implements_shown H) rfl (wp_session username lines) v hv
  exact hpre t hstore

end Runs

/-- A menu is on the screen that names the command. -/
def Offers (command : Command) (screen : Screen) : Prop :=
  ∃ commands, Shown .commands (menu commands) screen ∧ command ∈ commands

end Console

/-- The word that calls a command. -/
def Command.word : Command → Text
  | .addtocart => "addtocart".toList
  | .cart => "cart".toList
  | .account => "account".toList
  | .changeqty => "changeqty".toList
  | .remove => "remove".toList
  | .clear => "clear".toList
  | .checkout => "checkout".toList
  | .addr => "addr".toList
  | .pay => "pay".toList
  | .orders => "orders".toList
  | .back => "back".toList
  | .exit => "exit".toList

/-- How many arguments a command cannot do without. -/
def Command.arity : Command → Nat
  | .addtocart | .remove => 1
  | .changeqty => 2
  | .cart | .account | .clear | .checkout | .addr | .pay | .orders | .back | .exit => 0

namespace Console

theorem usage_injective {command command' : Command} (h : command.usage = command'.usage) :
    command = command' := by
  revert h
  cases command <;> cases command' <;> simp [Command.usage]

variable [Platform]

theorem usage_ne_blank (command : Command) : out command.usage ≠ out "\n" := by
  intro h
  have hformat : command.usage = "\n" := by
    injection h
  revert hformat
  cases command <;> simp [Command.usage]

/-- A menu is told from its lines. -/
theorem eq_of_menu_heads {commands commands' : List Command}
    (h : menu commands <+: menu commands') : commands = commands' := by
  have htail := (List.cons_prefix_cons.mp h).2
  clear h
  induction commands generalizing commands' with
  | nil =>
    cases commands' with
    | nil => rfl
    | cons command' rest' =>
      have hhead := (List.cons_prefix_cons.mp htail).1
      exact absurd hhead.symm (usage_ne_blank command')
  | cons command rest ih =>
    cases commands' with
    | nil =>
      have hhead := (List.cons_prefix_cons.mp htail).1
      exact absurd hhead (usage_ne_blank command)
    | cons command' rest' =>
      obtain ⟨hhead, hrest⟩ := List.cons_prefix_cons.mp htail
      have husage : command.usage = command'.usage := by
        injection hhead
      rw [usage_injective husage, ih hrest]

theorem offers_iff {commands : List Command} {screen : Screen}
    (h : Shown .commands (menu commands) screen) (command : Command) :
    Offers command screen ↔ command ∈ commands := by
  constructor
  · rintro ⟨commands', h', hmem⟩
    rcases Shows.prefix_or h h' with hp | hp
    · rwa [eq_of_menu_heads hp]
    · rwa [← eq_of_menu_heads hp]
  · intro hmem
    exact ⟨commands, h, hmem⟩

/-- The words with which a command is turned down, whatever its arguments: it is
none of the menu, or the cart does not allow it. -/
def rejections : List String :=
  ["'%s' is an unrecognized command.\n", "Cart is empty. Nothing to remove.\n",
    "Cart is empty. No item quantities to change.\n", "Cart is empty. Nothing to do.\n",
    "Cannot checkout with an empty cart.\n",
    "Cart contains one or more invalid quantities. Cannot checkout.\n"]

/-- What a program says before it does anything. -/
def firstLine {α : Type} : ConsoleM α → Option Printed
  | .call (.print line) _ => some line
  | .call (.call _) _ | .ret _ | .fail _ => none

def TurnedDown {α : Type} (m : ConsoleM α) : Prop :=
  ∃ format ∈ rejections, ∃ args, firstLine m = some (err format args)

section FirstLine

variable {α β : Type}

theorem turnedDown_display {format : String} (h : format ∈ rejections) (args : List Arg)
    (lines : Screen) (f : Unit → ConsoleM α) :
    TurnedDown (display (err format args :: lines) >>= f) := ⟨format, h, args, rfl⟩

theorem not_turnedDown_out (format : String) (args : List Arg) (lines : Screen)
    (f : Unit → ConsoleM α) : ¬ TurnedDown (display (out format args :: lines) >>= f) := by
  rintro ⟨_, _, _, hfirst⟩
  cases hfirst

theorem not_turnedDown_heading (h : Heading) (lines : Screen) (f : Unit → ConsoleM α) :
    ¬ TurnedDown (display (.heading h :: lines) >>= f) := by
  rintro ⟨_, _, _, hfirst⟩
  cases hfirst

theorem not_turnedDown_err {format : String} (h : format ∉ rejections) (args : List Arg)
    (lines : Screen) (f : Unit → ConsoleM α) :
    ¬ TurnedDown (display (err format args :: lines) >>= f) := by
  rintro ⟨format', hmem, args', hfirst⟩
  cases hfirst
  exact h hmem

theorem not_turnedDown_fail (e : Exn) : ¬ TurnedDown (.fail e : ConsoleM α) := by
  rintro ⟨_, _, _, hfirst⟩
  cases hfirst

theorem not_turnedDown_call (op : Call) (k : Except Exn op.Ret → ConsoleM α) :
    ¬ TurnedDown (.call (.call op) k : ConsoleM α) := by
  rintro ⟨_, _, _, hfirst⟩
  cases hfirst

end FirstLine

section Commands

omit [Platform] in
theorem word_injective {command command' : Command} (h : command.word = command'.word) :
    command = command' := by
  cases command <;> cases command' <;> first | rfl | exact absurd h (by decide)

variable {u : User} {m : ConsoleM Proc} {commands : List Command} {word : Text} {args : List Text}

/-- The arguments a word needs are there. -/
def EnoughArgs (word : Text) (args : List Text) : Prop :=
  ∀ command : Command, command.word = word → command.arity ≤ args.length

omit [Platform] in
/-- A word is off the menu when its command is. -/
theorem off_menu (command : Command) (hword : word = command.word) :
    (∀ c ∈ commands, c.word ≠ word) ↔ command ∉ commands := by
  subst hword
  constructor
  · exact fun hall hmem => hall command hmem rfl
  · rintro hnot c hc hword
    rw [word_injective hword] at hc
    exact hnot hc

theorem carried_out (command : Command) (hword : word = command.word) (hmem : command ∈ commands)
    (h : ¬ TurnedDown m) : TurnedDown m ↔ ∀ c ∈ commands, c.word ≠ word := by
  rw [off_menu command hword]
  exact iff_of_false h (not_not_intro hmem)

theorem turnedDown_addtocart (h : EnoughArgs "addtocart".toList args) :
    ¬ TurnedDown (addtocart u args) := by
  cases args with
  | nil => exact absurd (h .addtocart rfl) (by decide)
  | cons upc_s rest =>
    rw [addtocart]
    cases stoul upc_s with
    | error e =>
      cases e with
      | invalid_argument | system_error => exact not_turnedDown_err (by decide) _ _ _
      | out_of_range | runtime_error | undefined => exact not_turnedDown_fail _
    | ok upc => exact not_turnedDown_call _ _

theorem turnedDown_exit : ¬ TurnedDown (exit u) := not_turnedDown_out _ _ _ _

theorem turnedDown_mainbby : ¬ TurnedDown (mainbby u) := not_turnedDown_heading _ _ _

/-- A word that calls nothing. -/
theorem turnedDown_unrecognized (k : Unit → ConsoleM Proc) :
    TurnedDown (display (unrecognized word) >>= k) := turnedDown_display (by decide) _ _ _

def mainCommands : List Command := [.addtocart, .cart, .account, .exit]

theorem turnedDown_mainCommand (h : EnoughArgs word args) :
    TurnedDown (mainCommand u (word :: args)) ↔ ∀ c ∈ mainCommands, c.word ≠ word := by
  rw [mainCommand]
  by_cases hexit : word = "exit".toList
  · rw [if_pos hexit]
    exact carried_out .exit hexit (by simp [mainCommands]) turnedDown_exit
  rw [if_neg hexit]
  by_cases hadd : word = "addtocart".toList
  · rw [if_pos hadd]
    subst hadd
    exact carried_out .addtocart rfl (by simp [mainCommands]) (turnedDown_addtocart h)
  rw [if_neg hadd]
  by_cases hcart : word = "cart".toList
  · rw [if_pos hcart]
    exact carried_out .cart hcart (by simp [mainCommands]) (not_turnedDown_heading _ _ _)
  rw [if_neg hcart]
  by_cases haccount : word = "account".toList
  · rw [if_pos haccount]
    exact carried_out .account haccount (by simp [mainCommands]) (not_turnedDown_heading _ _ _)
  rw [if_neg haccount]
  refine iff_of_true (turnedDown_unrecognized _) ?_
  unfold mainCommands
  simp only [List.forall_mem_cons]
  exact ⟨Ne.symm hadd, Ne.symm hcart, Ne.symm haccount, Ne.symm hexit, by simp⟩

def accountCommands : List Command := [.addr, .pay, .orders, .back, .exit]

theorem turnedDown_accountCommand [Terminal] :
    TurnedDown (accountCommand u (word :: args)) ↔ ∀ c ∈ accountCommands, c.word ≠ word := by
  rw [accountCommand]
  by_cases hexit : word = "exit".toList
  · rw [if_pos hexit]
    exact carried_out .exit hexit (by simp [accountCommands]) turnedDown_exit
  rw [if_neg hexit]
  by_cases hback : word = "back".toList
  · rw [if_pos hback]
    exact carried_out .back hback (by simp [accountCommands]) turnedDown_mainbby
  rw [if_neg hback]
  by_cases haddr : word = "addr".toList
  · rw [if_pos haddr]
    exact carried_out .addr haddr (by simp [accountCommands]) (not_turnedDown_out _ _ _ _)
  rw [if_neg haddr]
  by_cases hpay : word = "pay".toList
  · rw [if_pos hpay]
    exact carried_out .pay hpay (by simp [accountCommands]) (not_turnedDown_out _ _ _ _)
  rw [if_neg hpay]
  by_cases horders : word = "orders".toList
  · rw [if_pos horders]
    refine carried_out .orders horders (by simp [accountCommands]) ?_
    split
    · exact not_turnedDown_out _ _ _ _
    · exact not_turnedDown_heading _ _ _
  rw [if_neg horders]
  refine iff_of_true (turnedDown_unrecognized _) ?_
  unfold accountCommands
  simp only [List.forall_mem_cons]
  exact ⟨Ne.symm haddr, Ne.symm hpay, Ne.symm horders, Ne.symm hback, Ne.symm hexit, by simp⟩

theorem turnedDown_remove {invalid_qty : Bool} (h : EnoughArgs "remove".toList args) :
    TurnedDown (remove u invalid_qty args) ↔ u.shopping_cart.isEmpty = true := by
  cases args with
  | nil => exact absurd (h .remove rfl) (by decide)
  | cons upc_s rest =>
    rw [remove]
    by_cases hempty : u.shopping_cart.isEmpty = true
    · rw [if_pos hempty]
      exact iff_of_true (turnedDown_display (by decide) _ _ _) hempty
    · rw [if_neg hempty]
      refine iff_of_false ?_ hempty
      cases stoul upc_s with
      | error e =>
        cases e with
        | invalid_argument => exact not_turnedDown_err (by decide) _ _ _
        | system_error | out_of_range | runtime_error | undefined => exact not_turnedDown_fail _
      | ok sel_upc =>
        dsimp only
        split
        · exact not_turnedDown_err (by decide) _ _ _
        · exact not_turnedDown_call _ _

theorem turnedDown_changeqty {invalid_qty : Bool} (h : EnoughArgs "changeqty".toList args) :
    TurnedDown (changeqty u invalid_qty args) ↔ u.shopping_cart.isEmpty = true := by
  match args with
  | [] => exact absurd (h .changeqty rfl) (by decide)
  | [upc_s] => exact absurd (h .changeqty rfl) (by simp [Command.arity])
  | upc_s :: qty_s :: rest =>
    rw [changeqty]
    by_cases hempty : u.shopping_cart.isEmpty = true
    · rw [if_pos hempty]
      exact iff_of_true (turnedDown_display (by decide) _ _ _) hempty
    · rw [if_neg hempty]
      refine iff_of_false ?_ hempty
      cases stoul upc_s with
      | error e =>
        cases e with
        | invalid_argument => exact not_turnedDown_err (by decide) _ _ _
        | system_error | out_of_range | runtime_error | undefined => exact not_turnedDown_fail _
      | ok sel_upc =>
        dsimp only
        cases stoui qty_s with
        | error e =>
          cases e with
          | invalid_argument => exact not_turnedDown_err (by decide) _ _ _
          | system_error | out_of_range | runtime_error | undefined => exact not_turnedDown_fail _
        | ok new_qty =>
          dsimp only
          split
          · exact not_turnedDown_err (by decide) _ _ _
          · unfold changeWarning
            split
            · exact not_turnedDown_err (by decide) _ _ _
            · exact not_turnedDown_call _ _

theorem turnedDown_clear {invalid_qty : Bool} :
    TurnedDown (clear u invalid_qty) ↔ u.shopping_cart.isEmpty = true := by
  rw [clear]
  by_cases hempty : u.shopping_cart.isEmpty = true
  · rw [if_pos hempty]
    exact iff_of_true (turnedDown_display (by decide) _ _ _) hempty
  · rw [if_neg hempty]
    exact iff_of_false (not_turnedDown_call _ _) hempty

theorem turnedDown_checkout {invalid_qty : Bool} :
    TurnedDown (checkout u invalid_qty) ↔
      u.shopping_cart.isEmpty = true ∨ invalid_qty = true := by
  rw [checkout]
  by_cases hempty : u.shopping_cart.isEmpty = true
  · rw [if_pos hempty]
    exact iff_of_true (turnedDown_display (by decide) _ _ _) (.inl hempty)
  rw [if_neg hempty]
  by_cases hflag : invalid_qty = true
  · rw [if_pos hflag]
    exact iff_of_true (turnedDown_display (by decide) _ _ _) (.inr hflag)
  · rw [if_neg hflag]
    refine iff_of_false ?_ (by simp [hempty, hflag])
    unfold ShoppingCart.buyCart
    split
    · exact not_turnedDown_fail _
    · exact not_turnedDown_call _ _

/-- What a menu of the cart leaves out. -/
theorem mem_cartCommands {c : ShoppingCart} {invalid_qty : Bool} {command : Command} :
    command ∈ cartCommands c invalid_qty ↔
      (command ∈ [Command.changeqty, .remove, .clear] ∧ c.isEmpty = false) ∨
        (command = .checkout ∧ c.isEmpty = false ∧ invalid_qty = false) ∨
          command ∈ [Command.back, .exit] := by
  unfold cartCommands
  cases c.isEmpty <;> cases invalid_qty <;> simp [or_assoc]

theorem turnedDown_cartCommand {invalid_qty : Bool} (h : EnoughArgs word args) :
    TurnedDown (cartCommand u invalid_qty (word :: args)) ↔
      ∀ c ∈ cartCommands u.shopping_cart invalid_qty, c.word ≠ word := by
  rw [cartCommand]
  by_cases hexit : word = "exit".toList
  · rw [if_pos hexit]
    exact carried_out .exit hexit (by simp [mem_cartCommands]) turnedDown_exit
  rw [if_neg hexit]
  by_cases hback : word = "back".toList
  · rw [if_pos hback]
    exact carried_out .back hback (by simp [mem_cartCommands]) turnedDown_mainbby
  rw [if_neg hback]
  by_cases hremove : word = "remove".toList
  · rw [if_pos hremove, off_menu .remove hremove, mem_cartCommands]
    subst hremove
    rw [turnedDown_remove h]
    simp
  rw [if_neg hremove]
  by_cases hchange : word = "changeqty".toList
  · rw [if_pos hchange, off_menu .changeqty hchange, mem_cartCommands]
    subst hchange
    rw [turnedDown_changeqty h]
    simp
  rw [if_neg hchange]
  by_cases hclear : word = "clear".toList
  · rw [if_pos hclear, off_menu .clear hclear, mem_cartCommands, turnedDown_clear]
    simp
  rw [if_neg hclear]
  by_cases hcheckout : word = "checkout".toList
  · rw [if_pos hcheckout, off_menu .checkout hcheckout, mem_cartCommands, turnedDown_checkout]
    cases u.shopping_cart.isEmpty <;> cases invalid_qty <;> simp
  rw [if_neg hcheckout]
  refine iff_of_true (turnedDown_unrecognized _) ?_
  intro c hc hword
  rcases mem_cartCommands.mp hc with ⟨hmem, -⟩ | ⟨rfl, -⟩ | hmem
  · simp only [List.mem_cons, List.not_mem_nil, or_false] at hmem
    rcases hmem with rfl | rfl | rfl
    · exact hchange hword.symm
    · exact hremove hword.symm
    · exact hclear hword.symm
  · exact hcheckout hword.symm
  · simp only [List.mem_cons, List.not_mem_nil, or_false] at hmem
    rcases hmem with rfl | rfl
    · exact hback hword.symm
    · exact hexit hword.symm

end Commands

/-- The commands of a menu prompt. -/
def menuOf (u : User) : Loc → Option (List Command)
  | .mainshell => some mainCommands
  | .cartshell invalid_qty => some (cartCommands u.shopping_cart invalid_qty)
  | .accshell => some accountCommands
  | .useAddress _ | .orderAddr .. | .usePayment _ | .orderPay .. | .placeOrder _ | .accountAddr _
  | .accountPay _ | .tshell | .exited => none

theorem shown_menuOf [Terminal] {p : Proc} {screen : Screen} {commands : List Command}
    (h : Current p screen) (hmenu : menuOf p.logged_in p.loc = some commands) :
    Shown .commands (menu commands) screen := by
  obtain ⟨u, loc⟩ := p
  have hviews := h.views
  cases loc with
  | mainshell =>
    cases hmenu
    exact hviews _ List.mem_cons_self
  | cartshell | accshell =>
    cases hmenu
    exact hviews _ (List.mem_cons_of_mem _ List.mem_cons_self)
  | useAddress | orderAddr | usePayment | orderPay | placeOrder | accountAddr | accountPay | tshell
  | exited => cases hmenu

theorem turnedDown_step [Terminal] {p : Proc} {commands : List Command} {line word : Text}
    {args : List Text} (hmenu : menuOf p.logged_in p.loc = some commands)
    (hline : split line ' ' = word :: args) (h : EnoughArgs word args) :
    TurnedDown (step p line) ↔ ∀ c ∈ commands, c.word ≠ word := by
  obtain ⟨u, loc⟩ := p
  unfold step
  dsimp only at hmenu ⊢
  cases loc with
  | mainshell =>
    cases hmenu
    simp only [hline]
    exact turnedDown_mainCommand h
  | cartshell invalid_qty =>
    cases hmenu
    simp only [hline]
    exact turnedDown_cartCommand h
  | accshell =>
    cases hmenu
    simp only [hline]
    exact turnedDown_accountCommand
  | useAddress | orderAddr | usePayment | orderPay | placeOrder | accountAddr | accountPay | tshell
  | exited => cases hmenu

/-- A command with its arguments is turned down just when the menu that was
printed last does not name it. -/
theorem menu_exact [Terminal] {W : Type} {H : Handler clientSig Exn W} {username : Text}
    {lines : List Text} {s s' : Site W} {r : Trail × Proc} {line word : Text} {args : List Text}
    (hrun : run (terminal H) (session username lines) s = (.ok r, s'))
    (hloc : (menuOf r.2.logged_in r.2.loc).isSome = true) (hline : split line ' ' = word :: args)
    (hargs : EnoughArgs word args) :
    TurnedDown (step r.2 line) ↔ ¬ ∃ c, Offers c s'.screen ∧ c.word = word := by
  obtain ⟨commands, hmenu⟩ := Option.isSome_iff_exists.mp hloc
  have hshown := shown_menuOf (current_of_run hrun) hmenu
  rw [turnedDown_step hmenu hline hargs]
  simp only [offers_iff hshown, not_exists, not_and]

omit [Platform] in
theorem enoughArgs_checkout (args : List Text) : EnoughArgs "checkout".toList args := by
  intro command hword
  have hcommand : command = .checkout := word_injective hword
  rw [hcommand]
  exact Nat.zero_le _

/-- The order a call stores. -/
def storedOrder : Op → Option Transaction
  | .call (.storeTransaction t) => some t
  | _ => none

end Console

end OnlineShoppingCenter

namespace OnlineShoppingCenter.Console

open TextCodec EffectProgram

attribute [local instance] posix posixTerminal

/-- One toy is paid for with what is on file. -/
theorem sample_order_confirmed : ∃ v ∈ visits (terminal sys)
    (session "testuser001".toList (sampleLines ++ ["y".toList])) ⟨sampleWorld, []⟩,
      ∃ t, v.2 = .call (.storeTransaction t) ∧
        confirmationLines t ++ [out Question.placeOrder.text] <:+ v.1.screen ∧
          t.transaction_amount = t.shopping_cart.total := by
  have hsome : ((visits (terminal sys)
      (session "testuser001".toList (sampleLines ++ ["y".toList])) ⟨sampleWorld, []⟩).findSome?
        fun v => storedOrder v.2).isSome := by
    decide +kernel
  obtain ⟨t, ht⟩ := Option.isSome_iff_exists.mp hsome
  obtain ⟨v, hv, hstored⟩ := List.exists_of_findSome?_eq_some ht
  have hstore : v.2 = .call (.storeTransaction t) := by
    unfold storedOrder at hstored
    split at hstored
    · cases hstored
      assumption
    · cases hstored
  exact ⟨v, hv, t, hstore, orders_stored_as_confirmed sys _ _ _ hv hstore⟩

/-- Nothing is offered to be paid for in an empty cart; with a toy in the cart it is. -/
theorem sample_menu_exact :
    (∃ r s', run (terminal sys) (session "testuser001".toList ["cart".toList]) ⟨sampleWorld, []⟩ =
      (.ok r, s') ∧ (TurnedDown (step r.2 "checkout".toList) ↔
        ¬ ∃ c, Offers c s'.screen ∧ c.word = "checkout".toList)) ∧
      ∃ r s', run (terminal sys) (session "testuser001".toList
          ["addtocart 653569401025".toList, "cart".toList]) ⟨sampleWorld, []⟩ =
        (.ok r, s') ∧ (TurnedDown (step r.2 "checkout".toList) ↔
          ¬ ∃ c, Offers c s'.screen ∧ c.word = "checkout".toList) := by
  have hline : split "checkout".toList ' ' = ["checkout".toList] := by decide
  have hargs := enoughArgs_checkout []
  have hexact : ∀ lines, ((run (terminal sys) (session "testuser001".toList lines)
      ⟨sampleWorld, []⟩).1.toOption.any fun r => (menuOf r.2.logged_in r.2.loc).isSome) = true →
        ∃ r s', run (terminal sys) (session "testuser001".toList lines) ⟨sampleWorld, []⟩ =
          (.ok r, s') ∧ (TurnedDown (step r.2 "checkout".toList) ↔
            ¬ ∃ c, Offers c s'.screen ∧ c.word = "checkout".toList) := by
    intro lines hprompt
    cases hrun : run (terminal sys) (session "testuser001".toList lines) ⟨sampleWorld, []⟩ with
    | mk outcome s' =>
      rw [hrun] at hprompt
      obtain ⟨r, rfl, hloc⟩ := ok_of_any hprompt
      exact ⟨r, s', rfl, menu_exact hrun hloc hline hargs⟩
  exact ⟨hexact _ (by decide +kernel), hexact _ (by decide +kernel)⟩

end OnlineShoppingCenter.Console
