import OnlineShoppingCenter.Console
import OnlineShoppingCenter.Layers

/-!
# Leaving out what is printed

With every printed line left out, `main` with its terminal is `main` without.
What is proved about the prompts and the databases is so proved about the
program that prints.
-/
namespace OnlineShoppingCenter.Console

open TextCodec EffectProgram

variable [Platform]

/-- Calls stay, and a printed line is nothing. -/
def silent : (op : Op) → ClientM op.Ret
  | .call op => Prog.perform (S := clientSig) op
  | .print _ => .ret ()

/-- A program with its printed lines left out. -/
def erase {α : Type} (m : ConsoleM α) : ClientM α := Prog.interp (S := sig) silent m

section Constructs

variable {α β : Type}

@[simp] theorem erase_ret (a : α) : erase (.ret a) = .ret a := rfl
@[simp] theorem erase_fail (e : Exn) : erase (.fail e : ConsoleM α) = .fail e := rfl

@[simp] theorem erase_bind (m : ConsoleM α) (f : α → ConsoleM β) :
    erase (m >>= f) = erase m >>= fun a => erase (f a) := Prog.interp_bind (S := sig) silent m f

@[simp] theorem erase_attempt (m : ConsoleM α) : erase m.attempt = (erase m).attempt :=
  Prog.interp_attempt (S := sig) silent m

@[simp] theorem erase_ofExcept (r : Except Exn α) : erase (.ofExcept r) = .ofExcept r :=
  Prog.interp_ofExcept (S := sig) silent r

@[simp] theorem erase_ite (c : Prop) [Decidable c] (m n : ConsoleM α) :
    erase (if c then m else n) = if c then erase m else erase n := Prog.interp_ite (S := sig) silent c m n

/-- Lines that are printed leave nothing behind. -/
@[simp] theorem erase_display (lines : Screen) : erase (display lines) = .ret () := by
  induction lines with
  | nil => rfl
  | cons line lines ih =>
    rw [display, erase_bind, ih]
    rfl

/-- A program that prints nothing stays what it is. -/
@[simp] theorem erase_quiet (m : ClientM α) : erase (quiet m) = m := by
  have hcall : (fun op => erase (call op)) = Prog.perform (S := clientSig) := by
    funext op
    exact Prog.interp_perform (S := sig) silent (.call op)
  calc erase (quiet m)
    _ = m.interp fun op => erase (call op) := Prog.interp_interp (S := clientSig) (T := sig) call silent m
    _ = m.interp (Prog.perform (S := clientSig)) := congrArg m.interp hcall
    _ = m := Prog.interp_self m

end Constructs

/-- The question is printed; that it is asked stays. -/
@[simp] theorem erase_waitAt (u : User) (loc : Loc) :
    erase (waitAt u loc) = OnlineShoppingCenter.waitAt u loc := by
  simp [waitAt]

@[simp] theorem erase_ask (question : Question) :
    erase (ask question) = OnlineShoppingCenter.ask question := by
  simp [ask]

@[simp] theorem erase_exit (u : User) : erase (exit u) = OnlineShoppingCenter.exit u := by
  simp [exit, OnlineShoppingCenter.exit]

@[simp] theorem erase_mainshell (u : User) :
    erase (mainshell u) = OnlineShoppingCenter.mainshell u := by
  simp [mainshell, OnlineShoppingCenter.mainshell]

/-- The menu is printed, and that is all. -/
@[simp] theorem erase_mainhelp (u : User) :
    erase (mainhelp u) = OnlineShoppingCenter.mainshell u := by
  simp [mainhelp]

/-- The products are read either way. -/
@[simp] theorem erase_listInventory (prodlist : List SKU) :
    erase (listInventory prodlist) = OnlineShoppingCenter.listInventory prodlist := by
  induction prodlist with
  | nil => rfl
  | cons upc prodlist ih => simp [listInventory, OnlineShoppingCenter.listInventory, ih]

@[simp] theorem erase_mainbby (u : User) : erase (mainbby u) = OnlineShoppingCenter.mainbby u := by
  simp [mainbby, OnlineShoppingCenter.mainbby]

/-- Both commands that add share the end of the command. -/
@[simp] theorem erase_addQuantity (u : User) (prod : Product) (qty : UInt32) :
    erase (addQuantity u prod qty) = (do
      OnlineShoppingCenter.mainshell (← onCart u fun store cart =>
        if qty = 1 then cart.addProduct store prod else cart.addProductQty store prod qty)) := by
  simp [addQuantity]

/-- The messages differ from case to case, the cases do not. -/
@[simp] theorem erase_addtocart (u : User) (args : List Text) :
    erase (addtocart u args) = OnlineShoppingCenter.addtocart u args := by
  match args with
  | [] => simp [addtocart, OnlineShoppingCenter.addtocart]
  | upc_s :: rest =>
    simp only [addtocart, OnlineShoppingCenter.addtocart, erase_bind, erase_attempt, erase_quiet]
    congr 1
    funext r
    cases r with
    | error e => cases e <;> simp
    | ok prod =>
      cases rest with
      | nil => simp
      | cons qty_s rest =>
        dsimp only
        cases stoui qty_s with
        | error e => cases e <;> simp
        | ok qty => simp

@[simp] theorem erase_cartshell (u : User) (invalid_qty : Bool) :
    erase (cartshell u invalid_qty) = OnlineShoppingCenter.cartshell u invalid_qty := by
  simp [cartshell, OnlineShoppingCenter.cartshell]

@[simp] theorem erase_carthelp (u : User) (invalid_qty : Bool) :
    erase (carthelp u invalid_qty) = OnlineShoppingCenter.cartshell u invalid_qty := by
  simp [carthelp]

/-- The view is printed from the cart of the session, without a call. -/
@[simp] theorem erase_cartview (u : User) : erase (cartview u) = OnlineShoppingCenter.cartview u := by
  simp [cartview, OnlineShoppingCenter.cartview]

@[simp] theorem erase_remove (u : User) (invalid_qty : Bool) (args : List Text) :
    erase (remove u invalid_qty args) = OnlineShoppingCenter.remove u invalid_qty args := by
  cases args with
  | nil => simp [remove, OnlineShoppingCenter.remove]
  | cons upc_s rest =>
    simp only [remove, OnlineShoppingCenter.remove, erase_ite]
    congr 1
    · simp
    · cases stoul upc_s with
      | error e => cases e <;> simp
      | ok sel_upc => simp

/-- The order of the checks is that of `main` without printing. -/
@[simp] theorem erase_changeqty (u : User) (invalid_qty : Bool) (args : List Text) :
    erase (changeqty u invalid_qty args) = OnlineShoppingCenter.changeqty u invalid_qty args := by
  match args with
  | [] => simp [changeqty, OnlineShoppingCenter.changeqty]
  | [upc_s] => simp [changeqty, OnlineShoppingCenter.changeqty]
  | upc_s :: qty_s :: rest =>
    simp only [changeqty, OnlineShoppingCenter.changeqty, erase_ite]
    congr 1
    · simp
    · cases stoul upc_s with
      | error e => cases e <;> simp
      | ok sel_upc =>
        dsimp only
        cases stoui qty_s with
        | error e => cases e <;> simp
        | ok new_qty => simp

@[simp] theorem erase_clear (u : User) (invalid_qty : Bool) :
    erase (clear u invalid_qty) = OnlineShoppingCenter.clear u invalid_qty := by
  simp [clear, OnlineShoppingCenter.clear]

section Checkout

variable (u : User) (order : Transaction) (cmd : Text)

@[simp] theorem erase_placeOrder :
    erase (placeOrder u order) = OnlineShoppingCenter.placeOrder u order := by
  simp [placeOrder, OnlineShoppingCenter.placeOrder]

@[simp] theorem erase_orderNewPay :
    erase (orderNewPay u order) = OnlineShoppingCenter.orderNewPay u order := by
  simp [orderNewPay, OnlineShoppingCenter.orderNewPay]

@[simp] theorem erase_ordercc : erase (ordercc u order) = OnlineShoppingCenter.ordercc u order := by
  simp [ordercc, OnlineShoppingCenter.ordercc]

@[simp] theorem erase_orderNewAddr (next : ConsoleM Proc) :
    erase (orderNewAddr u order next) = OnlineShoppingCenter.orderNewAddr u order (erase next) := by
  simp [orderNewAddr, OnlineShoppingCenter.orderNewAddr]

/-- What is on file is printed before the question. -/
@[simp] theorem erase_orderaddr :
    erase (orderaddr u order) = OnlineShoppingCenter.orderaddr u order := by
  simp [orderaddr, OnlineShoppingCenter.orderaddr]

@[simp] theorem erase_checkout (invalid_qty : Bool) :
    erase (checkout u invalid_qty) = OnlineShoppingCenter.checkout u invalid_qty := by
  simp [checkout, OnlineShoppingCenter.checkout]

@[simp] theorem erase_useAddress :
    erase (useAddress u order cmd) = OnlineShoppingCenter.useAddress u order cmd := by
  unfold useAddress OnlineShoppingCenter.useAddress
  cases saysNo cmd <;> simp

/-- An answer that is refused prints why and starts over. -/
@[simp] theorem erase_orderAddr (prompt : AddrPrompt) :
    erase (orderAddr u order prompt cmd) = OnlineShoppingCenter.orderAddr u order prompt cmd := by
  simp only [orderAddr, OnlineShoppingCenter.orderAddr, erase_bind, erase_ofExcept]
  congr 1
  funext answer
  cases answer <;> simp

@[simp] theorem erase_usePayment :
    erase (usePayment u order cmd) = OnlineShoppingCenter.usePayment u order cmd := by
  simp [usePayment, OnlineShoppingCenter.usePayment]

/-- The same for the card. -/
@[simp] theorem erase_orderPay (prompt : PayPrompt) :
    erase (orderPay u order prompt cmd) = OnlineShoppingCenter.orderPay u order prompt cmd := by
  simp only [orderPay, OnlineShoppingCenter.orderPay, erase_bind, erase_ofExcept]
  congr 1
  funext answer
  cases answer <;> simp

/-- Placing an order prints the inventory once more, with the same reads. -/
@[simp] theorem erase_confirmOrder :
    erase (confirmOrder u order cmd) = OnlineShoppingCenter.confirmOrder u order cmd := by
  simp [confirmOrder, OnlineShoppingCenter.confirmOrder]

end Checkout

section Account

variable (u : User)

@[simp] theorem erase_accshell : erase (accshell u) = OnlineShoppingCenter.accshell u := by
  simp [accshell, OnlineShoppingCenter.accshell]

@[simp] theorem erase_acchelp : erase (acchelp u) = OnlineShoppingCenter.accshell u := by
  simp [acchelp]

/-- The account view reads nothing from the databases. -/
@[simp] theorem erase_account : erase (account u) = OnlineShoppingCenter.accshell u := by
  simp [account]

@[simp] theorem erase_accountAddr (prompt : AddrPrompt) (cmd : Text) :
    erase (accountAddr u prompt cmd) = OnlineShoppingCenter.accountAddr u prompt cmd := by
  simp only [accountAddr, OnlineShoppingCenter.accountAddr, erase_bind, erase_ofExcept]
  congr 1
  funext answer
  cases answer <;> simp

@[simp] theorem erase_accountPay (prompt : PayPrompt) (cmd : Text) :
    erase (accountPay u prompt cmd) = OnlineShoppingCenter.accountPay u prompt cmd := by
  simp only [accountPay, OnlineShoppingCenter.accountPay, erase_bind, erase_ofExcept]
  congr 1
  funext answer
  cases answer <;> simp

end Account

@[simp] theorem erase_tshell (u : User) : erase (tshell u) = OnlineShoppingCenter.tshell u := by
  simp [tshell, OnlineShoppingCenter.tshell]

@[simp] theorem erase_thelp (u : User) : erase (thelp u) = OnlineShoppingCenter.tshell u := by
  simp [thelp]

variable [Terminal]

@[simp] theorem erase_history (u : User) : erase (history u) = OnlineShoppingCenter.tshell u := by
  simp [history]

/-- An order that is shown comes from the history of the session. -/
@[simp] theorem erase_orders (u : User) (args : List Text) :
    erase (orders u args) = OnlineShoppingCenter.orders u args := by
  cases args with
  | nil => simp [orders, OnlineShoppingCenter.orders]
  | cons cmd_part rest =>
    simp only [orders, OnlineShoppingCenter.orders, erase_ite, erase_exit, erase_account]
    cases stoui cmd_part with
    | error e => cases e <;> simp
    | ok t_idx =>
      dsimp only
      cases orderAt u.transaction_history t_idx with
      | none => simp
      | some t => simp [showOrder]

omit [Terminal] in
@[simp] theorem erase_mainCommand (u : User) (args : List Text) :
    erase (mainCommand u args) = OnlineShoppingCenter.mainCommand u args := by
  cases args with
  | nil => exact erase_mainshell u
  | cons cmd args =>
    simp only [mainCommand, OnlineShoppingCenter.mainCommand, erase_ite, erase_exit, erase_addtocart,
      erase_cartview, erase_account, erase_bind, erase_display, Prog.ret_bind, erase_mainhelp]

omit [Terminal] in
@[simp] theorem erase_cartCommand (u : User) (invalid_qty : Bool) (args : List Text) :
    erase (cartCommand u invalid_qty args) = OnlineShoppingCenter.cartCommand u invalid_qty args := by
  cases args with
  | nil => exact erase_cartshell u invalid_qty
  | cons cmd args =>
    simp only [cartCommand, OnlineShoppingCenter.cartCommand, erase_ite, erase_exit, erase_mainbby,
      erase_remove, erase_changeqty, erase_clear, erase_checkout, erase_bind, erase_display,
      Prog.ret_bind, erase_carthelp]

@[simp] theorem erase_accountCommand (u : User) (args : List Text) :
    erase (accountCommand u args) = OnlineShoppingCenter.accountCommand u args := by
  cases args with
  | nil => exact erase_accshell u
  | cons cmd args =>
    simp only [accountCommand, OnlineShoppingCenter.accountCommand, erase_ite, erase_exit,
      erase_mainbby, erase_bind, erase_display, Prog.ret_bind, erase_waitAt, erase_accshell,
      erase_history, erase_acchelp]

/-- A line does the same with and without the terminal. -/
@[simp] theorem erase_step (p : Proc) (line : Text) : erase (step p line) = p.step line := by
  unfold step Proc.step
  cases p.loc <;> simp

/-- And so do many. -/
@[simp] theorem erase_play (p : Proc) (lines : List Text) : erase (play p lines) = p.play lines := by
  induction lines generalizing p with
  | nil => rfl
  | cons line lines ih => simp [play, Proc.play, ih]

omit [Terminal] in
@[simp] theorem erase_login (username : Text) :
    erase (login username) = OnlineShoppingCenter.login username := by
  simp only [login, OnlineShoppingCenter.login, erase_bind, erase_display, Prog.ret_bind,
    erase_attempt, erase_quiet]
  congr 1
  funext r
  cases r with
  | error e => cases e <;> simp
  | ok user => simp

/-- A session with the printed lines left out is the session without a terminal. -/
theorem erase_session (username : Text) (lines : List Text) :
    erase (session username lines) = OnlineShoppingCenter.session username lines := by
  simp [session, OnlineShoppingCenter.session]

/-- A call on a database, or one line printed. -/
inductive FineOp where
  | query (op : DbCall)
  | print (line : Printed)

abbrev FineOp.Ret : FineOp → Type
  | .query op => op.Ret
  | .print _ => Unit

abbrev fineSig : Signature := ⟨FineOp, FineOp.Ret⟩

def fineQuery (op : DbCall) : Prog fineSig Exn op.Ret := Prog.perform (S := fineSig) (.query op)

/-- The method behind a call, or the line. -/
def method : (op : Op) → Prog fineSig Exn op.Ret
  | .call op => op.method.interp fineQuery
  | .print line => Prog.perform (S := fineSig) (.print line)

/-- A console program with every method spelled out in its database calls. -/
def fine {α : Type} (m : ConsoleM α) : Prog fineSig Exn α := Prog.interp (S := sig) method m

/-- The databases and the terminals, as one log in the order of the prints. -/
def site : Handler fineSig Exn (Site World)
  | .query op, s => ((db op s.world).1, { s with world := (db op s.world).2 })
  | .print line, s => (.ok (), { s with screen := s.screen ++ [line] })

def fineSilent : (op : FineOp) → StorageM op.Ret
  | .query op => Prog.perform (S := storageSig) op
  | .print _ => .ret ()

omit [Terminal] in
/-- The screen has no part in what the databases answer. -/
theorem mutes_site : Mutes (S := fineSig) (T := storageSig) site db fineSilent Site.world := by
  intro op
  cases op with
  | query op => exact .inr ⟨op, id, rfl, fun s => ⟨rfl, rfl⟩⟩
  | print line => exact .inl ⟨(), rfl, fun s => ⟨rfl, rfl⟩⟩

omit [Terminal] in
/-- Leaving the prints out below is leaving them out above. -/
theorem fine_silent {α : Type} (m : ConsoleM α) :
    Prog.interp (S := fineSig) fineSilent (fine m) = OnlineShoppingCenter.fine (erase m) := by
  have hop : ∀ op : Op, Prog.interp (S := fineSig) fineSilent (method op) =
      (silent op).interp Call.method := by
    intro op
    cases op with
    | call op =>
      have hquery : (fun op => Prog.interp (S := fineSig) fineSilent (fineQuery op)) =
          Prog.perform (S := storageSig) := by
        funext op
        exact Prog.interp_perform (S := fineSig) fineSilent (.query op)
      calc Prog.interp (S := fineSig) fineSilent (method (.call op))
        _ = op.method.interp fun op => Prog.interp (S := fineSig) fineSilent (fineQuery op) :=
            Prog.interp_interp (S := storageSig) (T := fineSig) fineQuery fineSilent op.method
        _ = op.method := by rw [hquery, Prog.interp_self]
        _ = (silent (.call op)).interp Call.method := (Prog.interp_perform (S := clientSig) Call.method op).symm
    | print line => rfl
  calc Prog.interp (S := fineSig) fineSilent (fine m)
    _ = Prog.interp (S := sig) (fun op => Prog.interp (S := fineSig) fineSilent (method op)) m :=
        Prog.interp_interp (S := sig) (T := fineSig) method fineSilent m
    _ = Prog.interp (S := sig) (fun op => (silent op).interp Call.method) m :=
        congrArg (fun t => Prog.interp (S := sig) t m) (funext hop)
    _ = OnlineShoppingCenter.fine (erase m) :=
        (Prog.interp_interp (S := sig) (T := clientSig) silent Call.method m).symm

/-- Clients that print leave the databases, in any order of their turns, as the
same clients do without printing, in the order of the turns that are left. -/
theorem printing_unnoticed {ι : Type} [DecidableEq ι] (clients : ι → Text × List Text) (s : Site World)
    (schedule : List ι) :
    ∃ turns, turns.Sublist schedule ∧
      let p := Pool.run site ⟨fun i => fine (session (clients i).1 (clients i).2), s⟩ schedule
      let q := Pool.run db ⟨fun i => OnlineShoppingCenter.fine
        (OnlineShoppingCenter.session (clients i).1 (clients i).2), s.world⟩ turns
      q.state = p.state.world ∧
        ∀ i, q.threads i = Prog.interp (S := fineSig) fineSilent (p.threads i) := by
  obtain ⟨turns, hsub, hrun⟩ := Pool.exists_run_muted (S := fineSig) (T := storageSig) mutes_site
    ⟨fun i => fine (session (clients i).1 (clients i).2), s⟩ schedule
  have hstart : Pool.muted (S := fineSig) (T := storageSig) fineSilent Site.world
      ⟨fun i => fine (session (clients i).1 (clients i).2), s⟩ =
        ⟨fun i => OnlineShoppingCenter.fine
          (OnlineShoppingCenter.session (clients i).1 (clients i).2), s.world⟩ := by
    simp only [Pool.muted, fine_silent, erase_session]
  rw [hstart] at hrun
  refine ⟨turns, hsub, ?_⟩
  rw [hrun]
  exact ⟨rfl, fun i => rfl⟩

end OnlineShoppingCenter.Console
