import OnlineShoppingCenter.Dialogue

/-!
# The command line interface

`main` as a machine that waits in `getline` at one of its prompts. A step takes
the line typed, runs the program to the next prompt and prints its question.
Labels of the source (`mainbby`, `mainshell`, `carthelp`, `orderaddr`,
`ordercc`, ...) are the functions a `goto` calls; the help texts and the other
printed lines are left out.
-/
namespace OnlineShoppingCenter

open TextCodec EffectProgram

variable [Platform]

/-- The prompt `main` waits at, with the local variables in scope there. -/
inductive Loc where
  | mainshell
  | cartshell (invalid_qty : Bool)
  | useAddress (order : Transaction)
  | orderAddr (order : Transaction) (prompt : AddrPrompt)
  | usePayment (order : Transaction)
  | orderPay (order : Transaction) (prompt : PayPrompt)
  | placeOrder (order : Transaction)
  | accshell
  | accountAddr (prompt : AddrPrompt)
  | accountPay (prompt : PayPrompt)
  | tshell
  | exited

def Loc.question : Loc → Option Question
  | .useAddress _ => some .useAddress
  | .orderAddr _ prompt | .accountAddr prompt => some prompt.question
  | .usePayment _ => some .usePayment
  | .orderPay _ prompt | .accountPay prompt => some prompt.question
  | .placeOrder _ => some .placeOrder
  | .mainshell | .cartshell _ | .accshell | .tshell => some .shell
  | .exited => none

/-- A session: the logged-in user and the prompt it waits at. -/
structure Proc where
  logged_in : User := {}
  loc : Loc := .exited

/-- Print the question of a prompt and wait there. -/
def waitAt (logged_in : User) (loc : Loc) : ClientM Proc :=
  match loc.question with
  | some question => do
    ask question
    return ⟨logged_in, loc⟩
  | none => return ⟨logged_in, loc⟩

def exit (logged_in : User) : ClientM Proc := waitAt logged_in .exited

def mainshell (logged_in : User) : ClientM Proc := waitAt logged_in .mainshell

/-- Every product listed is read from the database. -/
def listInventory : List SKU → ClientM Unit
  | [] => return ()
  | upc :: prodlist => do
    let _ ← local_storage.getProduct upc
    listInventory prodlist

def mainbby (logged_in : User) : ClientM Proc := do
  listInventory (← local_storage.getProducts)
  mainshell logged_in

def cartshell (logged_in : User) (invalid_qty : Bool) : ClientM Proc :=
  waitAt logged_in (.cartshell invalid_qty)

/-- The top of the cart loop, where `invalid_qty` is computed. -/
def cartview (logged_in : User) : ClientM Proc :=
  cartshell logged_in logged_in.shopping_cart.invalidQty

def accshell (logged_in : User) : ClientM Proc := waitAt logged_in .accshell

def tshell (logged_in : User) : ClientM Proc := waitAt logged_in .tshell

/-- A method of the cart of the session. -/
def onCart (logged_in : User)
    (method : (ShoppingCart → ClientM Unit) → ShoppingCart → ClientM ShoppingCart) :
    ClientM User := do
  let cart ← method logged_in.cartStore logged_in.shopping_cart
  return { logged_in with shopping_cart := cart }

def addtocart (logged_in : User) : List Text → ClientM Proc
  | [] => mainshell logged_in
  | upc_s :: rest => do
    match ← Prog.attempt (do local_storage.getProduct (← .ofExcept (stoul upc_s))) with
    | .error .system_error | .error .invalid_argument => mainbby logged_in
    | .error e => .fail e
    | .ok prod =>
      match rest with
      | [] => mainshell (← onCart logged_in fun store cart => cart.addProduct store prod)
      | qty_s :: _ =>
        match stoui qty_s with
        | .error .invalid_argument => mainshell logged_in
        | .error e => .fail e
        | .ok qty =>
          mainshell (← onCart logged_in fun store cart =>
            if qty = 1 then cart.addProduct store prod else cart.addProductQty store prod qty)

def remove (logged_in : User) (invalid_qty : Bool) : List Text → ClientM Proc
  | [] => cartshell logged_in invalid_qty
  | upc_s :: _ =>
    if logged_in.shopping_cart.isEmpty then cartshell logged_in invalid_qty
    else match stoul upc_s with
      | .error .invalid_argument => cartview logged_in
      | .error e => .fail e
      | .ok sel_upc =>
        if !logged_in.shopping_cart.checkCart sel_upc then cartview logged_in
        else do cartview (← onCart logged_in fun store cart => cart.deleteUPC store sel_upc)

def changeqty (logged_in : User) (invalid_qty : Bool) : List Text → ClientM Proc
  | upc_s :: qty_s :: _ =>
    if logged_in.shopping_cart.isEmpty then cartshell logged_in invalid_qty
    else match stoul upc_s with
      | .error .invalid_argument => cartview logged_in
      | .error e => .fail e
      | .ok sel_upc =>
        match stoui qty_s with
        | .error .invalid_argument => cartshell logged_in invalid_qty
        | .error e => .fail e
        | .ok new_qty =>
          if !logged_in.shopping_cart.checkCart sel_upc then cartview logged_in
          else do
            cartview (← onCart logged_in fun store cart =>
              cart.changeUPCQuantity store (fun UPC => local_storage.getProduct UPC) sel_upc new_qty)
  | _ => cartshell logged_in invalid_qty

def clear (logged_in : User) (invalid_qty : Bool) : ClientM Proc :=
  if logged_in.shopping_cart.isEmpty then cartshell logged_in invalid_qty
  else do mainbby (← onCart logged_in fun store cart => cart.emptyCart store)

/-- `if (!order.shipping_address.is_set)` and what follows it. -/
def orderNewAddr (logged_in : User) (order : Transaction) (ordercc : ClientM Proc) :
    ClientM Proc :=
  if order.shipping_address.is_set then ordercc
  else waitAt logged_in (.orderAddr order .name1)

def placeOrder (logged_in : User) (order : Transaction) : ClientM Proc :=
  waitAt logged_in (.placeOrder order)

/-- `if (!order.payment_info.is_set)` and what follows it. -/
def orderNewPay (logged_in : User) (order : Transaction) : ClientM Proc :=
  if order.payment_info.is_set then placeOrder logged_in order
  else waitAt logged_in (.orderPay order .num)

def ordercc (logged_in : User) (order : Transaction) : ClientM Proc :=
  if logged_in.payment_info.is_set then waitAt logged_in (.usePayment order)
  else orderNewPay logged_in order

def orderaddr (logged_in : User) (order : Transaction) : ClientM Proc :=
  if logged_in.shipping_address.is_set then waitAt logged_in (.useAddress order)
  else orderNewAddr logged_in order (ordercc logged_in order)

def checkout (logged_in : User) (invalid_qty : Bool) : ClientM Proc :=
  if logged_in.shopping_cart.isEmpty then cartshell logged_in invalid_qty
  else if invalid_qty then cartview logged_in
  else do orderaddr logged_in (← logged_in.shopping_cart.buyCart)

/-- "Would you like to use this shipping address for this order" -/
def useAddress (logged_in : User) (order : Transaction) (cmd : Text) : ClientM Proc :=
  let order := if saysNo cmd then order else order.setShippingAddress logged_in.shipping_address
  orderNewAddr logged_in order (ordercc logged_in order)

/-- The question about keeping the address reads no line; `cmd` still holds the
answer that confirmed the address. -/
def orderAddr (logged_in : User) (order : Transaction) (prompt : AddrPrompt) (cmd : Text) :
    ClientM Proc := do
  match ← .ofExcept (orderAddrStep prompt cmd) with
  | .next prompt => waitAt logged_in (.orderAddr order prompt)
  | .reject => orderaddr logged_in order
  | .decline => orderaddr logged_in order
  | .accept addr =>
    let order := order.setShippingAddress addr
    ask .keepAddress
    if !saysNo cmd then ordercc (← logged_in.changeShippingAddress local_storage.storeUser addr) order
    else ordercc logged_in order

/-- "Would you like to use this payment method for this order" -/
def usePayment (logged_in : User) (order : Transaction) (cmd : Text) : ClientM Proc :=
  let order := if saysNo cmd then order else order.setPaymentInfo logged_in.payment_info
  orderNewPay logged_in order

/-- A declined payment method goes back to the address. -/
def orderPay (logged_in : User) (order : Transaction) (prompt : PayPrompt) (cmd : Text) :
    ClientM Proc := do
  match ← .ofExcept (orderPayStep prompt cmd) with
  | .next prompt => waitAt logged_in (.orderPay order prompt)
  | .reject => ordercc logged_in order
  | .decline => orderaddr logged_in order
  | .accept cc =>
    let order := order.setPaymentInfo cc
    ask .keepPayment
    if !saysNo cmd then placeOrder (← logged_in.changeCreditCard local_storage.storeUser cc) order
    else placeOrder logged_in order

/-- "Place order" -/
def confirmOrder (logged_in : User) (order : Transaction) (cmd : Text) : ClientM Proc :=
  if !saysNo cmd then do mainbby (← order.chargeCreditCard logged_in)
  else cartview logged_in

def accountAddr (logged_in : User) (prompt : AddrPrompt) (cmd : Text) : ClientM Proc := do
  match ← .ofExcept (accountAddrStep prompt cmd) with
  | .next prompt => waitAt logged_in (.accountAddr prompt)
  | .reject => accshell logged_in
  | .decline => accshell logged_in
  | .accept addr => accshell (← logged_in.changeShippingAddress local_storage.storeUser addr)

def accountPay (logged_in : User) (prompt : PayPrompt) (cmd : Text) : ClientM Proc := do
  match ← .ofExcept (accountPayStep prompt cmd) with
  | .next prompt => waitAt logged_in (.accountPay prompt)
  | .reject => accshell logged_in
  | .decline => accshell logged_in
  | .accept cc => accshell (← logged_in.changeCreditCard local_storage.storeUser cc)

/-- `transaction_list.at(t_idx-1)` with `int t_idx` converted to an unsigned
64-bit index. -/
def orderAt (history : TransactionHistory) (t_idx : UInt32) : Option Transaction :=
  if (t_idx - 1).toNat < 2 ^ 31 then history.transaction_list[(t_idx - 1).toNat]? else none

def orders (logged_in : User) : List Text → ClientM Proc
  | [] => tshell logged_in
  | cmd_part :: _ =>
    if cmd_part = "exit".toList then exit logged_in
    else if cmd_part = "back".toList then accshell logged_in
    else match stoui cmd_part with
      | .error .invalid_argument => tshell logged_in
      | .error e => .fail e
      | .ok t_idx =>
        match orderAt logged_in.transaction_history t_idx with
        | none => tshell logged_in
        | some t => do
          showOrder t
          tshell logged_in

def mainCommand (logged_in : User) : List Text → ClientM Proc
  | [] => mainshell logged_in
  | cmd :: args =>
    if cmd = "exit".toList then exit logged_in
    else if cmd = "addtocart".toList then addtocart logged_in args
    else if cmd = "cart".toList then cartview logged_in
    else if cmd = "account".toList then accshell logged_in
    else mainshell logged_in

def cartCommand (logged_in : User) (invalid_qty : Bool) : List Text → ClientM Proc
  | [] => cartshell logged_in invalid_qty
  | cmd :: args =>
    if cmd = "exit".toList then exit logged_in
    else if cmd = "back".toList then mainbby logged_in
    else if cmd = "remove".toList then remove logged_in invalid_qty args
    else if cmd = "changeqty".toList then changeqty logged_in invalid_qty args
    else if cmd = "clear".toList then clear logged_in invalid_qty
    else if cmd = "checkout".toList then checkout logged_in invalid_qty
    else cartshell logged_in invalid_qty

def accountCommand (logged_in : User) : List Text → ClientM Proc
  | [] => accshell logged_in
  | cmd :: _ =>
    if cmd = "exit".toList then exit logged_in
    else if cmd = "back".toList then mainbby logged_in
    else if cmd = "addr".toList then waitAt logged_in (.accountAddr .name1)
    else if cmd = "pay".toList then waitAt logged_in (.accountPay .num)
    else if cmd = "orders".toList then
      if logged_in.transaction_history.transaction_list.isEmpty then accshell logged_in
      else tshell logged_in
    else accshell logged_in

/-- One line of input. A session that has exited reads nothing more. -/
def Proc.step (p : Proc) (line : Text) : ClientM Proc :=
  match p.loc with
  | .mainshell => mainCommand p.logged_in (split line ' ')
  | .cartshell invalid_qty => cartCommand p.logged_in invalid_qty (split line ' ')
  | .useAddress order => useAddress p.logged_in order line
  | .orderAddr order prompt => orderAddr p.logged_in order prompt line
  | .usePayment order => usePayment p.logged_in order line
  | .orderPay order prompt => orderPay p.logged_in order prompt line
  | .placeOrder order => confirmOrder p.logged_in order line
  | .accshell => accountCommand p.logged_in (split line ' ')
  | .accountAddr prompt => accountAddr p.logged_in prompt line
  | .accountPay prompt => accountPay p.logged_in prompt line
  | .tshell => orders p.logged_in (split line ' ')
  | .exited => return p

/-- The prompts a session has stood at, each with the line typed there. -/
abbrev Trail := List (Proc × Text)

/-- Feed lines to a session one after the other. -/
def Proc.play : Proc → List Text → ClientM (Trail × Proc)
  | p, [] => return ([], p)
  | p, line :: lines => do
    let next ← p.step line
    let (trail, last) ← next.play lines
    return ((p, line) :: trail, last)

/-- Authentication; a `system_error` ends the program. -/
def login (username : Text) : ClientM Proc := do
  match ← Prog.attempt (local_storage.getUser username) with
  | .ok user => mainbby user
  | .error .system_error => return {}
  | .error e => .fail e

def session (username : Text) (lines : List Text) : ClientM (Trail × Proc) := do
  let p ← login username
  p.play lines

/-- Some lines and then some more. -/
theorem play_append (p : Proc) (front back : List Text) :
    p.play (front ++ back) = (do
      let r ← p.play front
      let s ← r.2.play back
      return (r.1 ++ s.1, s.2)) := by
  induction front generalizing p with
  | nil => exact (Prog.bind_ret (p.play back)).symm
  | cons line front ih => simp [Proc.play, ih]

/-- A run over one line more, at the front. -/
theorem run_play_cons {W : Type} {H : Handler clientSig Exn W} {w w₂ : W} {p : Proc} {line : Text}
    {lines : List Text} {r : Trail × Proc} :
    run H (p.play (line :: lines)) w = (.ok r, w₂) ↔
      ∃ next w₁ r', run H (p.step line) w = (.ok next, w₁) ∧
        run H (next.play lines) w₁ = (.ok r', w₂) ∧ r = ((p, line) :: r'.1, r'.2) := by
  rw [Proc.play, run_bind_eq_ok]
  constructor
  · rintro ⟨next, w₁, hstep, hrest⟩
    obtain ⟨r', w', hlast, hend⟩ := run_bind_eq_ok.mp hrest
    cases hend
    exact ⟨next, w₁, r', hstep, hlast, rfl⟩
  · rintro ⟨next, w₁, r', hstep, hrest, rfl⟩
    exact ⟨next, w₁, hstep, run_bind_ok hrest⟩

theorem session_append (username : Text) (front back : List Text) :
    session username (front ++ back) = (do
      let r ← session username front
      let s ← r.2.play back
      return (r.1 ++ s.1, s.2)) := by
  simp only [session, play_append, bind_assoc]

theorem play_of_exited {p : Proc} (h : p.loc = .exited) (lines : List Text) :
    p.play lines = .ret (lines.map fun line => (p, line), p) := by
  induction lines with
  | nil => rfl
  | cons line lines ih =>
    have hstep : p.step line = .ret p := by
      unfold Proc.step
      rw [h]
      rfl
    rw [Proc.play, hstep, Prog.ret_bind, ih]
    rfl

end OnlineShoppingCenter
