import OnlineShoppingCenter.Screens

/-!
# `main` with its terminal

The same machine as `main` without what it prints, now with every `g_print` and
`g_printerr` in its place. A label is a function, and a `goto` calls it, so that
each jump prints what stands between its label and the next prompt.
-/
namespace OnlineShoppingCenter

open TextCodec EffectProgram

variable [Platform]

namespace Console

/-- A call of the client, or one line printed. -/
inductive Op where
  | call (op : Call)
  | print (line : Printed)

abbrev Op.Ret : Op → Type
  | .call op => op.Ret
  | .print _ => Unit

abbrev sig : Signature := ⟨Op, Op.Ret⟩

end Console

abbrev ConsoleM := Prog Console.sig Exn

/-- What is on the terminal, beside what the calls work on. -/
structure Site (W : Type) where
  world : W
  screen : Screen

/-- The calls are answered as they are without a terminal, and do not see the
screen that printing adds to. -/
def terminal {W : Type} (H : Handler clientSig Exn W) : Handler Console.sig Exn (Site W)
  | .call op, s => ((H op s.world).1, { s with world := (H op s.world).2 })
  | .print line, s => (.ok (), { s with screen := s.screen ++ [line] })

namespace Console

def call (op : Call) : ConsoleM op.Ret := Prog.perform (S := sig) (.call op)
def print (line : Printed) : ConsoleM Unit := Prog.perform (S := sig) (.print line)

def display : Screen → ConsoleM Unit
  | [] => return ()
  | line :: lines => do
    print line
    display lines

/-- A client program, which prints nothing. -/
def quiet {α : Type} (m : ClientM α) : ConsoleM α := m.interp call

/-- Print the question of a prompt and wait there. -/
def waitAt (logged_in : User) (loc : Loc) : ConsoleM Proc := do
  display (loc.question.toList.map fun question => out question.text)
  quiet (OnlineShoppingCenter.waitAt logged_in loc)

/-- A question that is printed and not waited for. -/
def ask (question : Question) : ConsoleM Unit := do
  display [out question.text]
  quiet (OnlineShoppingCenter.ask question)

def exit (logged_in : User) : ConsoleM Proc := do
  display [out "Exiting.\n"]
  waitAt logged_in .exited

def mainshell (logged_in : User) : ConsoleM Proc := waitAt logged_in .mainshell

def mainhelp (logged_in : User) : ConsoleM Proc := do
  display mainMenu
  mainshell logged_in

def listInventory : List SKU → ConsoleM Unit
  | [] => return ()
  | upc :: prodlist => do
    let prod ← quiet (local_storage.getProduct upc)
    display (inventoryLines upc prod)
    listInventory prodlist

def mainbby (logged_in : User) : ConsoleM Proc := do
  display [.heading .inventory]
  listInventory (← quiet local_storage.getProducts)
  mainhelp logged_in

/-- `addtocart` once its quantity is known. -/
def addQuantity (logged_in : User) (prod : Product) (qty : UInt32) : ConsoleM Proc := do
  display (addWarning prod.quantity qty)
  let logged_in ← quiet (onCart logged_in fun store cart =>
    if qty = 1 then cart.addProduct store prod else cart.addProductQty store prod qty)
  display [out "%u of %s added to cart.\n" [.u qty, .s prod.name]]
  mainshell logged_in

def addtocart (logged_in : User) : List Text → ConsoleM Proc
  | [] => do
    display [err "Invalid use of addtocart.\n"]
    mainhelp logged_in
  | upc_s :: rest => do
    match ← Prog.attempt (quiet (do local_storage.getProduct (← .ofExcept (stoul upc_s)))) with
    | .error .system_error | .error .invalid_argument =>
      display [err "'%s' is not a valid UPC.\n" [.s upc_s]]
      mainbby logged_in
    | .error e => .fail e
    | .ok prod =>
      match rest with
      | [] => addQuantity logged_in prod 1
      | qty_s :: _ =>
        match stoui qty_s with
        | .error .invalid_argument =>
          display [err "'%s' is not a valid quantity.\n" [.s qty_s]]
          mainhelp logged_in
        | .error e => .fail e
        | .ok qty => addQuantity logged_in prod qty

def cartshell (logged_in : User) (invalid_qty : Bool) : ConsoleM Proc :=
  waitAt logged_in (.cartshell invalid_qty)

def carthelp (logged_in : User) (invalid_qty : Bool) : ConsoleM Proc := do
  display (cartMenu logged_in.shopping_cart invalid_qty)
  cartshell logged_in invalid_qty

def cartview (logged_in : User) : ConsoleM Proc := do
  display (cartLines logged_in.shopping_cart)
  carthelp logged_in logged_in.shopping_cart.invalidQty

def remove (logged_in : User) (invalid_qty : Bool) : List Text → ConsoleM Proc
  | [] => do
    display [err "Invalid use of remove.\n"]
    carthelp logged_in invalid_qty
  | upc_s :: _ =>
    if logged_in.shopping_cart.isEmpty then do
      display [err "Cart is empty. Nothing to remove.\n"]
      carthelp logged_in invalid_qty
    else match stoul upc_s with
      | .error .invalid_argument => do
        display [err "'%s' is not a valid UPC.\n" [.s upc_s]]
        cartview logged_in
      | .error e => .fail e
      | .ok sel_upc =>
        if !logged_in.shopping_cart.checkCart sel_upc then do
          display [err "No item with UPC %lu exists in the cart.\n" [.lu sel_upc]]
          cartview logged_in
        else do
          let logged_in ← quiet (onCart logged_in fun store cart => cart.deleteUPC store sel_upc)
          display [out "Item removed from cart.\n"]
          cartview logged_in

/-- `cart[sel_upc].first.getQuantity()` -/
def onHandCopy (c : ShoppingCart) (sel_upc : SKU) : UInt32 :=
  (c.cart[sel_upc]?.map fun (p, _) => p.quantity).getD 0

def changeqty (logged_in : User) (invalid_qty : Bool) : List Text → ConsoleM Proc
  | upc_s :: qty_s :: _ =>
    if logged_in.shopping_cart.isEmpty then do
      display [err "Cart is empty. No item quantities to change.\n"]
      carthelp logged_in invalid_qty
    else match stoul upc_s with
      | .error .invalid_argument => do
        display [err "'%s' is not a valid UPC.\n" [.s upc_s]]
        cartview logged_in
      | .error e => .fail e
      | .ok sel_upc =>
        match stoui qty_s with
        | .error .invalid_argument => do
          display [err "'%s' is not a valid quantity.\n" [.s qty_s]]
          carthelp logged_in invalid_qty
        | .error e => .fail e
        | .ok new_qty =>
          if !logged_in.shopping_cart.checkCart sel_upc then do
            display [err "No item with UPC %lu exists in the cart.\n" [.lu sel_upc]]
            cartview logged_in
          else do
            display (changeWarning (onHandCopy logged_in.shopping_cart sel_upc) new_qty)
            let logged_in ← quiet (onCart logged_in fun store cart =>
              cart.changeUPCQuantity store (fun UPC => local_storage.getProduct UPC) sel_upc new_qty)
            display [out "Quantity updated.\n"]
            cartview logged_in
  | _ => do
    display [err "Invalid use of changeqty.\n"]
    carthelp logged_in invalid_qty

def clear (logged_in : User) (invalid_qty : Bool) : ConsoleM Proc :=
  if logged_in.shopping_cart.isEmpty then do
    display [err "Cart is empty. Nothing to do.\n"]
    carthelp logged_in invalid_qty
  else do
    let logged_in ← quiet (onCart logged_in fun store cart => cart.emptyCart store)
    display [out "Your cart has been emptied.\n", out "Returning to main menu...\n"]
    mainbby logged_in

def orderNewAddr (logged_in : User) (order : Transaction) (ordercc : ConsoleM Proc) :
    ConsoleM Proc :=
  if order.shipping_address.is_set then ordercc
  else do
    display (orderAddrLines .name1)
    waitAt logged_in (.orderAddr order .name1)

def placeOrder (logged_in : User) (order : Transaction) : ConsoleM Proc := do
  display (out "\n\n" :: confirmationLines order)
  waitAt logged_in (.placeOrder order)

def orderNewPay (logged_in : User) (order : Transaction) : ConsoleM Proc :=
  if order.payment_info.is_set then placeOrder logged_in order
  else do
    display (orderPayLines .num)
    waitAt logged_in (.orderPay order .num)

def ordercc (logged_in : User) (order : Transaction) : ConsoleM Proc :=
  if logged_in.payment_info.is_set then do
    display (paymentOnFile logged_in.payment_info)
    waitAt logged_in (.usePayment order)
  else orderNewPay logged_in order

def orderaddr (logged_in : User) (order : Transaction) : ConsoleM Proc :=
  if logged_in.shipping_address.is_set then do
    display (addressOnFile logged_in.shipping_address)
    waitAt logged_in (.useAddress order)
  else orderNewAddr logged_in order (ordercc logged_in order)

def checkout (logged_in : User) (invalid_qty : Bool) : ConsoleM Proc :=
  if logged_in.shopping_cart.isEmpty then do
    display [err "Cannot checkout with an empty cart.\n"]
    carthelp logged_in invalid_qty
  else if invalid_qty then do
    display [err "Cart contains one or more invalid quantities. Cannot checkout.\n"]
    cartview logged_in
  else do orderaddr logged_in (← quiet logged_in.shopping_cart.buyCart)

def useAddress (logged_in : User) (order : Transaction) (cmd : Text) : ConsoleM Proc :=
  if saysNo cmd then do
    display [out "\n"]
    orderNewAddr logged_in order (ordercc logged_in order)
  else
    let order := order.setShippingAddress logged_in.shipping_address
    orderNewAddr logged_in order (ordercc logged_in order)

def orderAddr (logged_in : User) (order : Transaction) (prompt : AddrPrompt) (cmd : Text) :
    ConsoleM Proc := do
  match ← .ofExcept (orderAddrStep prompt cmd) with
  | .next prompt =>
    display (orderAddrLines prompt)
    waitAt logged_in (.orderAddr order prompt)
  | .reject =>
    display (orderAddrReject prompt)
    orderaddr logged_in order
  | .decline =>
    display [out "\n"]
    orderaddr logged_in order
  | .accept addr =>
    let order := order.setShippingAddress addr
    ask .keepAddress
    if !saysNo cmd then do
      let logged_in ← quiet (logged_in.changeShippingAddress local_storage.storeUser addr)
      ordercc logged_in order
    else ordercc logged_in order

def usePayment (logged_in : User) (order : Transaction) (cmd : Text) : ConsoleM Proc :=
  let order := if saysNo cmd then order else order.setPaymentInfo logged_in.payment_info
  orderNewPay logged_in order

def orderPay (logged_in : User) (order : Transaction) (prompt : PayPrompt) (cmd : Text) :
    ConsoleM Proc := do
  match ← .ofExcept (orderPayStep prompt cmd) with
  | .next prompt =>
    display (orderPayLines prompt)
    waitAt logged_in (.orderPay order prompt)
  | .reject =>
    display (orderPayReject prompt)
    ordercc logged_in order
  | .decline =>
    display [out "\n"]
    orderaddr logged_in order
  | .accept cc =>
    let order := order.setPaymentInfo cc
    ask .keepPayment
    if !saysNo cmd then do
      let logged_in ← quiet (logged_in.changeCreditCard local_storage.storeUser cc)
      placeOrder logged_in order
    else placeOrder logged_in order

def confirmOrder (logged_in : User) (order : Transaction) (cmd : Text) : ConsoleM Proc :=
  if !saysNo cmd then do
    let logged_in ← quiet (order.chargeCreditCard logged_in)
    display [out "\nOrder placed!\n\n\n"]
    mainbby logged_in
  else cartview logged_in

def accshell (logged_in : User) : ConsoleM Proc := waitAt logged_in .accshell

def acchelp (logged_in : User) : ConsoleM Proc := do
  display accountMenu
  accshell logged_in

def account (logged_in : User) : ConsoleM Proc := do
  display (accountLines logged_in)
  acchelp logged_in

def accountAddr (logged_in : User) (prompt : AddrPrompt) (cmd : Text) : ConsoleM Proc := do
  match ← .ofExcept (accountAddrStep prompt cmd) with
  | .next prompt =>
    display (accountAddrLines prompt)
    waitAt logged_in (.accountAddr prompt)
  | .reject =>
    display (accountAddrReject prompt)
    account logged_in
  | .decline =>
    display [out "No changes made.\n\n"]
    account logged_in
  | .accept addr =>
    let logged_in ← quiet (logged_in.changeShippingAddress local_storage.storeUser addr)
    display [out "New address set.\n\n"]
    account logged_in

def accountPay (logged_in : User) (prompt : PayPrompt) (cmd : Text) : ConsoleM Proc := do
  match ← .ofExcept (accountPayStep prompt cmd) with
  | .next prompt =>
    display (accountPayLines prompt)
    waitAt logged_in (.accountPay prompt)
  | .reject =>
    display (accountPayReject prompt)
    account logged_in
  | .decline =>
    display [out "No changes made.\n\n"]
    account logged_in
  | .accept cc =>
    let logged_in ← quiet (logged_in.changeCreditCard local_storage.storeUser cc)
    display [out "New payment method set.\n\n"]
    account logged_in

def tshell (logged_in : User) : ConsoleM Proc := waitAt logged_in .tshell

def thelp (logged_in : User) : ConsoleM Proc := do
  display historyHelp
  tshell logged_in

variable [Terminal]

def history (logged_in : User) : ConsoleM Proc := do
  display (historyLines logged_in.transaction_history)
  thelp logged_in

def showOrder (t : Transaction) : ConsoleM Unit := do
  display (orderLines t)
  quiet (OnlineShoppingCenter.showOrder t)

def orders (logged_in : User) : List Text → ConsoleM Proc
  | [] => tshell logged_in
  | cmd_part :: _ =>
    if cmd_part = "exit".toList then exit logged_in
    else if cmd_part = "back".toList then account logged_in
    else match stoui cmd_part with
      | .error .invalid_argument => thelp logged_in
      | .error e => .fail e
      | .ok t_idx =>
        match orderAt logged_in.transaction_history t_idx with
        | none => history logged_in
        | some t => do
          showOrder t
          tshell logged_in

def unrecognized (cmd : Text) : Screen := [err "'%s' is an unrecognized command.\n" [.s cmd]]

omit [Terminal] in
def mainCommand (logged_in : User) : List Text → ConsoleM Proc
  | [] => mainshell logged_in
  | cmd :: args =>
    if cmd = "exit".toList then exit logged_in
    else if cmd = "addtocart".toList then addtocart logged_in args
    else if cmd = "cart".toList then cartview logged_in
    else if cmd = "account".toList then account logged_in
    else do
      display (unrecognized cmd)
      mainhelp logged_in

omit [Terminal] in
def cartCommand (logged_in : User) (invalid_qty : Bool) : List Text → ConsoleM Proc
  | [] => cartshell logged_in invalid_qty
  | cmd :: args =>
    if cmd = "exit".toList then exit logged_in
    else if cmd = "back".toList then mainbby logged_in
    else if cmd = "remove".toList then remove logged_in invalid_qty args
    else if cmd = "changeqty".toList then changeqty logged_in invalid_qty args
    else if cmd = "clear".toList then clear logged_in invalid_qty
    else if cmd = "checkout".toList then checkout logged_in invalid_qty
    else do
      display (unrecognized cmd)
      carthelp logged_in invalid_qty

def accountCommand (logged_in : User) : List Text → ConsoleM Proc
  | [] => accshell logged_in
  | cmd :: _ =>
    if cmd = "exit".toList then exit logged_in
    else if cmd = "back".toList then mainbby logged_in
    else if cmd = "addr".toList then do
      display (accountAddrLines .name1)
      waitAt logged_in (.accountAddr .name1)
    else if cmd = "pay".toList then do
      display (accountPayLines .num)
      waitAt logged_in (.accountPay .num)
    else if cmd = "orders".toList then
      if logged_in.transaction_history.transaction_list.isEmpty then do
        display [out "No past orders.\n"]
        accshell logged_in
      else history logged_in
    else do
      display (unrecognized cmd)
      acchelp logged_in

/-- One line of input. -/
def step (p : Proc) (line : Text) : ConsoleM Proc :=
  match p.loc with
  | .mainshell => mainCommand p.logged_in (split line ' ')
  | .cartshell invalid_qty => cartCommand p.logged_in invalid_qty (split line ' ')
  | .useAddress order => useAddress p.logged_in order line
  | .orderAddr order prompt => orderAddr p.logged_in order prompt line
  | .usePayment order => usePayment p.logged_in order line
  | .orderPay order prompt => orderPay p.logged_in order prompt line
  | .placeOrder order => confirmOrder p.logged_in order line
  | .accshell => accountCommand p.logged_in (split line ' ')
  | .accountAddr prompt => accountAddr p.logged_in prompt line
  | .accountPay prompt => accountPay p.logged_in prompt line
  | .tshell => orders p.logged_in (split line ' ')
  | .exited => return p

def play : Proc → List Text → ConsoleM (Trail × Proc)
  | p, [] => return ([], p)
  | p, line :: lines => do
    let next ← step p line
    let (trail, last) ← play next lines
    return ((p, line) :: trail, last)

omit [Terminal] in
/-- From the authentication to the first prompt. -/
def login (username : Text) : ConsoleM Proc := do
  display [out "Authenticating...\n"]
  match ← Prog.attempt (quiet (local_storage.getUser username)) with
  | .ok user =>
    display [out "Logged in as %s.\n" [.s user.user_name]]
    mainbby user
  | .error .system_error =>
    display [err "Authentication failed...\n"]
    return {}
  | .error e => .fail e

def session (username : Text) (lines : List Text) : ConsoleM (Trail × Proc) := do
  let p ← login username
  play p lines

end Console

end OnlineShoppingCenter
