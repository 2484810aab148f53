import OnlineShoppingCenter.Terminal
import OnlineShoppingCenter.MainLoop

/-!
# The screens of `main`

What `main` prints between two prompts, as far as no call stands in between:
the views with their headings, the lines that lead to a prompt, and what is
said when a line is refused.
-/
namespace OnlineShoppingCenter

open TextCodec

variable [Platform]

def mainMenu : Screen := menu [.addtocart, .cart, .account, .exit]

/-- The commands offered for a cart. -/
def cartCommands (c : ShoppingCart) (invalid_qty : Bool) : List Command :=
  (if c.isEmpty then []
    else [.changeqty, .remove, .clear] ++ if invalid_qty then [] else [.checkout]) ++
      [.back, .exit]

def cartMenu (c : ShoppingCart) (invalid_qty : Bool) : Screen := menu (cartCommands c invalid_qty)

def accountMenu : Screen := menu [.addr, .pay, .orders, .back, .exit]

/-- A product in the inventory, unless there is none of it on hand. -/
def inventoryLines (upc : SKU) (prod : Product) : Screen :=
  if prod.quantity = 0 then []
  else [out "%lu:\t\x1b[1m%s\x1b[0m\n  " [.lu upc, .s prod.name],
    out "Price: $%04.2f\t" [.f prod.price], out "On hand: %u\t" [.u prod.quantity],
    out "Category: %s\n" [.s prod.category]]

/-- An entry of a cart with the price of all its items and of one. -/
def itemLines : SKU × Product × UInt32 → Screen
  | (upc, p, qty) => [out "%lu:\t\x1b[1m%s\x1b[0m\n  " [.lu upc, .s p.name],
    out "Qty: %u\t" [.u qty],
    out "Price: $%04.2f ($%04.2f/ea)\n" [.f (fmul p.price (flt qty.toNat)), .f p.price]]

def invalidLines : Screen :=
  [err "\n", err "WARNING: One or more entries in your cart have an invalid qauntity.\n",
    err "         You will not be able to checkout with an invalid quantity.\n",
    err "         WE CANNOT PLACE ITEMS ON BACKORDER.\n"]

def cartBody (c : ShoppingCart) : Screen :=
  if c.isEmpty then [out "Cart is empty.\n"]
  else c.cart.toList.flatMap itemLines ++ [out "\x1b[1mTotal: $%04.2f\x1b[0m\n" [.f c.total]] ++
    if c.invalidQty then invalidLines else []

def cartLines (c : ShoppingCart) : Screen := .heading .cart :: cartBody c

/-- The warning of `addtocart`. -/
def addWarning (on_hand qty : UInt32) : Screen :=
  if on_hand < qty then
    [err "WARNING: There are only %u of this item in stock.\n" [.u on_hand],
      err "         The specified quantity %u is greater than our on-hand count.\n" [.u qty],
      err "         You will not be able to checkout with an invalid quantity.\n",
      err "         WE CANNOT PLACE ITEMS ON BACKORDER.\n"]
  else []

/-- The warning of `changeqty`, with the code that has got into its text. -/
def changeWarning (on_hand new_qty : UInt32) : Screen :=
  if on_hand < new_qty then
    [err "WARNING: There are only %u of this item in stock.\n" [.u on_hand],
      err "         The specified quantity %u is greater than our on-hand count.\n" [.u new_qty],
      err ("         You will noif (cmd.front() != 'n' && cmd.front() != 'N')t be able to " ++
        "checkout with an invalid quantity.\n"),
      err "         WE CANNOT PLACE ITEMS ON BACKORDER.\n", err "\n"]
  else []

/-- The name and street texts line by line, indented. -/
def addressLines (addr : ShippingAddress) : Screen :=
  (split addr.shipping_name '\n').map (fun nameline => out "  %s\n" [.s nameline]) ++
    (split addr.street '\n').map (fun streetline => out "  %s\n" [.s streetline]) ++
      [out "  %s, %s %u\n" [.s addr.city, .s addr.state, .u addr.zip],
        out "  %s\n\n" [.s addr.country]]

def addressOnFile (addr : ShippingAddress) : Screen :=
  .heading .addressOnFile :: addressLines addr

/-- The texts as they are. -/
def shipTo (addr : ShippingAddress) : Screen :=
  [out "%s\n" [.s addr.shipping_name], out "%s\n" [.s addr.street],
    out "%s, %s %u\n" [.s addr.city, .s addr.state, .u addr.zip], out "%s\n\n" [.s addr.country]]

/-- The arguments a card is shown with: its last four digits and its expiry. -/
def cardEnding (cc : PaymentInfo) : List Arg := [.lu (cc.cc_num % 10000), .s cc.cc_exp]

def paymentOnFile (cc : PaymentInfo) : Screen :=
  [.heading .paymentOnFile, out "  Card ending in %lu, expiring on %s\n\n" (cardEnding cc)]

/-- A new address, shown before it is confirmed. -/
def enteredAddress (addr : ShippingAddress) : Screen := .heading .entered :: addressLines addr

/-- A new card, shown in full before it is confirmed. -/
def enteredCard (cc : PaymentInfo) : Screen :=
  [.heading .entered, out "  %lu\n" [.lu cc.cc_num],
    out "  Exp: %s\tCV2:%u\n\n" [.s cc.cc_exp, .u cc.cc_cv2]]

/-- The prompts that both copies of the address dialogue word alike. -/
def addrLines : AddrPrompt → Screen
  | .name1 => []
  | .name2 _ => [out "Please enter the second line of the name field.\n",
    out "If you do not need a second line for this field, just press enter.\n"]
  | .street1 _ => [out "Please enter the first line of the street address field.\n"]
  | .street2 .. => [out "Please enter the second line of the street address field.\n",
    out "If you do not need a second line for this field, just press enter.\n"]
  | .city _ => [out "Please enter the city field.\n"]
  | .state _ => [out "Please enter the state/province/territory field.\n"]
  | .zip _ => [out "Please enter the postal code field.\n"]
  | .country _ => [out "Please enter the country field.\n"]
  | .correct addr => out "\n" :: enteredAddress addr

def orderAddrLines : AddrPrompt → Screen
  | .name1 => [out "We need a shipping address for this order\n\n",
    out "Please enter the first line of the name field.\n"]
  | prompt => addrLines prompt

def accountAddrLines : AddrPrompt → Screen
  | .name1 => [out "\nPlease enter the first line of the name field.\n"]
  | prompt => addrLines prompt

/-- The prompts that both copies of the payment dialogue word alike. -/
def payLines : PayPrompt → Screen
  | .num => []
  | .exp .. => [out "Please enter the expiration date of the card.\n"]
  | .cv2 .. => [out "Please enter your card's cv2/cvv2/cvv number.\n"]
  | .correct cc => out "\n" :: enteredCard cc

def orderPayLines : PayPrompt → Screen
  | .num => [out "\nWe need a payment method for this order\n\n",
    out "Please enter your card number.\n"]
  | prompt => payLines prompt

def accountPayLines : PayPrompt → Screen
  | .num => [out "\nPlease enter your card number.\n"]
  | prompt => payLines prompt

/-- What is said to a postal code that is not a number. -/
def zipLines : Screen :=
  [err "This is not a valid entry for this field.\n",
    err "Currently, only numerical postal codes are accepted.\n",
    err "Sorry, Canadian customers! You'll have to call in to place an order.\n"]

def orderAddrReject : AddrPrompt → Screen
  | .zip _ => zipLines
  | _ => [err "This field cannot be blank.\n\n"]

/-- A blank city is told twice. -/
def accountAddrReject : AddrPrompt → Screen
  | .zip _ => zipLines ++ [err "No changes made.\n\n"]
  | .city _ => [err "This field cannot be blank.\n\n", err "This field cannot be blank.\n",
    err "No changes made.\n\n"]
  | _ => [err "This field cannot be blank.\n", err "No changes made.\n\n"]

def orderPayReject : PayPrompt → Screen
  | .exp .. => [err "This field cannot be blank.\n"]
  | _ => [err "This is not a valid entry for this field.\n"]

def accountPayReject (prompt : PayPrompt) : Screen :=
  orderPayReject prompt ++ [err "No changes made.\n\n"]

def accountBody (u : User) : Screen :=
  (if u.shipping_address.is_set then
      out "\n\x1b[4mShipping address:\x1b[0m\n" :: shipTo u.shipping_address
    else [out "No shipping address on file.\n"]) ++
    if u.payment_info.is_set then
      [out "\x1b[4mPayment method:\x1b[0m\n",
        out "Card ending in %lu, expiring on %s\n" (cardEnding u.payment_info)]
    else [out "No payment method on file.\n"]

def accountLines (u : User) : Screen := .heading .account :: accountBody u

/-- `(unsigned int)log10(n)+1`, and three at least. -/
def indexWidth (n : Nat) : UInt32 :=
  let idx_w := UInt32.ofNat (Nat.log 10 n + 1)
  if idx_w < 3 then 3 else idx_w

/-- The two lines of an order in the history; `idx` counts from one. -/
def historyRow [Terminal] (idx_w : UInt32) (idx : UInt32) (t : Transaction) : Screen :=
  [out "%0*u:\t%s\n" [.u idx_w, .u idx, .s (uuid_unparse_lower t.transaction_id)],
    out "  Date: %s   Total: $%04.2f\n"
      [.s (Terminal.strftime_s t.transaction_date), .f t.transaction_amount]]

def historyBody [Terminal] (history : TransactionHistory) : Screen :=
  (history.transaction_list.zipIdx 1).flatMap (fun (t, idx) =>
    historyRow (indexWidth history.transaction_list.length) (UInt32.ofNat idx) t) ++ [out "\n\n"]

def historyLines [Terminal] (history : TransactionHistory) : Screen :=
  .heading .orders :: historyBody history

def historyHelp : Screen :=
  [out ("Enter the index number of the transaction you wish to view.\n" ++
    "You can also enter 'back' to go back to the account menu,\n" ++
    "or 'exit' to log out of OSC.\n")]

/-- Where an order goes and what it is paid with. -/
def deliveryLines (t : Transaction) : Screen :=
  out "\x1b[4mShip to:\x1b[0m\n" :: shipTo t.shipping_address ++
    [out "\x1b[4mPayment method:\x1b[0m\n",
      out "Card ending in %lu, expiring on %s\n\n\n" (cardEnding t.payment_info)]

/-- An order of the history. -/
def orderLines [Terminal] (t : Transaction) : Screen :=
  out "\n\n\x1b[1;4mOrder %s:\x1b[0m\n\n" [.s (uuid_unparse_lower t.transaction_id)] ::
    t.shopping_cart.cart.toList.flatMap (fun (upc, p, qty) =>
      [out "%lu:\t\x1b[1m%s\x1b[0m\n  " [.lu upc, .s p.name], out "Qty: %u\n" [.u qty]]) ++
    out "Date: %s     Total: $%04.2f\n\n"
      [.s (Terminal.strftime_s t.transaction_date), .f t.transaction_amount] :: deliveryLines t

def confirmationBody (order : Transaction) : Screen :=
  order.shopping_cart.cart.toList.flatMap itemLines ++
    out "\x1b[1mOrder Total: $%04.2f\x1b[0m\n\n" [.f order.shopping_cart.total] ::
      deliveryLines order

def confirmationLines (order : Transaction) : Screen :=
  .heading .confirmation :: confirmationBody order

end OnlineShoppingCenter
