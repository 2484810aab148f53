import OnlineShoppingCenter.StorageSystem

/-!
# What a session calls

The client side of the program calls the methods of the storage system, draws
ids and dates, and prints. `sys` answers a call by running the method from
start to end, so that it is one step for every other session.
-/
namespace OnlineShoppingCenter

open TextCodec EffectProgram

/-- The questions a session prints before it reads a line. -/
inductive Question where
  | shell
  | useAddress
  | isCorrect
  | keepAddress
  | usePayment
  | keepPayment
  | placeOrder
  deriving DecidableEq, Repr

variable [Platform]

inductive Call where
  | getUser (username : Text)
  | storeUser (user : User)
  | getProducts
  | getProduct (UPC : SKU)
  | setQuantity (p : Product) (new_quantity : UInt32)
  | storeProduct (product : Product)
  | storeTransaction (transaction : Transaction)
  | uuid_generate
  | gmtime
  | ask (question : Question)
  | showOrder (t : Transaction)

def Call.Ret : Call → Type
  | .getUser _ => User
  | .getProducts => List SKU
  | .getProduct _ | .setQuantity .. => Product
  | .storeUser _ | .storeProduct _ | .storeTransaction _ | .ask _ | .showOrder _ => Unit
  | .uuid_generate => Uuid
  | .gmtime => Tm

abbrev clientSig : Signature := ⟨Call, Call.Ret⟩

abbrev ClientM := Prog clientSig Exn

abbrev request (op : Call) : ClientM op.Ret := Prog.perform (S := clientSig) op

namespace local_storage

def getUser (username : Text) : ClientM User := request (.getUser username)
def storeUser (user : User) : ClientM Unit := request (.storeUser user)
def getProducts : ClientM (List SKU) := request .getProducts
def getProduct (UPC : SKU) : ClientM Product := request (.getProduct UPC)
def setQuantity (p : Product) (new_quantity : UInt32) : ClientM Product :=
  request (.setQuantity p new_quantity)
def storeProduct (product : Product) : ClientM Unit := request (.storeProduct product)
def storeTransaction (transaction : Transaction) : ClientM Unit :=
  request (.storeTransaction transaction)

end local_storage

def uuid_generate : ClientM Uuid := request .uuid_generate
def gmtime : ClientM Tm := request .gmtime
def ask (question : Question) : ClientM Unit := request (.ask question)
def showOrder (t : Transaction) : ClientM Unit := request (.showOrder t)

/-- The method behind a call. Printing does nothing to the databases. -/
def Call.method : (op : Call) → StorageM op.Ret
  | .getUser username => StorageSystem.getUser username
  | .storeUser user => StorageSystem.storeUser user
  | .getProducts => StorageSystem.getProducts
  | .getProduct UPC => StorageSystem.getProduct UPC
  | .setQuantity p new_quantity => StorageSystem.setQuantity p new_quantity
  | .storeProduct product => StorageSystem.storeProduct product
  | .storeTransaction transaction => StorageSystem.storeTransaction transaction
  | .uuid_generate => StorageSystem.uuid_generate
  | .gmtime => StorageSystem.gmtime
  | .ask _ => .ret ()
  | .showOrder _ => .ret ()

def sys : Handler clientSig Exn World := Handler.lift db Call.method

/-- A client with every method spelled out in its database calls. -/
def fine {α : Type} (m : ClientM α) : StorageM α := m.interp Call.method

/-- What the methods of the session's own cart end with. -/
def User.cartStore (logged_in : User) (cart : ShoppingCart) : ClientM Unit :=
  local_storage.storeUser { logged_in with shopping_cart := cart }

namespace ShoppingCart

/-- Some quantity is larger than what its product copy has on hand. -/
def invalidQty (c : ShoppingCart) : Bool := c.cart.toList.any fun (_, p, qty) => p.quantity < qty

/-- `ShoppingCart::buyCart` on the cart of the session. -/
def buyCart (this : ShoppingCart) : ClientM Transaction := do
  if this.invalidQty then .fail .runtime_error
  else return Transaction.new this (← uuid_generate)

end ShoppingCart

namespace Transaction

/-- The loop of `chargeCreditCard` over the items in the order of the map. -/
def chargeItems : List (SKU × Product × UInt32) → ClientM Unit
  | [] => return ()
  | (_, p, qty) :: rest => do
    if p.quantity < qty then .fail .runtime_error
    else
      let p ← local_storage.setQuantity p (p.quantity - qty)
      local_storage.storeProduct p
      chargeItems rest

/-- The first two assignments of `chargeCreditCard`. -/
def finalize (t : Transaction) (date : Tm) : Transaction :=
  { t with transaction_date := date, is_finalized := true }

/-- The logged-in user is passed in and handed back. -/
def chargeCreditCard (this : Transaction) (logged_in : User) : ClientM User := do
  let this := this.finalize (← gmtime)
  chargeItems this.shopping_cart.cart.toList
  local_storage.storeTransaction this
  let logged_in := { logged_in with
    shopping_cart := {}
    transaction_history := logged_in.transaction_history.addTransaction this }
  local_storage.storeUser logged_in
  return logged_in

end Transaction

end OnlineShoppingCenter
