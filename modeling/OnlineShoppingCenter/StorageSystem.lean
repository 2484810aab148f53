import OnlineShoppingCenter.ColumnFamilies
import OnlineShoppingCenter.ShoppingCart

/-!
# The storage system

Every method is a program over the calls it makes on the three databases, so
that other sessions may run between two of them. Reading opens an entry and
keeps the record as it was then; writing lists, opens and writes in one step.
-/
namespace OnlineShoppingCenter

open TextCodec ColumnFamilies EffectProgram

inductive UserKey where
  | shipaddr_name | shipaddr_street | shipaddr_city | shipaddr_state | shipaddr_zip
  | shipaddr_country | cc_num | cc_exp | cc_cv2 | orders | items_in_cart
  deriving DecidableEq, Repr

inductive ProductKey where
  | name | category | price | on_hand
  deriving DecidableEq, Repr

inductive OrderKey where
  | date | items | total | shipaddr_name | shipaddr_street | shipaddr_city | shipaddr_state
  | shipaddr_zip | shipaddr_country | cc_num | cc_exp | cc_cv2
  deriving DecidableEq, Repr

/-- Open the default and one other entry; the second handle is the one used. -/
def openEntry {K : Type} (db : Database K) (name : Text) : Option (Entry K) :=
  (db.openForReadOnly [kDefault, name]).bind (·[1]?)

variable [Platform]

/-- The databases under `./OSCdb`, and what the uuid generator and the clock
will answer. -/
structure World where
  users : Database UserKey
  products : Database ProductKey
  orders : Database OrderKey
  uuids : Nat → Uuid
  drawn : Nat
  clock : Nat → Tm
  ticks : Nat

inductive DbCall where
  | openUser (name : Text) | openProduct (name : Text) | openOrder (name : Text)
  | listProducts
  | writeUser (name : Text) (batch : Batch UserKey)
  | writeProduct (name : Text) (batch : Batch ProductKey)
  | writeOrder (name : Text) (batch : Batch OrderKey)
  | uuid_generate | gmtime

def DbCall.Ret : DbCall → Type
  | .openUser _ => Option (Entry UserKey)
  | .openProduct _ => Option (Entry ProductKey)
  | .openOrder _ => Option (Entry OrderKey)
  | .listProducts => List Text
  | .writeUser .. | .writeProduct .. | .writeOrder .. => Unit
  | .uuid_generate => Uuid
  | .gmtime => Tm

abbrev storageSig : Signature := ⟨DbCall, DbCall.Ret⟩

abbrev StorageM := Prog storageSig Exn

abbrev query (op : DbCall) : StorageM op.Ret := Prog.perform (S := storageSig) op

namespace StorageSystem

def openUser (name : Text) : StorageM (Option (Entry UserKey)) := query (.openUser name)
def openProduct (name : Text) : StorageM (Option (Entry ProductKey)) := query (.openProduct name)
def openOrder (name : Text) : StorageM (Option (Entry OrderKey)) := query (.openOrder name)
def listProducts : StorageM (List Text) := query .listProducts
def writeUser (name : Text) (batch : Batch UserKey) : StorageM Unit :=
  query (.writeUser name batch)
def writeProduct (name : Text) (batch : Batch ProductKey) : StorageM Unit :=
  query (.writeProduct name batch)
def writeOrder (name : Text) (batch : Batch OrderKey) : StorageM Unit :=
  query (.writeOrder name batch)
def uuid_generate : StorageM Uuid := query .uuid_generate
def gmtime : StorageM Tm := query .gmtime

end StorageSystem

/-- The meaning of the calls. A write after a refused open would go through a
handle that does not exist. A store is one step here, from the listing of the
entries to the write; `disk` has the steps of the store of an order one by one. -/
def db : Handler storageSig Exn World
  | .openUser name, w => (.ok (openEntry w.users name), w)
  | .openProduct name, w => (.ok (openEntry w.products name), w)
  | .openOrder name, w => (.ok (openEntry w.orders name), w)
  | .listProducts, w => (.ok w.products.listEntries, w)
  | .writeUser name batch, w =>
    match w.users.store name batch with
    | some users => (.ok (), { w with users })
    | none => (.error .undefined, w)
  | .writeProduct name batch, w =>
    match w.products.store name batch with
    | some products => (.ok (), { w with products })
    | none => (.error .undefined, w)
  | .writeOrder name batch, w =>
    match w.orders.store name batch with
    | some orders => (.ok (), { w with orders })
    | none => (.error .undefined, w)
  | .uuid_generate, w => (.ok (w.uuids w.drawn), { w with drawn := w.drawn + 1 })
  | .gmtime, w => (.ok (w.clock w.ticks), { w with ticks := w.ticks + 1 })

namespace StorageSystem

/-- `"SKU:quantity"` lines of a cart, in the order of the map. -/
def cartText (c : ShoppingCart) : Text :=
  join '\n' (c.cart.toList.map fun (upc, _, qty) =>
    to_string upc.toNat ++ ':' :: to_string qty.toNat)

/-- Ids of the finalised orders, one a line. -/
def ordersText (history : TransactionHistory) : Text :=
  join '\n' ((history.transaction_list.filter (·.is_finalized)).map
    fun order => uuid_unparse_lower order.transaction_id)

/-- The guards are `parts_set && S_..._SET`, a conjunction of two numbers, and
so the same for all six keys. -/
def addressBatch (addr : ShippingAddress) : Batch UserKey :=
  let guarded (part : UInt32) (put : UserKey × Text) : Batch UserKey :=
    if addr.parts_set ≠ 0 ∧ part ≠ 0 then [put] else []
  guarded S_NAME_SET (.shipaddr_name, addr.shipping_name) ++
  guarded S_STREET_SET (.shipaddr_street, addr.street) ++
  guarded S_CITY_SET (.shipaddr_city, addr.city) ++
  guarded S_STATE_SET (.shipaddr_state, addr.state) ++
  guarded S_ZIP_SET (.shipaddr_zip, to_string addr.zip.toNat) ++
  guarded S_COUNTRY_SET (.shipaddr_country, addr.country)

def paymentBatch (pay : PaymentInfo) : Batch UserKey :=
  if pay.is_set then
    [(.cc_num, to_string pay.cc_num.toNat), (.cc_exp, pay.cc_exp),
      (.cc_cv2, to_string pay.cc_cv2.toNat)]
  else []

def userBatch (user : User) : Batch UserKey :=
  addressBatch user.shipping_address ++ paymentBatch user.payment_info ++
    [(.orders, ordersText user.transaction_history), (.items_in_cart, cartText user.shopping_cart)]

def storeUser (user : User) : StorageM Unit :=
  writeUser user.user_name (userBatch user)

def productBatch (product : Product) : Batch ProductKey :=
  [(.name, product.name), (.category, product.category), (.price, to_string_f product.price),
    (.on_hand, to_string product.quantity.toNat)]

def storeProduct (product : Product) : StorageM Unit :=
  if product.is_set = false then .ret ()
  else writeProduct (to_string product.UPC.toNat) (productBatch product)

/-- `Product::setQuantity`, which stores the product it has changed. -/
def setQuantity (p : Product) (new_quantity : UInt32) : StorageM Product := do
  let p := p.withQuantity new_quantity
  storeProduct p
  return p

/-- `Get` into a string that keeps its value when the key is missing. -/
def get {K : Type} (entry : Entry K) (key : K) (dbval : Text) : Text := (entry key).getD dbval

def getProduct (UPC : SKU) : StorageM Product := do
  match ← openProduct (to_string UPC.toNat) with
  | none => .fail .system_error
  | some entry =>
    let ret := ({} : Product).setUPC UPC
    let dbval := get entry .name []
    let ret := ret.setName dbval
    let dbval := get entry .category dbval
    let ret := ret.setCategory dbval
    let dbval := get entry .price dbval
    let ret := ret.setPrice (← .ofExcept (stof dbval))
    let dbval := get entry .on_hand dbval
    setQuantity ret (← .ofExcept (stoui dbval))

def stoulEach : List Text → Except Exn (List SKU)
  | [] => .ok []
  | upc_s :: rest => do return (← stoul upc_s) :: (← stoulEach rest)

def getProducts : StorageM (List SKU) := do
  let upc_sl ← listProducts
  .ofExcept (stoulEach (upc_sl.filter (· ≠ kDefault)))

def orderBatch (t : Transaction) : Batch OrderKey :=
  [(.date, strftime t.transaction_date), (.items, cartText t.shopping_cart),
    (.total, to_string_f t.transaction_amount),
    (.shipaddr_name, t.shipping_address.shipping_name),
    (.shipaddr_street, t.shipping_address.street), (.shipaddr_city, t.shipping_address.city),
    (.shipaddr_state, t.shipping_address.state),
    (.shipaddr_zip, to_string t.shipping_address.zip.toNat),
    (.shipaddr_country, t.shipping_address.country),
    (.cc_num, to_string t.payment_info.cc_num.toNat), (.cc_exp, t.payment_info.cc_exp),
    (.cc_cv2, to_string t.payment_info.cc_cv2.toNat)]

def storeTransaction (t : Transaction) : StorageM Unit :=
  if t.is_finalized = false then .ret ()
  else writeOrder (uuid_unparse_lower t.transaction_id) (orderBatch t)

/-- One `SKU:quantity` item. An item that does not split into two parts has no
second part to read. -/
def parseItem (item_ps : Text) : Except Exn (SKU × UInt32) :=
  match split item_ps ':' with
  | upc_s :: qty_s :: _ => do return (← stoul upc_s, ← stoui qty_s)
  | _ => .error .undefined

/-- The loop over the item lines, in `getUser` and in `getTransaction`. -/
def loadItems : List Text → ShoppingCart → StorageM ShoppingCart
  | [], c => return c
  | item_ps :: rest, c => do
    let (upc, qty) ← .ofExcept (parseItem item_ps)
    let p ← getProduct upc
    let c ← c.addProductQty (fun _ => pure ()) p qty
    loadItems rest c

/-- The status of the open is not looked at here. -/
def getTransaction (id : Uuid) : StorageM Transaction := do
  match ← openOrder (uuid_unparse_lower id) with
  | none => .fail .undefined
  | some entry =>
    let dbval := get entry .items []
    let cart ← loadItems (split dbval '\n') {}
    let ret := { Transaction.new cart id with is_finalized := true }
    let dbval := get entry .date dbval
    let ret := ret.setTransactionDate (strptime dbval Platform.indeterminate_tm)
    let dbval := get entry .total dbval
    let ret := ret.setTransactionAmt (← .ofExcept (stof dbval))
    let dbval := get entry .shipaddr_name dbval
    let addr := ({} : ShippingAddress).changeShippingName dbval
    let dbval := get entry .shipaddr_street dbval
    let addr := addr.changeStreet dbval
    let dbval := get entry .shipaddr_city dbval
    let addr := addr.changeCity dbval
    let dbval := get entry .shipaddr_state dbval
    let addr := addr.changeState dbval
    let dbval := get entry .shipaddr_zip dbval
    let addr := addr.changeZip (← .ofExcept (stoui dbval))
    let dbval := get entry .shipaddr_country dbval
    let addr := addr.changeCountry dbval
    let ret := ret.setShippingAddress addr
    let dbval := get entry .cc_num dbval
    let cc : PaymentInfo := { cc_num := ← .ofExcept (stoul dbval) }
    let dbval := get entry .cc_exp dbval
    let cc := { cc with cc_exp := dbval }
    let dbval := get entry .cc_cv2 dbval
    let cc := { cc with cc_cv2 := ← .ofExcept (stoui dbval) }
    return ret.setPaymentInfo cc

/-- The loop over the ids. A text that is no id leaves `tid` as it was. -/
def loadOrders : List Text → Uuid → TransactionHistory → StorageM TransactionHistory
  | [], _, orders => return orders
  | tid_s :: rest, tid, orders => do
    let tid := (uuid_parse tid_s).getD tid
    let t ← getTransaction tid
    loadOrders rest tid (orders.addTransaction t)

/-- The address keys, each of which may be missing; `dbval` is also returned. -/
def loadAddress (entry : Entry UserKey) (dbval : Text) : Except Exn (ShippingAddress × Text) := do
  let addr : ShippingAddress := {}
  let addr := match entry .shipaddr_name with | some v => addr.changeShippingName v | none => addr
  let addr := match entry .shipaddr_street with | some v => addr.changeStreet v | none => addr
  let addr := match entry .shipaddr_city with | some v => addr.changeCity v | none => addr
  let addr := match entry .shipaddr_state with | some v => addr.changeState v | none => addr
  let addr ← match entry .shipaddr_zip with
    | some v => do pure (addr.changeZip (← stoui v))
    | none => pure addr
  let addr := match entry .shipaddr_country with | some v => addr.changeCountry v | none => addr
  let dbval := get entry .shipaddr_name dbval
  let dbval := get entry .shipaddr_street dbval
  let dbval := get entry .shipaddr_city dbval
  let dbval := get entry .shipaddr_state dbval
  let dbval := get entry .shipaddr_zip dbval
  let dbval := get entry .shipaddr_country dbval
  return (addr, dbval)

/-- The payment keys. The third read asks for `cc_exp` again and its text is
decoded as the cv2. -/
def loadPayment (entry : Entry UserKey) : Except Exn (Option PaymentInfo) :=
  match entry .cc_num with
  | none => .ok none
  | some num => do
    let cc_num ← stoul num
    match entry .cc_exp with
    | none => return none
    | some cc_exp =>
      let cc_cv2 ← stoui cc_exp
      return some (.new cc_num cc_exp cc_cv2)

/-- The setters store the user while its cart is still empty. -/
def getUser (username : Text) : StorageM User := do
  match ← openUser username with
  | none => .fail .system_error
  | some entry =>
    let dbval := get entry .orders []
    let orders ← loadOrders (split dbval '\n') Platform.indeterminate_uuid {}
    let user := User.new username orders
    let (addr, dbval) ← .ofExcept (loadAddress entry dbval)
    let user ← user.changeShippingAddress storeUser addr
    let user ← match ← .ofExcept (loadPayment entry) with
      | some cc => user.changeCreditCard storeUser cc
      | none => pure user
    let dbval := get entry .cc_num dbval
    let dbval := if (entry .cc_num).isSome then get entry .cc_exp dbval else dbval
    let dbval := get entry .items_in_cart dbval
    let cart ← loadItems (split dbval '\n') user.shopping_cart
    return { user with shopping_cart := cart }

end StorageSystem

end OnlineShoppingCenter
