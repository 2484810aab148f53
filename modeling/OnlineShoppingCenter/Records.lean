import OnlineShoppingCenter.TextCodec

/-!
# The objects of the program

Products, addresses, payment methods, carts, transactions and users with the
members their classes have and the flags their setters keep. A setter that also
stores to the database takes the storing call as an argument.
-/
namespace OnlineShoppingCenter

open TextCodec

/-- A decimal numeral with a fraction, far from the limits of a float. -/
structure PlainDecimal (whole fraction : Text) : Prop where
  whole_ne : whole ≠ []
  digits : ∀ c ∈ whole ++ fraction, c.isDigit = true
  whole_le : whole.length ≤ 30
  fraction_le : fraction.length ≤ 30

/-- The textual form of an id: five groups of lower case hexadecimal digits. -/
def uuidText (t : Text) : Bool :=
  t.length = 36 && t.zipIdx.all fun (c, i) =>
    if i ∈ [8, 13, 18, 23] then c = '-' else c.isDigit || ('a' ≤ c && c ≤ 'f')

/-- An id holds hexadecimal digits and hyphens only. -/
theorem char_of_uuidText {t : Text} {c : Char} (h : uuidText t = true) (hc : c ∈ t) :
    c = '-' ∨ c.isDigit = true ∨ 'a' ≤ c ∧ c ≤ 'f' := by
  obtain ⟨i, hi⟩ := List.mem_iff_getElem?.mp hc
  unfold uuidText at h
  rw [Bool.and_eq_true, List.all_eq_true] at h
  have hci := h.2 (c, i) (List.mk_mem_zipIdx_iff_getElem?.mpr hi)
  dsimp only at hci
  split at hci
  · exact .inl (of_decide_eq_true hci)
  · simpa using Or.inr hci

/-- The types and conversions the program takes from the C++ and uuid
libraries, and what it relies on about them: floats, ids and calendar dates. A
member that a constructor leaves uninitialised holds an `indeterminate` value. -/
class Platform where
  Flt : Type
  flt : Nat → Flt
  fadd : Flt → Flt → Flt
  fmul : Flt → Flt → Flt
  stof : Text → Except Exn Flt
  to_string_f : Flt → Text
  Uuid : Type
  uuid_parse : Text → Option Uuid
  uuid_unparse_lower : Uuid → Text
  Tm : Type
  strftime : Tm → Text
  strptime : Text → Tm → Tm
  indeterminate_float : Flt
  indeterminate_uint : UInt32
  indeterminate_ulong : UInt64
  indeterminate_uuid : Uuid
  indeterminate_tm : Tm
  stof_plain : ∀ whole fraction, PlainDecimal whole fraction →
    ∃ f, stof (whole ++ '.' :: fraction) = .ok f
  stof_to_string : ∀ f, ∃ g, stof (to_string_f f) = .ok g
  stof_error : ∀ t e, stof t = .error e → e = .invalid_argument ∨ e = .out_of_range
  parse_unparse : ∀ u, uuid_parse (uuid_unparse_lower u) = some u
  unparse_text : ∀ u, uuidText (uuid_unparse_lower u) = true
  text_unparse : ∀ t, uuidText t = true → ∃ u, uuid_unparse_lower u = t

export Platform (Flt flt fadd fmul stof to_string_f Uuid uuid_parse uuid_unparse_lower Tm
  strftime strptime)

variable [Platform]

abbrev SKU := UInt64

def P_NAME_SET : UInt32 := 1
def P_UPC_SET : UInt32 := 2
def P_PRICE_SET : UInt32 := 4
def P_CATEGORY_SET : UInt32 := 8
def P_QUANTITY_SET : UInt32 := 16
def P_ALL_SET : UInt32 := 31

structure Product where
  is_set : Bool := false
  UPC : SKU := 0
  quantity : UInt32 := 0
  price : Flt := flt 0
  category : Text := "Uncategorized".toList
  name : Text := "UNDEFINED".toList
  parts_set : UInt32 := 0

namespace Product

/-- The common end of every setter. -/
def mark (p : Product) (part : UInt32) : Product :=
  { p with
    parts_set := p.parts_set ||| part
    is_set := if p.parts_set ||| part = P_ALL_SET then true else p.is_set }

def setUPC (p : Product) (new_upc : SKU) : Product := mark { p with UPC := new_upc } P_UPC_SET
def setName (p : Product) (new_name : Text) : Product := mark { p with name := new_name } P_NAME_SET
def setPrice (p : Product) (new_price : Flt) : Product :=
  mark { p with price := new_price } P_PRICE_SET
def setCategory (p : Product) (new_category : Text) : Product :=
  mark { p with category := new_category } P_CATEGORY_SET

/-- `Product::setQuantity` up to the call that stores the product. -/
def withQuantity (p : Product) (new_quantity : UInt32) : Product :=
  mark { p with quantity := new_quantity } P_QUANTITY_SET

section Mark

variable (p : Product) (part : UInt32)

@[simp] theorem mark_UPC : (p.mark part).UPC = p.UPC := rfl
@[simp] theorem mark_quantity : (p.mark part).quantity = p.quantity := rfl
@[simp] theorem mark_price : (p.mark part).price = p.price := rfl
@[simp] theorem mark_category : (p.mark part).category = p.category := rfl
@[simp] theorem mark_name : (p.mark part).name = p.name := rfl

end Mark

@[simp] theorem withQuantity_UPC (p : Product) (n : UInt32) : (p.withQuantity n).UPC = p.UPC := rfl
@[simp] theorem withQuantity_quantity (p : Product) (n : UInt32) :
    (p.withQuantity n).quantity = n := rfl

/-- A product once complete stays complete. -/
theorem withQuantity_is_set {p : Product} (h : p.is_set = true) (n : UInt32) :
    (p.withQuantity n).is_set = true := by
  simp [withQuantity, mark, h]

end Product

def S_NAME_SET : UInt32 := 1
def S_STREET_SET : UInt32 := 2
def S_CITY_SET : UInt32 := 4
def S_STATE_SET : UInt32 := 8
def S_ZIP_SET : UInt32 := 16
def S_COUNTRY_SET : UInt32 := 32
def S_ALL_SET : UInt32 := 63

structure ShippingAddress where
  shipping_name : Text := []
  street : Text := []
  city : Text := []
  state : Text := []
  zip : UInt32 := Platform.indeterminate_uint
  country : Text := []
  is_set : Bool := false
  parts_set : UInt32 := 0

namespace ShippingAddress

def mark (a : ShippingAddress) (part : UInt32) : ShippingAddress :=
  { a with
    parts_set := a.parts_set ||| part
    is_set := if a.parts_set ||| part = S_ALL_SET then true else a.is_set }

def changeShippingName (a : ShippingAddress) (new_shipping_name : Text) : ShippingAddress :=
  mark { a with shipping_name := new_shipping_name } S_NAME_SET
def changeStreet (a : ShippingAddress) (new_street : Text) : ShippingAddress :=
  mark { a with street := new_street } S_STREET_SET
def changeCity (a : ShippingAddress) (new_city : Text) : ShippingAddress :=
  mark { a with city := new_city } S_CITY_SET
def changeState (a : ShippingAddress) (new_state : Text) : ShippingAddress :=
  mark { a with state := new_state } S_STATE_SET
def changeZip (a : ShippingAddress) (new_zip : UInt32) : ShippingAddress :=
  mark { a with zip := new_zip } S_ZIP_SET
def changeCountry (a : ShippingAddress) (new_country : Text) : ShippingAddress :=
  mark { a with country := new_country } S_COUNTRY_SET

/-- The flag is raised only when the last missing part arrives. -/
def Whole (a : ShippingAddress) : Prop := a.is_set = true → a.parts_set = S_ALL_SET

end ShippingAddress

structure PaymentInfo where
  cc_num : UInt64 := Platform.indeterminate_ulong
  cc_exp : Text := []
  cc_cv2 : UInt32 := Platform.indeterminate_uint
  is_set : Bool := false

/-- The constructor with three arguments. -/
def PaymentInfo.new (new_num : UInt64) (new_exp : Text) (new_cv2 : UInt32) : PaymentInfo :=
  ⟨new_num, new_exp, new_cv2, true⟩

/-- `map<SKU, pair<Product, unsigned int>>`, iterated in the order of the keys. -/
abbrev CartMap := Std.ExtTreeMap SKU (Product × UInt32)

structure ShoppingCart where
  cart : CartMap := ∅

namespace ShoppingCart

def getCount (c : ShoppingCart) (UPC : SKU) : UInt32 :=
  match c.cart[UPC]? with
  | some (_, qty) => qty
  | none => 0

def checkCart (c : ShoppingCart) (UPC : SKU) : Bool :=
  match c.cart[UPC]? with
  | some (_, qty) => 0 < qty
  | none => false

def isEmpty (c : ShoppingCart) : Bool := c.cart.isEmpty

/-- The sum a transaction constructor and the cart view make. -/
def total (c : ShoppingCart) : Flt :=
  c.cart.toList.foldl (fun sum (_, p, qty) => fadd sum (fmul p.price (flt qty.toNat))) (flt 0)

end ShoppingCart

structure Transaction where
  transaction_id : Uuid := Platform.indeterminate_uuid
  transaction_date : Tm := Platform.indeterminate_tm
  shopping_cart : ShoppingCart := {}
  transaction_amount : Flt := Platform.indeterminate_float
  payment_info : PaymentInfo := {}
  shipping_address : ShippingAddress := {}
  is_finalized : Bool := false

namespace Transaction

/-- `Transaction(ShoppingCart, uuid_t)`; `Transaction(ShoppingCart)` passes it a
freshly generated id. -/
def new (cart : ShoppingCart) (id : Uuid) : Transaction :=
  { shopping_cart := cart, transaction_id := id, transaction_amount := cart.total }

def setTransactionDate (t : Transaction) (date : Tm) : Transaction :=
  { t with transaction_date := date }
def setTransactionAmt (t : Transaction) (amt : Flt) : Transaction :=
  { t with transaction_amount := amt }
def setPaymentInfo (t : Transaction) (info : PaymentInfo) : Transaction :=
  { t with payment_info := info }
def setShippingAddress (t : Transaction) (addr : ShippingAddress) : Transaction :=
  { t with shipping_address := addr }

end Transaction

structure TransactionHistory where
  transaction_list : List Transaction := []

def TransactionHistory.addTransaction (h : TransactionHistory) (trans : Transaction) :
    TransactionHistory := ⟨h.transaction_list ++ [trans]⟩

structure User where
  user_name : Text := []
  shipping_address : ShippingAddress := {}
  payment_info : PaymentInfo := {}
  transaction_history : TransactionHistory := {}
  shopping_cart : ShoppingCart := {}
  is_set : Bool := false

/-- The constructor from a name and a history. -/
def User.new (new_user_name : Text) (new_transaction_history : TransactionHistory) : User :=
  { user_name := new_user_name, transaction_history := new_transaction_history, is_set := true }

section Setters

variable {m : Type → Type} [Monad m] (storeUser : User → m Unit)

def User.changeCreditCard (user : User) (new_cc : PaymentInfo) : m User := do
  let user := { user with payment_info := new_cc }
  storeUser user
  return user

def User.changeShippingAddress (user : User) (new_shipping_address : ShippingAddress) :
    m User := do
  let user := { user with shipping_address := new_shipping_address }
  storeUser user
  return user

end Setters

end OnlineShoppingCenter
