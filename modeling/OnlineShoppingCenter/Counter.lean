import OnlineShoppingCenter.MainLoop

/-!
# A shop with one customer

What a session is about, without texts, prices and databases: the stock, the
quantities in the cart, the address and the card on file, and the orders that
have been placed. Every line typed at a prompt is one move, most often none.
-/
namespace OnlineShoppingCenter

open TextCodec

variable [Platform]

/-- What is remembered of an order. -/
structure Placed where
  items : SKU → Option UInt32
  address : ShippingAddress
  payment : PaymentInfo

structure Counter where
  stock : SKU → Option UInt32
  cart : SKU → Option UInt32
  address : ShippingAddress
  payment : PaymentInfo
  orders : List Placed

inductive Move where
  | stay
  | put (UPC : SKU) (qty : UInt32)
  | take (UPC : SKU)
  | clear
  | setAddress (address : ShippingAddress)
  | setPayment (payment : PaymentInfo)
  | buy (address : ShippingAddress) (payment : PaymentInfo)

namespace Counter

/-- A purchase takes the whole cart off the shelves. -/
def sold (c : Counter) (UPC : SKU) : Option UInt32 :=
  match c.cart UPC with
  | none => c.stock UPC
  | some qty => (c.stock UPC).map (· - qty)

def apply (c : Counter) : Move → Counter
  | .stay => c
  | .put UPC qty => { c with cart := Function.update c.cart UPC (some qty) }
  | .take UPC => { c with cart := Function.update c.cart UPC none }
  | .clear => { c with cart := fun _ => none }
  | .setAddress address => { c with address }
  | .setPayment payment => { c with payment }
  | .buy address payment =>
    { c with
      stock := c.sold
      cart := fun _ => none
      orders := c.orders ++ [⟨c.cart, address, payment⟩] }

/-- Only products of the shop get into the cart, and only an order that is
complete and in stock is placed. -/
def Allows (c : Counter) : Move → Prop
  | .stay | .clear => True
  | .put UPC _ => (c.stock UPC).isSome
  | .take UPC => (c.cart UPC).isSome
  | .setAddress address => address.is_set = true
  | .setPayment payment => payment.is_set = true
  | .buy address payment => address.is_set = true ∧ payment.is_set = true ∧
    ∀ UPC qty, c.cart UPC = some qty → ∃ n, c.stock UPC = some n ∧ qty ≤ n

/-- Every product in the cart is one of the shop. -/
def Stocked (c : Counter) : Prop := ∀ UPC, (c.cart UPC).isSome → (c.stock UPC).isSome

/-- What `getCount` answers. -/
def count (c : Counter) (UPC : SKU) : UInt32 := (c.cart UPC).getD 0

/-- One more of what is in the cart already is not added. -/
def addMove (c : Counter) (UPC : SKU) (qty : UInt32) : Move :=
  if (c.stock UPC).isNone ∨ qty = 1 ∧ 0 < c.count UPC then .stay else .put UPC qty

def addtocart (c : Counter) : List Text → Move
  | [] => .stay
  | upc_s :: rest =>
    match stoul upc_s with
    | .error _ => .stay
    | .ok UPC =>
      match rest with
      | [] => c.addMove UPC 1
      | qty_s :: _ =>
        match stoui qty_s with
        | .error _ => .stay
        | .ok qty => c.addMove UPC qty

theorem addtocart_unknown {c : Counter} {upc_s : Text} {UPC : SKU} (hparse : stoul upc_s = .ok UPC)
    (h : c.stock UPC = none) (rest : List Text) : c.addtocart (upc_s :: rest) = .stay := by
  have hstay : ∀ qty, c.addMove UPC qty = .stay := by
    intro qty
    rw [addMove, if_pos (.inl (by rw [h]; rfl))]
  rw [addtocart, hparse]
  dsimp only
  cases rest with
  | nil => exact hstay 1
  | cons qty_s rest =>
    dsimp only
    cases stoui qty_s with
    | error e => rfl
    | ok qty => exact hstay qty

def remove (c : Counter) : List Text → Move
  | [] => .stay
  | upc_s :: _ =>
    match stoul upc_s with
    | .error _ => .stay
    | .ok UPC => if 0 < c.count UPC then .take UPC else .stay

def changeqty (c : Counter) : List Text → Move
  | upc_s :: qty_s :: _ =>
    match stoul upc_s, stoui qty_s with
    | .ok UPC, .ok qty => if 0 < c.count UPC then .put UPC qty else .stay
    | _, _ => .stay
  | _ => .stay

def mainMove (c : Counter) : List Text → Move
  | [] => .stay
  | cmd :: args => if cmd = "addtocart".toList then c.addtocart args else .stay

def cartMove (c : Counter) : List Text → Move
  | [] => .stay
  | cmd :: args =>
    if cmd = "remove".toList then c.remove args
    else if cmd = "changeqty".toList then c.changeqty args
    else if cmd = "clear".toList then .clear
    else .stay

def move (c : Counter) (loc : Loc) (line : Text) : Move :=
  match loc with
  | .mainshell => c.mainMove (split line ' ')
  | .cartshell _ => c.cartMove (split line ' ')
  | .orderAddr _ (.correct addr) | .accountAddr (.correct addr) =>
    if saysNo line then .stay else .setAddress addr
  | .orderPay _ (.correct cc) | .accountPay (.correct cc) =>
    if saysNo line then .stay else .setPayment cc
  | .placeOrder order =>
    if saysNo line then .stay else .buy order.shipping_address order.payment_info
  | _ => .stay

theorem allows_unless_no {c : Counter} {m : Move} (h : c.Allows m) (line : Text) :
    c.Allows (if saysNo line then .stay else m) := by
  cases saysNo line with
  | true => trivial
  | false => exact h

theorem isSome_of_count {c : Counter} {UPC : SKU} (h : 0 < c.count UPC) : (c.cart UPC).isSome := by
  rw [count] at h
  cases hcart : c.cart UPC with
  | none =>
    rw [hcart] at h
    exact absurd h (by decide)
  | some qty => rfl

theorem allows_addMove (c : Counter) (UPC : SKU) (qty : UInt32) : c.Allows (c.addMove UPC qty) := by
  unfold addMove
  split
  · trivial
  · rename_i hnot
    have hstock : ¬ (c.stock UPC).isNone := fun h => hnot (.inl h)
    exact Option.isSome_iff_ne_none.mpr fun h => hstock (by rw [h]; rfl)

theorem allows_mainMove (c : Counter) (args : List Text) : c.Allows (c.mainMove args) := by
  cases args with
  | nil => trivial
  | cons cmd args =>
    rw [mainMove]
    split
    · unfold addtocart
      split
      · trivial
      · split
        · trivial
        · split
          · exact allows_addMove c _ 1
          · split
            · trivial
            · exact allows_addMove c _ _
    · trivial

theorem allows_cartMove {c : Counter} (h : c.Stocked) (args : List Text) :
    c.Allows (c.cartMove args) := by
  cases args with
  | nil => trivial
  | cons cmd args =>
    rw [cartMove]
    split
    · unfold remove
      split
      · trivial
      · split
        · trivial
        · split
          · rename_i hcount
            exact isSome_of_count hcount
          · trivial
    · split
      · unfold changeqty
        split
        · split
          · split
            · rename_i hcount
              exact h _ (isSome_of_count hcount)
            · trivial
          · trivial
        · trivial
      · split <;> trivial

/-- Lines typed one after the other, each at its prompt, and each a move that is allowed. -/
inductive Serves : Counter → List (Loc × Text) → Counter → Prop where
  | nil (c : Counter) : Serves c [] c
  | cons {c c' : Counter} {loc : Loc} {line : Text} {rest : List (Loc × Text)} :
      c.Allows (c.move loc line) → Serves (c.apply (c.move loc line)) rest c' →
      Serves c ((loc, line) :: rest) c'

end Counter

end OnlineShoppingCenter
