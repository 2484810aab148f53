import OnlineShoppingCenter.AkinStorage
import OnlineShoppingCenter.CoupledCarts
import OnlineShoppingCenter.Screens

/-!
# Requests that differ in cards

What a session asks of the storage system, and what it makes of orders and
cards, when the users and orders it works on are the same but for the leading
digits of card numbers and for cv2 codes.
-/
namespace OnlineShoppingCenter

open TextCodec EffectProgram

variable [Platform]

/-- Requests that have to do with no card. -/
def Call.Cardless : Call → Prop
  | .getProducts | .getProduct _ | .setQuantity .. | .storeProduct _ | .uuid_generate | .gmtime
  | .ask _ => True
  | .getUser _ | .storeUser _ | .storeTransaction _ | .showOrder _ => False

/-- Requests that are the same but for the cards in them. -/
inductive AkinRequest : Coupling clientSig where
  | same {op : Call} : op.Cardless → AkinRequest op op Eq
  | getUser (username : Text) : AkinRequest (.getUser username) (.getUser username)
      fun (u u' : User) => u.Akin u'
  | storeUser {u u' : User} : u.Akin u' →
      AkinRequest (.storeUser u) (.storeUser u') fun _ _ => True
  | storeTransaction {t t' : Transaction} : t.masked = t'.masked →
      AkinRequest (.storeTransaction t) (.storeTransaction t') fun _ _ => True
  | showOrder (t t' : Transaction) : AkinRequest (.showOrder t) (.showOrder t') fun _ _ => True

/-- Each call is carried out by database calls that differ in cards only. -/
theorem akin_method {op op' : Call} {R : op.Ret → op'.Ret → Prop} (h : AkinRequest op op' R) :
    Coupled AkinCall R op.method op'.method := by
  cases h with
  | getUser username => exact akin_getUser username
  | storeUser hu => exact akin_storeUser hu
  | storeTransaction ht => exact akin_storeTransaction ht
  | showOrder t t' => exact .ret trivial
  | same hop =>
    cases op with
    | getProducts => exact akin_cardless cardless_getProducts
    | getProduct UPC => exact akin_cardless (cardless_getProduct UPC)
    | setQuantity p n => exact akin_cardless (cardless_setQuantity p n)
    | storeProduct p => exact akin_cardless (cardless_storeProduct p)
    | uuid_generate => exact akin_cardless (cardless_query .uuid_generate trivial)
    | gmtime => exact akin_cardless (cardless_query .gmtime trivial)
    | ask question => exact .ret rfl
    | getUser | storeUser | storeTransaction | showOrder => cases hop

/-- A request as a program. -/
theorem akin_request {op op' : Call} {R : op.Ret → op'.Ret → Prop} (h : AkinRequest op op' R) :
    Coupled AkinRequest R (request op) (request op') := Coupled.perform h

theorem akin_cardless_request (op : Call) (h : op.Cardless) :
    Coupled AkinRequest Eq (request op) (request op) := akin_request (.same h)

section Views

variable {t t' : Transaction} {cc cc' : PaymentInfo}

/-- The ending is all that a masked number keeps. -/
theorem cardEnding_masked (cc : PaymentInfo) : cardEnding cc.masked = cardEnding cc := by
  simp [cardEnding, PaymentInfo.masked, mod_mod_cut]

theorem cardEnding_akin (h : cc.masked = cc'.masked) : cardEnding cc = cardEnding cc' := by
  rw [← cardEnding_masked, h, cardEnding_masked]

/-- What is said of the card on file. -/
theorem paymentOnFile_akin (h : cc.masked = cc'.masked) : paymentOnFile cc = paymentOnFile cc' := by
  unfold paymentOnFile
  rw [cardEnding_akin h]

theorem deliveryLines_masked (t : Transaction) : deliveryLines t.masked = deliveryLines t := by
  unfold deliveryLines Transaction.masked
  rw [cardEnding_masked]

theorem orderLines_masked [Terminal] (t : Transaction) : orderLines t.masked = orderLines t := by
  unfold orderLines
  rw [deliveryLines_masked]
  rfl

/-- An order on the screen. -/
theorem orderLines_akin [Terminal] (h : t.masked = t'.masked) : orderLines t = orderLines t' := by
  rw [← orderLines_masked, h, orderLines_masked]

theorem confirmationLines_masked (t : Transaction) :
    confirmationLines t.masked = confirmationLines t := by
  unfold confirmationLines confirmationBody
  rw [deliveryLines_masked]
  rfl

/-- An order that is to be confirmed. -/
theorem confirmationLines_akin (h : t.masked = t'.masked) :
    confirmationLines t = confirmationLines t' := by
  rw [← confirmationLines_masked, h, confirmationLines_masked]

/-- The account view prints the ending of the card and nothing else of it. -/
theorem accountLines_akin {u u' : User} (hu : u.Akin u') : accountLines u = accountLines u' := by
  have hset : u.payment_info.masked.is_set = u'.payment_info.masked.is_set := by
    rw [hu.payment_info]
  change u.payment_info.is_set = u'.payment_info.is_set at hset
  unfold accountLines accountBody
  rw [hu.shipping_address, hset, cardEnding_akin hu.payment_info]

/-- The history shows nothing of the cards. -/
theorem historyBody_masked [Terminal] (h : TransactionHistory) :
    historyBody h.masked = historyBody h := by
  unfold historyBody TransactionHistory.masked
  simp only [List.length_map, List.zipIdx_map, List.flatMap_map]
  rfl

theorem historyLines_akin [Terminal] {h h' : TransactionHistory} (hh : h.masked = h'.masked) :
    historyLines h = historyLines h' := by
  unfold historyLines
  rw [← historyBody_masked, hh, historyBody_masked]

end Views

section Cart

variable {u u' : User}

/-- A cart has nothing to do with cards. -/
theorem User.Akin.withCart (hu : u.Akin u') (c : ShoppingCart) :
    User.Akin { u with shopping_cart := c } { u' with shopping_cart := c } :=
  ⟨hu.user_name, hu.shipping_address, hu.payment_info, hu.transaction_history, rfl, hu.is_set⟩

/-- With the same cart the records are the same but for cards. -/
theorem akin_cartStore (hu : u.Akin u') : CoupledStores AkinRequest Eq u.cartStore u'.cartStore := by
  rintro c _ rfl
  exact akin_request (.storeUser (hu.withCart c))

theorem akin_onCart {method : (ShoppingCart → ClientM Unit) → ShoppingCart → ClientM ShoppingCart}
    (hu : u.Akin u')
    (h : ∀ c c' : ShoppingCart, c = c' →
      Coupled AkinRequest Eq (method u.cartStore c) (method u'.cartStore c')) :
    Coupled AkinRequest User.Akin (onCart u method) (onCart u' method) := by
  apply coupled_onCart (h _ _ hu.shopping_cart)
  rintro c _ rfl
  exact hu.withCart c

theorem akin_changeShippingAddress (hu : u.Akin u') (addr : ShippingAddress) :
    Coupled AkinRequest User.Akin (u.changeShippingAddress local_storage.storeUser addr)
      (u'.changeShippingAddress local_storage.storeUser addr) := by
  have hnew : User.Akin { u with shipping_address := addr } { u' with shipping_address := addr } :=
    ⟨hu.user_name, rfl, hu.payment_info, hu.transaction_history, hu.shopping_cart, hu.is_set⟩
  exact (akin_request (.storeUser hnew)).bind fun _ _ _ => .ret hnew

/-- The card that is typed is the same on both sides. -/
theorem akin_changeCreditCard (hu : u.Akin u') (cc : PaymentInfo) :
    Coupled AkinRequest User.Akin (u.changeCreditCard local_storage.storeUser cc)
      (u'.changeCreditCard local_storage.storeUser cc) := by
  have hnew : User.Akin { u with payment_info := cc } { u' with payment_info := cc } :=
    ⟨hu.user_name, hu.shipping_address, rfl, hu.transaction_history, hu.shopping_cart, hu.is_set⟩
  exact (akin_request (.storeUser hnew)).bind fun _ _ _ => .ret hnew

end Cart

section Order

variable {u u' : User} {t t' : Transaction}

theorem cart_of_masked (ht : t.masked = t'.masked) : t.shopping_cart = t'.shopping_cart := by
  have hcart : t.masked.shopping_cart = t'.masked.shopping_cart := by rw [ht]
  exact hcart

theorem masked_setShippingAddress (ht : t.masked = t'.masked) (addr : ShippingAddress) :
    (t.setShippingAddress addr).masked = (t'.setShippingAddress addr).masked := by
  have hset : t.masked.setShippingAddress addr = t'.masked.setShippingAddress addr := by rw [ht]
  exact hset

/-- A card goes from the user to the order. -/
theorem masked_setPaymentInfo {cc cc' : PaymentInfo} (ht : t.masked = t'.masked)
    (hcc : cc.masked = cc'.masked) : (t.setPaymentInfo cc).masked = (t'.setPaymentInfo cc').masked := by
  have hset : t.masked.setPaymentInfo cc.masked = t'.masked.setPaymentInfo cc'.masked := by
    rw [ht, hcc]
  exact hset

theorem masked_finalize (ht : t.masked = t'.masked) (date : Tm) :
    (t.finalize date).masked = (t'.finalize date).masked := by
  have hfinal : t.masked.finalize date = t'.masked.finalize date := by rw [ht]
  exact hfinal

/-- The loop over the items reads no card. -/
theorem akin_chargeItems (items : List (SKU × Product × UInt32)) :
    Coupled AkinRequest (fun _ _ => True) (Transaction.chargeItems items)
      (Transaction.chargeItems items) := by
  apply coupled_chargeItems (congrArg Product.quantity)
  · rintro p _ n rfl
    exact AkinRequest.same (show (Call.setQuantity p n).Cardless from trivial)
  · rintro p _ rfl
    exact (akin_cardless_request (.storeProduct p) trivial).mono fun _ _ _ => trivial
  · exact List.forall₂_same.mpr fun _ _ => ⟨rfl, rfl⟩

/-- The order that is stored carries the card, and so does the history. -/
theorem akin_chargeCreditCard (hu : u.Akin u') (ht : t.masked = t'.masked) :
    Coupled AkinRequest User.Akin (t.chargeCreditCard u) (t'.chargeCreditCard u') := by
  apply (akin_cardless_request .gmtime trivial).bind
  rintro date _ rfl
  have hfinal := masked_finalize ht date
  have hitems : Coupled AkinRequest (fun _ _ => True)
      (Transaction.chargeItems (t.finalize date).shopping_cart.cart.toList)
      (Transaction.chargeItems (t'.finalize date).shopping_cart.cart.toList) := by
    rw [cart_of_masked hfinal]
    exact akin_chargeItems _
  apply hitems.bind
  intro _ _ _
  apply (akin_request (.storeTransaction hfinal)).bind
  intro _ _ _
  have hhistory : (u.transaction_history.addTransaction (t.finalize date)).masked =
      (u'.transaction_history.addTransaction (t'.finalize date)).masked := by
    rw [TransactionHistory.masked_addTransaction, TransactionHistory.masked_addTransaction,
      hu.transaction_history, hfinal]
  have hnew : User.Akin
      { u with
        shopping_cart := {}
        transaction_history := u.transaction_history.addTransaction (t.finalize date) }
      { u' with
        shopping_cart := {}
        transaction_history := u'.transaction_history.addTransaction (t'.finalize date) } :=
    ⟨hu.user_name, hu.shipping_address, hu.payment_info, hhistory, rfl, hu.is_set⟩
  exact (akin_request (.storeUser hnew)).bind fun _ _ _ => .ret hnew

end Order

end OnlineShoppingCenter
