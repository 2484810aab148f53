import OnlineShoppingCenter.Orders
import OnlineShoppingCenter.SampleData

/-!
# Carts and orders read back

The text of a cart is the same in a user record and in an order. The loop that
reads it gives every SKU its quantity again, whatever the size of the cart; an
order comes back with everything but the flag of its card.
-/
namespace OnlineShoppingCenter

open TextCodec ColumnFamilies EffectProgram StorageSystem

variable [Platform]

/-- A read that returns has found the product. -/
theorem readable_of_isSome {w : World} {UPC : SKU}
    (h : (run db (getProduct UPC) w).1.toOption.isSome = true) : Readable w UPC := by
  have hread : wp db.exact (getProduct UPC) w (fun _ _ => Readable w UPC) fun _ _ => True :=
    wp_getProduct (fun p hp => ⟨p, hp⟩) fun _ _ _ => trivial
  obtain ⟨p, hp⟩ := ok_of_isSome h
  rw [wp_exact, hp] at hread
  exact hread

/-- The loop over the item lines rebuilds the quantities of a cart. -/
def CartReadsBack (w : World) (items : List Text) (c : ShoppingCart) : Prop :=
  ∃ c' w', run db (loadItems items {}) w = (.ok c', w') ∧ c'.quantity = c.quantity

theorem cartReadsBack_cartText {w : World} {c : ShoppingCart} (h : ∀ UPC ∈ c.cart, Readable w UPC) :
    CartReadsBack w (split (cartText c) '\n') c := by
  have hread := itemsReadable_cartText.mpr h
  have hload := wp_loadItems (restockable_sameReadable w) (split (cartText c) '\n') {}
    (sameReadable_refl w)
  rw [wp_exact] at hload
  unfold CartReadsBack
  cases hr : run db (loadItems (split (cartText c) '\n') {}) w with
  | mk r w' =>
    rw [hr] at hload
    cases r with
    | error e =>
      obtain ⟨-, -, item, hitem, hnot⟩ := hload
      exact absurd (ItemReadable.same (hread item hitem)) hnot
    | ok c' =>
      have hquantity : c'.quantity = quantities (split (cartText c) '\n') := hload.2.quantity
      exact ⟨c', w', rfl, hquantity.trans (quantities_cartText c)⟩

/-- What either store writes for a cart is read as the cart, over any record
that was there and from any databases that have the products. -/
theorem cart_reads_back (w : World) (c : ShoppingCart) (h : ∀ UPC ∈ c.cart, Readable w UPC) :
    (∀ (u : User) (e : Entry UserKey), u.shopping_cart = c →
        CartReadsBack w (cartLines ((userBatch u).overlay e)) c) ∧
      ∀ (t : Transaction) (e : Entry OrderKey), t.shopping_cart = c →
        CartReadsBack w (split (get ((orderBatch t).overlay e) .items []) '\n') c := by
  constructor
  · rintro u e rfl
    have hlines : cartLines ((userBatch u).overlay e) = split (cartText u.shopping_cart) '\n' := by
      rw [overlay_userBatch]
      rfl
    rw [hlines]
    exact cartReadsBack_cartText h
  · rintro t e rfl
    exact cartReadsBack_cartText h

/-- What a reader may expect of an order: its id, items, address, card numbers,
date and the total as it was stored. -/
structure Transaction.Kept (t t' : Transaction) : Prop where
  agrees : t.Agrees t'
  is_finalized : t'.is_finalized = t.is_finalized
  address_set : t'.shipping_address.is_set = t.shipping_address.is_set
  transaction_date : t'.transaction_date = t.transaction_date
  transaction_amount : stof (to_string_f t.transaction_amount) = .ok t'.transaction_amount

/-- Storing an order and reading it gives the order, with the flag of its card. -/
def OrderReadsBack (w : World) (t : Transaction) : Prop :=
  ∃ t' w', run db (do
      storeTransaction t
      getTransaction t.transaction_id) w = (.ok t', w') ∧
    t.Kept t' ∧ t'.payment_info.is_set = t.payment_info.is_set

section Orders

variable {w : World} {t : Transaction}

/-- What a stored order is read back as. -/
theorem run_order_roundtrip (hfinal : t.is_finalized = true)
    (hcart : ∀ UPC ∈ t.shopping_cart.cart, Readable w UPC) :
    ∃ cart amount w', run db (do
        storeTransaction t
        getTransaction t.transaction_id) w = (.ok (t.reread cart amount), w') ∧
      cart.quantity = t.shopping_cart.quantity ∧
        stof (to_string_f t.transaction_amount) = .ok amount := by
  rw [run_bind_ok (run_storeTransaction w hfinal)]
  exact run_getTransaction (openEntry_putOrder_self w t) hcart

/-- Everything is read back except that the card counts as set: the decoder
fills in a card built without an argument. -/
theorem order_reads_back_unset (w : World) (t : Transaction) (hfinal : t.is_finalized = true)
    (haddr : t.shipping_address.is_set = true) (hpay : t.payment_info.is_set = true)
    (hcart : ∀ UPC ∈ t.shopping_cart.cart, Readable w UPC)
    (hdate : strptime (strftime t.transaction_date) Platform.indeterminate_tm = t.transaction_date) :
    ¬ OrderReadsBack w t ∧ ∃ t' w', run db (do
        storeTransaction t
        getTransaction t.transaction_id) w = (.ok t', w') ∧
      t.Kept t' ∧ t'.payment_info.is_set = false := by
  obtain ⟨cart, amount, w', hrun, hquantity, hamount⟩ := run_order_roundtrip hfinal hcart
  constructor
  · rintro ⟨t', w₂, hrun', -, hflag⟩
    rw [hrun] at hrun'
    cases hrun'
    rw [hpay] at hflag
    cases hflag
  · exact ⟨_, w', hrun,
      ⟨agrees_reread amount hquantity, hfinal.symm, haddr.symm, hdate, hamount⟩, rfl⟩

end Orders

end OnlineShoppingCenter

namespace OnlineShoppingCenter

open TextCodec EffectProgram StorageSystem

attribute [local instance] posix

/-- An entry of no units and one of as many as there can be. -/
def extremeCart : ShoppingCart :=
  (({} : ShoppingCart).set { UPC := 653569401025 } 0).set { UPC := 9780345507754 } 4294967295

theorem extremeCart_readable : ∀ UPC ∈ extremeCart.cart, Readable sampleWorld UPC := by
  intro UPC hUPC
  simp only [extremeCart, ShoppingCart.set, Std.ExtTreeMap.mem_insert, Std.compare_eq_iff_eq,
    Std.ExtTreeMap.not_mem_empty, or_false] at hUPC
  rcases hUPC with rfl | rfl
  · exact readable_of_isSome (by decide +kernel)
  · exact readable_of_isSome (by decide +kernel)

theorem extremeCart_reads_back :
    CartReadsBack sampleWorld (cartLines ((userBatch { shopping_cart := extremeCart }).overlay
      ColumnFamilies.Entry.empty)) extremeCart :=
  (cart_reads_back sampleWorld extremeCart extremeCart_readable).1 _ _ rfl

def sampleOrder : Transaction where
  transaction_id := sampleId 7
  transaction_date := "Wed, 30 Nov 2016 19:44:00 +0000".toList
  shopping_cart := extremeCart
  transaction_amount := flt 23
  payment_info := .new 8299721390 "06/20".toList 40
  shipping_address := ⟨"Jane Roe".toList, "1 Main St".toList, "Starkville".toList, "MS".toList,
    39759, "USA".toList, true, S_ALL_SET⟩
  is_finalized := true

theorem sampleOrder_reads_back_unset :
    ¬ OrderReadsBack sampleWorld sampleOrder ∧ ∃ t' w', run db (do
        storeTransaction sampleOrder
        getTransaction sampleOrder.transaction_id) sampleWorld = (.ok t', w') ∧
      sampleOrder.Kept t' ∧ t'.payment_info.is_set = false :=
  order_reads_back_unset sampleWorld sampleOrder rfl rfl rfl extremeCart_readable rfl

/-- The card of an order that was paid for comes back as no card. -/
theorem card_flag_lost : ¬ OrderReadsBack sampleWorld sampleOrder := by
  have hflag : ((run db (do
      storeTransaction sampleOrder
      getTransaction sampleOrder.transaction_id) sampleWorld).1.toOption.any fun t' =>
        !t'.payment_info.is_set) = true := by
    decide +kernel
  rintro ⟨t', w', hrun, -, hsame⟩
  rw [hrun] at hflag
  change (!t'.payment_info.is_set) = true at hflag
  rw [hsame] at hflag
  cases hflag

end OnlineShoppingCenter
