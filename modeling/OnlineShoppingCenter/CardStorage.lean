import OnlineShoppingCenter.IntegrityRules
import OnlineShoppingCenter.Login

/-!
# A card that is stored and read back

`getUser` decodes the cv2 from the expiry text, and stores what it has decoded.
The card comes back as it was when the expiry starts with the cv2, and when the
rest of the record can be read at all.
-/
namespace OnlineShoppingCenter

open TextCodec ColumnFamilies EffectProgram StorageSystem

variable [Platform]

/-- What `getUser` has to read on its way. -/
structure Loads (w : World) (entry : Entry UserKey) : Prop where
  head : HeadReadable (· = w) entry
  payment : ∃ pay, loadPayment entry = .ok pay
  items : ∀ item ∈ cartLines entry, ItemReadable (· = w) item

/-- The record of a user says this card. -/
def CardStored (w : World) (username : Text) (cc : PaymentInfo) : Prop :=
  ∃ e, w.users[username]? = some e ∧ e .cc_num = some (to_string cc.cc_num.toNat) ∧
    e .cc_exp = some cc.cc_exp ∧ e .cc_cv2 = some (to_string cc.cc_cv2.toNat)

theorem cardStored_putUser {u : User} (h : u.payment_info.is_set = true) (w : World) :
    CardStored (w.putUser u) u.user_name u.payment_info := by
  refine ⟨_, Database.getElem?_put_self _ _ _, ?_⟩
  rw [overlay_userBatch]
  simp [h]

/-- The same products can be read, and a card that was read has been stored. -/
def CardKept (w : World) (username : Text) (entry : Entry UserKey) (w' : World) : Prop :=
  (∀ UPC, Readable w' UPC ↔ Readable w UPC) ∧
    ∀ cc, loadPayment entry = .ok (some cc) → CardStored w' username cc

theorem restockable_cardKept (w : World) (username : Text) (entry : Entry UserKey) :
    Restockable (CardKept w username entry) := fun _ _ _ h hp =>
  ⟨fun other => (readable_restock hp.readable other).trans (h.1 other), h.2⟩

theorem cardKept_storeLoaded {w w' : World} {username : Text} {entry : Entry UserKey} {user : User}
    {pay : Option PaymentInfo} (hw' : SameReadable w w')
    (hhead : LoadedHead (SameReadable w) username entry user)
    (hpay : loadPayment entry = .ok pay) :
    CardKept w username entry (storeLoaded w' user pay) := by
  constructor
  · intro UPC
    have hsame : Readable (storeLoaded w' user pay) UPC ↔ Readable w' UPC := by
      unfold storeLoaded
      split <;> exact Iff.rfl
    exact hsame.trans (hw'.products UPC)
  · intro cc hcc
    rw [hpay] at hcc
    cases hcc
    have hset : (withPayment user (some cc)).payment_info.is_set = true := (loadPayment_some hpay).1
    have hstored := cardStored_putUser hset (w'.putUser user)
    rw [show (withPayment user (some cc)).user_name = username from hhead.name] at hstored
    exact hstored

/-- A login returns exactly when the record can be read, and then the card it
has read is on the user and in the record. -/
theorem wp_getUser_card {w : World} {username : Text} {entry : Entry UserKey}
    (hentry : openEntry w.users username = some entry) :
    wp db.exact (getUser username) w
      (fun u w' => Loads w entry ∧ ∀ cc, loadPayment entry = .ok (some cc) →
        u.payment_info = cc ∧ CardStored w' username cc)
      (fun _ _ => ¬ Loads w entry) := by
  apply wp_getUser (restockable_sameReadable w) (sameReadable_refl w)
  · intro hnone
    rw [hentry] at hnone
    cases hnone
  · intro entry' w' e hentry' _ _ hnot hloads
    rw [hentry] at hentry'
    cases hentry'
    exact hnot hloads.head.same
  · intro entry' w' user hentry' hw' hhead
    rw [hentry] at hentry'
    cases hentry'
    apply wp_loadRest (restockable_cardKept w username entry)
    · intro e he hloads
      obtain ⟨pay, hpay⟩ := hloads.payment
      rw [hpay] at he
      cases he
    · exact fun pay hpay => cardKept_storeLoaded hw' hhead hpay
    · rintro e w'' - - ⟨item, hitem, hnot⟩ hloads
      exact hnot ((hloads.items item hitem).relocate fun _ h => h.1)
    · intro pay cart w'' hpay hw'' hcart
      refine ⟨⟨hhead.readable, ⟨pay, hpay⟩, hcart.readable fun _ h => h.1⟩, ?_⟩
      intro cc hcc
      refine ⟨?_, hw''.2 cc hcc⟩
      rw [hpay] at hcc
      cases hcc
      rfl

/-- Storing a user and loading it again gives the card back, on the user and in
the record. -/
def CardReadsBack (w : World) (user : User) : Prop :=
  ∃ u w', run db (do
      storeUser user
      getUser user.user_name) w = (.ok u, w') ∧
    u.payment_info = user.payment_info ∧ CardStored w' user.user_name user.payment_info

/-- What else of the user has to be readable: the orders of its history, a zip
already stored that is not replaced, and the products in its cart. -/
structure Reloads (w : World) (user : User) : Prop where
  orders : ∀ id ∈ finalizedIds user.transaction_history, OrderReadable (· = w) id
  zip : user.shipping_address.parts_set = 0 → ∀ e, w.users[user.user_name]? = some e → ZipReads e
  cart : ∀ UPC ∈ user.shopping_cart.cart, Readable w UPC

section Reload

variable {w : World} {user : User}

/-- The record of a user after a store. -/
def storedEntry (w : World) (user : User) : Entry UserKey :=
  (userBatch user).overlay ((w.users[user.user_name]?).getD Entry.empty)

theorem openEntry_putUser_self (w : World) (user : User) :
    openEntry (w.putUser user).users user.user_name = some (storedEntry w user) :=
  openEntry_eq_some.mpr ⟨kDefault_mem_putUser user, Database.getElem?_put_self _ _ _⟩

theorem orderIds_unparse (ids : List Uuid) (tid : Uuid) :
    orderIds (ids.map uuid_unparse_lower) tid = ids := by
  induction ids generalizing tid with
  | nil => rfl
  | cons id ids ih =>
    rw [List.map_cons, orderIds, parse_unparse, Option.getD_some, ih]

/-- A store of a user does not touch what its orders are read from. -/
theorem orderReadable_putUser {id : Uuid} :
    OrderReadable (· = w.putUser user) id ↔ OrderReadable (· = w) id := by
  have hitem : ∀ item, ItemReadable (· = w.putUser user) item ↔ ItemReadable (· = w) item := by
    intro item
    constructor
    · rintro ⟨UPC, qty, hparse, hread⟩
      refine ⟨UPC, qty, hparse, ?_⟩
      rintro w' rfl
      exact hread (w'.putUser user) rfl
    · rintro ⟨UPC, qty, hparse, hread⟩
      refine ⟨UPC, qty, hparse, ?_⟩
      rintro w' rfl
      exact hread w rfl
  unfold OrderReadable
  simp only [forall_eq, hitem, World.putUser_orders]

theorem loadedZip_ok {entry : Entry UserKey} :
    (∃ zip, loadedZip entry = .ok zip) ↔ ZipReads entry := by
  constructor
  · rintro ⟨zip, hzip⟩
    exact zipReads_of_ok hzip
  · intro hreads
    unfold loadedZip
    cases hzip : entry .shipaddr_zip with
    | none => exact ⟨_, rfl⟩
    | some zip => exact hreads zip hzip

theorem zipReads_storedEntry :
    ZipReads (storedEntry w user) ↔
      (user.shipping_address.parts_set = 0 →
        ∀ e, w.users[user.user_name]? = some e → ZipReads e) := by
  unfold storedEntry ZipReads
  rw [overlay_userBatch]
  by_cases hparts : user.shipping_address.parts_set = 0
  · cases w.users[user.user_name]? with
    | none => simp [hparts, Entry.empty]
    | some e => simp [hparts]
  · simp [hparts, stoui_to_string_uint]

theorem loadPayment_storedEntry (hset : user.payment_info.is_set = true) :
    loadPayment (storedEntry w user) =
      (fun cv2 => some (.new user.payment_info.cc_num user.payment_info.cc_exp cv2)) <$>
        stoui user.payment_info.cc_exp := by
  unfold loadPayment storedEntry
  rw [overlay_userBatch]
  simp only [hset, if_true, stoul_to_string_ulong]
  rfl

/-- A record just stored loads when its card and what it refers to can be read. -/
theorem loads_storedEntry :
    Loads (w.putUser user) (storedEntry w user) ↔
      (∃ pay, loadPayment (storedEntry w user) = .ok pay) ∧ Reloads w user := by
  have hids : orderIds (orderLines (storedEntry w user)) Platform.indeterminate_uuid =
      finalizedIds user.transaction_history := by
    rw [storedEntry, orderLines_overlay, orderIds_unparse]
  have hhead : HeadReadable (· = w.putUser user) (storedEntry w user) ↔
      (∀ id ∈ finalizedIds user.transaction_history, OrderReadable (· = w) id) ∧
        (user.shipping_address.parts_set = 0 →
          ∀ e, w.users[user.user_name]? = some e → ZipReads e) := by
    rw [HeadReadable, hids, loadedZip_ok, zipReads_storedEntry]
    simp only [orderReadable_putUser]
  have hitems : (∀ item ∈ cartLines (storedEntry w user), ItemReadable (· = w.putUser user) item) ↔
      ∀ UPC ∈ user.shopping_cart.cart, Readable w UPC := by
    rw [storedEntry, cartLines_overlay]
    exact itemsReadable_cartText
  constructor
  · intro h
    exact ⟨h.payment, (hhead.mp h.head).1, (hhead.mp h.head).2, hitems.mp h.items⟩
  · rintro ⟨hpayment, h⟩
    exact ⟨hhead.mpr ⟨h.orders, h.zip⟩, hpayment, hitems.mpr h.cart⟩

theorem loads_storedCard (hset : user.payment_info.is_set = true) :
    Loads (w.putUser user) (storedEntry w user) ↔
      (∃ cv2, stoui user.payment_info.cc_exp = .ok cv2) ∧ Reloads w user := by
  rw [loads_storedEntry, loadPayment_storedEntry hset]
  cases stoui user.payment_info.cc_exp with
  | ok cv2 => exact and_congr_left' (iff_of_true ⟨_, rfl⟩ ⟨_, rfl⟩)
  | error e => exact and_congr_left' (iff_of_false nofun nofun)

theorem PaymentInfo.new_eta {cc : PaymentInfo} (h : cc.is_set = true) :
    .new cc.cc_num cc.cc_exp cc.cc_cv2 = cc := by
  cases cc
  cases h
  rfl

/-- A stored card is read back exactly when its expiry text starts with its cv2,
and the rest of the record can be read. -/
theorem card_reads_back_iff (hset : user.payment_info.is_set = true) (w : World) :
    CardReadsBack w user ↔
      stoui user.payment_info.cc_exp = .ok user.payment_info.cc_cv2 ∧ Reloads w user := by
  have hget := wp_getUser_card (openEntry_putUser_self w user)
  rw [wp_exact, loads_storedCard hset] at hget
  unfold CardReadsBack
  rw [run_bind_ok (run_storeUser w user)]
  constructor
  · rintro ⟨u, w', hrun, hpay, -⟩
    rw [hrun] at hget
    obtain ⟨⟨⟨cv2, hcv2⟩, hreloads⟩, hcard⟩ := hget
    refine ⟨?_, hreloads⟩
    rw [loadPayment_storedEntry hset, hcv2] at hcard
    have hread := (hcard _ rfl).1
    rw [hpay] at hread
    rw [hcv2, hread]
    rfl
  · rintro ⟨hcv2, hreloads⟩
    cases hr : run db (getUser user.user_name) (w.putUser user) with
    | mk r w' =>
      rw [hr] at hget
      cases r with
      | error e => exact absurd ⟨⟨_, hcv2⟩, hreloads⟩ hget
      | ok u =>
        have hsame : loadPayment (storedEntry w user) = .ok (some user.payment_info) := by
          rw [loadPayment_storedEntry hset, hcv2, ← PaymentInfo.new_eta hset]
          rfl
        exact ⟨u, w', rfl, hget.2 _ hsame⟩

end Reload

end OnlineShoppingCenter

namespace OnlineShoppingCenter

open TextCodec EffectProgram StorageSystem

attribute [local instance] posix

def cardUser (cv2 : UInt32) : User where
  user_name := "testuser003".toList
  payment_info := .new 8299721390 "06/20".toList cv2

/-- The cv2 6 survives an expiry in June. -/
theorem sample_card_reads_back :
    CardReadsBack sampleWorld (cardUser 6) ↔
      stoui (cardUser 6).payment_info.cc_exp = .ok (cardUser 6).payment_info.cc_cv2 ∧
        Reloads sampleWorld (cardUser 6) :=
  card_reads_back_iff rfl _

/-- The cv2 40 comes back as 6 and is overwritten in the record. -/
theorem cv2_not_read_back :
    ¬ CardReadsBack sampleWorld (cardUser 40) ∧
      ((run db (do
          storeUser (cardUser 40)
          getUser "testuser003".toList) sampleWorld).1.toOption.any fun u =>
        u.payment_info.cc_cv2 = 6) = true ∧
      ((run db (do
          storeUser (cardUser 40)
          getUser "testuser003".toList) sampleWorld).2.users["testuser003".toList]?.bind fun e =>
        e .cc_cv2) = some "6".toList := by
  have hread : ((run db (do
      storeUser (cardUser 40)
      getUser "testuser003".toList) sampleWorld).1.toOption.any fun u =>
        u.payment_info.cc_cv2 = 6) = true := by
    decide +kernel
  have hrecord : ((run db (do
      storeUser (cardUser 40)
      getUser "testuser003".toList) sampleWorld).2.users["testuser003".toList]?.bind fun e =>
        e .cc_cv2) = some "6".toList := by
    decide +kernel
  refine ⟨?_, hread, hrecord⟩
  rintro ⟨u, w', hrun, hpay, -⟩
  obtain ⟨u', hu', hcv2⟩ := ok_of_any hread
  have hu : u' = u := by
    have h := hu'.symm.trans (congrArg Prod.fst hrun)
    exact Except.ok.inj h
  rw [hu, hpay] at hcv2
  revert hcv2
  decide

end OnlineShoppingCenter
