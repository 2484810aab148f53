import OnlineShoppingCenter.StorageRules

/-!
# Rules for loading users and orders

Loading reads products, and every product read stores the product again. The
rules take an invariant of the world that these stores keep. They say what has
been loaded when the method returns and what could not be read when it fails.
-/
namespace OnlineShoppingCenter

open TextCodec ColumnFamilies EffectProgram

variable [Platform]

/-- An invariant that storing a product just read keeps. -/
def Restockable (K : World → Prop) : Prop :=
  ∀ w UPC p, K w → StorageSystem.Decoded w UPC p → K (w.restock p)

namespace StorageSystem

variable {K : World → Prop} {w : World}

/-- An item line whose product can be read in every world of the invariant. -/
def ItemReadable (K : World → Prop) (item : Text) : Prop :=
  ∃ UPC qty, parseItem item = .ok (UPC, qty) ∧ ∀ w, K w → ∃ p, Decoded w UPC p

/-- The cart that the item lines lead to, each product read in some world of
the invariant. -/
inductive LoadedItems (K : World → Prop) : List Text → ShoppingCart → ShoppingCart → Prop where
  | nil {c : ShoppingCart} : LoadedItems K [] c c
  | cons {item : Text} {rest : List Text} {c c' : ShoppingCart} {UPC : SKU} {qty : UInt32}
      {w : World} {p : Product} : parseItem item = .ok (UPC, qty) → K w → Decoded w UPC p →
      LoadedItems K rest (c.set p qty) c' → LoadedItems K (item :: rest) c c'

theorem wp_loadItems (hK : Restockable K) (items : List Text) (c : ShoppingCart) (hw : K w) :
    wp db.exact (loadItems items c) w (fun c' w' => K w' ∧ LoadedItems K items c c')
      (fun e w' => K w' ∧ e ≠ .runtime_error ∧ ∃ item ∈ items, ¬ ItemReadable K item) := by
  induction items generalizing c w with
  | nil => exact ⟨hw, .nil⟩
  | cons item rest ih =>
    refine wp_bind.mpr (wp_ofExcept.mpr ⟨?_, ?_⟩)
    · rintro ⟨UPC, qty⟩ hitem
      refine wp_bind.mpr (wp_getProduct ?_ ?_)
      · intro p hp
        rw [ShoppingCart.addProductQty_local]
        refine wp_mono (ih (c.set p qty) (hK w UPC p hw hp)) ?_ ?_
        · intro c' w' ⟨hw', hc'⟩
          exact ⟨hw', .cons hitem hw hp hc'⟩
        · intro e w' ⟨hw', he, bad, hbad, hread⟩
          exact ⟨hw', he, bad, by simp [hbad], hread⟩
      · intro e he hnone
        refine ⟨hw, he, item, by simp, ?_⟩
        rintro ⟨UPC', qty', hitem', hread⟩
        rw [hitem] at hitem'
        cases hitem'
        exact hnone (hread w hw)
    · intro e he
      refine ⟨hw, parseItem_error he, item, by simp, ?_⟩
      rintro ⟨UPC, qty, hitem, -⟩
      rw [he] at hitem
      cases hitem

/-- An order entry that decodes in every world of the invariant. -/
def OrderReadable (K : World → Prop) (id : Uuid) : Prop :=
  ∀ w, K w → ∃ entry, openEntry w.orders (uuid_unparse_lower id) = some entry ∧
    (∀ item ∈ split (get entry .items []) '\n', ItemReadable K item) ∧
      ∃ t, decodeOrder id {} entry = .ok t

/-- What `getTransaction` returns. -/
def LoadedOrder (K : World → Prop) (id : Uuid) (t : Transaction) : Prop :=
  ∃ w entry cart, K w ∧ openEntry w.orders (uuid_unparse_lower id) = some entry ∧
    LoadedItems K (split (get entry .items []) '\n') {} cart ∧ decodeOrder id cart entry = .ok t

/-- What an order decodes to depends on its items only in the items. -/
theorem decodeOrder_cart (id : Uuid) (cart : ShoppingCart) (entry : Entry OrderKey) :
    decodeOrder id cart entry =
      (fun t => { t with shopping_cart := cart }) <$> decodeOrder id {} entry := by
  simp only [decodeOrder, map_bind, map_pure]

theorem wp_getTransaction (hK : Restockable K) (id : Uuid) (hw : K w) :
    wp db.exact (getTransaction id) w (fun t w' => K w' ∧ LoadedOrder K id t)
      (fun e w' => K w' ∧ e ≠ .runtime_error ∧ ¬ OrderReadable K id) := by
  rw [getTransaction_eq, wp_bind, wp_openOrder]
  cases h : openEntry w.orders (uuid_unparse_lower id) with
  | none =>
    refine ⟨hw, by decide, ?_⟩
    intro hread
    obtain ⟨entry, hentry, -⟩ := hread w hw
    rw [h] at hentry
    cases hentry
  | some entry =>
    refine wp_bind.mpr (wp_mono (wp_loadItems hK _ {} hw) ?_ ?_)
    · intro cart w' ⟨hw', hcart⟩
      refine wp_ofExcept.mpr ⟨?_, ?_⟩
      · intro t ht
        exact ⟨hw', w, entry, cart, hw, h, hcart, ht⟩
      · intro e he
        refine ⟨hw', decodeOrder_error he, ?_⟩
        intro hread
        obtain ⟨entry', hentry, -, t, ht⟩ := hread w hw
        rw [h] at hentry
        cases hentry
        rw [decodeOrder_cart, ht] at he
        cases he
    · intro e w' ⟨hw', he, item, hitem, hread⟩
      refine ⟨hw', he, ?_⟩
      intro horder
      obtain ⟨entry', hentry, hitems, -⟩ := horder w hw
      rw [h] at hentry
      cases hentry
      exact hread (hitems item hitem)

/-- The ids behind the lines of an order list; a text that is no id repeats the
one before it. -/
def orderIds : List Text → Uuid → List Uuid
  | [], _ => []
  | tid_s :: rest, tid => (uuid_parse tid_s).getD tid :: orderIds rest ((uuid_parse tid_s).getD tid)

theorem wp_loadOrders (hK : Restockable K) (lines : List Text) (tid : Uuid)
    (orders : TransactionHistory) (hw : K w) :
    wp db.exact (loadOrders lines tid orders) w
      (fun orders' w' => K w' ∧ ∃ ts, orders' = ⟨orders.transaction_list ++ ts⟩ ∧
        List.Forall₂ (LoadedOrder K) (orderIds lines tid) ts)
      (fun e w' => K w' ∧ e ≠ .runtime_error ∧ ∃ id ∈ orderIds lines tid, ¬ OrderReadable K id) := by
  induction lines generalizing tid orders w with
  | nil => exact ⟨hw, [], by simp, .nil⟩
  | cons tid_s rest ih =>
    refine wp_bind.mpr (wp_mono (wp_getTransaction hK _ hw) ?_ ?_)
    · intro t w' ⟨hw', ht⟩
      refine wp_mono (ih ((uuid_parse tid_s).getD tid) (orders.addTransaction t) hw') ?_ ?_
      · intro orders' w'' ⟨hw'', ts, horders, hts⟩
        refine ⟨hw'', t :: ts, ?_, .cons ht hts⟩
        simpa [TransactionHistory.addTransaction] using horders
      · intro e w'' ⟨hw'', he, id, hid, hread⟩
        exact ⟨hw'', he, id, by simp [orderIds, hid], hread⟩
    · intro e w' ⟨hw', he, hread⟩
      exact ⟨hw', he, (uuid_parse tid_s).getD tid, by simp [orderIds], hread⟩

/-- What `dbval` holds after the address keys have been read. -/
def addressText (entry : Entry UserKey) : Text :=
  get entry .shipaddr_country (get entry .shipaddr_zip (get entry .shipaddr_state
    (get entry .shipaddr_city (get entry .shipaddr_street (get entry .shipaddr_name
      (get entry .orders []))))))

/-- The flag of an address key, if the entry has the key. -/
def partOf (v : Option Text) (part : UInt32) : UInt32 := if v.isSome then part else 0

def presentParts (entry : Entry UserKey) : UInt32 :=
  partOf (entry .shipaddr_name) S_NAME_SET ||| partOf (entry .shipaddr_street) S_STREET_SET |||
    partOf (entry .shipaddr_city) S_CITY_SET ||| partOf (entry .shipaddr_state) S_STATE_SET |||
    partOf (entry .shipaddr_zip) S_ZIP_SET ||| partOf (entry .shipaddr_country) S_COUNTRY_SET

/-- The address that the setters build from the keys present. -/
def addressOf (entry : Entry UserKey) (zip : UInt32) : ShippingAddress where
  shipping_name := (entry .shipaddr_name).getD []
  street := (entry .shipaddr_street).getD []
  city := (entry .shipaddr_city).getD []
  state := (entry .shipaddr_state).getD []
  zip := zip
  country := (entry .shipaddr_country).getD []
  is_set := presentParts entry = S_ALL_SET
  parts_set := presentParts entry

def loadedZip (entry : Entry UserKey) : Except Exn UInt32 :=
  match entry .shipaddr_zip with
  | some v => stoui v
  | none => .ok Platform.indeterminate_uint

def orderLines (entry : Entry UserKey) : List Text := split (get entry .orders []) '\n'

/-- The item lines as `getUser` finds them; without the key, the text read last. -/
def cartLines (entry : Entry UserKey) : List Text :=
  let dbval := get entry .cc_num (addressText entry)
  let dbval := if (entry .cc_num).isSome then get entry .cc_exp dbval else dbval
  split (get entry .items_in_cart dbval) '\n'

/-- `getUser` from the first store on. -/
def loadRest (entry : Entry UserKey) (user : User) : StorageM User := do
  storeUser user
  let user ← match ← .ofExcept (loadPayment entry) with
    | some cc => user.changeCreditCard storeUser cc
    | none => pure user
  let cart ← loadItems (cartLines entry) user.shopping_cart
  return { user with shopping_cart := cart }

theorem loadAddress_eq (entry : Entry UserKey) :
    loadAddress entry (get entry .orders []) =
      (fun zip => (addressOf entry zip, addressText entry)) <$> loadedZip entry := by
  unfold loadAddress loadedZip addressOf addressText presentParts
  cases entry .shipaddr_zip with
  | none =>
    cases entry .shipaddr_name <;> cases entry .shipaddr_street <;> cases entry .shipaddr_city <;>
      cases entry .shipaddr_state <;> cases entry .shipaddr_country <;>
        simp +decide [ShippingAddress.changeShippingName, ShippingAddress.changeStreet,
          ShippingAddress.changeCity, ShippingAddress.changeState, ShippingAddress.changeCountry,
          ShippingAddress.mark, partOf] <;> rfl
  | some v =>
    cases hv : stoui v with
    | error e =>
      simp [hv]
    | ok zip =>
      cases entry .shipaddr_name <;> cases entry .shipaddr_street <;> cases entry .shipaddr_city <;>
        cases entry .shipaddr_state <;> cases entry .shipaddr_country <;>
          simp +decide [ShippingAddress.changeShippingName, ShippingAddress.changeStreet,
            ShippingAddress.changeCity, ShippingAddress.changeState, ShippingAddress.changeCountry,
            ShippingAddress.changeZip, ShippingAddress.mark, partOf, hv]

theorem getUser_eq (username : Text) :
    getUser username = (do
      match ← openUser username with
      | none => .fail .system_error
      | some entry =>
        let orders ← loadOrders (orderLines entry) Platform.indeterminate_uuid {}
        let zip ← .ofExcept (loadedZip entry)
        loadRest entry { User.new username orders with
          shipping_address := addressOf entry zip }) := by
  unfold getUser
  congr 1
  funext r
  cases r with
  | none => rfl
  | some entry =>
    dsimp only
    congr 1
    funext orders
    rw [loadAddress_eq]
    cases loadedZip entry with
    | error e => rfl
    | ok zip =>
      change ((User.new username orders).changeShippingAddress storeUser (addressOf entry zip) >>=
        fun user => _) = loadRest entry _
      unfold User.changeShippingAddress loadRest
      rw [Prog.bind_assoc]
      congr 1

theorem loadPayment_error {entry : Entry UserKey} {e : Exn} (h : loadPayment entry = .error e) :
    e ≠ .runtime_error := by
  unfold loadPayment at h
  split at h
  · cases h
  rcases bind_error h with h | ⟨num, -, h⟩
  · exact stoul_error h
  split at h
  · cases h
  rcases bind_error h with h | ⟨cv2, -, h⟩
  · exact stoui_error h
  · cases h

theorem loadedZip_error {entry : Entry UserKey} {e : Exn} (h : loadedZip entry = .error e) :
    e ≠ .runtime_error := by
  unfold loadedZip at h
  split at h
  · exact stoui_error h
  · cases h

/-- The user when it is stored for the first time, without payment and cart. -/
structure LoadedHead (K : World → Prop) (username : Text) (entry : Entry UserKey) (user : User) :
    Prop where
  name : user.user_name = username
  history : ∃ ts, user.transaction_history = ⟨ts⟩ ∧
    List.Forall₂ (LoadedOrder K) (orderIds (orderLines entry) Platform.indeterminate_uuid) ts
  address : ∃ zip, loadedZip entry = .ok zip ∧ user.shipping_address = addressOf entry zip
  payment : user.payment_info = {}
  cart : user.shopping_cart = {}

/-- What has to be read before the first store. -/
def HeadReadable (K : World → Prop) (entry : Entry UserKey) : Prop :=
  (∀ id ∈ orderIds (orderLines entry) Platform.indeterminate_uuid, OrderReadable K id) ∧
    ∃ zip, loadedZip entry = .ok zip

section Users

variable {username : Text} {entry : Entry UserKey} {user : User} {Q : User → World → Prop}
  {E : Exn → World → Prop}

theorem wp_getUser (hK : Restockable K) (hw : K w)
    (hnone : openEntry w.users username = none → E .system_error w)
    (hhead : ∀ entry w' e, openEntry w.users username = some entry → K w' →
      e ≠ .runtime_error → ¬ HeadReadable K entry → E e w')
    (hrest : ∀ entry w' user, openEntry w.users username = some entry → K w' →
      LoadedHead K username entry user → wp db.exact (loadRest entry user) w' Q E) :
    wp db.exact (getUser username) w Q E := by
  rw [getUser_eq, wp_bind, wp_openUser]
  cases h : openEntry w.users username with
  | none => exact hnone h
  | some entry =>
    refine wp_bind.mpr (wp_mono (wp_loadOrders hK _ _ _ hw) ?_ ?_)
    · intro orders w' ⟨hw', ts, horders, hts⟩
      refine wp_bind.mpr (wp_ofExcept.mpr ⟨?_, ?_⟩)
      · intro zip hzip
        exact hrest entry w' _ h hw' ⟨rfl, ⟨ts, horders, hts⟩, ⟨zip, hzip, rfl⟩, rfl, rfl⟩
      · intro e he
        refine hhead entry w' e h hw' (loadedZip_error he) ?_
        rintro ⟨-, zip, hzip⟩
        rw [hzip] at he
        cases he
    · intro e w' ⟨hw', he, id, hid, hread⟩
      refine hhead entry w' e h hw' he ?_
      rintro ⟨hall, -⟩
      exact hread (hall id hid)

/-- The user with the payment method read, if one was. -/
def withPayment (user : User) (pay : Option PaymentInfo) : User :=
  { user with payment_info := pay.getD user.payment_info }

/-- The one or two stores in the middle of `getUser`. -/
def storeLoaded (w : World) (user : User) (pay : Option PaymentInfo) : World :=
  if pay.isSome then (w.putUser user).putUser (withPayment user pay) else w.putUser user

theorem wp_loadRest (hK : Restockable K)
    (hpay : ∀ e, loadPayment entry = .error e → E e (w.putUser user))
    (hput : ∀ pay, loadPayment entry = .ok pay → K (storeLoaded w user pay))
    (hitems : ∀ e w', K w' → e ≠ .runtime_error →
      (∃ item ∈ cartLines entry, ¬ ItemReadable K item) → E e w')
    (hok : ∀ pay cart w', loadPayment entry = .ok pay → K w' →
      LoadedItems K (cartLines entry) user.shopping_cart cart →
        Q { withPayment user pay with shopping_cart := cart } w') :
    wp db.exact (loadRest entry user) w Q E := by
  have htail : ∀ pay, loadPayment entry = .ok pay →
      wp db.exact (do
        let cart ← loadItems (cartLines entry) (withPayment user pay).shopping_cart
        return { withPayment user pay with shopping_cart := cart }) (storeLoaded w user pay) Q E := by
    intro pay hpay
    refine wp_bind.mpr (wp_mono (wp_loadItems hK _ _ (hput pay hpay)) ?_ ?_)
    · intro cart w' ⟨hw', hcart⟩
      exact hok pay cart w' hpay hw' hcart
    · intro e w' ⟨hw', he, hbad⟩
      exact hitems e w' hw' he hbad
  refine wp_bind.mpr (wp_storeUser.mpr (wp_bind.mpr (wp_ofExcept.mpr ⟨?_, hpay⟩)))
  intro pay hp
  cases pay with
  | none => exact htail none hp
  | some cc =>
    refine wp_bind.mpr (wp_bind.mpr (wp_storeUser.mpr ?_))
    exact htail (some cc) hp

/-- What `getUser` returns. -/
def LoadedUser (K : World → Prop) (username : Text) (entry : Entry UserKey) (u : User) : Prop :=
  ∃ user pay cart, LoadedHead K username entry user ∧ loadPayment entry = .ok pay ∧
    LoadedItems K (cartLines entry) {} cart ∧
      u = { withPayment user pay with shopping_cart := cart }

/-- An invariant that also the stores in the middle keep. -/
theorem wp_getUser_keeps (hK : Restockable K) (hw : K w)
    (hput : ∀ entry w' user pay, openEntry w.users username = some entry → K w' →
      LoadedHead K username entry user → pay = none ∨ loadPayment entry = .ok pay →
        K (w'.putUser (withPayment user pay))) :
    wp db.exact (getUser username) w
      (fun u w' => K w' ∧ ∃ entry, openEntry w.users username = some entry ∧
        LoadedUser K username entry u)
      (fun e w' => K w' ∧ e ≠ .runtime_error) := by
  refine wp_getUser hK hw (fun _ => ⟨hw, by decide⟩) (fun _ _ _ _ hw' he _ => ⟨hw', he⟩) ?_
  intro entry w' user hentry hw' hhead
  have hfirst : K (w'.putUser user) := hput entry w' user none hentry hw' hhead (.inl rfl)
  refine wp_loadRest hK ?_ ?_ ?_ ?_
  · intro e he
    exact ⟨hfirst, loadPayment_error he⟩
  · intro pay hpay
    unfold storeLoaded
    split
    · exact hput entry _ user pay hentry hfirst hhead (.inr hpay)
    · exact hfirst
  · intro e w'' hw'' he _
    exact ⟨hw'', he⟩
  · intro pay cart w'' hpay hw'' hcart
    rw [hhead.cart] at hcart
    exact ⟨hw'', entry, hentry, user, pay, cart, hhead, hpay, hcart, rfl⟩

end Users

end StorageSystem

end OnlineShoppingCenter
