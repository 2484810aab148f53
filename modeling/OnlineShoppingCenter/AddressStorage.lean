import OnlineShoppingCenter.CardStorage

/-!
# An address that is stored and read back

The guards of the six address keys are the same for every part: all six are
written as soon as one part is set. So an address in parts is read back as a
complete one.
-/
namespace OnlineShoppingCenter

open TextCodec ColumnFamilies EffectProgram StorageSystem

variable [Platform]

inductive AddressChange where
  | shippingName (new_shipping_name : Text)
  | street (new_street : Text)
  | city (new_city : Text)
  | state (new_state : Text)
  | zip (new_zip : UInt32)
  | country (new_country : Text)

namespace ShippingAddress

def change (a : ShippingAddress) : AddressChange → ShippingAddress
  | .shippingName new_shipping_name => a.changeShippingName new_shipping_name
  | .street new_street => a.changeStreet new_street
  | .city new_city => a.changeCity new_city
  | .state new_state => a.changeState new_state
  | .zip new_zip => a.changeZip new_zip
  | .country new_country => a.changeCountry new_country

/-- A new address after some changes. -/
def built (changes : List AddressChange) : ShippingAddress := changes.foldl change {}

theorem mark_flag {a : ShippingAddress} {part : UInt32} (hpart : S_ALL_SET ||| part = S_ALL_SET)
    (h : a.is_set = true ↔ a.parts_set = S_ALL_SET) :
    (a.mark part).is_set = true ↔ (a.mark part).parts_set = S_ALL_SET := by
  by_cases hall : a.parts_set ||| part = S_ALL_SET
  · simp [mark, hall]
  · have hnot : a.parts_set ≠ S_ALL_SET := by
      intro heq
      rw [heq] at hall
      exact hall hpart
    simpa [mark, hall] using mt h.mp hnot

/-- The flag is up when all six parts are set. -/
theorem built_flag (changes : List AddressChange) :
    (built changes).is_set = true ↔ (built changes).parts_set = S_ALL_SET := by
  induction changes using List.reverseRecOn with
  | nil => exact iff_of_false nofun (show ¬ (0 : UInt32) = S_ALL_SET by decide)
  | append_singleton changes change ih =>
    rw [built, List.foldl_append]
    cases change with
    | shippingName | street | city | state | zip | country => exact mark_flag (by decide) ih

/-- The same parts are set, each with its value. -/
structure ReadsAs (a a' : ShippingAddress) : Prop where
  parts_set : a'.parts_set = a.parts_set
  is_set : a'.is_set = a.is_set
  shipping_name : a.parts_set &&& S_NAME_SET ≠ 0 → a'.shipping_name = a.shipping_name
  street : a.parts_set &&& S_STREET_SET ≠ 0 → a'.street = a.street
  city : a.parts_set &&& S_CITY_SET ≠ 0 → a'.city = a.city
  state : a.parts_set &&& S_STATE_SET ≠ 0 → a'.state = a.state
  zip : a.parts_set &&& S_ZIP_SET ≠ 0 → a'.zip = a.zip
  country : a.parts_set &&& S_COUNTRY_SET ≠ 0 → a'.country = a.country

end ShippingAddress

/-- A record without any address key. -/
structure NoAddress (e : Entry UserKey) : Prop where
  shipaddr_name : e .shipaddr_name = none
  shipaddr_street : e .shipaddr_street = none
  shipaddr_city : e .shipaddr_city = none
  shipaddr_state : e .shipaddr_state = none
  shipaddr_zip : e .shipaddr_zip = none
  shipaddr_country : e .shipaddr_country = none

/-- Storing a user and loading it again gives the address back. -/
def AddressReadsBack (w : World) (user : User) : Prop :=
  ∃ u w', run db (do
      storeUser user
      getUser user.user_name) w = (.ok u, w') ∧
    user.shipping_address.ReadsAs u.shipping_address

/-- What else a login reads: the expiry of the card that the user has, or the card
on file if it has none, and the orders, the zip and the cart. -/
structure RestLoads (w : World) (user : User) : Prop where
  entered : user.payment_info.is_set = true → ∃ cv2, stoui user.payment_info.cc_exp = .ok cv2
  on_file : user.payment_info.is_set = false → ∀ e, w.users[user.user_name]? = some e →
    ∃ pay, loadPayment e = .ok pay
  others : Reloads w user

section Address

variable {w : World} {user : User}

/-- A login returns exactly when the record can be read, with the address its
keys give. -/
theorem wp_getUser_address {username : Text} {entry : Entry UserKey}
    (hentry : openEntry w.users username = some entry) :
    wp db.exact (getUser username) w
      (fun u _ => Loads w entry ∧ ∃ zip, loadedZip entry = .ok zip ∧
        u.shipping_address = addressOf entry zip)
      (fun _ _ => ¬ Loads w entry) := by
  have hkeeps : wp db.exact (getUser username) w
      (fun u _ => True ∧ ∃ entry, openEntry w.users username = some entry ∧
        LoadedUser (fun _ => True) username entry u)
      (fun e _ => True ∧ e ≠ .runtime_error) :=
    wp_getUser_keeps (fun _ _ _ _ _ => trivial) trivial fun _ _ _ _ _ _ _ _ => trivial
  apply wp_mono (wp_and rfl (wp_getUser_card hentry) hkeeps)
  · rintro u w' ⟨⟨hloads, -⟩, -, entry', hentry', user, pay, cart, hhead, -, -, rfl⟩
    rw [hentry] at hentry'
    cases hentry'
    exact ⟨hloads, hhead.address⟩
  · exact fun _ _ h => h.1

/-- Without a card the payment keys stay as they were. -/
theorem loadPayment_storedEntry_unset (hset : user.payment_info.is_set = false) :
    loadPayment (storedEntry w user) = loadPayment ((w.users[user.user_name]?).getD Entry.empty) := by
  unfold loadPayment storedEntry
  rw [overlay_userBatch]
  simp only [hset, Bool.false_eq_true, if_false]

theorem loads_storedEntry_iff : Loads (w.putUser user) (storedEntry w user) ↔ RestLoads w user := by
  cases hset : user.payment_info.is_set with
  | true =>
    rw [loads_storedCard hset]
    constructor
    · rintro ⟨hcard, hrest⟩
      exact ⟨fun _ => hcard, fun hnot => absurd (hset.symm.trans hnot) nofun, hrest⟩
    · exact fun h => ⟨h.entered hset, h.others⟩
  | false =>
    rw [loads_storedEntry, loadPayment_storedEntry_unset hset]
    constructor
    · rintro ⟨hcard, hrest⟩
      refine ⟨fun hnot => absurd (hset.symm.trans hnot) nofun, ?_, hrest⟩
      intro _ e he
      rwa [he] at hcard
    · intro h
      refine ⟨?_, h.others⟩
      cases he : w.users[user.user_name]? with
      | none => exact ⟨none, rfl⟩
      | some e => exact h.on_file hset e he

theorem storedEntry_noAddress (hparts : user.shipping_address.parts_set = 0)
    (hnone : ∀ e, w.users[user.user_name]? = some e → NoAddress e) :
    NoAddress (storedEntry w user) := by
  have hold : NoAddress ((w.users[user.user_name]?).getD Entry.empty) := by
    cases he : w.users[user.user_name]? with
    | none => exact ⟨rfl, rfl, rfl, rfl, rfl, rfl⟩
    | some e => exact hnone e he
  obtain ⟨h1, h2, h3, h4, h5, h6⟩ := hold
  rw [storedEntry, overlay_userBatch]
  simp only [hparts, if_true]
  exact ⟨h1, h2, h3, h4, h5, h6⟩

theorem addressOf_noAddress {entry : Entry UserKey} (h : NoAddress entry) (zip : UInt32) :
    (addressOf entry zip).parts_set = 0 ∧ (addressOf entry zip).is_set = false := by
  obtain ⟨h1, h2, h3, h4, h5, h6⟩ := h
  simp only [addressOf, presentParts, h1, h2, h3, h4, h5, h6, partOf]
  decide

/-- One part set, and all six are read. -/
theorem addressOf_storedEntry (hparts : user.shipping_address.parts_set ≠ 0) (zip : UInt32) :
    addressOf (storedEntry w user) zip =
      ⟨user.shipping_address.shipping_name, user.shipping_address.street,
        user.shipping_address.city, user.shipping_address.state, zip,
        user.shipping_address.country, true, S_ALL_SET⟩ := by
  have hall : S_NAME_SET ||| S_STREET_SET ||| S_CITY_SET ||| S_STATE_SET ||| S_ZIP_SET |||
      S_COUNTRY_SET = S_ALL_SET := by decide
  simp only [storedEntry, overlay_userBatch, addressOf, presentParts, hparts, if_false, partOf,
    Option.isSome_some, if_true, Option.getD_some, hall, decide_true]

theorem loadedZip_storedEntry (hparts : user.shipping_address.parts_set ≠ 0) :
    loadedZip (storedEntry w user) = .ok user.shipping_address.zip := by
  simp only [loadedZip, storedEntry, overlay_userBatch, hparts, if_false, stoui_to_string_uint]

/-- What the record of a user just stored says about the address. -/
theorem readsAs_addressOf {changes : List AddressChange} {zip : UInt32}
    (hbuilt : user.shipping_address = .built changes)
    (hnone : ∀ e, w.users[user.user_name]? = some e → NoAddress e)
    (hzip : loadedZip (storedEntry w user) = .ok zip) :
    user.shipping_address.ReadsAs (addressOf (storedEntry w user) zip) ↔
      user.shipping_address.parts_set = 0 ∨ user.shipping_address.parts_set = S_ALL_SET := by
  have hflag := ShippingAddress.built_flag changes
  rw [← hbuilt] at hflag
  by_cases hparts : user.shipping_address.parts_set = 0
  · obtain ⟨hread, hset⟩ := addressOf_noAddress (storedEntry_noAddress hparts hnone) zip
    have hunset : user.shipping_address.is_set = false := by
      rw [← Bool.not_eq_true, hflag, hparts]
      decide
    refine iff_of_true ⟨hread.trans hparts.symm, hset.trans hunset.symm, ?_, ?_, ?_, ?_, ?_, ?_⟩
      (.inl hparts)
    all_goals
      intro hbit
      rw [hparts] at hbit
      exact absurd (by decide) hbit
  · rw [loadedZip_storedEntry hparts] at hzip
    obtain rfl := Except.ok.inj hzip
    rw [addressOf_storedEntry hparts]
    constructor
    · intro h
      exact .inr h.parts_set.symm
    · intro h
      have hall := h.resolve_left hparts
      exact ⟨hall.symm, (hflag.mpr hall).symm, fun _ => rfl, fun _ => rfl, fun _ => rfl,
        fun _ => rfl, fun _ => rfl, fun _ => rfl⟩

/-- An address put together by any changes is read back with its parts exactly
when none of them is set or all are, and the rest of the record can be read. -/
theorem address_reads_back_iff {changes : List AddressChange}
    (hbuilt : user.shipping_address = .built changes)
    (hnone : ∀ e, w.users[user.user_name]? = some e → NoAddress e) :
    AddressReadsBack w user ↔
      (user.shipping_address.parts_set = 0 ∨ user.shipping_address.parts_set = S_ALL_SET) ∧
        RestLoads w user := by
  have hget := wp_getUser_address (openEntry_putUser_self w user)
  rw [wp_exact, loads_storedEntry_iff] at hget
  unfold AddressReadsBack
  rw [run_bind_ok (run_storeUser w user)]
  constructor
  · rintro ⟨u, w', hrun, hreads⟩
    rw [hrun] at hget
    obtain ⟨hrest, zip, hzip, haddr⟩ := hget
    rw [haddr] at hreads
    exact ⟨(readsAs_addressOf hbuilt hnone hzip).mp hreads, hrest⟩
  · rintro ⟨hparts, hrest⟩
    cases hr : run db (getUser user.user_name) (w.putUser user) with
    | mk r w' =>
      rw [hr] at hget
      cases r with
      | error e => exact absurd hrest hget
      | ok u =>
        obtain ⟨-, zip, hzip, haddr⟩ := hget
        refine ⟨u, w', rfl, ?_⟩
        rw [haddr]
        exact (readsAs_addressOf hbuilt hnone hzip).mpr hparts

end Address

end OnlineShoppingCenter

namespace OnlineShoppingCenter

open TextCodec EffectProgram StorageSystem

attribute [local instance] posix

/-- A customer without an address in the record, who has entered some parts. -/
def addressUser (changes : List AddressChange) : User where
  user_name := "testuser003".toList
  shipping_address := .built changes

theorem sample_noAddress : ∀ e, sampleWorld.users["testuser003".toList]? = some e → NoAddress e := by
  have hnone : (sampleWorld.users["testuser003".toList]?.all fun e =>
      e .shipaddr_name == none && e .shipaddr_street == none && e .shipaddr_city == none &&
        e .shipaddr_state == none && e .shipaddr_zip == none && e .shipaddr_country == none) =
          true := by
    decide +kernel
  intro e he
  rw [he] at hnone
  simp only [Option.all_some, Bool.and_eq_true, beq_iff_eq] at hnone
  obtain ⟨⟨⟨⟨⟨h1, h2⟩, h3⟩, h4⟩, h5⟩, h6⟩ := hnone
  exact ⟨h1, h2, h3, h4, h5, h6⟩

def wholeAddress : List AddressChange :=
  [.city "Starkville".toList, .zip 39759, .shippingName "Jane Roe\nRoom 2".toList,
    .street "1 Main St".toList, .state "MS".toList, .country "USA".toList]

theorem whole_address_reads_back :
    AddressReadsBack sampleWorld (addressUser wholeAddress) ↔
      ((addressUser wholeAddress).shipping_address.parts_set = 0 ∨
          (addressUser wholeAddress).shipping_address.parts_set = S_ALL_SET) ∧
        RestLoads sampleWorld (addressUser wholeAddress) :=
  address_reads_back_iff rfl sample_noAddress

/-- A city alone comes back as an address with all six parts. -/
theorem city_reads_back_whole :
    ¬ AddressReadsBack sampleWorld (addressUser [.city "Starkville".toList]) ∧
      ((run db (do
          storeUser (addressUser [.city "Starkville".toList])
          getUser "testuser003".toList) sampleWorld).1.toOption.any fun u =>
        u.shipping_address.is_set && u.shipping_address.parts_set == S_ALL_SET) = true := by
  have hread : ((run db (do
      storeUser (addressUser [.city "Starkville".toList])
      getUser "testuser003".toList) sampleWorld).1.toOption.any fun u =>
        u.shipping_address.is_set && u.shipping_address.parts_set == S_ALL_SET) = true := by
    decide +kernel
  refine ⟨?_, hread⟩
  rintro ⟨u, w', hrun, hreads⟩
  obtain ⟨u', hu', hset⟩ := ok_of_any hread
  have hu : u' = u := by
    have h := hu'.symm.trans (congrArg Prod.fst hrun)
    exact Except.ok.inj h
  rw [hu, hreads.is_set] at hset
  cases hset

end OnlineShoppingCenter
