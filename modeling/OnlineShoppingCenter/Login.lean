import OnlineShoppingCenter.Accounts
import OnlineShoppingCenter.Readability
import OnlineShoppingCenter.SampleData

/-!
# What a login does to the accounts

`getUser` stores the user while it is still building it: with the address parts
it has, with an empty cart, and with a cv2 decoded from the expiry. So a login
keeps the meaning of a record exactly when it never gets to that store or when
the record already says what is stored.
-/
namespace OnlineShoppingCenter

open TextCodec ColumnFamilies EffectProgram StorageSystem

variable [Platform]

/-- The cv2 is what the expiry text starts with, once a card has been read. -/
def cv2AfterLogin (entry : Entry UserKey) : Option (Except Exn UInt32) :=
  match loadPayment entry with
  | .ok (some cc) => some (.ok cc.cc_cv2)
  | _ => (entry .cc_cv2).map stoui

theorem cv2AfterLogin_none {entry : Entry UserKey}
    (h : ∀ cc, loadPayment entry ≠ .ok (some cc)) :
    cv2AfterLogin entry = (entry .cc_cv2).map stoui := by
  unfold cv2AfterLogin
  split
  · rename_i cc hcc
    exact absurd hcc (h cc)
  · rfl

/-- The record of a user after the stores of a login. -/
def afterLogin (entry : Entry UserKey) : Account :=
  let kept (v : Option Text) : Option Text := if presentParts entry = 0 then v else some (v.getD [])
  { shipaddr_name := kept (entry .shipaddr_name)
    shipaddr_street := kept (entry .shipaddr_street)
    shipaddr_city := kept (entry .shipaddr_city)
    shipaddr_state := kept (entry .shipaddr_state)
    shipaddr_zip := if presentParts entry = 0 then (entry .shipaddr_zip).map stoui
      else some (loadedZip entry)
    shipaddr_country := kept (entry .shipaddr_country)
    cc_num := (entry .cc_num).map stoul
    cc_exp := entry .cc_exp
    cc_cv2 := cv2AfterLogin entry
    orders := (orderIds (orderLines entry) Platform.indeterminate_uuid).map some
    cart := fun _ => none }

/-- The ids of the orders loaded are the ids read from the list. -/
theorem finalizedIds_loaded {K : World → Prop} {ids : List Uuid} {ts : List Transaction}
    (h : List.Forall₂ (LoadedOrder K) ids ts) : finalizedIds ⟨ts⟩ = ids := by
  induction h with
  | nil => rfl
  | @cons id t ids ts ht _ ih =>
    obtain ⟨w, entry, cart, -, -, -, hdecode⟩ := ht
    obtain ⟨hid, -, hfinal⟩ := decodeOrder_ok hdecode
    have htail : (ts.filter (·.is_finalized)).map (·.transaction_id) = ids := ih
    simp [finalizedIds, hfinal, hid, htail]

theorem loadPayment_some {entry : Entry UserKey} {cc : PaymentInfo}
    (h : loadPayment entry = .ok (some cc)) : cc.is_set = true ∧
      (entry .cc_num).map stoul = some (.ok cc.cc_num) ∧ entry .cc_exp = some cc.cc_exp := by
  unfold loadPayment at h
  split at h
  · cases h
  rename_i num hnum
  obtain ⟨cc_num, hcc_num, h⟩ := bind_ok h
  split at h
  · cases h
  rename_i cc_exp hexp
  obtain ⟨cc_cv2, -, h⟩ := bind_ok h
  cases h
  exact ⟨rfl, by rw [hnum, Option.map_some, hcc_num]; rfl, hexp⟩

section Stores

variable {K : World → Prop} {w : World} {username : Text} {entry : Entry UserKey} {user : User}

/-- The first store of a login. -/
theorem accountOf_first (h : LoadedHead K username entry user) :
    accountOf ((userBatch user).overlay entry) =
      { afterLogin entry with cc_cv2 := (entry .cc_cv2).map stoui } := by
  obtain ⟨ts, hhistory, hts⟩ := h.history
  obtain ⟨zip, hzip, haddr⟩ := h.address
  rw [accountOf_overlay, hhistory, haddr, h.payment, h.cart, finalizedIds_loaded hts]
  by_cases hparts : presentParts entry = 0 <;> simp [afterLogin, addressOf, hzip, hparts]

/-- The second store writes the card again. -/
theorem accountOf_second (h : LoadedHead K username entry user) {cc : PaymentInfo}
    (hcc : loadPayment entry = .ok (some cc)) :
    accountOf ((userBatch (withPayment user (some cc))).overlay ((userBatch user).overlay entry)) =
      afterLogin entry := by
  obtain ⟨ts, hhistory, hts⟩ := h.history
  obtain ⟨zip, hzip, haddr⟩ := h.address
  obtain ⟨hset, hnum, hexp⟩ := loadPayment_some hcc
  rw [accountOf_overlay, overlay_userBatch user]
  simp only [withPayment, Option.getD_some, hhistory, haddr, h.cart, finalizedIds_loaded hts, hset,
    if_true]
  by_cases hparts : presentParts entry = 0 <;>
    simp [afterLogin, cv2AfterLogin, addressOf, hzip, hcc, hnum, hexp, hparts]

/-- The records after some stores of a login. -/
def AccountsAre (w : World) (username : Text) (account : Account) (w' : World) : Prop :=
  ∀ name, (w'.users[name]?).map accountOf =
    if name = username then some account else (w.users[name]?).map accountOf

theorem restockable_accountsAre (w : World) (username : Text) (account : Account) :
    Restockable (AccountsAre w username account) := fun _ _ _ h _ => h

theorem accountsAre_first (hentry : openEntry w.users username = some entry) {w' : World}
    (hw' : w'.users = w.users) (h : LoadedHead K username entry user) :
    AccountsAre w username { afterLogin entry with cc_cv2 := (entry .cc_cv2).map stoui }
      (w'.putUser user) := by
  obtain ⟨hd, hget⟩ := openEntry_eq_some.mp hentry
  rw [← hw'] at hd hget
  intro name
  rw [getElem?_putUser user name hd, h.name]
  split
  · rw [hget, Option.getD_some, Option.map_some, accountOf_first h]
  · rw [hw']

theorem accountsAre_second (hentry : openEntry w.users username = some entry) {w' : World}
    (hw' : w'.users = w.users) (h : LoadedHead K username entry user) {cc : PaymentInfo}
    (hcc : loadPayment entry = .ok (some cc)) :
    AccountsAre w username (afterLogin entry)
      ((w'.putUser user).putUser (withPayment user (some cc))) := by
  obtain ⟨hd, hget⟩ := openEntry_eq_some.mp hentry
  rw [← hw'] at hd hget
  intro name
  rw [getElem?_putUser _ name (kDefault_mem_putUser user), getElem?_putUser user name hd]
  change Option.map accountOf (if name = user.user_name then _ else _) = _
  rw [getElem?_putUser user _ hd, h.name]
  split
  · rw [if_pos (show (withPayment user (some cc)).user_name = username from h.name), hget,
      Option.getD_some, Option.getD_some, Option.map_some, accountOf_second h hcc]
  · rw [hw']

/-- Either nothing is stored, because something before the first store could not
be read, or the record says `afterLogin`. -/
def LoginLeaves (w : World) (username : Text) (w' : World) : Prop :=
  w'.users = w.users ∧
      (∀ entry, openEntry w.users username = some entry → ¬ HeadReadable (· = w) entry) ∨
    ∃ entry, openEntry w.users username = some entry ∧ HeadReadable (· = w) entry ∧
      AccountsAre w username (afterLogin entry) w'

/-- Once the head has been read, the stores happen however the login ends. -/
theorem loadRest_leaves (hentry : openEntry w.users username = some entry) {w' : World}
    (hw' : SameReadable w w') (h : LoadedHead (SameReadable w) username entry user) :
    wp db.exact (loadRest entry user) w' (fun _ => LoginLeaves w username)
      (fun _ => LoginLeaves w username) := by
  have hdone : ∀ w'', AccountsAre w username (afterLogin entry) w'' → LoginLeaves w username w'' :=
    fun w'' h'' => .inr ⟨entry, hentry, h.readable, h''⟩
  have hfirst := accountsAre_first hentry hw'.users h
  have hskip : (∀ cc, loadPayment entry ≠ .ok (some cc)) →
      AccountsAre w username (afterLogin entry) (w'.putUser user) := by
    intro hpay
    rwa [← cv2AfterLogin_none hpay] at hfirst
  refine wp_loadRest (restockable_accountsAre w username (afterLogin entry)) ?_ ?_ ?_ ?_
  · intro e he
    exact hdone _ (hskip fun cc hcc => by rw [he] at hcc; cases hcc)
  · intro pay hpay
    cases pay with
    | none => exact hskip fun cc hcc => by rw [hpay] at hcc; cases hcc
    | some cc => exact accountsAre_second hentry hw'.users h hpay
  · intro e w'' hw'' _ _
    exact hdone w'' hw''
  · intro pay cart w'' _ hw'' _
    exact hdone w'' hw''

theorem getUser_leaves (w : World) (username : Text) :
    LoginLeaves w username (run db (getUser username) w).2 := by
  apply run_of_wp
  refine wp_getUser (restockable_sameReadable w) (sameReadable_refl w) ?_ ?_ ?_
  · intro hnone
    exact .inl ⟨rfl, fun entry hentry => by rw [hnone] at hentry; cases hentry⟩
  · intro entry w' e hentry hw' _ hread
    refine .inl ⟨hw'.users, fun entry' hentry' hread' => ?_⟩
    rw [hentry] at hentry'
    cases hentry'
    exact hread (HeadReadable.same hread')
  · intro entry w' user hentry hw' hhead
    exact loadRest_leaves hentry hw' hhead

end Stores

/-- All parts of the address or none, an order list of ids only, no items, and
a cv2 that is the number its expiry starts with. -/
structure KeptByLogin (entry : Entry UserKey) : Prop where
  address : presentParts entry = 0 ∨ presentParts entry = S_ALL_SET
  orders : ∀ line ∈ orderLines entry, (uuid_parse line).isSome
  cart : ∀ UPC, quantities (split (get entry .items_in_cart []) '\n') UPC = none
  payment : ∀ cc, loadPayment entry = .ok (some cc) →
    (entry .cc_cv2).map stoui = some (.ok cc.cc_cv2)

theorem orderIds_eq_iff (lines : List Text) (tid : Uuid) :
    (orderIds lines tid).map some = lines.map uuid_parse ↔
      ∀ line ∈ lines, (uuid_parse line).isSome := by
  induction lines generalizing tid with
  | nil => simp [orderIds]
  | cons line lines ih =>
    rw [orderIds, List.map_cons, List.map_cons, List.cons.injEq, ih, List.forall_mem_cons]
    cases uuid_parse line <;> simp

omit [Platform] in
theorem presentParts_eq_all (entry : Entry UserKey) :
    presentParts entry = S_ALL_SET ↔
      (entry .shipaddr_name).isSome ∧ (entry .shipaddr_street).isSome ∧
        (entry .shipaddr_city).isSome ∧ (entry .shipaddr_state).isSome ∧
          (entry .shipaddr_zip).isSome ∧ (entry .shipaddr_country).isSome := by
  have h : ∀ a b c d e f : Bool, (((((if a then S_NAME_SET else 0) |||
      (if b then S_STREET_SET else 0)) ||| (if c then S_CITY_SET else 0)) |||
        (if d then S_STATE_SET else 0)) ||| (if e then S_ZIP_SET else 0)) |||
          (if f then S_COUNTRY_SET else 0) = S_ALL_SET ↔
            a = true ∧ b = true ∧ c = true ∧ d = true ∧ e = true ∧ f = true := by decide
  exact h _ _ _ _ _ _

theorem loadedZip_kept (entry : Entry UserKey) :
    some (loadedZip entry) = (entry .shipaddr_zip).map stoui ↔ (entry .shipaddr_zip).isSome := by
  unfold loadedZip
  cases entry .shipaddr_zip <;> simp

theorem cv2AfterLogin_eq_iff (entry : Entry UserKey) :
    cv2AfterLogin entry = (entry .cc_cv2).map stoui ↔
      ∀ cc, loadPayment entry = .ok (some cc) →
        (entry .cc_cv2).map stoui = some (.ok cc.cc_cv2) := by
  by_cases h : ∃ cc, loadPayment entry = .ok (some cc)
  · obtain ⟨cc, hcc⟩ := h
    simp [cv2AfterLogin, hcc, eq_comm]
  · have hnone : ∀ cc, loadPayment entry ≠ .ok (some cc) := fun cc hcc => h ⟨cc, hcc⟩
    simp [cv2AfterLogin_none hnone, hnone]

theorem afterLogin_eq_iff (entry : Entry UserKey) :
    afterLogin entry = accountOf entry ↔ KeptByLogin entry := by
  have hpart : ∀ v : Option Text, some (v.getD []) = v ↔ v.isSome := by
    intro v
    cases v <;> simp
  have haddress : presentParts entry ≠ 0 → ((some ((entry .shipaddr_name).getD []) =
        entry .shipaddr_name ∧ some ((entry .shipaddr_street).getD []) = entry .shipaddr_street ∧
      some ((entry .shipaddr_city).getD []) = entry .shipaddr_city ∧
      some ((entry .shipaddr_state).getD []) = entry .shipaddr_state ∧
      some (loadedZip entry) = (entry .shipaddr_zip).map stoui ∧
      some ((entry .shipaddr_country).getD []) = entry .shipaddr_country) ↔
        presentParts entry = S_ALL_SET) := by
    intro _
    simp only [hpart, loadedZip_kept, presentParts_eq_all]
  have hcart : (fun _ => none) = quantities (split (get entry .items_in_cart []) '\n') ↔
      ∀ UPC, quantities (split (get entry .items_in_cart []) '\n') UPC = none := by
    rw [funext_iff]
    exact forall_congr' fun UPC => eq_comm
  have horders := orderIds_eq_iff (orderLines entry) Platform.indeterminate_uuid
  have hcv2 := cv2AfterLogin_eq_iff entry
  constructor
  · intro h
    simp only [afterLogin, accountOf, Account.mk.injEq] at h
    obtain ⟨h1, h2, h3, h4, h5, h6, -, -, h9, h10, h11⟩ := h
    refine ⟨?_, horders.mp h10, hcart.mp h11, hcv2.mp h9⟩
    by_cases hparts : presentParts entry = 0
    · exact .inl hparts
    · simp only [if_neg hparts] at h1 h2 h3 h4 h5 h6
      exact .inr ((haddress hparts).mp ⟨h1, h2, h3, h4, h5, h6⟩)
  · intro h
    simp only [afterLogin, accountOf, Account.mk.injEq, true_and]
    rcases h.address with hparts | hparts
    · simp only [if_pos hparts, true_and]
      exact ⟨hcv2.mpr h.payment, horders.mpr h.orders, hcart.mpr h.cart⟩
    · have hne : presentParts entry ≠ 0 := by
        rw [hparts]
        decide
      obtain ⟨h1, h2, h3, h4, h5, h6⟩ := (haddress hne).mpr hparts
      simp only [if_neg hne]
      exact ⟨h1, h2, h3, h4, h5, h6, hcv2.mpr h.payment, horders.mpr h.orders, hcart.mpr h.cart⟩

/-- A login leaves every record with its meaning when it does not get as far as
the first store, or when the record already says what is stored. -/
theorem login_keeps_accounts_iff (w : World) (username : Text) :
    (∀ name : Text, ((run db (getUser username) w).2.users[name]?).map accountOf =
        (w.users[name]?).map accountOf) ↔
      ∀ entry, openEntry w.users username = some entry → HeadReadable (· = w) entry →
        KeptByLogin entry := by
  rcases getUser_leaves w username with ⟨husers, hnot⟩ | ⟨entry, hentry, hread, haccounts⟩
  · rw [husers]
    exact iff_of_true (fun _ => rfl) fun entry hentry hread => absurd hread (hnot entry hentry)
  · have hget := (openEntry_eq_some.mp hentry).2
    have hself : (∀ name : Text, ((run db (getUser username) w).2.users[name]?).map accountOf =
        (w.users[name]?).map accountOf) ↔ afterLogin entry = accountOf entry := by
      rw [forall_congr' fun name => by rw [haccounts name]]
      constructor
      · intro h
        simpa [hget] using h username
      · intro h name
        split
        · rename_i hname
          rw [hname, hget, h]
          rfl
        · rfl
    rw [hself, afterLogin_eq_iff]
    constructor
    · intro h entry' hentry' _
      rw [hentry] at hentry'
      cases hentry'
      exact h
    · intro h
      exact h entry hentry hread

end OnlineShoppingCenter

namespace OnlineShoppingCenter

open TextCodec StorageSystem EffectProgram

attribute [local instance] posix

/-- A login of the first sample user replaces the cv2 040 by the 06 of 06/20. -/
theorem login_alters_cv2 :
    ((sampleWorld.users["testuser001".toList]?).map accountOf).map (·.cc_cv2) =
        some (some (.ok 40)) ∧
      (((run db (getUser "testuser001".toList) sampleWorld).2.users["testuser001".toList]?).map
        accountOf).map (·.cc_cv2) = some (some (.ok 6)) ∧
      ¬ ∀ name : Text, ((run db (getUser "testuser001".toList) sampleWorld).2.users[name]?).map
        accountOf = (sampleWorld.users[name]?).map accountOf := by
  have hbefore : ((sampleWorld.users["testuser001".toList]?).map accountOf).map (·.cc_cv2) =
      some (some (.ok 40)) := by decide +kernel
  have hafter : (((run db (getUser "testuser001".toList) sampleWorld).2.users[
      "testuser001".toList]?).map accountOf).map (·.cc_cv2) = some (some (.ok 6)) := by
    decide +kernel
  refine ⟨hbefore, hafter, ?_⟩
  intro h
  rw [h, hbefore] at hafter
  revert hafter
  decide

end OnlineShoppingCenter
