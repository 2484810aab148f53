import OnlineShoppingCenter.AddressStorage
import OnlineShoppingCenter.CounterRefinement

/-!
# Logging in again

Once a session has changed its user, the record under the user's name says what
the user is, whatever is typed afterwards. A login then finds the cart, the
orders, a complete address and the card again, and the stock as it was left.
-/
namespace OnlineShoppingCenter

open TextCodec ColumnFamilies EffectProgram StorageSystem

variable [Platform]

/-- What comes back of a user. The cv2 is read from the key of the expiry. -/
structure User.Resumes (u u' : User) : Prop where
  user_name : u'.user_name = u.user_name
  cart : u'.shopping_cart.quantity = u.shopping_cart.quantity
  orders : finalizedIds u'.transaction_history = finalizedIds u.transaction_history
  address : u.shipping_address.is_set = true → u'.shipping_address = u.shipping_address
  payment : u.payment_info.is_set = true → u'.payment_info.is_set = true ∧
    u'.payment_info.cc_num = u.payment_info.cc_num ∧ u'.payment_info.cc_exp = u.payment_info.cc_exp

section Record

variable {K : World → Prop} {w : World} {u u' : User}

/-- A record that agrees with a store is the record after it. -/
theorem Stored.entry (h : Stored w u) : w.users[u.user_name]? = some (storedEntry w u) := by
  obtain ⟨e, he, hkeys⟩ := h
  have hsame : (userBatch u).overlay e = e := by
    funext key
    by_cases hkey : key ∈ (userBatch u).map Prod.fst
    · obtain ⟨⟨_, text⟩, hput, rfl⟩ := List.mem_map.mp hkey
      rw [Batch.overlay_of_mem (nodup_userBatch u) hput, hkeys _ _ hput]
    · exact Batch.overlay_of_not_mem hkey e
  rw [storedEntry, he, Option.getD_some, hsame]

theorem Stored.resumes (h : Stored w u) (hu : u.Sound) {entry : Entry UserKey}
    (hentry : openEntry w.users u.user_name = some entry)
    (hload : LoadedUser K u.user_name entry u') : u.Resumes u' := by
  obtain ⟨-, hget⟩ := openEntry_eq_some.mp hentry
  rw [h.entry] at hget
  obtain rfl := Option.some.inj hget
  obtain ⟨user, pay, cart, hhead, hpay, hitems, rfl⟩ := hload
  constructor
  · exact hhead.name
  · change cart.quantity = u.shopping_cart.quantity
    rw [hitems.quantity, storedEntry, cartLines_overlay, ShoppingCart.quantity_empty]
    exact quantities_cartText u.shopping_cart
  · obtain ⟨ts, hts, horders⟩ := hhead.history
    change finalizedIds user.transaction_history = _
    rw [hts, finalizedIds_loaded horders, storedEntry, orderLines_overlay, orderIds_unparse]
  · intro hset
    have hparts : u.shipping_address.parts_set = S_ALL_SET := hu.address hset
    have hne : u.shipping_address.parts_set ≠ 0 := by
      rw [hparts]
      decide
    obtain ⟨zip, hzip, haddress⟩ := hhead.address
    rw [loadedZip_storedEntry hne] at hzip
    cases hzip
    change user.shipping_address = u.shipping_address
    rw [haddress, addressOf_storedEntry hne, ← hparts, ← hset]
  · intro hset
    rw [loadPayment_storedEntry hset] at hpay
    cases hcv2 : stoui u.payment_info.cc_exp with
    | error e =>
      rw [hcv2] at hpay
      cases hpay
    | ok cv2 =>
      rw [hcv2] at hpay
      cases hpay
      exact ⟨rfl, rfl, rfl⟩

end Record

/-- A session keeps the name it was opened under. -/
def namedSpec (username : Text) : SequentialSpec where
  holds _ u _ := u.user_name = username
  charging _ u t _ := u.user_name = username ∧ t.is_finalized = true
  rest _ := True
  failed _ _ := True
  okQty _ := True
  rest_of_holds _ := trivial
  failed_of_holds _ _ := trivial
  rest_of_refused _ := trivial
  forget h := h
  ask h := h
  showOrder h := h
  getProducts h := h
  noProduct h := h
  getProduct h _ := h
  storeCart h _ _ _ := h
  setItem h _ _ _ := h
  buyCart h _ _ := h
  setAddress h := h
  setPayment h := h
  storeAddress h _ _ := h
  storePayment h _ _ := h
  startCharge h _ := ⟨h, rfl⟩
  chargeItem h _ _ := h
  finalized h := h.2
  finishCharge h := h.1

section Runs

variable {p p' : Proc} {line username : Text} {w w' : World}

theorem step_named (hp : p.Sound) (h : p.logged_in.user_name = username)
    (hrun : run sys (p.step line) w = (.ok p', w')) : p'.logged_in.user_name = username := by
  obtain ⟨l', hlogged⟩ := run_logged_eq hrun []
  have hinv : (namedSpec username).toSessionSpec.Inv (w, []) p := by
    refine ⟨hp, ?_⟩
    cases p.loc.task with
    | none => trivial
    | some task => exact h
  have hkeeps : (namedSpec username).toSessionSpec.Keeps (p.step line) (w, []) :=
    SessionSpec.keeps_step _ hinv (SessionSpec.okLine_of_all _ (fun _ => trivial) _ _ _)
  unfold SessionSpec.Keeps at hkeeps
  rw [wp_exact, hlogged] at hkeeps
  by_cases hloc : p'.loc = .exited
  · obtain ⟨hsame, -⟩ := run_step_exited hlogged hloc
    rw [hsame]
    exact h
  · obtain ⟨task, htask⟩ := hkeeps.holds hloc
    exact htask

theorem play_named {lines : List Text} {r : Trail × Proc} (hp : p.Sound)
    (h : p.logged_in.user_name = username) (hrun : run sys (p.play lines) w = (.ok r, w')) :
    r.2.logged_in.user_name = username := by
  induction lines generalizing p w r with
  | nil =>
    cases hrun
    exact h
  | cons line lines ih =>
    obtain ⟨next, w₁, r', hstep, hrest, rfl⟩ := run_play_cons.mp hrun
    obtain ⟨hnext, -⟩ := step_stored (A := fun _ => True) hp (.inl trivial) hstep
    exact ih (r := r') hnext (step_named hp h hstep) hrest

/-- A user that has been another one on the way is stored. -/
theorem play_changed {lines : List Text} {r : Trail × Proc} {u : User} (hp : p.Sound)
    (h : p.logged_in = u ∨ Stored w p.logged_in) (hrun : run sys (p.play lines) w = (.ok r, w'))
    (hchange : ∃ q ∈ r.1.map Prod.fst ++ [r.2], q.logged_in ≠ u) : Stored w' r.2.logged_in := by
  induction lines generalizing p w r with
  | nil =>
    cases hrun
    obtain ⟨q, hq, hne⟩ := hchange
    obtain rfl := List.mem_singleton.mp hq
    exact h.resolve_left hne
  | cons line lines ih =>
    by_cases hsame : p.logged_in = u
    · obtain ⟨next, w₁, r', hstep, hrest, rfl⟩ := run_play_cons.mp hrun
      obtain ⟨hnext, hstored⟩ := step_stored (A := fun v => v = u) hp (.inl hsame) hstep
      obtain ⟨q, hq, hne⟩ := hchange
      rcases List.mem_cons.mp hq with rfl | hq
      · exact absurd hsame hne
      · exact ih (r := r') hnext hstored hrest ⟨q, hq, hne⟩
    · exact play_stored hp (h.resolve_left hsame) hrun

/-- Logging in again, after a session that has changed its user. -/
theorem session_resumes {lines : List Text} {r : Trail × Proc} {w₀ w₁ w₂ : World}
    (hlogin : run sys (login username) w = (.ok p, w₀))
    (hplay : run sys (p.play lines) w₀ = (.ok r, w₁))
    (hchange : ∃ q ∈ r.1.map Prod.fst ++ [r.2], q.logged_in ≠ p.logged_in)
    (hagain : run sys (login username) w₁ = (.ok p', w₂)) (hin : p'.loc ≠ .exited) :
    stockRead w₂ = stockRead w₁ ∧ r.2.logged_in.Resumes p'.logged_in := by
  have hsound := session_sound w username []
  have hstart : run sys (session username []) w = (.ok ([], p), w₀) := run_bind_ok hlogin
  rw [hstart, ends_ok] at hsound
  have hend := session_sound w username lines
  have hsession : run sys (session username lines) w = (.ok r, w₁) := by
    rw [session, run_bind_ok hlogin, hplay]
  rw [hsession, ends_ok] at hend
  have hopen : p.loc ≠ .exited := by
    intro hexited
    rw [play_of_exited hexited] at hplay
    cases hplay
    obtain ⟨q, hq, hne⟩ := hchange
    have hsame : q = p := by
      rcases List.mem_append.mp hq with hq | hq
      · simp only [List.map_map, List.mem_map] at hq
        obtain ⟨_, -, heq⟩ := hq
        exact heq.symm
      · exact List.mem_singleton.mp hq
    exact hne (by rw [hsame])
  have hstored := play_changed hsound (.inl rfl) hplay hchange
  have hread := wp_login_loaded username w
  rw [wp_exact, hlogin, ends_ok] at hread
  obtain ⟨-, rfl | ⟨-, entry₀, -, hfirst⟩⟩ := hread
  · exact absurd rfl hopen
  obtain ⟨user₀, pay₀, cart₀, hhead₀, -, -, hfirst⟩ := hfirst
  have hname : r.2.logged_in.user_name = username :=
    play_named hsound (by rw [hfirst]; exact hhead₀.name) hplay
  have hreread := wp_login_loaded username w₁
  rw [wp_exact, hagain, ends_ok] at hreread
  obtain ⟨hstock, rfl | ⟨-, entry, hentry, hload⟩⟩ := hreread
  · exact absurd rfl hin
  rw [← hname] at hentry hload
  exact ⟨hstock, hstored.resumes hend.user hentry hload⟩

end Runs

end OnlineShoppingCenter

namespace OnlineShoppingCenter

open TextCodec EffectProgram

attribute [local instance] posix

def fillLines : List Text := ["addtocart 7", "cart", "changeqty 7 2", "exit"].map String.toList

/-- Two packs of pens are in the cart after logging in again. -/
theorem small_resumes : ∃ p w₀ r w₁ p' w₂,
    run sys (login "testuser001".toList) smallWorld = (.ok p, w₀) ∧
      run sys (p.play fillLines) w₀ = (.ok r, w₁) ∧
        run sys (login "testuser001".toList) w₁ = (.ok p', w₂) ∧
          r.2.logged_in.shopping_cart.getCount 7 = 2 ∧ stockRead w₂ = stockRead w₁ ∧
            r.2.logged_in.Resumes p'.logged_in := by
  have hfilled : ((run sys (do
      let p ← login "testuser001".toList
      let r ← p.play fillLines
      let p' ← login "testuser001".toList
      return (p, r, p')) smallWorld).1.toOption.any fun (p, r, p') =>
        p.logged_in.shopping_cart.isEmpty && !r.2.logged_in.shopping_cart.isEmpty &&
          r.2.logged_in.shopping_cart.getCount 7 == 2 && p'.loc.question.isSome) = true := by
    decide +kernel
  obtain ⟨x, hx, hfilled⟩ := ok_of_any hfilled
  obtain ⟨p, w₀, hlogin, hrest⟩ := run_bind_eq_ok.mp (Prod.ext hx rfl)
  obtain ⟨r, w₁, hplay, hrest⟩ := run_bind_eq_ok.mp hrest
  obtain ⟨p', w₂, hagain, hend⟩ := run_bind_eq_ok.mp hrest
  cases hend
  simp only [Bool.and_eq_true, Bool.not_eq_true', beq_iff_eq] at hfilled
  obtain ⟨⟨⟨hempty, hfull⟩, hcount⟩, hloc⟩ := hfilled
  have hchange : ∃ q ∈ r.1.map Prod.fst ++ [r.2], q.logged_in ≠ p.logged_in := by
    refine ⟨r.2, by simp, ?_⟩
    intro hsame
    rw [hsame, hempty] at hfull
    cases hfull
  have hin : p'.loc ≠ .exited := by
    intro hexited
    rw [hexited] at hloc
    cases hloc
  obtain ⟨hstock, hresumes⟩ := session_resumes hlogin hplay hchange hagain hin
  exact ⟨p, w₀, r, w₁, p', _, hlogin, hplay, hagain, hcount, hstock, hresumes⟩

end OnlineShoppingCenter
