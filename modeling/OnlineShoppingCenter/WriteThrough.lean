import OnlineShoppingCenter.Checkout
import OnlineShoppingCenter.Questions

/-!
# Changes of the session's user are stored

A command that changes the logged-in user ends with the user stored, and no
later command of the session takes that back: the record agrees with the user
in memory at every prompt from the first change on.
-/
namespace OnlineShoppingCenter

open TextCodec ColumnFamilies EffectProgram StorageSystem

variable [Platform]

/-- The record under the user's name has every key that `storeUser` writes for
this user, with the text it writes. -/
def Stored (w : World) (u : User) : Prop :=
  ∃ e, w.users[u.user_name]? = some e ∧ ∀ key text, (key, text) ∈ userBatch u → e key = some text

theorem nodup_userBatch (u : User) : ((userBatch u).map Prod.fst).Nodup := by
  unfold userBatch addressBatch paymentBatch
  have hparts : S_NAME_SET ≠ 0 ∧ S_STREET_SET ≠ 0 ∧ S_CITY_SET ≠ 0 ∧ S_STATE_SET ≠ 0 ∧
      S_ZIP_SET ≠ 0 ∧ S_COUNTRY_SET ≠ 0 := by decide
  obtain ⟨h1, h2, h3, h4, h5, h6⟩ := hparts
  by_cases hset : u.shipping_address.parts_set = 0 <;> cases hpay : u.payment_info.is_set <;>
    simp [hset, h1, h2, h3, h4, h5, h6]

theorem stored_putUser (w : World) (u : User) : Stored (w.putUser u) u := by
  refine ⟨_, Database.getElem?_put_self _ _ _, ?_⟩
  intro key text hput
  exact Batch.overlay_of_mem (nodup_userBatch u) hput _

/-- A user of a kind, or one whose record agrees. Reading and printing leave
either as it is; every change of the user stores. -/
def storedSpec (A : User → Prop) : SequentialSpec where
  holds g u _ := A u ∨ Stored g.1 u
  charging _ _ t _ := t.is_finalized = true
  rest _ := True
  failed _ _ := True
  okQty _ := True
  rest_of_holds _ := trivial
  failed_of_holds _ _ := trivial
  rest_of_refused _ := trivial
  forget h := h
  ask h := h
  showOrder h := h
  getProducts h := h
  noProduct h := h
  getProduct h _ := h
  storeCart _ _ _ _ := .inr (stored_putUser _ _)
  setItem _ _ _ _ := .inr (stored_putUser _ _)
  buyCart h _ _ := h
  setAddress h := h
  setPayment h := h
  storeAddress _ _ _ := .inr (stored_putUser _ _)
  storePayment _ _ _ := .inr (stored_putUser _ _)
  startCharge _ _ := rfl
  chargeItem h _ _ := h
  finalized h := h
  finishCharge _ := .inr (stored_putUser _ _)

section Runs

variable {A : User → Prop} {p p' : Proc} {line : Text} {w w' : World}

/-- A step keeps the kind, or stores. -/
theorem step_stored (hp : p.Sound) (h : A p.logged_in ∨ Stored w p.logged_in)
    (hrun : run sys (p.step line) w = (.ok p', w')) :
    p'.Sound ∧ (A p'.logged_in ∨ Stored w' p'.logged_in) := by
  obtain ⟨l', hlogged⟩ := run_logged_eq hrun []
  have hinv : (storedSpec A).toSessionSpec.Inv (w, []) p := by
    refine ⟨hp, ?_⟩
    cases p.loc.task with
    | none => trivial
    | some task => exact h
  have hkeeps : (storedSpec A).toSessionSpec.Keeps (p.step line) (w, []) :=
    SessionSpec.keeps_step _ hinv (SessionSpec.okLine_of_all _ (fun _ => trivial) _ _ _)
  unfold SessionSpec.Keeps at hkeeps
  rw [wp_exact, hlogged] at hkeeps
  refine ⟨hkeeps.sound, ?_⟩
  by_cases hloc : p'.loc = .exited
  · obtain ⟨hsame, hworld⟩ := run_step_exited hlogged hloc
    obtain ⟨rfl, -⟩ := Prod.mk.inj hworld
    rw [hsame]
    exact h
  · obtain ⟨task, htask⟩ := hkeeps.holds hloc
    exact htask

/-- Once the record agrees it agrees at every later prompt. -/
theorem play_stored {lines : List Text} {r : Trail × Proc} (hp : p.Sound)
    (h : Stored w p.logged_in) (hrun : run sys (p.play lines) w = (.ok r, w')) :
    Stored w' r.2.logged_in := by
  induction lines generalizing p w r with
  | nil =>
    cases hrun
    exact h
  | cons line lines ih =>
    obtain ⟨next, w₁, hstep, hrest⟩ := run_bind_eq_ok.mp hrun
    obtain ⟨last, w₂, hlast, hend⟩ := run_bind_eq_ok.mp hrest
    cases hend
    obtain ⟨hnext, hstored⟩ := step_stored (A := fun _ => False) hp (.inr h) hstep
    exact ih (r := last) hnext (hstored.resolve_left id) hlast

/-- A command that changes the user leaves the record in agreement with it, and
so does every command after it. -/
theorem changes_stored {username : Text} {front back : List Text} {r r' : Trail × Proc}
    {w₀ w₁ w₂ : World} (hfront : run sys (session username front) w = (.ok r, w₀))
    (hstep : run sys (r.2.step line) w₀ = (.ok p, w₁)) (hchange : p.logged_in ≠ r.2.logged_in)
    (hback : run sys (p.play back) w₁ = (.ok r', w₂)) :
    Stored w₁ p.logged_in ∧ Stored w₂ r'.2.logged_in := by
  have hsound := session_sound w username front
  rw [hfront] at hsound
  obtain ⟨hp, hstored⟩ := step_stored (A := fun u => u = r.2.logged_in) hsound (.inl rfl) hstep
  have hstored := hstored.resolve_left hchange
  exact ⟨hstored, play_stored hp hstored hback⟩

end Runs

end OnlineShoppingCenter

namespace OnlineShoppingCenter

open TextCodec EffectProgram

attribute [local instance] posix

def addLine : Text := "addtocart 653569401025".toList

/-- An item is added and the session left: the record still lists the item. -/
theorem sample_changes_stored :
    ∃ r w₀ p w₁ r' w₂, run sys (session "testuser003".toList []) sampleWorld = (.ok r, w₀) ∧
      run sys (r.2.step addLine) w₀ = (.ok p, w₁) ∧
        run sys (p.play ["exit".toList]) w₁ = (.ok r', w₂) ∧
          Stored w₁ p.logged_in ∧ Stored w₂ r'.2.logged_in := by
  have hempty : ((run sys (session "testuser003".toList []) sampleWorld).1.toOption.any fun r =>
      r.2.logged_in.shopping_cart.isEmpty) = true := by
    decide +kernel
  have hadded : ((run sys (do
      let r ← session "testuser003".toList []
      r.2.step addLine) sampleWorld).1.toOption.any fun p =>
        !p.logged_in.shopping_cart.isEmpty) = true := by
    decide +kernel
  have hleft : ((run sys (do
      let r ← session "testuser003".toList []
      let p ← r.2.step addLine
      p.play ["exit".toList]) sampleWorld).1.toOption.any fun _ => true) = true := by
    decide +kernel
  obtain ⟨r, hr, hempty⟩ := ok_of_any hempty
  obtain ⟨p, hp, hadded⟩ := ok_of_any hadded
  obtain ⟨r', hr', -⟩ := ok_of_any hleft
  obtain ⟨r₁, w₀, hfront, hrest⟩ := run_bind_eq_ok.mp (Prod.ext hr' rfl)
  obtain ⟨p₁, w₁, hstep, hback⟩ := run_bind_eq_ok.mp hrest
  rw [hfront] at hr
  cases hr
  rw [run_bind_ok hfront, hstep] at hp
  cases hp
  have hchange : p.logged_in ≠ r.2.logged_in := by
    intro hsame
    rw [hsame, hempty] at hadded
    cases hadded
  exact ⟨r, w₀, p, w₁, r', _, hfront, hstep, hback, changes_stored hfront hstep hchange hback⟩

end OnlineShoppingCenter
