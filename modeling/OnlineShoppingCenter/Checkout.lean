import OnlineShoppingCenter.Posix
import OnlineShoppingCenter.SampleData
import OnlineShoppingCenter.SequentialRules

/-!
# What the checkout charges

At the last prompt of the checkout the order has its address, its payment
method and no quantity above that of its product copy, whatever jumps led
there. So neither of the two checks that throw a `runtime_error` ever fails.
-/
namespace OnlineShoppingCenter

open TextCodec EffectProgram StorageSystem

variable [Platform]

/-- The order that a line typed at a prompt has charged. -/
def Proc.charged (p : Proc) (line : Text) : Option Transaction :=
  match p.loc with
  | .placeOrder order => if saysNo line then none else some order
  | _ => none

/-- The trail of a session, and the order that one more line then charges. -/
def chargedOrder (w : World) (username : Text) (lines : List Text) (line : Text) :
    Option (Trail × Transaction) :=
  (run sys (session username lines) w).1.toOption.bind fun r =>
    (r.2.charged line).map fun order => (r.1, order)

structure Transaction.Chargeable (t : Transaction) : Prop where
  address : t.shipping_address.Complete
  payment : t.payment_info.is_set = true
  quantities : ∀ (UPC : SKU) (p : Product) (qty : UInt32),
    t.shopping_cart.cart[UPC]? = some (p, qty) → qty ≤ p.quantity

theorem Proc.charged_eq_some {p : Proc} {line : Text} {order : Transaction} :
    p.charged line = some order ↔ p.loc = .placeOrder order ∧ saysNo line = false := by
  obtain ⟨u, loc⟩ := p
  cases loc <;> simp [Proc.charged, and_comm]

theorem chargedOrder_eq_some {w : World} {username : Text} {lines : List Text} {line : Text}
    {trail : Trail} {order : Transaction} (h : chargedOrder w username lines line = some (trail, order)) :
    ∃ p, (run sys (session username lines) w).1 = .ok (trail, p) ∧ p.charged line = some order := by
  unfold chargedOrder at h
  cases hr : (run sys (session username lines) w).1 with
  | error e =>
    rw [hr] at h
    cases h
  | ok r =>
    rw [hr] at h
    obtain ⟨order', hc, heq⟩ := Option.map_eq_some_iff.mp h
    obtain ⟨rfl, rfl⟩ := Prod.mk.inj heq
    exact ⟨r.2, rfl, hc⟩

theorem Proc.Sound.chargeable {p : Proc} (h : p.Sound) {line : Text} {order : Transaction}
    (hc : p.charged line = some order) : order.Chargeable := by
  obtain ⟨u, loc⟩ := p
  obtain ⟨hloc, -⟩ := Proc.charged_eq_some.mp hc
  obtain ⟨hd, haddr, hpay⟩ : Draft u order ∧ order.shipping_address.is_set = true ∧
      order.payment_info.is_set = true := by
    have := h.loc
    rw [hloc] at this
    exact this
  refine ⟨⟨haddr, hd.address haddr⟩, hpay, ?_⟩
  intro UPC p qty hq
  rw [hd.cart, ← ShoppingCart.mem_cart] at hq
  exact UInt32.not_lt.mp (ShoppingCart.invalidQty_eq_false.mp hd.valid _ hq)

/-- Nothing but the soundness of the prompts, and no `runtime_error`. -/
def promptSpec : SequentialSpec where
  holds _ _ _ := True
  charging _ _ t _ := t.is_finalized = true
  rest _ := True
  failed e _ := e ≠ .runtime_error
  okQty _ := True
  rest_of_holds _ := trivial
  failed_of_holds _ he := he
  rest_of_refused _ := trivial
  forget _ := trivial
  ask _ := trivial
  showOrder _ := trivial
  getProducts _ := trivial
  noProduct _ := trivial
  getProduct _ _ := trivial
  storeCart _ _ _ _ := trivial
  setItem _ _ _ _ := trivial
  buyCart _ _ _ := trivial
  setAddress _ := trivial
  setPayment _ := trivial
  storeAddress _ _ _ := trivial
  storePayment _ _ _ := trivial
  startCharge _ _ := rfl
  chargeItem h _ _ := h
  finalized h := h
  finishCharge _ := trivial

theorem promptSpec_login (username : Text) (g : World × Journal) :
    promptSpec.toSessionSpec.Login username g := by
  obtain ⟨w, l⟩ := g
  have hK : Restockable fun _ => True := fun _ _ _ _ _ => trivial
  refine (wp_logged (.getUser username)).mpr (wp_mono (wp_getUser_keeps hK trivial ?_) ?_ ?_)
  · intro _ _ _ _ _ _ _ _
    trivial
  · intro u w' ⟨_, entry, _, hu⟩
    exact ⟨trivial, hu.sound⟩
  · intro e w' h
    exact h.2

/-- Every session stands at a sound prompt or has failed otherwise than with a
`runtime_error`. -/
theorem session_sound (w : World) (username : Text) (lines : List Text) :
    Ends (fun r _ => r.2.Sound) (fun e _ => e ≠ .runtime_error)
      (run sys (session username lines) w).1 (run sys (session username lines) w).2 := by
  have h := promptSpec.toSessionSpec.keeps_session lines
    (promptSpec_login username (w, [])) fun _ => trivial
  rw [wp_exact, (run_logged sys (session username lines) w []).1] at h
  cases hr : (run sys (session username lines) w).1 with
  | ok r =>
    rw [hr] at h
    exact h.1.sound
  | error e =>
    rw [hr] at h
    exact h

theorem checkout_charges_chargeable (w : World) (username : Text) (lines : List Text) :
    (run sys (session username lines) w).1 ≠ .error .runtime_error ∧
      ∀ line trail order, chargedOrder w username lines line = some (trail, order) →
        order.Chargeable := by
  have h := session_sound w username lines
  constructor
  · intro hr
    rw [hr] at h
    exact h rfl
  · intro line trail order hc
    obtain ⟨p, hr, hp⟩ := chargedOrder_eq_some hc
    rw [hr] at h
    exact Proc.Sound.chargeable h hp

end OnlineShoppingCenter

namespace OnlineShoppingCenter

open TextCodec

attribute [local instance] posix

/-- One toy is paid for with what is on file. -/
def sampleLines : List Text :=
  ["addtocart 653569401025", "cart", "checkout", "y", "y"].map String.toList

theorem sample_checkout_chargeable : ∃ trail order,
    chargedOrder sampleWorld "testuser001".toList sampleLines "y".toList = some (trail, order) ∧
      order.Chargeable := by
  have hsome : (chargedOrder sampleWorld "testuser001".toList sampleLines "y".toList).isSome := by
    decide +kernel
  obtain ⟨⟨trail, order⟩, hc⟩ := Option.isSome_iff_exists.mp hsome
  exact ⟨trail, order, hc, (checkout_charges_chargeable _ _ _).2 _ trail order hc⟩

end OnlineShoppingCenter
