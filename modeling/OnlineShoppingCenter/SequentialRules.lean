import OnlineShoppingCenter.LoadingRules
import OnlineShoppingCenter.SessionRules

/-!
# Sessions one after the other

A single client at a time: every call is answered by the databases as the calls
before it left them, and a journal keeps the calls. An invariant is given by
what each call does to the world; the rules for sessions do the rest.
-/
namespace OnlineShoppingCenter

open TextCodec EffectProgram StorageSystem

variable [Platform]

abbrev Journal := List Call

/-- A call answered by the databases alone, and kept in the journal. -/
theorem wp_logged (op : Call) {w : World} {l : Journal} {Q : op.Ret → World × Journal → Prop}
    {E : Exn → World × Journal → Prop} :
    wp sys.logged.exact (request op) (w, l) Q E ↔
      wp db.exact op.method w (fun a w' => Q a (w', l ++ [op])) (fun e w' => E e (w', l ++ [op])) := by
  refine wp_exact_perform.trans (Iff.trans ?_ wp_exact.symm)
  change Ends Q E (run db op.method w).1 ((run db op.method w).2, l ++ [op]) ↔ _
  cases (run db op.method w).1 <;> rfl

theorem wp_sys {op : Call} {w : World} {Q : op.Ret → World → Prop} {E : Exn → World → Prop} :
    wp sys.exact (request op) w Q E ↔ wp db.exact op.method w Q E :=
  wp_exact_perform.trans wp_exact.symm

theorem StorageSystem.LoadedItems.sound {K : World → Prop} {items : List Text} {c c' : ShoppingCart}
    (h : LoadedItems K items c c') (hc : c.Sound) : c'.Sound := by
  induction h with
  | nil => exact hc
  | cons _ _ hp _ ih => exact ih (hc.set hp.sound.2 _)

theorem StorageSystem.LoadedUser.sound {K : World → Prop} {username : Text}
    {entry : ColumnFamilies.Entry UserKey} {u : User} (h : LoadedUser K username entry u) :
    u.Sound := by
  obtain ⟨user, pay, cart, hhead, -, hcart, rfl⟩ := h
  obtain ⟨zip, -, haddr⟩ := hhead.address
  refine ⟨?_, LoadedItems.sound hcart ShoppingCart.sound_empty⟩
  change user.shipping_address.Whole
  rw [haddr]
  intro hset
  simpa [addressOf] using hset

/-- An invariant of sequential sessions: the conditions of a session invariant,
each as an effect on the world and the journal. -/
structure SequentialSpec where
  holds : World × Journal → User → Task → Prop
  charging : World × Journal → User → Transaction → List (SKU × Product × UInt32) → Prop
  rest : World × Journal → Prop
  failed : Exn → World × Journal → Prop
  okQty : UInt32 → Prop
  rest_of_holds : ∀ {g u a}, holds g u a → rest g
  failed_of_holds : ∀ {g u a e}, holds g u a → e ≠ .runtime_error → failed e g
  rest_of_refused : ∀ {g}, failed .system_error g → rest g
  forget : ∀ {g u a}, holds g u a → holds g u .idle
  ask : ∀ {w l u a question}, holds (w, l) u a → holds (w, l ++ [.ask question]) u a
  showOrder : ∀ {w l u t}, holds (w, l) u .idle → holds (w, l ++ [.showOrder t]) u .idle
  getProducts : ∀ {w l u}, holds (w, l) u .idle → holds (w, l ++ [.getProducts]) u .idle
  noProduct : ∀ {w l u UPC}, holds (w, l) u .idle → holds (w, l ++ [.getProduct UPC]) u .idle
  getProduct : ∀ {w l u UPC p}, holds (w, l) u .idle → Decoded w UPC p →
    holds (w.restock p, l ++ [.getProduct UPC]) u (.copy p)
  storeCart : ∀ {w l u a cart}, holds (w, l) u a → u.Sound → cart.Sound →
    (a = .idle ∧ (cart = {} ∨ ∃ UPC, cart = u.shopping_cart.remove UPC)) ∨
      (∃ p, a = .copy p ∧ okQty 0 ∧ cart = u.shopping_cart.remove p.UPC) →
    holds (w.putUser { u with shopping_cart := cart },
      l ++ [.storeUser { u with shopping_cart := cart }]) { u with shopping_cart := cart } a
  setItem : ∀ {w l u p qty}, holds (w, l) u (.copy p) → u.Sound → p.is_set = true → okQty qty →
    holds (w.putUser { u with shopping_cart := u.shopping_cart.set p qty },
      l ++ [.storeUser { u with shopping_cart := u.shopping_cart.set p qty }])
      { u with shopping_cart := u.shopping_cart.set p qty } .idle
  buyCart : ∀ {w l u}, holds (w, l) u .idle → u.Sound → u.shopping_cart.isEmpty = false →
    holds ({ w with drawn := w.drawn + 1 }, l ++ [.uuid_generate]) u
      (.order (Transaction.new u.shopping_cart (w.uuids w.drawn)))
  setAddress : ∀ {g u t addr}, holds g u (.order t) → holds g u (.order (t.setShippingAddress addr))
  setPayment : ∀ {g u t cc}, holds g u (.order t) → holds g u (.order (t.setPaymentInfo cc))
  storeAddress : ∀ {w l u a addr}, holds (w, l) u a → u.Sound → addr.Complete →
    holds (w.putUser { u with shipping_address := addr },
      l ++ [.storeUser { u with shipping_address := addr }]) { u with shipping_address := addr } a
  storePayment : ∀ {w l u a cc}, holds (w, l) u a → u.Sound → cc.is_set = true →
    holds (w.putUser { u with payment_info := cc }, l ++ [.storeUser { u with payment_info := cc }])
      { u with payment_info := cc } a
  startCharge : ∀ {w l u t}, holds (w, l) u (.order t) → Proc.Sound ⟨u, .placeOrder t⟩ →
    charging ({ w with ticks := w.ticks + 1 }, l ++ [.gmtime]) u (t.finalize (w.clock w.ticks))
      t.shopping_cart.cart.toList
  chargeItem : ∀ {w l u t UPC p qty rest}, charging (w, l) u t ((UPC, p, qty) :: rest) →
    p.is_set = true → ¬ p.quantity < qty →
    charging ((w.restock (p.withQuantity (p.quantity - qty))).restock
        (p.withQuantity (p.quantity - qty)),
      l ++ [.setQuantity p (p.quantity - qty)] ++
        [.storeProduct (p.withQuantity (p.quantity - qty))]) u t rest
  finalized : ∀ {g u t items}, charging g u t items → t.is_finalized = true
  finishCharge : ∀ {w l u t}, charging (w, l) u t [] →
    holds ((w.putOrder t).putUser { u with
        shopping_cart := {}
        transaction_history := u.transaction_history.addTransaction t },
      l ++ [.storeTransaction t] ++ [.storeUser { u with
        shopping_cart := {}
        transaction_history := u.transaction_history.addTransaction t }])
      { u with
        shopping_cart := {}
        transaction_history := u.transaction_history.addTransaction t } .idle

namespace SequentialSpec

theorem wp_storeUser_logged {w : World} {l : Journal} {u : User} {Q : Unit → World × Journal → Prop}
    {E : Exn → World × Journal → Prop} (h : Q () (w.putUser u, l ++ [.storeUser u])) :
    wp sys.logged.exact (local_storage.storeUser u) (w, l) Q E :=
  (wp_logged (.storeUser u)).mpr (wp_storeUser.mpr h)

/-- The effects are those of the calls. -/
def toSessionSpec (T : SequentialSpec) : SessionSpec sys.logged.exact where
  holds := T.holds
  charging := T.charging
  rest := T.rest
  failed := T.failed
  okQty := T.okQty
  rest_of_holds := T.rest_of_holds
  failed_of_holds := T.failed_of_holds
  rest_of_refused := T.rest_of_refused
  forget := T.forget
  ask h := (wp_logged (.ask _)).mpr (T.ask h)
  showOrder h := (wp_logged (.showOrder _)).mpr (T.showOrder h)
  getProducts := by
    rintro ⟨w, l⟩ u h
    refine (wp_logged .getProducts).mpr (wp_bind.mpr (wp_listProducts.mpr (wp_ofExcept.mpr ⟨?_, ?_⟩)))
    · intro _ _
      exact T.getProducts h
    · intro e he
      exact T.failed_of_holds (T.getProducts h) (stoulEach_error he)
  getProduct := by
    rintro ⟨w, l⟩ u UPC h
    refine (wp_logged (.getProduct UPC)).mpr (wp_getProduct ?_ ?_)
    · intro p hp
      exact ⟨T.getProduct h hp, hp.sound.2⟩
    · intro e he _
      exact ⟨T.noProduct h, he⟩
  setItem := by
    rintro ⟨w, l⟩ u p qty h hu hp hqty
    exact wp_storeUser_logged (T.setItem h hu hp hqty)
  removeItem := by
    rintro ⟨w, l⟩ u UPC h hu
    exact wp_storeUser_logged
      (T.storeCart h hu (hu.cart.remove UPC) (.inl ⟨rfl, .inr ⟨UPC, rfl⟩⟩))
  removeCopy := by
    rintro ⟨w, l⟩ u p h hu hp hqty
    exact wp_storeUser_logged
      (T.storeCart h hu (hu.cart.remove p.UPC) (.inr ⟨p, rfl, hqty, rfl⟩))
  emptyCart := by
    rintro ⟨w, l⟩ u h hu
    exact wp_storeUser_logged
      (T.storeCart h hu ShoppingCart.sound_empty (.inl ⟨rfl, .inl rfl⟩))
  buyCart := by
    rintro ⟨w, l⟩ u h hu hempty
    exact (wp_logged .uuid_generate).mpr (wp_exact_perform.mpr (T.buyCart h hu hempty))
  setAddress := T.setAddress
  setPayment := T.setPayment
  storeAddress := by
    rintro ⟨w, l⟩ u a addr h hu haddr
    exact wp_storeUser_logged (T.storeAddress h hu haddr)
  storePayment := by
    rintro ⟨w, l⟩ u a cc h hu hcc
    exact wp_storeUser_logged (T.storePayment h hu hcc)
  startCharge := by
    rintro ⟨w, l⟩ u t h hp
    exact (wp_logged .gmtime).mpr (wp_exact_perform.mpr (T.startCharge h hp))
  chargeItem := by
    rintro ⟨w, l⟩ u t UPC p qty rest h hp hqty
    have hset := Product.withQuantity_is_set hp (p.quantity - qty)
    refine (wp_logged (.setQuantity p _)).mpr ((wp_setQuantity hp).mpr ?_)
    refine (wp_logged (.storeProduct _)).mpr ((wp_storeProduct hset).mpr ?_)
    exact T.chargeItem h hp hqty
  finishCharge := by
    rintro ⟨w, l⟩ u t h
    refine (wp_logged (.storeTransaction t)).mpr ((wp_storeTransaction (T.finalized h)).mpr ?_)
    exact wp_storeUser_logged (T.finishCharge h)

end SequentialSpec

/-- Lines that are in order where they are typed keep the invariant. -/
theorem run_play_okLines (S : SessionSpec sys.logged.exact) {p : Proc} {g : World × Journal}
    {lines : List Text} (h : S.Inv g p)
    (hok : ∀ front line back, lines = front ++ line :: back → ∀ r g',
      run sys.logged (p.play front) g = (.ok r, g') → S.okLine g' r.2 line) :
    Ends (fun r g' => S.Inv g' r.2) S.failed (run sys.logged (p.play lines) g).1
      (run sys.logged (p.play lines) g).2 := by
  induction lines generalizing p g with
  | nil => exact h
  | cons line lines ih =>
    have hstep : S.Keeps (p.step line) g := S.keeps_step h (hok [] line lines rfl ([], p) g rfl)
    unfold SessionSpec.Keeps at hstep
    rw [wp_exact] at hstep
    cases hrun : run sys.logged (p.step line) g with
    | mk out g' =>
      rw [hrun] at hstep
      cases out with
      | error e =>
        rw [Proc.play, run_bind_error hrun]
        exact hstep
      | ok next =>
        have hrest := ih hstep fun front line' back hlines r g'' hfront =>
          hok (line :: front) line' back (by rw [hlines, List.cons_append]) (_ :: r.1, r.2) g''
            (run_play_cons.mpr ⟨next, g', r, hrun, hfront, rfl⟩)
        rw [Proc.play, run_bind_ok hrun]
        cases hplay : run sys.logged (next.play lines) g' with
        | mk out g'' =>
          rw [hplay] at hrest
          cases out with
          | ok r =>
            rw [run_bind_ok hplay]
            exact hrest
          | error e =>
            rw [run_bind_error hplay]
            exact hrest

/-- Calls with the name of the user whose session made them. -/
abbrev Register := List (Text × Call)

/-- One session, from its login to its last line or its first exception. -/
def runSession (g : World × Register) (s : Text × List Text) : World × Register :=
  let r := (run sys.logged (session s.1 s.2) (g.1, [])).2
  (r.1, g.2 ++ r.2.map fun call => (s.1, call))

def runSessions (w : World) (sessions : List (Text × List Text)) : World × Register :=
  sessions.foldl runSession (w, [])

theorem runSessions_induction {P : World × Register → Prop} {w : World} (hw : P (w, []))
    (hstep : ∀ g s, P g → P (runSession g s)) (sessions : List (Text × List Text)) :
    P (runSessions w sessions) := by
  unfold runSessions
  generalize (w, ([] : Register)) = g at hw
  induction sessions generalizing g with
  | nil => exact hw
  | cons s sessions ih => exact ih _ (hstep g s hw)

/-- Between sessions the resting part of an invariant holds. -/
theorem rest_of_session (S : SessionSpec sys.logged.exact) {w : World} {username : Text}
    (lines : List Text) (hlogin : S.Login username (w, [])) (hqty : ∀ qty, S.okQty qty)
    (hfailed : ∀ e g, S.failed e g → S.rest g) :
    S.rest (run sys.logged (session username lines) (w, [])).2 := by
  have h := S.keeps_session lines hlogin hqty
  rw [wp_exact] at h
  cases hr : (run sys.logged (session username lines) (w, [])).1 with
  | ok r =>
    rw [hr] at h
    exact h.1.rest
  | error e =>
    rw [hr] at h
    exact hfailed e _ h

end OnlineShoppingCenter
