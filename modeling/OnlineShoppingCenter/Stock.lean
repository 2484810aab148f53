import OnlineShoppingCenter.Checkout
import OnlineShoppingCenter.Inventory

/-!
# Stock conservation

With one session at a time, every product copy in the cart of the session
carries the number that is stored. So an order takes from the database what it
takes from its copies, and what is on hand plus what has been ordered stays
what it was.
-/
namespace OnlineShoppingCenter

open TextCodec EffectProgram StorageSystem

variable [Platform]

/-- The quantity a `setQuantity` call stores is not above the one it replaces;
a subtraction that wrapped around would be. -/
def Call.NoWrap : Call → Prop
  | .setQuantity p new_quantity => new_quantity ≤ p.quantity
  | _ => True

/-- Every copy in a cart carries the number stored for its SKU. -/
def Fresh (w : World) (c : ShoppingCart) : Prop :=
  ∀ (UPC : SKU) (p : Product) (qty : UInt32), c.cart[UPC]? = some (p, qty) →
    onHand w.products UPC = p.quantity.toNat

structure Stocked (init : SKU → Nat) (g : World × Journal) : Prop where
  well : WellStocked g.1.products
  ledger : ∀ UPC, onHand g.1.products UPC + placedUnits g.2 UPC = init UPC
  noWrap : ∀ call ∈ g.2, call.NoWrap

/-- The middle of `chargeCreditCard`: the items not yet charged are still on
hand, and their copies still fresh. -/
structure Charging (init : SKU → Nat) (g : World × Journal) (t : Transaction)
    (items : List (SKU × Product × UInt32)) : Prop where
  finalized : t.is_finalized = true
  well : WellStocked g.1.products
  ledger : ∀ UPC, onHand g.1.products UPC + placedUnits g.2 UPC + t.units UPC =
    init UPC + itemUnits items UPC
  noWrap : ∀ call ∈ g.2, call.NoWrap
  nodup : (items.map Prod.fst).Nodup
  fresh : ∀ item ∈ items, item.2.1.UPC = item.1 ∧
    onHand g.1.products item.1 = item.2.1.quantity.toNat

section Fresh

variable {w : World} {c : ShoppingCart}

theorem fresh_empty (w : World) : Fresh w {} := by
  intro UPC p qty h
  simp at h

theorem Fresh.set (h : Fresh w c) {p : Product} (hp : onHand w.products p.UPC = p.quantity.toNat)
    (qty : UInt32) : Fresh w (c.set p qty) := by
  intro UPC q n hq
  rw [ShoppingCart.getElem?_set] at hq
  split at hq
  · rename_i hUPC
    obtain ⟨rfl, rfl⟩ := Prod.mk.inj (Option.some.inj hq)
    rw [hUPC, hp]
  · exact h UPC q n hq

theorem Fresh.remove (h : Fresh w c) (UPC : SKU) : Fresh w (c.remove UPC) := by
  intro other q n hq
  rw [ShoppingCart.getElem?_remove] at hq
  split at hq
  · cases hq
  · exact h other q n hq

end Fresh

section Journal

variable {init : SKU → Nat} {w w' : World} {l : Journal} {call : Call}

theorem noWrap_snoc (h : ∀ c ∈ l, c.NoWrap) (hcall : call.NoWrap) :
    ∀ c ∈ l ++ [call], c.NoWrap := by
  intro c hc
  rcases List.mem_append.mp hc with hc | hc
  · exact h c hc
  · rw [List.mem_singleton.mp hc]
    exact hcall

/-- A call that stores no other product number and places no order. -/
theorem Stocked.snoc (h : Stocked init (w, l)) (hwell : WellStocked w'.products)
    (hstock : onHand w'.products = onHand w.products) (hplaced : call.placed = none)
    (hcall : call.NoWrap) : Stocked init (w', l ++ [call]) := by
  refine ⟨hwell, ?_, noWrap_snoc h.noWrap hcall⟩
  intro UPC
  change onHand w'.products UPC + placedUnits (l ++ [call]) UPC = init UPC
  rw [hstock, placedUnits_snoc hplaced]
  exact h.ledger UPC

end Journal

/-- What is read and bought at a prompt. -/
def StockTask (w : World) : Task → Prop
  | .copy p => onHand w.products p.UPC = p.quantity.toNat
  | .idle | .order _ => True

structure StockHolds (init : SKU → Nat) (g : World × Journal) (u : User) (a : Task) : Prop where
  stocked : Stocked init g
  fresh : Fresh g.1 u.shopping_cart
  task : StockTask g.1 a

theorem StockHolds.snoc {init : SKU → Nat} {w w' : World} {l : Journal} {u u' : User}
    {a a' : Task} {call : Call} (h : StockHolds init (w, l) u a)
    (hwell : WellStocked w'.products) (hstock : onHand w'.products = onHand w.products)
    (hplaced : call.placed = none) (hcall : call.NoWrap) (hfresh : Fresh w u'.shopping_cart)
    (htask : StockTask w a') : StockHolds init (w', l ++ [call]) u' a' := by
  refine ⟨h.stocked.snoc hwell hstock hplaced hcall, ?_, ?_⟩
  · intro UPC p qty hq
    change onHand w'.products UPC = _
    rw [hstock]
    exact hfresh UPC p qty hq
  · cases a' with
    | idle | order t => trivial
    | copy p =>
      change onHand w'.products p.UPC = _
      rw [hstock]
      exact htask

/-- A call that leaves the products and the cart as they are. -/
theorem StockHolds.quiet {init : SKU → Nat} {w w' : World} {l : Journal} {u u' : User} {a : Task}
    {call : Call} (h : StockHolds init (w, l) u a) (hw : w'.products = w.products)
    (hu : u'.shopping_cart = u.shopping_cart) (hplaced : call.placed = none)
    (hcall : call.NoWrap) : StockHolds init (w', l ++ [call]) u' a := by
  refine h.snoc ?_ (by rw [hw]) hplaced hcall ?_ h.task
  · rw [hw]
    exact h.stocked.well
  · rw [hu]
    exact h.fresh

/-- One item charged: its copy was fresh, so the number stored drops by the
quantity ordered, and no other item has the same SKU. -/
theorem Charging.item {init : SKU → Nat} {w : World} {l : Journal} {t : Transaction} {UPC : SKU}
    {p : Product} {qty : UInt32} {rest : List (SKU × Product × UInt32)}
    (h : Charging init (w, l) t ((UPC, p, qty) :: rest)) (hqty : ¬ p.quantity < qty) :
    Charging init ((w.restock (p.withQuantity (p.quantity - qty))).restock
        (p.withQuantity (p.quantity - qty)),
      l ++ [.setQuantity p (p.quantity - qty)] ++
        [.storeProduct (p.withQuantity (p.quantity - qty))]) t rest := by
  have hle : qty ≤ p.quantity := UInt32.not_lt.mp hqty
  have hsub : (p.quantity - qty).toNat = p.quantity.toNat - qty.toNat :=
    UInt32.toNat_sub_of_le _ _ hle
  have hlenat : qty.toNat ≤ p.quantity.toNat := UInt32.le_iff_toNat_le.mp hle
  obtain ⟨hUPC, hfresh⟩ : p.UPC = UPC ∧ onHand w.products UPC = p.quantity.toNat :=
    h.fresh (UPC, p, qty) (by simp)
  obtain ⟨hnot, hnodup⟩ := List.nodup_cons.mp h.nodup
  have hstock : ∀ other, onHand ((w.restock (p.withQuantity (p.quantity - qty))).restock
      (p.withQuantity (p.quantity - qty))).products other =
        if other = UPC then p.quantity.toNat - qty.toNat else onHand w.products other := by
    intro other
    rw [onHand_restock, onHand_restock]
    simp only [Product.withQuantity_UPC, Product.withQuantity_quantity, hUPC, hsub]
    split <;> rfl
  constructor
  · exact h.finalized
  · exact (h.well.restock _).restock _
  · intro other
    have hledger := h.ledger other
    rw [itemUnits_cons] at hledger
    change onHand _ other + placedUnits (l ++ _ ++ _) other + _ = _
    rw [hstock, placedUnits_snoc rfl, placedUnits_snoc rfl]
    by_cases hother : other = UPC
    · subst hother
      rw [if_pos rfl] at hledger ⊢
      simp only [hfresh] at hledger
      omega
    · rw [if_neg (Ne.symm hother)] at hledger
      rw [if_neg hother]
      simp only at hledger
      omega
  · refine noWrap_snoc (noWrap_snoc h.noWrap ?_) trivial
    change p.quantity - qty ≤ p.quantity
    rw [UInt32.le_iff_toNat_le, hsub]
    omega
  · exact hnodup
  · intro item hitem
    obtain ⟨hitemUPC, hitemFresh⟩ := h.fresh item (by simp [hitem])
    refine ⟨hitemUPC, ?_⟩
    have hne : item.1 ≠ UPC := by
      rintro rfl
      exact hnot (List.mem_map.mpr ⟨item, hitem, rfl⟩)
    change onHand _ item.1 = _
    rw [hstock, if_neg hne]
    exact hitemFresh

/-- Freshness and the ledger as an invariant of sessions. -/
def stockSpec (init : SKU → Nat) : SequentialSpec where
  holds := StockHolds init
  charging g _ t items := Charging init g t items
  rest := Stocked init
  failed _ := Stocked init
  okQty _ := True
  rest_of_holds h := h.stocked
  failed_of_holds h _ := h.stocked
  rest_of_refused h := h
  forget h := ⟨h.stocked, h.fresh, trivial⟩
  ask h := h.quiet rfl rfl rfl trivial
  showOrder h := h.quiet rfl rfl rfl trivial
  getProducts h := h.quiet rfl rfl rfl trivial
  noProduct h := h.quiet rfl rfl rfl trivial
  getProduct h hp := by
    have hwell := h.stocked.well
    have hfresh := hp.quantity hwell
    refine h.snoc (hwell.restock _) (onHand_reread hp hwell) rfl trivial h.fresh ?_
    rw [← hp.sound.1] at hfresh
    exact hfresh
  storeCart h _ _ hcart := by
    refine h.snoc h.stocked.well rfl rfl trivial ?_ h.task
    rcases hcart with ⟨-, rfl | ⟨UPC, rfl⟩⟩ | ⟨p, -, -, rfl⟩
    · exact fresh_empty _
    · exact h.fresh.remove UPC
    · exact h.fresh.remove p.UPC
  setItem h _ _ _ := h.snoc h.stocked.well rfl rfl trivial (h.fresh.set h.task _) trivial
  buyCart h _ _ := h.snoc h.stocked.well rfl rfl trivial h.fresh trivial
  setAddress h := ⟨h.stocked, h.fresh, trivial⟩
  setPayment h := ⟨h.stocked, h.fresh, trivial⟩
  storeAddress h _ _ := h.quiet rfl rfl rfl trivial
  storePayment h _ _ := h.quiet rfl rfl rfl trivial
  startCharge := by
    intro w l u t h hp
    have hcart : t.shopping_cart = u.shopping_cart := hp.loc.1.cart
    refine ⟨rfl, h.stocked.well, ?_, noWrap_snoc h.stocked.noWrap trivial, nodup_cart_keys _, ?_⟩
    · intro UPC
      have hledger := h.stocked.ledger UPC
      change onHand w.products UPC + placedUnits (l ++ [.gmtime]) UPC + t.units UPC = _
      rw [placedUnits_snoc rfl, itemUnits_cart]
      exact congrArg (· + t.units UPC) hledger
    · rintro ⟨UPC, p, qty⟩ hitem
      rw [hcart, ShoppingCart.mem_cart] at hitem
      exact ⟨(hp.user.cart UPC p qty hitem).1, h.fresh UPC p qty hitem⟩
  chargeItem h _ hqty := h.item hqty
  finalized h := h.finalized
  finishCharge := by
    intro w l u t h
    refine ⟨⟨h.well, ?_, noWrap_snoc (noWrap_snoc h.noWrap trivial) trivial⟩, fresh_empty _, trivial⟩
    intro UPC
    have hledger := h.ledger UPC
    change onHand w.products UPC + placedUnits (l ++ _ ++ _) UPC = _
    rw [placedUnits_snoc rfl, placedUnits_snoc_storeTransaction, ← Nat.add_assoc]
    exact hledger

/-- What the login reads is fresh, and what it stores are other records. -/
theorem stockSpec_login {init : SKU → Nat} {w : World} {l : Journal} (username : Text)
    (h : Stocked init (w, l)) : (stockSpec init).toSessionSpec.Login username (w, l) := by
  let K : World → Prop := fun w' =>
    WellStocked w'.products ∧ onHand w'.products = onHand w.products
  have hK : Restockable K := by
    intro w' UPC p ⟨hwell, hstock⟩ hp
    exact ⟨hwell.restock p, (onHand_reread hp hwell).trans hstock⟩
  have hitems : ∀ items c c', LoadedItems K items c c' → Fresh w c → c.Sound → Fresh w c' := by
    intro items c c' hload
    induction hload with
    | nil => exact fun hc _ => hc
    | cons _ hw' hp _ ih =>
      intro hc hsound
      have hfresh := hp.quantity hw'.1
      rw [hw'.2, ← hp.sound.1] at hfresh
      exact ih (hc.set hfresh _) (hsound.set hp.sound.2 _)
  refine (wp_logged (.getUser username)).mpr
    (wp_mono (wp_getUser_keeps hK ⟨h.well, rfl⟩ fun _ _ _ _ _ hw _ _ => hw) ?_ ?_)
  · intro u w' ⟨⟨hwell, hstock⟩, entry, _, hu⟩
    have hsound := hu.sound
    obtain ⟨user, pay, cart, -, -, hcart, rfl⟩ := hu
    have hfresh := hitems _ _ _ hcart (fresh_empty w) ShoppingCart.sound_empty
    refine ⟨⟨h.snoc hwell hstock rfl trivial, ?_, trivial⟩, hsound⟩
    intro UPC p qty hq
    change onHand w'.products UPC = _
    rw [hstock]
    exact hfresh UPC p qty hq
  · intro e w' ⟨⟨hwell, hstock⟩, _⟩
    exact h.snoc hwell hstock rfl trivial

theorem session_stocked {w : World} (username : Text) (lines : List Text)
    (h : WellStocked w.products) :
    Stocked (onHand w.products) (run sys.logged (session username lines) (w, [])).2 :=
  rest_of_session (stockSpec (onHand w.products)).toSessionSpec lines
    (stockSpec_login username ⟨h, fun _ => rfl, by simp⟩) (fun _ => trivial) fun _ _ => id

/-- Over any sessions: the numbers on hand and the units ordered add up to what
there was, no subtraction has wrapped around, and between two moments with the
same orders no number on hand differs. -/
theorem stock_conserved (w : World) (h : WellStocked w.products)
    (sessions : List (Text × List Text)) :
    (∀ UPC, onHand (runSessions w sessions).1.products UPC +
        placedUnits ((runSessions w sessions).2.map Prod.snd) UPC = onHand w.products UPC) ∧
      (∀ call ∈ (runSessions w sessions).2.map Prod.snd, call.NoWrap) ∧
      ∀ others, placedOrders ((runSessions w others).2.map Prod.snd) =
          placedOrders ((runSessions w sessions).2.map Prod.snd) →
        onHand (runSessions w others).1.products = onHand (runSessions w sessions).1.products := by
  have hall : ∀ sessions, Stocked (onHand w.products)
      ((runSessions w sessions).1, (runSessions w sessions).2.map Prod.snd) := by
    refine runSessions_induction
      (P := fun g => Stocked (onHand w.products) (g.1, g.2.map Prod.snd)) ?_ ?_
    · exact ⟨h, fun _ => rfl, by simp⟩
    intro g s hg
    have hs := session_stocked (w := g.1) s.1 s.2 hg.well
    have hmap : (runSession g s).2.map Prod.snd =
        g.2.map Prod.snd ++ (run sys.logged (session s.1 s.2) (g.1, [])).2.2 := by
      simp [runSession]
    refine ⟨hs.well, ?_, ?_⟩
    · intro UPC
      have hbefore : onHand g.1.products UPC + placedUnits (g.2.map Prod.snd) UPC =
        onHand w.products UPC := hg.ledger UPC
      have hsession := hs.ledger UPC
      change onHand (run sys.logged (session s.1 s.2) (g.1, [])).2.1.products UPC +
        placedUnits ((runSession g s).2.map Prod.snd) UPC = _
      rw [hmap, placedUnits_append]
      omega
    · intro call hcall
      change call ∈ (runSession g s).2.map Prod.snd at hcall
      rw [hmap] at hcall
      rcases List.mem_append.mp hcall with hcall | hcall
      · exact hg.noWrap call hcall
      · exact hs.noWrap call hcall
  refine ⟨(hall sessions).ledger, (hall sessions).noWrap, ?_⟩
  intro others horders
  funext UPC
  have hsame := (hall others).ledger UPC
  have hledger := (hall sessions).ledger UPC
  simp only [placedUnits, horders] at hsame hledger
  omega

end OnlineShoppingCenter

namespace OnlineShoppingCenter

open TextCodec

attribute [local instance] posix

theorem sample_wellStocked : WellStocked sampleWorld.products :=
  wellStocked_of_all (by decide +kernel)

/-- Two users in turn; the second finds the toy sold out. -/
def sampleSessions : List (Text × List Text) :=
  [("testuser001".toList, sampleLines ++ ["y".toList, "exit".toList]),
    ("testuser003".toList, ["addtocart 653569401025".toList, "cart".toList, "checkout".toList])]

theorem sample_stock_conserved :
    onHand (runSessions sampleWorld sampleSessions).1.products 653569401025 +
        placedUnits ((runSessions sampleWorld sampleSessions).2.map Prod.snd) 653569401025 =
      onHand sampleWorld.products 653569401025 ∧
    onHand sampleWorld.products 653569401025 = 1 ∧
    placedUnits ((runSessions sampleWorld sampleSessions).2.map Prod.snd) 653569401025 = 1 :=
  ⟨(stock_conserved sampleWorld sample_wellStocked sampleSessions).1 653569401025,
    by decide +kernel, by decide +kernel⟩

end OnlineShoppingCenter
