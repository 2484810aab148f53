import OnlineShoppingCenter.Interleaving
import OnlineShoppingCenter.Stock

/-!
# Stock under concurrent checkouts

A session that charges an order takes units off the shelf before the order is
placed. What all sessions have taken, what has been ordered and what is on hand
add up, as long as every number stored was computed from the number it replaces.
-/
namespace OnlineShoppingCenter

open TextCodec EffectProgram StorageSystem

variable [Platform]

/-- What a session may call when it has taken units for an order not yet placed. -/
def Bookable (taken : SKU → Nat) : Call → Prop
  | .setQuantity p new_quantity => p.is_set = true ∧ new_quantity ≤ p.quantity
  | .storeProduct p => p.is_set = true
  | .storeTransaction t => t.is_finalized = true ∧ taken = t.units
  | .ask _ => taken = 0
  | .getUser _ | .storeUser _ | .getProducts | .getProduct _ | .uuid_generate | .gmtime
  | .showOrder _ => True

/-- The units taken once a call has been answered. -/
def Call.takes (taken : SKU → Nat) : Call → SKU → Nat
  | .setQuantity p new_quantity =>
    fun UPC => taken UPC + if UPC = p.UPC then p.quantity.toNat - new_quantity.toNat else 0
  | .storeTransaction _ => 0
  | _ => taken

/-- What a session relies on in the answers. -/
def Call.Answered : (op : Call) → Except Exn op.Ret → Prop
  | .getUser _, r => ∀ u, r = .ok u → u.Sound
  | .getProduct _, r =>
    (∀ p, r = .ok p → p.is_set = true) ∧ ∀ e, r = .error e → e ≠ .runtime_error
  | .setQuantity p new_quantity, r => r = .ok (p.withQuantity new_quantity)
  | .storeProduct _, r => r = .ok ()
  | _, _ => True

def booking : Contract clientSig Exn (SKU → Nat) where
  pre := Bookable
  post taken op r taken' := taken' = op.takes taken ∧ op.Answered r

theorem wp_booking {op : Call} {taken : SKU → Nat} {Q : op.Ret → (SKU → Nat) → Prop}
    {E : Exn → (SKU → Nat) → Prop} (hop : Bookable taken op)
    (h : ∀ r, op.Answered r → Ends Q E r (op.takes taken)) :
    wp booking (request op) taken Q E := by
  refine wp_perform.mpr ⟨hop, ?_, ?_⟩
  · rintro a taken' ⟨rfl, ha⟩
    exact h (.ok a) ha
  · rintro e taken' ⟨rfl, he⟩
    exact h (.error e) he

/-- A call that takes nothing, when nothing is taken. -/
theorem wp_booking_quiet {op : Call} {taken : SKU → Nat} (h : taken = 0) (hop : Bookable taken op)
    (htakes : op.takes taken = taken) :
    wp booking (request op) taken (fun _ taken' => taken' = 0) fun _ taken' => taken' = 0 := by
  refine wp_booking hop ?_
  intro r _
  rw [htakes]
  cases r <;> exact h

/-- The middle of `chargeCreditCard`: what is taken and what is still to be
charged is the order. -/
structure Taking (taken : SKU → Nat) (t : Transaction)
    (items : List (SKU × Product × UInt32)) : Prop where
  finalized : t.is_finalized = true
  keys : ∀ item ∈ items, item.2.1.UPC = item.1
  ledger : ∀ UPC, taken UPC + itemUnits items UPC = t.units UPC

theorem Taking.item {taken : SKU → Nat} {t : Transaction} {UPC : SKU} {p : Product} {qty : UInt32}
    {rest : List (SKU × Product × UInt32)} (h : Taking taken t ((UPC, p, qty) :: rest))
    (hqty : ¬ p.quantity < qty) :
    Taking ((Call.setQuantity p (p.quantity - qty)).takes taken) t rest := by
  have hle : qty ≤ p.quantity := UInt32.not_lt.mp hqty
  have hsub : (p.quantity - qty).toNat = p.quantity.toNat - qty.toNat :=
    UInt32.toNat_sub_of_le _ _ hle
  have hlenat : qty.toNat ≤ p.quantity.toNat := UInt32.le_iff_toNat_le.mp hle
  have hkey : p.UPC = UPC := h.keys (UPC, p, qty) (by simp)
  refine ⟨h.finalized, fun item hitem => h.keys item (by simp [hitem]), ?_⟩
  intro other
  have hledger := h.ledger other
  rw [itemUnits_cons] at hledger
  simp only [Call.takes, hkey, hsub]
  by_cases hother : other = UPC
  · rw [if_pos hother.symm] at hledger
    rw [if_pos hother]
    omega
  · rw [if_neg (Ne.symm hother)] at hledger
    rw [if_neg hother]
    omega

/-- Between two checkouts nothing is taken. -/
def bookingSpec : SessionSpec booking where
  holds taken _ _ := taken = 0
  charging taken _ t items := Taking taken t items
  rest taken := taken = 0
  failed _ taken := taken = 0
  okQty _ := True
  rest_of_holds h := h
  failed_of_holds h _ := h
  rest_of_refused h := h
  forget h := h
  ask h := wp_booking_quiet h h rfl
  showOrder h := wp_booking_quiet h trivial rfl
  getProducts h := wp_booking_quiet h trivial rfl
  getProduct h := by
    refine wp_booking trivial ?_
    intro r hr
    cases r with
    | ok p => exact ⟨h, hr.1 p rfl⟩
    | error e => exact ⟨h, hr.2 e rfl⟩
  setItem h _ _ _ := wp_booking_quiet h trivial rfl
  removeItem h _ := wp_booking_quiet h trivial rfl
  removeCopy h _ _ _ := wp_booking_quiet h trivial rfl
  emptyCart h _ := wp_booking_quiet h trivial rfl
  buyCart h _ _ := wp_booking_quiet h trivial rfl
  setAddress h := h
  setPayment h := h
  storeAddress h _ _ := wp_booking_quiet h trivial rfl
  storePayment h _ _ := wp_booking_quiet h trivial rfl
  startCharge := by
    intro taken u t h hp
    have hcart : t.shopping_cart = u.shopping_cart := hp.loc.1.cart
    refine wp_booking trivial ?_
    intro r _
    cases r with
    | ok date =>
      refine ⟨rfl, ?_, ?_⟩
      · rintro ⟨UPC, p, qty⟩ hitem
        rw [hcart, ShoppingCart.mem_cart] at hitem
        exact (hp.user.cart UPC p qty hitem).1
      · intro UPC
        rw [itemUnits_cart]
        change taken UPC + t.units UPC = t.units UPC
        rw [h, Pi.zero_apply, Nat.zero_add]
    | error e => exact h
  chargeItem := by
    intro taken u t UPC p qty rest h hp hqty
    have hle : p.quantity - qty ≤ p.quantity := by
      have := UInt32.not_lt.mp hqty
      have hsub := UInt32.toNat_sub_of_le _ _ this
      rw [UInt32.le_iff_toNat_le, hsub]
      omega
    refine wp_booking ⟨hp, hle⟩ ?_
    rintro r rfl
    refine wp_booking (Product.withQuantity_is_set hp _) ?_
    rintro r rfl
    exact h.item hqty
  finishCharge := by
    intro taken u t h
    have htaken : taken = t.units := funext h.ledger
    refine wp_booking ⟨h.finalized, htaken⟩ ?_
    intro r _
    cases r with
    | ok _ => exact wp_booking_quiet rfl trivial rfl
    | error e => rfl

theorem booking_session (username : Text) (lines : List Text) :
    wp booking (session username lines) 0 (fun _ taken => taken = 0) fun _ taken => taken = 0 := by
  have hlogin : bookingSpec.Login username 0 := by
    refine wp_booking trivial ?_
    intro r hr
    cases r with
    | ok u => exact ⟨rfl, hr u rfl⟩
    | error e => rfl
  exact wp_mono (bookingSpec.keeps_session lines hlogin fun _ => trivial)
    (fun _ _ h => h.1.rest) fun _ _ h => h

section Serves

variable {ι : Type} [Fintype ι] [DecidableEq ι] {init : SKU → Nat} {w w' : World} {l : Journal}
  {taken : ι → SKU → Nat}

/-- What is on hand, ordered and taken is what there was. -/
structure Booked (init : SKU → Nat) (s : World × Journal) (taken : ι → SKU → Nat) : Prop where
  well : WellStocked s.1.products
  ledger : ∀ UPC, onHand s.1.products UPC + placedUnits s.2 UPC + ∑ i, taken i UPC = init UPC

/-- The number a call is about to replace is the one it was computed from. -/
def FreshCopy (s : World × Journal) : Call → Prop
  | .setQuantity p _ | .storeProduct p => onHand s.1.products p.UPC = p.quantity.toNat
  | _ => True

instance (s : World × Journal) : DecidablePred (FreshCopy s)
  | .setQuantity p _ | .storeProduct p =>
    inferInstanceAs (Decidable (onHand s.1.products p.UPC = p.quantity.toNat))
  | .getUser _ | .storeUser _ | .getProducts | .getProduct _ | .storeTransaction _
  | .uuid_generate | .gmtime | .ask _ | .showOrder _ => isTrue trivial

omit [Platform] in
theorem sum_update_taken (taken : ι → SKU → Nat) (i : ι) (f : SKU → Nat) (UPC : SKU) :
    ∑ j, Function.update taken i f j UPC + taken i UPC = ∑ j, taken j UPC + f UPC := by
  have hrest : ∑ j ∈ Finset.univ.erase i, Function.update taken i f j UPC =
      ∑ j ∈ Finset.univ.erase i, taken j UPC := by
    refine Finset.sum_congr rfl ?_
    intro j hj
    rw [Function.update_of_ne (Finset.ne_of_mem_erase hj)]
  rw [← Finset.add_sum_erase _ _ (Finset.mem_univ i), hrest, Function.update_self,
    ← Finset.add_sum_erase _ (fun j => taken j UPC) (Finset.mem_univ i)]
  omega

/-- A call that leaves the numbers, the orders and what is taken as they are. -/
theorem Booked.quiet {i : ι} {call : Call} (h : Booked init (w, l) taken)
    (hwell : WellStocked w'.products) (hstock : onHand w'.products = onHand w.products)
    (hplaced : call.placed = none) (htakes : call.takes (taken i) = taken i) :
    Booked init (w', l ++ [call]) (Function.update taken i (call.takes (taken i))) := by
  rw [htakes, Function.update_eq_self]
  refine ⟨hwell, ?_⟩
  intro UPC
  change onHand w'.products UPC + placedUnits (l ++ [call]) UPC + _ = _
  rw [hstock, placedUnits_snoc hplaced]
  exact h.ledger UPC

/-- Units taken off the shelf. -/
theorem Booked.take {p : Product} {n : UInt32} (i : ι) (h : Booked init (w, l) taken)
    (hfresh : onHand w.products p.UPC = p.quantity.toNat) (hn : n ≤ p.quantity) :
    Booked init (w.restock (p.withQuantity n), l ++ [.setQuantity p n])
      (Function.update taken i ((Call.setQuantity p n).takes (taken i))) := by
  refine ⟨h.well.restock _, ?_⟩
  intro UPC
  have hle : n.toNat ≤ p.quantity.toNat := UInt32.le_iff_toNat_le.mp hn
  have hledger : onHand w.products UPC + placedUnits l UPC + ∑ j, taken j UPC = init UPC :=
    h.ledger UPC
  have hsum := sum_update_taken taken i ((Call.setQuantity p n).takes (taken i)) UPC
  have htakes : (Call.setQuantity p n).takes (taken i) UPC =
      taken i UPC + if UPC = p.UPC then p.quantity.toNat - n.toNat else 0 := rfl
  change onHand (w.restock (p.withQuantity n)).products UPC + placedUnits (l ++ [_]) UPC + _ = _
  rw [onHand_restock, placedUnits_snoc rfl, Product.withQuantity_UPC, Product.withQuantity_quantity]
  obtain rfl | hUPC := eq_or_ne UPC p.UPC
  · rw [if_pos rfl] at htakes
    rw [if_pos rfl]
    omega
  · rw [if_neg hUPC] at htakes
    rw [if_neg hUPC]
    omega

/-- Units taken become units ordered. -/
theorem Booked.place {t : Transaction} {i : ι} (h : Booked init (w, l) taken)
    (ht : taken i = t.units) :
    Booked init (w.putOrder t, l ++ [.storeTransaction t])
      (Function.update taken i ((Call.storeTransaction t).takes (taken i))) := by
  refine ⟨h.well, ?_⟩
  intro UPC
  have hledger : onHand w.products UPC + placedUnits l UPC + ∑ j, taken j UPC = init UPC :=
    h.ledger UPC
  have hsum := sum_update_taken taken i ((Call.storeTransaction t).takes (taken i)) UPC
  have htakes : (Call.storeTransaction t).takes (taken i) UPC = 0 := rfl
  have hunits : taken i UPC = t.units UPC := congrFun ht UPC
  change onHand w.products UPC + placedUnits (l ++ [_]) UPC + _ = _
  rw [placedUnits_snoc_storeTransaction]
  omega

/-- What a method does is what the handler answers. -/
theorem answered_of_wp {op : Call} {P : Except Exn op.Ret → World → Prop}
    (h : wp db.exact op.method w (fun a => P (.ok a)) fun e => P (.error e)) :
    P (run db op.method w).1 (run db op.method w).2 := by
  rw [wp_exact] at h
  cases hr : (run db op.method w).1 with
  | ok a =>
    rw [hr] at h
    exact h
  | error e =>
    rw [hr] at h
    exact h

theorem restockable_stocked (w : World) :
    Restockable fun w' => WellStocked w'.products ∧ onHand w'.products = onHand w.products := by
  intro w' UPC p ⟨hwell, hstock⟩ hp
  exact ⟨hwell.restock p, (onHand_reread hp hwell).trans hstock⟩

/-- Every call of a session is answered as it relies on, and the sum kept. -/
theorem serves_booking (init : SKU → Nat) :
    Serves sys.logged (fun _ : ι => booking) (Booked init) FreshCopy := by
  rintro i op ⟨w, l⟩ taken h hfresh hop
  have hmethod : wp db.exact op.method w
      (fun a w' => op.Answered (.ok a) ∧
        Booked init (w', l ++ [op]) (Function.update taken i (op.takes (taken i))))
      fun e w' => op.Answered (.error e) ∧
        Booked init (w', l ++ [op]) (Function.update taken i (op.takes (taken i))) := by
    cases op with
    | getUser username =>
      refine wp_mono (wp_getUser_keeps (restockable_stocked w) ⟨h.well, rfl⟩
        fun _ _ _ _ _ hw _ _ => hw) ?_ ?_
      · intro u w' ⟨⟨hwell, hstock⟩, entry, _, hu⟩
        exact ⟨fun _ hr => Except.ok.inj hr ▸ hu.sound, h.quiet hwell hstock rfl rfl⟩
      · intro e w' ⟨⟨hwell, hstock⟩, _⟩
        exact ⟨nofun, h.quiet hwell hstock rfl rfl⟩
    | storeUser u => exact wp_storeUser.mpr ⟨trivial, h.quiet h.well rfl rfl rfl⟩
    | getProducts =>
      refine wp_bind.mpr (wp_listProducts.mpr (wp_ofExcept.mpr ⟨?_, ?_⟩))
      · intro _ _
        exact ⟨trivial, h.quiet h.well rfl rfl rfl⟩
      · intro _ _
        exact ⟨trivial, h.quiet h.well rfl rfl rfl⟩
    | getProduct UPC =>
      refine wp_getProduct ?_ ?_
      · intro p hp
        exact ⟨⟨fun _ hr => Except.ok.inj hr ▸ hp.sound.2, nofun⟩,
          h.quiet (h.well.restock p) (onHand_reread hp h.well) rfl rfl⟩
      · intro e he _
        exact ⟨⟨nofun, fun _ hr => Except.error.inj hr ▸ he⟩, h.quiet h.well rfl rfl rfl⟩
    | setQuantity p n => exact (wp_setQuantity hop.1).mpr ⟨rfl, h.take i hfresh hop.2⟩
    | storeProduct p =>
      refine (wp_storeProduct hop).mpr ⟨rfl, h.quiet (h.well.restock p) ?_ rfl rfl⟩
      funext UPC
      rw [onHand_restock]
      split
      · rename_i hUPC
        rw [hUPC]
        exact hfresh.symm
      · rfl
    | storeTransaction t => exact (wp_storeTransaction hop.1).mpr ⟨trivial, h.place hop.2⟩
    | uuid_generate | gmtime => exact wp_exact_perform.mpr ⟨trivial, h.quiet h.well rfl rfl rfl⟩
    | ask question | showOrder t => exact ⟨trivial, h.quiet h.well rfl rfl rfl⟩
  obtain ⟨hanswer, hbooked⟩ := answered_of_wp (P := fun r w' => op.Answered r ∧
    Booked init (w', l ++ [op]) (Function.update taken i (op.takes (taken i)))) hmethod
  exact ⟨_, ⟨rfl, hanswer⟩, hbooked⟩

end Serves

/-- A thread that has ended or is about to print a question. -/
def AtPrompt : ClientM (Trail × Proc) → Prop
  | .call (.ask _) _ | .ret _ | .fail _ => True
  | _ => False

instance : DecidablePred AtPrompt
  | .call (.ask _) _ | .ret _ | .fail _ => isTrue trivial
  | .call (.getUser _) _ | .call (.storeUser _) _ | .call .getProducts _ | .call (.getProduct _) _
  | .call (.setQuantity ..) _ | .call (.storeProduct _) _ | .call (.storeTransaction _) _
  | .call .uuid_generate _ | .call .gmtime _ | .call (.showOrder _) _ => isFalse id

/-- A session rests where its user is asked, and where it ends. -/
theorem rest_of_atPrompt {G : Type} {C : Contract clientSig Exn G} {m : ClientM (Trail × Proc)}
    {g : G} (rest : G → Prop) (hm : AtPrompt m)
    (hask : ∀ question, C.pre g (.ask question) → rest g)
    (h : wp C m g (fun _ => rest) fun _ => rest) : rest g := by
  cases m with
  | ret r => exact h
  | fail e => exact h
  | call op k =>
    cases op with
    | ask question => exact hask question h.1
    | getUser | storeUser | getProducts | getProduct | setQuantity | storeProduct
    | storeTransaction | uuid_generate | gmtime | showOrder => exact hm.elim

/-- Sessions that run at the same time, each call of theirs one step. -/
def clients {ι : Type} (w : World) (sessions : ι → Text × List Text) :
    Pool clientSig Exn (Trail × Proc) (World × Journal) ι :=
  ⟨fun i => session (sessions i).1 (sessions i).2, (w, [])⟩

/-- Nothing is oversold and no decrement is lost in a run in which every stored
number was computed from the number it replaced. -/
theorem stock_of_freshCopies {ι : Type} [Fintype ι] [DecidableEq ι] (w : World)
    (h : WellStocked w.products) (sessions : ι → Text × List Text) (schedule : List ι)
    (hfresh : (clients w sessions).Meets sys.logged FreshCopy schedule) :
    let p := (clients w sessions).run sys.logged schedule
    (∀ UPC, placedUnits p.state.2 UPC ≤ onHand w.products UPC) ∧
      ((∀ i, AtPrompt (p.threads i)) → ∀ UPC,
        onHand p.state.1.products UPC + placedUnits p.state.2 UPC = onHand w.products UPC) := by
  have hstart : Booked (onHand w.products) (clients w sessions).state fun _ : ι => 0 :=
    ⟨h, fun UPC => by simp [clients]⟩
  obtain ⟨taken, hbooked, hthreads⟩ := Pool.run_keeps (serves_booking (onHand w.products)) hstart
    (fun i => booking_session (sessions i).1 (sessions i).2) schedule hfresh
  constructor
  · intro UPC
    have hledger := hbooked.ledger UPC
    omega
  · intro hprompt UPC
    have hnone : ∀ i, taken i = 0 := fun i =>
      rest_of_atPrompt (· = 0) (hprompt i) (fun _ hask => hask) (hthreads i)
    have hledger := hbooked.ledger UPC
    simpa [hnone] using hledger

end OnlineShoppingCenter

namespace OnlineShoppingCenter

open TextCodec EffectProgram

attribute [local instance] posix

/-- Two users want two of three pens each. -/
def rivals : Fin 2 → Text × List Text
  | 0 => ("testuser001".toList,
    ["addtocart 7 2", "cart", "checkout", "y", "y", "y"].map String.toList)
  | 1 => ("testuser003".toList,
    ["addtocart 7 2", "cart", "checkout", "Jane Roe", "", "1 Main St", "", "Starkville", "MS",
      "39759", "USA", "y", "4929", "01/19", "123", "y", "y"].map String.toList)

theorem small_wellStocked : WellStocked smallWorld.products := wellStocked_of_all (by decide +kernel)

/-- The second user logs in while the first one orders, and wants one pen. -/
def patient : Fin 2 → Text × List Text
  | 0 => rivals 0
  | 1 => ("testuser003".toList, ["addtocart 7"].map String.toList)

def patientTurns : List (Fin 2) := List.replicate 12 0 ++ [1, 1] ++ List.replicate 15 0 ++
  List.replicate 10 1

theorem patient_stock_kept :
    placedUnits ((clients smallWorld patient).run sys.logged patientTurns).state.2 7 ≤ 3 ∧
      onHand ((clients smallWorld patient).run sys.logged patientTurns).state.1.products 7 +
        placedUnits ((clients smallWorld patient).run sys.logged patientTurns).state.2 7 = 3 := by
  have hkept := stock_of_freshCopies smallWorld small_wellStocked patient patientTurns
    (by decide +kernel)
  have hthree : onHand smallWorld.products 7 = 3 := by decide +kernel
  rw [← hthree]
  exact ⟨hkept.1 7, hkept.2 (by decide +kernel) 7⟩

/-- The second user fills the cart while the first one's order is not yet placed. -/
def rivalTurns : List (Fin 2) := List.replicate 7 0 ++ List.replicate 7 1 ++
  List.replicate 20 0 ++ List.replicate 35 1

/-- Four of three pens are sold, and one is still on hand. -/
theorem pens_oversold :
    (∀ i, AtPrompt (((clients smallWorld rivals).run sys.logged rivalTurns).threads i)) ∧
      onHand smallWorld.products 7 = 3 ∧
      placedUnits ((clients smallWorld rivals).run sys.logged rivalTurns).state.2 7 = 4 ∧
      onHand ((clients smallWorld rivals).run sys.logged rivalTurns).state.1.products 7 = 1 := by
  decide +kernel

end OnlineShoppingCenter
