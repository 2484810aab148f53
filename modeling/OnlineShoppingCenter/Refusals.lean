import OnlineShoppingCenter.Orders
import OnlineShoppingCenter.SampleData
import OnlineShoppingCenter.SequentialRules

/-!
# What a refused charge leaves

`chargeCreditCard` finalises the order and then charges it item by item. An item
whose quantity is too large ends the loop with an exception, after the order
has been marked and the items before it have been stored.
-/
namespace OnlineShoppingCenter

open TextCodec EffectProgram StorageSystem

variable [Platform]

/-- What a charge has thrown, and the order and the user it leaves. -/
structure Charged where
  thrown : Option Exn
  this : Transaction
  logged_in : User

namespace Transaction

/-- `chargeCreditCard` together with the two objects it assigns to. -/
def charge (this : Transaction) (logged_in : User) : ClientM Charged := do
  let this := this.finalize (← gmtime)
  match ← Prog.attempt (chargeItems this.shopping_cart.cart.toList) with
  | .error e => return ⟨some e, this, logged_in⟩
  | .ok _ =>
    local_storage.storeTransaction this
    let logged_in := { logged_in with
      shopping_cart := {}
      transaction_history := logged_in.transaction_history.addTransaction this }
    local_storage.storeUser logged_in
    return ⟨none, this, logged_in⟩

/-- A caller sees the user, or the exception. -/
theorem chargeCreditCard_eq (this : Transaction) (logged_in : User) :
    this.chargeCreditCard logged_in = (do
      let r ← this.charge logged_in
      match r.thrown with
      | some e => .fail e
      | none => return r.logged_in) := by
  unfold chargeCreditCard charge
  rw [Prog.bind_assoc]
  congr 1
  funext date
  dsimp only
  rw [Prog.bind_eq_attempt, Prog.bind_assoc]
  congr 1
  funext r
  cases r with
  | ok a => simp only [Prog.bind_assoc, Prog.ret_bind, Prog.pure_eq]
  | error e => rfl

/-- No item asks for more than its copy of the product has on hand. -/
def Covered (t : Transaction) : Prop :=
  ∀ e ∈ t.shopping_cart.cart.toList, ¬ e.2.1.quantity < e.2.2

end Transaction

section Frame

variable {w : World} {E : Exn → World → Prop}

theorem wp_storeProduct_frame {p : Product} {Q : Unit → World → Prop}
    (h : ∀ products, Q () { w with products }) : wp db.exact (storeProduct p) w Q E := by
  unfold storeProduct
  split
  · exact h w.products
  · exact wp_writeProduct.mpr (h _)

theorem wp_setQuantity_frame {p : Product} {n : UInt32} {Q : Product → World → Prop}
    (h : ∀ products, Q (p.withQuantity n) { w with products }) :
    wp db.exact (setQuantity p n) w Q E :=
  wp_bind.mpr (wp_storeProduct_frame h)

/-- The loop touches only the products, and throws when a quantity is too large. -/
theorem wp_chargeItems_frame (items : List (SKU × Product × UInt32)) (w : World) :
    wp sys.exact (Transaction.chargeItems items) w
      (fun _ w' => (∀ e ∈ items, ¬ e.2.1.quantity < e.2.2) ∧ ∃ products, w' = { w with products })
      (fun x w' => (∃ e ∈ items, e.2.1.quantity < e.2.2) ∧ x = .runtime_error ∧
        ∃ products, w' = { w with products }) := by
  induction items generalizing w with
  | nil => exact ⟨by simp, w.products, rfl⟩
  | cons item rest ih =>
    obtain ⟨UPC, p, qty⟩ := item
    rw [Transaction.chargeItems]
    split
    · rename_i hqty
      exact ⟨⟨_, List.mem_cons_self, hqty⟩, rfl, w.products, rfl⟩
    · rename_i hqty
      apply wp_bind.mpr
      apply wp_sys.mpr
      apply wp_setQuantity_frame
      intro first
      apply wp_bind.mpr
      apply wp_sys.mpr
      apply wp_storeProduct_frame
      intro second
      apply wp_mono (ih _)
      · rintro _ w' ⟨hrest, products, rfl⟩
        refine ⟨?_, products, rfl⟩
        intro e he
        rcases List.mem_cons.mp he with rfl | he
        · exact hqty
        · exact hrest e he
      · rintro x w' ⟨⟨e, he, hover⟩, hx, products, rfl⟩
        exact ⟨⟨e, List.mem_cons_of_mem _ he, hover⟩, hx, products, rfl⟩

end Frame

/-- A refused charge leaves the databases, the user and the order as they were,
and an order that is final is in the orders database. -/
structure Charged.Clean (r : Charged) (w' : World) (t : Transaction) (u : User) (w : World) :
    Prop where
  refused : r.thrown = some .runtime_error →
    w'.products = w.products ∧ w'.orders = w.orders ∧ w'.users = w.users ∧
      r.logged_in.shopping_cart = u.shopping_cart ∧
        r.logged_in.transaction_history = u.transaction_history ∧ r.this = t
  placed : r.this.is_finalized = true →
    w'.orders[uuid_unparse_lower r.this.transaction_id]? = some (orderEntry r.this)

section Charge

variable {w : World} {t : Transaction} {u : User}

/-- A charge returns and stores the order, or throws when a quantity is too large. -/
theorem run_charge (w : World) (t : Transaction) (u : User) :
    ∃ r w', run sys (t.charge u) w = (.ok r, w') ∧ r.this = t.finalize (w.clock w.ticks) ∧
      (t.Covered ∧ r.thrown = none ∧
          w'.orders[uuid_unparse_lower r.this.transaction_id]? = some (orderEntry r.this) ∨
        ¬ t.Covered ∧ r.thrown = some .runtime_error) := by
  apply exists_run_ok
  apply wp_bind.mpr
  apply wp_exact_perform.mpr
  apply wp_bind.mpr
  apply wp_attempt.mpr
  apply wp_mono (wp_chargeItems_frame _ _)
  · rintro _ w' ⟨hcovered, products, rfl⟩
    apply wp_bind.mpr
    apply wp_sys.mpr
    apply (wp_storeTransaction rfl).mpr
    apply wp_bind.mpr
    apply wp_sys.mpr
    apply wp_storeUser.mpr
    exact ⟨rfl, .inl ⟨hcovered, rfl, getElem?_putOrder_self _ _⟩⟩
  · rintro e w' ⟨⟨item, hitem, hover⟩, rfl, products, rfl⟩
    exact ⟨rfl, .inr ⟨fun hcovered => hcovered item hitem hover, rfl⟩⟩

/-- Whatever the clock says, a charge is clean exactly when it refuses no item:
the order is marked before the first quantity is looked at. -/
theorem charge_clean_iff [Nontrivial Tm] (t : Transaction) (u : User) (w : World) :
    (∀ clock r w', run sys (t.charge u) { w with clock } = (.ok r, w') →
        r.Clean w' t u { w with clock }) ↔ t.Covered := by
  constructor
  · intro hclean
    by_contra hover
    obtain ⟨date, hdate⟩ := exists_ne t.transaction_date
    obtain ⟨r, w', hrun, hthis, hend⟩ := run_charge { w with clock := fun _ => date } t u
    rcases hend with ⟨hcovered, -⟩ | ⟨-, hthrown⟩
    · exact hover hcovered
    · have hsame := ((hclean _ r w' hrun).refused hthrown).2.2.2.2.2
      rw [hthis] at hsame
      exact hdate (congrArg Transaction.transaction_date hsame)
  · intro hcovered clock r w' hrun
    obtain ⟨r₀, w₀, hrun₀, -, hend⟩ := run_charge { w with clock } t u
    rw [hrun] at hrun₀
    cases hrun₀
    rcases hend with ⟨-, hthrown, hplaced⟩ | ⟨hover, -⟩
    · constructor
      · intro hrefused
        rw [hthrown] at hrefused
        cases hrefused
      · exact fun _ => hplaced
    · exact absurd hcovered hover

end Charge

end OnlineShoppingCenter

namespace OnlineShoppingCenter

open TextCodec EffectProgram StorageSystem

attribute [local instance] posix

theorem posix_dates : Nontrivial Tm := ⟨[], ['x'], by simp⟩

/-- A product of the sample databases, as it was read when `quantity` were left. -/
def copyOf (UPC : SKU) (quantity : UInt32) : Product where
  is_set := true
  UPC := UPC
  quantity := quantity
  parts_set := P_ALL_SET

/-- One staple, and more corn than there is. -/
def overdrawn : Transaction :=
  .new ((({} : ShoppingCart).set (copyOf 653562346025 89) 1).set (copyOf 978091685754 7) 8)
    (sampleId 0)

theorem sample_charge_clean :
    (∀ clock r w', run sys (overdrawn.charge {}) { sampleWorld with clock } = (.ok r, w') →
        r.Clean w' overdrawn {} { sampleWorld with clock }) ↔ overdrawn.Covered :=
  letI := posix_dates
  charge_clean_iff _ _ _

/-- The staple is taken from the stock, and the order is final without being stored. -/
theorem overdrawn_charge :
    ∃ r w', run sys (overdrawn.charge {}) sampleWorld = (.ok r, w') ∧
      ¬ r.Clean w' overdrawn {} sampleWorld ∧ r.thrown = some .runtime_error ∧
        (w'.products["653562346025".toList]?.bind fun e => e .on_hand) = some "88".toList ∧
          overdrawn.is_finalized = false ∧ r.this.is_finalized = true ∧
            w'.orders[uuid_unparse_lower r.this.transaction_id]? = none := by
  have hstock : ((run sys (overdrawn.charge {}) sampleWorld).2.products["653562346025".toList]?.bind
      fun e => e .on_hand) = some "88".toList := by
    decide +kernel
  have horder : ((run sys (overdrawn.charge {}) sampleWorld).2.orders[
      uuid_unparse_lower (sampleId 0)]?).isNone = true := by
    decide +kernel
  have hover : ¬ overdrawn.Covered := by
    unfold Transaction.Covered
    decide +kernel
  obtain ⟨r, w', hrun, hthis, hend⟩ := run_charge sampleWorld overdrawn {}
  rw [hrun] at hstock horder
  obtain ⟨hcovered, -⟩ | ⟨-, hthrown⟩ := hend
  · exact absurd hcovered hover
  have hfinal : r.this.is_finalized = true := by rw [hthis]; rfl
  have hunplaced : w'.orders[uuid_unparse_lower r.this.transaction_id]? = none := by
    rw [hthis]
    exact Option.isNone_iff_eq_none.mp horder
  refine ⟨r, w', hrun, ?_, hthrown, hstock, rfl, hfinal, hunplaced⟩
  intro hclean
  have hplaced := hclean.placed hfinal
  rw [hunplaced] at hplaced
  cases hplaced

end OnlineShoppingCenter
