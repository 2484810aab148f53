import OnlineShoppingCenter.InitialShop
import OnlineShoppingCenter.IntegrityRules

/-!
# Referential integrity

Sessions keep to the contract of their storage calls whatever they are
answered, so that from the databases that `initDB` leaves every interleaving of
sessions passes through good databases only.
-/
namespace OnlineShoppingCenter

open TextCodec ColumnFamilies EffectProgram StorageSystem

variable [Platform]

/-- Sessions that touch orders and products of the shop only. -/
def intactSpec (shop : Shop) : SessionSpec (intact shop) where
  holds := Intact shop
  charging g u t items := Intact shop g u (.order t) ∧ t.is_finalized = true ∧
    ∀ e ∈ items, e.2.1.UPC ∈ shop.catalogue
  rest _ := True
  failed _ _ := True
  okQty _ := True
  rest_of_holds _ := trivial
  failed_of_holds _ _ := trivial
  rest_of_refused _ := trivial
  forget h := h.forget
  ask h := wp_request trivial (fun _ _ hg _ => h.mono hg) fun _ _ _ _ => trivial
  showOrder h := wp_request trivial (fun _ _ hg _ => h.mono hg) fun _ _ _ _ => trivial
  getProducts h := wp_request trivial (fun _ _ hg _ => h.mono hg) fun _ _ _ _ => trivial
  getProduct := by
    intro g u UPC h
    refine wp_request trivial ?_ ?_
    · intro p g' hg ⟨hUPC, hp, hset⟩
      rw [← hp] at hUPC
      exact ⟨⟨h.name, h.backed.mono hg, hUPC⟩, hset⟩
    · intro e g' hg ⟨_, he⟩
      subst he
      exact ⟨h.mono hg, by decide⟩
  setItem := by
    intro g u p qty h _ _ _
    have h' : Intact shop g { u with shopping_cart := u.shopping_cart.set p qty } .idle :=
      ⟨h.name, ⟨h.backed.orders, h.backed.cart.set h.task qty⟩, trivial⟩
    exact wp_storeUser_intact h' fun _ => id
  removeItem := by
    intro g u UPC h _
    have h' : Intact shop g { u with shopping_cart := u.shopping_cart.remove UPC } .idle :=
      ⟨h.name, ⟨h.backed.orders, h.backed.cart.remove UPC⟩, trivial⟩
    exact wp_storeUser_intact h' fun _ => id
  removeCopy := by
    intro g u p h _ _ _
    have h' : Intact shop g { u with shopping_cart := u.shopping_cart.remove p.UPC } (.copy p) :=
      ⟨h.name, ⟨h.backed.orders, h.backed.cart.remove p.UPC⟩, h.task⟩
    exact wp_storeUser_intact h' fun _ => id
  emptyCart := by
    intro g u h _
    have h' : Intact shop g { u with shopping_cart := {} } .idle :=
      ⟨h.name, ⟨h.backed.orders, Shop.cartKnown_empty⟩, trivial⟩
    exact wp_storeUser_intact h' fun _ => id
  buyCart := by
    intro g u h _ _
    exact wp_request trivial (fun _ _ hg _ => ⟨h.name, h.backed.mono hg, h.backed.cart⟩)
      fun _ _ _ _ => trivial
  setAddress h := ⟨h.name, h.backed, h.task⟩
  setPayment h := ⟨h.name, h.backed, h.task⟩
  storeAddress := by
    intro g u a addr h _ _
    have h' : Intact shop g { u with shipping_address := addr } a :=
      ⟨h.name, ⟨h.backed.orders, h.backed.cart⟩, h.task⟩
    exact wp_storeUser_intact h' fun _ => id
  storePayment := by
    intro g u a cc h _ _
    have h' : Intact shop g { u with payment_info := cc } a :=
      ⟨h.name, ⟨h.backed.orders, h.backed.cart⟩, h.task⟩
    exact wp_storeUser_intact h' fun _ => id
  startCharge := by
    intro g u t h hp
    refine wp_request trivial ?_ fun _ _ _ _ => trivial
    intro date g' hg _
    refine ⟨⟨h.name, h.backed.mono hg, h.task⟩, rfl, ?_⟩
    intro e he
    have hcart : u.shopping_cart.cart[e.1]? = some (e.2.1, e.2.2) := by
      rw [← hp.loc.1.cart]
      exact ShoppingCart.mem_cart.mp he
    rw [(hp.user.cart _ _ _ hcart).1]
    apply h.backed.cart
    rw [Std.ExtTreeMap.mem_iff_isSome_getElem?, hcart]
    rfl
  chargeItem := by
    intro g u t UPC p qty rest ⟨h, hfinal, hitems⟩ _ _
    have hp : p.UPC ∈ shop.catalogue := hitems (UPC, p, qty) (by simp)
    refine wp_request hp ?_ fun _ _ _ _ => trivial
    rintro p' g' hg rfl
    refine wp_request (show (p.withQuantity _).UPC ∈ shop.catalogue from hp) ?_
      fun _ _ _ _ => trivial
    intro _ g'' hg' _
    exact ⟨h.mono (hg.trans hg'), hfinal, fun e he => hitems e (by simp [he])⟩
  finishCharge := by
    intro g u t ⟨h, hfinal, _⟩
    refine wp_request h.task ?_ fun _ _ _ _ => trivial
    intro _ g' hg hplaced
    have h' : Intact shop g' { u with
        shopping_cart := {}
        transaction_history := u.transaction_history.addTransaction t } .idle := by
      refine ⟨h.name, ⟨?_, Shop.cartKnown_empty⟩, trivial⟩
      intro id hid
      rcases finalizedIds_addTransaction hid with hid | ⟨rfl, -⟩
      · exact hg (h.backed.orders id hid)
      · exact hplaced hfinal
    exact wp_storeUser_intact h' fun _ => id

section Sessions

variable {shop : Shop} {g : Set Uuid}

theorem intact_login (username : Text) : (intactSpec shop).Login username g :=
  wp_request trivial (fun _ _ _ h => ⟨⟨h.2.name, h.2.backed, trivial⟩, h.2.sound⟩)
    fun _ _ _ _ => trivial

/-- A session makes only the calls its contract allows. -/
theorem intact_session (username : Text) (lines : List Text) :
    wp (integrity shop) (fine (session username lines)) g (fun _ _ => True) (fun _ _ => True) :=
  wp_fine (wp_mono ((intactSpec shop).keeps_session lines (intact_login username)
    fun _ => trivial) (fun _ _ _ => trivial) fun _ _ _ => trivial)

end Sessions

/-- The databases at some point of some sessions that run in turns, each turn
one database call, from the databases that `initDB` leaves. -/
def interleaved {ι : Type} [DecidableEq ι] (w : World) (sessions : ι → Text × List Text)
    (schedule : List ι) : World :=
  (Pool.run db ⟨fun i => fine (session (sessions i).1 (sessions i).2), initDB w⟩ schedule).state

/-- Sessions one after the other are one way to take turns. -/
theorem exists_schedule_take (w : World) (sessions : List (Text × List Text)) {n : Nat}
    (hn : n ≤ sessions.length) :
    ∃ schedule, let p : Pool storageSig Exn (Trail × Proc) World (Fin sessions.length) :=
        Pool.run db ⟨fun i => fine (session sessions[i].1 sessions[i].2), initDB w⟩ schedule
      p.state = (runSessions (initDB w) (sessions.take n)).1 ∧
        ∀ i : Fin sessions.length, n ≤ i.val →
          p.threads i = fine (session sessions[i].1 sessions[i].2) := by
  induction n with
  | zero => exact ⟨[], rfl, fun _ _ => rfl⟩
  | succ n ih =>
    obtain ⟨schedule, hstate, hthreads⟩ := ih (by omega)
    have hlt : n < sessions.length := by omega
    obtain ⟨turns, hturns⟩ := Pool.exists_run_alone db (hthreads ⟨n, hlt⟩ (le_refl n))
    refine ⟨schedule ++ List.replicate turns ⟨n, hlt⟩, ?_⟩
    dsimp only
    rw [Pool.run_append, hturns]
    constructor
    · have htake : sessions.take (n + 1) = sessions.take n ++ [sessions[n]] := by simp
      dsimp only
      rw [hstate, htake, runSessions, runSessions, List.foldl_append]
      simp only [List.foldl_cons, List.foldl_nil, runSession]
      rw [(run_logged sys _ _ []).2]
      exact congrArg Prod.snd (run_interp (S := clientSig) db Call.method _ _)
    · intro i hi
      have hne : i ≠ ⟨n, hlt⟩ := by
        rintro rfl
        simp at hi
      dsimp only
      rw [Function.update_of_ne hne]
      exact hthreads i (by omega)

theorem runSessions_interleaved (w : World) (sessions : List (Text × List Text)) :
    ∃ schedule : List (Fin sessions.length),
      interleaved w (fun i => sessions[i]) schedule = (runSessions (initDB w) sessions).1 := by
  obtain ⟨schedule, hstate, -⟩ := exists_schedule_take w sessions (le_refl _)
  rw [List.take_length] at hstate
  exact ⟨schedule, hstate⟩

section Interleaved

variable {ι : Type} [DecidableEq ι] (w : World) (sessions : ι → Text × List Text)
  (schedule : List ι)

/-- Every interleaving passes through good databases. -/
theorem good_interleaved : Good initShop (interleaved w sessions schedule) := by
  have h := Pool.run_keeps
    (p := ⟨fun i => fine (session (sessions i).1 (sessions i).2), initDB w⟩)
    (g := fun _ => ∅) serves_integrity ⟨good_initDB w, fun _ => Set.empty_subset _⟩
    (fun i => intact_session (sessions i).1 (sessions i).2) schedule (Pool.meets_true _ _ _)
  obtain ⟨g, hgood, -⟩ := h
  exact hgood.1

/-- Item lines whose products have an entry. -/
def ItemsStored (w : World) (items : List Text) : Prop :=
  ∀ item ∈ items, ∃ UPC qty, parseItem item = .ok (UPC, qty) ∧ to_string UPC.toNat ∈ w.products

/-- Every id in an order list and every SKU in a cart or an order has an entry. -/
structure Referential (w : World) : Prop where
  orders : ∀ (name : Text) e, w.users[name]? = some e → ∀ line ∈ split (get e .orders []) '\n',
    ∃ id, uuid_parse line = some id ∧ uuid_unparse_lower id ∈ w.orders
  carts : ∀ (name : Text) e, w.users[name]? = some e →
    ItemsStored w (split (get e .items_in_cart []) '\n')
  items : ∀ (name : Text) e, w.orders[name]? = some e → name ≠ kDefault →
    ItemsStored w (split (get e .items []) '\n')

theorem Good.itemsStored {shop : Shop} {w : World} (h : Good shop w) {items : List Text}
    (hitems : shop.ItemsKnown items) : ItemsStored w items := by
  intro item hitem
  obtain ⟨UPC, qty, hparse, hUPC⟩ := hitems item hitem
  exact ⟨UPC, qty, hparse, (h.catalogue UPC).mpr hUPC⟩

theorem Good.referential {shop : Shop} {w : World} (h : Good shop w) : Referential w where
  orders name e he := (h.users name e he).orders
  carts := by
    intro name e he
    cases hcart : e .items_in_cart with
    | none =>
      intro item hitem
      simp [StorageSystem.get, hcart] at hitem
    | some t =>
      have hlines := h.itemsStored (h.users name e he).cart
      simpa [cartLines, StorageSystem.get, hcart] using hlines
  items name e he hne := h.itemsStored (h.orders name e he hne).items

/-- Whatever the sessions and wherever they are stopped. -/
theorem referential_kept : Referential (interleaved w sessions schedule) :=
  (good_interleaved w sessions schedule).referential

/-- A login is refused exactly for the names that have no entry. -/
theorem Good.refused_iff {shop : Shop} {w : World} (h : Good shop w) (username : Text) :
    (run db (getUser username) w).1 = .error .system_error ↔ username ∉ shop.accounts := by
  constructor
  · intro hrefused
    obtain ⟨g, -, hend⟩ := wp_run implements_integrity ⟨h, subset_rfl⟩ (intact_getUser username)
    rw [hrefused] at hend
    rcases hend.2 with ⟨hnot, -⟩ | ⟨-, he | he⟩
    · exact hnot
    · cases he
    · cases he
  · intro hnot
    have hnone : openEntry w.users username = none := by
      rw [h.openUser]
      exact Database.getElem?_eq_none (mt (h.accounts username).mp hnot)
    have hwp : wp db.exact (getUser username) w (fun _ _ => False) fun e _ => e = .system_error := by
      rw [getUser_eq, wp_bind, wp_openUser, hnone]
      rfl
    rw [wp_exact] at hwp
    cases hr : (run db (getUser username) w).1 with
    | ok u =>
      rw [hr] at hwp
      exact hwp.elim
    | error e =>
      rw [hr] at hwp
      exact congrArg Except.error hwp

/-- Only the store's own entry lets in a name that is no user's. -/
theorem login_only_users_iff (username : Text) :
    ((run db (getUser username) (interleaved w sessions schedule)).1 ≠ .error .system_error →
      username ∈ initUsers.map Prod.fst) ↔ username ≠ kDefault := by
  have hdefault : kDefault ∉ initUsers.map Prod.fst := by decide +kernel
  rw [ne_eq, (good_interleaved w sessions schedule).refused_iff, not_not]
  constructor
  · rintro hlogin rfl
    exact hdefault (hlogin (.inl rfl))
  · rintro hne (rfl | hmem)
    · exact absurd rfl hne
    · exact hmem

end Interleaved

end OnlineShoppingCenter

namespace OnlineShoppingCenter

open TextCodec ColumnFamilies EffectProgram StorageSystem

attribute [local instance] posix

/-- `default` logs in to the databases of `initDB`. -/
theorem default_logs_in :
    ((run db (getUser kDefault) sampleWorld).1.toOption.isSome = true) ∧
      kDefault ∉ initUsers.map Prod.fst := by decide +kernel

end OnlineShoppingCenter
