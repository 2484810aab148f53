import OnlineShoppingCenter.IntegrityRules
import OnlineShoppingCenter.Ledger
import OnlineShoppingCenter.SampleData

/-!
# Sessions side by side

A session writes to the record of its own user, and to orders whose ids it has
drawn itself and not used before. So, in any order of turns and wherever all of
them stop, the record of nobody else is touched.
-/
namespace OnlineShoppingCenter

open TextCodec ColumnFamilies EffectProgram StorageSystem

variable [Platform]

/-- The writes of a session that has drawn these ids and not used them. -/
def Own (username : Text) (ids : Set Uuid) : DbCall → Prop
  | .writeUser name _ => name = username
  | .writeOrder name batch => ∃ t : Transaction,
    t.transaction_id ∈ ids ∧ name = uuid_unparse_lower t.transaction_id ∧ batch = orderBatch t
  | .openUser _ | .openProduct _ | .openOrder _ | .listProducts | .writeProduct .. | .uuid_generate
  | .gmtime => True

/-- The ids at hand after a call. -/
def atHand (ids : Set Uuid) : (op : DbCall) → op.Ret → Set Uuid
  | .uuid_generate, id => insert id ids
  | .writeOrder name _, _ => {id ∈ ids | uuid_unparse_lower id ≠ name}
  | .openUser _, _ | .openProduct _, _ | .openOrder _, _ | .listProducts, _ | .writeUser .., _
  | .writeProduct .., _ | .gmtime, _ => ids

/-- The calls that another session may be in the way of. -/
def DbCall.Refusable : DbCall → Prop
  | .writeOrder .. => True
  | .openUser _ | .openProduct _ | .openOrder _ | .listProducts | .writeUser .. | .writeProduct ..
  | .uuid_generate | .gmtime => False

/-- A call is answered, or refused without effect. -/
def own (username : Text) : Contract storageSig Exn (Set Uuid) where
  pre := Own username
  post ids op r ids' := (∃ a, r = .ok a ∧ ids' = atHand ids op a) ∨
    (op.Refusable ∧ r = .error .undefined ∧ ids' = ids)

namespace StorageSystem

variable {username : Text} {ids : Set Uuid}

theorem own_query {op : DbCall} {Q : op.Ret → Set Uuid → Prop} {E : Exn → Set Uuid → Prop}
    (hop : Own username ids op) (h : ∀ a, Q a (atHand ids op a))
    (hrefused : op.Refusable → E .undefined ids) : wp (own username) (query op) ids Q E := by
  apply wp_perform.mpr
  refine ⟨hop, ?_, ?_⟩
  · rintro a _ (⟨_, ⟨⟩, rfl⟩ | ⟨_, ⟨⟩, _⟩)
    exact h a
  · rintro e _ (⟨_, ⟨⟩, _⟩ | ⟨hrefusable, ⟨⟩, rfl⟩)
    exact hrefused hrefusable

theorem own_getProduct (UPC : SKU) :
    wp (own username) (getProduct UPC) ids
      (fun p ids' => ids' = ids ∧ p.UPC = UPC ∧ p.is_set = true)
      (fun e ids' => ids' = ids ∧ e ≠ .runtime_error) := by
  rw [getProduct_eq]
  refine wp_bind.mpr (own_query trivial ?_ False.elim)
  intro r
  cases r with
  | none => exact ⟨rfl, by decide⟩
  | some entry =>
    refine wp_bind.mpr (wp_ofExcept.mpr ?_)
    constructor
    · intro p hp
      refine wp_bind.mpr (own_query trivial ?_ False.elim)
      exact fun _ => ⟨rfl, decodeProduct_ok hp⟩
    · exact fun e he => ⟨rfl, decodeProduct_error he⟩

theorem own_loadItems (items : List Text) {c : ShoppingCart} (hc : c.Sound) :
    wp (own username) (loadItems items c) ids (fun c' ids' => ids' = ids ∧ c'.Sound)
      (fun _ ids' => ids' = ids) := by
  induction items generalizing c with
  | nil => exact ⟨rfl, hc⟩
  | cons item rest ih =>
    refine wp_bind.mpr (wp_ofExcept.mpr ⟨?_, fun _ _ => rfl⟩)
    rintro ⟨UPC, qty⟩ -
    refine wp_bind.mpr (wp_mono (own_getProduct UPC) ?_ fun _ _ h => h.1)
    rintro p _ ⟨rfl, -, hset⟩
    rw [ShoppingCart.addProductQty_local]
    exact ih (hc.set hset qty)

theorem own_getTransaction (id : Uuid) :
    wp (own username) (getTransaction id) ids (fun _ ids' => ids' = ids)
      (fun _ ids' => ids' = ids) := by
  rw [getTransaction_eq]
  refine wp_bind.mpr (own_query trivial ?_ False.elim)
  intro r
  cases r with
  | none => rfl
  | some entry =>
    refine wp_bind.mpr (wp_mono (own_loadItems _ ShoppingCart.sound_empty) ?_ fun _ _ h => h)
    rintro cart _ ⟨rfl, -⟩
    exact wp_ofExcept.mpr ⟨fun _ _ => rfl, fun _ _ => rfl⟩

theorem own_loadOrders (lines : List Text) (tid : Uuid) (orders : TransactionHistory) :
    wp (own username) (loadOrders lines tid orders) ids (fun _ ids' => ids' = ids)
      (fun _ ids' => ids' = ids) := by
  induction lines generalizing tid orders with
  | nil => rfl
  | cons line rest ih =>
    refine wp_bind.mpr (wp_mono (own_getTransaction _) ?_ fun _ _ h => h)
    rintro t _ rfl
    exact ih _ _

theorem own_storeUser {u : User} (hu : u.user_name = username) {Q : Unit → Set Uuid → Prop}
    {E : Exn → Set Uuid → Prop} (h : Q () ids) : wp (own username) (storeUser u) ids Q E :=
  own_query hu (fun _ => h) False.elim

theorem own_loadRest (entry : Entry UserKey) {user : User} (hname : user.user_name = username)
    (haddr : user.shipping_address.Whole) (hcart : user.shopping_cart = {}) :
    wp (own username) (loadRest entry user) ids
      (fun u ids' => ids' = ids ∧ u.user_name = username ∧ u.Sound)
      (fun _ ids' => ids' = ids) := by
  have htail : ∀ pay, wp (own username)
      (do
        let cart ← loadItems (cartLines entry) (withPayment user pay).shopping_cart
        return { withPayment user pay with shopping_cart := cart }) ids
      (fun u ids' => ids' = ids ∧ u.user_name = username ∧ u.Sound)
      (fun _ ids' => ids' = ids) := by
    intro pay
    have hempty : (withPayment user pay).shopping_cart.Sound := by
      change user.shopping_cart.Sound
      rw [hcart]
      exact ShoppingCart.sound_empty
    refine wp_bind.mpr (wp_mono (own_loadItems _ hempty) ?_ fun _ _ h => h)
    rintro cart _ ⟨rfl, hsound⟩
    exact ⟨rfl, hname, haddr, hsound⟩
  refine wp_bind.mpr (own_storeUser hname ?_)
  refine wp_bind.mpr (wp_ofExcept.mpr ⟨?_, fun _ _ => rfl⟩)
  intro pay _
  cases pay with
  | none => exact htail none
  | some cc =>
    have hpaid : User.user_name { user with payment_info := cc } = username := hname
    exact wp_bind.mpr (wp_bind.mpr (own_storeUser hpaid (htail (some cc))))

theorem own_getUser :
    wp (own username) (getUser username) ids
      (fun u ids' => ids' = ids ∧ u.user_name = username ∧ u.Sound)
      (fun _ ids' => ids' = ids) := by
  rw [getUser_eq]
  refine wp_bind.mpr (own_query trivial ?_ False.elim)
  intro r
  cases r with
  | none => rfl
  | some entry =>
    refine wp_bind.mpr (wp_mono (own_loadOrders _ _ _) ?_ fun _ _ h => h)
    rintro orders _ rfl
    refine wp_bind.mpr (wp_ofExcept.mpr ⟨?_, fun _ _ => rfl⟩)
    intro zip _
    refine own_loadRest entry rfl ?_ rfl
    intro hset
    simpa [addressOf] using hset

end StorageSystem

/-- What the methods are to a session. -/
def Call.Own (username : Text) (ids : Set Uuid) : Call → Prop
  | .getUser name => name = username
  | .storeUser u => u.user_name = username
  | .storeTransaction t => t.is_finalized = true → t.transaction_id ∈ ids
  | .getProducts | .getProduct _ | .setQuantity .. | .storeProduct _ | .uuid_generate | .gmtime
  | .ask _ | .showOrder _ => True

/-- What a session relies on in the answers, and what ids it has then. -/
def Call.Kept (ids : Set Uuid) : (op : Call) → Except Exn op.Ret → Set Uuid → Prop
  | .getUser username, r, ids' => ids' = ids ∧ ∀ u, r = .ok u → u.user_name = username ∧ u.Sound
  | .getProduct _, r, ids' => ids' = ids ∧ (∀ p, r = .ok p → p.is_set = true) ∧
    ∀ e, r = .error e → e ≠ .runtime_error
  | .uuid_generate, r, ids' => ∀ id, r = .ok id → id ∈ ids'
  | .storeTransaction _, _, _ => True
  | .storeUser _, _, ids' | .getProducts, _, ids' | .setQuantity .., _, ids'
  | .storeProduct _, _, ids' | .gmtime, _, ids' | .ask _, _, ids' | .showOrder _, _, ids' =>
    ids' = ids

def ownCalls (username : Text) : Contract clientSig Exn (Set Uuid) where
  pre := Call.Own username
  post ids op r ids' := op.Kept ids r ids'

section Client

variable {username : Text} {ids : Set Uuid}

theorem own_storeProduct (p : Product) {Q : Unit → Set Uuid → Prop} {E : Exn → Set Uuid → Prop}
    (h : Q () ids) : wp (own username) (storeProduct p) ids Q E := by
  unfold storeProduct
  split
  · exact h
  · exact own_query trivial (fun _ => h) False.elim

/-- Every method keeps to its user and its ids. -/
theorem own_method (op : Call) (hop : op.Own username ids) :
    wp (own username) op.method ids (fun a ids' => op.Kept ids (.ok a) ids')
      (fun e ids' => op.Kept ids (.error e) ids') := by
  cases op with
  | getUser name =>
    cases hop
    refine wp_mono own_getUser ?_ ?_
    · rintro u _ ⟨rfl, hu⟩
      refine ⟨rfl, ?_⟩
      rintro _ ⟨⟩
      exact hu
    · rintro e _ rfl
      refine ⟨rfl, ?_⟩
      rintro _ ⟨⟩
  | storeUser u => exact own_storeUser hop rfl
  | getProducts =>
    refine wp_bind.mpr (own_query trivial ?_ False.elim)
    exact fun _ => wp_ofExcept.mpr ⟨fun _ _ => rfl, fun _ _ => rfl⟩
  | getProduct UPC =>
    refine wp_mono (own_getProduct UPC) ?_ ?_
    · rintro p _ ⟨rfl, -, hset⟩
      refine ⟨rfl, ?_, ?_⟩
      · rintro _ ⟨⟩
        exact hset
      · rintro _ ⟨⟩
    · rintro e _ ⟨rfl, he⟩
      refine ⟨rfl, ?_, ?_⟩
      · rintro _ ⟨⟩
      · rintro _ ⟨⟩
        exact he
  | setQuantity p n => exact wp_bind.mpr (own_storeProduct _ rfl)
  | storeProduct p => exact own_storeProduct p rfl
  | storeTransaction t =>
    change wp (own username) (storeTransaction t) ids (fun _ _ => True) fun _ _ => True
    unfold storeTransaction
    split
    · trivial
    · rename_i hfinal
      rw [Bool.not_eq_false] at hfinal
      exact own_query ⟨t, hop hfinal, rfl, rfl⟩ (fun _ => trivial) fun _ => trivial
  | uuid_generate =>
    refine own_query trivial ?_ False.elim
    rintro id _ ⟨⟩
    exact Set.mem_insert _ _
  | gmtime => exact own_query trivial (fun _ => rfl) False.elim
  | ask question => exact rfl
  | showOrder t => exact rfl

theorem wp_own {op : Call} {Q : op.Ret → Set Uuid → Prop} {E : Exn → Set Uuid → Prop}
    (hop : op.Own username ids) (h : ∀ r ids', op.Kept ids r ids' → Ends Q E r ids') :
    wp (ownCalls username) (request op) ids Q E := by
  apply wp_perform.mpr
  refine ⟨hop, ?_, ?_⟩
  · exact fun a ids' ha => h (.ok a) ids' ha
  · exact fun e ids' he => h (.error e) ids' he

/-- The user of the session, and the id of its order. -/
structure Owns (username : Text) (ids : Set Uuid) (u : User) (a : Task) : Prop where
  name : u.user_name = username
  order : ∀ t, a = .order t → t.transaction_id ∈ ids

/-- A call that leaves the ids as they are. -/
theorem wp_own_same {op : Call} {u : User} {a : Task} (hop : op.Own username ids)
    (hsame : ∀ r ids', op.Kept ids r ids' → ids' = ids) (h : Owns username ids u a) :
    wp (ownCalls username) (request op) ids (fun _ ids' => Owns username ids' u a)
      fun _ _ => True := by
  refine wp_own hop ?_
  intro r ids' hr
  obtain rfl := hsame r ids' hr
  cases r with
  | ok _ => exact h
  | error _ => trivial

theorem Owns.idle {u : User} (h : u.user_name = username) : Owns username ids u .idle :=
  ⟨h, fun t ht => by cases ht⟩

def ownSpec (username : Text) : SessionSpec (ownCalls username) where
  holds := Owns username
  charging ids u t _ := u.user_name = username ∧ t.transaction_id ∈ ids
  rest _ := True
  failed _ _ := True
  okQty _ := True
  rest_of_holds _ := trivial
  failed_of_holds _ _ := trivial
  rest_of_refused _ := trivial
  forget h := Owns.idle h.name
  ask h := wp_own_same trivial (fun _ _ => id) h
  showOrder h := wp_own_same trivial (fun _ _ => id) h
  getProducts h := wp_own_same trivial (fun _ _ => id) h
  getProduct := by
    intro ids u UPC h
    refine wp_own trivial ?_
    rintro r _ ⟨rfl, hok, herr⟩
    cases r with
    | ok p => exact ⟨⟨h.name, fun t ht => by cases ht⟩, hok p rfl⟩
    | error e => exact ⟨h, herr e rfl⟩
  setItem h _ _ _ := wp_own_same h.name (fun _ _ => id) (Owns.idle h.name)
  removeItem h _ := wp_own_same h.name (fun _ _ => id) (Owns.idle h.name)
  removeCopy h _ _ _ := wp_own_same h.name (fun _ _ => id) ⟨h.name, fun t ht => by cases ht⟩
  emptyCart h _ := wp_own_same h.name (fun _ _ => id) (Owns.idle h.name)
  buyCart := by
    intro ids u h _ _
    refine wp_own trivial ?_
    intro r ids' hr
    cases r with
    | ok newid =>
      refine ⟨h.name, ?_⟩
      rintro _ ⟨⟩
      exact hr newid rfl
    | error e => trivial
  setAddress := by
    intro ids u t addr h
    refine ⟨h.name, ?_⟩
    rintro _ ⟨⟩
    exact h.order t rfl
  setPayment := by
    intro ids u t cc h
    refine ⟨h.name, ?_⟩
    rintro _ ⟨⟩
    exact h.order t rfl
  storeAddress h _ _ := wp_own_same h.name (fun _ _ => id) ⟨h.name, h.order⟩
  storePayment h _ _ := wp_own_same h.name (fun _ _ => id) ⟨h.name, h.order⟩
  startCharge := by
    intro ids u t h _
    refine wp_own trivial ?_
    rintro r _ rfl
    cases r with
    | ok date => exact ⟨h.name, h.order t rfl⟩
    | error e => trivial
  chargeItem := by
    intro ids u t UPC p qty rest h _ _
    refine wp_own trivial ?_
    rintro r _ rfl
    cases r with
    | error e => trivial
    | ok p' =>
      refine wp_own trivial ?_
      rintro r _ rfl
      cases r with
      | ok _ => exact h
      | error e => trivial
  finishCharge := by
    intro ids u t h
    refine wp_own (fun _ => h.2) ?_
    intro r ids' _
    cases r with
    | error e => trivial
    | ok _ => exact wp_own_same h.1 (fun _ _ => id) (Owns.idle h.1)

theorem own_session (lines : List Text) :
    wp (own username) (fine (session username lines)) ids (fun _ _ => True) (fun _ _ => True) := by
  have hlogin : (ownSpec username).Login username ids := by
    refine wp_own rfl ?_
    rintro r _ ⟨rfl, hr⟩
    cases r with
    | ok u => exact ⟨Owns.idle (hr u rfl).1, (hr u rfl).2⟩
    | error e => trivial
  have hsession := (ownSpec username).keeps_session lines hlogin fun _ => trivial
  refine wp_interp (fun op _ hop => own_method op hop) (wp_mono hsession ?_ ?_)
  · exact fun _ _ _ => trivial
  · exact fun _ _ _ => trivial

end Client

theorem db_answers (op : DbCall) (w : World) : ∃ a, (db op w).1 = .ok a := by
  cases op with
  | openUser | openProduct | openOrder | listProducts | uuid_generate | gmtime => exact ⟨_, rfl⟩
  | writeUser | writeProduct | writeOrder =>
    simp only [db, Database.store_eq_put]
    exact ⟨_, rfl⟩

section Interleaved

variable {ι : Type} [DecidableEq ι]

/-- The records of the users that are not logged in. -/
def OthersKept (username : ι → Text) (start w : World) : Prop :=
  ∀ (name : Text) e, (∀ i, name ≠ username i) → start.users[name]? = some e →
    w.users[name]? = some e

theorem serves_others (username : ι → Text) (start : World) :
    Serves db (fun i => own (username i)) (fun w _ => OthersKept username start w)
      fun _ _ => True := by
  intro i op w ids h _ hop
  obtain ⟨a, ha⟩ := db_answers op w
  refine ⟨_, .inl ⟨a, ha, rfl⟩, ?_⟩
  intro name e hname hstart
  have hold := h name e hname hstart
  cases op with
  | openUser | openProduct | openOrder | listProducts | uuid_generate | gmtime => exact hold
  | writeProduct | writeOrder =>
    simp only [db, Database.store_eq_put]
    exact hold
  | writeUser target batch =>
    have htarget : name ≠ target := by
      rw [show target = username i from hop]
      exact hname i
    simp only [db, Database.store_eq_put]
    rw [Database.getElem?_put, if_neg htarget]
    split
    · rename_i hdefault
      rw [← hdefault, hold]
      rfl
    · exact hold

/-- Whoever is logged in, and in whatever order their turns come, the record of
anybody else stays as it is. -/
theorem other_accounts_kept (clients : ι → Text × List Text) (w : World) (schedule : List ι)
    {name : Text} {e : Entry UserKey} (hname : ∀ i, name ≠ (clients i).1)
    (he : w.users[name]? = some e) :
    (Pool.run db ⟨fun i => fine (session (clients i).1 (clients i).2), w⟩ schedule).state.users[name]? =
      some e := by
  have hstart : OthersKept (fun i => (clients i).1) w w := fun _ _ _ h => h
  obtain ⟨ids, hkept, -⟩ := Pool.run_keeps
    (p := ⟨fun i => fine (session (clients i).1 (clients i).2), w⟩) (g := fun _ => ∅)
    (serves_others (fun i => (clients i).1) w) hstart (fun i => own_session (clients i).2) schedule
    (Pool.meets_true _ _ _)
  exact hkept name e hname he

end Interleaved

end OnlineShoppingCenter

namespace OnlineShoppingCenter

open TextCodec EffectProgram

attribute [local instance] posix

/-- One user checks a pen out, beside another session of the same user. -/
def pairOfClients : Bool → Text × List Text
  | true => ("testuser001".toList,
    ["addtocart 7", "cart", "checkout", "y", "y", "y"].map String.toList)
  | false => ("testuser001".toList, ["addtocart 7", "cart", "clear"].map String.toList)

/-- They take turns. -/
def pairTurns (n : Nat) : List Bool := (List.replicate n [true, false]).flatten

theorem small_other_kept : ∃ e, smallWorld.users["testuser003".toList]? = some e ∧
    (Pool.run db ⟨fun i => fine (session (pairOfClients i).1 (pairOfClients i).2), smallWorld⟩
      (pairTurns 40)).state.users["testuser003".toList]? = some e := by
  have hsome : (smallWorld.users["testuser003".toList]?).isSome = true := by decide +kernel
  obtain ⟨e, he⟩ := Option.isSome_iff_exists.mp hsome
  have hname : ∀ i, "testuser003".toList ≠ (pairOfClients i).1 := by decide
  exact ⟨e, he, other_accounts_kept pairOfClients smallWorld (pairTurns 40) hname he⟩

end OnlineShoppingCenter
