import OnlineShoppingCenter.CartOperations
import OnlineShoppingCenter.InitialShop

/-!
# Carts that count something

A session whose lines never pass the quantity zero to the cart keeps every
quantity positive: in the cart of the session, in the carts that are stored, and
on the orders that are placed.
-/
namespace OnlineShoppingCenter

open TextCodec ColumnFamilies EffectProgram StorageSystem

variable [Platform]

/-- Every unit on an order counts, and there is at least one. -/
structure Transaction.Positive (t : Transaction) : Prop where
  cart : t.shopping_cart.Positive
  units : ∃ UPC, 1 ≤ t.units UPC

def OrdersPositive (l : Journal) : Prop := ∀ t ∈ placedOrders l, t.Positive

/-- Item lines without a zero. -/
def LinesPositive (items : List Text) : Prop :=
  ∀ item ∈ items, ∀ UPC qty, parseItem item = .ok (UPC, qty) → 1 ≤ qty

/-- The carts in the database, as a login reads them. -/
def StoredPositive (w : World) : Prop :=
  ∀ (name : Text) e, w.users[name]? = some e → LinesPositive (cartLines e)

theorem linesPositive_cartText {c : ShoppingCart} (h : c.Positive) :
    LinesPositive (split (cartText c) '\n') := by
  intro item hitem UPC qty hparse
  rw [split_cartText] at hitem
  obtain ⟨e, he, rfl⟩ := List.mem_map.mp hitem
  rw [parse_itemText] at hparse
  cases hparse
  exact h e.1 e.2.1 e.2.2 (ShoppingCart.mem_cart.mp he)

omit [Platform] in
theorem cartLines_empty : cartLines (Entry.empty : Entry UserKey) = [] := rfl

theorem StoredPositive.putUser {w : World} {u : User} (h : StoredPositive w)
    (hu : u.shopping_cart.Positive) : StoredPositive (w.putUser u) := by
  have hold : ∀ name : Text, LinesPositive (cartLines ((w.users[name]?).getD Entry.empty)) := by
    intro name
    cases he : w.users[name]? with
    | none =>
      rw [Option.getD_none, cartLines_empty]
      exact fun _ hitem => absurd hitem List.not_mem_nil
    | some e => exact h name e he
  intro name e he
  rw [World.putUser, Database.getElem?_put] at he
  split at he
  · cases he
    rw [cartLines_overlay]
    exact linesPositive_cartText hu
  split at he
  · cases he
    exact hold kDefault
  · exact h name e he

theorem LinesPositive.loaded {K : World → Prop} {items : List Text} {c c' : ShoppingCart}
    (hload : LoadedItems K items c c') (h : LinesPositive items) (hc : c.Positive) :
    c'.Positive := by
  induction hload with
  | nil => exact hc
  | cons hparse _ _ _ ih =>
    apply ih fun item hitem => h item (List.mem_cons_of_mem _ hitem)
    exact hc.set _ (h _ List.mem_cons_self _ _ hparse)

theorem placedOrders_snoc {call : Call} (h : call.placed = none) (l : Journal) :
    placedOrders (l ++ [call]) = placedOrders l := by
  simp [placedOrders, h]

theorem placedOrders_storeTransaction (l : Journal) (t : Transaction) :
    placedOrders (l ++ [.storeTransaction t]) = placedOrders l ++ [t] := by
  simp [placedOrders, Call.placed]

/-- A cart that is not empty holds a unit. -/
theorem ShoppingCart.Positive.transaction {t : Transaction} (h : t.shopping_cart.Positive)
    (hempty : t.shopping_cart.isEmpty = false) : t.Positive := by
  refine ⟨h, ?_⟩
  obtain ⟨UPC, hUPC⟩ := ShoppingCart.isEmpty_eq_false_iff.mp hempty
  rw [Std.ExtTreeMap.mem_iff_isSome_getElem?] at hUPC
  obtain ⟨⟨p, qty⟩, he⟩ := Option.isSome_iff_exists.mp hUPC
  refine ⟨UPC, ?_⟩
  have hqty := UInt32.le_iff_toNat_le.mp (h UPC p qty he)
  unfold Transaction.units ShoppingCart.getCount
  rw [he]
  exact hqty

/-- The order in progress. -/
def PositiveTask : Task → Prop
  | .order t => t.Positive
  | .idle | .copy _ => True

structure PositiveHolds (g : World × Journal) (u : User) (a : Task) : Prop where
  stored : StoredPositive g.1
  cart : u.shopping_cart.Positive
  orders : OrdersPositive g.2
  task : PositiveTask a

theorem PositiveHolds.snoc {w w' : World} {l : Journal} {u u' : User} {a a' : Task} {call : Call}
    (h : PositiveHolds (w, l) u a) (hcall : call.placed = none) (hstored : StoredPositive w')
    (hcart : u'.shopping_cart.Positive) (htask : PositiveTask a') :
    PositiveHolds (w', l ++ [call]) u' a' := by
  refine ⟨hstored, hcart, ?_, htask⟩
  intro t ht
  exact h.orders t (by rwa [placedOrders_snoc hcall] at ht)

/-- Positive quantities as an invariant of sessions that type no zero. -/
def positiveSpec : SequentialSpec where
  holds := PositiveHolds
  charging g _ t _ :=
    t.is_finalized = true ∧ StoredPositive g.1 ∧ OrdersPositive g.2 ∧ t.Positive
  rest g := StoredPositive g.1 ∧ OrdersPositive g.2
  failed _ g := StoredPositive g.1 ∧ OrdersPositive g.2
  okQty qty := 1 ≤ qty
  rest_of_holds h := ⟨h.stored, h.orders⟩
  failed_of_holds h _ := ⟨h.stored, h.orders⟩
  rest_of_refused h := h
  forget h := ⟨h.stored, h.cart, h.orders, trivial⟩
  ask h := h.snoc rfl h.stored h.cart h.task
  showOrder h := h.snoc rfl h.stored h.cart trivial
  getProducts h := h.snoc rfl h.stored h.cart trivial
  noProduct h := h.snoc rfl h.stored h.cart trivial
  getProduct h _ := h.snoc rfl h.stored h.cart trivial
  storeCart h _ _ hcart := by
    rcases hcart with ⟨-, rfl | ⟨UPC, rfl⟩⟩ | ⟨p, -, hzero, -⟩
    · exact h.snoc rfl (h.stored.putUser ShoppingCart.positive_empty) ShoppingCart.positive_empty h.task
    · exact h.snoc rfl (h.stored.putUser (h.cart.remove UPC)) (h.cart.remove UPC) h.task
    · exact absurd hzero (by decide)
  setItem h _ _ hqty :=
    h.snoc rfl (h.stored.putUser (h.cart.set _ hqty)) (h.cart.set _ hqty) trivial
  buyCart h _ hempty := h.snoc rfl h.stored h.cart (h.cart.transaction hempty)
  setAddress h := ⟨h.stored, h.cart, h.orders, h.task.cart, h.task.units⟩
  setPayment h := ⟨h.stored, h.cart, h.orders, h.task.cart, h.task.units⟩
  storeAddress h _ _ := h.snoc rfl (h.stored.putUser h.cart) h.cart h.task
  storePayment h _ _ := h.snoc rfl (h.stored.putUser h.cart) h.cart h.task
  startCharge h _ := by
    refine ⟨rfl, h.stored, ?_, h.task.cart, h.task.units⟩
    intro t ht
    rw [placedOrders_snoc rfl] at ht
    exact h.orders t ht
  chargeItem h _ _ := by
    obtain ⟨hfinal, hstored, horders, hpositive⟩ := h
    refine ⟨hfinal, hstored, ?_, hpositive⟩
    intro t ht
    rw [placedOrders_snoc rfl, placedOrders_snoc rfl] at ht
    exact horders t ht
  finalized h := h.1
  finishCharge h := by
    obtain ⟨-, hstored, horders, hpositive⟩ := h
    refine ⟨hstored.putUser ShoppingCart.positive_empty, ShoppingCart.positive_empty, ?_, trivial⟩
    intro t ht
    rw [placedOrders_snoc rfl, placedOrders_storeTransaction] at ht
    rcases List.mem_append.mp ht with ht | ht
    · exact horders t ht
    · rw [List.mem_singleton.mp ht]
      exact hpositive

/-- What the login reads has no zero in it, and what it stores is an empty cart. -/
theorem positiveSpec_login {w : World} {l : Journal} (username : Text) (h : StoredPositive w)
    (horders : OrdersPositive l) : positiveSpec.toSessionSpec.Login username (w, l) := by
  have hK : Restockable StoredPositive := fun _ _ _ hw' _ => hw'
  have hnext : OrdersPositive (l ++ [.getUser username]) := by
    intro t ht
    rw [placedOrders_snoc rfl] at ht
    exact horders t ht
  apply (wp_logged (.getUser username)).mpr
  apply wp_mono (wp_getUser_keeps hK h ?_)
  · rintro u w' ⟨hw', entry, hentry, hu⟩
    have hsound := hu.sound
    obtain ⟨user, pay, cart, -, -, hcart, rfl⟩ := hu
    have hlines := h username entry (openEntry_eq_some.mp hentry).2
    exact ⟨⟨hw', hlines.loaded hcart ShoppingCart.positive_empty, hnext, trivial⟩, hsound⟩
  · rintro e w' ⟨hw', -⟩
    exact ⟨hw', hnext⟩
  · intro entry w' user pay _ hw' hhead _
    apply hw'.putUser
    change user.shopping_cart.Positive
    rw [hhead.cart]
    exact ShoppingCart.positive_empty

/-- The line passes the quantity zero to the cart: for a product that is there, or
for an item of the cart. -/
def Proc.passesZero (w : World) (p : Proc) (line : Text) : Prop :=
  match p.loc, split line ' ' with
  | .mainshell, cmd :: upc_s :: qty_s :: _ => cmd = "addtocart".toList ∧ stoui qty_s = .ok 0 ∧
    ∃ UPC, stoul upc_s = .ok UPC ∧ (openEntry w.products (to_string UPC.toNat)).isSome = true
  | .cartshell _, cmd :: upc_s :: qty_s :: _ => cmd = "changeqty".toList ∧ stoui qty_s = .ok 0 ∧
    ∃ UPC, stoul upc_s = .ok UPC ∧ p.logged_in.shopping_cart.checkCart UPC = true
  | _, _ => False

/-- A product that is read has an entry. -/
theorem openEntry_of_getProduct {g g' : World × Journal} {UPC : SKU} {prod : Product}
    (h : sys.logged (.getProduct UPC) g = (.ok prod, g')) :
    (openEntry g.1.products (to_string UPC.toNat)).isSome = true := by
  have hread : (run db (getProduct UPC) g.1).1 = .ok prod := congrArg Prod.fst h
  cases he : openEntry g.1.products (to_string UPC.toNat) with
  | some e => rfl
  | none =>
    have hopen : run db (openProduct (to_string UPC.toNat)) g.1 = (.ok none, g.1) := by
      rw [← he]
      rfl
    rw [getProduct_eq, run_bind_ok hopen] at hread
    cases hread

theorem okLine_of_not_passesZero {g : World × Journal} {p : Proc} {line : Text}
    (h : ¬ p.passesZero g.1 line) : positiveSpec.toSessionSpec.okLine g p line := by
  unfold SessionSpec.okLine
  unfold Proc.passesZero at h
  split
  · rename_i cmd upc_s rest hloc hsplit
    rintro rfl UPC prod g' hUPC hread
    rw [hloc, hsplit] at h
    cases rest with
    | nil => exact (by decide : (1 : UInt32) ≤ 1)
    | cons qty_s rest =>
      intro qty hqty
      apply ShoppingCart.one_le_of_ne_zero
      rintro rfl
      exact h ⟨rfl, hqty, UPC, hUPC, openEntry_of_getProduct hread⟩
  · rename_i cmd upc_s qty_s rest hloc hsplit
    rintro rfl UPC qty hUPC hcheck hqty
    rw [hloc, hsplit] at h
    apply ShoppingCart.one_le_of_ne_zero
    rintro rfl
    exact h ⟨rfl, hqty, UPC, hUPC, hcheck⟩
  · trivial

/-- The commands that change and remove an item get as far as the cart. -/
structure User.CanEdit (u : User) : Prop where
  remove : ∀ UPC ∈ u.shopping_cart.cart, ∀ invalid_qty,
    remove u invalid_qty [to_string UPC.toNat] = do
      cartview (← onCart u fun store cart => cart.deleteUPC store UPC)
  changeqty : ∀ UPC ∈ u.shopping_cart.cart, ∀ invalid_qty (qty : UInt32),
    changeqty u invalid_qty [to_string UPC.toNat, to_string qty.toNat] = do
      cartview (← onCart u fun store cart =>
        cart.changeUPCQuantity store (fun UPC => local_storage.getProduct UPC) UPC qty)

theorem ShoppingCart.Consistent.canEdit {u : User} (h : u.shopping_cart.Consistent) : u.CanEdit := by
  have hempty : ∀ UPC ∈ u.shopping_cart.cart, u.shopping_cart.isEmpty = false :=
    fun UPC hUPC => h.isEmpty_eq_false.mpr ⟨UPC, h.listed UPC hUPC⟩
  constructor
  · intro UPC hUPC invalid_qty
    simp [OnlineShoppingCenter.remove, hempty UPC hUPC, stoul_to_string_ulong, h.listed UPC hUPC]
  · intro UPC hUPC invalid_qty qty
    simp [OnlineShoppingCenter.changeqty, hempty UPC hUPC, stoul_to_string_ulong,
      stoui_to_string_uint, h.listed UPC hUPC]

/-- A session of a sequence stands at a prompt, with lines still to come; the
databases are at that moment as given. -/
def Stands (w : World) (sessions : List (Text × List Text)) (here : World) (p : Proc)
    (lines : List Text) : Prop :=
  p.loc ≠ .exited ∧ ∃ before username front after r g,
    sessions = before ++ (username, front ++ lines) :: after ∧
      run sys.logged (session username front) ((runSessions w before).1, []) = (.ok r, g) ∧
        here = g.1 ∧ p = r.2

/-- No line typed anywhere passes the quantity zero to the cart. -/
def NoZeroPassed (w : World) (sessions : List (Text × List Text)) : Prop :=
  ∀ here p line lines, Stands w sessions here p (line :: lines) → ¬ p.passesZero here line

theorem Proc.passesZero.ne_exited {w : World} {p : Proc} {line : Text} (h : p.passesZero w line) :
    p.loc ≠ .exited := by
  intro hloc
  unfold passesZero at h
  rw [hloc] at h
  exact h

section Sessions

variable {w here : World} {username : Text} {lines : List Text} {sessions : List (Text × List Text)}

/-- One session in which no line passes a zero. -/
theorem session_positive (username : Text) (lines : List Text) (h : StoredPositive w)
    (hlines : ∀ front line back, lines = front ++ line :: back → ∀ r g,
      run sys.logged (session username front) (w, []) = (.ok r, g) → ¬ r.2.passesZero g.1 line) :
    Ends (fun r g => positiveSpec.toSessionSpec.Inv g r.2)
      (fun _ g => StoredPositive g.1 ∧ OrdersPositive g.2)
      (run sys.logged (session username lines) (w, [])).1
      (run sys.logged (session username lines) (w, [])).2 := by
  have hlogin : positiveSpec.toSessionSpec.Keeps (login username) (w, []) :=
    SessionSpec.keeps_login _ (positiveSpec_login username h fun _ ht => absurd ht List.not_mem_nil)
  unfold SessionSpec.Keeps at hlogin
  rw [wp_exact] at hlogin
  cases hrun : run sys.logged (login username) (w, []) with
  | mk out g =>
    rw [hrun] at hlogin
    cases out with
    | error e =>
      rw [session, run_bind_error hrun]
      exact hlogin
    | ok p =>
      rw [session, run_bind_ok hrun]
      apply run_play_okLines _ hlogin
      intro front line back hsplit r g' hfront
      apply okLine_of_not_passesZero
      exact hlines front line back hsplit r g' ((run_bind_ok hrun).trans hfront)

theorem Stands.append {p : Proc} (s : Text × List Text) (h : Stands w sessions here p lines) :
    Stands w (sessions ++ [s]) here p lines := by
  obtain ⟨hloc, before, username, front, after, r, g, rfl, hrun, hp⟩ := h
  exact ⟨hloc, before, username, front, after ++ [s], r, g, by simp, hrun, hp⟩

theorem runSessions_snoc (w : World) (sessions : List (Text × List Text)) (s : Text × List Text) :
    runSessions w (sessions ++ [s]) = runSession (runSessions w sessions) s := by
  simp [runSessions]

/-- The session after some others types no zero either. -/
theorem NoZeroPassed.session {s : Text × List Text} {after : List (Text × List Text)}
    (h : NoZeroPassed w (sessions ++ s :: after)) : ∀ front line back, s.2 = front ++ line :: back →
      ∀ r g, run sys.logged (session s.1 front) ((runSessions w sessions).1, []) = (.ok r, g) →
        ¬ r.2.passesZero g.1 line := by
  intro front line back hsplit r g hrun hzero
  refine h g.1 r.2 line back
    ⟨hzero.ne_exited, sessions, s.1, front, after, r, g, ?_, hrun, rfl, rfl⟩ hzero
  rw [← hsplit]

/-- Between sessions all stored carts, and all orders so far, are positive. -/
theorem sessions_positive (h : StoredPositive w) (hzero : NoZeroPassed w sessions) :
    StoredPositive (runSessions w sessions).1 ∧
      OrdersPositive ((runSessions w sessions).2.map Prod.snd) := by
  induction sessions using List.reverseRecOn with
  | nil => exact ⟨h, fun _ ht => absurd ht List.not_mem_nil⟩
  | append_singleton sessions s ih =>
    obtain ⟨hstored, horders⟩ := ih fun here p line lines hp =>
      hzero here p line lines (hp.append s)
    have hsession := session_positive s.1 s.2 hstored hzero.session
    have hrest : StoredPositive (run sys.logged (session s.1 s.2) ((runSessions w sessions).1, [])).2.1 ∧
        OrdersPositive (run sys.logged (session s.1 s.2) ((runSessions w sessions).1, [])).2.2 := by
      cases hr : (run sys.logged (session s.1 s.2) ((runSessions w sessions).1, [])).1 with
      | ok r =>
        rw [hr] at hsession
        exact hsession.rest
      | error e =>
        rw [hr] at hsession
        exact hsession
    rw [runSessions_snoc]
    refine ⟨hrest.1, ?_⟩
    intro t ht
    have hmap : (runSession (runSessions w sessions) s).2.map Prod.snd =
        (runSessions w sessions).2.map Prod.snd ++
          (run sys.logged (session s.1 s.2) ((runSessions w sessions).1, [])).2.2 := by
      simp [runSession]
    rw [hmap, placedOrders, List.filterMap_append] at ht
    rcases List.mem_append.mp ht with ht | ht
    · exact horders t ht
    · exact hrest.2 t ht

/-- At every prompt the cart is consistent and its items can be edited, and
every order placed is positive. -/
structure CartsConsistent (w : World) (sessions : List (Text × List Text)) : Prop where
  prompts : ∀ here p lines, Stands w sessions here p lines →
    p.logged_in.shopping_cart.Consistent ∧ p.logged_in.CanEdit
  orders : ∀ t ∈ placedOrders ((runSessions w sessions).2.map Prod.snd), t.Positive

theorem cartsConsistent_of_noZeroPassed (h : StoredPositive w) (hzero : NoZeroPassed w sessions) :
    CartsConsistent w sessions := by
  refine ⟨?_, (sessions_positive h hzero).2⟩
  rintro _ p lines ⟨hloc, before, username, front, after, r, g, rfl, hrun, rfl, rfl⟩
  have hbefore : NoZeroPassed w before := by
    rintro _ p line rest ⟨hp, before', username', front', after', r', g', rfl, hrun', rfl, rfl⟩
    exact hzero _ _ line rest ⟨hp, before', username', front',
      after' ++ (username, front ++ lines) :: after, r', g', by simp, hrun', rfl, rfl⟩
  have hfront := session_positive username front (sessions_positive h hbefore).1 ?_
  · rw [hrun] at hfront
    obtain ⟨task, htask⟩ := hfront.holds hloc
    have hconsistent := ShoppingCart.consistent_of_entries
      (fun UPC p qty he => (hfront.sound.user.cart UPC p qty he).1) htask.cart
    exact ⟨hconsistent, hconsistent.canEdit⟩
  · intro first line back hsplit r' g' hrun'
    apply hzero.session first line (back ++ lines) _ r' g' hrun'
    simp [hsplit]

end Sessions

/-- The carts that `initDB` writes. -/
theorem storedPositive_initDB (w : World) : StoredPositive (initDB w) := by
  have hcarts : ∀ x ∈ initUsers, ∀ item ∈ cartLines (x.2.overlay Entry.empty),
      ((parseItem item).toOption.all fun i => decide (1 ≤ i.2)) = true := by
    decide +kernel
  intro name e he item hitem UPC qty hparse
  rcases fill_cases initUsers_nodup he with ⟨-, rfl⟩ | ⟨x, hx, -, rfl⟩
  · rw [cartLines_empty] at hitem
    exact absurd hitem List.not_mem_nil
  · have hqty := hcarts x hx item hitem
    rw [hparse] at hqty
    exact of_decide_eq_true hqty

/-- Both kinds of histories of a cart: operations on a new cart, and the commands
of sessions one after the other. -/
theorem carts_consistent :
    (∀ ops : List CartOp, (∀ front back, ops = front ++ back → (CartOp.applyAll front).Consistent) ↔
        ∀ op ∈ ops, op.quantity ≠ some 0) ∧
      ∀ w sessions, StoredPositive w → NoZeroPassed w sessions → CartsConsistent w sessions :=
  ⟨CartOp.consistent_iff, fun _ _ => cartsConsistent_of_noZeroPassed⟩

end OnlineShoppingCenter

namespace OnlineShoppingCenter

open TextCodec EffectProgram StorageSystem

attribute [local instance] posix

/-- Two pieces of an article, and a zero for one that is not there. -/
def carefulSessions : List (Text × List Text) :=
  [("testuser003".toList, ["addtocart 653569401025 2".toList, "addtocart 5 0".toList,
    "exit".toList])]

theorem Proc.passesZero.third {w : World} {p : Proc} {line : Text} (h : p.passesZero w line) :
    ((split line ' ')[2]?.any fun qty_s => (stoui qty_s).toOption = some 0) = true := by
  unfold passesZero at h
  split at h
  · rename_i hsplit
    simp [hsplit, h.2.1, Except.toOption]
  · rename_i hsplit
    simp [hsplit, h.2.1, Except.toOption]
  · exact h.elim

theorem noZeroPassed_careful : NoZeroPassed sampleWorld carefulSessions := by
  have hmissing : (openEntry (run sys.logged (session "testuser003".toList
      ["addtocart 653569401025 2".toList]) (sampleWorld, [])).2.1.products "5".toList).isSome =
        false := by
    decide +kernel
  have hwords : split "addtocart 5 0".toList ' ' = ["addtocart".toList, "5".toList, "0".toList] := by
    decide +kernel
  have hfive : stoul "5".toList = .ok 5 := by decide +kernel
  rintro _ _ line lines ⟨-, before, username, front, after, r, g, hsessions, hrun, rfl, rfl⟩ hzero
  cases before with
  | cons s before => simp [carefulSessions] at hsessions
  | nil =>
    simp only [carefulSessions, List.nil_append, List.cons.injEq, Prod.mk.injEq] at hsessions
    obtain ⟨⟨rfl, hlines⟩, -⟩ := hsessions
    rcases front with _ | ⟨first, _ | ⟨second, _ | ⟨third, front⟩⟩⟩
    · obtain ⟨rfl, -⟩ := List.cons.inj hlines
      exact absurd hzero.third (by decide +kernel)
    · simp only [List.cons_append, List.nil_append, List.cons.injEq] at hlines
      obtain ⟨rfl, rfl, -⟩ := hlines
      unfold Proc.passesZero at hzero
      rw [hwords] at hzero
      split at hzero
      · rename_i hsplit
        cases hsplit
        obtain ⟨-, -, UPC, hUPC, hentry⟩ := hzero
        rw [hfive] at hUPC
        cases hUPC
        have hhere : run sys.logged (session "testuser003".toList
            ["addtocart 653569401025 2".toList]) (sampleWorld, []) = (.ok r, g) := hrun
        rw [hhere] at hmissing
        exact absurd hentry (ne_true_of_eq_false hmissing)
      · rename_i hsplit
        cases hsplit
        exact absurd hzero.1 (by decide)
      · exact hzero
    · simp only [List.cons_append, List.nil_append, List.cons.injEq] at hlines
      obtain ⟨-, -, rfl, -⟩ := hlines
      exact absurd hzero.third (by decide +kernel)
    · simp at hlines

theorem sample_carts_consistent :
    (∀ ops : List CartOp, (∀ front back, ops = front ++ back → (CartOp.applyAll front).Consistent) ↔
        ∀ op ∈ ops, op.quantity ≠ some 0) ∧
      CartsConsistent sampleWorld carefulSessions :=
  ⟨carts_consistent.1, carts_consistent.2 _ _ (storedPositive_initDB _) noZeroPassed_careful⟩

/-- An order of nothing, to a new address and a new card. -/
def emptyOrderSessions : List (Text × List Text) :=
  [("testuser003".toList, ["addtocart 653569401025 0".toList, "cart".toList, "checkout".toList,
    "Jane Roe".toList, "".toList, "1 Main St".toList, "".toList, "Starkville".toList, "MS".toList,
    "39759".toList, "USA".toList, "y".toList, "4929".toList, "01/19".toList, "123".toList,
    "y".toList, "y".toList])]

/-- A zero is filed like any quantity: the cart is neither empty nor holds
anything, and an order without a unit is placed. -/
theorem zero_quantity_ordered :
    ¬ (CartOp.applyAll [.addProductQty { UPC := 653569401025 } 0]).Consistent ∧
      ¬ CartsConsistent sampleWorld emptyOrderSessions := by
  constructor
  · intro h
    have hcheck := h.isEmpty_eq_false.mp (by decide +kernel)
    exact CartOp.not_consistent_set_zero {} _ (by
      rwa [CartOp.applyAll, List.foldl_cons, List.foldl_nil, CartOp.apply,
        CartOp.run_addProductQty] at h)
  · intro h
    have hplaced : ∃ t ∈ placedOrders ((runSessions sampleWorld emptyOrderSessions).2.map Prod.snd),
        ∃ e ∈ t.shopping_cart.cart.toList, e.2.2 = 0 := by
      decide +kernel
    obtain ⟨t, ht, e, he, hzero⟩ := hplaced
    have hqty := (h.orders t ht).cart e.1 e.2.1 e.2.2 (ShoppingCart.mem_cart.mp he)
    rw [hzero] at hqty
    exact absurd hqty (by decide)

end OnlineShoppingCenter
