import OnlineShoppingCenter.Checkout
import OnlineShoppingCenter.Login
import OnlineShoppingCenter.Orders

/-!
# The order ledger

Every store of a user writes the order list anew from the history in memory.
The list is the one there was and the ids of the orders placed since, and the
entries of the orders stay what they were when they were placed.
-/
namespace OnlineShoppingCenter

open TextCodec ColumnFamilies EffectProgram StorageSystem

variable [Platform]

/-- The order list in the record of a name; `none` stands for a line that is no id. -/
def listedIds (w : World) (name : Text) : List (Option Uuid) :=
  (((w.users[name]?).map accountOf).map (·.orders)).getD []

/-- The orders placed by the sessions of a name. -/
def ordersOf (name : Text) (register : Register) : List Transaction :=
  placedOrders ((register.filter (·.1 = name)).map Prod.snd)

def allOrders (register : Register) : List Transaction := placedOrders (register.map Prod.snd)

/-- Every line of an order list is the id of a stored order. -/
def WellListed (w : World) : Prop :=
  ∀ name, ∀ line ∈ listedIds w name, ∃ id e,
    line = some id ∧ w.orders[uuid_unparse_lower id]? = some e

/-- The ids that will be drawn before the `n`-th are different and none is the
name of an order there is. -/
structure FreshIds (w : World) (n : Nat) : Prop where
  distinct : ∀ i j, w.drawn ≤ i → i < j → j < n → w.uuids i ≠ w.uuids j
  unused : ∀ i, w.drawn ≤ i → i < n → uuid_unparse_lower (w.uuids i) ∉ w.orders

/-- What the databases say after the calls of a register. The orders placed
have ids drawn before the `used`-th. -/
structure Ledger (start : World) (register : Register) (used : Nat) (w : World) : Prop where
  uuids : w.uuids = start.uuids
  drawn : start.drawn ≤ w.drawn
  lists : ∀ name, listedIds w name =
    listedIds start name ++ (ordersOf name register).map fun t => some t.transaction_id
  old : ∀ (name : Text) e, start.orders[name]? = some e → w.orders[name]? = some e
  entries : ∀ t ∈ allOrders register,
    openEntry w.orders (uuid_unparse_lower t.transaction_id) = some (orderEntry t)
  readable : ∀ t ∈ allOrders register, ∀ UPC ∈ t.shopping_cart.cart, Readable w UPC
  ids : ∀ t ∈ allOrders register, ∃ i, start.drawn ≤ i ∧ i < used ∧
    t.transaction_id = start.uuids i
  nodup : ((allOrders register).map (·.transaction_id)).Nodup

/-- The calls of a session under the name of its user. -/
def tagged (username : Text) (l : Journal) : Register := l.map fun call => (username, call)

section Register

variable {register : Register} {username name : Text} {l : Journal} {call : Call} {t : Transaction}

theorem allOrders_snoc (h : call.placed = none) :
    allOrders (register ++ tagged username (l ++ [call])) =
      allOrders (register ++ tagged username l) := by
  simp [allOrders, tagged, placedOrders, h]

theorem allOrders_snoc_order :
    allOrders (register ++ tagged username (l ++ [.storeTransaction t])) =
      allOrders (register ++ tagged username l) ++ [t] := by
  simp [allOrders, tagged, placedOrders, Call.placed]

theorem ordersOf_snoc (h : call.placed = none) :
    ordersOf name (register ++ tagged username (l ++ [call])) =
      ordersOf name (register ++ tagged username l) := by
  by_cases hname : username = name
  · simp [ordersOf, tagged, placedOrders, hname, h]
  · simp [ordersOf, tagged, placedOrders, hname]

theorem ordersOf_snoc_order :
    ordersOf name (register ++ tagged username (l ++ [.storeTransaction t])) =
      ordersOf name (register ++ tagged username l) ++ if name = username then [t] else [] := by
  by_cases hname : username = name
  · simp [ordersOf, tagged, placedOrders, hname, Call.placed]
  · simp [ordersOf, tagged, placedOrders, hname, Ne.symm hname]

end Register

/-- A store puts the ids of the history into the record of the user. -/
theorem listedIds_putUser {w : World} (u : User) (name : Text) (hd : kDefault ∈ w.users) :
    listedIds (w.putUser u) name =
      if name = u.user_name then (finalizedIds u.transaction_history).map some
      else listedIds w name := by
  unfold listedIds
  rw [getElem?_putUser u name hd]
  split
  · rw [Option.map_some, accountOf_overlay]
    rfl
  · rfl

section Steps

variable {start w w' : World} {register : Register} {username : Text} {l : Journal} {call : Call}
  {used used' : Nat}

/-- A call that places no order, changes no list and no order entry, and leaves
what could be read readable. -/
theorem Ledger.snoc (h : Ledger start (register ++ tagged username l) used w)
    (hplaced : call.placed = none) (huuids : w'.uuids = w.uuids) (hdrawn : w.drawn ≤ w'.drawn)
    (hlists : ∀ name, listedIds w' name = listedIds w name) (horders : w'.orders = w.orders)
    (hread : ∀ UPC, Readable w UPC → Readable w' UPC) (hused : used ≤ used') :
    Ledger start (register ++ tagged username (l ++ [call])) used' w' := by
  have hall : allOrders (register ++ tagged username (l ++ [call])) =
      allOrders (register ++ tagged username l) := allOrders_snoc hplaced
  constructor
  · rw [huuids, h.uuids]
  · exact h.drawn.trans hdrawn
  · intro name
    rw [hlists, ordersOf_snoc hplaced]
    exact h.lists name
  · rw [horders]
    exact h.old
  · rw [horders, hall]
    exact h.entries
  · rw [hall]
    intro t ht UPC hUPC
    exact hread UPC (h.readable t ht UPC hUPC)
  · rw [hall]
    intro t ht
    obtain ⟨i, hi, hlt, hid⟩ := h.ids t ht
    exact ⟨i, hi, by omega, hid⟩
  · rw [hall]
    exact h.nodup

/-- The order drawn last is placed: its id is new, so no other entry changes. -/
theorem Ledger.place {n : Nat} {t : Transaction} (hfresh : FreshIds start n)
    (h : Ledger start (register ++ tagged username l) used w) (hused : start.drawn ≤ used)
    (hn : used < n) (hid : t.transaction_id = start.uuids used)
    (hread : ∀ UPC ∈ t.shopping_cart.cart, Readable w UPC) (horders : w'.orders = (w.putOrder t).orders)
    (hproducts : w'.products = w.products) (huuids : w'.uuids = w.uuids) (hdrawn : w'.drawn = w.drawn)
    (hlists : ∀ name, listedIds w' name =
      listedIds w name ++ if name = username then [some t.transaction_id] else []) :
    Ledger start (register ++ tagged username (l ++ [.storeTransaction t])) (used + 1) w' := by
  have hnew : ∀ s ∈ allOrders (register ++ tagged username l),
      s.transaction_id ≠ t.transaction_id := by
    intro s hs
    obtain ⟨i, hi, hlt, hsid⟩ := h.ids s hs
    rw [hsid, hid]
    exact hfresh.distinct i used hi hlt hn
  have hreadable : ∀ UPC, Readable w UPC → Readable w' UPC := by
    intro UPC hUPC
    simpa only [Readable, Decoded, hproducts] using hUPC
  constructor
  · rw [huuids, h.uuids]
  · rw [hdrawn]
    exact h.drawn
  · intro name
    rw [hlists, h.lists, ordersOf_snoc_order]
    split <;> simp
  · intro name e he
    have hname : name ≠ uuid_unparse_lower t.transaction_id := by
      rintro rfl
      apply hfresh.unused used hused hn
      rw [← hid, Database.mem_iff_isSome, he]
      rfl
    rw [horders]
    exact getElem?_putOrder_of_ne (h.old name e he) hname
  · rw [allOrders_snoc_order, horders]
    intro s hs
    rcases List.mem_append.mp hs with hs | hs
    · have hname := fun heq => hnew s hs (orderName_injective heq)
      exact openEntry_putOrder_of_ne (h.entries s hs) hname
    · rw [List.mem_singleton.mp hs]
      exact openEntry_putOrder_self w t
  · rw [allOrders_snoc_order]
    intro s hs UPC hUPC
    apply hreadable
    rcases List.mem_append.mp hs with hs | hs
    · exact h.readable s hs UPC hUPC
    · rw [List.mem_singleton.mp hs] at hUPC
      exact hread UPC hUPC
  · rw [allOrders_snoc_order]
    intro s hs
    rcases List.mem_append.mp hs with hs | hs
    · obtain ⟨i, hi, hlt, hsid⟩ := h.ids s hs
      exact ⟨i, hi, by omega, hsid⟩
    · rw [List.mem_singleton.mp hs]
      exact ⟨used, hused, by omega, hid⟩
  · rw [allOrders_snoc_order, List.map_append, List.nodup_append]
    refine ⟨h.nodup, by simp, ?_⟩
    intro a ha b hb
    obtain ⟨s, hs, rfl⟩ := List.mem_map.mp ha
    rw [List.mem_singleton.mp hb]
    exact hnew s hs

end Steps

/-- The place of the next id, or of the id of an order in progress. -/
def mark (w : World) : Task → Nat
  | .idle | .copy _ => w.drawn
  | .order _ => w.drawn - 1

def LedgerTask (start w : World) : Task → Prop
  | .idle => True
  | .copy p => Readable w p.UPC
  | .order t => start.drawn < w.drawn ∧ t.transaction_id = start.uuids (w.drawn - 1)

/-- The ledger in the middle of a session: the history in memory is the list
stored, and what is in the cart can be read. -/
structure LedgerHolds (start : World) (register : Register) (username : Text)
    (g : World × Journal) (u : User) (a : Task) : Prop where
  ledger : Ledger start (register ++ tagged username g.2) (mark g.1 a) g.1
  name : u.user_name = username
  users : kDefault ∈ g.1.users
  history : listedIds g.1 username = (finalizedIds u.transaction_history).map some
  cart : ∀ UPC ∈ u.shopping_cart.cart, Readable g.1 UPC
  task : LedgerTask start g.1 a

/-- The ledger while the items of an order are charged. -/
structure LedgerCharging (start : World) (register : Register) (username : Text)
    (g : World × Journal) (u : User) (t : Transaction)
    (items : List (SKU × Product × UInt32)) : Prop where
  ledger : Ledger start (register ++ tagged username g.2) (g.1.drawn - 1) g.1
  name : u.user_name = username
  users : kDefault ∈ g.1.users
  history : listedIds g.1 username = (finalizedIds u.transaction_history).map some
  finalized : t.is_finalized = true
  drawn : start.drawn < g.1.drawn ∧ t.transaction_id = start.uuids (g.1.drawn - 1)
  cart : ∀ UPC ∈ t.shopping_cart.cart, Readable g.1 UPC
  items : ∀ item ∈ items, Readable g.1 item.2.1.UPC

section Holds

variable {start w w' : World} {register : Register} {username : Text} {l : Journal} {call : Call}
  {u u' : User} {a a' : Task}

theorem mark_le (w : World) (a : Task) : mark w a ≤ w.drawn := by
  cases a with
  | idle | copy => exact le_refl _
  | order => exact Nat.sub_le _ _

/-- A call that leaves the users and the orders as they are. -/
theorem LedgerHolds.snoc (h : LedgerHolds start register username (w, l) u a)
    (hplaced : call.placed = none) (huuids : w'.uuids = w.uuids) (hdrawn : w.drawn ≤ w'.drawn)
    (husers : w'.users = w.users) (horders : w'.orders = w.orders)
    (hread : ∀ UPC, Readable w UPC → Readable w' UPC) (hmark : mark w a ≤ mark w' a')
    (htask : LedgerTask start w' a') :
    LedgerHolds start register username (w', l ++ [call]) u a' := by
  have hlists : ∀ name, listedIds w' name = listedIds w name := by
    intro name
    rw [listedIds, husers]
    rfl
  constructor
  · exact h.ledger.snoc hplaced huuids hdrawn hlists horders hread hmark
  · exact h.name
  · change kDefault ∈ w'.users
    rw [husers]
    exact h.users
  · exact (hlists username).trans h.history
  · intro UPC hUPC
    exact hread UPC (h.cart UPC hUPC)
  · exact htask

/-- A call that does nothing to the databases. -/
theorem LedgerHolds.quiet (h : LedgerHolds start register username (w, l) u a)
    (hplaced : call.placed = none) : LedgerHolds start register username (w, l ++ [call]) u a :=
  h.snoc hplaced rfl (le_refl _) rfl rfl (fun _ => id) (le_refl _) h.task

/-- A store of the user, whose history has not changed. -/
theorem LedgerHolds.store (h : LedgerHolds start register username (w, l) u a)
    (hname : u'.user_name = u.user_name)
    (hhistory : u'.transaction_history = u.transaction_history)
    (hcart : ∀ UPC ∈ u'.shopping_cart.cart, Readable w UPC) :
    LedgerHolds start register username (w.putUser u', l ++ [.storeUser u']) u' a := by
  have hlists : ∀ name, listedIds (w.putUser u') name = listedIds w name := by
    intro name
    rw [listedIds_putUser u' name h.users, hname, h.name, hhistory]
    split
    · rename_i heq
      rw [heq]
      exact h.history.symm
    · rfl
  have hread : ∀ UPC, Readable w UPC → Readable (w.putUser u') UPC := fun _ => id
  constructor
  · exact h.ledger.snoc rfl rfl (le_refl _) hlists rfl hread (le_refl _)
  · exact hname.trans h.name
  · exact kDefault_mem_putUser u'
  · rw [hhistory]
    exact (hlists username).trans h.history
  · exact hcart
  · exact h.task

theorem LedgerHolds.forget (h : LedgerHolds start register username (w, l) u a) :
    LedgerHolds start register username (w, l) u .idle := by
  obtain ⟨hledger, hname, husers, hhistory, hcart, -⟩ := h
  refine ⟨?_, hname, husers, hhistory, hcart, trivial⟩
  have hmark := mark_le w a
  exact { hledger with
    ids := fun t ht => by
      obtain ⟨i, hi, hlt, hid⟩ := hledger.ids t ht
      exact ⟨i, hi, lt_of_lt_of_le hlt hmark, hid⟩ }

/-- One item charged. -/
theorem LedgerCharging.item {t : Transaction} {UPC : SKU} {p : Product} {qty n : UInt32}
    {rest : List (SKU × Product × UInt32)}
    (h : LedgerCharging start register username (w, l) u t ((UPC, p, qty) :: rest)) :
    LedgerCharging start register username ((w.restock (p.withQuantity n)).restock
      (p.withQuantity n), l ++ [.setQuantity p n] ++ [.storeProduct (p.withQuantity n)]) u t rest := by
  have hp : Readable w (p.withQuantity n).UPC := h.items (UPC, p, qty) (by simp)
  have hfirst : ∀ other, Readable (w.restock (p.withQuantity n)) other ↔ Readable w other :=
    readable_restock hp
  have hread : ∀ other, Readable w other →
      Readable ((w.restock (p.withQuantity n)).restock (p.withQuantity n)) other := by
    intro other hother
    apply (readable_restock ((hfirst _).mpr hp) other).mpr
    exact (hfirst other).mpr hother
  have hset : Ledger start (register ++ tagged username (l ++ [.setQuantity p n])) (w.drawn - 1)
      (w.restock (p.withQuantity n)) :=
    h.ledger.snoc rfl rfl (le_refl _) (fun _ => rfl) rfl (fun other => (hfirst other).mpr) (le_refl _)
  have hledger : Ledger start (register ++ tagged username (l ++ [.setQuantity p n] ++
      [.storeProduct (p.withQuantity n)])) (w.drawn - 1)
        ((w.restock (p.withQuantity n)).restock (p.withQuantity n)) :=
    hset.snoc rfl rfl (le_refl _) (fun _ => rfl) rfl
      (fun other => (readable_restock ((hfirst _).mpr hp) other).mpr) (le_refl _)
  constructor
  · exact hledger
  · exact h.name
  · exact h.users
  · exact h.history
  · exact h.finalized
  · exact h.drawn
  · intro other hother
    exact hread other (h.cart other hother)
  · intro item hitem
    exact hread item.2.1.UPC (h.items item (by simp [hitem]))

/-- The order stored and its user stored after it. -/
theorem LedgerCharging.finish {n : Nat} {t : Transaction} (hfresh : FreshIds start n)
    (hn : w.drawn ≤ n) (h : LedgerCharging start register username (w, l) u t []) (hu' : u' = { u with
      shopping_cart := {}
      transaction_history := u.transaction_history.addTransaction t }) :
    LedgerHolds start register username ((w.putOrder t).putUser u',
      l ++ [.storeTransaction t] ++ [.storeUser u']) u' .idle := by
  obtain ⟨hdrawn, hid⟩ : start.drawn < w.drawn ∧ t.transaction_id = start.uuids (w.drawn - 1) := h.drawn
  have hledger : Ledger start (register ++ tagged username l) (w.drawn - 1) w := h.ledger
  have husers : kDefault ∈ (w.putOrder t).users := h.users
  have hname : u'.user_name = username := by
    rw [hu']
    exact h.name
  have hids : (finalizedIds u'.transaction_history).map some =
      listedIds w username ++ [some t.transaction_id] := by
    have hfinal := h.finalized
    have hhistory : listedIds w username = (finalizedIds u.transaction_history).map some := h.history
    rw [hhistory, hu']
    simp [finalizedIds, TransactionHistory.addTransaction, hfinal]
  have hlists : ∀ name, listedIds ((w.putOrder t).putUser u') name =
      listedIds w name ++ if name = username then [some t.transaction_id] else [] := by
    intro name
    rw [listedIds_putUser u' name husers, hname]
    split
    · rename_i heq
      rw [hids, heq]
    · rw [List.append_nil]
      rfl
  have horders : ((w.putOrder t).putUser u').orders = (w.putOrder t).orders := rfl
  have hplace := hledger.place hfresh (by omega) (by omega) hid h.cart horders rfl rfl rfl hlists
  have hused : w.drawn - 1 + 1 ≤ w.drawn := by omega
  constructor
  · exact hplace.snoc rfl rfl (le_refl _) (fun _ => rfl) rfl (fun _ => id) hused
  · exact hname
  · exact kDefault_mem_putUser u'
  · change listedIds ((w.putOrder t).putUser u') username = _
    rw [hlists, if_pos rfl, hids]
  · rw [hu']
    intro UPC hUPC
    simp at hUPC
  · trivial

end Holds

/-- The ledger as an invariant of the sessions of one user, as long as no more
than `n` ids have been drawn. -/
def ledgerSpec (start : World) (n : Nat) (hfresh : FreshIds start n) (register : Register)
    (username : Text) : SequentialSpec where
  holds g u a := g.1.drawn ≤ n → LedgerHolds start register username g u a
  charging g u t items := t.is_finalized = true ∧
    (g.1.drawn ≤ n → LedgerCharging start register username g u t items)
  rest g := g.1.drawn ≤ n → Ledger start (register ++ tagged username g.2) g.1.drawn g.1
  failed _ g := g.1.drawn ≤ n → Ledger start (register ++ tagged username g.2) g.1.drawn g.1
  okQty _ := True
  rest_of_holds h hn := (h hn).forget.ledger
  failed_of_holds h _ hn := (h hn).forget.ledger
  rest_of_refused h := h
  forget h hn := (h hn).forget
  ask h hn := (h hn).quiet rfl
  showOrder h hn := (h hn).quiet rfl
  getProducts h hn := (h hn).quiet rfl
  noProduct h hn := (h hn).quiet rfl
  getProduct h hp hn := (h hn).snoc rfl rfl (le_refl _) rfl rfl
    (fun other => (readable_restock hp.readable other).mpr) (le_refl _)
    ((readable_restock hp.readable _).mpr hp.readable)
  storeCart := by
    intro w l u a cart h hu _ hcart hn
    have hold := (h hn).cart
    refine (h hn).store rfl rfl ?_
    intro UPC hUPC
    have hremove : ∀ other, UPC ∈ (u.shopping_cart.remove other).cart → Readable w UPC :=
      fun other hmem => hold UPC (Std.ExtTreeMap.mem_of_mem_erase hmem)
    rcases hcart with ⟨-, rfl | ⟨other, rfl⟩⟩ | ⟨p, -, -, rfl⟩
    · simp at hUPC
    · exact hremove other hUPC
    · exact hremove p.UPC hUPC
  setItem := by
    intro w l u p qty h _ _ _ hn
    have hp : Readable w p.UPC := (h hn).task
    refine LedgerHolds.forget ((h hn).store rfl rfl ?_)
    intro UPC hUPC
    rcases Std.ExtTreeMap.mem_insert.mp hUPC with hUPC | hUPC
    · rw [← Std.LawfulEqCmp.eq_of_compare hUPC]
      exact hp
    · exact (h hn).cart UPC hUPC
  buyCart := by
    intro w l u h _ _ hn
    have hbefore := h (Nat.le_of_succ_le hn)
    refine hbefore.snoc rfl rfl (Nat.le_succ _) rfl rfl (fun _ => id) ?_ ?_
    · exact Nat.le_refl _
    · exact ⟨Nat.lt_succ_of_le hbefore.ledger.drawn, by
        rw [← hbefore.ledger.uuids]
        rfl⟩
  setAddress h hn := by
    obtain ⟨hledger, hname, husers, hhistory, hcart, htask⟩ := h hn
    exact ⟨hledger, hname, husers, hhistory, hcart, htask⟩
  setPayment h hn := by
    obtain ⟨hledger, hname, husers, hhistory, hcart, htask⟩ := h hn
    exact ⟨hledger, hname, husers, hhistory, hcart, htask⟩
  storeAddress h _ _ hn := (h hn).store rfl rfl (h hn).cart
  storePayment h _ _ hn := (h hn).store rfl rfl (h hn).cart
  startCharge := by
    intro w l u t h hp
    refine ⟨rfl, fun hn => ?_⟩
    have hcart : t.shopping_cart = u.shopping_cart := hp.loc.1.cart
    obtain ⟨hledger, hname, husers, hhistory, hread, htask⟩ := h hn
    constructor
    · exact hledger.snoc rfl rfl (le_refl _) (fun _ => rfl) rfl (fun _ => id) (le_refl _)
    · exact hname
    · exact husers
    · exact hhistory
    · rfl
    · exact htask
    · rw [show (t.finalize (w.clock w.ticks)).shopping_cart = u.shopping_cart from hcart]
      exact hread
    · rintro ⟨UPC, p, qty⟩ hitem
      rw [hcart, ShoppingCart.mem_cart] at hitem
      change Readable w p.UPC
      rw [(hp.user.cart UPC p qty hitem).1]
      apply hread
      rw [Std.ExtTreeMap.mem_iff_isSome_getElem?, hitem]
      rfl
  chargeItem h _ _ := ⟨h.1, fun hn => (h.2 hn).item⟩
  finalized h := h.1
  finishCharge h hn := (h.2 hn).finish hfresh hn rfl

/-- The same lists and orders, and the same products readable. -/
structure SameLists (w w' : World) : Prop where
  uuids : w'.uuids = w.uuids
  drawn : w'.drawn = w.drawn
  users : kDefault ∈ w.users → kDefault ∈ w'.users
  lists : ∀ name, listedIds w' name = listedIds w name
  orders : w'.orders = w.orders
  readable : ∀ UPC, Readable w' UPC ↔ Readable w UPC

theorem restockable_sameLists (w : World) : Restockable (SameLists w) := by
  intro w' UPC p h hp
  obtain ⟨huuids, hdrawn, husers, hlists, horders, hread⟩ := h
  exact ⟨huuids, hdrawn, husers, hlists, horders,
    fun other => (readable_restock hp.readable other).trans (hread other)⟩

/-- The ids behind lines that all are ids. -/
theorem listedIds_loaded {K : World → Prop} {w : World} {username : Text} {entry : Entry UserKey}
    {user : User} (hentry : openEntry w.users username = some entry)
    (hlisted : ∀ line ∈ listedIds w username, ∃ id, line = some id)
    (h : LoadedHead K username entry user) :
    listedIds w username = (finalizedIds user.transaction_history).map some := by
  have hlines : listedIds w username = (orderLines entry).map uuid_parse := by
    rw [listedIds, (openEntry_eq_some.mp hentry).2]
    rfl
  obtain ⟨ts, hhistory, hts⟩ := h.history
  rw [hhistory, finalizedIds_loaded hts, hlines]
  refine ((orderIds_eq_iff _ _).mpr ?_).symm
  intro line hline
  obtain ⟨id, hid⟩ := hlisted (uuid_parse line) (by
    rw [hlines]
    exact List.mem_map.mpr ⟨line, hline, rfl⟩)
  rw [hid]
  rfl

/-- The products of a cart just loaded can be read. -/
theorem StorageSystem.LoadedItems.mem_readable {K : World → Prop} {w : World} {items : List Text}
    {c c' : ShoppingCart} (hK : ∀ w', K w' → ∀ UPC, Readable w' UPC → Readable w UPC)
    (h : LoadedItems K items c c') : (∀ UPC ∈ c.cart, Readable w UPC) →
      ∀ UPC ∈ c'.cart, Readable w UPC := by
  induction h with
  | nil => exact id
  | @cons item rest c c' UPC qty w' p _ hw' hp _ ih =>
    intro hc
    apply ih
    intro other hother
    rcases Std.ExtTreeMap.mem_insert.mp hother with hother | hother
    · rw [← Std.LawfulEqCmp.eq_of_compare hother]
      exact hK w' hw' _ hp.readable
    · exact hc other hother

section Login

variable {start w : World} {register : Register} {username : Text} {used : Nat}

/-- Well listed at the start is well listed ever after. -/
theorem Ledger.wellListed (hstart : WellListed start) (h : Ledger start register used w)
    (hsub : ∀ name, ∀ t ∈ ordersOf name register, t ∈ allOrders register) : WellListed w := by
  intro name line hline
  rw [h.lists] at hline
  rcases List.mem_append.mp hline with hline | hline
  · obtain ⟨id, e, hid, he⟩ := hstart name line hline
    exact ⟨id, e, hid, h.old _ e he⟩
  · obtain ⟨t, ht, rfl⟩ := List.mem_map.mp hline
    exact ⟨_, _, rfl, (openEntry_eq_some.mp (h.entries t (hsub name t ht))).2⟩

theorem ordersOf_subset (name : Text) (register : Register) :
    ∀ t ∈ ordersOf name register, t ∈ allOrders register := by
  intro t ht
  obtain ⟨call, hcall, hplaced⟩ := List.mem_filterMap.mp ht
  obtain ⟨e, he, rfl⟩ := List.mem_map.mp hcall
  have hmem : e.2 ∈ register.map Prod.snd := List.mem_map.mpr ⟨e, List.mem_of_mem_filter he, rfl⟩
  exact List.mem_filterMap.mpr ⟨e.2, hmem, hplaced⟩

theorem Ledger.relocate {w' : World} (h : Ledger start register used w) (hw' : SameLists w w') :
    Ledger start (register ++ tagged username []) used w' := by
  have hregister : register ++ tagged username [] = register := List.append_nil _
  rw [hregister]
  constructor
  · rw [hw'.uuids, h.uuids]
  · rw [hw'.drawn]
    exact h.drawn
  · intro name
    rw [hw'.lists]
    exact h.lists name
  · rw [hw'.orders]
    exact h.old
  · rw [hw'.orders]
    exact h.entries
  · intro t ht UPC hUPC
    exact (hw'.readable UPC).mpr (h.readable t ht UPC hUPC)
  · exact h.ids
  · exact h.nodup

/-- What a store on the way of a login leaves. -/
theorem SameLists.putUser {K : World → Prop} {w' : World} {entry : Entry UserKey} {user : User}
    (h : SameLists w w') (hlisted : ∀ line ∈ listedIds w username, ∃ id, line = some id)
    (hentry : openEntry w.users username = some entry) (hhead : LoadedHead K username entry user)
    (pay : Option PaymentInfo) : SameLists w (w'.putUser (withPayment user pay)) := by
  have husers := h.users (openEntry_eq_some.mp hentry).1
  constructor
  · exact h.uuids
  · exact h.drawn
  · exact fun _ => kDefault_mem_putUser _
  · intro name
    rw [listedIds_putUser _ name husers, h.lists]
    split
    · rename_i heq
      rw [heq, show (withPayment user pay).user_name = username from hhead.name]
      exact (listedIds_loaded hentry hlisted hhead).symm
    · rfl
  · exact h.orders
  · exact h.readable

/-- A login stores the list it has read. -/
theorem ledgerSpec_login {n : Nat} (hfresh : FreshIds start n) (hstart : WellListed start)
    (h : w.drawn ≤ n → Ledger start register w.drawn w) :
    (ledgerSpec start n hfresh register username).toSessionSpec.Login username (w, []) := by
  have hlisted : w.drawn ≤ n → ∀ line ∈ listedIds w username, ∃ id, line = some id := by
    intro hn line hline
    have hwell := (h hn).wellListed hstart fun name => ordersOf_subset name register
    obtain ⟨id, e, hid, -⟩ := hwell username line hline
    exact ⟨id, hid⟩
  let K : World → Prop := fun w' => w'.drawn = w.drawn ∧ (w.drawn ≤ n → SameLists w w')
  have hK : Restockable K := fun w' UPC p hw' hp =>
    ⟨hw'.1, fun hn => restockable_sameLists w w' UPC p (hw'.2 hn) hp⟩
  have hw : K w := ⟨rfl, fun _ => ⟨rfl, rfl, id, fun _ => rfl, rfl, fun _ => Iff.rfl⟩⟩
  have hput : ∀ entry w' user pay, openEntry w.users username = some entry → K w' →
      LoadedHead K username entry user → pay = none ∨ loadPayment entry = .ok pay →
        K (w'.putUser (withPayment user pay)) := fun entry w' user pay hentry hw' hhead _ =>
    ⟨hw'.1, fun hn => (hw'.2 hn).putUser (hlisted hn) hentry hhead pay⟩
  have hledger : ∀ w', K w' → w'.drawn ≤ n →
      Ledger start (register ++ tagged username ([] ++ [.getUser username])) w'.drawn w' := by
    intro w' hw' hn
    have hsame := hw'.2 (hw'.1 ▸ hn)
    have hafter : Ledger start (register ++ tagged username []) w.drawn w' :=
      (h (hw'.1 ▸ hn)).relocate hsame
    exact hafter.snoc rfl rfl (le_refl _) (fun _ => rfl) rfl (fun _ => id) (le_of_eq hw'.1.symm)
  refine (wp_logged (.getUser username)).mpr (wp_mono (wp_getUser_keeps hK hw hput) ?_ ?_)
  · intro u w' ⟨hw', entry, hentry, hu⟩
    refine ⟨fun hn => ?_, hu.sound⟩
    have hn' : w.drawn ≤ n := hw'.1 ▸ hn
    have hsame := hw'.2 hn'
    obtain ⟨user, pay, cart, hhead, -, hcart, rfl⟩ := hu
    constructor
    · exact hledger w' hw' hn
    · exact hhead.name
    · exact hsame.users (openEntry_eq_some.mp hentry).1
    · change listedIds w' username = (finalizedIds user.transaction_history).map some
      rw [hsame.lists]
      exact listedIds_loaded hentry (hlisted hn') hhead
    · intro UPC hUPC
      apply (hsame.readable UPC).mpr
      have hback : ∀ w'', K w'' → ∀ UPC, Readable w'' UPC → Readable w UPC :=
        fun w'' hw'' other => ((hw''.2 hn').readable other).mp
      exact hcart.mem_readable hback (fun other hother => by simp at hother) UPC hUPC
    · trivial
  · intro e w' ⟨hw', _⟩
    exact hledger w' hw'

end Login

theorem ledger_start (w : World) : Ledger w [] w.drawn w := by
  constructor
  · rfl
  · exact le_refl _
  · intro name
    exact (List.append_nil _).symm
  · exact fun _ _ => id
  · exact fun t ht => by cases ht
  · exact fun t ht => by cases ht
  · exact fun t ht => by cases ht
  · exact List.nodup_nil

theorem ledger_runSessions {w : World} {n : Nat} (hlisted : WellListed w) (hfresh : FreshIds w n)
    (sessions : List (Text × List Text)) : (runSessions w sessions).1.drawn ≤ n →
      Ledger w (runSessions w sessions).2 (runSessions w sessions).1.drawn
        (runSessions w sessions).1 := by
  refine runSessions_induction (P := fun g => g.1.drawn ≤ n → Ledger w g.2 g.1.drawn g.1)
    (fun _ => ledger_start w) ?_ sessions
  intro g s hg
  exact rest_of_session (ledgerSpec w n hfresh g.2 s.1).toSessionSpec s.2
    (ledgerSpec_login hfresh hlisted hg) (fun _ => trivial) fun _ _ => id

/-- The ledger over any sessions that draw fresh ids. The entry of an order is
`orderEntry`, which nothing after the order enters into, and reading it gives
the order back in whatever state the databases are by then. -/
theorem ledger_kept (w : World) (sessions : List (Text × List Text)) (hlisted : WellListed w)
    (hfresh : FreshIds w (runSessions w sessions).1.drawn) :
    let g := runSessions w sessions
    (∀ name, listedIds g.1 name =
        listedIds w name ++ (ordersOf name g.2).map fun t => some t.transaction_id) ∧
      ((allOrders g.2).map (·.transaction_id)).Nodup ∧
      (∀ t ∈ allOrders g.2, ∀ name, some t.transaction_id ∉ listedIds w name) ∧
      WellListed g.1 ∧
      (∀ (name : Text) e, w.orders[name]? = some e → g.1.orders[name]? = some e) ∧
      ∀ t ∈ allOrders g.2,
        g.1.orders[uuid_unparse_lower t.transaction_id]? = some (orderEntry t) ∧
          ∃ t', (run db (getTransaction t.transaction_id) g.1).1 = .ok t' ∧ t.Agrees t' := by
  have hledger := ledger_runSessions hlisted hfresh sessions (le_refl _)
  have hwell := hledger.wellListed hlisted fun name => ordersOf_subset name _
  refine ⟨hledger.lists, hledger.nodup, ?_, hwell, hledger.old, ?_⟩
  · intro t ht name hmem
    obtain ⟨i, hi, hlt, hid⟩ := hledger.ids t ht
    obtain ⟨id, e, heq, he⟩ := hlisted name _ hmem
    apply hfresh.unused i hi hlt
    rw [← hid, Option.some.inj heq, Database.mem_iff_isSome, he]
    rfl
  · intro t ht
    have hentry := hledger.entries t ht
    exact ⟨(openEntry_eq_some.mp hentry).2, getTransaction_agrees hentry (hledger.readable t ht)⟩

end OnlineShoppingCenter

namespace OnlineShoppingCenter

open TextCodec ColumnFamilies

attribute [local instance] posix

/-- A pen is ordered, and the order looked at in a later session. -/
def ledgerSessions : List (Text × List Text) :=
  [("testuser001".toList, ["addtocart 7", "cart", "checkout", "y", "y", "y"].map String.toList),
    ("testuser001".toList, ["account", "orders", "1", "exit"].map String.toList)]

theorem small_wellListed : WellListed smallWorld := by
  have hall : (smallWorld.users.toList.all fun x => (accountOf x.2).orders.isEmpty) = true := by
    decide +kernel
  intro name line hline
  unfold listedIds at hline
  cases he : smallWorld.users[name]? with
  | none =>
    rw [he] at hline
    cases hline
  | some e =>
    have hx := List.all_eq_true.mp hall _ (Database.mem_toList.mpr he)
    rw [he, Option.map_some, Option.map_some, Option.getD_some, List.isEmpty_iff.mp hx] at hline
    cases hline

/-- One id is drawn, for the one order placed. -/
theorem ledgerSessions_place :
    (runSessions smallWorld ledgerSessions).1.drawn = 1 ∧
      ((ordersOf "testuser001".toList (runSessions smallWorld ledgerSessions).2).map
        fun t => some t.transaction_id : List (Option Posix.Id)) = [some (sampleId 0)] := by
  decide +kernel

theorem small_freshIds : FreshIds smallWorld (runSessions smallWorld ledgerSessions).1.drawn := by
  rw [ledgerSessions_place.1]
  constructor
  · intro i j _ hij hj
    omega
  · intro i _ hi
    have hzero : i = 0 := by omega
    rw [hzero]
    decide +kernel

theorem small_ledger_kept :
    listedIds (runSessions smallWorld ledgerSessions).1 "testuser001".toList =
      listedIds smallWorld "testuser001".toList ++ [some (sampleId 0)] := by
  have h := (ledger_kept smallWorld ledgerSessions small_wellListed small_freshIds).1
    "testuser001".toList
  rw [h, ledgerSessions_place.2]

end OnlineShoppingCenter
