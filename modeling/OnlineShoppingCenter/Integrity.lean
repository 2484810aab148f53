import OnlineShoppingCenter.Interleaving
import OnlineShoppingCenter.Orders
import OnlineShoppingCenter.SequentialRules

/-!
# Integrity of the three databases

No session adds a user or a product, and no entry is ever deleted, so an order
once seen to exist exists for good. A thread may write an id only when it knows
the order it stands for, and a SKU only from the catalogue; then every id and
every SKU in the databases stands for an entry, whatever the other threads do
and wherever all of them stop.
-/
namespace OnlineShoppingCenter

open TextCodec ColumnFamilies EffectProgram StorageSystem

variable [Platform]

/-- The user names and the SKUs there are. -/
structure Shop where
  accounts : Set Text
  catalogue : Set SKU

/-- The orders that have an entry. -/
def World.placed (w : World) : Set Uuid := {id | uuid_unparse_lower id ∈ w.orders}

namespace Shop

variable (shop : Shop)

/-- Item lines of products in the catalogue. -/
def ItemsKnown (items : List Text) : Prop :=
  ∀ item ∈ items, ∃ UPC qty, parseItem item = .ok (UPC, qty) ∧ UPC ∈ shop.catalogue

def CartKnown (c : ShoppingCart) : Prop := ∀ UPC ∈ c.cart, UPC ∈ shop.catalogue

def Listed (names : List Text) : Prop :=
  ∀ name ∈ names, name ≠ kDefault → ∃ UPC ∈ shop.catalogue, name = to_string UPC.toNat

structure UserEntryGood (placed : Set Uuid) (e : Entry UserKey) : Prop where
  orders : ∀ line ∈ orderLines e, ∃ id, uuid_parse line = some id ∧ id ∈ placed
  cart : shop.ItemsKnown (cartLines e)
  card : ∀ num, e .cc_num = some num → ∃ n, stoul num = .ok n

structure OrderEntryGood (e : Entry OrderKey) : Prop where
  items : shop.ItemsKnown (split (get e .items []) '\n')
  decodes : ∀ id, ∃ t, decodeOrder id {} e = .ok t

end Shop

def ProductEntryGood (e : Entry ProductKey) : Prop := ∀ UPC, ∃ p, decodeProduct UPC e = .ok p

/-- Databases of the shop whose entries decode and refer to entries only. -/
structure Good (shop : Shop) (w : World) : Prop where
  users_default : kDefault ∈ w.users
  products_default : kDefault ∈ w.products
  orders_default : kDefault ∈ w.orders
  accounts : ∀ name, name ∈ w.users ↔ name ∈ shop.accounts
  catalogue : ∀ UPC : SKU, to_string UPC.toNat ∈ w.products ↔ UPC ∈ shop.catalogue
  products_named : ∀ name ∈ w.products, name ≠ kDefault → ∃ UPC : SKU, name = to_string UPC.toNat
  users : ∀ (name : Text) e, w.users[name]? = some e → shop.UserEntryGood w.placed e
  orders : ∀ (name : Text) e, w.orders[name]? = some e → name ≠ kDefault → shop.OrderEntryGood e
  products : ∀ (name : Text) e, w.products[name]? = some e → name ≠ kDefault → ProductEntryGood e

/-- A user whose orders and cart stand for entries. -/
structure User.Backed (shop : Shop) (placed : Set Uuid) (u : User) : Prop where
  orders : ∀ id ∈ finalizedIds u.transaction_history, id ∈ placed
  cart : shop.CartKnown u.shopping_cart

section Mono

variable {shop : Shop} {g g' : Set Uuid}

theorem Shop.UserEntryGood.mono {e : Entry UserKey} (h : shop.UserEntryGood g e) (hg : g ⊆ g') :
    shop.UserEntryGood g' e := by
  refine ⟨?_, h.cart, h.card⟩
  intro line hline
  obtain ⟨id, hid, hmem⟩ := h.orders line hline
  exact ⟨id, hid, hg hmem⟩

theorem User.Backed.mono {u : User} (h : u.Backed shop g) (hg : g ⊆ g') : u.Backed shop g' :=
  ⟨fun id hid => hg (h.orders id hid), h.cart⟩

end Mono

section Written

variable {shop : Shop} {g : Set Uuid}

theorem itemsKnown_cartText {c : ShoppingCart} (h : shop.CartKnown c) :
    shop.ItemsKnown (split (cartText c) '\n') := by
  intro item hitem
  rw [split_cartText] at hitem
  obtain ⟨e, he, rfl⟩ := List.mem_map.mp hitem
  refine ⟨e.1, e.2.2, parse_itemText e.1 e.2.2, h e.1 ?_⟩
  rw [← Std.ExtTreeMap.mem_keys, ← Std.ExtTreeMap.map_fst_toList_eq_keys]
  exact List.mem_map.mpr ⟨e, he, rfl⟩

theorem cartLines_overlay (u : User) (e : Entry UserKey) :
    cartLines ((userBatch u).overlay e) = split (cartText u.shopping_cart) '\n' := by
  rw [overlay_userBatch]
  rfl

theorem orderLines_overlay (u : User) (e : Entry UserKey) :
    orderLines ((userBatch u).overlay e) =
      (finalizedIds u.transaction_history).map uuid_unparse_lower := by
  have hget : get ((userBatch u).overlay e) .orders [] = ordersText u.transaction_history := by
    rw [overlay_userBatch]
    rfl
  rw [orderLines, hget, split_ordersText]
  simp [finalizedIds]

theorem userEntryGood_overlay {u : User} {e : Entry UserKey} (hu : u.Backed shop g)
    (hcard : ∀ num, e .cc_num = some num → ∃ n, stoul num = .ok n) :
    shop.UserEntryGood g ((userBatch u).overlay e) := by
  constructor
  · intro line hline
    rw [orderLines_overlay] at hline
    obtain ⟨id, hid, rfl⟩ := List.mem_map.mp hline
    exact ⟨id, parse_unparse id, hu.orders id hid⟩
  · rw [cartLines_overlay]
    exact itemsKnown_cartText hu.cart
  · intro num hnum
    rw [overlay_userBatch] at hnum
    by_cases hset : u.payment_info.is_set = true
    · simp only [hset, if_true, Option.some.injEq] at hnum
      rw [← hnum]
      exact ⟨_, stoul_to_string_ulong _⟩
    · simp only [hset] at hnum
      exact hcard num (by simpa using hnum)

theorem orderEntryGood_orderEntry {t : Transaction} (h : shop.CartKnown t.shopping_cart) :
    shop.OrderEntryGood (orderEntry t) := by
  constructor
  · exact itemsKnown_cartText h
  · intro id
    obtain ⟨amount, hamount⟩ := stof_amount t
    exact ⟨_, decodeOrder_orderEntry hamount id {}⟩

theorem productEntryGood_overlay (p : Product) (e : Entry ProductKey) :
    ProductEntryGood ((productBatch p).overlay e) := by
  intro UPC
  obtain ⟨price, hprice⟩ := Platform.stof_to_string p.price
  have hstof : stof (to_string_f p.price) = .ok price := hprice
  rw [overlay_productBatch]
  simp only [decodeProduct, StorageSystem.get, Option.getD_some, hstof, stoui_to_string_uint]
  exact ⟨_, rfl⟩

end Written

section Contract

variable (shop : Shop)

/-- Writes that name entries of the shop and orders the thread has seen. -/
def Allowed (g : Set Uuid) : DbCall → Prop
  | .writeUser name batch =>
    name ∈ shop.accounts ∧ ∃ u : User, batch = userBatch u ∧ u.Backed shop g
  | .writeProduct name batch =>
    ∃ p : Product, p.UPC ∈ shop.catalogue ∧ name = to_string p.UPC.toNat ∧ batch = productBatch p
  | .writeOrder name batch =>
    ∃ t : Transaction, name = uuid_unparse_lower t.transaction_id ∧ batch = orderBatch t ∧
      shop.CartKnown t.shopping_cart
  | .openUser _ | .openProduct _ | .openOrder _ | .listProducts | .uuid_generate | .gmtime => True

/-- What an answer tells a thread that has seen these orders. -/
def Answers (g : Set Uuid) : (op : DbCall) → op.Ret → Prop
  | .openUser name, r =>
    (r = none ↔ name ∉ shop.accounts) ∧ ∀ e, r = some e → shop.UserEntryGood g e
  | .openProduct name, r => ∀ UPC : SKU, name = to_string UPC.toNat →
    (r = none ↔ UPC ∉ shop.catalogue) ∧ ∀ e, r = some e → ProductEntryGood e
  | .openOrder name, r => ∀ id ∈ g, name = uuid_unparse_lower id →
    ∃ e, r = some e ∧ shop.OrderEntryGood e
  | .listProducts, r => shop.Listed r
  | .writeOrder name _, _ => ∀ id, name = uuid_unparse_lower id → id ∈ g
  | .writeUser .., _ | .writeProduct .., _ | .uuid_generate, _ | .gmtime, _ => True

/-- The orders seen only grow, and no call fails. -/
def integrity : Contract storageSig Exn (Set Uuid) where
  pre := Allowed shop
  post g op r g' := g ⊆ g' ∧ ∃ a, r = .ok a ∧ Answers shop g' op a

variable {shop} {w : World} {g : Set Uuid}

theorem Good.openUser (h : Good shop w) (name : Text) : openEntry w.users name = w.users[name]? := by
  ext e
  simp [openEntry_eq_some, h.users_default]

theorem Good.openProduct (h : Good shop w) (name : Text) :
    openEntry w.products name = w.products[name]? := by
  ext e
  simp [openEntry_eq_some, h.products_default]

theorem Good.openOrder (h : Good shop w) (name : Text) :
    openEntry w.orders name = w.orders[name]? := by
  ext e
  simp [openEntry_eq_some, h.orders_default]

omit [Platform] in
/-- Writing to an entry that exists adds none. -/
theorem mem_put_of_mem {K : Type} [DecidableEq K] {db : Database K} {name other : Text}
    {batch : Batch K} (hname : name ∈ db) (hd : kDefault ∈ db) :
    other ∈ db.put name batch ↔ other ∈ db := by
  rw [Database.mem_put]
  constructor
  · rintro (rfl | rfl | h)
    · exact hname
    · exact hd
    · exact h
  · exact fun h => .inr (.inr h)

theorem Good.writeUser (h : Good shop w) (hg : g ⊆ w.placed) {name : Text} {u : User}
    (hname : name ∈ shop.accounts) (hu : u.Backed shop g) :
    Good shop { w with users := w.users.put name (userBatch u) } := by
  have hmem : name ∈ w.users := (h.accounts name).mpr hname
  have hnames : ∀ other, other ∈ w.users.put name (userBatch u) ↔ other ∈ w.users :=
    fun other => mem_put_of_mem hmem h.users_default
  refine { h with
    users_default := (hnames kDefault).mpr h.users_default
    accounts := fun other => (hnames other).trans (h.accounts other)
    users := ?_ }
  intro other e he
  by_cases hother : other = name
  · subst hother
    obtain ⟨old, hold⟩ := Database.mem_iff_exists.mp hmem
    rw [Database.getElem?_put_self, hold, Option.getD_some] at he
    obtain rfl := Option.some.inj he
    exact userEntryGood_overlay (hu.mono hg) (h.users other old hold).card
  · rw [Database.getElem?_put_of_ne _ hother h.users_default] at he
    exact h.users other e he

theorem Good.writeProduct (h : Good shop w) {p : Product} (hp : p.UPC ∈ shop.catalogue) :
    Good shop (w.restock p) := by
  have hmem : to_string p.UPC.toNat ∈ w.products := (h.catalogue p.UPC).mpr hp
  have hnames : ∀ other, other ∈ (w.restock p).products ↔ other ∈ w.products :=
    fun other => mem_put_of_mem hmem h.products_default
  refine { h with
    products_default := (hnames kDefault).mpr h.products_default
    catalogue := fun UPC => (hnames _).trans (h.catalogue UPC)
    products_named := fun name hname => h.products_named name ((hnames name).mp hname)
    products := ?_ }
  intro other e he hne
  by_cases hother : other = to_string p.UPC.toNat
  · subst hother
    rw [World.restock, Database.getElem?_put_self] at he
    obtain rfl := Option.some.inj he
    exact productEntryGood_overlay p _
  · rw [World.restock, Database.getElem?_put_of_ne _ hother h.products_default] at he
    exact h.products other e he hne

theorem placed_putOrder (w : World) (t : Transaction) : w.placed ⊆ (w.putOrder t).placed :=
  fun _ hid => Database.mem_put.mpr (.inr (.inr hid))

theorem Good.writeOrder (h : Good shop w) {t : Transaction} (ht : shop.CartKnown t.shopping_cart) :
    Good shop (w.putOrder t) := by
  refine { h with
    orders_default := Database.mem_put.mpr (.inr (.inl rfl))
    users := fun name e he => (h.users name e he).mono (placed_putOrder w t)
    orders := ?_ }
  intro other e he hne
  by_cases hother : other = uuid_unparse_lower t.transaction_id
  · subst hother
    rw [getElem?_putOrder_self] at he
    obtain rfl := Option.some.inj he
    exact orderEntryGood_orderEntry ht
  · rw [World.putOrder, Database.getElem?_put_of_ne _ hother h.orders_default] at he
    exact h.orders other e he hne

theorem Good.listed (h : Good shop w) : shop.Listed w.products.listEntries := by
  intro name hname hne
  have hmem : name ∈ w.products := Database.mem_listEntries.mp hname
  obtain ⟨UPC, rfl⟩ := h.products_named name hmem hne
  exact ⟨UPC, (h.catalogue UPC).mp hmem, rfl⟩

theorem Good.product (h : Good shop w) (UPC : SKU) :
    (w.products[to_string UPC.toNat]? = none ↔ UPC ∉ shop.catalogue) ∧
      ∀ e, w.products[to_string UPC.toNat]? = some e → ProductEntryGood e := by
  constructor
  · rw [← h.catalogue, Database.mem_iff_isSome, Option.not_isSome_iff_eq_none]
  · exact fun e he => h.products _ e he (productName_ne_kDefault UPC)

theorem Good.order (h : Good shop w) {id : Uuid} (hid : id ∈ w.placed) :
    ∃ e, w.orders[uuid_unparse_lower id]? = some e ∧ shop.OrderEntryGood e := by
  obtain ⟨e, he⟩ := Database.mem_iff_exists.mp hid
  exact ⟨e, he, h.orders _ e he (orderName_ne_kDefault id)⟩

/-- Every allowed call is answered, and leaves the databases good. -/
theorem Good.call (h : Good shop w) (hg : g ⊆ w.placed) (op : DbCall) (hop : Allowed shop g op) :
    Good shop (db op w).2 ∧ w.placed ⊆ (db op w).2.placed ∧
      ∃ a, (db op w).1 = .ok a ∧ Answers shop (db op w).2.placed op a := by
  cases op with
  | openUser name =>
    refine ⟨h, subset_rfl, _, rfl, ?_⟩
    rw [h.openUser]
    refine ⟨?_, fun e he => h.users name e he⟩
    rw [← h.accounts, Database.mem_iff_isSome, Option.not_isSome_iff_eq_none]
    exact Iff.rfl
  | openProduct name =>
    refine ⟨h, subset_rfl, _, rfl, ?_⟩
    rw [h.openProduct]
    rintro UPC rfl
    exact h.product UPC
  | openOrder name =>
    refine ⟨h, subset_rfl, _, rfl, ?_⟩
    rw [h.openOrder]
    rintro id hid rfl
    exact h.order hid
  | listProducts => exact ⟨h, subset_rfl, _, rfl, h.listed⟩
  | writeUser name batch =>
    obtain ⟨hname, u, rfl, hu⟩ := hop
    simp only [db, Database.store_eq_put]
    exact ⟨h.writeUser hg hname hu, subset_rfl, _, rfl, trivial⟩
  | writeProduct name batch =>
    obtain ⟨p, hp, rfl, rfl⟩ := hop
    simp only [db, Database.store_eq_put]
    exact ⟨h.writeProduct hp, subset_rfl, _, rfl, trivial⟩
  | writeOrder name batch =>
    obtain ⟨t, rfl, rfl, ht⟩ := hop
    simp only [db, Database.store_eq_put]
    refine ⟨h.writeOrder ht, placed_putOrder w t, _, rfl, ?_⟩
    intro id hid
    exact Database.mem_put.mpr (.inl hid.symm)
  | uuid_generate | gmtime => exact ⟨{ h with }, subset_rfl, _, rfl, trivial⟩

/-- One session alone. -/
theorem implements_integrity :
    Implements db (integrity shop) fun w g => Good shop w ∧ g ⊆ w.placed := by
  intro op w g ⟨h, hg⟩ hop
  obtain ⟨hgood, hplaced, a, ha, hanswer⟩ := h.call hg op hop
  exact ⟨_, ⟨hg.trans hplaced, a, ha, hanswer⟩, hgood, subset_rfl⟩

/-- Any number of sessions interleaved. -/
theorem serves_integrity {ι : Type} [DecidableEq ι] :
    Serves db (fun _ : ι => integrity shop)
      (fun w g => Good shop w ∧ ∀ i, g i ⊆ w.placed) fun _ _ => True := by
  intro i op w g ⟨h, hg⟩ _ hop
  obtain ⟨hgood, hplaced, a, ha, hanswer⟩ := h.call (hg i) op hop
  refine ⟨_, ⟨(hg i).trans hplaced, a, ha, hanswer⟩, hgood, ?_⟩
  intro j
  by_cases hj : j = i
  · subst hj
    simp
  · rw [Function.update_of_ne hj]
    exact (hg j).trans hplaced

end Contract

end OnlineShoppingCenter
