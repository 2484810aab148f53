import OnlineShoppingCenter.Coupling
import OnlineShoppingCenter.Orders

/-!
# What the storage system makes of what it reads

Two databases look the same to the methods of the storage system as far as
numbers on hand go, when the entries tell the same numbers, whatever the texts,
names and prices are. The methods then issue the same calls, and write the same
numbers.
-/
namespace OnlineShoppingCenter

open TextCodec ColumnFamilies EffectProgram StorageSystem

section View

variable {K V : Type} {view : Entry K → V} {db db' : Database K} {name : Text}

structure SameView (view : Entry K → V) (db db' : Database K) : Prop where
  listEntries : db.listEntries = db'.listEntries
  entry : ∀ name : Text, (db[name]?).map view = (db'[name]?).map view

theorem SameView.openEntry (h : SameView view db db') (name : Text) :
    (openEntry db name).map view = (openEntry db' name).map view := by
  have hdefault := congrArg Option.isSome (h.entry kDefault)
  have hname := h.entry name
  rw [Option.isSome_map, Option.isSome_map] at hdefault
  unfold OnlineShoppingCenter.openEntry
  rw [Database.openForReadOnly_pair, Database.openForReadOnly_pair]
  cases hd : db[kDefault]? <;> cases hd' : db'[kDefault]? <;> cases hn : db[name]? <;>
    cases hn' : db'[name]? <;> simp_all

/-- Batches that lead from entries of one view to entries of one view. -/
theorem SameView.put_same [DecidableEq K] {batch batch' : Batch K} (h : SameView view db db')
    (hbatch : ∀ e e', view e = view e' → view (batch.overlay e) = view (batch'.overlay e'))
    (name : Text) : SameView view (db.put name batch) (db'.put name batch') := by
  have hget : ∀ name : Text, view (db[name]?.getD Entry.empty) = view (db'[name]?.getD Entry.empty) := by
    intro name
    have hname := h.entry name
    cases hentry : db[name]? <;> cases hentry' : db'[name]? <;> simp_all
  refine ⟨by rw [Database.listEntries_put, Database.listEntries_put, h.listEntries], ?_⟩
  intro other
  rw [Database.getElem?_put, Database.getElem?_put]
  by_cases hother : other = name
  · rw [if_pos hother, if_pos hother, Option.map_some, Option.map_some, hbatch _ _ (hget name)]
  · rw [if_neg hother, if_neg hother]
    by_cases hdefault : other = kDefault
    · rw [if_pos hdefault, if_pos hdefault, Option.map_some, Option.map_some, hget]
    · rw [if_neg hdefault, if_neg hdefault]
      exact h.entry other

/-- Batches that lead to one view from all entries. -/
theorem SameView.put [DecidableEq K] {batch batch' : Batch K} (h : SameView view db db')
    (hbatch : ∀ e e', view (batch.overlay e) = view (batch'.overlay e')) (name : Text) :
    SameView view (db.put name batch) (db'.put name batch') :=
  h.put_same (fun e e' _ => hbatch e e') name

/-- A write that leaves the view of its entry. -/
theorem SameView.put_right [DecidableEq K] {batch : Batch K} {e : Entry K} (h : SameView view db db')
    (he : OnlineShoppingCenter.openEntry db' name = some e) (hbatch : view (batch.overlay e) = view e) :
    SameView view db (db'.put name batch) := by
  obtain ⟨hd, hget⟩ := openEntry_eq_some.mp he
  have hmem : name ∈ db' := Database.mem_iff_exists.mpr ⟨e, hget⟩
  refine ⟨by rw [h.listEntries, Database.listEntries_put_of_mem batch hmem hd], ?_⟩
  intro other
  rw [h.entry other]
  by_cases hother : other = name
  · subst hother
    rw [Database.getElem?_put_self, hget, Option.getD_some, Option.map_some, Option.map_some, hbatch]
  · rw [Database.getElem?_put_of_ne batch hother hd]

end View

variable [Platform]

/-- The number on hand of an entry: as it is stored, and as it is read. -/
def stockOf (e : Entry ProductKey) : Option (Except Exn UInt64) × Except Exn UInt32 :=
  ((e .on_hand).map stoul, (·.quantity) <$> decodeProduct 0 e)

/-- What a login makes of an order: its items, if the order can be read. -/
def orderOf (e : Entry OrderKey) : Text × Except Exn Unit :=
  (get e .items [], (fun _ => ()) <$> decodeOrder Platform.indeterminate_uuid {} e)

theorem stockOf_productBatch (p : Product) (e : Entry ProductKey) :
    stockOf ((productBatch p).overlay e) =
      (some (.ok p.quantity.toNat.toUInt64), .ok p.quantity) := by
  obtain ⟨price, hprice⟩ := Platform.stof_to_string p.price
  have hquantity : p.quantity.toNat < 2 ^ 64 := by
    have := p.quantity.toNat_lt
    omega
  have hon_hand : stoul (to_string p.quantity.toNat) = .ok p.quantity.toNat.toUInt64 := stoul_to_string hquantity
  rw [overlay_productBatch, stockOf]
  simp only [decodeProduct, StorageSystem.get, Option.getD_some, Option.map_some, hprice, hon_hand,
    stoui_to_string_uint]
  rfl

theorem orderOf_orderBatch (t : Transaction) (e : Entry OrderKey) :
    orderOf ((orderBatch t).overlay e) = (cartText t.shopping_cart, .ok ()) := by
  obtain ⟨amount, hamount⟩ := stof_amount t
  rw [overlay_orderBatch, orderOf, decodeOrder_orderEntry hamount]
  rfl

/-- Database calls that look the same. A record of a user is not looked at again. -/
inductive SameCall : Coupling storageSig where
  | openProduct (name : Text) : SameCall (.openProduct name) (.openProduct name)
      fun (r r' : Option (Entry ProductKey)) => r.map stockOf = r'.map stockOf
  | openOrder (name : Text) : SameCall (.openOrder name) (.openOrder name)
      fun (r r' : Option (Entry OrderKey)) => r.map orderOf = r'.map orderOf
  | listProducts : SameCall .listProducts .listProducts Eq
  | writeUser {name name' : Text} {batch batch' : Batch UserKey} :
      SameCall (.writeUser name batch) (.writeUser name' batch') fun _ _ => True
  | writeProduct {name : Text} {batch batch' : Batch ProductKey} :
      (∀ e e', stockOf (batch.overlay e) = stockOf (batch'.overlay e')) →
      SameCall (.writeProduct name batch) (.writeProduct name batch') fun _ _ => True
  | writeOrder {name : Text} {batch batch' : Batch OrderKey} :
      (∀ e e', orderOf (batch.overlay e) = orderOf (batch'.overlay e')) →
      SameCall (.writeOrder name batch) (.writeOrder name batch') fun _ _ => True
  | uuid_generate : SameCall .uuid_generate .uuid_generate Eq
  | gmtime : SameCall .gmtime .gmtime Eq

/-- Two worlds that look the same from there. -/
structure SameWorld (w w' : World) : Prop where
  products : SameView stockOf w.products w'.products
  orders : SameView orderOf w.orders w'.orders
  uuids : w.uuids = w'.uuids
  drawn : w.drawn = w'.drawn
  clock : w.clock = w'.clock
  ticks : w.ticks = w'.ticks

theorem respects_sameCall : Respects db SameCall SameWorld := by
  intro op op' R w w' hop h
  cases hop with
  | openProduct name => exact ⟨.ok (h.products.openEntry name), h⟩
  | openOrder name => exact ⟨.ok (h.orders.openEntry name), h⟩
  | listProducts => exact ⟨.ok h.products.listEntries, h⟩
  | writeUser =>
    simp only [db, Database.store_eq_put]
    exact ⟨.ok trivial, h.products, h.orders, h.uuids, h.drawn, h.clock, h.ticks⟩
  | writeProduct hbatch =>
    simp only [db, Database.store_eq_put]
    exact ⟨.ok trivial, h.products.put hbatch _, h.orders, h.uuids, h.drawn, h.clock, h.ticks⟩
  | writeOrder hbatch =>
    simp only [db, Database.store_eq_put]
    exact ⟨.ok trivial, h.products, h.orders.put hbatch _, h.uuids, h.drawn, h.clock, h.ticks⟩
  | uuid_generate =>
    refine ⟨.ok ?_, h.products, h.orders, h.uuids, congrArg (· + 1) h.drawn, h.clock, h.ticks⟩
    rw [h.uuids, h.drawn]
  | gmtime =>
    refine ⟨.ok ?_, h.products, h.orders, h.uuids, h.drawn, h.clock, congrArg (· + 1) h.ticks⟩
    rw [h.clock, h.ticks]

def Product.numbers (p : Product) : SKU × UInt32 × Bool × UInt32 :=
  (p.UPC, p.quantity, p.is_set, p.parts_set)

def ShoppingCart.numbers (c : ShoppingCart) : Std.ExtTreeMap SKU ((SKU × UInt32 × Bool × UInt32) × UInt32) :=
  c.cart.map fun _ e => (e.1.numbers, e.2)

structure Transaction.Alike (t t' : Transaction) : Prop where
  transaction_id : t.transaction_id = t'.transaction_id
  shopping_cart : t.shopping_cart.numbers = t'.shopping_cart.numbers
  payment_info : t.payment_info = t'.payment_info
  shipping_address : t.shipping_address = t'.shipping_address
  is_finalized : t.is_finalized = t'.is_finalized

structure User.Alike (u u' : User) : Prop where
  shipping_address : u.shipping_address = u'.shipping_address
  payment_info : u.payment_info = u'.payment_info
  history : u.transaction_history.transaction_list.length = u'.transaction_history.transaction_list.length
  shopping_cart : u.shopping_cart.numbers = u'.shopping_cart.numbers

section Numbers

variable {p p' : Product} {c c' : ShoppingCart} {qty : UInt32}

theorem Product.numbers_withQuantity (h : p.numbers = p'.numbers) (n : UInt32) :
    (p.withQuantity n).numbers = (p'.withQuantity n).numbers := by
  unfold Product.numbers at h
  simp only [Prod.mk.injEq] at h
  obtain ⟨hUPC, -, hset, hparts⟩ := h
  simp [Product.numbers, Product.withQuantity, Product.mark, hUPC, hset, hparts]

theorem ShoppingCart.getElem?_numbers (c : ShoppingCart) (UPC : SKU) :
    c.numbers[UPC]? = (c.cart[UPC]?).map fun e => (e.1.numbers, e.2) := Std.ExtTreeMap.getElem?_map

theorem ShoppingCart.numbers_set (h : c.numbers = c'.numbers) (hp : p.numbers = p'.numbers)
    (qty : UInt32) : (c.set p qty).numbers = (c'.set p' qty).numbers := by
  have hUPC : p.UPC = p'.UPC := congrArg Prod.fst hp
  apply Std.ExtTreeMap.ext_getElem?
  intro UPC
  have hold := congrArg (·[UPC]?) h
  simp only [getElem?_numbers] at hold
  simp only [getElem?_numbers, getElem?_set, hUPC]
  by_cases hkey : UPC = p'.UPC
  · simp [hkey, hp]
  · simp only [hkey, if_false]
    exact hold

theorem ShoppingCart.numbers_remove (h : c.numbers = c'.numbers) (UPC : SKU) :
    (c.remove UPC).numbers = (c'.remove UPC).numbers := by
  apply Std.ExtTreeMap.ext_getElem?
  intro other
  have hold := congrArg (·[other]?) h
  simp only [getElem?_numbers] at hold
  simp only [getElem?_numbers, getElem?_remove]
  by_cases hkey : other = UPC
  · simp [hkey]
  · simp only [hkey, if_false]
    exact hold

theorem ShoppingCart.quantity_of_numbers (h : c.numbers = c'.numbers) : c.quantity = c'.quantity := by
  funext UPC
  have hentry := congrArg (fun m => (m[UPC]?).map Prod.snd) h
  simpa [getElem?_numbers, quantity, Function.comp_def] using hentry

theorem ShoppingCart.checkCart_of_numbers (h : c.numbers = c'.numbers) (UPC : SKU) :
    c.checkCart UPC = c'.checkCart UPC := by
  have hquantity := congrFun (quantity_of_numbers h) UPC
  unfold quantity at hquantity
  unfold checkCart
  cases hc : c.cart[UPC]? <;> cases hc' : c'.cart[UPC]? <;> simp_all

/-- The items, as far as their numbers go. -/
theorem ShoppingCart.items_of_numbers (h : c.numbers = c'.numbers) :
    c.cart.toList.map (fun e => (e.1, e.2.1.numbers, e.2.2)) =
      c'.cart.toList.map fun e => (e.1, e.2.1.numbers, e.2.2) := by
  have hlist := congrArg Std.ExtTreeMap.toList h
  unfold numbers at hlist
  rwa [Std.ExtTreeMap.toList_map, Std.ExtTreeMap.toList_map] at hlist

theorem ShoppingCart.isEmpty_of_numbers (h : c.numbers = c'.numbers) : c.isEmpty = c'.isEmpty := by
  have hempty := congrArg List.isEmpty (items_of_numbers h)
  rwa [List.isEmpty_map, List.isEmpty_map, Std.ExtTreeMap.isEmpty_toList,
    Std.ExtTreeMap.isEmpty_toList] at hempty

theorem ShoppingCart.invalidQty_of_numbers (h : c.numbers = c'.numbers) : c.invalidQty = c'.invalidQty := by
  have hitems := congrArg (List.any · fun e => e.2.1.2.1 < e.2.2) (items_of_numbers h)
  simpa [invalidQty, Product.numbers, List.any_map, Function.comp_def] using hitems

end Numbers

section Methods

variable {p p' : Product} {c c' : ShoppingCart} {t t' : Transaction} {h h' : TransactionHistory}

theorem coupled_query {op op' : DbCall} {R : op.Ret → op'.Ret → Prop} (hop : SameCall op op' R) :
    Coupled SameCall R (query op) (query op') := Coupled.perform hop

theorem coupled_storeProduct (hp : p.numbers = p'.numbers) :
    Coupled SameCall (fun _ _ => True) (storeProduct p) (storeProduct p') := by
  unfold Product.numbers at hp
  simp only [Prod.mk.injEq] at hp
  obtain ⟨hUPC, hquantity, hset, -⟩ := hp
  unfold storeProduct
  rw [hset, hUPC]
  apply Coupled.ite (.ret trivial)
  refine coupled_query (.writeProduct ?_)
  intro e e'
  rw [stockOf_productBatch, stockOf_productBatch, hquantity]

theorem coupled_setQuantity (hp : p.numbers = p'.numbers) (n : UInt32) :
    Coupled SameCall (fun q q' => q.numbers = q'.numbers) (setQuantity p n) (setQuantity p' n) := by
  have hn := Product.numbers_withQuantity hp n
  exact (coupled_storeProduct hn).bind fun _ _ _ => .ret hn

theorem decodeProduct_quantity (UPC : SKU) (e : Entry ProductKey) :
    (·.numbers) <$> decodeProduct UPC e = (fun n => (UPC, n, true, P_ALL_SET)) <$> (stockOf e).2 := by
  unfold stockOf decodeProduct
  simp only [map_bind, map_pure]
  rfl

theorem coupled_getProduct (UPC : SKU) :
    Coupled SameCall (fun p p' => p.numbers = p'.numbers) (getProduct UPC) (getProduct UPC) := by
  rw [getProduct_eq]
  apply (coupled_query (.openProduct _)).bind
  intro r r' hr
  cases r with
  | none =>
    cases r' with
    | none => exact .fail _
    | some e' => cases hr
  | some e =>
    cases r' with
    | none => cases hr
    | some e' =>
      have hview : stockOf e = stockOf e' := Option.some.inj hr
      have hdecode : (·.numbers) <$> decodeProduct UPC e = (·.numbers) <$> decodeProduct UPC e' := by
        rw [decodeProduct_quantity, decodeProduct_quantity, hview]
      apply (Coupled.ofExcept (outcomes_of_map hdecode)).bind
      intro p p' hp
      have hquantity : p.quantity = p'.quantity := congrArg (·.2.1) hp
      have hbatch : ∀ x x', stockOf ((productBatch p).overlay x) = stockOf ((productBatch p').overlay x') := by
        intro x x'
        rw [stockOf_productBatch, stockOf_productBatch, hquantity]
      exact (coupled_query (.writeProduct hbatch)).bind fun _ _ _ => .ret hp

theorem coupled_getProducts : Coupled SameCall Eq getProducts getProducts := by
  apply (coupled_query .listProducts).bind
  rintro names _ rfl
  exact coupled_ofExcept_self _

theorem coupled_storeUser (u u' : User) :
    Coupled SameCall (fun _ _ => True) (storeUser u) (storeUser u') := coupled_query .writeUser

theorem coupled_storeTransaction (ht : t.Alike t') :
    Coupled SameCall (fun _ _ => True) (storeTransaction t) (storeTransaction t') := by
  unfold storeTransaction
  rw [ht.is_finalized, ht.transaction_id]
  apply Coupled.ite (.ret trivial)
  refine coupled_query (.writeOrder ?_)
  intro e e'
  rw [orderOf_orderBatch, orderOf_orderBatch,
    cartText_of_quantity (ShoppingCart.quantity_of_numbers ht.shopping_cart)]

theorem coupled_loadItems (items : List Text) (hc : c.numbers = c'.numbers) :
    Coupled SameCall (fun c c' => c.numbers = c'.numbers) (loadItems items c) (loadItems items c') := by
  induction items generalizing c c' with
  | nil => exact .ret hc
  | cons item rest ih =>
    apply (coupled_ofExcept_self (parseItem item)).bind
    rintro ⟨UPC, qty⟩ _ rfl
    apply (coupled_getProduct UPC).bind
    intro p p' hp
    rw [ShoppingCart.addProductQty_local, ShoppingCart.addProductQty_local]
    exact ih (ShoppingCart.numbers_set hc hp qty)

theorem decodeOrder_view (id : Uuid) (cart : ShoppingCart) (e : Entry OrderKey) :
    (fun _ => ()) <$> decodeOrder id cart e = (orderOf e).2 := by
  unfold orderOf decodeOrder
  simp only [map_bind, map_pure]

theorem coupled_getTransaction (id : Uuid) :
    Coupled SameCall (fun _ _ => True) (getTransaction id) (getTransaction id) := by
  rw [getTransaction_eq]
  apply (coupled_query (.openOrder _)).bind
  intro r r' hr
  cases r with
  | none =>
    cases r' with
    | none => exact .fail _
    | some e' => cases hr
  | some e =>
    cases r' with
    | none => cases hr
    | some e' =>
      have hview : orderOf e = orderOf e' := Option.some.inj hr
      have hitems : get e .items [] = get e' .items [] := congrArg Prod.fst hview
      dsimp only
      rw [hitems]
      apply (coupled_loadItems _ rfl).bind
      intro cart cart' _
      have hdecode : (fun _ => ()) <$> decodeOrder id cart e =
          (fun _ => ()) <$> decodeOrder id cart' e' := by
        rw [decodeOrder_view, decodeOrder_view, hview]
      exact (Coupled.ofExcept (outcomes_of_map hdecode)).mono fun _ _ _ => trivial

theorem coupled_loadOrders (lines : List Text) (tid : Uuid)
    (hh : h.transaction_list.length = h'.transaction_list.length) :
    Coupled SameCall (fun h h' => h.transaction_list.length = h'.transaction_list.length)
      (loadOrders lines tid h) (loadOrders lines tid h') := by
  induction lines generalizing tid h h' with
  | nil => exact .ret hh
  | cons line rest ih =>
    apply (coupled_getTransaction _).bind
    intro t t' _
    apply ih
    simp [TransactionHistory.addTransaction, hh]

end Methods

end OnlineShoppingCenter
