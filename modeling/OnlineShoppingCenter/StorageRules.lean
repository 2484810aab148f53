import OnlineShoppingCenter.StorageSystem

/-!
# Rules for the storage methods

Each method is reduced to what it reads, a pure decoding, and one update of the
world. The rules for the loading loops take an invariant of the world and a
property of the objects loaded. The effect of a store and the round trips of the
records rest on them.
-/
namespace OnlineShoppingCenter

open TextCodec ColumnFamilies EffectProgram

/-- A computation that succeeds has succeeded in both of its parts. -/
theorem bind_ok {α β : Type} {x : Except Exn α} {f : α → Except Exn β} {b : β}
    (h : x >>= f = .ok b) : ∃ a, x = .ok a ∧ f a = .ok b := by
  cases x with
  | error x => cases h
  | ok a => exact ⟨a, rfl, h⟩

/-- One that fails has failed in one of them. -/
theorem bind_error {α β : Type} {x : Except Exn α} {f : α → Except Exn β} {e : Exn}
    (h : x >>= f = .error e) : x = .error e ∨ ∃ a, x = .ok a ∧ f a = .error e := by
  cases x with
  | error x =>
    cases h
    exact .inl rfl
  | ok a => exact .inr ⟨a, rfl, h⟩

/-- An entry opens when it and the default entry exist. -/
theorem openEntry_eq_some {K : Type} {db : Database K} {name : Text} {e : Entry K} :
    openEntry db name = some e ↔ kDefault ∈ db ∧ db[name]? = some e := by
  rw [openEntry, Database.openForReadOnly_pair, Database.mem_iff_isSome]
  cases hd : db[kDefault]? <;> cases hn : db[name]? <;> simp

variable [Platform]

namespace World

/-- Store a product under its UPC. -/
def restock (w : World) (p : Product) : World :=
  { w with products :=
      w.products.put (to_string p.UPC.toNat) (StorageSystem.productBatch p) }

/-- The world after the record of a user is stored. -/
def putUser (w : World) (u : User) : World :=
  { w with users := w.users.put u.user_name (StorageSystem.userBatch u) }

/-- The world after an order is stored. -/
def putOrder (w : World) (t : Transaction) : World :=
  { w with orders :=
      w.orders.put (uuid_unparse_lower t.transaction_id) (StorageSystem.orderBatch t) }

@[simp] theorem restock_users (w : World) (p : Product) : (w.restock p).users = w.users := rfl
@[simp] theorem restock_orders (w : World) (p : Product) : (w.restock p).orders = w.orders := rfl
@[simp] theorem restock_uuids (w : World) (p : Product) : (w.restock p).uuids = w.uuids := rfl
@[simp] theorem restock_drawn (w : World) (p : Product) : (w.restock p).drawn = w.drawn := rfl
@[simp] theorem putUser_products (w : World) (u : User) : (w.putUser u).products = w.products := rfl
@[simp] theorem putUser_orders (w : World) (u : User) : (w.putUser u).orders = w.orders := rfl
@[simp] theorem putUser_uuids (w : World) (u : User) : (w.putUser u).uuids = w.uuids := rfl
@[simp] theorem putUser_drawn (w : World) (u : User) : (w.putUser u).drawn = w.drawn := rfl
@[simp] theorem putOrder_users (w : World) (t : Transaction) : (w.putOrder t).users = w.users := rfl
@[simp] theorem putOrder_products (w : World) (t : Transaction) :
    (w.putOrder t).products = w.products := rfl
@[simp] theorem putOrder_uuids (w : World) (t : Transaction) : (w.putOrder t).uuids = w.uuids := rfl
@[simp] theorem putOrder_drawn (w : World) (t : Transaction) : (w.putOrder t).drawn = w.drawn := rfl

end World

namespace StorageSystem

section Calls

variable {w : World} {E : Exn → World → Prop} {name : Text}

@[simp] theorem wp_openUser {Q : Option (Entry UserKey) → World → Prop} :
    wp db.exact (openUser name) w Q E ↔ Q (openEntry w.users name) w := wp_exact_perform

@[simp] theorem wp_openProduct {Q : Option (Entry ProductKey) → World → Prop} :
    wp db.exact (openProduct name) w Q E ↔ Q (openEntry w.products name) w := wp_exact_perform

@[simp] theorem wp_openOrder {Q : Option (Entry OrderKey) → World → Prop} :
    wp db.exact (openOrder name) w Q E ↔ Q (openEntry w.orders name) w := wp_exact_perform

@[simp] theorem wp_listProducts {Q : List Text → World → Prop} :
    wp db.exact listProducts w Q E ↔ Q w.products.listEntries w := wp_exact_perform

@[simp] theorem wp_writeUser {batch : Batch UserKey} {Q : Unit → World → Prop} :
    wp db.exact (writeUser name batch) w Q E ↔
      Q () { w with users := w.users.put name batch } := by
  refine wp_exact_perform.trans ?_
  simp only [db, Database.store_eq_put]
  exact Iff.rfl

@[simp] theorem wp_writeProduct {batch : Batch ProductKey} {Q : Unit → World → Prop} :
    wp db.exact (writeProduct name batch) w Q E ↔
      Q () { w with products := w.products.put name batch } := by
  refine wp_exact_perform.trans ?_
  simp only [db, Database.store_eq_put]
  exact Iff.rfl

@[simp] theorem wp_writeOrder {batch : Batch OrderKey} {Q : Unit → World → Prop} :
    wp db.exact (writeOrder name batch) w Q E ↔
      Q () { w with orders := w.orders.put name batch } := by
  refine wp_exact_perform.trans ?_
  simp only [db, Database.store_eq_put]
  exact Iff.rfl

end Calls

/-- What `getProduct` makes of an entry, before it stores it again. -/
def decodeProduct (UPC : SKU) (entry : Entry ProductKey) : Except Exn Product := do
  let name := get entry .name []
  let category := get entry .category name
  let price_s := get entry .price category
  let price ← stof price_s
  let quantity ← stoui (get entry .on_hand price_s)
  return { is_set := true, UPC, quantity, price, category, name, parts_set := P_ALL_SET }

/-- What `getTransaction` makes of an entry once the items are loaded. -/
def decodeOrder (id : Uuid) (cart : ShoppingCart) (entry : Entry OrderKey) :
    Except Exn Transaction := do
  let date := get entry .date (get entry .items [])
  let total_s := get entry .total date
  let total ← stof total_s
  let name := get entry .shipaddr_name total_s
  let street := get entry .shipaddr_street name
  let city := get entry .shipaddr_city street
  let state := get entry .shipaddr_state city
  let zip_s := get entry .shipaddr_zip state
  let zip ← stoui zip_s
  let country := get entry .shipaddr_country zip_s
  let num_s := get entry .cc_num country
  let num ← stoul num_s
  let exp := get entry .cc_exp num_s
  let cv2 ← stoui (get entry .cc_cv2 exp)
  return {
    transaction_id := id
    transaction_date := strptime date Platform.indeterminate_tm
    shopping_cart := cart
    transaction_amount := total
    payment_info := { cc_num := num, cc_exp := exp, cc_cv2 := cv2 }
    shipping_address := ⟨name, street, city, state, zip, country, true, S_ALL_SET⟩
    is_finalized := true }

theorem setQuantity_eq {p : Product} {n : UInt32} (h : (p.withQuantity n).is_set = true) :
    setQuantity p n = (do
      writeProduct (to_string p.UPC.toNat) (productBatch (p.withQuantity n))
      return p.withQuantity n) := by
  simp [setQuantity, storeProduct, h]

/-- The setters complete the product with the last of the five parts. -/
theorem product_setters (UPC : SKU) (name category : Text) (price : Flt) (quantity : UInt32) :
    ((((({} : Product).setUPC UPC).setName name).setCategory category).setPrice price).withQuantity
      quantity = { is_set := true, UPC, quantity, price, category, name, parts_set := P_ALL_SET } := by
  have h : (((((0 : UInt32) ||| P_UPC_SET) ||| P_NAME_SET) ||| P_CATEGORY_SET) ||| P_PRICE_SET) |||
      P_QUANTITY_SET = P_ALL_SET := by decide
  simp only [Product.setUPC, Product.setName, Product.setCategory, Product.setPrice,
    Product.withQuantity, Product.mark, h, if_true]

/-- The setters complete the address with the last of the six parts. -/
theorem address_setters (name street city state country : Text) (zip : UInt32) :
    (((((({} : ShippingAddress).changeShippingName name).changeStreet street).changeCity
      city).changeState state).changeZip zip).changeCountry country =
      ⟨name, street, city, state, zip, country, true, S_ALL_SET⟩ := by
  have h : ((((((0 : UInt32) ||| S_NAME_SET) ||| S_STREET_SET) ||| S_CITY_SET) ||| S_STATE_SET) |||
      S_ZIP_SET) ||| S_COUNTRY_SET = S_ALL_SET := by decide
  simp only [ShippingAddress.changeShippingName, ShippingAddress.changeStreet,
    ShippingAddress.changeCity, ShippingAddress.changeState, ShippingAddress.changeZip,
    ShippingAddress.changeCountry, ShippingAddress.mark, h, if_true]

/-- A product is read, decoded and stored again. -/
theorem getProduct_eq (UPC : SKU) :
    getProduct UPC = (do
      match ← openProduct (to_string UPC.toNat) with
      | none => .fail .system_error
      | some entry =>
        let p ← .ofExcept (decodeProduct UPC entry)
        writeProduct (to_string UPC.toNat) (productBatch p)
        return p) := by
  unfold getProduct
  congr 1
  funext r
  cases r with
  | none => rfl
  | some entry =>
    simp only [decodeProduct, Prog.ofExcept_bind, Prog.bind_assoc]
    congr 1
    funext price
    congr 1
    funext quantity
    rw [setQuantity_eq (by rw [product_setters]), product_setters]
    rfl

/-- The entry is looked up before anything is parsed. -/
theorem getTransaction_eq (id : Uuid) :
    getTransaction id = (do
      match ← openOrder (uuid_unparse_lower id) with
      | none => .fail .undefined
      | some entry =>
        let cart ← loadItems (split (get entry .items []) '\n') {}
        .ofExcept (decodeOrder id cart entry)) := by
  unfold getTransaction
  congr 1
  funext r
  cases r with
  | none => rfl
  | some entry =>
    dsimp only
    congr 1
    funext cart
    simp only [decodeOrder, Prog.ofExcept_bind]
    congr 1
    funext total
    congr 1
    funext zip
    congr 1
    funext num
    congr 1
    funext cv2
    rw [address_setters]
    rfl

/-- What a product that can be read is made of. -/
theorem decodeProduct_ok {UPC : SKU} {entry : Entry ProductKey} {p : Product}
    (h : decodeProduct UPC entry = .ok p) : p.UPC = UPC ∧ p.is_set = true := by
  simp only [decodeProduct, bind, Except.bind] at h
  split at h
  · cases h
  · split at h
    · cases h
    · cases h
      exact ⟨rfl, rfl⟩

/-- What an order that can be read is made of. -/
theorem decodeOrder_ok {id : Uuid} {cart : ShoppingCart} {entry : Entry OrderKey} {t : Transaction}
    (h : decodeOrder id cart entry = .ok t) :
    t.transaction_id = id ∧ t.shopping_cart = cart ∧ t.is_finalized = true := by
  simp only [decodeOrder, bind, Except.bind] at h
  repeat (split at h; · cases h)
  cases h
  exact ⟨rfl, rfl, rfl⟩

theorem stof_error {s : Text} {e : Exn} (h : stof s = .error e) : e ≠ .runtime_error := by
  rcases Platform.stof_error s e h with rfl | rfl <;> decide

/-- Only parsing fails, and never with a runtime error. -/
theorem decodeProduct_error {UPC : SKU} {entry : Entry ProductKey} {e : Exn}
    (h : decodeProduct UPC entry = .error e) : e ≠ .runtime_error := by
  rcases bind_error h with h | ⟨price, -, h⟩
  · exact stof_error h
  rcases bind_error h with h | ⟨quantity, -, h⟩
  · exact stoui_error h
  · cases h

theorem decodeOrder_error {id : Uuid} {cart : ShoppingCart} {entry : Entry OrderKey} {e : Exn}
    (h : decodeOrder id cart entry = .error e) : e ≠ .runtime_error := by
  rcases bind_error h with h | ⟨total, -, h⟩
  · exact stof_error h
  rcases bind_error h with h | ⟨zip, -, h⟩
  · exact stoui_error h
  rcases bind_error h with h | ⟨num, -, h⟩
  · exact stoul_error h
  rcases bind_error h with h | ⟨cv2, -, h⟩
  · exact stoui_error h
  · cases h

omit [Platform] in
theorem stoulEach_error {names : List Text} {e : Exn} (h : stoulEach names = .error e) :
    e ≠ .runtime_error := by
  induction names with
  | nil => cases h
  | cons upc_s rest ih =>
    rcases bind_error h with h | ⟨UPC, -, h⟩
    · exact stoul_error h
    rcases bind_error h with h | ⟨upcs, -, h⟩
    · exact ih h
    · cases h

omit [Platform] in
theorem parseItem_error {item : Text} {e : Exn} (h : parseItem item = .error e) :
    e ≠ .runtime_error := by
  unfold parseItem at h
  split at h
  · rcases bind_error h with h | ⟨UPC, -, h⟩
    · exact stoul_error h
    rcases bind_error h with h | ⟨qty, -, h⟩
    · exact stoui_error h
    · cases h
  · cases h
    decide

/-- The product that a read yields now. -/
def Decoded (w : World) (UPC : SKU) (p : Product) : Prop :=
  ∃ e, openEntry w.products (to_string UPC.toNat) = some e ∧ decodeProduct UPC e = .ok p

/-- A product that is read is complete and has the UPC asked for. -/
theorem Decoded.sound {w : World} {UPC : SKU} {p : Product} (h : Decoded w UPC p) :
    p.UPC = UPC ∧ p.is_set = true := by
  obtain ⟨e, -, hp⟩ := h
  exact decodeProduct_ok hp

section Sequential

variable {Q : Product → World → Prop} {P : Unit → World → Prop} {E : Exn → World → Prop} {w : World}

/-- Reading a product writes the numbers it has read, and fails without a change. -/
theorem wp_getProduct {UPC : SKU} (hok : ∀ p, Decoded w UPC p → Q p (w.restock p))
    (herr : ∀ e, e ≠ .runtime_error → (¬ ∃ p, Decoded w UPC p) → E e w) :
    wp db.exact (getProduct UPC) w Q E := by
  rw [getProduct_eq, wp_bind, wp_openProduct]
  cases h : openEntry w.products (to_string UPC.toNat) with
  | none =>
    refine herr _ (by decide) ?_
    rintro ⟨p, e, he, -⟩
    rw [h] at he
    cases he
  | some e =>
    cases hp : decodeProduct UPC e with
    | error x =>
      simp only [hp, Prog.ofExcept_error, Prog.fail_bind, wp_fail]
      refine herr x (decodeProduct_error hp) ?_
      rintro ⟨p, e', he, hp'⟩
      rw [h] at he
      cases he
      rw [hp] at hp'
      cases hp'
    | ok p =>
      have hUPC : p.UPC = UPC := (decodeProduct_ok hp).1
      have := hok p ⟨e, h, hp⟩
      subst hUPC
      simpa [hp, World.restock] using this

/-- A complete product is stored under its UPC. -/
theorem wp_storeProduct {p : Product} (h : p.is_set = true) :
    wp db.exact (storeProduct p) w P E ↔ P () (w.restock p) := by
  simp [storeProduct, h, World.restock]

/-- Setting a quantity stores the product. -/
theorem wp_setQuantity {p : Product} {n : UInt32} (h : p.is_set = true) :
    wp db.exact (setQuantity p n) w Q E ↔ Q (p.withQuantity n) (w.restock (p.withQuantity n)) := by
  simp [setQuantity, wp_storeProduct (Product.withQuantity_is_set h n)]

@[simp] theorem wp_storeUser {u : User} :
    wp db.exact (storeUser u) w P E ↔ P () (w.putUser u) := by
  simp [storeUser, World.putUser]

/-- An order that is finalized is stored under its id. -/
theorem wp_storeTransaction {t : Transaction} (h : t.is_finalized = true) :
    wp db.exact (storeTransaction t) w P E ↔ P () (w.putOrder t) := by
  simp [storeTransaction, h, World.putOrder]

end Sequential

section Stores

variable (w : World)

theorem run_storeUser (u : User) : run db (storeUser u) w = (.ok (), w.putUser u) := by
  obtain ⟨_, w', hrun, rfl⟩ := exists_run_ok
    ((wp_storeUser (w := w) (P := fun _ w' => w' = w.putUser u)).mpr rfl)
  exact hrun

theorem run_storeProduct {p : Product} (h : p.is_set = true) :
    run db (storeProduct p) w = (.ok (), w.restock p) := by
  obtain ⟨_, w', hrun, rfl⟩ := exists_run_ok
    ((wp_storeProduct (w := w) (P := fun _ w' => w' = w.restock p) h).mpr rfl)
  exact hrun

theorem run_storeTransaction {t : Transaction} (h : t.is_finalized = true) :
    run db (storeTransaction t) w = (.ok (), w.putOrder t) := by
  obtain ⟨_, w', hrun, rfl⟩ := exists_run_ok
    ((wp_storeTransaction (w := w) (P := fun _ w' => w' = w.putOrder t) h).mpr rfl)
  exact hrun

end Stores

end StorageSystem

end OnlineShoppingCenter
