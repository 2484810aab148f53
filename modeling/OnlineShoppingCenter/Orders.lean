import OnlineShoppingCenter.Accounts
import OnlineShoppingCenter.Readability

/-!
# What a stored order says

The entry of an order is a function of the order alone, and reading it gives
the items, the address and the card that were stored.
-/
namespace OnlineShoppingCenter

open TextCodec ColumnFamilies EffectProgram StorageSystem

variable [Platform]

/-- The entry that `storeTransaction` leaves, whatever was there. -/
def orderEntry (t : Transaction) : Entry OrderKey := (orderBatch t).overlay Entry.empty

theorem overlay_orderBatch (t : Transaction) (e : Entry OrderKey) :
    (orderBatch t).overlay e = orderEntry t := by
  funext key
  cases key <;> rfl

theorem orderName_ne_kDefault (id : Uuid) : uuid_unparse_lower id ≠ kDefault := by
  intro h
  have htext := Platform.unparse_text id
  rw [show Platform.uuid_unparse_lower id = kDefault from h] at htext
  revert htext
  decide

theorem orderName_injective {id other : Uuid} (h : uuid_unparse_lower id = uuid_unparse_lower other) :
    id = other := by
  have hparse := parse_unparse id
  rw [h, parse_unparse] at hparse
  exact (Option.some.inj hparse).symm

section Put

variable {w : World} {t : Transaction}

theorem getElem?_putOrder_self (w : World) (t : Transaction) :
    (w.putOrder t).orders[uuid_unparse_lower t.transaction_id]? = some (orderEntry t) := by
  rw [World.putOrder, Database.getElem?_put_self, overlay_orderBatch]

/-- Storing an order leaves the other entries alone. -/
theorem getElem?_putOrder_of_ne {name : Text} {e : Entry OrderKey}
    (h : w.orders[name]? = some e) (hne : name ≠ uuid_unparse_lower t.transaction_id) :
    (w.putOrder t).orders[name]? = some e := by
  rw [World.putOrder, Database.getElem?_put, if_neg hne]
  split
  · rename_i hname
    rw [← hname, h]
    rfl
  · exact h

theorem openEntry_putOrder_self (w : World) (t : Transaction) :
    openEntry (w.putOrder t).orders (uuid_unparse_lower t.transaction_id) = some (orderEntry t) := by
  apply openEntry_eq_some.mpr
  constructor
  · exact Database.mem_put.mpr (.inr (.inl rfl))
  · exact getElem?_putOrder_self w t

theorem openEntry_putOrder_of_ne {name : Text} {e : Entry OrderKey}
    (h : openEntry w.orders name = some e) (hne : name ≠ uuid_unparse_lower t.transaction_id) :
    openEntry (w.putOrder t).orders name = some e := by
  apply openEntry_eq_some.mpr
  constructor
  · exact Database.mem_put.mpr (.inr (.inl rfl))
  · exact getElem?_putOrder_of_ne (openEntry_eq_some.mp h).2 hne

end Put

/-- The same order as far as its entry tells: the items with their quantities,
the six parts of the address, and the card. -/
structure Transaction.Agrees (t t' : Transaction) : Prop where
  transaction_id : t'.transaction_id = t.transaction_id
  items : t'.shopping_cart.quantity = t.shopping_cart.quantity
  shipping_name : t'.shipping_address.shipping_name = t.shipping_address.shipping_name
  street : t'.shipping_address.street = t.shipping_address.street
  city : t'.shipping_address.city = t.shipping_address.city
  state : t'.shipping_address.state = t.shipping_address.state
  zip : t'.shipping_address.zip = t.shipping_address.zip
  country : t'.shipping_address.country = t.shipping_address.country
  cc_num : t'.payment_info.cc_num = t.payment_info.cc_num
  cc_exp : t'.payment_info.cc_exp = t.payment_info.cc_exp
  cc_cv2 : t'.payment_info.cc_cv2 = t.payment_info.cc_cv2

/-- The order that is read back from the entry, with the items and the total read. -/
def Transaction.reread (t : Transaction) (cart : ShoppingCart) (amount : Flt) : Transaction where
  transaction_id := t.transaction_id
  transaction_date := strptime (strftime t.transaction_date) Platform.indeterminate_tm
  shopping_cart := cart
  transaction_amount := amount
  payment_info := { cc_num := t.payment_info.cc_num, cc_exp := t.payment_info.cc_exp,
                    cc_cv2 := t.payment_info.cc_cv2 }
  shipping_address := ⟨t.shipping_address.shipping_name, t.shipping_address.street,
    t.shipping_address.city, t.shipping_address.state, t.shipping_address.zip,
    t.shipping_address.country, true, S_ALL_SET⟩
  is_finalized := true

/-- The total that is stored can be read. -/
theorem stof_amount (t : Transaction) :
    ∃ amount, stof (to_string_f t.transaction_amount) = .ok amount :=
  Platform.stof_to_string t.transaction_amount

/-- The entry of an order decodes, whatever items were loaded for it. -/
theorem decodeOrder_orderEntry {t : Transaction} {amount : Flt}
    (h : stof (to_string_f t.transaction_amount) = .ok amount) (id : Uuid) (cart : ShoppingCart) :
    decodeOrder id cart (orderEntry t) = .ok { t.reread cart amount with transaction_id := id } := by
  simp only [decodeOrder, StorageSystem.get, orderEntry, orderBatch, Batch.overlay, List.foldl_cons,
    List.foldl_nil, Function.update_self, Function.update_of_ne, ne_eq, reduceCtorEq,
    not_false_eq_true, Option.getD_some, h, stoui_to_string_uint, stoul_to_string_ulong]
  rfl

section Cart

variable {K : World → Prop} {items : List Text} {c c' : ShoppingCart}

theorem ShoppingCart.quantity_set (c : ShoppingCart) (p : Product) (qty : UInt32) :
    (c.set p qty).quantity = Function.update c.quantity p.UPC (some qty) := by
  funext UPC
  unfold ShoppingCart.quantity
  rw [ShoppingCart.getElem?_set]
  by_cases h : UPC = p.UPC
  · simp [h]
  · simp [h]

/-- The stored text is a text of the quantities. -/
theorem cartText_of_quantity (h : c.quantity = c'.quantity) : cartText c = cartText c' := by
  have hmap : c.cart.map (fun _ e => e.2) = c'.cart.map fun _ e => e.2 := by
    apply Std.ExtTreeMap.ext_getElem?
    intro UPC
    rw [Std.ExtTreeMap.getElem?_map, Std.ExtTreeMap.getElem?_map]
    exact congrFun h UPC
  have hlist := congrArg Std.ExtTreeMap.toList hmap
  rw [Std.ExtTreeMap.toList_map, Std.ExtTreeMap.toList_map] at hlist
  have hlines := congrArg
    (List.map fun e : SKU × UInt32 => to_string e.1.toNat ++ ':' :: to_string e.2.toNat) hlist
  rw [List.map_map, List.map_map] at hlines
  exact congrArg (join '\n') hlines

/-- The quantities loaded are the quantities the lines give. -/
theorem StorageSystem.LoadedItems.quantity (h : LoadedItems K items c c') :
    c'.quantity = items.foldl readItem c.quantity := by
  induction h with
  | nil => rfl
  | cons hitem _ hp _ ih =>
    rw [ih, List.foldl_cons, ShoppingCart.quantity_set, hp.sound.1, readItem, hitem]

end Cart

section Reading

variable {w : World}

theorem itemReadable_itemText {UPC : SKU} {qty : UInt32} :
    ItemReadable (· = w) (itemText UPC qty) ↔ Readable w UPC := by
  constructor
  · rintro ⟨UPC', qty', hparse, hread⟩
    rw [parse_itemText] at hparse
    cases hparse
    exact hread w rfl
  · intro hread
    refine ⟨UPC, qty, parse_itemText UPC qty, ?_⟩
    rintro w' rfl
    exact hread

theorem itemsReadable_cartText {c : ShoppingCart} :
    (∀ item ∈ split (cartText c) '\n', ItemReadable (· = w) item) ↔ ∀ UPC ∈ c.cart, Readable w UPC := by
  rw [split_cartText, List.forall_mem_map]
  constructor
  · intro h UPC hUPC
    rw [← Std.ExtTreeMap.mem_keys, ← Std.ExtTreeMap.map_fst_toList_eq_keys] at hUPC
    obtain ⟨e, he, rfl⟩ := List.mem_map.mp hUPC
    exact itemReadable_itemText.mp (h e he)
  · intro h e he
    apply itemReadable_itemText.mpr
    apply h
    rw [← Std.ExtTreeMap.mem_keys, ← Std.ExtTreeMap.map_fst_toList_eq_keys]
    exact List.mem_map_of_mem he

/-- The order of an entry can be read when its products can. -/
theorem orderReadable_orderEntry {id : Uuid} {t : Transaction}
    (hentry : openEntry w.orders (uuid_unparse_lower id) = some (orderEntry t))
    (hcart : ∀ UPC ∈ t.shopping_cart.cart, Readable w UPC) : OrderReadable (· = w) id := by
  obtain ⟨amount, hamount⟩ := stof_amount t
  rintro w' rfl
  exact ⟨orderEntry t, hentry, itemsReadable_cartText.mpr hcart, _, decodeOrder_orderEntry hamount id {}⟩

/-- `getTransaction` rebuilds the order from its entry. -/
theorem run_getTransaction {t : Transaction}
    (hentry : openEntry w.orders (uuid_unparse_lower t.transaction_id) = some (orderEntry t))
    (hcart : ∀ UPC ∈ t.shopping_cart.cart, Readable w UPC) :
    ∃ cart amount w', run db (getTransaction t.transaction_id) w = (.ok (t.reread cart amount), w') ∧
      cart.quantity = t.shopping_cart.quantity ∧
        stof (to_string_f t.transaction_amount) = .ok amount := by
  have hread := OrderReadable.same (orderReadable_orderEntry hentry hcart)
  have h := wp_getTransaction (restockable_sameReadable w) t.transaction_id (sameReadable_refl w)
  rw [wp_exact] at h
  obtain ⟨amount, hamount⟩ := stof_amount t
  cases hr : run db (getTransaction t.transaction_id) w with
  | mk r w₂ =>
    rw [hr] at h
    cases r with
    | error e => exact absurd hread h.2.2
    | ok t' =>
      obtain ⟨-, w', entry, cart, hw', hentry', hitems, hdecode⟩ := h
      rw [hw'.orders, hentry] at hentry'
      obtain rfl := Option.some.inj hentry'
      rw [decodeOrder_orderEntry hamount] at hdecode
      obtain rfl := Except.ok.inj hdecode
      have hquantity : cart.quantity = quantities (split (cartText t.shopping_cart) '\n') :=
        hitems.quantity
      rw [quantities_cartText] at hquantity
      exact ⟨cart, amount, w₂, rfl, hquantity, hamount⟩

theorem agrees_reread {t : Transaction} {cart : ShoppingCart} (amount : Flt)
    (h : cart.quantity = t.shopping_cart.quantity) : t.Agrees (t.reread cart amount) :=
  ⟨rfl, h, rfl, rfl, rfl, rfl, rfl, rfl, rfl, rfl, rfl⟩

/-- `getTransaction` gives an order back as it was stored. -/
theorem getTransaction_agrees {t : Transaction}
    (hentry : openEntry w.orders (uuid_unparse_lower t.transaction_id) = some (orderEntry t))
    (hcart : ∀ UPC ∈ t.shopping_cart.cart, Readable w UPC) :
    ∃ t', (run db (getTransaction t.transaction_id) w).1 = .ok t' ∧ t.Agrees t' := by
  obtain ⟨cart, amount, w', hrun, hquantity, -⟩ := run_getTransaction hentry hcart
  rw [hrun]
  exact ⟨_, rfl, agrees_reread amount hquantity⟩

end Reading

end OnlineShoppingCenter
