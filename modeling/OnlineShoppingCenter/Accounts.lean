import OnlineShoppingCenter.Inventory
import OnlineShoppingCenter.LoadingRules

/-!
# What a stored user record says

The record of a user is read key by key: the address parts, the card, the ids
of the order list and the quantities of the cart. The texts that `storeUser`
writes are read back as the ids and quantities they were written from.
-/
namespace OnlineShoppingCenter

open TextCodec ColumnFamilies StorageSystem

variable [Platform]

/-- The quantity of every SKU in a cart. -/
def ShoppingCart.quantity (c : ShoppingCart) (UPC : SKU) : Option UInt32 :=
  (c.cart[UPC]?).map Prod.snd

@[simp] theorem ShoppingCart.quantity_empty : ({} : ShoppingCart).quantity = fun _ => none := by
  funext UPC
  simp [ShoppingCart.quantity]

/-- One item line replaces the quantity of its SKU. -/
def readItem (quantity : SKU → Option UInt32) (item : Text) : SKU → Option UInt32 :=
  match parseItem item with
  | .ok (UPC, qty) => Function.update quantity UPC (some qty)
  | .error _ => quantity

/-- The quantities that item lines give. -/
def quantities (items : List Text) : SKU → Option UInt32 := items.foldl readItem fun _ => none

/-- The meaning of a user record. -/
structure Account where
  shipaddr_name : Option Text
  shipaddr_street : Option Text
  shipaddr_city : Option Text
  shipaddr_state : Option Text
  shipaddr_zip : Option (Except Exn UInt32)
  shipaddr_country : Option Text
  cc_num : Option (Except Exn UInt64)
  cc_exp : Option Text
  cc_cv2 : Option (Except Exn UInt32)
  orders : List (Option Uuid)
  cart : SKU → Option UInt32

def accountOf (entry : Entry UserKey) : Account where
  shipaddr_name := entry .shipaddr_name
  shipaddr_street := entry .shipaddr_street
  shipaddr_city := entry .shipaddr_city
  shipaddr_state := entry .shipaddr_state
  shipaddr_zip := (entry .shipaddr_zip).map stoui
  shipaddr_country := entry .shipaddr_country
  cc_num := (entry .cc_num).map stoul
  cc_exp := entry .cc_exp
  cc_cv2 := (entry .cc_cv2).map stoui
  orders := (orderLines entry).map uuid_parse
  cart := quantities (split (get entry .items_in_cart []) '\n')

omit [Platform] in
theorem uuidText_ne_nil {t : Text} (h : uuidText t = true) : t ≠ [] := by
  rintro rfl
  cases h

omit [Platform] in
theorem newline_not_mem_uuidText {t : Text} (h : uuidText t = true) : '\n' ∉ t := by
  intro hmem
  have hc := char_of_uuidText h hmem
  revert hc
  decide

theorem parse_unparse (id : Uuid) : uuid_parse (uuid_unparse_lower id) = some id :=
  Platform.parse_unparse id

/-- The order list of a history is read back line by line. -/
theorem split_ordersText (history : TransactionHistory) :
    split (ordersText history) '\n' =
      (history.transaction_list.filter (·.is_finalized)).map
        fun order => uuid_unparse_lower order.transaction_id := by
  refine split_join ?_
  intro line hline
  obtain ⟨order, -, rfl⟩ := List.mem_map.mp hline
  have htext := Platform.unparse_text order.transaction_id
  exact ⟨newline_not_mem_uuidText htext, uuidText_ne_nil htext⟩

/-- One `SKU:quantity` line. -/
def itemText (UPC : SKU) (qty : UInt32) : Text := to_string UPC.toNat ++ ':' :: to_string qty.toNat

omit [Platform] in
theorem parse_itemText (UPC : SKU) (qty : UInt32) :
    parseItem (itemText UPC qty) = .ok (UPC, qty) := by
  have hUPC : ':' ∉ to_string UPC.toNat := not_mem_to_string (by decide)
  have hqty : ':' ∉ to_string qty.toNat := not_mem_to_string (by decide)
  unfold parseItem itemText
  rw [split_field_append hUPC (to_string_ne_nil _), split_field hqty (to_string_ne_nil _)]
  simp only [stoul_to_string_ulong, stoui_to_string_uint]
  rfl

/-- The item lines of a cart are read back line by line. -/
theorem split_cartText (c : ShoppingCart) :
    split (cartText c) '\n' = c.cart.toList.map fun e => itemText e.1 e.2.2 := by
  refine split_join ?_
  intro line hline
  obtain ⟨e, -, rfl⟩ := List.mem_map.mp hline
  constructor
  · have hUPC : '\n' ∉ to_string e.1.toNat := not_mem_to_string (by decide)
    have hqty : '\n' ∉ to_string e.2.2.toNat := not_mem_to_string (by decide)
    simp [hUPC, hqty]
  · simp

/-- The lines of entries with different keys give each its quantity. -/
theorem foldl_itemTexts (items : List (SKU × Product × UInt32))
    (hnodup : (items.map Prod.fst).Nodup) (c : SKU → Option UInt32) (UPC : SKU) :
    (items.map fun e => itemText e.1 e.2.2).foldl readItem c UPC =
      ((items.find? fun e => e.1 = UPC).map fun e => e.2.2).or (c UPC) := by
  induction items generalizing c with
  | nil => rfl
  | cons e items ih =>
    obtain ⟨hnot, hnodup⟩ := List.nodup_cons.mp hnodup
    rw [List.map_cons, List.foldl_cons, ih hnodup, readItem, parse_itemText]
    by_cases he : e.1 = UPC
    · have hnone : items.find? (fun e' => e'.1 = UPC) = none := by
        rw [List.find?_eq_none]
        intro e' he' heq
        exact hnot (List.mem_map.mpr ⟨e', he', by simpa [he] using heq⟩)
      simp [he, hnone]
    · simp [he, Function.update_of_ne (Ne.symm he)]

/-- The stored text of a cart gives every SKU its quantity. -/
theorem quantities_cartText (c : ShoppingCart) :
    quantities (split (cartText c) '\n') = c.quantity := by
  funext UPC
  unfold ShoppingCart.quantity
  rw [split_cartText, quantities, foldl_itemTexts _ (nodup_cart_keys c), Option.or_none]
  cases hfind : c.cart.toList.find? fun e => e.1 = UPC with
  | none =>
    cases h : c.cart[UPC]? with
    | none => rfl
    | some e =>
      have hmem : (UPC, e) ∈ c.cart.toList := Std.ExtTreeMap.mem_toList_iff_getElem?_eq_some.mpr h
      simpa using List.find?_eq_none.mp hfind _ hmem
  | some e =>
    have hmem := List.mem_of_find?_eq_some hfind
    have hUPC : e.1 = UPC := by simpa using List.find?_some hfind
    rw [← hUPC, Std.ExtTreeMap.mem_toList_iff_getElem?_eq_some.mp hmem]
    rfl

/-- The keys that `storeUser` writes. -/
theorem overlay_userBatch (u : User) (e : Entry UserKey) :
    (userBatch u).overlay e = fun
      | .shipaddr_name => if u.shipping_address.parts_set = 0 then e .shipaddr_name
        else some u.shipping_address.shipping_name
      | .shipaddr_street => if u.shipping_address.parts_set = 0 then e .shipaddr_street
        else some u.shipping_address.street
      | .shipaddr_city => if u.shipping_address.parts_set = 0 then e .shipaddr_city
        else some u.shipping_address.city
      | .shipaddr_state => if u.shipping_address.parts_set = 0 then e .shipaddr_state
        else some u.shipping_address.state
      | .shipaddr_zip => if u.shipping_address.parts_set = 0 then e .shipaddr_zip
        else some (to_string u.shipping_address.zip.toNat)
      | .shipaddr_country => if u.shipping_address.parts_set = 0 then e .shipaddr_country
        else some u.shipping_address.country
      | .cc_num => if u.payment_info.is_set then some (to_string u.payment_info.cc_num.toNat)
        else e .cc_num
      | .cc_exp => if u.payment_info.is_set then some u.payment_info.cc_exp else e .cc_exp
      | .cc_cv2 => if u.payment_info.is_set then some (to_string u.payment_info.cc_cv2.toNat)
        else e .cc_cv2
      | .orders => some (ordersText u.transaction_history)
      | .items_in_cart => some (cartText u.shopping_cart) := by
  have hpart : S_NAME_SET ≠ 0 ∧ S_STREET_SET ≠ 0 ∧ S_CITY_SET ≠ 0 ∧ S_STATE_SET ≠ 0 ∧
      S_ZIP_SET ≠ 0 ∧ S_COUNTRY_SET ≠ 0 := by decide
  obtain ⟨h1, h2, h3, h4, h5, h6⟩ := hpart
  funext key
  unfold userBatch addressBatch paymentBatch
  by_cases hparts : u.shipping_address.parts_set = 0 <;>
    cases hset : u.payment_info.is_set <;>
      cases key <;> simp [Batch.overlay, hparts, h1, h2, h3, h4, h5, h6]

/-- The ids that `storeUser` lists. -/
def finalizedIds (history : TransactionHistory) : List Uuid :=
  (history.transaction_list.filter (·.is_finalized)).map (·.transaction_id)

/-- What a record says after a store. -/
theorem accountOf_overlay (u : User) (e : Entry UserKey) :
    accountOf ((userBatch u).overlay e) =
      let addr := u.shipping_address
      let pay := u.payment_info
      { shipaddr_name := if addr.parts_set = 0 then e .shipaddr_name else some addr.shipping_name
        shipaddr_street := if addr.parts_set = 0 then e .shipaddr_street else some addr.street
        shipaddr_city := if addr.parts_set = 0 then e .shipaddr_city else some addr.city
        shipaddr_state := if addr.parts_set = 0 then e .shipaddr_state else some addr.state
        shipaddr_zip :=
          if addr.parts_set = 0 then (e .shipaddr_zip).map stoui else some (.ok addr.zip)
        shipaddr_country := if addr.parts_set = 0 then e .shipaddr_country else some addr.country
        cc_num := if pay.is_set then some (.ok pay.cc_num) else (e .cc_num).map stoul
        cc_exp := if pay.is_set then some pay.cc_exp else e .cc_exp
        cc_cv2 := if pay.is_set then some (.ok pay.cc_cv2) else (e .cc_cv2).map stoui
        orders := (finalizedIds u.transaction_history).map some
        cart := u.shopping_cart.quantity } := by
  have horders : (split (ordersText u.transaction_history) '\n').map uuid_parse =
      (finalizedIds u.transaction_history).map some := by
    simp [split_ordersText, finalizedIds, parse_unparse, Function.comp_def]
  rw [overlay_userBatch]
  simp only [accountOf, orderLines, StorageSystem.get, Option.getD_some, quantities_cartText,
    horders]
  by_cases hparts : u.shipping_address.parts_set = 0 <;>
    cases hset : u.payment_info.is_set <;> simp [hparts]

/-- Storing a user touches the record of that name only. -/
theorem getElem?_putUser {w : World} (u : User) (name : Text) (hd : kDefault ∈ w.users) :
    (w.putUser u).users[name]? =
      if name = u.user_name then
        some ((userBatch u).overlay (w.users[u.user_name]?.getD Entry.empty))
      else w.users[name]? := by
  unfold World.putUser
  by_cases h : name = u.user_name
  · rw [if_pos h, h]
    exact Database.getElem?_put_self _ _ _
  · rw [if_neg h]
    exact Database.getElem?_put_of_ne _ h hd

theorem kDefault_mem_putUser {w : World} (u : User) : kDefault ∈ (w.putUser u).users :=
  Database.mem_put.mpr (.inr (.inl rfl))

end OnlineShoppingCenter
