import OnlineShoppingCenter.MaskedCards

/-!
# The storage system on databases that differ in cards

Two databases that tell the same but for the leading digits of card numbers and
for cv2 codes are kept so by every method, and what is read from them differs in
no more.
-/
namespace OnlineShoppingCenter

open TextCodec ColumnFamilies EffectProgram StorageSystem

variable [Platform]

/-- Calls that have to do with products only. -/
def DbCall.Cardless : DbCall → Prop
  | .openProduct _ | .listProducts | .writeProduct .. | .uuid_generate | .gmtime => True
  | .openUser _ | .openOrder _ | .writeUser .. | .writeOrder .. => False

/-- Calls that are the same but for the cards they write. -/
inductive AkinCall : Coupling storageSig where
  | same {op : DbCall} : op.Cardless → AkinCall op op Eq
  | openUser (name : Text) : AkinCall (.openUser name) (.openUser name)
      fun (r r' : Option (Entry UserKey)) => r.map userView = r'.map userView
  | openOrder (name : Text) : AkinCall (.openOrder name) (.openOrder name)
      fun (r r' : Option (Entry OrderKey)) => r.map orderView = r'.map orderView
  | writeUser {u u' : User} : u.Akin u' →
      AkinCall (.writeUser u.user_name (userBatch u)) (.writeUser u'.user_name (userBatch u'))
        fun _ _ => True
  | writeOrder {t t' : Transaction} : t.masked = t'.masked →
      AkinCall (.writeOrder (uuid_unparse_lower t.transaction_id) (orderBatch t))
        (.writeOrder (uuid_unparse_lower t'.transaction_id) (orderBatch t')) fun _ _ => True

/-- Worlds that are the same but for the cards in the databases. -/
structure World.Akin (w w' : World) : Prop where
  users : SameView userView w.users w'.users
  orders : SameView orderView w.orders w'.orders
  products : w.products = w'.products
  uuids : w.uuids = w'.uuids
  drawn : w.drawn = w'.drawn
  clock : w.clock = w'.clock
  ticks : w.ticks = w'.ticks

theorem World.akin_masked (w : World) : w.Akin w.masked :=
  ⟨sameView_map userView_maskUser w.users, sameView_map orderView_maskOrder w.orders, rfl, rfl, rfl,
    rfl, rfl⟩

theorem respects_akinCall : Respects db AkinCall World.Akin := by
  intro op op' R w w' hop h
  cases hop with
  | openUser name => exact ⟨.ok (h.users.openEntry name), h⟩
  | openOrder name => exact ⟨.ok (h.orders.openEntry name), h⟩
  | writeUser hu =>
    simp only [db, Database.store_eq_put, hu.user_name]
    refine ⟨.ok trivial, h.users.put_same ?_ _, h.orders, h.products, h.uuids, h.drawn, h.clock,
      h.ticks⟩
    exact fun e e' => userView_overlay hu
  | @writeOrder t t' ht =>
    have hid : t.transaction_id = t'.transaction_id := by
      have hmasked := congrArg Transaction.transaction_id ht
      exact hmasked
    simp only [db, Database.store_eq_put, hid]
    refine ⟨.ok trivial, h.users, h.orders.put_same ?_ _, h.products, h.uuids, h.drawn, h.clock,
      h.ticks⟩
    intro e e' _
    rw [orderView_overlay, orderView_overlay, ht]
  | @same op hcardless =>
    obtain ⟨users, products, orders, uuids, drawn, clock, ticks⟩ := w
    obtain ⟨users', products', orders', uuids', drawn', clock', ticks'⟩ := w'
    obtain ⟨husers, horders, hproducts, huuids, hdrawn, hclock, hticks⟩ := h
    dsimp only at husers horders hproducts huuids hdrawn hclock hticks
    subst hproducts huuids hdrawn hclock hticks
    cases op with
    | openProduct name | listProducts =>
      exact ⟨.ok rfl, husers, horders, rfl, rfl, rfl, rfl, rfl⟩
    | writeProduct name batch =>
      simp only [db, Database.store_eq_put]
      exact ⟨.ok rfl, husers, horders, rfl, rfl, rfl, rfl, rfl⟩
    | uuid_generate | gmtime => exact ⟨.ok rfl, husers, horders, rfl, rfl, rfl, rfl, rfl⟩
    | openUser | openOrder | writeUser | writeOrder => cases hcardless

section Methods

variable {u u' : User} {t t' : Transaction}

theorem cardless_query (op : DbCall) (h : op.Cardless) : (query op).Only DbCall.Cardless :=
  Prog.only_perform h

theorem cardless_storeProduct (p : Product) : (storeProduct p).Only DbCall.Cardless := by
  unfold storeProduct
  split
  · trivial
  · exact cardless_query (.writeProduct _ _) trivial

theorem cardless_setQuantity (p : Product) (n : UInt32) : (setQuantity p n).Only DbCall.Cardless :=
  (cardless_storeProduct _).bind fun _ => trivial

theorem cardless_getProduct (UPC : SKU) : (getProduct UPC).Only DbCall.Cardless := by
  rw [getProduct_eq]
  apply (cardless_query (.openProduct _) trivial).bind
  intro r
  cases r with
  | none => trivial
  | some e =>
    apply (Prog.only_ofExcept _).bind
    intro p
    exact (cardless_query (.writeProduct _ _) trivial).bind fun _ => trivial

theorem cardless_getProducts : getProducts.Only DbCall.Cardless :=
  (cardless_query .listProducts trivial).bind fun _ => Prog.only_ofExcept _

theorem cardless_loadItems (items : List Text) (c : ShoppingCart) :
    (loadItems items c).Only DbCall.Cardless := by
  induction items generalizing c with
  | nil => trivial
  | cons item rest ih =>
    apply (Prog.only_ofExcept _).bind
    rintro ⟨UPC, qty⟩
    apply (cardless_getProduct UPC).bind
    intro p
    rw [ShoppingCart.addProductQty_local]
    exact ih _

/-- A method that has to do with products only. -/
theorem akin_cardless {α : Type} {m : StorageM α} (h : m.Only DbCall.Cardless) :
    Coupled AkinCall Eq m m := coupled_self (fun _ hop => .same hop) h

theorem akin_query {op op' : DbCall} {R : op.Ret → op'.Ret → Prop} (hop : AkinCall op op' R) :
    Coupled AkinCall R (query op) (query op') := Coupled.perform hop

theorem akin_storeUser (hu : u.Akin u') :
    Coupled AkinCall (fun _ _ => True) (storeUser u) (storeUser u') := akin_query (.writeUser hu)

theorem akin_storeTransaction (ht : t.masked = t'.masked) :
    Coupled AkinCall (fun _ _ => True) (storeTransaction t) (storeTransaction t') := by
  have hfinal : t.masked.is_finalized = t'.masked.is_finalized := by rw [ht]
  change t.is_finalized = t'.is_finalized at hfinal
  unfold storeTransaction
  rw [hfinal]
  exact Coupled.ite (.ret trivial) (akin_query (.writeOrder ht))

theorem akin_getTransaction (id : Uuid) :
    Coupled AkinCall (fun t t' => t.masked = t'.masked) (getTransaction id) (getTransaction id) := by
  rw [getTransaction_eq]
  apply (akin_query (.openOrder _)).bind
  intro r r' hr
  cases r with
  | none =>
    cases r' with
    | none => exact .fail _
    | some e' => cases hr
  | some e =>
    cases r' with
    | none => cases hr
    | some e' =>
      have hview : orderView e = orderView e' := Option.some.inj hr
      have hitems : get e .items [] = get e' .items [] := congrArg Prod.fst hview
      dsimp only
      rw [hitems]
      apply (akin_cardless (cardless_loadItems _ _)).bind
      rintro cart _ rfl
      apply Coupled.ofExcept (outcomes_of_map _)
      rw [decodeOrder_masked, decodeOrder_masked, hview]

theorem akin_loadOrders (lines : List Text) (tid : Uuid) {h h' : TransactionHistory}
    (hh : h.masked = h'.masked) :
    Coupled AkinCall (fun h h' => h.masked = h'.masked) (loadOrders lines tid h)
      (loadOrders lines tid h') := by
  induction lines generalizing tid h h' with
  | nil => exact .ret hh
  | cons line rest ih =>
    apply (akin_getTransaction _).bind
    intro t t' ht
    apply ih
    rw [TransactionHistory.masked_addTransaction, TransactionHistory.masked_addTransaction, hh, ht]

/-- A card read from the record, in place of the one that the user has. -/
theorem akin_loadRest {e e' : Entry UserKey} (hu : u.Akin u') (he : userView e = userView e') :
    Coupled AkinCall User.Akin (loadRest e u) (loadRest e' u') := by
  have hlines : cartLines e = cartLines e' := congrArg (·.2.2) he
  have hcard : cardOf e = cardOf e' := congrArg (·.2.1) he
  have hrest : ∀ u u' : User, u.Akin u' → Coupled AkinCall User.Akin
      (loadItems (cartLines e) u.shopping_cart >>= fun cart =>
        pure { u with shopping_cart := cart })
      (loadItems (cartLines e') u'.shopping_cart >>= fun cart =>
        pure { u' with shopping_cart := cart }) := by
    intro u u' hu
    rw [hlines, hu.shopping_cart]
    apply (akin_cardless (cardless_loadItems _ _)).bind
    rintro cart _ rfl
    exact .ret ⟨hu.user_name, hu.shipping_address, hu.payment_info, hu.transaction_history, rfl,
      hu.is_set⟩
  apply (akin_storeUser hu).bind
  intro _ _ _
  apply (Coupled.ofExcept (outcomes_of_map hcard)).bind
  intro pay pay' hpay
  cases pay with
  | none =>
    cases pay' with
    | none => exact hrest u u' hu
    | some cc' => cases hpay
  | some cc =>
    cases pay' with
    | none => cases hpay
    | some cc' =>
      have hcc : cc.masked = cc'.masked := Option.some.inj hpay
      have hnew : User.Akin { u with payment_info := cc } { u' with payment_info := cc' } :=
        ⟨hu.user_name, hu.shipping_address, hcc, hu.transaction_history, hu.shopping_cart, hu.is_set⟩
      have hpaid : Coupled AkinCall User.Akin (u.changeCreditCard storeUser cc)
          (u'.changeCreditCard storeUser cc') := (akin_storeUser hnew).bind fun _ _ _ => .ret hnew
      exact hpaid.bind hrest

/-- The address comes from keys that are the same. -/
theorem addressOf_of_openKeys {e e' : Entry UserKey} (h : openKeys e = openKeys e') :
    addressOf e = addressOf e' := by
  have hname : e .shipaddr_name = e' .shipaddr_name := congrFun h .shipaddr_name
  have hstreet : e .shipaddr_street = e' .shipaddr_street := congrFun h .shipaddr_street
  have hcity : e .shipaddr_city = e' .shipaddr_city := congrFun h .shipaddr_city
  have hstate : e .shipaddr_state = e' .shipaddr_state := congrFun h .shipaddr_state
  have hzip : e .shipaddr_zip = e' .shipaddr_zip := congrFun h .shipaddr_zip
  have hcountry : e .shipaddr_country = e' .shipaddr_country := congrFun h .shipaddr_country
  have hparts : presentParts e = presentParts e' := by
    unfold presentParts
    rw [hname, hstreet, hcity, hstate, hzip, hcountry]
  funext zip
  unfold addressOf
  simp only [hparts, hname, hstreet, hcity, hstate, hcountry]

theorem akin_getUser (username : Text) :
    Coupled AkinCall User.Akin (getUser username) (getUser username) := by
  rw [getUser_eq]
  apply (akin_query (.openUser username)).bind
  intro r r' hr
  cases r with
  | none =>
    cases r' with
    | none => exact .fail _
    | some e' => cases hr
  | some e =>
    cases r' with
    | none => cases hr
    | some e' =>
      have hview : userView e = userView e' := Option.some.inj hr
      have hkeys : openKeys e = openKeys e' := congrArg Prod.fst hview
      have horders : e .orders = e' .orders := congrFun hkeys .orders
      have hzip : e .shipaddr_zip = e' .shipaddr_zip := congrFun hkeys .shipaddr_zip
      have hlines : orderLines e = orderLines e' := by
        unfold orderLines StorageSystem.get
        rw [horders]
      have hloaded : loadedZip e = loadedZip e' := by
        unfold loadedZip
        rw [hzip]
      dsimp only
      rw [hlines, hloaded, addressOf_of_openKeys hkeys]
      apply (akin_loadOrders _ _ rfl).bind
      intro orders orders' hhistory
      apply (coupled_ofExcept_self _).bind
      rintro zip _ rfl
      exact akin_loadRest ⟨rfl, rfl, rfl, hhistory, rfl, rfl⟩ hview

end Methods

end OnlineShoppingCenter
