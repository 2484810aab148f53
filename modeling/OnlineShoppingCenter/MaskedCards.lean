import OnlineShoppingCenter.CoupledStorage
import OnlineShoppingCenter.Layers

/-!
# Cards cut to their last digits

What is left of a card when its number is cut to four digits and its cv2 is
dropped, on the objects and in the records. The methods of the storage system
make the same of two databases that differ in nothing else.
-/
namespace OnlineShoppingCenter

open TextCodec ColumnFamilies EffectProgram StorageSystem

/-- A numeral with its number changed; a text that is no number stays as it is. -/
def renumber (f : UInt64 → UInt64) (t : Text) : Text :=
  match stoul t with
  | .ok n => to_string (f n).toNat
  | .error _ => t

theorem stoul_renumber (f : UInt64 → UInt64) (t : Text) :
    stoul (renumber f t) = f <$> stoul t := by
  unfold renumber
  cases h : stoul t with
  | ok n => simp
  | error e => simp [h]

/-- The number is cut to its last four digits, the cv2 is made zero. A record
without an expiry date stays as it is: what is read in its place is the number. -/
def maskEntry {K : Type} [DecidableEq K] (cc_num cc_exp cc_cv2 : K) (e : Entry K) : Entry K :=
  if (e cc_exp).isSome then fun key =>
    if key = cc_num then (e key).map (renumber (· % 10000))
    else if key = cc_cv2 then (e key).map (renumber fun _ => 0)
    else e key
  else e

def maskUser : Entry UserKey → Entry UserKey := maskEntry .cc_num .cc_exp .cc_cv2

def maskOrder : Entry OrderKey → Entry OrderKey := maskEntry .cc_num .cc_exp .cc_cv2

variable [Platform]

/-- The databases with every card masked that has an expiry date. -/
def World.masked (w : World) : World :=
  { w with users := w.users.map maskUser, orders := w.orders.map maskOrder }

def PaymentInfo.masked (cc : PaymentInfo) : PaymentInfo :=
  { cc with cc_num := cc.cc_num % 10000, cc_cv2 := 0 }

def Transaction.masked (t : Transaction) : Transaction :=
  { t with payment_info := t.payment_info.masked }

def TransactionHistory.masked (h : TransactionHistory) : TransactionHistory :=
  ⟨h.transaction_list.map Transaction.masked⟩

/-- Users that are the same but for their cards. -/
structure User.Akin (u u' : User) : Prop where
  user_name : u.user_name = u'.user_name
  shipping_address : u.shipping_address = u'.shipping_address
  payment_info : u.payment_info.masked = u'.payment_info.masked
  transaction_history : u.transaction_history.masked = u'.transaction_history.masked
  shopping_cart : u.shopping_cart = u'.shopping_cart
  is_set : u.is_set = u'.is_set

omit [Platform] in
theorem mod_mod_cut (n : UInt64) : n % 10000 % 10000 = n % 10000 := by
  apply UInt64.toNat.inj
  simp

theorem TransactionHistory.masked_addTransaction (h : TransactionHistory) (t : Transaction) :
    (h.addTransaction t).masked = h.masked.addTransaction t.masked := by
  simp [masked, addTransaction]

/-- The ids that are stored. -/
theorem ordersText_masked (h : TransactionHistory) : ordersText h.masked = ordersText h := by
  unfold ordersText TransactionHistory.masked
  rw [List.filter_map, List.map_map]
  rfl

/-- Every key but the ones of the card and the cart. -/
def openKeys (e : Entry UserKey) : Entry UserKey
  | .cc_num | .cc_exp | .cc_cv2 | .items_in_cart => none
  | key => e key

/-- The card that is read from a record, masked. -/
def cardOf (e : Entry UserKey) : Except Exn (Option PaymentInfo) :=
  Option.map PaymentInfo.masked <$> loadPayment e

/-- What `getUser` makes of a record. -/
def userView (e : Entry UserKey) : Entry UserKey × Except Exn (Option PaymentInfo) × List Text :=
  (openKeys e, cardOf e, cartLines e)

/-- What `getTransaction` makes of a record, before its items are loaded. -/
def orderView (e : Entry OrderKey) : Text × Except Exn Transaction :=
  (get e .items [], Transaction.masked <$> decodeOrder Platform.indeterminate_uuid {} e)

/-- A masked card from its number and its expiry. -/
def maskedCard (cc_num : Except Exn UInt64) (cc_exp : Option Text) :
    Except Exn (Option PaymentInfo) := do
  let cc_num ← cc_num
  match cc_exp with
  | none => return none
  | some cc_exp =>
    let _ ← stoui cc_exp
    return some ⟨cc_num, cc_exp, 0, true⟩

theorem cardOf_eq (e : Entry UserKey) :
    cardOf e = match (e .cc_num).map stoul with
      | none => .ok none
      | some cc_num => maskedCard ((· % 10000) <$> cc_num) (e .cc_exp) := by
  unfold cardOf loadPayment maskedCard
  cases e .cc_num with
  | none => rfl
  | some num =>
    dsimp only [Option.map_some]
    cases stoul num with
    | error x => rfl
    | ok n =>
      cases e .cc_exp with
      | none => rfl
      | some cc_exp =>
        dsimp only
        cases stoui cc_exp <;> rfl

/-- The card that a record tells once a user has been stored. -/
theorem cardOf_overlay (u : User) (e : Entry UserKey) :
    cardOf ((userBatch u).overlay e) =
      if u.payment_info.is_set then
        maskedCard (.ok u.payment_info.masked.cc_num) (some u.payment_info.masked.cc_exp)
      else cardOf e := by
  rw [cardOf_eq, cardOf_eq e, overlay_userBatch]
  by_cases hset : u.payment_info.is_set = true
  · simp only [hset, if_true, Option.map_some, stoul_to_string_ulong]
    rfl
  · simp only [hset, if_false, Bool.false_eq_true]

/-- Storing users that are the same but for their cards leaves it at that. -/
theorem userView_overlay {u u' : User} {e e' : Entry UserKey} (hu : u.Akin u')
    (he : userView e = userView e') :
    userView ((userBatch u).overlay e) = userView ((userBatch u').overlay e') := by
  have horders : ordersText u.transaction_history = ordersText u'.transaction_history := by
    rw [← ordersText_masked, hu.transaction_history, ordersText_masked]
  have hset : u.payment_info.masked.is_set = u'.payment_info.masked.is_set := by
    rw [hu.payment_info]
  have hkeys : openKeys e = openKeys e' := congrArg Prod.fst he
  have hcard : cardOf e = cardOf e' := congrArg (·.2.1) he
  unfold userView
  rw [Prod.mk.injEq, Prod.mk.injEq]
  refine ⟨?_, ?_, ?_⟩
  · funext key
    have hkey := congrFun hkeys key
    rw [overlay_userBatch, overlay_userBatch, hu.shipping_address, horders]
    cases key <;> simp_all [openKeys]
  · rw [cardOf_overlay, cardOf_overlay, hu.payment_info, hcard]
    simp only [PaymentInfo.masked] at hset ⊢
    rw [hset]
  · rw [overlay_userBatch, overlay_userBatch, hu.shopping_cart]
    rfl

/-- The order is told apart from its id and its items. -/
theorem decodeOrder_masked (id : Uuid) (cart : ShoppingCart) (e : Entry OrderKey) :
    Transaction.masked <$> decodeOrder id cart e =
      (fun t => { t with transaction_id := id, shopping_cart := cart }) <$> (orderView e).2 := by
  unfold orderView decodeOrder
  simp only [map_bind, map_pure]
  rfl

theorem reread_masked (t : Transaction) (cart : ShoppingCart) (amount : Flt) :
    (t.masked.reread cart amount).masked = (t.reread cart amount).masked := by
  simp [Transaction.masked, Transaction.reread, PaymentInfo.masked, mod_mod_cut]

/-- A stored order tells what the order without its card would. -/
theorem orderView_overlay (t : Transaction) (e : Entry OrderKey) :
    orderView ((orderBatch t).overlay e) = orderView (orderEntry t.masked) := by
  obtain ⟨amount, hamount⟩ := stof_amount t
  have hamount' : stof (to_string_f t.masked.transaction_amount) = .ok amount := hamount
  have hreread := reread_masked t {} amount
  unfold orderView
  rw [overlay_orderBatch, decodeOrder_orderEntry hamount, decodeOrder_orderEntry hamount']
  refine Prod.ext rfl ?_
  exact congrArg (fun t : Transaction => (.ok { t with transaction_id := Platform.indeterminate_uuid } :
    Except Exn Transaction)) hreread.symm

/-- The mask of a user does not show. -/
theorem userView_maskUser (e : Entry UserKey) : userView (maskUser e) = userView e := by
  unfold maskUser maskEntry
  by_cases hexp : (e .cc_exp).isSome = true
  · rw [if_pos hexp]
    obtain ⟨cc_exp, hcc_exp⟩ := Option.isSome_iff_exists.mp hexp
    unfold userView
    rw [Prod.mk.injEq, Prod.mk.injEq]
    refine ⟨?_, ?_, ?_⟩
    · funext key
      cases key <;> rfl
    · rw [cardOf_eq, cardOf_eq]
      simp only [if_true, reduceCtorEq, if_false]
      cases e .cc_num with
      | none => rfl
      | some num =>
        simp only [Option.map_some, stoul_renumber]
        cases stoul num with
        | error x => rfl
        | ok n =>
          change maskedCard (.ok (n % 10000 % 10000)) _ = maskedCard (.ok (n % 10000)) _
          rw [mod_mod_cut]
    · unfold cartLines addressText
      simp only [if_true, reduceCtorEq, if_false, Option.isSome_map, StorageSystem.get, hcc_exp,
        Option.getD_some]
      cases e .cc_num <;> rfl
  · rw [if_neg hexp]

omit [Platform] in
/-- What is made of the last two numbers of an order. -/
theorem bind_card {α : Type} {num num' : Except Exn UInt64} {cv2 cv2' : Except Exn UInt32}
    {k : UInt64 → UInt32 → α}
    (hk : ∀ n n' c c', n % 10000 = n' % 10000 → k n c = k n' c')
    (hnum : (· % 10000) <$> num = (· % 10000) <$> num')
    (hcv2 : (fun _ => ()) <$> cv2 = (fun _ => ()) <$> cv2') :
    (do return k (← num) (← cv2)) = (do return k (← num') (← cv2') : Except Exn α) := by
  cases outcomes_of_map hnum with
  | error e => rfl
  | ok hn =>
    cases outcomes_of_map hcv2 with
    | error e => rfl
    | ok hc => exact congrArg Except.ok (hk _ _ _ _ hn)

theorem orderView_maskOrder (e : Entry OrderKey) : orderView (maskOrder e) = orderView e := by
  by_cases hexp : (e .cc_exp).isSome = true
  · obtain ⟨cc_exp, hcc_exp⟩ := Option.isSome_iff_exists.mp hexp
    have hmask : ∀ key, maskOrder e key = if key = .cc_num then (e key).map (renumber (· % 10000))
        else if key = .cc_cv2 then (e key).map (renumber fun _ => 0) else e key := by
      intro key
      unfold maskOrder maskEntry
      rw [if_pos hexp]
    have hopen : ∀ key, key ≠ .cc_num → key ≠ .cc_cv2 → ∀ dbval,
        get (maskOrder e) key dbval = get e key dbval := by
      intro key hnum hcv2 dbval
      rw [StorageSystem.get, hmask, if_neg hnum, if_neg hcv2]
      rfl
    have hcard : ∀ dbval, get e .cc_exp dbval = cc_exp := by
      intro dbval
      rw [StorageSystem.get, hcc_exp]
      rfl
    have hnum : ∀ dbval, (· % 10000) <$> stoul (get (maskOrder e) .cc_num dbval) =
        (· % 10000) <$> stoul (get e .cc_num dbval) := by
      intro dbval
      unfold StorageSystem.get
      rw [hmask, if_pos rfl]
      cases e .cc_num with
      | none => rfl
      | some num =>
        simp only [Option.map_some, Option.getD_some, stoul_renumber, Functor.map_map, mod_mod_cut]
    have hcv2 : ∀ dbval, (fun _ => ()) <$> stoui (get (maskOrder e) .cc_cv2 dbval) =
        (fun _ => ()) <$> stoui (get e .cc_cv2 dbval) := by
      intro dbval
      unfold StorageSystem.get
      rw [hmask, if_neg (by decide), if_pos rfl]
      cases e .cc_cv2 with
      | none => rfl
      | some cv2 =>
        simp only [Option.map_some, Option.getD_some, stoui, stoul_renumber]
        cases stoul cv2 <;> rfl
    unfold orderView decodeOrder
    simp (disch := decide) only [hopen, hcard, map_bind, map_pure]
    refine congrArg _ (bind_congr fun total => bind_congr fun zip => bind_card ?_ (hnum _) (hcv2 _))
    intro n n' c c' hn
    simp only [Transaction.masked, PaymentInfo.masked, hn]
  · unfold maskOrder maskEntry
    rw [if_neg hexp]

omit [Platform] in
/-- A masked database looks the same. -/
theorem sameView_map {K V : Type} {view : Entry K → V} {mask : Entry K → Entry K}
    (h : ∀ e, view (mask e) = view e) (db : Database K) :
    SameView view db (db.map mask) := by
  refine ⟨rfl, ?_⟩
  intro name
  rw [Database.getElem?_map, Option.map_map]
  exact congrArg (Option.map · db[name]?) (funext fun e => (h e).symm)

end OnlineShoppingCenter
