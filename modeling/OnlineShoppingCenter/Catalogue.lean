import OnlineShoppingCenter.CartSessions
import OnlineShoppingCenter.Overloads

/-!
# What a look at the catalogue writes

Every product that is read is stored again, its price and its stock printed
from the numbers they were decoded to. So runs without an order leave the texts
of the products alone exactly when the texts are what `to_string` prints.
-/
namespace OnlineShoppingCenter

open TextCodec ColumnFamilies EffectProgram StorageSystem

variable [Platform]

/-- Every entry but the default one holds its four texts. -/
def FullEntries (products : Database ProductKey) : Prop :=
  ∀ (name : Text) e, products[name]? = some e → name ≠ kDefault → ∀ key, (e key).isSome = true

/-- Sessions of any users, one after the other, that place no order, leave
every text of every product. -/
def CatalogueKept (products : Database ProductKey) : Prop :=
  ∀ (w : World) (sessions : List (Text × List Text)), w.products = products →
    placedOrders ((runSessions w sessions).2.map Prod.snd) = [] →
      ∀ name : Text, (runSessions w sessions).1.products[name]? = products[name]?

/-- The price and the stock of a product that can be read are printed as they
stand there. -/
def PrintedAsStored (products : Database ProductKey) : Prop :=
  ∀ (UPC : SKU) e price on_hand f n, openEntry products (to_string UPC.toNat) = some e →
    e .price = some price → e .on_hand = some on_hand → stof price = .ok f →
      stoui on_hand = .ok n → to_string_f f = price ∧ to_string n.toNat = on_hand

/-- The texts that a product has been read from. -/
structure ReadFrom (e : Entry ProductKey) (p : Product) (price on_hand : Text) : Prop where
  name_text : e .name = some p.name
  category_text : e .category = some p.category
  price_text : e .price = some price
  on_hand_text : e .on_hand = some on_hand
  price_read : stof price = .ok p.price
  quantity_read : stoui on_hand = .ok p.quantity

theorem readFrom_of_decode {UPC : SKU} {e : Entry ProductKey} {p : Product}
    (hfull : ∀ key, (e key).isSome = true) (h : decodeProduct UPC e = .ok p) :
    ∃ price on_hand, ReadFrom e p price on_hand := by
  obtain ⟨name, hname⟩ := Option.isSome_iff_exists.mp (hfull .name)
  obtain ⟨category, hcategory⟩ := Option.isSome_iff_exists.mp (hfull .category)
  obtain ⟨price, hprice⟩ := Option.isSome_iff_exists.mp (hfull .price)
  obtain ⟨on_hand, hon_hand⟩ := Option.isSome_iff_exists.mp (hfull .on_hand)
  unfold decodeProduct at h
  simp only [StorageSystem.get, hname, hcategory, hprice, hon_hand, Option.getD_some] at h
  obtain ⟨f, hf, h⟩ := bind_ok h
  obtain ⟨n, hn, h⟩ := bind_ok h
  cases h
  exact ⟨price, on_hand, hname, hcategory, hprice, hon_hand, hf, hn⟩

theorem exists_readFrom (UPC : SKU) {e : Entry ProductKey} {price on_hand : Text} {f : Flt} {n : UInt32}
    (hfull : ∀ key, (e key).isSome = true) (hprice : e .price = some price)
    (hon_hand : e .on_hand = some on_hand) (hf : stof price = .ok f) (hn : stoui on_hand = .ok n) :
    ∃ p, decodeProduct UPC e = .ok p ∧ ReadFrom e p price on_hand := by
  obtain ⟨name, hname⟩ := Option.isSome_iff_exists.mp (hfull .name)
  obtain ⟨category, hcategory⟩ := Option.isSome_iff_exists.mp (hfull .category)
  unfold decodeProduct
  simp only [StorageSystem.get, hname, hcategory, hprice, hon_hand, Option.getD_some, hf, hn]
  exact ⟨_, rfl, hname, hcategory, hprice, hon_hand, hf, hn⟩

theorem overlay_eq_self_iff {e : Entry ProductKey} {p : Product} {price on_hand : Text}
    (h : ReadFrom e p price on_hand) : (productBatch p).overlay e = e ↔
      to_string_f p.price = price ∧ to_string p.quantity.toNat = on_hand := by
  rw [overlay_productBatch]
  constructor
  · intro heq
    have hprice := congrFun heq .price
    have hon_hand := congrFun heq .on_hand
    rw [h.price_text] at hprice
    rw [h.on_hand_text] at hon_hand
    exact ⟨Option.some.inj hprice, Option.some.inj hon_hand⟩
  · rintro ⟨rfl, rfl⟩
    funext key
    cases key with
    | name => exact h.name_text.symm
    | category => exact h.category_text.symm
    | price => exact h.price_text.symm
    | on_hand => exact h.on_hand_text.symm

section Kept

variable {products : Database ProductKey} {w : World} {UPC : SKU} {p : Product}

/-- A read of a product changes no text. -/
theorem restock_products (hfull : FullEntries products) (hprinted : PrintedAsStored products)
    (hw : w.products = products) (hp : Decoded w UPC p) : (w.restock p).products = products := by
  obtain ⟨e, hopen, hdecode⟩ := hp
  have hUPC := (decodeProduct_ok hdecode).1
  rw [hw] at hopen
  obtain ⟨hdefault, he⟩ := openEntry_eq_some.mp hopen
  obtain ⟨price, on_hand, hread⟩ :=
    readFrom_of_decode (hfull _ e he (productName_ne_kDefault UPC)) hdecode
  have hsame := (overlay_eq_self_iff hread).mpr
    (hprinted UPC e price on_hand _ _ hopen hread.price_text hread.on_hand_text hread.price_read
      hread.quantity_read)
  unfold World.restock
  rw [hw, hUPC]
  have hmem : to_string UPC.toNat ∈ products := Database.mem_iff_exists.mpr ⟨e, he⟩
  apply Database.ext_getElem? (Database.listEntries_put_of_mem _ hmem hdefault)
  intro name
  by_cases hname : name = to_string UPC.toNat
  · rw [hname, Database.getElem?_put_self, he, Option.getD_some, hsame]
  · exact Database.getElem?_put_of_ne _ hname hdefault

/-- Without an order the products are as they were. -/
def Unplaced (products : Database ProductKey) (g : World × Journal) : Prop :=
  placedOrders g.2 = [] → g.1.products = products

theorem Unplaced.snoc {w' : World} {l : Journal} {call : Call} (h : Unplaced products (w, l))
    (hcall : call.placed = none) (hw : w.products = products → w'.products = products) :
    Unplaced products (w', l ++ [call]) := by
  intro hplaced
  rw [placedOrders_snoc hcall] at hplaced
  exact hw (h hplaced)

def catalogueSpec (hfull : FullEntries products) (hprinted : PrintedAsStored products) :
    SequentialSpec where
  holds g _ _ := Unplaced products g
  charging _ _ t _ := t.is_finalized = true
  rest := Unplaced products
  failed _ := Unplaced products
  okQty _ := True
  rest_of_holds h := h
  failed_of_holds h _ := h
  rest_of_refused h := h
  forget h := h
  ask h := h.snoc rfl id
  showOrder h := h.snoc rfl id
  getProducts h := h.snoc rfl id
  noProduct h := h.snoc rfl id
  getProduct h hp := h.snoc rfl fun hw => restock_products hfull hprinted hw hp
  storeCart h _ _ _ := h.snoc rfl id
  setItem h _ _ _ := h.snoc rfl id
  buyCart h _ _ := h.snoc rfl id
  setAddress h := h
  setPayment h := h
  storeAddress h _ _ := h.snoc rfl id
  storePayment h _ _ := h.snoc rfl id
  startCharge _ _ := rfl
  chargeItem h _ _ := h
  finalized h := h
  finishCharge _ hplaced := by
    rw [placedOrders_snoc rfl, placedOrders_storeTransaction] at hplaced
    exact absurd hplaced (by simp)

theorem catalogueSpec_login (hfull : FullEntries products) (hprinted : PrintedAsStored products)
    (username : Text) {l : Journal} (hw : w.products = products) :
    (catalogueSpec hfull hprinted).toSessionSpec.Login username (w, l) := by
  have hK : Restockable fun w => w.products = products := fun w UPC p hw hp =>
    restock_products hfull hprinted hw hp
  refine (wp_logged (.getUser username)).mpr (wp_mono (wp_getUser_keeps hK hw ?_) ?_ ?_)
  · intro _ _ _ _ _ hw' _ _
    exact hw'
  · intro u w' ⟨hw', entry, _, hu⟩
    exact ⟨fun _ => hw', hu.sound⟩
  · intro e w' ⟨hw', _⟩ _
    exact hw'

theorem catalogue_kept (hfull : FullEntries products) (hprinted : PrintedAsStored products) :
    CatalogueKept products := by
  intro w sessions hw hplaced name
  have hrun : Unplaced products ((runSessions w sessions).1,
      (runSessions w sessions).2.map Prod.snd) := by
    apply runSessions_induction (P := fun g => Unplaced products (g.1, g.2.map Prod.snd))
    · exact fun _ => hw
    · intro g s hg hplaced
      unfold runSession at hplaced ⊢
      simp only [List.map_append, List.map_map, placedOrders, List.filterMap_append,
        List.append_eq_nil_iff] at hplaced
      have hrest := rest_of_session (catalogueSpec hfull hprinted).toSessionSpec s.2
        (catalogueSpec_login hfull hprinted s.1 (hg hplaced.1) (l := [])) (fun _ => trivial)
          fun _ _ h => h
      apply hrest
      simpa [placedOrders, Function.comp_def] using hplaced.2
  rw [hrun hplaced]

end Kept

/-- A cart of one item, with a line after it that is no item. -/
def probe (UPC : SKU) : Entry UserKey
  | .items_in_cart => some (itemText UPC 1 ++ '\n' :: "x:1".toList)
  | _ => none

def probeName : Text := "user".toList

def probeWorld (products : Database ProductKey) (UPC : SKU) : World where
  users := ((∅ : Database UserKey).insert kDefault Entry.empty).insert probeName (probe UPC)
  products := products
  orders := ∅
  uuids _ := Platform.indeterminate_uuid
  drawn := 0
  clock _ := Platform.indeterminate_tm
  ticks := 0

section Probe

variable {products : Database ProductKey} {UPC : SKU} {p : Product}

theorem openEntry_probe : openEntry (probeWorld products UPC).users probeName = some (probe UPC) := by
  apply openEntry_eq_some.mpr
  unfold probeWorld
  constructor
  · rw [Database.mem_iff_isSome, Database.getElem?_insert, Database.getElem?_insert]
    rfl
  · rw [Database.getElem?_insert, if_pos rfl]

omit [Platform] in
theorem cartLines_probe : cartLines (probe UPC) = [itemText UPC 1, "x:1".toList] := by
  have hUPC : '\n' ∉ to_string UPC.toNat := not_mem_to_string (by decide)
  have hline : '\n' ∉ itemText UPC 1 := by
    have hqty : '\n' ∉ to_string 1 := not_mem_to_string (by decide)
    simp [itemText, hUPC, hqty]
  have hne : itemText UPC 1 ≠ [] := by simp [itemText]
  change split (itemText UPC 1 ++ '\n' :: "x:1".toList) '\n' = _
  rw [split_field_append hline hne]
  rfl

theorem wp_getUser_probe (hp : Decoded (probeWorld products UPC) UPC p) :
    wp db.exact (getUser probeName) (probeWorld products UPC) (fun _ _ => False)
      fun e w' => e = .invalid_argument ∧ w'.products = ((probeWorld products UPC).restock p).products := by
  have hpayment : loadPayment (probe UPC) = .ok none := rfl
  have hbad : parseItem "x:1".toList = .error .invalid_argument := by decide
  rw [getUser_eq, wp_bind, wp_openUser, openEntry_probe]
  change wp db.exact (loadRest (probe UPC) _) (probeWorld products UPC) _ _
  unfold loadRest
  rw [hpayment, cartLines_probe]
  apply wp_bind.mpr
  apply wp_storeUser.mpr
  rw [Prog.ofExcept_ok, Prog.ret_bind]
  apply wp_bind.mpr
  rw [Prog.pure_eq, wp_ret]
  apply wp_bind.mpr
  rw [loadItems, parse_itemText, Prog.ofExcept_ok, Prog.ret_bind]
  apply wp_bind.mpr
  apply wp_getProduct
  · intro p' hp'
    have hsame : p' = p := hp.unique hp'
    subst hsame
    rw [ShoppingCart.addProductQty_local, Prog.ret_bind, loadItems, hbad,
      Prog.ofExcept_error, Prog.fail_bind, wp_fail]
    exact ⟨rfl, rfl⟩
  · intro e _ hnone
    exact absurd ⟨p, hp⟩ hnone

/-- The one session of the probe reads the product once. -/
theorem runSessions_probe (hp : Decoded (probeWorld products UPC) UPC p) :
    (runSessions (probeWorld products UPC) [(probeName, [])]).1.products =
        ((probeWorld products UPC).restock p).products ∧
      placedOrders ((runSessions (probeWorld products UPC) [(probeName, [])]).2.map Prod.snd) = [] := by
  have hsession : wp sys.logged.exact (session probeName []) (probeWorld products UPC, [])
      (fun _ g => g.1.products = ((probeWorld products UPC).restock p).products ∧
        placedOrders g.2 = [])
      fun _ g => g.1.products = ((probeWorld products UPC).restock p).products ∧
        placedOrders g.2 = [] := by
    apply wp_bind.mpr
    apply wp_bind.mpr
    apply wp_attempt.mpr
    apply (wp_logged (.getUser probeName)).mpr
    apply wp_mono (wp_getUser_probe hp)
    · intro u w' hfalse
      exact hfalse.elim
    · rintro e w' ⟨rfl, hproducts⟩
      exact ⟨hproducts, rfl⟩
  have hrun := run_of_wp hsession
  simpa [runSessions, runSession, Function.comp_def] using hrun

theorem printed_of_kept (hfull : FullEntries products) (h : CatalogueKept products) :
    PrintedAsStored products := by
  intro UPC e price on_hand f n hopen hprice hon_hand hf hn
  have he := (openEntry_eq_some.mp hopen).2
  obtain ⟨p, hdecode, hread⟩ :=
    exists_readFrom UPC (hfull _ e he (productName_ne_kDefault UPC)) hprice hon_hand hf hn
  have hUPC := (decodeProduct_ok hdecode).1
  obtain ⟨hproducts, hplaced⟩ := runSessions_probe ⟨e, hopen, hdecode⟩
  have hkept := h (probeWorld products UPC) [(probeName, [])] rfl hplaced (to_string UPC.toNat)
  rw [hproducts, World.restock, hUPC] at hkept
  dsimp only [probeWorld] at hkept
  rw [Database.getElem?_put_self, he, Option.getD_some] at hkept
  have hsame := (overlay_eq_self_iff hread).mp (Option.some.inj hkept)
  have hf' := hread.price_read.symm.trans hf
  have hn' := hread.quantity_read.symm.trans hn
  rw [← Except.ok.inj hf', ← Except.ok.inj hn']
  exact hsame

end Probe

/-- Looking changes nothing exactly when the texts are the printed ones. -/
theorem catalogue_kept_iff {products : Database ProductKey} (hfull : FullEntries products) :
    CatalogueKept products ↔ PrintedAsStored products :=
  ⟨printed_of_kept hfull, catalogue_kept hfull⟩

end OnlineShoppingCenter

namespace OnlineShoppingCenter

open TextCodec ColumnFamilies EffectProgram StorageSystem

attribute [local instance] posix

theorem sampleProducts_full : FullEntries sampleWorld.products := by
  have hall : (sampleWorld.products.toList.all fun x => x.1 = kDefault ||
      [ProductKey.name, .category, .price, .on_hand].all fun key => (x.2 key).isSome) = true := by
    decide +kernel
  intro name e he hne key
  have hx := List.all_eq_true.mp hall _ (Database.mem_toList.mpr he)
  have hkeys := (Bool.or_eq_true_iff.mp hx).resolve_left fun hname => hne (of_decide_eq_true hname)
  apply List.all_eq_true.mp hkeys
  cases key <;> decide

theorem sample_catalogue_kept :
    CatalogueKept sampleWorld.products ↔ PrintedAsStored sampleWorld.products :=
  catalogue_kept_iff sampleProducts_full

def productText (w : World) (name : Text) (key : ProductKey) : Option Text :=
  w.products[name]?.bind fun e => e key

/-- A login is enough to turn the price 2.00 into 2.000000. -/
theorem price_rewritten :
    FullEntries sampleWorld.products ∧ ¬ CatalogueKept sampleWorld.products ∧
      productText sampleWorld "653562346025".toList .price = some "2.00".toList ∧
        productText (runSessions sampleWorld [("testuser003".toList, [])]).1
          "653562346025".toList .price = some "2.000000".toList := by
  have hbefore : productText sampleWorld "653562346025".toList .price = some "2.00".toList := by
    decide +kernel
  have hafter : productText (runSessions sampleWorld [("testuser003".toList, [])]).1
      "653562346025".toList .price = some "2.000000".toList := by
    decide +kernel
  have hplaced : (placedOrders ((runSessions sampleWorld [("testuser003".toList, [])]).2.map
      Prod.snd)).isEmpty = true := by
    decide +kernel
  refine ⟨sampleProducts_full, ?_, hbefore, hafter⟩
  intro h
  have hkept := h sampleWorld [("testuser003".toList, [])] rfl (List.isEmpty_iff.mp hplaced)
    "653562346025".toList
  unfold productText at hbefore hafter
  rw [hkept, hbefore] at hafter
  revert hafter
  decide

end OnlineShoppingCenter
