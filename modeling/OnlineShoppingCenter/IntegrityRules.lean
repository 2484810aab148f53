import OnlineShoppingCenter.Integrity

/-!
# The methods under the integrity contract

What each storage method does when it may rely on good databases: a product of
the catalogue is read, any other is refused, and loading an order or a user
fails only at a number that the record of the user does not hold.
-/
namespace OnlineShoppingCenter

open TextCodec ColumnFamilies EffectProgram StorageSystem

variable [Platform]

section Carts

variable {shop : Shop} {g : Set Uuid}

/-- A user whose session may go on. -/
structure User.Ready (shop : Shop) (g : Set Uuid) (u : User) : Prop where
  name : u.user_name ∈ shop.accounts
  backed : u.Backed shop g
  sound : u.Sound

theorem Shop.CartKnown.set {c : ShoppingCart} (h : shop.CartKnown c) {p : Product}
    (hp : p.UPC ∈ shop.catalogue) (qty : UInt32) : shop.CartKnown (c.set p qty) := by
  intro UPC hUPC
  rw [Std.ExtTreeMap.mem_iff_isSome_getElem?, ShoppingCart.getElem?_set] at hUPC
  split at hUPC
  · rename_i heq
    rw [heq]
    exact hp
  · exact h UPC (Std.ExtTreeMap.mem_iff_isSome_getElem?.mpr hUPC)

theorem Shop.CartKnown.remove {c : ShoppingCart} (h : shop.CartKnown c) (UPC : SKU) :
    shop.CartKnown (c.remove UPC) := by
  intro other hother
  rw [Std.ExtTreeMap.mem_iff_isSome_getElem?, ShoppingCart.getElem?_remove] at hother
  split at hother
  · cases hother
  · exact h other (Std.ExtTreeMap.mem_iff_isSome_getElem?.mpr hother)

theorem Shop.cartKnown_empty : shop.CartKnown {} := by
  intro UPC hUPC
  simp at hUPC

theorem finalizedIds_addTransaction {history : TransactionHistory} {t : Transaction} {id : Uuid}
    (h : id ∈ finalizedIds (history.addTransaction t)) :
    id ∈ finalizedIds history ∨ (id = t.transaction_id ∧ t.is_finalized = true) := by
  simp only [finalizedIds, TransactionHistory.addTransaction, List.filter_append,
    List.map_append, List.mem_append] at h
  refine h.imp_right ?_
  intro h
  obtain ⟨t', ht', rfl⟩ := List.mem_map.mp h
  obtain ⟨hmem, hfinal⟩ := List.mem_filter.mp ht'
  obtain rfl := List.mem_singleton.mp hmem
  exact ⟨rfl, hfinal⟩

end Carts

namespace StorageSystem

variable {shop : Shop} {g : Set Uuid}

/-- A call is answered as the databases promise. -/
theorem wp_query {op : DbCall} {Q : op.Ret → Set Uuid → Prop} {E : Exn → Set Uuid → Prop}
    (hop : Allowed shop g op) (h : ∀ a g', g ⊆ g' → Answers shop g' op a → Q a g') :
    wp (integrity shop) (query op) g Q E := by
  refine wp_perform.mpr ⟨hop, ?_, ?_⟩
  · intro a g' ⟨hg, a', ha, hanswer⟩
    cases ha
    exact h a g' hg hanswer
  · intro e g' ⟨_, a, ha, _⟩
    cases ha

theorem intact_getProduct (UPC : SKU) :
    wp (integrity shop) (getProduct UPC) g
      (fun p g' => g ⊆ g' ∧ UPC ∈ shop.catalogue ∧ p.UPC = UPC ∧ p.is_set = true)
      (fun e g' => g ⊆ g' ∧ UPC ∉ shop.catalogue ∧ e = .system_error) := by
  rw [getProduct_eq]
  refine wp_bind.mpr (wp_query trivial ?_)
  intro r g' hg hanswer
  obtain ⟨hnone, hgood⟩ := hanswer UPC rfl
  cases r with
  | none => exact ⟨hg, hnone.mp rfl, rfl⟩
  | some entry =>
    have hUPC : UPC ∈ shop.catalogue := by
      by_contra hnot
      cases hnone.mpr hnot
    obtain ⟨p, hp⟩ := hgood entry rfl UPC
    obtain ⟨hpUPC, hset⟩ := decodeProduct_ok hp
    simp only [hp, Prog.ofExcept_ok, Prog.ret_bind]
    refine wp_bind.mpr (wp_query ⟨p, hpUPC ▸ hUPC, by rw [hpUPC], rfl⟩ ?_)
    intro _ g'' hg' _
    exact ⟨hg.trans hg', hUPC, hpUPC, hset⟩

theorem intact_loadItems {items : List Text} (hitems : shop.ItemsKnown items) {c : ShoppingCart}
    (hc : shop.CartKnown c) (hsound : c.Sound) {E : Exn → Set Uuid → Prop} :
    wp (integrity shop) (loadItems items c) g
      (fun c' g' => g ⊆ g' ∧ shop.CartKnown c' ∧ c'.Sound) E := by
  induction items generalizing c g with
  | nil => exact ⟨subset_rfl, hc, hsound⟩
  | cons item rest ih =>
    obtain ⟨UPC, qty, hparse, hUPC⟩ := hitems item (by simp)
    rw [loadItems, hparse, Prog.ofExcept_ok, Prog.ret_bind]
    refine wp_bind.mpr (wp_mono (intact_getProduct UPC) ?_ ?_)
    · intro p g' ⟨hg, _, hp, hset⟩
      rw [ShoppingCart.addProductQty_local]
      have hrest : shop.ItemsKnown rest := fun item hitem => hitems item (by simp [hitem])
      refine wp_mono (ih hrest (hc.set (hp ▸ hUPC) qty) (hsound.set hset qty)) ?_ fun _ _ => id
      intro c' g'' ⟨hg', hc'⟩
      exact ⟨hg.trans hg', hc'⟩
    · intro e g' ⟨_, hnot, _⟩
      exact absurd hUPC hnot

theorem intact_getTransaction {id : Uuid} (hid : id ∈ g) {E : Exn → Set Uuid → Prop} :
    wp (integrity shop) (getTransaction id) g
      (fun t g' => g ⊆ g' ∧ t.transaction_id = id) E := by
  rw [getTransaction_eq]
  refine wp_bind.mpr (wp_query trivial ?_)
  intro r g' hg hanswer
  obtain ⟨entry, rfl, hgood⟩ := hanswer id (hg hid) rfl
  refine wp_bind.mpr (wp_mono
    (intact_loadItems hgood.items Shop.cartKnown_empty ShoppingCart.sound_empty) ?_ fun _ _ he => he)
  intro cart g'' ⟨hg', _⟩
  obtain ⟨t, ht⟩ := hgood.decodes id
  rw [decodeOrder_cart, ht]
  exact ⟨hg.trans hg', (decodeOrder_ok ht).1⟩

theorem intact_loadOrders {lines : List Text}
    (hlines : ∀ line ∈ lines, ∃ id, uuid_parse line = some id ∧ id ∈ g) (tid : Uuid)
    {orders : TransactionHistory} (horders : ∀ id ∈ finalizedIds orders, id ∈ g)
    {E : Exn → Set Uuid → Prop} :
    wp (integrity shop) (loadOrders lines tid orders) g
      (fun orders' g' => g ⊆ g' ∧ ∀ id ∈ finalizedIds orders', id ∈ g') E := by
  induction lines generalizing tid orders g with
  | nil => exact ⟨subset_rfl, horders⟩
  | cons tid_s rest ih =>
    obtain ⟨id, hparse, hid⟩ := hlines tid_s (by simp)
    rw [loadOrders, hparse]
    refine wp_bind.mpr (wp_mono (intact_getTransaction hid) ?_ fun _ _ he => he)
    intro t g' ⟨hg, ht⟩
    refine wp_mono (ih ?_ id ?_) ?_ fun _ _ he => he
    · intro line hline
      obtain ⟨other, hother, hmem⟩ := hlines line (by simp [hline])
      exact ⟨other, hother, hg hmem⟩
    · intro other hother
      rcases finalizedIds_addTransaction hother with hother | ⟨rfl, -⟩
      · exact hg (horders other hother)
      · rw [ht]
        exact hg hid
    · intro orders' g'' ⟨hg', h'⟩
      exact ⟨hg.trans hg', h'⟩

/-- The stored postal code, if there is one, is a number. -/
def ZipReads (entry : Entry UserKey) : Prop := ∀ zip ∈ entry .shipaddr_zip, ∃ n, stoui zip = .ok n

/-- The stored expiry, if it is read, is a number. -/
def ExpReads (entry : Entry UserKey) : Prop :=
  (entry .cc_num).isSome = true → ∀ exp ∈ entry .cc_exp, ∃ n, stoui exp = .ok n

theorem zipReads_of_ok {entry : Entry UserKey} {zip : UInt32} (h : loadedZip entry = .ok zip) :
    ZipReads entry := by
  intro t ht
  unfold loadedZip at h
  rw [Option.mem_def.mp ht] at h
  exact ⟨zip, h⟩

theorem loadedZip_error_cases {entry : Entry UserKey} {e : Exn} (h : loadedZip entry = .error e) :
    ¬ ZipReads entry ∧ (e = .invalid_argument ∨ e = .out_of_range) := by
  unfold loadedZip at h
  split at h
  · rename_i zip hzip
    constructor
    · intro hreads
      obtain ⟨n, hn⟩ := hreads zip hzip
      rw [hn] at h
      cases h
    · exact stoui_error_cases h
  · cases h

theorem expReads_of_ok {entry : Entry UserKey} {pay : Option PaymentInfo}
    (h : loadPayment entry = .ok pay) : ExpReads entry := by
  intro hsome exp hexp
  obtain ⟨num, hnum⟩ := Option.isSome_iff_exists.mp hsome
  unfold loadPayment at h
  rw [hnum] at h
  obtain ⟨cc_num, -, h⟩ := bind_ok h
  rw [Option.mem_def.mp hexp] at h
  obtain ⟨cv2, hcv2, -⟩ := bind_ok h
  exact ⟨cv2, hcv2⟩

theorem loadPayment_error_cases {entry : Entry UserKey} {e : Exn}
    (hcard : ∀ num, entry .cc_num = some num → ∃ n, stoul num = .ok n)
    (h : loadPayment entry = .error e) :
    ¬ ExpReads entry ∧ (e = .invalid_argument ∨ e = .out_of_range) := by
  unfold loadPayment at h
  split at h
  · cases h
  rename_i num hnum
  obtain ⟨n, hn⟩ := hcard num hnum
  rw [hn] at h
  rcases bind_error h with h | ⟨num, -, h⟩
  · cases h
  split at h
  · cases h
  rename_i exp hexp
  rcases bind_error h with h | ⟨cv2, -, h⟩
  · constructor
    · intro hreads
      obtain ⟨cv2, hcv2⟩ := hreads (by simp [hnum]) exp hexp
      rw [hcv2] at h
      cases h
    · exact stoui_error_cases h
  · cases h

theorem intact_storeUser (u : User) (hname : u.user_name ∈ shop.accounts) (hu : u.Backed shop g)
    {Q : Unit → Set Uuid → Prop} {E : Exn → Set Uuid → Prop} (h : ∀ g', g ⊆ g' → Q () g') :
    wp (integrity shop) (storeUser u) g Q E :=
  wp_query ⟨hname, u, rfl, hu⟩ fun _ g' hg _ => h g' hg

theorem intact_loadRest {entry : Entry UserKey} (hentry : shop.UserEntryGood g entry) {user : User}
    (hname : user.user_name ∈ shop.accounts) (hu : user.Backed shop g)
    (hcart : user.shopping_cart = {}) (haddr : user.shipping_address.Whole) :
    wp (integrity shop) (loadRest entry user) g
      (fun u g' => g ⊆ g' ∧ u.user_name = user.user_name ∧ u.Ready shop g' ∧ ExpReads entry)
      (fun e g' => g ⊆ g' ∧ ¬ ExpReads entry ∧ (e = .invalid_argument ∨ e = .out_of_range)) := by
  refine wp_bind.mpr (intact_storeUser user hname hu ?_)
  intro g₁ hg₁
  refine wp_bind.mpr (wp_ofExcept.mpr ⟨?_, ?_⟩)
  · intro pay hpay
    have hreads := expReads_of_ok hpay
    have htail : ∀ g₂, g ⊆ g₂ → wp (integrity shop)
        (do
          let cart ← loadItems (cartLines entry) (withPayment user pay).shopping_cart
          return { withPayment user pay with shopping_cart := cart }) g₂
        (fun u g' => g ⊆ g' ∧ u.user_name = user.user_name ∧ u.Ready shop g' ∧ ExpReads entry)
        (fun e g' => g ⊆ g' ∧ ¬ ExpReads entry ∧ (e = .invalid_argument ∨ e = .out_of_range)) := by
      intro g₂ hg₂
      have hempty : (withPayment user pay).shopping_cart = {} := hcart
      rw [hempty]
      refine wp_bind.mpr (wp_mono
        (intact_loadItems hentry.cart Shop.cartKnown_empty ShoppingCart.sound_empty) ?_
        fun _ _ he => he)
      intro cart g₃ ⟨hg₃, hknown, hsound⟩
      have hids : ∀ id ∈ finalizedIds user.transaction_history, id ∈ g₃ :=
        fun id hid => hg₃ (hg₂ (hu.orders id hid))
      exact ⟨hg₂.trans hg₃, rfl, ⟨hname, ⟨hids, hknown⟩, ⟨haddr, hsound⟩⟩, hreads⟩
    cases pay with
    | none => exact htail g₁ hg₁
    | some cc =>
      have hpaid : User.Backed shop g₁ { user with payment_info := cc } :=
        ⟨(hu.mono hg₁).orders, hu.cart⟩
      refine wp_bind.mpr (wp_bind.mpr
        (intact_storeUser { user with payment_info := cc } hname hpaid ?_))
      intro g₂ hg₂
      exact htail g₂ (hg₁.trans hg₂)
  · intro e he
    exact ⟨hg₁, loadPayment_error_cases hentry.card he⟩

/-- `getUser` once the entry is open. -/
def loadEntry (username : Text) (entry : Entry UserKey) : StorageM User := do
  let orders ← loadOrders (orderLines entry) Platform.indeterminate_uuid {}
  let zip ← .ofExcept (loadedZip entry)
  loadRest entry { User.new username orders with shipping_address := addressOf entry zip }

/-- An entry loads exactly when the two numbers in it do. -/
theorem intact_loadEntry {username : Text} (hname : username ∈ shop.accounts)
    {entry : Entry UserKey} (hentry : shop.UserEntryGood g entry) :
    wp (integrity shop) (loadEntry username entry) g
      (fun u g' => g ⊆ g' ∧ u.user_name = username ∧ u.Ready shop g' ∧
        ZipReads entry ∧ ExpReads entry)
      (fun e g' => g ⊆ g' ∧ ¬ (ZipReads entry ∧ ExpReads entry) ∧
        (e = .invalid_argument ∨ e = .out_of_range)) := by
  have hempty : ∀ id ∈ finalizedIds {}, id ∈ g := by simp [finalizedIds]
  refine wp_bind.mpr (wp_mono (intact_loadOrders hentry.orders _ hempty) ?_ fun _ _ he => he)
  rintro orders g₁ ⟨hg₁, horders⟩
  refine wp_bind.mpr (wp_ofExcept.mpr ⟨?_, ?_⟩)
  · intro zip hzip
    have hreads := zipReads_of_ok hzip
    refine wp_mono (intact_loadRest (hentry.mono hg₁) hname ⟨horders, Shop.cartKnown_empty⟩ rfl ?_)
      ?_ ?_
    · intro hset
      simpa [addressOf] using hset
    · rintro u g₂ ⟨hg₂, hu, hready, hexp⟩
      exact ⟨hg₁.trans hg₂, hu, hready, hreads, hexp⟩
    · rintro e g₂ ⟨hg₂, hexp, he⟩
      exact ⟨hg₁.trans hg₂, fun h => hexp h.2, he⟩
  · intro e he
    obtain ⟨hzip, he⟩ := loadedZip_error_cases he
    exact ⟨hg₁, fun h => hzip h.1, he⟩

/-- How a login may fail. -/
def LoginFails (shop : Shop) (username : Text) (e : Exn) : Prop :=
  (username ∉ shop.accounts ∧ e = .system_error) ∨
    (username ∈ shop.accounts ∧ (e = .invalid_argument ∨ e = .out_of_range))

theorem intact_getUser (username : Text) :
    wp (integrity shop) (getUser username) g
      (fun u g' => g ⊆ g' ∧ u.user_name = username ∧ u.Ready shop g')
      (fun e g' => g ⊆ g' ∧ LoginFails shop username e) := by
  rw [getUser_eq]
  refine wp_bind.mpr (wp_query trivial ?_)
  intro r g₁ hg₁ ⟨hnone, hgood⟩
  cases r with
  | none => exact ⟨hg₁, .inl ⟨hnone.mp rfl, rfl⟩⟩
  | some entry =>
    have hname : username ∈ shop.accounts := by
      by_contra hnot
      cases hnone.mpr hnot
    refine wp_mono (intact_loadEntry hname (hgood entry rfl)) ?_ ?_
    · intro u g₂ ⟨hg₂, hu, hready, _⟩
      exact ⟨hg₁.trans hg₂, hu, hready⟩
    · intro e g₂ ⟨hg₂, _, he⟩
      exact ⟨hg₁.trans hg₂, .inr ⟨hname, he⟩⟩

omit [Platform] in
/-- The names listed are those of SKUs. -/
theorem stoulEach_listed {names : List Text} (h : shop.Listed names) :
    ∃ prodlist, stoulEach (names.filter (· ≠ kDefault)) = .ok prodlist ∧
      ∀ UPC ∈ prodlist, UPC ∈ shop.catalogue := by
  induction names with
  | nil => exact ⟨[], rfl, by simp⟩
  | cons name rest ih =>
    obtain ⟨prodlist, hrest, hall⟩ := ih fun other hother => h other (by simp [hother])
    by_cases hname : name = kDefault
    · exact ⟨prodlist, by simpa [hname] using hrest, hall⟩
    · obtain ⟨UPC, hUPC, rfl⟩ := h name (by simp) hname
      refine ⟨UPC :: prodlist, ?_, by simpa [hUPC] using hall⟩
      rw [List.filter_cons_of_pos (by simpa using hname), stoulEach, stoul_to_string_ulong, hrest]
      rfl

theorem intact_getProducts {E : Exn → Set Uuid → Prop} :
    wp (integrity shop) getProducts g
      (fun prodlist g' => g ⊆ g' ∧ ∀ UPC ∈ prodlist, UPC ∈ shop.catalogue) E := by
  refine wp_bind.mpr (wp_query trivial ?_)
  intro names g' hg hanswer
  obtain ⟨prodlist, hlist, hall⟩ := stoulEach_listed hanswer
  rw [hlist]
  exact ⟨hg, hall⟩

theorem intact_storeProduct {p : Product} (hp : p.UPC ∈ shop.catalogue)
    {Q : Unit → Set Uuid → Prop} {E : Exn → Set Uuid → Prop} (h : ∀ g', g ⊆ g' → Q () g') :
    wp (integrity shop) (storeProduct p) g Q E := by
  unfold storeProduct
  split
  · exact h g subset_rfl
  · exact wp_query ⟨p, hp, rfl, rfl⟩ fun _ g' hg _ => h g' hg

theorem intact_storeTransaction {t : Transaction} (ht : shop.CartKnown t.shopping_cart)
    {E : Exn → Set Uuid → Prop} :
    wp (integrity shop) (storeTransaction t) g
      (fun _ g' => g ⊆ g' ∧ (t.is_finalized = true → t.transaction_id ∈ g')) E := by
  unfold storeTransaction
  split
  · rename_i hfinal
    exact ⟨subset_rfl, fun h => by simp [hfinal] at h⟩
  · exact wp_query ⟨t, rfl, rfl, ht⟩ fun _ g' hg hanswer => ⟨hg, fun _ => hanswer _ rfl⟩

end StorageSystem

section Client

variable (shop : Shop)

def Requestable (g : Set Uuid) : Call → Prop
  | .storeUser u => u.user_name ∈ shop.accounts ∧ u.Backed shop g
  | .setQuantity p _ | .storeProduct p => p.UPC ∈ shop.catalogue
  | .storeTransaction t => shop.CartKnown t.shopping_cart
  | .getUser _ | .getProducts | .getProduct _ | .uuid_generate | .gmtime | .ask _ | .showOrder _ =>
    True

def Shop.Stocks (prodlist : List SKU) : Prop := ∀ UPC ∈ prodlist, UPC ∈ shop.catalogue

def Returns (g : Set Uuid) : (op : Call) → op.Ret → Prop
  | .getUser username, u => u.user_name = username ∧ u.Ready shop g
  | .getProducts, prodlist => shop.Stocks prodlist
  | .getProduct UPC, p => UPC ∈ shop.catalogue ∧ p.UPC = UPC ∧ p.is_set = true
  | .setQuantity p n, p' => p' = p.withQuantity n
  | .storeTransaction t, _ => t.is_finalized = true → t.transaction_id ∈ g
  | .storeUser _, _ | .storeProduct _, _ | .uuid_generate, _ | .gmtime, _ | .ask _, _
  | .showOrder _, _ => True

/-- Only logins and reads of products fail. -/
def Throws : Call → Exn → Prop
  | .getUser username, e => LoginFails shop username e
  | .getProduct UPC, e => UPC ∉ shop.catalogue ∧ e = .system_error
  | _, _ => False

def Outcome (g : Set Uuid) (op : Call) : Except Exn op.Ret → Prop
  | .ok a => Returns shop g op a
  | .error e => Throws shop op e

def intact : Contract clientSig Exn (Set Uuid) where
  pre := Requestable shop
  post g op r g' := g ⊆ g' ∧ Outcome shop g' op r

variable {shop} {g : Set Uuid}

/-- Every method keeps to the contract. -/
theorem intact_method (op : Call) (hop : Requestable shop g op) :
    wp (integrity shop) op.method g (fun a g' => (intact shop).post g op (.ok a) g')
      (fun e g' => (intact shop).post g op (.error e) g') := by
  cases op with
  | getUser username => exact intact_getUser username
  | storeUser u => exact intact_storeUser u hop.1 hop.2 fun g' hg => ⟨hg, trivial⟩
  | getProducts => exact intact_getProducts
  | getProduct UPC => exact intact_getProduct UPC
  | setQuantity p n =>
    have hn : (p.withQuantity n).UPC ∈ shop.catalogue := hop
    exact wp_bind.mpr (intact_storeProduct hn fun g' hg => ⟨hg, rfl⟩)
  | storeProduct p => exact intact_storeProduct hop fun g' hg => ⟨hg, trivial⟩
  | storeTransaction t => exact intact_storeTransaction hop
  | uuid_generate | gmtime => exact wp_query trivial fun _ _ hg _ => ⟨hg, trivial⟩
  | ask question => exact ⟨subset_rfl, trivial⟩
  | showOrder t => exact ⟨subset_rfl, trivial⟩

/-- A session under the client contract keeps to that of the databases. -/
theorem wp_fine {α : Type} {m : ClientM α} {Q : α → Set Uuid → Prop} {E : Exn → Set Uuid → Prop}
    (h : wp (intact shop) m g Q E) : wp (integrity shop) (fine m) g Q E :=
  wp_interp (fun op _ hop => intact_method op hop) h

theorem wp_request {op : Call} {Q : op.Ret → Set Uuid → Prop} {E : Exn → Set Uuid → Prop}
    (hop : Requestable shop g op) (hok : ∀ a g', g ⊆ g' → Returns shop g' op a → Q a g')
    (herr : ∀ e g', g ⊆ g' → Throws shop op e → E e g') :
    wp (intact shop) (request op) g Q E :=
  wp_perform.mpr ⟨hop, fun a g' h => hok a g' h.1 h.2, fun e g' h => herr e g' h.1 h.2⟩

/-- What a session holds on to at its prompts. -/
structure Intact (shop : Shop) (g : Set Uuid) (u : User) (a : Task) : Prop where
  name : u.user_name ∈ shop.accounts
  backed : u.Backed shop g
  task : match a with
    | .idle => True
    | .copy p => p.UPC ∈ shop.catalogue
    | .order t => shop.CartKnown t.shopping_cart

theorem Intact.mono {g' : Set Uuid} {u : User} {a : Task} (h : Intact shop g u a) (hg : g ⊆ g') :
    Intact shop g' u a := ⟨h.name, h.backed.mono hg, h.task⟩

theorem Intact.forget {u : User} {a : Task} (h : Intact shop g u a) : Intact shop g u .idle :=
  ⟨h.name, h.backed, trivial⟩

/-- Storing a user of the shop. -/
theorem wp_storeUser_intact {u : User} {a : Task} (h : Intact shop g u a) {Q : Unit → Set Uuid → Prop}
    {E : Exn → Set Uuid → Prop} (hQ : ∀ g', Intact shop g' u a → Q () g') :
    wp (intact shop) (local_storage.storeUser u) g Q E :=
  wp_request ⟨h.name, h.backed⟩ (fun _ g' hg _ => hQ g' (h.mono hg)) fun _ _ _ h => nomatch h

end Client

end OnlineShoppingCenter
