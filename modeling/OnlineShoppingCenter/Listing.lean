import OnlineShoppingCenter.Readability
import OnlineShoppingCenter.SequentialRules

/-!
# What a session has read

Before its first prompt a session reads every product that is listed. So a
single client knows at each later prompt that the listed products, and those of
its cart, can be read, and the stock it reads is the same each time.
-/
namespace OnlineShoppingCenter

open TextCodec ColumnFamilies EffectProgram StorageSystem

variable [Platform]

/-- The stock that a read of a product yields. -/
def stockRead (w : World) (UPC : SKU) : Option UInt32 :=
  (openEntry w.products (to_string UPC.toNat)).bind fun e =>
    (decodeProduct UPC e).toOption.map (·.quantity)

/-- Every entry of the products is filed under the number of a product that can
be read. -/
def Listed (w : World) : Prop :=
  ∀ name ∈ w.products, name ≠ kDefault → ∃ UPC, stoul name = .ok UPC ∧ Readable w UPC

def CartListed (w : World) (u : User) : Prop := ∀ UPC ∈ u.shopping_cart.cart, Readable w UPC

section Stock

variable {w : World} {UPC : SKU} {p : Product}

theorem stockRead_eq_some {n : UInt32} :
    stockRead w UPC = some n ↔ ∃ p, Decoded w UPC p ∧ p.quantity = n := by
  unfold stockRead Decoded
  cases openEntry w.products (to_string UPC.toNat) with
  | none => simp
  | some e => cases h : decodeProduct UPC e <;> simp [h, Except.toOption]

theorem StorageSystem.Decoded.stockRead (h : Decoded w UPC p) :
    OnlineShoppingCenter.stockRead w UPC = some p.quantity := stockRead_eq_some.mpr ⟨p, h, rfl⟩

/-- Reading a product does not change what is read next. -/
theorem stockRead_restock (hp : Decoded w UPC p) : stockRead (w.restock p) = stockRead w := by
  obtain ⟨e, he, hdecode⟩ := hp
  have hUPC := (decodeProduct_ok hdecode).1
  subst hUPC
  obtain ⟨hd, hget⟩ := openEntry_eq_some.mp he
  have hd' : kDefault ∈ (w.restock p).products := Database.mem_put.mpr (.inr (.inl rfl))
  funext other
  by_cases hother : other = p.UPC
  · obtain ⟨price, hprice⟩ := Platform.stof_to_string p.price
    have hopen : openEntry (w.restock p).products (to_string other.toNat) =
        some ((productBatch p).overlay e) := by
      apply openEntry_eq_some.mpr
      rw [getElem?_restock, if_pos hother, hget]
      exact ⟨hd', rfl⟩
    have hright : stockRead w other = some p.quantity := by
      subst hother
      exact StorageSystem.Decoded.stockRead ⟨e, he, hdecode⟩
    rw [hright, stockRead, hopen, overlay_productBatch]
    simp only [Option.bind_some, decodeProduct, StorageSystem.get, Option.getD_some, hprice,
      stoui_to_string_uint]
    rfl
  · have hsame : openEntry (w.restock p).products (to_string other.toNat) =
        openEntry w.products (to_string other.toNat) := by
      ext e'
      simp only [openEntry_eq_some, hd, hd', getElem?_restock, if_neg hother]
    rw [stockRead, stockRead, hsame]

/-- Storing a product that can be read keeps the list readable. -/
theorem Listed.restock (h : Listed w) (hp : Readable w p.UPC) : Listed (w.restock p) := by
  have hread := readable_restock hp
  intro name hname hne
  rcases Database.mem_put.mp hname with rfl | hdefault | hold
  · exact ⟨p.UPC, stoul_to_string_ulong p.UPC, (hread p.UPC).mpr hp⟩
  · exact absurd hdefault hne
  · obtain ⟨UPC, hparse, hUPC⟩ := h name hold hne
    exact ⟨UPC, hparse, (hread UPC).mpr hUPC⟩

theorem CartListed.restock {u : User} (h : CartListed w u) (hp : Readable w p.UPC) :
    CartListed (w.restock p) u := fun UPC hUPC => (readable_restock hp UPC).mpr (h UPC hUPC)

theorem CartListed.remove {u : User} (h : CartListed w u) (UPC : SKU) :
    CartListed w { u with shopping_cart := u.shopping_cart.remove UPC } := by
  intro other hother
  exact h other (Std.ExtTreeMap.mem_of_mem_erase hother)

theorem CartListed.set {u : User} (h : CartListed w u) (hp : Readable w p.UPC) (qty : UInt32) :
    CartListed w { u with shopping_cart := u.shopping_cart.set p qty } := by
  intro other hother
  rcases Std.ExtTreeMap.mem_insert.mp hother with heq | hold
  · rw [← Std.LawfulEqCmp.eq_of_compare heq]
    exact hp
  · exact h other hold

/-- A product that is listed is not in the database unless it can be read. -/
theorem Listed.openEntry_none (h : Listed w) (hUPC : ¬ Readable w UPC) :
    openEntry w.products (to_string UPC.toNat) = none := by
  cases he : openEntry w.products (to_string UPC.toNat) with
  | none => rfl
  | some e =>
    have hget := (openEntry_eq_some.mp he).2
    have hmem : to_string UPC.toNat ∈ w.products := Database.mem_iff_exists.mpr ⟨e, hget⟩
    obtain ⟨other, hparse, hread⟩ := h _ hmem (productName_ne_kDefault UPC)
    rw [stoul_to_string_ulong] at hparse
    cases hparse
    exact absurd hread hUPC

end Stock

/-- The products of a task can be read. -/
def TaskListed (w : World) : Task → Prop
  | .idle => True
  | .copy p => Readable w p.UPC
  | .order t => ∀ UPC ∈ t.shopping_cart.cart, Readable w UPC

structure ListedHolds (w : World) (u : User) (a : Task) : Prop where
  listed : Listed w
  cart : CartListed w u
  task : TaskListed w a

/-- While an order is charged, the items that are left can be read. -/
def ItemsListed (w : World) (items : List (SKU × Product × UInt32)) : Prop :=
  ∀ e ∈ items, Readable w e.2.1.UPC

theorem ItemsListed.tail {w : World} {e : SKU × Product × UInt32}
    {rest : List (SKU × Product × UInt32)} (h : ItemsListed w (e :: rest)) : ItemsListed w rest :=
  fun e' he' => h e' (List.mem_cons_of_mem e he')

theorem ItemsListed.restock {w : World} {p : Product} {items : List (SKU × Product × UInt32)}
    (h : ItemsListed w items) (hp : Readable w p.UPC) : ItemsListed (w.restock p) items :=
  fun e he => (readable_restock hp e.2.1.UPC).mpr (h e he)

/-- Charging an item stores its product twice. -/
theorem ItemsListed.charge {w : World} {UPC : SKU} {p : Product} {qty n : UInt32}
    {rest : List (SKU × Product × UInt32)} (hlisted : Listed w)
    (h : ItemsListed w ((UPC, p, qty) :: rest)) :
    Listed ((w.restock (p.withQuantity n)).restock (p.withQuantity n)) ∧
      ItemsListed ((w.restock (p.withQuantity n)).restock (p.withQuantity n)) rest := by
  have hp : Readable w p.UPC := h (UPC, p, qty) List.mem_cons_self
  have hUPC : (p.withQuantity n).UPC = p.UPC := rfl
  rw [← hUPC] at hp
  have hp' := (readable_restock hp _).mpr hp
  exact ⟨(hlisted.restock hp).restock hp', (h.tail.restock hp).restock hp'⟩

def listingSpec : SequentialSpec where
  holds g := ListedHolds g.1
  charging g _ t items := t.is_finalized = true ∧ Listed g.1 ∧ ItemsListed g.1 items
  rest _ := True
  failed _ _ := True
  okQty _ := True
  rest_of_holds _ := trivial
  failed_of_holds _ _ := trivial
  rest_of_refused _ := trivial
  forget h := ⟨h.listed, h.cart, trivial⟩
  ask h := h
  showOrder h := h
  getProducts h := h
  noProduct h := h
  getProduct h hp := by
    have hread := hp.readable
    exact ⟨h.listed.restock hread, h.cart.restock hread, (readable_restock hread _).mpr hread⟩
  storeCart h _ _ hcart := by
    rcases hcart with ⟨-, rfl | ⟨UPC, rfl⟩⟩ | ⟨p, -, -, rfl⟩
    · refine ⟨h.listed, ?_, h.task⟩
      intro UPC hUPC
      simp at hUPC
    · exact ⟨h.listed, h.cart.remove UPC, h.task⟩
    · exact ⟨h.listed, h.cart.remove p.UPC, h.task⟩
  setItem h _ _ _ := ⟨h.listed, h.cart.set h.task _, trivial⟩
  buyCart h _ _ := ⟨h.listed, h.cart, h.cart⟩
  setAddress h := ⟨h.listed, h.cart, h.task⟩
  setPayment h := ⟨h.listed, h.cart, h.task⟩
  storeAddress h _ _ := ⟨h.listed, h.cart, h.task⟩
  storePayment h _ _ := ⟨h.listed, h.cart, h.task⟩
  startCharge h hsound := by
    refine ⟨rfl, h.listed, ?_⟩
    rintro ⟨UPC, p, qty⟩ he
    have hdraft := hsound.loc.1
    rw [hdraft.cart] at he
    have hget := ShoppingCart.mem_cart.mp he
    have hUPC := (hsound.user.cart UPC p qty hget).1
    rw [hUPC]
    exact h.cart UPC (Std.ExtTreeMap.mem_iff_isSome_getElem?.mpr (by rw [hget]; rfl))
  chargeItem h _ _ := ⟨h.1, ItemsListed.charge h.2.1 h.2.2⟩
  finalized h := h.1
  finishCharge h := by
    refine ⟨h.2.1, ?_, trivial⟩
    intro UPC hUPC
    simp at hUPC

section Login

variable {w : World} {u : User}

/-- The same products listed and readable. -/
def SameListed (w w' : World) : Prop :=
  (∀ name, name ∈ w'.products → name ∈ w.products ∨ name = kDefault) ∧
    ∀ UPC, Readable w' UPC ↔ Readable w UPC

theorem sameListed_refl (w : World) : SameListed w w := ⟨fun _ h => .inl h, fun _ => Iff.rfl⟩

theorem SameListed.restock {w' : World} {UPC : SKU} {p : Product} (h : SameListed w w')
    (hp : Decoded w' UPC p) : SameListed w (w'.restock p) := by
  have hread := readable_restock hp.readable
  refine ⟨?_, fun other => (hread other).trans (h.2 other)⟩
  intro name hname
  rcases Database.mem_put.mp hname with rfl | hdefault | hold
  · rw [hp.sound.1]
    obtain ⟨e, he, -⟩ := hp
    have hget := (openEntry_eq_some.mp he).2
    exact h.1 _ (Database.mem_iff_exists.mpr ⟨e, hget⟩)
  · exact .inr hdefault
  · exact h.1 name hold

theorem SameListed.trans {w' w'' : World} (h : SameListed w w') (h' : SameListed w' w'') :
    SameListed w w'' := by
  refine ⟨?_, fun UPC => (h'.2 UPC).trans (h.2 UPC)⟩
  intro name hname
  cases h'.1 name hname with
  | inl hold => exact h.1 name hold
  | inr hdefault => exact .inr hdefault

/-- A list that has been gone through was readable. -/
theorem wp_listInventory_reads (prodlist : List SKU) (w : World) (l : Journal) :
    wp sys.logged.exact (listInventory prodlist) (w, l)
      (fun _ g => SameListed w g.1 ∧ ∀ UPC ∈ prodlist, Readable w UPC) fun _ _ => True := by
  induction prodlist generalizing w l with
  | nil => exact ⟨sameListed_refl w, by simp⟩
  | cons UPC rest ih =>
    apply wp_bind.mpr
    apply (wp_logged (.getProduct UPC)).mpr
    apply wp_getProduct
    · intro p hp
      apply wp_mono (ih _ _) _ fun _ _ _ => trivial
      rintro _ g ⟨hsame, hrest⟩
      refine ⟨((sameListed_refl w).restock hp).trans hsame, ?_⟩
      intro other hother
      cases List.mem_cons.mp hother with
      | inl heq => exact ⟨p, heq ▸ hp⟩
      | inr hmem => exact (readable_restock hp.readable other).mp (hrest other hmem)
    · exact fun _ _ _ => trivial

omit [Platform] in
theorem mem_stoulEach {names : List Text} {upcs : List SKU} (h : stoulEach names = .ok upcs)
    {name : Text} (hname : name ∈ names) : ∃ UPC ∈ upcs, stoul name = .ok UPC := by
  induction names generalizing upcs with
  | nil => cases hname
  | cons first rest ih =>
    obtain ⟨UPC, hUPC, h⟩ := bind_ok h
    obtain ⟨others, hothers, h⟩ := bind_ok h
    cases h
    cases List.mem_cons.mp hname with
    | inl heq => exact ⟨UPC, List.mem_cons_self, heq ▸ hUPC⟩
    | inr hmem =>
      obtain ⟨other, hother, hparse⟩ := ih hothers hmem
      exact ⟨other, List.mem_cons_of_mem _ hother, hparse⟩

/-- The main prompt is reached through the whole list. -/
theorem wp_mainbby_listed (u : User) (w : World) (l : Journal) (hu : u.Sound) (hcart : CartListed w u) :
    wp sys.logged.exact (mainbby u) (w, l) (fun p g => listingSpec.toSessionSpec.Inv g p)
      fun _ _ => True := by
  apply wp_bind.mpr
  apply (wp_logged .getProducts).mpr
  apply wp_bind.mpr
  apply wp_listProducts.mpr
  refine wp_ofExcept.mpr ⟨?_, fun _ _ => trivial⟩
  intro upcs hupcs
  apply wp_bind.mpr
  apply wp_mono (wp_listInventory_reads upcs w _) _ fun _ _ _ => trivial
  rintro _ ⟨w', l'⟩ ⟨hsame, hread⟩
  have hlisted : Listed w' := by
    intro name hname hne
    have hold := (hsame.1 name hname).resolve_right hne
    have hmem : name ∈ w.products.listEntries.filter (· ≠ kDefault) := by
      simpa [hne] using hold
    obtain ⟨UPC, hUPC, hparse⟩ := mem_stoulEach hupcs hmem
    exact ⟨UPC, hparse, (hsame.2 UPC).mpr (hread UPC hUPC)⟩
  apply wp_bind.mpr
  apply (wp_logged (.ask .shell)).mpr
  exact ⟨⟨hu, trivial⟩, ⟨hlisted, fun UPC hUPC => (hsame.2 UPC).mpr (hcart UPC hUPC), trivial⟩⟩

/-- The products of a cart that has been loaded can be read. -/
theorem StorageSystem.LoadedItems.cartReadable {K : World → Prop}
    (hK : ∀ w', K w' → ∀ UPC, Readable w' UPC → Readable w UPC) {items : List Text}
    {c c' : ShoppingCart} (h : LoadedItems K items c c') (hc : ∀ UPC ∈ c.cart, Readable w UPC) :
    ∀ UPC ∈ c'.cart, Readable w UPC := by
  induction h with
  | nil => exact hc
  | @cons item rest c c' UPC qty w' p hparse hw' hp hrest ih =>
    apply ih
    intro other hother
    rcases Std.ExtTreeMap.mem_insert.mp hother with heq | hold
    · rw [← Std.LawfulEqCmp.eq_of_compare heq]
      exact hK w' hw' _ hp.readable
    · exact hc other hold

theorem wp_login_listed (username : Text) (w : World) (l : Journal) :
    wp sys.logged.exact (login username) (w, l)
      (fun p g => p.loc ≠ .exited → listingSpec.toSessionSpec.Inv g p) fun _ _ => True := by
  have hK : Restockable fun w' => ∀ UPC, Readable w' UPC ↔ Readable w UPC := by
    intro w' UPC p hw' hp other
    exact (readable_restock hp.readable other).trans (hw' other)
  apply wp_bind.mpr
  apply wp_attempt.mpr
  apply (wp_logged (.getUser username)).mpr
  apply wp_mono (wp_getUser_keeps hK (fun _ => Iff.rfl) fun _ _ _ _ _ hw' _ _ => hw')
  · rintro u w' ⟨hw', entry, -, hu⟩
    have hsound := hu.sound
    obtain ⟨user, pay, cart, -, -, hcart, rfl⟩ := hu
    have hread := hcart.cartReadable (fun w'' hw'' UPC => (hw'' UPC).mp) fun UPC hUPC => by
      simp at hUPC
    apply wp_mono (wp_mainbby_listed _ w' _ hsound fun UPC hUPC => (hw' UPC).mpr (hread UPC hUPC))
    · exact fun _ _ hinv _ => hinv
    · exact fun _ _ _ => trivial
  · rintro e w' -
    cases e with
    | system_error => exact fun hloc => absurd rfl hloc
    | invalid_argument | out_of_range | runtime_error | undefined => trivial

end Login

/-- At every prompt of a single client the products listed and those in the
cart can be read, and the prompt is sound. -/
theorem session_listed {w w₀ : World} {username : Text} {lines : List Text} {r : Trail × Proc}
    (h : run sys (session username lines) w = (.ok r, w₀)) (hloc : r.2.loc ≠ .exited) :
    r.2.Sound ∧ Listed w₀ ∧ CartListed w₀ r.2.logged_in := by
  obtain ⟨l', hlogged⟩ := run_logged_eq h []
  obtain ⟨p, g, hlogin, hplay⟩ := run_bind_eq_ok.mp hlogged
  have hinv := wp_login_listed username w []
  rw [wp_exact, hlogin] at hinv
  have hp : p.loc ≠ .exited := by
    intro hexited
    rw [play_of_exited hexited] at hplay
    cases hplay
    exact hloc hexited
  have hkeeps := listingSpec.toSessionSpec.keeps_play lines (hinv hp) fun _ => trivial
  rw [wp_exact, hplay] at hkeeps
  obtain ⟨task, htask⟩ := hkeeps.1.holds hloc
  exact ⟨hkeeps.1.sound, htask.listed, htask.cart⟩

end OnlineShoppingCenter
