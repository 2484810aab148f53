import OnlineShoppingCenter.Inventory

/-!
# What can be read

Reading a product stores it again, in a text that can be read again. So what
can be read when a method starts can be read at every point on its way, and
what it has read could be read when it started.
-/
namespace OnlineShoppingCenter

open TextCodec ColumnFamilies EffectProgram StorageSystem

variable [Platform]

/-- A product that can be read. -/
def Readable (w : World) (UPC : SKU) : Prop := ∃ p, Decoded w UPC p

/-- Storing a product of an entry that could be read changes nothing about
which entries can be read. -/
theorem readable_restock {w : World} {p : Product} (h : Readable w p.UPC) (other : SKU) :
    Readable (w.restock p) other ↔ Readable w other := by
  obtain ⟨old, e, he, hold⟩ := h
  obtain ⟨hd, hget⟩ := openEntry_eq_some.mp he
  have hd' : kDefault ∈ (w.restock p).products := Database.mem_put.mpr (.inr (.inl rfl))
  by_cases hother : other = p.UPC
  · have hleft : Readable (w.restock p) other := by
      obtain ⟨price, hprice⟩ := Platform.stof_to_string p.price
      refine ⟨⟨true, other, p.quantity, price, p.category, p.name, P_ALL_SET⟩, _,
        openEntry_eq_some.mpr ⟨hd', by rw [getElem?_restock, if_pos hother]⟩, ?_⟩
      rw [overlay_productBatch]
      simp only [decodeProduct, StorageSystem.get, Option.getD_some, hprice,
        stoui_to_string_uint]
      rfl
    refine iff_of_true hleft ?_
    rw [hother]
    exact ⟨old, e, he, hold⟩
  · have hsame : openEntry (w.restock p).products (to_string other.toNat) =
        openEntry w.products (to_string other.toNat) := by
      ext e'
      simp only [openEntry_eq_some, hd, hd', getElem?_restock, if_neg hother]
    simp only [Readable, Decoded, hsame]

theorem StorageSystem.Decoded.readable {w : World} {UPC : SKU} {p : Product} (h : Decoded w UPC p) :
    Readable w p.UPC := by
  rw [h.sound.1]
  exact ⟨p, h⟩

/-- The same users and orders, and the same products readable. -/
structure SameReadable (w w' : World) : Prop where
  users : w'.users = w.users
  orders : w'.orders = w.orders
  products : ∀ UPC, Readable w' UPC ↔ Readable w UPC

theorem restockable_sameReadable (w : World) : Restockable (SameReadable w) := by
  intro w' UPC p h hp
  exact ⟨h.users, h.orders, fun other => (readable_restock hp.readable other).trans (h.products other)⟩

namespace StorageSystem

variable {w : World}

theorem sameReadable_refl (w : World) : SameReadable w w := ⟨rfl, rfl, fun _ => Iff.rfl⟩

/-- An item that can be read now can be read wherever the same products can. -/
theorem ItemReadable.relocate {K : World → Prop} {item : Text}
    (hK : ∀ w', K w' → ∀ UPC, Readable w' UPC ↔ Readable w UPC)
    (h : ItemReadable (· = w) item) : ItemReadable K item := by
  obtain ⟨UPC, qty, hitem, hread⟩ := h
  exact ⟨UPC, qty, hitem, fun w' hw' => (hK w' hw' UPC).mpr (hread w rfl)⟩

theorem ItemReadable.same {item : Text} (h : ItemReadable (· = w) item) :
    ItemReadable (SameReadable w) item := h.relocate fun _ hw' => hw'.products

theorem OrderReadable.same {id : Uuid} (h : OrderReadable (· = w) id) :
    OrderReadable (SameReadable w) id := by
  intro w' hw'
  obtain ⟨entry, hentry, hitems, hdecode⟩ := h w rfl
  rw [← hw'.orders] at hentry
  exact ⟨entry, hentry, fun item hitem => ItemReadable.same (hitems item hitem), hdecode⟩

theorem HeadReadable.same {entry : Entry UserKey} (h : HeadReadable (· = w) entry) :
    HeadReadable (SameReadable w) entry :=
  ⟨fun id hid => OrderReadable.same (h.1 id hid), h.2⟩

theorem LoadedItems.readable {K : World → Prop} {items : List Text} {c c' : ShoppingCart}
    (hK : ∀ w', K w' → ∀ UPC, Readable w' UPC ↔ Readable w UPC) (h : LoadedItems K items c c') :
    ∀ item ∈ items, ItemReadable (· = w) item := by
  induction h with
  | nil => simp
  | cons hitem hw' hp _ ih =>
    intro item hmem
    rcases List.mem_cons.mp hmem with rfl | hmem
    · refine ⟨_, _, hitem, ?_⟩
      rintro w' rfl
      exact (hK _ hw' _).mp ⟨_, hp⟩
    · exact ih item hmem

theorem LoadedOrder.readable {id : Uuid} {t : Transaction} (h : LoadedOrder (SameReadable w) id t) :
    OrderReadable (· = w) id := by
  obtain ⟨w', entry, cart, hw', hentry, hitems, hdecode⟩ := h
  rintro _ rfl
  rw [hw'.orders] at hentry
  refine ⟨entry, hentry, LoadedItems.readable (fun _ hw' => hw'.products) hitems, ?_⟩
  rw [decodeOrder_cart] at hdecode
  cases hd : decodeOrder id {} entry with
  | error e =>
    rw [hd] at hdecode
    cases hdecode
  | ok t => exact ⟨t, rfl⟩

omit [Platform] in
theorem exists_of_forall₂ {α β : Type} {R : α → β → Prop} {l : List α} {m : List β}
    (h : List.Forall₂ R l m) {a : α} (ha : a ∈ l) : ∃ b ∈ m, R a b := by
  induction h with
  | nil => cases ha
  | cons hab _ ih =>
    rcases List.mem_cons.mp ha with rfl | ha
    · exact ⟨_, by simp, hab⟩
    · obtain ⟨b, hb, hab⟩ := ih ha
      exact ⟨b, by simp [hb], hab⟩

theorem LoadedHead.readable {username : Text} {entry : Entry UserKey} {user : User}
    (h : LoadedHead (SameReadable w) username entry user) : HeadReadable (· = w) entry := by
  obtain ⟨ts, -, hts⟩ := h.history
  obtain ⟨zip, hzip, -⟩ := h.address
  refine ⟨?_, zip, hzip⟩
  intro id hid
  obtain ⟨t, -, ht⟩ := exists_of_forall₂ hts hid
  exact LoadedOrder.readable ht

end StorageSystem

end OnlineShoppingCenter
