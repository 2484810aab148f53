import OnlineShoppingCenter.CoupledStorage
import OnlineShoppingCenter.Displays
import OnlineShoppingCenter.SequentialRules

/-!
# The list of products and the database

What the list printed by `main` says of the products that the database holds,
and the rules by which it stays current: reading a product stores it as it is
listed, and only an order changes a stock.
-/
namespace OnlineShoppingCenter

open TextCodec ColumnFamilies EffectProgram SectionedLog StorageSystem

variable [Platform]

/-- What the list says of an entry, apart from the price. -/
def shelfOf (e : Entry ProductKey) : Except Exn (Text × Text × UInt32) :=
  (fun p => (p.name, p.category, p.quantity)) <$> decodeProduct 0 e

def World.shelf (w : World) (UPC : SKU) : Option (Except Exn (Text × Text × UInt32)) :=
  (openEntry w.products (to_string UPC.toNat)).map shelfOf

/-- All products of the database, in its order and as they can be read. -/
structure Listing (w : World) (prodlist : List Product) : Prop where
  names : stoulEach (w.products.listEntries.filter (· ≠ kDefault)) = .ok (prodlist.map (·.UPC))
  current : ∀ p ∈ prodlist, w.shelf p.UPC = some (.ok (p.name, p.category, p.quantity))

/-- The list of products, and the menu behind it. -/
def inventoryScreen (prodlist : List Product) : Screen :=
  .heading .inventory :: (prodlist.flatMap (fun p => inventoryLines p.UPC p) ++ mainMenu)

def InventoryShown (s : Site World) : Prop :=
  ∃ prodlist, Listing s.world prodlist ∧ Shown .inventory (inventoryScreen prodlist) s.screen

section Shelves

variable {w w' : World} {UPC : SKU} {p : Product}

abbrev SameShelves (w w' : World) : Prop := SameView shelfOf w.products w'.products

theorem sameShelves_refl (w : World) : SameShelves w w := ⟨rfl, fun _ => rfl⟩

theorem SameShelves.shelf (h : SameShelves w w') : w.shelf = w'.shelf := by
  funext UPC
  exact h.openEntry _

theorem Listing.kept {prodlist : List Product} (h : Listing w prodlist) (hw : SameShelves w w') :
    Listing w' prodlist := by
  constructor
  · rw [← hw.listEntries]
    exact h.names
  · rw [← hw.shelf]
    exact h.current

theorem shelfOf_decoded {e : Entry ProductKey} (h : decodeProduct UPC e = .ok p) :
    shelfOf e = .ok (p.name, p.category, p.quantity) := by
  unfold decodeProduct at h
  obtain ⟨price, hprice, h⟩ := bind_ok h
  obtain ⟨quantity, hquantity, h⟩ := bind_ok h
  cases h
  unfold shelfOf decodeProduct
  simp only [hprice, hquantity]
  rfl

theorem shelfOf_productBatch (p : Product) (e : Entry ProductKey) :
    shelfOf ((productBatch p).overlay e) = .ok (p.name, p.category, p.quantity) := by
  obtain ⟨price, hprice⟩ := Platform.stof_to_string p.price
  rw [overlay_productBatch, shelfOf]
  simp only [decodeProduct, StorageSystem.get, Option.getD_some, hprice, stoui_to_string_uint]
  rfl

theorem StorageSystem.Decoded.shelf (h : Decoded w UPC p) :
    w.shelf UPC = some (.ok (p.name, p.category, p.quantity)) := by
  obtain ⟨e, he, hdecode⟩ := h
  rw [World.shelf, he, Option.map_some, shelfOf_decoded hdecode]

/-- A product that has been read is stored as it was read. -/
theorem StorageSystem.Decoded.sameShelves (h : Decoded w UPC p) : SameShelves w (w.restock p) := by
  have hUPC := h.sound.1
  obtain ⟨e, he, hdecode⟩ := h
  subst hUPC
  apply SameView.put_right (sameShelves_refl w) he
  rw [shelfOf_productBatch, shelfOf_decoded hdecode]

/-- The calls that leave every stock. -/
def Call.Steady : Call → Prop
  | .getUser _ | .setQuantity .. | .storeProduct _ => False
  | .storeUser _ | .getProducts | .getProduct _ | .storeTransaction _ | .uuid_generate | .gmtime
  | .ask _ | .showOrder _ => True

theorem sameShelves_sys {op : Call} (h : op.Steady) (w : World) :
    SameShelves w (sys op w).2 := by
  have hrefl := sameShelves_refl w
  change SameShelves w (run db op.method w).2
  apply run_of_wp
  cases op with
  | getUser username => exact h.elim
  | setQuantity p n => exact h.elim
  | storeProduct p => exact h.elim
  | storeUser u => exact wp_storeUser.mpr hrefl
  | getProducts =>
    apply wp_bind.mpr
    apply wp_listProducts.mpr
    exact wp_ofExcept.mpr ⟨fun _ _ => hrefl, fun _ _ => hrefl⟩
  | getProduct UPC => exact wp_getProduct (fun p hp => hp.sameShelves) fun _ _ _ => hrefl
  | storeTransaction t =>
    cases hfinal : t.is_finalized with
    | true => exact (wp_storeTransaction hfinal).mpr hrefl
    | false =>
      have hskip : storeTransaction t = .ret () := by simp [storeTransaction, hfinal]
      change wp db.exact (storeTransaction t) w _ _
      rw [hskip]
      exact hrefl
  | uuid_generate => exact wp_exact_perform.mpr hrefl
  | gmtime => exact wp_exact_perform.mpr hrefl
  | ask question => exact hrefl
  | showOrder t => exact hrefl

end Shelves

namespace Console

section Rules

variable {α β : Type} {s : Site World}

/-- The list stays current. -/
def Lists (m : ConsoleM α) : Prop :=
  ∀ s, InventoryShown s → wp (terminal sys).exact m s (fun _ => InventoryShown) fun _ _ => True

/-- The list becomes current. -/
def Relists (m : ConsoleM α) : Prop :=
  ∀ s, wp (terminal sys).exact m s (fun _ => InventoryShown) fun _ _ => True

theorem Relists.lists {m : ConsoleM α} (h : Relists m) : Lists m := fun s _ => h s

theorem lists_ret (a : α) : Lists (.ret a) := fun _ hs => hs

theorem lists_fail (e : Exn) : Lists (.fail e : ConsoleM α) := fun _ _ => trivial

theorem lists_ofExcept (r : Except Exn α) : Lists (.ofExcept r) := by
  cases r with
  | ok a => exact lists_ret a
  | error e => exact lists_fail e

theorem lists_bind {m : ConsoleM α} {f : α → ConsoleM β} (hm : Lists m) (hf : ∀ a, Lists (f a)) :
    Lists (m >>= f) := by
  intro s hs
  rw [wp_bind]
  exact wp_mono (hm s hs) (fun a s' hs' => hf a s' hs') fun _ _ h => h

theorem wp_true (m : ConsoleM α) (s : Site World) :
    wp (terminal sys).exact m s (fun _ _ => True) fun _ _ => True := by
  rw [wp_exact]
  cases (run (terminal sys) m s).1 <;> trivial

/-- What comes before the list does not matter. -/
theorem relists_bind (m : ConsoleM α) {f : α → ConsoleM β} (hf : ∀ a, Relists (f a)) :
    Relists (m >>= f) := by
  intro s
  rw [wp_bind]
  exact wp_mono (wp_true m s) (fun a s' _ => hf a s') fun _ _ h => h

theorem wp_terminal_display (lines : Screen) {Q : Unit → Site World → Prop}
    {E : Exn → Site World → Prop} :
    wp (terminal sys).exact (display lines) s Q E ↔ Q () ⟨s.world, s.screen ++ lines⟩ := by
  induction lines generalizing s with
  | nil =>
    rw [List.append_nil]
    rfl
  | cons line lines ih =>
    rw [display, wp_bind, print, wp_exact_perform]
    change wp (terminal sys).exact (display lines) ⟨s.world, s.screen ++ [line]⟩ Q E ↔ _
    rw [ih, List.append_assoc, List.singleton_append]

theorem wp_terminal_call {op : Call} {Q : op.Ret → Site World → Prop}
    {E : Exn → Site World → Prop} :
    wp (terminal sys).exact (quiet (request op)) s Q E ↔
      wp db.exact op.method s.world (fun a w => Q a ⟨w, s.screen⟩) fun e w => E e ⟨w, s.screen⟩ := by
  have hquiet : quiet (request op) = Prog.perform (S := sig) (.call op) :=
    Prog.interp_perform (S := clientSig) call op
  rw [hquiet]
  refine wp_exact_perform.trans (Iff.trans ?_ wp_exact.symm)
  change Ends Q E (run db op.method s.world).1 ⟨(run db op.method s.world).2, s.screen⟩ ↔ _
  cases (run db op.method s.world).1 <;> rfl

theorem lists_then {lines : Screen} (h : ∀ line ∈ lines, line.opens ≠ some .inventory)
    {m : ConsoleM α} (hm : Lists m) : Lists (do display lines; m) := by
  rintro s ⟨prodlist, hlisting, hshown⟩
  rw [wp_bind, wp_terminal_display]
  exact hm _ ⟨prodlist, hlisting, Shows.append hshown h⟩

theorem lists_plain {lines : Screen} (h : Plain lines) {m : ConsoleM α} (hm : Lists m) :
    Lists (do display lines; m) := by
  apply lists_then _ hm
  intro line hline
  rw [h line hline]
  simp

theorem unlisted_view {k : Heading} {body : Screen} (hk : k ≠ .inventory) (hbody : Plain body) :
    ∀ line ∈ .heading k :: body, line.opens ≠ some .inventory := by
  intro line hline
  rcases List.mem_cons.mp hline with rfl | hline
  · simpa using hk
  · rw [hbody line hline]
    simp

theorem lists_view {k : Heading} {body : Screen} (hk : k ≠ .inventory) (hbody : Plain body)
    {m : ConsoleM α} (hm : Lists m) : Lists (do display (.heading k :: body); m) :=
  lists_then (unlisted_view hk hbody) hm

/-- A view behind one line more. -/
theorem lists_led {k : Heading} {line : Printed} {body : Screen} (hline : line.opens = none)
    (hk : k ≠ .inventory) (hbody : Plain body) {m : ConsoleM α} (hm : Lists m) :
    Lists (do display (line :: .heading k :: body); m) := by
  apply lists_then _ hm
  intro first hfirst
  rcases List.mem_cons.mp hfirst with rfl | hfirst
  · rw [hline]
    simp
  · exact unlisted_view hk hbody first hfirst

theorem lists_quiet {m : ClientM α} (h : m.Only Call.Steady) : Lists (quiet m) := by
  induction m with
  | ret a => exact lists_ret a
  | fail e => exact lists_fail e
  | call op k ih =>
    rintro s ⟨prodlist, hlisting, hshown⟩
    refine ⟨trivial, ?_⟩
    intro r s' hanswer
    obtain ⟨-, rfl⟩ := Prod.mk.inj hanswer
    have hrest := ih r (h.2 r) ⟨(sys op s.world).2, s.screen⟩
      ⟨prodlist, hlisting.kept (sameShelves_sys h.1 _), hshown⟩
    cases r <;> exact hrest

theorem lists_attempt {m : ClientM α} (h : m.Only Call.Steady) : Lists (quiet m).attempt := by
  have hattempt : quiet m.attempt = (quiet m).attempt := Prog.interp_attempt (S := clientSig) call m
  rw [← hattempt]
  exact lists_quiet (h.andThen fun _ => trivial)

end Rules

end Console

end OnlineShoppingCenter
