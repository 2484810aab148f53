import OnlineShoppingCenter.Accounts
import OnlineShoppingCenter.CardDialogue
import OnlineShoppingCenter.CartOperations
import OnlineShoppingCenter.KeyedOperations
import OnlineShoppingCenter.Listing
import OnlineShoppingCenter.Orders

/-!
# Cart commands on different products

A cart command acts on the entry of its product, in a way that depends on that
entry and on the stock the product is read with. So a sequence of commands may
be reordered as long as those on one product keep their order.
-/
namespace OnlineShoppingCenter

open TextCodec ColumnFamilies EffectProgram StorageSystem KeyedOperations

/-- A cart command with the numbers that are typed. -/
inductive CartCommand where
  | addtocart (UPC : SKU) (qty : UInt32)
  | changeqty (UPC : SKU) (qty : UInt32)
  | remove (UPC : SKU)
  deriving DecidableEq

/-- A product in the cart: the stock its copy was read with and the quantity.
`stored` tells whether a command on it has stored the user. -/
@[ext] structure Slot where
  entry : Option (UInt32 × UInt32)
  stored : Bool

def Slot.count (s : Slot) : UInt32 :=
  match s.entry with
  | some (_, qty) => qty
  | none => 0

namespace CartCommand

def UPC : CartCommand → SKU
  | .addtocart UPC _ | .changeqty UPC _ | .remove UPC => UPC

/-- The command is one of the cart prompt, or else of the main prompt. -/
def atCart : CartCommand → Bool
  | .addtocart .. => false
  | .changeqty .. | .remove _ => true

def words : CartCommand → List Text
  | .addtocart UPC qty => ["addtocart".toList, to_string UPC.toNat, to_string qty.toNat]
  | .changeqty UPC qty => ["changeqty".toList, to_string UPC.toNat, to_string qty.toNat]
  | .remove UPC => ["remove".toList, to_string UPC.toNat]

def line (cmd : CartCommand) : Text := join ' ' cmd.words

/-- What a command does to its own entry, given the stock that is read. -/
def act (stock : Option UInt32) : CartCommand → Slot → Slot
  | .addtocart _ qty, s =>
    match stock with
    | none => s
    | some n => if qty = 1 ∧ 0 < s.count then s else ⟨some (n, qty), true⟩
  | .changeqty _ qty, s =>
    match stock with
    | none => s
    | some n => if 0 < s.count then ⟨some (n, qty), true⟩ else s
  | .remove _, s => if 0 < s.count then ⟨none, true⟩ else s

theorem split_line (cmd : CartCommand) : split cmd.line ' ' = cmd.words := by
  have hnum : ∀ n, ' ' ∉ to_string n ∧ to_string n ≠ [] :=
    fun n => ⟨not_mem_to_string (by decide), to_string_ne_nil n⟩
  have hword : ' ' ∉ "addtocart".toList ∧ ' ' ∉ "changeqty".toList ∧ ' ' ∉ "remove".toList := by decide
  apply split_join
  intro field hfield
  cases cmd with
  | addtocart UPC qty =>
    simp only [words, List.mem_cons, List.not_mem_nil, or_false] at hfield
    rcases hfield with rfl | rfl | rfl
    · exact ⟨hword.1, by decide⟩
    · exact hnum _
    · exact hnum _
  | changeqty UPC qty =>
    simp only [words, List.mem_cons, List.not_mem_nil, or_false] at hfield
    rcases hfield with rfl | rfl | rfl
    · exact ⟨hword.2.1, by decide⟩
    · exact hnum _
    · exact hnum _
  | remove UPC =>
    simp only [words, List.mem_cons, List.not_mem_nil, or_false] at hfield
    rcases hfield with rfl | rfl
    · exact ⟨hword.2.2, by decide⟩
    · exact hnum _

end CartCommand

/-- The line that leads from one of the two prompts to the other. -/
def goTo (here there : Bool) : List Text :=
  if here = there then [] else if there then ["cart".toList] else ["back".toList]

/-- The lines that type some commands, each at its prompt. -/
def script : Bool → List CartCommand → List Text
  | _, [] => []
  | here, cmd :: cmds => goTo here cmd.atCart ++ cmd.line :: script cmd.atCart cmds

/-- Reordered, with the commands on each product in their order. -/
def Reordered (cmds cmds' : List CartCommand) : Prop :=
  ∀ UPC, atKey CartCommand.UPC cmds UPC = atKey CartCommand.UPC cmds' UPC

variable [Platform]

/-- One of the two prompts that take cart commands. -/
def Loc.cartPrompt : Loc → Option Bool
  | .mainshell => some false
  | .cartshell _ => some true
  | _ => none

def promptAt (here : Bool) (u : User) : Loc :=
  if here then .cartshell u.shopping_cart.invalidQty else .mainshell

def storedItems (w : World) (username : Text) : Option Text :=
  w.users[username]?.bind fun e => e .items_in_cart

/-- The same quantities, the same stored text, and the same verdict of the cart
view. -/
structure SameCart (u : User) (w : World) (u' : User) (w' : World) : Prop where
  quantities : u.shopping_cart.quantity = u'.shopping_cart.quantity
  text : storedItems w u.user_name = storedItems w' u'.user_name
  verdict : u.shopping_cart.invalidQty = u'.shopping_cart.invalidQty

/-- What an entry of a cart determines: the number on hand as it was read, and the quantity. -/
def ShoppingCart.slots (c : ShoppingCart) (UPC : SKU) : Option (UInt32 × UInt32) :=
  (c.cart[UPC]?).map fun e => (e.1.quantity, e.2)

section Determined

variable {c c' : ShoppingCart}

theorem quantity_of_slots (h : c.slots = c'.slots) : c.quantity = c'.quantity := by
  funext UPC
  have hslot := congrArg (Option.map Prod.snd) (congrFun h UPC)
  simpa [ShoppingCart.slots, ShoppingCart.quantity, Function.comp_def] using hslot

theorem invalidQty_eq_true : c.invalidQty = true ↔ ∃ UPC n qty, c.slots UPC = some (n, qty) ∧ n < qty := by
  unfold ShoppingCart.invalidQty ShoppingCart.slots
  rw [List.any_eq_true]
  constructor
  · rintro ⟨⟨UPC, p, qty⟩, hmem, hlt⟩
    rw [ShoppingCart.mem_cart] at hmem
    exact ⟨UPC, p.quantity, qty, by rw [hmem]; rfl, of_decide_eq_true hlt⟩
  · rintro ⟨UPC, n, qty, hslot, hlt⟩
    obtain ⟨⟨p, qty'⟩, hget, heq⟩ := Option.map_eq_some_iff.mp hslot
    cases heq
    exact ⟨(UPC, p, qty'), ShoppingCart.mem_cart.mpr hget, decide_eq_true hlt⟩

theorem invalidQty_of_slots (h : c.slots = c'.slots) : c.invalidQty = c'.invalidQty := by
  apply Bool.eq_iff_iff.mpr
  rw [invalidQty_eq_true, invalidQty_eq_true, h]

end Determined

/-- The session stands where the abstract cart says: `w₀` and `u₀` are from
before the commands. -/
structure Tracks (w₀ : World) (u₀ : User) (f : SKU → Slot) (w : World) (u : User) : Prop where
  name : u.user_name = u₀.user_name
  slots : ∀ UPC, u.shopping_cart.slots UPC = (f UPC).entry
  stock : stockRead w = stockRead w₀
  listed : Listed w
  cart : CartListed w u
  stored : (∃ UPC, (f UPC).stored = true) →
    storedItems w u₀.user_name = some (cartText u.shopping_cart)
  unstored : (∀ UPC, (f UPC).stored = false) → storedItems w u₀.user_name = storedItems w₀ u₀.user_name

/-- The abstract cart after some commands. -/
def slotsAfter (w₀ : World) : (SKU → Slot) → List CartCommand → SKU → Slot :=
  performAll CartCommand.UPC fun cmd => cmd.act (stockRead w₀ cmd.UPC)

def slotsStep (w₀ : World) : (SKU → Slot) → CartCommand → SKU → Slot :=
  perform CartCommand.UPC fun cmd => cmd.act (stockRead w₀ cmd.UPC)

section Tracking

variable {w₀ w : World} {u₀ u : User} {f : SKU → Slot} {p : Product} {qty : UInt32} {UPC : SKU}

theorem Tracks.restock (h : Tracks w₀ u₀ f w u) (hp : Decoded w UPC p) :
    Tracks w₀ u₀ f (w.restock p) u where
  name := h.name
  slots := h.slots
  stock := (stockRead_restock hp).trans h.stock
  listed := h.listed.restock hp.readable
  cart := h.cart.restock hp.readable
  stored := h.stored
  unstored := h.unstored

theorem storedItems_putUser (w : World) (u : User) :
    storedItems (w.putUser u) u.user_name = some (cartText u.shopping_cart) := by
  unfold storedItems World.putUser
  rw [Database.getElem?_put_self, overlay_userBatch]
  rfl

theorem slots_set (c : ShoppingCart) (p : Product) (qty : UInt32) :
    (c.set p qty).slots = Function.update c.slots p.UPC (some (p.quantity, qty)) := by
  funext UPC
  unfold ShoppingCart.slots
  rw [ShoppingCart.getElem?_set]
  by_cases h : UPC = p.UPC
  · subst h
    simp
  · simp [h]

theorem slots_remove (c : ShoppingCart) (UPC : SKU) :
    (c.remove UPC).slots = Function.update c.slots UPC none := by
  funext other
  unfold ShoppingCart.slots
  rw [ShoppingCart.getElem?_remove]
  by_cases h : other = UPC
  · subst h
    simp
  · simp [h]

/-- A command that stores the user with a new cart. -/
theorem Tracks.store {u' : User} {s : Slot} (h : Tracks w₀ u₀ f w u)
    (hname : u'.user_name = u.user_name) (hcart : CartListed w u') (hs : s.stored = true)
    (hslots : u'.shopping_cart.slots = Function.update u.shopping_cart.slots UPC s.entry) :
    Tracks w₀ u₀ (Function.update f UPC s) (w.putUser u') u' where
  name := hname.trans h.name
  slots other := by
    rw [hslots]
    by_cases ho : other = UPC
    · subst ho
      simp
    · simp [ho, h.slots other]
  stock := h.stock
  listed := h.listed
  cart := hcart
  stored _ := by
    rw [← h.name, ← hname]
    exact storedItems_putUser w u'
  unstored hnone := by
    have hself := hnone UPC
    simp [hs] at hself

theorem Tracks.set (h : Tracks w₀ u₀ f w u) (hp : Readable w p.UPC) (qty : UInt32) :
    Tracks w₀ u₀ (Function.update f p.UPC ⟨some (p.quantity, qty), true⟩)
      (w.putUser { u with shopping_cart := u.shopping_cart.set p qty })
      { u with shopping_cart := u.shopping_cart.set p qty } :=
  h.store rfl (h.cart.set hp qty) rfl (slots_set _ p qty)

theorem Tracks.remove (h : Tracks w₀ u₀ f w u) (UPC : SKU) :
    Tracks w₀ u₀ (Function.update f UPC ⟨none, true⟩)
      (w.putUser { u with shopping_cart := u.shopping_cart.remove UPC })
      { u with shopping_cart := u.shopping_cart.remove UPC } :=
  h.store rfl (h.cart.remove UPC) rfl (slots_remove _ UPC)

theorem Tracks.checkCart (h : Tracks w₀ u₀ f w u) (UPC : SKU) :
    u.shopping_cart.checkCart UPC = decide (0 < (f UPC).count) := by
  have hslot := h.slots UPC
  unfold ShoppingCart.slots at hslot
  unfold ShoppingCart.checkCart Slot.count
  rw [← hslot]
  cases u.shopping_cart.cart[UPC]? <;> rfl

end Tracking

/-- A program without exceptions that ends at a prompt with an abstract cart. -/
abbrev Reaches (w₀ : World) (u₀ : User) (f : SKU → Slot) (here : Bool) (m : ClientM Proc)
    (w : World) : Prop :=
  wp sys.exact m w
    (fun p w' => p.loc = promptAt here p.logged_in ∧ Tracks w₀ u₀ f w' p.logged_in) fun _ _ => False

section Commands

variable {w₀ w : World} {u₀ u : User} {f : SKU → Slot} {p : Product} {qty : UInt32} {UPC : SKU}

theorem wp_listInventory_tracks (prodlist : List SKU) (hread : ∀ UPC ∈ prodlist, Readable w UPC)
    (h : Tracks w₀ u₀ f w u) :
    wp sys.exact (listInventory prodlist) w (fun _ w' => Tracks w₀ u₀ f w' u) fun _ _ => False := by
  induction prodlist generalizing w with
  | nil => exact h
  | cons UPC rest ih =>
    apply wp_bind.mpr
    apply wp_sys.mpr
    apply wp_getProduct
    · intro p hp
      apply ih _ (h.restock hp)
      intro other hother
      exact (readable_restock hp.readable other).mpr (hread other (List.mem_cons_of_mem _ hother))
    · exact fun _ _ hnone => hnone (hread UPC List.mem_cons_self)

omit [Platform] in
theorem stoulEach_ok {names : List Text} {P : SKU → Prop}
    (h : ∀ name ∈ names, ∃ UPC, stoul name = .ok UPC ∧ P UPC) :
    ∃ upcs, stoulEach names = .ok upcs ∧ ∀ UPC ∈ upcs, P UPC := by
  induction names with
  | nil => exact ⟨[], rfl, by simp⟩
  | cons name rest ih =>
    obtain ⟨UPC, hparse, hUPC⟩ := h name List.mem_cons_self
    obtain ⟨upcs, hrest, hall⟩ := ih fun name hname => h name (List.mem_cons_of_mem _ hname)
    refine ⟨UPC :: upcs, ?_, List.forall_mem_cons.mpr ⟨hUPC, hall⟩⟩
    rw [stoulEach, hparse, hrest]
    rfl

theorem reaches_mainbby (h : Tracks w₀ u₀ f w u) : Reaches w₀ u₀ f false (mainbby u) w := by
  have hnames : ∀ name ∈ w.products.listEntries.filter (· ≠ kDefault),
      ∃ UPC, stoul name = .ok UPC ∧ Readable w UPC := by
    intro name hname
    rw [List.mem_filter] at hname
    apply h.listed name
    · simpa using hname.1
    · simpa using hname.2
  obtain ⟨upcs, hupcs, hread⟩ := stoulEach_ok hnames
  apply wp_bind.mpr
  apply wp_sys.mpr
  apply wp_bind.mpr
  apply wp_listProducts.mpr
  rw [hupcs]
  apply wp_ofExcept.mpr
  constructor
  · rintro _ ⟨⟩
    apply wp_bind.mpr
    apply wp_mono (wp_listInventory_tracks upcs hread h) _ fun _ _ => id
    intro _ w' hw'
    exact wp_waitAt_sys.mpr ⟨rfl, hw'⟩
  · intro _ he
    cases he

theorem wp_onCart_set (hp : Readable w p.UPC) (h : Tracks w₀ u₀ f w u) :
    wp sys.exact (onCart u fun store cart => cart.addProductQty store p qty) w
      (fun u' w' => Tracks w₀ u₀ (Function.update f p.UPC ⟨some (p.quantity, qty), true⟩) w' u')
      fun _ _ => False := by
  apply wp_bind.mpr
  dsimp only
  by_cases hq : qty = 0
  · subst hq
    rw [ShoppingCart.addProductQty_zero]
    apply wp_bind.mpr
    apply wp_sys.mpr
    apply wp_storeUser.mpr
    apply wp_bind.mpr
    apply wp_sys.mpr
    apply wp_storeUser.mpr
    have hset := (h.remove p.UPC).set hp 0
    rw [Function.update_idem] at hset
    simpa using hset
  · rw [ShoppingCart.addProductQty_pos hq]
    apply wp_bind.mpr
    apply wp_sys.mpr
    apply wp_storeUser.mpr
    exact h.set hp qty

/-- A copy that has just been read goes into the cart. -/
theorem wp_onCart_add (hp : Readable w p.UPC) (h : Tracks w₀ u₀ f w u) :
    wp sys.exact (onCart u fun store cart =>
        if qty = 1 then cart.addProduct store p else cart.addProductQty store p qty) w
      (fun u' w' => Tracks w₀ u₀ (Function.update f p.UPC
        (if qty = 1 ∧ 0 < (f p.UPC).count then f p.UPC else ⟨some (p.quantity, qty), true⟩)) w' u')
      fun _ _ => False := by
  by_cases hq : qty = 1
  · subst hq
    have hcheck := h.checkCart p.UPC
    simp only [if_true, true_and]
    apply wp_bind.mpr
    dsimp only
    by_cases hcount : 0 < (f p.UPC).count
    · rw [ShoppingCart.addProduct_old (by rw [hcheck]; exact decide_eq_true hcount), if_pos hcount,
        Function.update_eq_self]
      exact h
    · rw [ShoppingCart.addProduct_new (by rw [hcheck]; exact decide_eq_false hcount), if_neg hcount]
      apply wp_bind.mpr
      apply wp_sys.mpr
      apply wp_storeUser.mpr
      exact h.set hp 1
  · simp only [hq, if_false, false_and]
    exact wp_onCart_set hp h

theorem reaches_addtocart (h : Tracks w₀ u₀ f w u) :
    Reaches w₀ u₀ (slotsStep w₀ f (.addtocart UPC qty)) false
      (Proc.step ⟨u, .mainshell⟩ (CartCommand.addtocart UPC qty).line) w := by
  have hstep : Proc.step ⟨u, .mainshell⟩ (CartCommand.addtocart UPC qty).line =
      addtocart u [to_string UPC.toNat, to_string qty.toNat] := by
    change mainCommand u (split (CartCommand.addtocart UPC qty).line ' ') = _
    rw [CartCommand.split_line, CartCommand.words, mainCommand, if_neg (by decide), if_pos rfl]
  have hsame : stockRead w₀ UPC = stockRead w UPC := by rw [h.stock]
  rw [hstep, addtocart, stoul_to_string_ulong]
  unfold slotsStep perform
  simp only [CartCommand.UPC, CartCommand.act, hsame]
  apply wp_bind.mpr
  apply wp_attempt.mpr
  rw [Prog.ofExcept_ok, Prog.ret_bind]
  apply wp_sys.mpr
  by_cases hread : Readable w UPC
  · apply wp_getProduct
    · intro p hp
      have hUPC : p.UPC = UPC := hp.sound.1
      have hp' := (readable_restock hp.readable p.UPC).mpr hp.readable
      subst hUPC
      rw [hp.stockRead]
      simp only [stoui_to_string_uint]
      apply wp_bind.mpr
      apply wp_mono (wp_onCart_add hp' (h.restock hp)) _ fun _ _ => id
      intro u' w' hw'
      exact wp_waitAt_sys.mpr ⟨rfl, hw'⟩
    · exact fun _ _ hnone => absurd hread hnone
  · have hopen := h.listed.openEntry_none hread
    have hstock : stockRead w UPC = none := by rw [stockRead, hopen]; rfl
    simp only [hstock, Function.update_eq_self]
    change wp db.exact (getProduct UPC) w _ _
    rw [getProduct_eq, wp_bind, wp_openProduct, hopen]
    exact reaches_mainbby h

theorem reaches_cartview (h : Tracks w₀ u₀ f w u) : Reaches w₀ u₀ f true (cartview u) w := by
  unfold Reaches cartview cartshell
  exact wp_waitAt_sys.mpr ⟨rfl, h⟩

/-- A product that counts something is in the cart. -/
theorem Tracks.mem_cart (h : Tracks w₀ u₀ f w u) (hcount : 0 < (f UPC).count) :
    UPC ∈ u.shopping_cart.cart := by
  apply ShoppingCart.mem_of_checkCart
  rw [h.checkCart UPC]
  exact decide_eq_true hcount

theorem Tracks.isEmpty (h : Tracks w₀ u₀ f w u) (hcount : 0 < (f UPC).count) :
    u.shopping_cart.isEmpty = false :=
  ShoppingCart.isEmpty_eq_false_iff.mpr ⟨UPC, h.mem_cart hcount⟩

theorem reaches_remove (h : Tracks w₀ u₀ f w u) :
    Reaches w₀ u₀ (slotsStep w₀ f (.remove UPC)) true
      (Proc.step ⟨u, .cartshell u.shopping_cart.invalidQty⟩ (CartCommand.remove UPC).line) w := by
  have hstep : Proc.step ⟨u, .cartshell u.shopping_cart.invalidQty⟩ (CartCommand.remove UPC).line =
      OnlineShoppingCenter.remove u u.shopping_cart.invalidQty [to_string UPC.toNat] := by
    change cartCommand u _ (split (CartCommand.remove UPC).line ' ') = _
    rw [CartCommand.split_line, CartCommand.words, cartCommand, if_neg (by decide),
      if_neg (by decide), if_pos rfl]
  rw [hstep, OnlineShoppingCenter.remove, stoul_to_string_ulong]
  unfold slotsStep perform
  simp only [CartCommand.UPC, CartCommand.act, h.checkCart UPC]
  by_cases hcount : 0 < (f UPC).count
  · simp only [h.isEmpty hcount, hcount, decide_true, Bool.not_true, if_true, if_false,
      Bool.false_eq_true]
    apply wp_bind.mpr
    apply wp_bind.mpr
    apply wp_bind.mpr
    apply wp_sys.mpr
    apply wp_storeUser.mpr
    exact reaches_cartview (h.remove UPC)
  · simp only [hcount, decide_false, Bool.not_false, if_true, if_false, Function.update_eq_self]
    cases u.shopping_cart.isEmpty with
    | true => exact reaches_cartview h
    | false => exact reaches_cartview h

theorem reaches_changeqty (h : Tracks w₀ u₀ f w u) :
    Reaches w₀ u₀ (slotsStep w₀ f (.changeqty UPC qty)) true
      (Proc.step ⟨u, .cartshell u.shopping_cart.invalidQty⟩ (CartCommand.changeqty UPC qty).line) w := by
  have hstep : Proc.step ⟨u, .cartshell u.shopping_cart.invalidQty⟩
      (CartCommand.changeqty UPC qty).line =
        changeqty u u.shopping_cart.invalidQty [to_string UPC.toNat, to_string qty.toNat] := by
    change cartCommand u _ (split (CartCommand.changeqty UPC qty).line ' ') = _
    rw [CartCommand.split_line, CartCommand.words, cartCommand, if_neg (by decide),
      if_neg (by decide), if_neg (by decide), if_pos rfl]
  have hsame : stockRead w₀ UPC = stockRead w UPC := by rw [h.stock]
  rw [hstep, changeqty, stoul_to_string_ulong]
  unfold slotsStep perform
  simp only [CartCommand.UPC, CartCommand.act, h.checkCart UPC, stoui_to_string_uint, hsame]
  by_cases hcount : 0 < (f UPC).count
  · simp only [h.isEmpty hcount, hcount, decide_true, Bool.not_true, if_true, if_false,
      Bool.false_eq_true]
    apply wp_bind.mpr
    apply wp_bind.mpr
    apply wp_bind.mpr
    apply wp_sys.mpr
    apply wp_getProduct
    · intro p hp
      have hUPC : p.UPC = UPC := hp.sound.1
      have hp' := (readable_restock hp.readable p.UPC).mpr hp.readable
      subst hUPC
      rw [hp.stockRead]
      apply wp_mono (wp_bind.mp (wp_onCart_set hp' (h.restock hp))) _ fun _ _ => id
      intro cart w' hw'
      exact reaches_cartview hw'
    · exact fun _ _ hnone => absurd (h.cart UPC (h.mem_cart hcount)) hnone
  · simp only [hcount, decide_false, Bool.not_false, if_true, if_false]
    have hsame : Function.update f UPC
        (match stockRead w UPC with | none => f UPC | some _ => f UPC) = f := by
      cases stockRead w UPC <;> exact Function.update_eq_self UPC f
    rw [hsame]
    cases u.shopping_cart.isEmpty with
    | true => exact reaches_cartview h
    | false => exact reaches_cartview h

theorem reaches_cmd (cmd : CartCommand) (h : Tracks w₀ u₀ f w u) :
    Reaches w₀ u₀ (slotsStep w₀ f cmd) cmd.atCart (Proc.step ⟨u, promptAt cmd.atCart u⟩ cmd.line) w := by
  cases cmd with
  | addtocart UPC qty => exact reaches_addtocart h
  | changeqty UPC qty => exact reaches_changeqty h
  | remove UPC => exact reaches_remove h

/-- Going to the prompt of the next command. -/
theorem wp_goTo (here there : Bool) (h : Tracks w₀ u₀ f w u) :
    wp sys.exact (Proc.play ⟨u, promptAt here u⟩ (goTo here there)) w
      (fun r w' => r.2.loc = promptAt there r.2.logged_in ∧ Tracks w₀ u₀ f w' r.2.logged_in)
      fun _ _ => False := by
  cases here with
  | false =>
    cases there with
    | false => exact ⟨rfl, h⟩
    | true =>
      apply wp_bind.mpr
      have hstep : Proc.step ⟨u, promptAt false u⟩ "cart".toList = cartview u := rfl
      rw [hstep]
      apply wp_mono (reaches_cartview h) _ fun _ _ => id
      exact fun _ _ hp => hp
  | true =>
    cases there with
    | true => exact ⟨rfl, h⟩
    | false =>
      apply wp_bind.mpr
      have hstep : Proc.step ⟨u, promptAt true u⟩ "back".toList = mainbby u := rfl
      rw [hstep]
      apply wp_mono (reaches_mainbby h) _ fun _ _ => id
      exact fun _ _ hp => hp

/-- A script does what its commands do to the abstract cart. -/
theorem wp_script (cmds : List CartCommand) (here : Bool) (h : Tracks w₀ u₀ f w u) :
    wp sys.exact (Proc.play ⟨u, promptAt here u⟩ (script here cmds)) w
      (fun r w' => Tracks w₀ u₀ (slotsAfter w₀ f cmds) w' r.2.logged_in) fun _ _ => False := by
  induction cmds generalizing here f w u with
  | nil => exact h
  | cons cmd cmds ih =>
    rw [script, play_append]
    apply wp_bind.mpr
    apply wp_mono (wp_goTo here cmd.atCart h) _ fun _ _ => id
    rintro ⟨trail, ⟨u', loc⟩⟩ w' ⟨hloc, h'⟩
    dsimp only at hloc h'
    subst hloc
    apply wp_bind.mpr
    rw [Proc.play]
    apply wp_bind.mpr
    apply wp_mono (reaches_cmd cmd h') _ fun _ _ => id
    rintro ⟨u'', loc⟩ w'' ⟨hloc, h''⟩
    dsimp only at hloc h''
    subst hloc
    apply wp_bind.mpr
    apply wp_mono (ih cmd.atCart h'') _ fun _ _ => id
    exact fun _ _ hend => hend

end Commands

/-- The abstract cart before the commands. -/
def slotsOf (u : User) (UPC : SKU) : Slot := ⟨u.shopping_cart.slots UPC, false⟩

theorem tracks_start {w₀ : World} {u₀ : User} (hlisted : Listed w₀) (hcart : CartListed w₀ u₀) :
    Tracks w₀ u₀ (slotsOf u₀) w₀ u₀ where
  name := rfl
  slots _ := rfl
  stock := rfl
  listed := hlisted
  cart := hcart
  stored h := by
    obtain ⟨_, hstored⟩ := h
    cases hstored
  unstored _ := rfl

/-- What the abstract cart determines. -/
theorem Tracks.sameCart {w₀ w w' : World} {u₀ u u' : User} {f : SKU → Slot}
    (h : Tracks w₀ u₀ f w u) (h' : Tracks w₀ u₀ f w' u') : SameCart u w u' w' := by
  have hslots : u.shopping_cart.slots = u'.shopping_cart.slots := by
    funext UPC
    rw [h.slots, h'.slots]
  have hquantity := quantity_of_slots hslots
  refine ⟨hquantity, ?_, invalidQty_of_slots hslots⟩
  rw [h.name, h'.name]
  by_cases hstored : ∃ UPC, (f UPC).stored = true
  · rw [h.stored hstored, h'.stored hstored, cartText_of_quantity hquantity]
  · have hnone : ∀ UPC, (f UPC).stored = false := by simpa using hstored
    rw [h.unstored hnone, h'.unstored hnone]

/-- From each prompt that a session of a single client reaches and that takes
cart commands, two orders of the same commands that agree on each product end
with the same cart. -/
theorem commands_commute {w w₀ : World} {username : Text} {front : List Text} {r : Trail × Proc}
    {here : Bool} {cmds cmds' : List CartCommand}
    (hfront : run sys (session username front) w = (.ok r, w₀))
    (hprompt : r.2.loc.cartPrompt = some here) (h : Reordered cmds cmds') :
    ∃ a w₁ a' w₂, run sys (r.2.play (script here cmds)) w₀ = (.ok a, w₁) ∧
      run sys (r.2.play (script here cmds')) w₀ = (.ok a', w₂) ∧
      SameCart a.2.logged_in w₁ a'.2.logged_in w₂ := by
  obtain ⟨trail, ⟨u₀, loc⟩⟩ := r
  have hloc : loc ≠ .exited := by
    rintro rfl
    cases hprompt
  obtain ⟨hsound, hlisted, hcart⟩ := session_listed hfront hloc
  have hat : loc = promptAt here u₀ := by
    cases loc with
    | mainshell =>
      cases hprompt
      rfl
    | cartshell invalid_qty =>
      cases hprompt
      rw [promptAt, if_pos rfl, ← hsound.loc]
    | _ => cases hprompt
  subst hat
  have hstart := tracks_start hlisted hcart
  have hone := wp_script cmds here hstart
  have htwo := wp_script cmds' here hstart
  have hsame : slotsAfter w₀ (slotsOf u₀) cmds = slotsAfter w₀ (slotsOf u₀) cmds' :=
    performAll_congr _ _ h _
  rw [← hsame] at htwo
  obtain ⟨a, w₁, hrun, ha⟩ := exists_run_ok hone
  obtain ⟨a', w₂, hrun', ha'⟩ := exists_run_ok htwo
  exact ⟨a, w₁, a', w₂, hrun, hrun', ha.sameCart ha'⟩

end OnlineShoppingCenter

namespace OnlineShoppingCenter

open TextCodec EffectProgram KeyedOperations

attribute [local instance] posix

theorem swapped_reordered : Reordered
    [.addtocart 653569401025 3, .addtocart 653562346025 0, .changeqty 653569401025 1]
    [.addtocart 653562346025 0, .addtocart 653569401025 3, .changeqty 653569401025 1] := by
  intro UPC
  unfold atKey
  by_cases hfirst : UPC = 653569401025
  · subst hfirst
    decide
  · by_cases hsecond : UPC = 653562346025
    · subst hsecond
      decide
    · simp [CartCommand.UPC, Ne.symm hfirst, Ne.symm hsecond]

theorem swapped_commute :
    ∃ r w₀, run sys (session "testuser003".toList []) sampleWorld = (.ok r, w₀) ∧
      ∃ a w₁ a' w₂,
        run sys (r.2.play (script false [.addtocart 653569401025 3, .addtocart 653562346025 0,
          .changeqty 653569401025 1])) w₀ = (.ok a, w₁) ∧
        run sys (r.2.play (script false [.addtocart 653562346025 0, .addtocart 653569401025 3,
          .changeqty 653569401025 1])) w₀ = (.ok a', w₂) ∧
        SameCart a.2.logged_in w₁ a'.2.logged_in w₂ := by
  have hlogin : ((run sys (session "testuser003".toList []) sampleWorld).1.toOption.any
      fun r => r.2.loc.cartPrompt == some false) = true := by
    decide +kernel
  obtain ⟨r, hr, hprompt⟩ := ok_of_any hlogin
  have hfront : run sys (session "testuser003".toList []) sampleWorld = (.ok r, _) :=
    Prod.ext hr rfl
  exact ⟨r, _, hfront, commands_commute hfront (eq_of_beq hprompt) swapped_reordered⟩

end OnlineShoppingCenter
