import OnlineShoppingCenter.CartReordering
import OnlineShoppingCenter.Counter
import OnlineShoppingCenter.WriteThrough

/-!
# The counter of a session

The databases and the user of a session, as the counter sees them, and what the
commands of the shop and of the cart make of it: the texts and the snapshots
that the calls write and read again do not show.
-/
namespace OnlineShoppingCenter

open TextCodec ColumnFamilies EffectProgram StorageSystem

variable [Platform]

def Transaction.record (t : Transaction) : Placed :=
  ⟨t.shopping_cart.quantity, t.shipping_address, t.payment_info⟩

def counter (w : World) (u : User) : Counter where
  stock := stockRead w
  cart := u.shopping_cart.quantity
  address := u.shipping_address
  payment := u.payment_info
  orders := u.transaction_history.transaction_list.map Transaction.record

/-- The copies in a cart say what can be read on hand. -/
def UpToDate (w : World) (c : ShoppingCart) : Prop :=
  ∀ (UPC : SKU) (p : Product) (qty : UInt32), c.cart[UPC]? = some (p, qty) →
    stockRead w UPC = some p.quantity

section Facts

variable {w w' : World} {u : User} {c : ShoppingCart} {p : Product} {UPC : SKU}

theorem counter_of_stock (h : stockRead w' = stockRead w) (u : User) :
    counter w' u = counter w u := by
  rw [counter, counter, h]

theorem UpToDate.of_stock (h : UpToDate w c) (hstock : stockRead w' = stockRead w) :
    UpToDate w' c := by
  intro UPC p qty hget
  rw [hstock]
  exact h UPC p qty hget

theorem UpToDate.set (h : UpToDate w c) (hp : stockRead w p.UPC = some p.quantity) (qty : UInt32) :
    UpToDate w (c.set p qty) := by
  intro UPC q n hget
  rw [ShoppingCart.getElem?_set] at hget
  split at hget
  · rename_i hUPC
    cases hget
    rw [hUPC]
    exact hp
  · exact h UPC q n hget

theorem UpToDate.remove (h : UpToDate w c) (UPC : SKU) : UpToDate w (c.remove UPC) := by
  intro other q n hget
  rw [ShoppingCart.getElem?_remove] at hget
  split at hget
  · cases hget
  · exact h other q n hget

theorem upToDate_empty (w : World) : UpToDate w {} := by
  intro UPC p qty hget
  simp at hget

theorem quantity_remove (c : ShoppingCart) (UPC : SKU) :
    (c.remove UPC).quantity = Function.update c.quantity UPC none := by
  funext other
  unfold ShoppingCart.quantity
  rw [ShoppingCart.getElem?_remove]
  by_cases h : other = UPC
  · subst h
    simp
  · simp [h]

theorem checkCart_count (w : World) (u : User) (UPC : SKU) :
    u.shopping_cart.checkCart UPC = decide (0 < (counter w u).count UPC) := by
  have hcount : (counter w u).count UPC = ((u.shopping_cart.cart[UPC]?).map Prod.snd).getD 0 := rfl
  rw [hcount, ShoppingCart.checkCart]
  cases u.shopping_cart.cart[UPC]? <;> rfl

theorem stockRead_eq_none (h : ¬ ∃ p, Decoded w UPC p) : stockRead w UPC = none := by
  cases hstock : stockRead w UPC with
  | none => rfl
  | some n =>
    obtain ⟨p, hp, -⟩ := stockRead_eq_some.mp hstock
    exact absurd ⟨p, hp⟩ h

/-- A record that is written is what is read from then on. -/
theorem stockRead_put (hd : kDefault ∈ w.products) (p : Product) :
    stockRead (w.restock p) = Function.update (stockRead w) p.UPC (some p.quantity) := by
  have hd' : kDefault ∈ (w.restock p).products := Database.mem_put.mpr (.inr (.inl rfl))
  funext UPC
  by_cases hUPC : UPC = p.UPC
  · subst hUPC
    obtain ⟨price, hprice⟩ := Platform.stof_to_string p.price
    have hopen : openEntry (w.restock p).products (to_string p.UPC.toNat) =
        some ((productBatch p).overlay (w.products[to_string p.UPC.toNat]?.getD Entry.empty)) := by
      apply openEntry_eq_some.mpr
      rw [getElem?_restock, if_pos rfl]
      exact ⟨hd', rfl⟩
    rw [Function.update_self, stockRead, hopen, overlay_productBatch]
    simp only [Option.bind_some, decodeProduct, StorageSystem.get, Option.getD_some, hprice,
      stoui_to_string_uint]
    rfl
  · have hopen : openEntry (w.restock p).products (to_string UPC.toNat) =
        openEntry w.products (to_string UPC.toNat) := by
      ext e
      simp only [openEntry_eq_some, hd, hd', getElem?_restock, if_neg hUPC]
    rw [Function.update_of_ne hUPC, stockRead, stockRead, hopen]

theorem kDefault_mem_of_stock {n : UInt32} (h : stockRead w UPC = some n) : kDefault ∈ w.products := by
  obtain ⟨p, ⟨e, he, -⟩, -⟩ := stockRead_eq_some.mp h
  exact (openEntry_eq_some.mp he).1

end Facts

/-- A program that ends with a counter, whatever the prompt. -/
abbrev EndsAt (c : Counter) (m : ClientM Proc) (w : World) : Prop :=
  wp sys.exact m w
    (fun p w' => counter w' p.logged_in = c ∧ UpToDate w' p.logged_in.shopping_cart) fun _ _ => True

/-- A method of the user that ends with a counter. -/
abbrev LeavesAt (c : Counter) (m : ClientM User) (w : World) : Prop :=
  wp sys.exact m w (fun u w' => counter w' u = c ∧ UpToDate w' u.shopping_cart) fun _ _ => True

section Commands

variable {w : World} {u : User} {p : Product}

theorem endsAt_waitAt (h : UpToDate w u.shopping_cart) (loc : Loc) :
    EndsAt (counter w u) (waitAt u loc) w := wp_waitAt_sys.mpr ⟨rfl, h⟩

theorem endsAt_of_leaves {c : Counter} {m : ClientM User} {k : User → ClientM Proc}
    (hm : LeavesAt c m w) (hk : ∀ {u w'}, UpToDate w' u.shopping_cart → EndsAt (counter w' u) (k u) w') :
    EndsAt c (m >>= k) w := by
  apply wp_bind.mpr
  apply wp_mono hm _ fun _ _ h => h
  rintro u' w' ⟨rfl, h⟩
  exact hk h

theorem wp_listInventory_stock (prodlist : List SKU) (w : World) :
    wp sys.exact (listInventory prodlist) w (fun _ w' => stockRead w' = stockRead w)
      fun _ _ => True := by
  induction prodlist generalizing w with
  | nil => rfl
  | cons UPC rest ih =>
    apply wp_bind.mpr
    apply wp_sys.mpr
    apply wp_getProduct
    · intro p hp
      apply wp_mono (ih _) _ fun _ _ h => h
      intro _ w' hw'
      exact hw'.trans (stockRead_restock hp)
    · exact fun _ _ _ => trivial

/-- The inventory is listed, and the session waits at the main prompt. -/
theorem wp_mainbby_stock (u : User) (w : World) :
    wp sys.exact (mainbby u) w (fun p w' => p = ⟨u, .mainshell⟩ ∧ stockRead w' = stockRead w)
      fun _ _ => True := by
  apply wp_bind.mpr
  apply wp_sys.mpr
  apply wp_bind.mpr
  apply wp_listProducts.mpr
  refine wp_ofExcept.mpr ⟨?_, fun _ _ => trivial⟩
  intro upcs _
  apply wp_bind.mpr
  apply wp_mono (wp_listInventory_stock upcs w) _ fun _ _ h => h
  intro _ w' hstock
  exact wp_waitAt_sys.mpr ⟨rfl, hstock⟩

theorem endsAt_mainbby (h : UpToDate w u.shopping_cart) : EndsAt (counter w u) (mainbby u) w := by
  apply wp_mono (wp_mainbby_stock u w) _ fun _ _ h => h
  rintro _ w' ⟨rfl, hstock⟩
  exact ⟨counter_of_stock hstock u, h.of_stock hstock⟩

theorem leaves_put (h : UpToDate w u.shopping_cart) (hp : stockRead w p.UPC = some p.quantity)
    (qty : UInt32) : LeavesAt ((counter w u).apply (.put p.UPC qty))
      (onCart u fun store cart => cart.addProductQty store p qty) w := by
  have hend : counter w { u with shopping_cart := u.shopping_cart.set p qty } =
      (counter w u).apply (.put p.UPC qty) := by
    rw [counter, Counter.apply, counter, ShoppingCart.quantity_set]
  rw [← hend]
  apply wp_bind.mpr
  dsimp only
  by_cases hq : qty = 0
  · subst hq
    rw [ShoppingCart.addProductQty_zero]
    apply wp_bind.mpr
    apply wp_sys.mpr
    apply wp_storeUser.mpr
    apply wp_bind.mpr
    apply wp_sys.mpr
    apply wp_storeUser.mpr
    exact ⟨rfl, h.set hp 0⟩
  · rw [ShoppingCart.addProductQty_pos hq]
    apply wp_bind.mpr
    apply wp_sys.mpr
    apply wp_storeUser.mpr
    exact ⟨rfl, h.set hp qty⟩

theorem leaves_add (h : UpToDate w u.shopping_cart) (hp : stockRead w p.UPC = some p.quantity)
    (qty : UInt32) : LeavesAt ((counter w u).apply ((counter w u).addMove p.UPC qty))
      (onCart u fun store cart =>
        if qty = 1 then cart.addProduct store p else cart.addProductQty store p qty) w := by
  have hcheck := checkCart_count w u p.UPC
  have hstock : ¬ ((counter w u).stock p.UPC).isNone := by
    change ¬ (stockRead w p.UPC).isNone
    simp [hp]
  by_cases hq : qty = 1
  · subst hq
    simp only [if_true]
    by_cases hcount : 0 < (counter w u).count p.UPC
    · rw [Counter.addMove, if_pos (.inr ⟨rfl, hcount⟩)]
      apply wp_bind.mpr
      dsimp only
      rw [ShoppingCart.addProduct_old (by rw [hcheck]; exact decide_eq_true hcount)]
      exact ⟨rfl, h⟩
    · rw [Counter.addMove, if_neg (by simp [hstock, hcount])]
      have hnew : (onCart u fun store cart => cart.addProduct store p) =
          onCart u fun store cart => cart.addProductQty store p 1 := by
        unfold onCart
        dsimp only
        rw [ShoppingCart.addProduct_new (by rw [hcheck]; exact decide_eq_false hcount),
          ShoppingCart.addProductQty_pos (by decide)]
      rw [hnew]
      exact leaves_put h hp 1
  · simp only [hq, if_false]
    rw [Counter.addMove, if_neg (by simp [hstock, hq])]
    exact leaves_put h hp qty

theorem leaves_take (h : UpToDate w u.shopping_cart) (UPC : SKU) :
    LeavesAt ((counter w u).apply (.take UPC)) (onCart u fun store cart => cart.deleteUPC store UPC) w := by
  have hend : counter w { u with shopping_cart := u.shopping_cart.remove UPC } =
      (counter w u).apply (.take UPC) := by
    simp only [counter, Counter.apply, quantity_remove]
  rw [← hend]
  apply wp_bind.mpr
  apply wp_bind.mpr
  apply wp_sys.mpr
  apply wp_storeUser.mpr
  exact ⟨rfl, h.remove UPC⟩

theorem leaves_clear : LeavesAt ((counter w u).apply .clear)
    (onCart u fun store cart => cart.emptyCart store) w := by
  have hend : counter w { u with shopping_cart := {} } = (counter w u).apply .clear := by
    simp only [counter, Counter.apply, ShoppingCart.quantity_empty]
  rw [← hend]
  apply wp_bind.mpr
  apply wp_bind.mpr
  apply wp_sys.mpr
  apply wp_storeUser.mpr
  exact ⟨rfl, upToDate_empty w⟩

/-- What is read is on the shelf, and is read as it was. -/
theorem wp_getProduct_stock {UPC : SKU} {Q : Product → World → Prop} {E : Exn → World → Prop}
    (hok : ∀ p w', p.UPC = UPC → stockRead w' = stockRead w → stockRead w UPC = some p.quantity →
      Q p w') (herr : ∀ e, stockRead w UPC = none → E e w) :
    wp db.exact (getProduct UPC) w Q E := by
  apply wp_getProduct
  · intro p hp
    exact hok p _ hp.sound.1 (stockRead_restock hp) hp.stockRead
  · exact fun e _ hnone => herr e (stockRead_eq_none hnone)

theorem endsAt_addtocart (h : UpToDate w u.shopping_cart) (args : List Text) :
    EndsAt ((counter w u).apply ((counter w u).addtocart args)) (addtocart u args) w := by
  cases args with
  | nil => exact endsAt_waitAt h .mainshell
  | cons upc_s rest =>
    rw [addtocart]
    apply wp_bind.mpr
    apply wp_attempt.mpr
    cases hparse : stoul upc_s with
    | error e =>
      rw [Counter.addtocart, hparse]
      cases e with
      | system_error | invalid_argument => exact endsAt_mainbby h
      | out_of_range | runtime_error | undefined => trivial
    | ok UPC =>
      rw [Prog.ofExcept_ok, Prog.ret_bind]
      apply wp_sys.mpr
      apply wp_getProduct_stock
      · intro p w' hUPC hsame hp
        subst hUPC
        have h' := h.of_stock hsame
        have hadd : ∀ qty, LeavesAt ((counter w u).apply ((counter w u).addMove p.UPC qty))
            (onCart u fun store cart =>
              if qty = 1 then cart.addProduct store p else cart.addProductQty store p qty) w' := by
          intro qty
          have hp' : stockRead w' p.UPC = some p.quantity := by rw [hsame, hp]
          have hleaves := leaves_add h' hp' qty
          rwa [counter_of_stock hsame] at hleaves
        rw [Counter.addtocart, hparse]
        dsimp only
        cases rest with
        | nil => exact endsAt_of_leaves (hadd 1) fun h => endsAt_waitAt h _
        | cons qty_s rest =>
          dsimp only
          cases stoui qty_s with
          | error e =>
            cases e with
            | invalid_argument =>
              have hstay := endsAt_waitAt h' .mainshell
              rwa [counter_of_stock hsame] at hstay
            | system_error | out_of_range | runtime_error | undefined => trivial
          | ok qty => exact endsAt_of_leaves (hadd qty) fun h => endsAt_waitAt h _
      · intro e hnone
        rw [Counter.addtocart_unknown hparse hnone rest]
        cases e with
        | system_error | invalid_argument => exact endsAt_mainbby h
        | out_of_range | runtime_error | undefined => trivial

theorem count_of_isEmpty (hempty : u.shopping_cart.isEmpty = true) (w : World) (UPC : SKU) :
    ¬ 0 < (counter w u).count UPC := by
  intro hcount
  have hcheck := checkCart_count w u UPC
  rw [decide_eq_true hcount] at hcheck
  have hmem := ShoppingCart.mem_of_checkCart hcheck
  rw [ShoppingCart.isEmpty_eq_false_iff.mpr ⟨UPC, hmem⟩] at hempty
  cases hempty

theorem endsAt_cartshell {invalid_qty : Bool} (h : UpToDate w u.shopping_cart) :
    EndsAt (counter w u) (cartshell u invalid_qty) w := endsAt_waitAt h _

theorem endsAt_cartview (h : UpToDate w u.shopping_cart) : EndsAt (counter w u) (cartview u) w :=
  endsAt_cartshell h

theorem endsAt_remove {invalid_qty : Bool} (h : UpToDate w u.shopping_cart) (args : List Text) :
    EndsAt ((counter w u).apply ((counter w u).remove args)) (remove u invalid_qty args) w := by
  cases args with
  | nil => exact endsAt_cartshell h
  | cons upc_s rest =>
    have hcheck := checkCart_count w u
    rw [remove, Counter.remove]
    cases hempty : u.shopping_cart.isEmpty with
    | true =>
      have hnone := count_of_isEmpty hempty w
      rw [if_pos rfl]
      cases stoul upc_s with
      | error e => exact endsAt_cartshell h
      | ok UPC =>
        simp only [hnone, if_false]
        exact endsAt_cartshell h
    | false =>
      rw [if_neg (by simp)]
      cases stoul upc_s with
      | error e =>
        cases e with
        | invalid_argument => exact endsAt_cartview h
        | system_error | out_of_range | runtime_error | undefined => trivial
      | ok UPC =>
        dsimp only
        rw [hcheck]
        by_cases hcount : 0 < (counter w u).count UPC
        · rw [if_pos hcount, decide_eq_true hcount, if_neg (by simp)]
          exact endsAt_of_leaves (leaves_take h UPC) endsAt_cartview
        · rw [if_neg hcount, decide_eq_false hcount, if_pos (by simp)]
          exact endsAt_cartview h

theorem leaves_change (h : UpToDate w u.shopping_cart) (UPC : SKU) (qty : UInt32) :
    LeavesAt ((counter w u).apply (.put UPC qty)) (onCart u fun store cart =>
      cart.changeUPCQuantity store (fun UPC => local_storage.getProduct UPC) UPC qty) w := by
  have hread : (onCart u fun store cart =>
      cart.changeUPCQuantity store (fun UPC => local_storage.getProduct UPC) UPC qty) =
        local_storage.getProduct UPC >>= fun p =>
          onCart u fun store cart => cart.addProductQty store p qty := by
    simp only [onCart, ShoppingCart.changeUPCQuantity, bind_assoc]
  rw [hread]
  apply wp_bind.mpr
  apply wp_sys.mpr
  apply wp_getProduct_stock
  · intro p w' hUPC hsame hp
    subst hUPC
    have hput := leaves_put (h.of_stock hsame) (by rw [hsame, hp]) qty
    rwa [counter_of_stock hsame] at hput
  · exact fun _ _ => trivial

theorem endsAt_changeqty {invalid_qty : Bool} (h : UpToDate w u.shopping_cart) (args : List Text) :
    EndsAt ((counter w u).apply ((counter w u).changeqty args)) (changeqty u invalid_qty args) w := by
  match args with
  | [] => exact endsAt_cartshell h
  | [upc_s] => exact endsAt_cartshell h
  | upc_s :: qty_s :: rest =>
    have hcheck := checkCart_count w u
    rw [changeqty, Counter.changeqty]
    cases hempty : u.shopping_cart.isEmpty with
    | true =>
      have hnone := count_of_isEmpty hempty w
      rw [if_pos rfl]
      cases stoul upc_s with
      | error e => exact endsAt_cartshell h
      | ok UPC =>
        cases stoui qty_s with
        | error e => exact endsAt_cartshell h
        | ok qty =>
          simp only [hnone, if_false]
          exact endsAt_cartshell h
    | false =>
      rw [if_neg (by simp)]
      cases stoul upc_s with
      | error e =>
        cases e with
        | invalid_argument => exact endsAt_cartview h
        | system_error | out_of_range | runtime_error | undefined => trivial
      | ok UPC =>
        cases stoui qty_s with
        | error e =>
          cases e with
          | invalid_argument => exact endsAt_cartshell h
          | system_error | out_of_range | runtime_error | undefined => trivial
        | ok qty =>
          dsimp only
          rw [hcheck]
          by_cases hcount : 0 < (counter w u).count UPC
          · rw [if_pos hcount, decide_eq_true hcount, if_neg (by simp)]
            exact endsAt_of_leaves (leaves_change h UPC qty) endsAt_cartview
          · rw [if_neg hcount, decide_eq_false hcount, if_pos (by simp)]
            exact endsAt_cartview h

theorem quantity_of_isEmpty (hempty : u.shopping_cart.isEmpty = true) :
    u.shopping_cart.quantity = fun _ => none := by
  funext UPC
  cases hget : u.shopping_cart.cart[UPC]? with
  | none => rw [ShoppingCart.quantity, hget]; rfl
  | some item =>
    have hmem : UPC ∈ u.shopping_cart.cart :=
      Std.ExtTreeMap.mem_iff_isSome_getElem?.mpr (by rw [hget]; rfl)
    rw [ShoppingCart.isEmpty_eq_false_iff.mpr ⟨UPC, hmem⟩] at hempty
    cases hempty

theorem endsAt_clear {invalid_qty : Bool} (h : UpToDate w u.shopping_cart) :
    EndsAt ((counter w u).apply .clear) (clear u invalid_qty) w := by
  rw [clear]
  cases hempty : u.shopping_cart.isEmpty with
  | true =>
    have hend : (counter w u).apply .clear = counter w u := by
      rw [Counter.apply, counter, quantity_of_isEmpty hempty]
    rw [if_pos rfl, hend]
    exact endsAt_cartshell h
  | false =>
    rw [if_neg (by simp)]
    exact endsAt_of_leaves leaves_clear endsAt_mainbby

end Commands

end OnlineShoppingCenter
