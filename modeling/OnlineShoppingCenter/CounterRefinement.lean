import OnlineShoppingCenter.CounterCommands
import OnlineShoppingCenter.DialogueCopies

/-!
# A session is a shop with one customer

A single client makes, with each line, the move that the line means at its
prompt. The checkout takes the whole cart off the shelves; of the dialogues only
a yes at the end changes the user.
-/
namespace OnlineShoppingCenter

open TextCodec ColumnFamilies EffectProgram StorageSystem

variable [Platform]

section Checkout

variable {w : World} {u : User} {order : Transaction}

theorem endsAt_orderNewPay (h : UpToDate w u.shopping_cart) (order : Transaction) :
    EndsAt (counter w u) (orderNewPay u order) w := by
  unfold orderNewPay placeOrder
  split <;> exact endsAt_waitAt h _

theorem endsAt_ordercc (h : UpToDate w u.shopping_cart) (order : Transaction) :
    EndsAt (counter w u) (ordercc u order) w := by
  unfold ordercc
  split
  · exact endsAt_waitAt h _
  · exact endsAt_orderNewPay h order

theorem endsAt_orderNewAddr (h : UpToDate w u.shopping_cart) (order : Transaction) :
    EndsAt (counter w u) (orderNewAddr u order (ordercc u order)) w := by
  unfold orderNewAddr
  split
  · exact endsAt_ordercc h order
  · exact endsAt_waitAt h _

theorem endsAt_orderaddr (h : UpToDate w u.shopping_cart) (order : Transaction) :
    EndsAt (counter w u) (orderaddr u order) w := by
  unfold orderaddr
  split
  · exact endsAt_waitAt h _
  · exact endsAt_orderNewAddr h order

theorem endsAt_checkout {invalid_qty : Bool} (h : UpToDate w u.shopping_cart) :
    EndsAt (counter w u) (checkout u invalid_qty) w := by
  unfold checkout
  split
  · exact endsAt_cartshell h
  · split
    · exact endsAt_cartview h
    · rw [ShoppingCart.buyCart]
      split
      · exact trivial
      · apply wp_bind.mpr
        apply wp_bind.mpr
        apply wp_sys.mpr
        apply wp_exact_perform.mpr
        exact endsAt_orderaddr (w := { w with drawn := w.drawn + 1 }) h _

theorem leaves_address (h : UpToDate w u.shopping_cart) (addr : ShippingAddress) :
    LeavesAt ((counter w u).apply (.setAddress addr))
      (u.changeShippingAddress local_storage.storeUser addr) w := by
  apply wp_bind.mpr
  apply wp_sys.mpr
  apply wp_storeUser.mpr
  exact ⟨rfl, h⟩

theorem leaves_payment (h : UpToDate w u.shopping_cart) (cc : PaymentInfo) :
    LeavesAt ((counter w u).apply (.setPayment cc))
      (u.changeCreditCard local_storage.storeUser cc) w := by
  apply wp_bind.mpr
  apply wp_sys.mpr
  apply wp_storeUser.mpr
  exact ⟨rfl, h⟩

/-- Each item leaves on its shelf what its copy said less its quantity. -/
theorem wp_chargeItems_stock (items : List (SKU × Product × UInt32)) (hd : kDefault ∈ w.products)
    (hnodup : (items.map Prod.fst).Nodup)
    (hsound : ∀ e ∈ items, e.2.1.UPC = e.1 ∧ e.2.1.is_set = true) :
    wp sys.exact (Transaction.chargeItems items) w
      (fun _ w' => ∀ UPC,
        (∀ p qty, (UPC, p, qty) ∈ items → stockRead w' UPC = some (p.quantity - qty)) ∧
          (UPC ∉ items.map Prod.fst → stockRead w' UPC = stockRead w UPC)) fun _ _ => True := by
  induction items generalizing w with
  | nil => exact fun UPC => ⟨by simp, fun _ => rfl⟩
  | cons item rest ih =>
    obtain ⟨key, p, qty⟩ := item
    obtain ⟨hkey, hset⟩ := hsound (key, p, qty) List.mem_cons_self
    change p.UPC = key at hkey
    subst hkey
    obtain ⟨hfresh, hnodup⟩ := List.nodup_cons.mp hnodup
    rw [Transaction.chargeItems]
    split
    · trivial
    · apply wp_bind.mpr
      apply wp_sys.mpr
      apply (wp_setQuantity hset).mpr
      apply wp_bind.mpr
      apply wp_sys.mpr
      apply (wp_storeProduct (Product.withQuantity_is_set hset _)).mpr
      have hd₁ : ∀ q, kDefault ∈ (w.restock q).products :=
        fun q => Database.mem_put.mpr (.inr (.inl rfl))
      have hstock : stockRead ((w.restock (p.withQuantity (p.quantity - qty))).restock
          (p.withQuantity (p.quantity - qty))) =
            Function.update (stockRead w) p.UPC (some (p.quantity - qty)) := by
        rw [stockRead_put (hd₁ _), stockRead_put hd]
        exact Function.update_idem _ _ _
      apply wp_mono (ih (Database.mem_put.mpr (.inr (.inl rfl))) hnodup
        fun e he => hsound e (List.mem_cons_of_mem _ he)) _ fun _ _ h => h
      rintro _ w' hw' UPC
      obtain ⟨hitem, hother⟩ := hw' UPC
      rw [hstock] at hother
      constructor
      · intro q n hmem
        rcases List.mem_cons.mp hmem with heq | hmem
        · cases heq
          rw [hother hfresh, Function.update_self]
        · exact hitem q n hmem
      · intro hnot
        obtain ⟨hne, hrest⟩ := not_or.mp (mt List.mem_cons.mpr hnot)
        rw [hother hrest, Function.update_of_ne hne]

/-- The whole cart is taken off the shelves. -/
theorem wp_chargeItems_sold (h : UpToDate w u.shopping_cart) (hu : u.shopping_cart.Sound)
    (hnonempty : u.shopping_cart.isEmpty = false) :
    wp sys.exact (Transaction.chargeItems u.shopping_cart.cart.toList) w
      (fun _ w' => stockRead w' = (counter w u).sold) fun _ _ => True := by
  have hd : kDefault ∈ w.products := by
    obtain ⟨UPC, hmem⟩ := ShoppingCart.isEmpty_eq_false_iff.mp hnonempty
    rw [Std.ExtTreeMap.mem_iff_isSome_getElem?, Option.isSome_iff_exists] at hmem
    obtain ⟨⟨p, qty⟩, hget⟩ := hmem
    exact kDefault_mem_of_stock (h UPC p qty hget)
  have hsound : ∀ e ∈ u.shopping_cart.cart.toList, e.2.1.UPC = e.1 ∧ e.2.1.is_set = true := by
    rintro ⟨UPC, p, qty⟩ hmem
    exact hu UPC p qty (ShoppingCart.mem_cart.mp hmem)
  apply wp_mono (wp_chargeItems_stock _ hd (nodup_cart_keys u.shopping_cart) hsound) _ fun _ _ h => h
  rintro _ w' hw'
  funext UPC
  obtain ⟨hitem, hother⟩ := hw' UPC
  have hcart : (counter w u).cart UPC = (u.shopping_cart.cart[UPC]?).map Prod.snd := rfl
  have hstock : (counter w u).stock UPC = stockRead w UPC := rfl
  rw [Counter.sold, hcart, hstock]
  cases hget : u.shopping_cart.cart[UPC]? with
  | none =>
    apply hother
    rw [Std.ExtTreeMap.map_fst_toList_eq_keys, Std.ExtTreeMap.mem_keys,
      Std.ExtTreeMap.mem_iff_isSome_getElem?, hget]
    simp
  | some item =>
    obtain ⟨p, qty⟩ := item
    rw [hitem p qty (ShoppingCart.mem_cart.mpr hget), h UPC p qty hget]
    rfl

theorem counter_sold {w' : World} {t : Transaction} (hstock : stockRead w' = (counter w u).sold)
    (ht : t.shopping_cart = u.shopping_cart) :
    counter w' { u with
        shopping_cart := {}
        transaction_history := u.transaction_history.addTransaction t } =
      (counter w u).apply (.buy t.shipping_address t.payment_info) := by
  simp only [counter, Counter.apply, hstock, ShoppingCart.quantity_empty,
    TransactionHistory.addTransaction, List.map_append, List.map_cons, List.map_nil,
    Transaction.record, ht]

theorem leaves_chargeCreditCard (h : UpToDate w u.shopping_cart) (hu : u.Sound)
    (hdraft : Draft u order) :
    LeavesAt ((counter w u).apply (.buy order.shipping_address order.payment_info))
      (order.chargeCreditCard u) w := by
  have hcart : (order.finalize (w.clock w.ticks)).shopping_cart = u.shopping_cart := hdraft.cart
  have hcharge := wp_chargeItems_sold (w := { w with ticks := w.ticks + 1 }) h hu.cart hdraft.nonempty
  rw [← hcart] at hcharge
  apply wp_bind.mpr
  apply wp_sys.mpr
  apply wp_exact_perform.mpr
  apply wp_bind.mpr
  apply wp_mono hcharge _ fun _ _ h => h
  intro _ w' hsold
  apply wp_bind.mpr
  apply wp_sys.mpr
  apply (wp_storeTransaction rfl).mpr
  apply wp_bind.mpr
  apply wp_sys.mpr
  apply wp_storeUser.mpr
  exact ⟨counter_sold (t := order.finalize (w.clock w.ticks)) hsold hcart, upToDate_empty _⟩

theorem endsAt_confirmOrder {cmd : Text} (h : UpToDate w u.shopping_cart) (hu : u.Sound)
    (hdraft : Draft u order) :
    EndsAt ((counter w u).apply ((counter w u).move (.placeOrder order) cmd))
      (confirmOrder u order cmd) w := by
  rw [confirmOrder, Counter.move]
  cases saysNo cmd with
  | true => exact endsAt_cartview h
  | false => exact endsAt_of_leaves (leaves_chargeCreditCard h hu hdraft) endsAt_mainbby

/-- Only a yes at "Is this correct" changes the user. -/
theorem endsAt_answer {σ α : Type} {c : Counter} {answer : Except Exn (Answer σ α)}
    {k : Answer σ α → ClientM Proc} (hopen : ∀ a, answer = .ok a → a.Open)
    (hnext : ∀ prompt, EndsAt c (k (.next prompt)) w) (hreject : EndsAt c (k .reject) w) :
    EndsAt c (Prog.ofExcept answer >>= k) w := by
  apply wp_bind.mpr
  refine wp_ofExcept.mpr ⟨?_, fun _ _ => trivial⟩
  intro a ha
  have hopen := hopen a ha
  cases a with
  | next prompt => exact hnext prompt
  | reject => exact hreject
  | decline | accept value => exact hopen.elim

theorem addrStep_correct (addr : ShippingAddress) (cmd : Text) :
    orderAddrStep (.correct addr) cmd = .ok (if saysNo cmd then .decline else .accept addr) := rfl

theorem payStep_correct (cc : PaymentInfo) (cmd : Text) :
    orderPayStep (.correct cc) cmd = .ok (if saysNo cmd then .decline else .accept cc) := rfl

theorem endsAt_orderAddr {cmd : Text} (h : UpToDate w u.shopping_cart) (order : Transaction)
    (prompt : AddrPrompt) :
    EndsAt ((counter w u).apply ((counter w u).move (.orderAddr order prompt) cmd))
      (orderAddr u order prompt cmd) w := by
  have hopen : (∀ a, prompt ≠ .correct a) → EndsAt (counter w u) (orderAddr u order prompt cmd) w := by
    intro hp
    exact endsAt_answer (fun a => orderAddrStep_open hp) (fun _ => endsAt_waitAt h _)
      (endsAt_orderaddr h order)
  cases prompt with
  | correct addr =>
    rw [orderAddr, addrStep_correct, Counter.move, Prog.ofExcept_ok, Prog.ret_bind]
    cases saysNo cmd with
    | true => exact endsAt_orderaddr h order
    | false =>
      apply wp_bind.mpr
      apply wp_sys.mpr
      exact endsAt_of_leaves (leaves_address h addr) fun h => endsAt_ordercc h _
  | name1 | name2 | street1 | street2 | city | state | zip | country => exact hopen (by simp)

theorem endsAt_orderPay {cmd : Text} (h : UpToDate w u.shopping_cart) (order : Transaction)
    (prompt : PayPrompt) :
    EndsAt ((counter w u).apply ((counter w u).move (.orderPay order prompt) cmd))
      (orderPay u order prompt cmd) w := by
  have hopen : (∀ cc, prompt ≠ .correct cc) → EndsAt (counter w u) (orderPay u order prompt cmd) w := by
    intro hp
    exact endsAt_answer (fun a => orderPayStep_open hp) (fun _ => endsAt_waitAt h _)
      (endsAt_ordercc h order)
  cases prompt with
  | correct cc =>
    rw [orderPay, payStep_correct, Counter.move, Prog.ofExcept_ok, Prog.ret_bind]
    cases saysNo cmd with
    | true => exact endsAt_orderaddr h order
    | false =>
      apply wp_bind.mpr
      apply wp_sys.mpr
      exact endsAt_of_leaves (leaves_payment h cc) fun h => endsAt_waitAt h _
  | num | exp | cv2 => exact hopen (by simp)

theorem endsAt_accountAddr {cmd : Text} (h : UpToDate w u.shopping_cart) (prompt : AddrPrompt) :
    EndsAt ((counter w u).apply ((counter w u).move (.accountAddr prompt) cmd))
      (accountAddr u prompt cmd) w := by
  rw [accountAddr, accountAddrStep_eq]
  have hstay := endsAt_waitAt h .accshell
  cases prompt with
  | correct addr =>
    rw [addrStep_correct, Counter.move, Prog.ofExcept_ok, Prog.ret_bind]
    cases saysNo cmd with
    | true => exact hstay
    | false => exact endsAt_of_leaves (leaves_address h addr) fun h => endsAt_waitAt h _
  | name1 | name2 | street1 | street2 | city | state | zip | country =>
    exact endsAt_answer (fun a => orderAddrStep_open (by simp)) (fun _ => endsAt_waitAt h _) hstay

theorem endsAt_accountPay {cmd : Text} (h : UpToDate w u.shopping_cart) (prompt : PayPrompt) :
    EndsAt ((counter w u).apply ((counter w u).move (.accountPay prompt) cmd))
      (accountPay u prompt cmd) w := by
  rw [accountPay, accountPayStep_eq]
  have hstay := endsAt_waitAt h .accshell
  cases prompt with
  | correct cc =>
    rw [payStep_correct, Counter.move, Prog.ofExcept_ok, Prog.ret_bind]
    cases saysNo cmd with
    | true => exact hstay
    | false => exact endsAt_of_leaves (leaves_payment h cc) fun h => endsAt_waitAt h _
  | num | exp | cv2 =>
    exact endsAt_answer (fun a => orderPayStep_open (by simp)) (fun _ => endsAt_waitAt h _) hstay

end Checkout

section Prompts

variable {w : World} {u : User}

theorem endsAt_orders (h : UpToDate w u.shopping_cart) (args : List Text) :
    EndsAt (counter w u) (orders u args) w := by
  unfold orders
  split
  · exact endsAt_waitAt h _
  · split
    · exact endsAt_waitAt h _
    · split
      · exact endsAt_waitAt h _
      · split
        · exact endsAt_waitAt h _
        · trivial
        · split
          · exact endsAt_waitAt h _
          · apply wp_bind.mpr
            apply wp_sys.mpr
            exact endsAt_waitAt h .tshell

theorem endsAt_mainCommand (h : UpToDate w u.shopping_cart) (args : List Text) :
    EndsAt ((counter w u).apply ((counter w u).mainMove args)) (mainCommand u args) w := by
  have hstay := endsAt_waitAt h
  cases args with
  | nil => exact hstay .mainshell
  | cons cmd args =>
    rw [mainCommand, Counter.mainMove]
    by_cases hadd : cmd = "addtocart".toList
    · subst hadd
      rw [if_pos rfl, if_neg (by decide), if_pos rfl]
      exact endsAt_addtocart h args
    · rw [if_neg hadd, if_neg hadd]
      split
      · exact hstay .exited
      · split
        · exact endsAt_cartview h
        · split <;> exact hstay _

theorem endsAt_cartCommand {invalid_qty : Bool} (h : UpToDate w u.shopping_cart)
    (args : List Text) :
    EndsAt ((counter w u).apply ((counter w u).cartMove args)) (cartCommand u invalid_qty args) w := by
  cases args with
  | nil => exact endsAt_cartshell h
  | cons cmd args =>
    rw [cartCommand, Counter.cartMove]
    by_cases hexit : cmd = "exit".toList
    · subst hexit
      exact endsAt_waitAt h .exited
    by_cases hback : cmd = "back".toList
    · subst hback
      exact endsAt_mainbby h
    rw [if_neg hexit, if_neg hback]
    by_cases hremove : cmd = "remove".toList
    · rw [if_pos hremove, if_pos hremove]
      exact endsAt_remove h args
    by_cases hchange : cmd = "changeqty".toList
    · rw [if_neg hremove, if_neg hremove, if_pos hchange, if_pos hchange]
      exact endsAt_changeqty h args
    rw [if_neg hremove, if_neg hremove, if_neg hchange, if_neg hchange]
    by_cases hclear : cmd = "clear".toList
    · rw [if_pos hclear, if_pos hclear]
      exact endsAt_clear h
    · rw [if_neg hclear, if_neg hclear]
      split
      · exact endsAt_checkout h
      · exact endsAt_cartshell h

theorem endsAt_accountCommand (h : UpToDate w u.shopping_cart) (args : List Text) :
    EndsAt (counter w u) (accountCommand u args) w := by
  have hstay := endsAt_waitAt h
  unfold accountCommand
  split
  · exact hstay .accshell
  · split
    · exact hstay .exited
    · split
      · exact endsAt_mainbby h
      · split
        · exact hstay _
        · split
          · exact hstay _
          · split
            · split <;> exact hstay _
            · exact hstay .accshell

/-- A line makes the move that it means at its prompt. -/
theorem endsAt_step {p : Proc} (hp : p.Sound) (h : UpToDate w p.logged_in.shopping_cart)
    (line : Text) :
    EndsAt ((counter w p.logged_in).apply ((counter w p.logged_in).move p.loc line))
      (p.step line) w := by
  obtain ⟨u, loc⟩ := p
  cases loc with
  | mainshell => exact endsAt_mainCommand h _
  | cartshell invalid_qty => exact endsAt_cartCommand h _
  | useAddress order =>
    change EndsAt (counter w u) (useAddress u order line) w
    exact endsAt_orderNewAddr h _
  | orderAddr order prompt => exact endsAt_orderAddr h order prompt
  | usePayment order =>
    change EndsAt (counter w u) (usePayment u order line) w
    exact endsAt_orderNewPay h _
  | orderPay order prompt => exact endsAt_orderPay h order prompt
  | placeOrder order => exact endsAt_confirmOrder h hp.user hp.loc.1
  | accshell => exact endsAt_accountCommand h _
  | accountAddr prompt => exact endsAt_accountAddr h prompt
  | accountPay prompt => exact endsAt_accountPay h prompt
  | tshell => exact endsAt_orders h _
  | exited => exact ⟨rfl, h⟩

end Prompts

section Sessions

variable {w w' : World} {p : Proc}

theorem stocked_of_upToDate {u : User} (h : UpToDate w u.shopping_cart) : (counter w u).Stocked := by
  intro UPC hsome
  have hcart : (counter w u).cart UPC = (u.shopping_cart.cart[UPC]?).map Prod.snd := rfl
  have hstock : (counter w u).stock UPC = stockRead w UPC := rfl
  rw [hcart] at hsome
  cases hget : u.shopping_cart.cart[UPC]? with
  | none =>
    rw [hget] at hsome
    cases hsome
  | some item => rw [hstock, h UPC item.1 item.2 hget, Option.isSome_some]

/-- The order that a yes places is complete and in stock. -/
theorem allows_buy {u : User} {order : Transaction} (hp : Proc.Sound ⟨u, .placeOrder order⟩)
    (h : UpToDate w u.shopping_cart) :
    (counter w u).Allows (.buy order.shipping_address order.payment_info) := by
  obtain ⟨hdraft, haddr, hpay⟩ := hp.loc
  refine ⟨haddr, hpay, ?_⟩
  intro UPC qty hcart
  obtain ⟨⟨p, n⟩, hget, rfl⟩ := Option.map_eq_some_iff.mp hcart
  have hvalid := ShoppingCart.invalidQty_eq_false.mp hdraft.valid _ (ShoppingCart.mem_cart.mpr hget)
  exact ⟨p.quantity, h UPC p n hget, UInt32.not_lt.mp hvalid⟩

theorem allows_move (hp : p.Sound) (h : UpToDate w p.logged_in.shopping_cart) (line : Text) :
    (counter w p.logged_in).Allows ((counter w p.logged_in).move p.loc line) := by
  obtain ⟨u, loc⟩ := p
  cases loc with
  | mainshell => exact Counter.allows_mainMove _ _
  | cartshell invalid_qty => exact Counter.allows_cartMove (stocked_of_upToDate h) _
  | orderAddr order prompt =>
    obtain ⟨-, -, hprompt⟩ := hp.loc
    cases prompt with
    | correct addr => exact Counter.allows_unless_no (m := .setAddress addr) hprompt.1 line
    | name1 | name2 | street1 | street2 | city | state | zip | country => trivial
  | accountAddr prompt =>
    have hprompt := hp.loc
    cases prompt with
    | correct addr => exact Counter.allows_unless_no (m := .setAddress addr) hprompt.1 line
    | name1 | name2 | street1 | street2 | city | state | zip | country => trivial
  | orderPay order prompt =>
    obtain ⟨-, -, -, hprompt⟩ := hp.loc
    cases prompt with
    | correct cc => exact Counter.allows_unless_no (m := .setPayment cc) hprompt line
    | num | exp | cv2 => trivial
  | accountPay prompt =>
    have hprompt := hp.loc
    cases prompt with
    | correct cc => exact Counter.allows_unless_no (m := .setPayment cc) hprompt line
    | num | exp | cv2 => trivial
  | placeOrder order => exact Counter.allows_unless_no (allows_buy hp h) line
  | useAddress | usePayment | accshell | tshell | exited => trivial

theorem play_serves {lines : List Text} {r : Trail × Proc} (hp : p.Sound)
    (h : UpToDate w p.logged_in.shopping_cart) (hrun : run sys (p.play lines) w = (.ok r, w')) :
    Counter.Serves (counter w p.logged_in) (r.1.map fun e => (e.1.loc, e.2))
      (counter w' r.2.logged_in) := by
  induction lines generalizing p w r with
  | nil =>
    cases hrun
    exact .nil _
  | cons line lines ih =>
    obtain ⟨next, w₁, r', hstep, hrest, rfl⟩ := run_play_cons.mp hrun
    obtain ⟨hnext, -⟩ := step_stored (A := fun _ => True) hp (.inl trivial) hstep
    have hend := endsAt_step hp h line
    rw [EndsAt, wp_exact, hstep, ends_ok] at hend
    obtain ⟨hcounter, hup⟩ := hend
    have hserves := ih hnext hup hrest
    rw [hcounter] at hserves
    exact .cons (allows_move hp h line) hserves

theorem StorageSystem.LoadedItems.upToDate {K : World → Prop}
    (hK : ∀ w', K w' → stockRead w' = stockRead w) {items : List Text} {c c' : ShoppingCart}
    (h : LoadedItems K items c c') (hc : UpToDate w c) : UpToDate w c' := by
  induction h with
  | nil => exact hc
  | @cons item rest c c' UPC qty w' p hparse hw' hp hrest ih =>
    apply ih
    apply hc.set
    rw [← hK w' hw', hp.sound.1]
    exact hp.stockRead

/-- A login is refused, or reads the user with the stock as it is. -/
theorem wp_login_loaded (username : Text) (w : World) :
    wp sys.exact (login username) w
      (fun p w' => stockRead w' = stockRead w ∧
        (p = {} ∨ p.loc = .mainshell ∧ ∃ entry, openEntry w.users username = some entry ∧
          LoadedUser (fun w' => stockRead w' = stockRead w) username entry p.logged_in))
      fun _ _ => True := by
  have hK : Restockable fun w' => stockRead w' = stockRead w := by
    intro w' UPC p hw' hp
    exact (stockRead_restock hp).trans hw'
  apply wp_bind.mpr
  apply wp_attempt.mpr
  apply wp_sys.mpr
  apply wp_mono (wp_getUser_keeps hK rfl fun _ _ _ _ _ hw' _ _ => hw')
  · rintro u w' ⟨hw', hu⟩
    apply wp_mono (wp_mainbby_stock u w') _ fun _ _ h => h
    rintro p w'' ⟨rfl, hsame⟩
    exact ⟨hsame.trans hw', .inr ⟨rfl, hu⟩⟩
  · rintro e w' ⟨hw', -⟩
    cases e with
    | system_error => exact ⟨hw', .inl rfl⟩
    | invalid_argument | out_of_range | runtime_error | undefined => trivial

theorem wp_login_upToDate (username : Text) (w : World) :
    wp sys.exact (login username) w
      (fun p w' => stockRead w' = stockRead w ∧ UpToDate w' p.logged_in.shopping_cart)
      fun _ _ => True := by
  apply wp_mono (wp_login_loaded username w) _ fun _ _ h => h
  rintro p w' ⟨hstock, rfl | ⟨-, entry, -, user, pay, cart, -, -, hcart, hu⟩⟩
  · exact ⟨hstock, upToDate_empty w'⟩
  · rw [hu]
    exact ⟨hstock, (hcart.upToDate (fun _ h => h) (upToDate_empty w)).of_stock hstock⟩

/-- A session is the shop with one customer: reading the account leaves the
stock, and each line typed makes the move that it means at its prompt, which the
shop allows. -/
theorem session_serves {username : Text} {lines : List Text} {r : Trail × Proc} {w₀ : World}
    (hlogin : run sys (login username) w = (.ok p, w₀))
    (hplay : run sys (p.play lines) w₀ = (.ok r, w')) :
    (counter w₀ p.logged_in).stock = stockRead w ∧
      Counter.Serves (counter w₀ p.logged_in) (r.1.map fun e => (e.1.loc, e.2))
        (counter w' r.2.logged_in) := by
  have hup := wp_login_upToDate username w
  rw [wp_exact, hlogin, ends_ok] at hup
  have hsound := session_sound w username []
  have hsession : run sys (session username []) w = (.ok ([], p), w₀) := run_bind_ok hlogin
  rw [hsession] at hsound
  exact ⟨hup.1, play_serves hsound hup.2 hplay⟩

end Sessions

end OnlineShoppingCenter

namespace OnlineShoppingCenter

open TextCodec EffectProgram

attribute [local instance] posix

def purchaseLines : List Text :=
  ["addtocart 7", "cart", "changeqty 7 2", "checkout", "y", "y", "y"].map String.toList

/-- Two packs of pens are bought with what is on file. -/
theorem small_purchase_serves : ∃ p w₀ r w',
    run sys (login "testuser001".toList) smallWorld = (.ok p, w₀) ∧
      run sys (p.play purchaseLines) w₀ = (.ok r, w') ∧
        r.2.logged_in.transaction_history.transaction_list.length = 1 ∧
          (counter w₀ p.logged_in).stock = stockRead smallWorld ∧
            Counter.Serves (counter w₀ p.logged_in) (r.1.map fun e => (e.1.loc, e.2))
              (counter w' r.2.logged_in) := by
  have hbought : ((run sys (session "testuser001".toList purchaseLines) smallWorld).1.toOption.any
      fun r => r.2.logged_in.transaction_history.transaction_list.length = 1) = true := by
    decide +kernel
  obtain ⟨r, hr, hlength⟩ := ok_of_any hbought
  obtain ⟨p, w₀, hlogin, hplay⟩ := run_bind_eq_ok.mp (Prod.ext hr rfl)
  have hlength := of_decide_eq_true hlength
  obtain ⟨hstock, hserves⟩ := session_serves hlogin hplay
  exact ⟨p, w₀, r, _, hlogin, hplay, hlength, hstock, hserves⟩

end OnlineShoppingCenter
