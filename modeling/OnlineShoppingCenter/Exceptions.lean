import OnlineShoppingCenter.CartOperations
import OnlineShoppingCenter.Referential

/-!
# What ends a session

Over good databases the only calls that fail are a login and the reading of a
product outside the catalogue, and `main` handles the latter. What is left are
the numerals on the line that do not fit, and the exit command.
-/
namespace OnlineShoppingCenter

open TextCodec ColumnFamilies EffectProgram StorageSystem

variable [Platform]

/-- A numeral that does not fit an unsigned long. -/
abbrev TooLarge (t : Text) : Prop := stoul t = .error .out_of_range

/-- A line on which a numeral that is read does not fit. -/
def Proc.Overflows (shop : Shop) (p : Proc) (line : Text) : Prop :=
  match p.loc, split line ' ' with
  | .mainshell, cmd :: upc_s :: rest => cmd = "addtocart".toList ∧
    (TooLarge upc_s ∨ (∃ UPC ∈ shop.catalogue, stoul upc_s = .ok UPC) ∧
      ∃ qty_s ∈ rest.head?, TooLarge qty_s)
  | .cartshell _, cmd :: upc_s :: rest => p.logged_in.shopping_cart.isEmpty = false ∧
    (cmd = "remove".toList ∧ TooLarge upc_s ∨
      cmd = "changeqty".toList ∧ ∃ qty_s ∈ rest.head?,
        (TooLarge upc_s ∨ (∃ UPC, stoul upc_s = .ok UPC) ∧ TooLarge qty_s))
  | .orderAddr _ (.zip _), _ | .accountAddr (.zip _), _ => TooLarge line
  | .orderPay _ .num, _ | .accountPay .num, _ => TooLarge line
  | .tshell, cmd :: _ => TooLarge cmd
  | _, _ => False

/-- The exit command at one of the four prompts that know it. -/
def Proc.Exits (p : Proc) (line : Text) : Prop :=
  (p.loc = .mainshell ∨ (∃ flag, p.loc = .cartshell flag) ∨ p.loc = .accshell ∨ p.loc = .tshell) ∧
    (split line ' ').head? = some "exit".toList

/-- The card number on the way is the number of the line typed for it. -/
def PayPrompt.Parsed : PayPrompt → Prop
  | .exp cc_num num_s | .cv2 cc_num num_s _ => stoul num_s = .ok cc_num
  | .num | .correct _ => True

def Loc.Parsed : Loc → Prop
  | .orderPay _ prompt | .accountPay prompt => prompt.Parsed
  | _ => True

/-- The contract of the calls, with nothing asked of the session. -/
def replies (shop : Shop) : Contract clientSig Exn (Set Uuid) where
  pre _ _ := True
  post := (intact shop).post

section Continues

variable {shop : Shop} {g : Set Uuid} {u : User}

theorem wp_reply {op : Call} {Q : op.Ret → Set Uuid → Prop} {E : Exn → Set Uuid → Prop}
    (hok : ∀ a g', Returns shop g' op a → Q a g') (herr : ∀ e g', Throws shop op e → E e g') :
    wp (replies shop) (request op) g Q E :=
  wp_perform.mpr ⟨trivial, fun a g' h => hok a g' h.2, fun e g' h => herr e g' h.2⟩

/-- A program that does not fail. -/
abbrev Completes {α : Type} (shop : Shop) (m : ClientM α) (g : Set Uuid) : Prop :=
  wp (replies shop) m g (fun _ _ => True) fun _ _ => False

/-- A program that ends at a prompt. -/
abbrev Continues (shop : Shop) (m : ClientM Proc) (g : Set Uuid) : Prop :=
  wp (replies shop) m g (fun p _ => p.loc.Parsed ∧ p.loc ≠ .exited) fun _ _ => False

theorem continues_waitAt {loc : Loc} (hparsed : loc.Parsed) (hloc : loc ≠ .exited) :
    Continues shop (waitAt u loc) g := by
  unfold waitAt
  cases loc.question with
  | none => exact ⟨hparsed, hloc⟩
  | some question =>
    apply wp_bind.mpr
    exact wp_reply (fun _ _ _ => ⟨hparsed, hloc⟩) fun _ _ h => nomatch h

theorem continues_of_completes {α : Type} {m : ClientM α} {k : α → ClientM Proc}
    (hm : Completes shop m g) (hk : ∀ a g', Continues shop (k a) g') :
    Continues shop (m >>= k) g := wp_bind.mpr (wp_mono hm (fun a g' _ => hk a g') fun _ _ h => h)

theorem completes_listInventory {prodlist : List SKU} (h : shop.Stocks prodlist) :
    Completes shop (listInventory prodlist) g := by
  induction prodlist generalizing g with
  | nil => trivial
  | cons upc prodlist ih =>
    apply wp_bind.mpr
    apply wp_reply
    · intro p g' _
      exact ih fun UPC hUPC => h UPC (by simp [hUPC])
    · intro e g' he
      exact he.1 (h upc (by simp))

theorem continues_mainshell : Continues shop (mainshell u) g :=
  continues_waitAt trivial (by simp)

theorem continues_mainbby : Continues shop (mainbby u) g := by
  apply wp_bind.mpr
  apply wp_reply
  · intro prodlist g' h
    exact continues_of_completes (completes_listInventory h) fun _ _ => continues_mainshell
  · intro e g' h
    cases h

theorem continues_cartshell {invalid_qty : Bool} : Continues shop (cartshell u invalid_qty) g :=
  continues_waitAt trivial (by simp)

theorem continues_cartview : Continues shop (cartview u) g := continues_cartshell

theorem continues_accshell : Continues shop (accshell u) g := continues_waitAt trivial (by simp)

theorem continues_tshell : Continues shop (tshell u) g := continues_waitAt trivial (by simp)

theorem completes_reply {op : Call} (h : ∀ e, ¬ Throws shop op e) :
    Completes shop (request op) g := wp_reply (fun _ _ _ => trivial) fun e _ => h e

theorem completes_storeUser (u : User) : Completes shop (local_storage.storeUser u) g :=
  completes_reply fun _ h => h

theorem completes_bind {α β : Type} {m : ClientM α} {k : α → ClientM β} (hm : Completes shop m g)
    (hk : ∀ a g', Completes shop (k a) g') : Completes shop (m >>= k) g :=
  wp_bind.mpr (wp_mono hm (fun a g' _ => hk a g') fun _ _ h => h)

theorem completes_addProductQty (p : Product) (qty : UInt32) :
    Completes shop (u.shopping_cart.addProductQty u.cartStore p qty) g := by
  by_cases hz : qty = 0
  · subst hz
    rw [ShoppingCart.addProductQty_zero]
    apply completes_bind (completes_storeUser _)
    intro _ g'
    exact completes_bind (completes_storeUser _) fun _ _ => trivial
  · rw [ShoppingCart.addProductQty_pos hz]
    exact completes_bind (completes_storeUser _) fun _ _ => trivial

theorem completes_addProduct (p : Product) :
    Completes shop (u.shopping_cart.addProduct u.cartStore p) g := by
  cases hc : u.shopping_cart.checkCart p.UPC with
  | true =>
    rw [ShoppingCart.addProduct_old hc]
    trivial
  | false =>
    rw [ShoppingCart.addProduct_new hc]
    exact completes_bind (completes_storeUser _) fun _ _ => trivial

/-- What is in a cart can be read again. -/
theorem completes_changeUPCQuantity {UPC : SKU} (hUPC : UPC ∈ shop.catalogue) (qty : UInt32) :
    Completes shop (u.shopping_cart.changeUPCQuantity u.cartStore
      (fun UPC => local_storage.getProduct UPC) UPC qty) g := by
  apply wp_bind.mpr
  apply wp_reply
  · intro p g' _
    exact completes_addProductQty p qty
  · intro e g' he
    exact he.1 hUPC

theorem completes_onCart {method : (ShoppingCart → ClientM Unit) → ShoppingCart → ClientM ShoppingCart}
    (h : Completes shop (method u.cartStore u.shopping_cart) g) :
    Completes shop (onCart u method) g := completes_bind h fun _ _ => trivial

theorem completes_chargeItems (items : List (SKU × Product × UInt32))
    (h : ∀ e ∈ items, ¬ e.2.1.quantity < e.2.2) :
    Completes shop (Transaction.chargeItems items) g := by
  induction items generalizing g with
  | nil => trivial
  | cons item rest ih =>
    obtain ⟨UPC, p, qty⟩ := item
    have hq : ¬ p.quantity < qty := h (UPC, p, qty) (by simp)
    have hrest : ∀ e ∈ rest, ¬ e.2.1.quantity < e.2.2 := fun e he => h e (by simp [he])
    rw [Transaction.chargeItems, if_neg hq]
    apply completes_bind
    · exact completes_reply fun _ h => h
    intro p' g'
    apply completes_bind
    · exact completes_reply fun _ h => h
    intro _ g''
    exact ih hrest

theorem completes_chargeCreditCard {order : Transaction}
    (h : order.shopping_cart.invalidQty = false) :
    Completes shop (order.chargeCreditCard u) g := by
  have hitems := ShoppingCart.invalidQty_eq_false.mp h
  apply completes_bind
  · exact completes_reply fun _ h => h
  intro date g₁
  apply completes_bind
  · exact completes_chargeItems _ hitems
  intro _ g₂
  apply completes_bind
  · exact completes_reply fun _ h => h
  intro _ g₃
  exact completes_bind (completes_storeUser _) fun _ _ => trivial

omit [Platform] in
theorem stoul_cases {t : Text} (h : ¬ TooLarge t) :
    (∃ n, stoul t = .ok n) ∨ stoul t = .error .invalid_argument := by
  cases hn : stoul t with
  | ok n => exact .inl ⟨n, rfl⟩
  | error e =>
    rcases stoul_error_cases hn with rfl | rfl
    · exact .inr rfl
    · exact absurd hn h

omit [Platform] in
theorem stoui_cases {t : Text} (h : ¬ TooLarge t) :
    (∃ n, stoui t = .ok n) ∨ stoui t = .error .invalid_argument := by
  rcases stoul_cases h with ⟨n, hn⟩ | hn
  · exact .inl ⟨n.toUInt32, by simp [stoui, hn, Except.map]⟩
  · exact .inr (stoui_error_eq.mpr hn)

theorem continues_addtocart {upc_s : Text} {rest : List Text}
    (h : ¬ (TooLarge upc_s ∨ (∃ UPC ∈ shop.catalogue, stoul upc_s = .ok UPC) ∧
      ∃ qty_s ∈ rest.head?, TooLarge qty_s)) :
    Continues shop (addtocart u (upc_s :: rest)) g := by
  obtain ⟨hupc, hrest⟩ := not_or.mp h
  apply wp_bind.mpr
  apply wp_attempt.mpr
  rcases stoul_cases hupc with ⟨UPC, hUPC⟩ | herr
  · rw [hUPC, Prog.ofExcept_ok, Prog.ret_bind]
    apply wp_reply
    · intro prod g' hprod
      cases rest with
      | nil =>
        exact continues_of_completes (completes_onCart (completes_addProduct prod))
          fun _ _ => continues_mainshell
      | cons qty_s rest =>
        have hqty : ¬ TooLarge qty_s :=
          fun hlarge => hrest ⟨⟨UPC, hprod.1, hUPC⟩, qty_s, rfl, hlarge⟩
        dsimp only
        rcases stoui_cases hqty with ⟨qty, hq⟩ | hq
        · rw [hq]
          apply continues_of_completes
          · apply completes_onCart
            split
            · exact completes_addProduct prod
            · exact completes_addProductQty prod qty
          · exact fun _ _ => continues_mainshell
        · rw [hq]
          exact continues_mainshell
    · rintro e g' ⟨-, rfl⟩
      exact continues_mainbby
  · rw [herr]
    exact continues_mainbby

theorem continues_remove {invalid_qty : Bool} {args : List Text}
    (h : u.shopping_cart.isEmpty = false → ∀ upc_s ∈ args.head?, ¬ TooLarge upc_s) :
    Continues shop (remove u invalid_qty args) g := by
  cases args with
  | nil => exact continues_cartshell
  | cons upc_s rest =>
    rw [remove]
    split
    · exact continues_cartshell
    · rename_i hempty
      rcases stoul_cases (h (by simpa using hempty) upc_s rfl) with ⟨UPC, hUPC⟩ | herr
      · rw [hUPC]
        dsimp only
        split
        · exact continues_cartview
        · apply continues_of_completes
          · apply completes_onCart
            exact completes_bind (completes_storeUser _) fun _ _ => trivial
          · exact fun _ _ => continues_cartview
      · rw [herr]
        exact continues_cartview

theorem continues_changeqty {invalid_qty : Bool} {args : List Text}
    (hcart : shop.CartKnown u.shopping_cart)
    (h : u.shopping_cart.isEmpty = false → ∀ upc_s qty_s rest, args = upc_s :: qty_s :: rest →
      ¬ (TooLarge upc_s ∨ (∃ UPC, stoul upc_s = .ok UPC) ∧ TooLarge qty_s)) :
    Continues shop (changeqty u invalid_qty args) g := by
  match args with
  | [] => exact continues_cartshell
  | [_] => exact continues_cartshell
  | upc_s :: qty_s :: rest =>
    rw [changeqty]
    split
    · exact continues_cartshell
    · rename_i hempty
      obtain ⟨hupc, hqty⟩ := not_or.mp (h (by simpa using hempty) upc_s qty_s rest rfl)
      rcases stoul_cases hupc with ⟨UPC, hUPC⟩ | herr
      · rw [hUPC]
        rcases stoui_cases fun hlarge => hqty ⟨⟨UPC, hUPC⟩, hlarge⟩ with ⟨qty, hq⟩ | hq
        · rw [hq]
          dsimp only
          split
          · exact continues_cartview
          · rename_i hcheck
            have hmem : UPC ∈ u.shopping_cart.cart := ShoppingCart.mem_of_checkCart (by simpa using hcheck)
            apply continues_of_completes
            · apply completes_onCart
              exact completes_changeUPCQuantity (hcart UPC hmem) qty
            · exact fun _ _ => continues_cartview
        · rw [hq]
          exact continues_cartshell
      · rw [herr]
        exact continues_cartview

theorem continues_clear {invalid_qty : Bool} : Continues shop (clear u invalid_qty) g := by
  unfold clear
  split
  · exact continues_cartshell
  · apply continues_of_completes
    · apply completes_onCart
      exact completes_bind (completes_storeUser _) fun _ _ => trivial
    · exact fun _ _ => continues_mainbby

section Checkout

variable {order : Transaction}

theorem continues_orderNewPay : Continues shop (orderNewPay u order) g := by
  unfold orderNewPay
  split
  · exact continues_waitAt trivial (by simp)
  · exact continues_waitAt trivial (by simp)

theorem continues_ordercc : Continues shop (ordercc u order) g := by
  unfold ordercc
  split
  · exact continues_waitAt trivial (by simp)
  · exact continues_orderNewPay

theorem continues_orderNewAddr : Continues shop (orderNewAddr u order (ordercc u order)) g := by
  unfold orderNewAddr
  split
  · exact continues_ordercc
  · exact continues_waitAt trivial (by simp)

theorem continues_orderaddr : Continues shop (orderaddr u order) g := by
  unfold orderaddr
  split
  · exact continues_waitAt trivial (by simp)
  · exact continues_orderNewAddr

theorem continues_checkout {invalid_qty : Bool} (h : invalid_qty = u.shopping_cart.invalidQty) :
    Continues shop (checkout u invalid_qty) g := by
  unfold checkout
  split
  · exact continues_cartshell
  split
  · exact continues_cartview
  · rename_i hvalid
    rw [ShoppingCart.buyCart, if_neg (by simpa [h] using hvalid)]
    apply continues_of_completes
    · exact completes_bind (completes_reply fun _ h => h) fun _ _ => trivial
    · exact fun _ _ => continues_orderaddr

end Checkout

theorem parsed_next {prompt : PayPrompt} {line : Text} (hp : prompt.Parsed)
    {a : Answer PayPrompt PaymentInfo} (h : orderPayStep prompt line = .ok a) :
    a.All PayPrompt.Parsed fun _ => True := by
  cases prompt with
  | num =>
    rw [orderPayStep] at h
    cases hn : stoul line with
    | ok n =>
      rw [hn] at h
      cases h
      exact hn
    | error e =>
      rw [hn] at h
      cases e <;> cases h
      trivial
  | exp cc_num num_s =>
    cases h
    split
    · trivial
    · exact hp
  | cv2 cc_num num_s cc_exp => exact number_all h fun n => trivial
  | correct cc =>
    cases h
    split <;> trivial

omit [Platform] in
theorem number_ok {β σ α : Type} {parsed : Except Exn β} {k : β → Answer σ α}
    (h : (∃ n, parsed = .ok n) ∨ parsed = .error .invalid_argument) :
    ∃ a, number parsed k = .ok a := by
  rcases h with ⟨n, rfl⟩ | rfl
  · exact ⟨_, rfl⟩
  · exact ⟨_, rfl⟩

/-- Only the postal code is parsed. -/
theorem orderAddrStep_ok {prompt : AddrPrompt} {line : Text}
    (h : ∀ addr, prompt = .zip addr → ¬ TooLarge line) :
    ∃ a, orderAddrStep prompt line = .ok a := by
  cases prompt with
  | zip addr => exact number_ok (stoui_cases (h addr rfl))
  | name1 | name2 | street1 | street2 | city | state | country | correct => exact ⟨_, rfl⟩

/-- The third number is the first one again. -/
theorem orderPayStep_ok {prompt : PayPrompt} {line : Text} (hp : prompt.Parsed)
    (h : prompt = .num → ¬ TooLarge line) : ∃ a, orderPayStep prompt line = .ok a := by
  cases prompt with
  | num => exact number_ok (stoul_cases (h rfl))
  | cv2 cc_num num_s cc_exp =>
    have hnum : stoul num_s = .ok cc_num := hp
    exact number_ok (stoui_cases (by simp [hnum]))
  | exp | correct => exact ⟨_, rfl⟩

theorem continues_orderAddr {order : Transaction} {prompt : AddrPrompt} {line : Text}
    (h : ∀ addr, prompt = .zip addr → ¬ TooLarge line) :
    Continues shop (orderAddr u order prompt line) g := by
  obtain ⟨a, ha⟩ := orderAddrStep_ok h
  rw [orderAddr, ha, Prog.ofExcept_ok, Prog.ret_bind]
  cases a with
  | next prompt => exact continues_waitAt trivial (by simp)
  | reject => exact continues_orderaddr
  | decline => exact continues_orderaddr
  | accept addr =>
    apply continues_of_completes
    · exact completes_reply fun _ h => h
    intro _ g'
    split
    · apply continues_of_completes
      · exact completes_bind (completes_storeUser _) fun _ _ => trivial
      · exact fun _ _ => continues_ordercc
    · exact continues_ordercc

theorem continues_orderPay {order : Transaction} {prompt : PayPrompt} {line : Text}
    (hp : prompt.Parsed) (h : prompt = .num → ¬ TooLarge line) :
    Continues shop (orderPay u order prompt line) g := by
  obtain ⟨a, ha⟩ := orderPayStep_ok hp h
  have hnext := parsed_next hp ha
  rw [orderPay, ha, Prog.ofExcept_ok, Prog.ret_bind]
  cases a with
  | next prompt => exact continues_waitAt hnext (by simp)
  | reject => exact continues_ordercc
  | decline => exact continues_orderaddr
  | accept cc =>
    apply continues_of_completes
    · exact completes_reply fun _ h => h
    intro _ g'
    split
    · apply continues_of_completes
      · exact completes_bind (completes_storeUser _) fun _ _ => trivial
      · exact fun _ _ => continues_waitAt trivial (by simp)
    · exact continues_waitAt trivial (by simp)

theorem continues_accountAddr {prompt : AddrPrompt} {line : Text}
    (h : ∀ addr, prompt = .zip addr → ¬ TooLarge line) :
    Continues shop (accountAddr u prompt line) g := by
  obtain ⟨a, ha⟩ := orderAddrStep_ok h
  rw [accountAddr, accountAddrStep_eq, ha, Prog.ofExcept_ok, Prog.ret_bind]
  cases a with
  | next prompt => exact continues_waitAt trivial (by simp)
  | reject => exact continues_accshell
  | decline => exact continues_accshell
  | accept addr =>
    apply continues_of_completes
    · exact completes_bind (completes_storeUser _) fun _ _ => trivial
    · exact fun _ _ => continues_accshell

theorem continues_accountPay {prompt : PayPrompt} {line : Text} (hp : prompt.Parsed)
    (h : prompt = .num → ¬ TooLarge line) : Continues shop (accountPay u prompt line) g := by
  obtain ⟨a, ha⟩ := orderPayStep_ok hp h
  have hnext := parsed_next hp ha
  rw [accountPay, accountPayStep_eq, ha, Prog.ofExcept_ok, Prog.ret_bind]
  cases a with
  | next prompt => exact continues_waitAt hnext (by simp)
  | reject => exact continues_accshell
  | decline => exact continues_accshell
  | accept cc =>
    apply continues_of_completes
    · exact completes_bind (completes_storeUser _) fun _ _ => trivial
    · exact fun _ _ => continues_accshell

theorem continues_confirmOrder {order : Transaction} {line : Text}
    (h : order.shopping_cart.invalidQty = false) :
    Continues shop (confirmOrder u order line) g := by
  unfold confirmOrder
  split
  · exact continues_of_completes (completes_chargeCreditCard h) fun _ _ => continues_mainbby
  · exact continues_cartview

theorem continues_orders {args : List Text} (hexit : args.head? ≠ some "exit".toList)
    (h : ∀ cmd ∈ args.head?, ¬ TooLarge cmd) : Continues shop (orders u args) g := by
  cases args with
  | nil => exact continues_tshell
  | cons cmd rest =>
    rw [orders, if_neg (by simpa using hexit)]
    split
    · exact continues_accshell
    · rcases stoui_cases (h cmd rfl) with ⟨idx, hidx⟩ | herr
      · rw [hidx]
        dsimp only
        split
        · exact continues_tshell
        · apply continues_of_completes
          · exact completes_reply fun _ h => h
          · exact fun _ _ => continues_tshell
      · rw [herr]
        exact continues_tshell

theorem continues_accountCommand {args : List Text} (hexit : args.head? ≠ some "exit".toList) :
    Continues shop (accountCommand u args) g := by
  cases args with
  | nil => exact continues_accshell
  | cons cmd rest =>
    rw [accountCommand, if_neg (by simpa using hexit)]
    split
    · exact continues_mainbby
    split
    · exact continues_waitAt trivial (by simp)
    split
    · exact continues_waitAt trivial (by simp)
    split
    · split
      · exact continues_accshell
      · exact continues_tshell
    · exact continues_accshell

/-- A command at the main prompt. Only `addtocart` reads numerals. -/
theorem continues_mainCommand {line : Text} (hexit : (split line ' ').head? ≠ some "exit".toList)
    (hover : ¬ Proc.Overflows shop ⟨u, .mainshell⟩ line) :
    Continues shop (mainCommand u (split line ' ')) g := by
  unfold Proc.Overflows at hover
  cases hargs : split line ' ' with
  | nil => exact continues_mainshell
  | cons cmd args =>
    rw [hargs] at hexit hover
    rw [mainCommand, if_neg (by simpa using hexit)]
    split
    · rename_i hcmd
      cases args with
      | nil => exact continues_mainshell
      | cons upc_s rest => exact continues_addtocart fun h => hover ⟨hcmd, h⟩
    split
    · exact continues_cartview
    split
    · exact continues_accshell
    · exact continues_mainshell

/-- A command at the cart prompt. `remove` and `changeqty` read numerals, unless
the cart is empty. -/
theorem continues_cartCommand {invalid_qty : Bool} {line : Text}
    (hflag : invalid_qty = u.shopping_cart.invalidQty) (hcart : shop.CartKnown u.shopping_cart)
    (hexit : (split line ' ').head? ≠ some "exit".toList)
    (hover : ¬ Proc.Overflows shop ⟨u, .cartshell invalid_qty⟩ line) :
    Continues shop (cartCommand u invalid_qty (split line ' ')) g := by
  unfold Proc.Overflows at hover
  cases hargs : split line ' ' with
  | nil => exact continues_cartshell
  | cons cmd args =>
    rw [hargs] at hexit hover
    rw [cartCommand, if_neg (by simpa using hexit)]
    split
    · exact continues_mainbby
    split
    · rename_i hcmd
      apply continues_remove
      intro hempty upc_s hupc hlarge
      rw [List.eq_cons_of_mem_head? hupc] at hover
      exact hover ⟨hempty, .inl ⟨hcmd, hlarge⟩⟩
    split
    · rename_i hcmd
      apply continues_changeqty hcart
      rintro hempty upc_s qty_s rest rfl hlarge
      exact hover ⟨hempty, .inr ⟨hcmd, qty_s, rfl, hlarge⟩⟩
    split
    · exact continues_clear
    split
    · exact continues_checkout hflag
    · exact continues_cartshell

/-- The number at the order prompt. -/
theorem not_tooLarge_of_tshell {line cmd : Text} (hover : ¬ Proc.Overflows shop ⟨u, .tshell⟩ line)
    (hcmd : cmd ∈ (split line ' ').head?) : ¬ TooLarge cmd := by
  unfold Proc.Overflows at hover
  rw [List.eq_cons_of_mem_head? hcmd] at hover
  exact hover

/-- A line that neither overflows nor exits leads to a prompt. -/
theorem continues_step {p : Proc} {line : Text} (hp : p.Sound) (hparsed : p.loc.Parsed)
    (hcart : shop.CartKnown p.logged_in.shopping_cart) (hloc : p.loc ≠ .exited)
    (hexit : ¬ p.Exits line) (hover : ¬ p.Overflows shop line) :
    Continues shop (p.step line) g := by
  obtain ⟨u, loc⟩ := p
  obtain ⟨hu, hsound⟩ := hp
  cases loc with
  | mainshell => exact continues_mainCommand (fun h => hexit ⟨.inl rfl, h⟩) hover
  | cartshell invalid_qty =>
    exact continues_cartCommand hsound hcart (fun h => hexit ⟨.inr (.inl ⟨invalid_qty, rfl⟩), h⟩) hover
  | useAddress order => exact continues_orderNewAddr
  | orderAddr order prompt =>
    apply continues_orderAddr
    rintro addr rfl hlarge
    exact hover hlarge
  | usePayment order => exact continues_orderNewPay
  | orderPay order prompt =>
    apply continues_orderPay hparsed
    rintro rfl hlarge
    exact hover hlarge
  | placeOrder order =>
    apply continues_confirmOrder
    rw [hsound.1.cart]
    exact hsound.1.valid
  | accshell => exact continues_accountCommand fun h => hexit ⟨.inr (.inr (.inl rfl)), h⟩
  | accountAddr prompt =>
    apply continues_accountAddr
    rintro addr rfl hlarge
    exact hover hlarge
  | accountPay prompt =>
    apply continues_accountPay hparsed
    rintro rfl hlarge
    exact hover hlarge
  | tshell =>
    apply continues_orders
    · exact fun h => hexit ⟨.inr (.inr (.inr rfl)), h⟩
    · exact fun cmd hcmd => not_tooLarge_of_tshell hover hcmd
  | exited => exact absurd rfl hloc

/-- The exit command. -/
theorem step_exits {p : Proc} {line : Text} (h : p.Exits line) :
    p.step line = .ret ⟨p.logged_in, .exited⟩ := by
  obtain ⟨u, loc⟩ := p
  obtain ⟨hloc, hhead⟩ := h
  obtain ⟨args, hargs⟩ : ∃ args, split line ' ' = "exit".toList :: args := by
    cases hsplit : split line ' ' with
    | nil => simp [hsplit] at hhead
    | cons cmd args =>
      rw [hsplit] at hhead
      exact ⟨args, by rw [Option.some.inj hhead]⟩
  rcases hloc with rfl | ⟨flag, rfl⟩ | rfl | rfl <;> simp only [Proc.step, hargs] <;> rfl

/-- A program that raises `std::out_of_range`. -/
abbrev Overflowing (shop : Shop) (m : ClientM Proc) (g : Set Uuid) : Prop :=
  wp (replies shop) m g (fun _ _ => False) fun e _ => e = .out_of_range

/-- The UPC is read first; the quantity only when the product has been found. -/
theorem addtocart_overflows {upc_s : Text} {rest : List Text}
    (h : TooLarge upc_s ∨ (∃ UPC ∈ shop.catalogue, stoul upc_s = .ok UPC) ∧
      ∃ qty_s ∈ rest.head?, TooLarge qty_s) :
    Overflowing shop (addtocart u (upc_s :: rest)) g := by
  apply wp_bind.mpr
  apply wp_attempt.mpr
  rcases h with hlarge | ⟨⟨UPC, hmem, hUPC⟩, qty_s, hqty, hlarge⟩
  · rw [hlarge]
    rfl
  · rw [hUPC, Prog.ofExcept_ok, Prog.ret_bind, List.eq_cons_of_mem_head? hqty]
    apply wp_reply
    · intro prod g' _
      dsimp only
      rw [stoui_error_eq.mpr hlarge]
      rfl
    · intro e g' he
      exact absurd hmem he.1

theorem remove_overflows {invalid_qty : Bool} {upc_s : Text} {rest : List Text}
    (hempty : u.shopping_cart.isEmpty = false) (h : TooLarge upc_s) :
    Overflowing shop (remove u invalid_qty (upc_s :: rest)) g := by
  rw [remove, if_neg (by simp [hempty]), h]
  rfl

theorem changeqty_overflows {invalid_qty : Bool} {upc_s qty_s : Text} {rest : List Text}
    (hempty : u.shopping_cart.isEmpty = false)
    (h : TooLarge upc_s ∨ (∃ UPC, stoul upc_s = .ok UPC) ∧ TooLarge qty_s) :
    Overflowing shop (changeqty u invalid_qty (upc_s :: qty_s :: rest)) g := by
  rw [changeqty, if_neg (by simp [hempty])]
  rcases h with hlarge | ⟨⟨UPC, hUPC⟩, hlarge⟩
  · rw [hlarge]
    rfl
  · rw [hUPC]
    dsimp only
    rw [stoui_error_eq.mpr hlarge]
    rfl

/-- A numeral is neither of the two commands. -/
theorem orders_overflows {cmd : Text} {rest : List Text} (h : TooLarge cmd) :
    Overflowing shop (orders u (cmd :: rest)) g := by
  have hword : ∀ t : Text, stoul t = .error .invalid_argument → cmd ≠ t := by
    rintro t ht rfl
    rw [show stoul cmd = _ from h] at ht
    cases ht
  rw [orders, if_neg (hword _ (by decide)), if_neg (hword _ (by decide)), stoui_error_eq.mpr h]
  rfl

/-- An overflow raises `std::out_of_range`, which no handler catches. -/
theorem step_overflows {p : Proc} {line : Text} (h : p.Overflows shop line) :
    Overflowing shop (p.step line) g := by
  obtain ⟨u, loc⟩ := p
  unfold Proc.Overflows at h
  dsimp only at h
  split at h
  · rename_i cmd upc_s rest hargs
    obtain ⟨rfl, h⟩ := h
    simp only [Proc.step, hargs]
    change Overflowing shop (addtocart u (upc_s :: rest)) g
    exact addtocart_overflows h
  · rename_i invalid_qty cmd upc_s rest hargs
    obtain ⟨hempty, ⟨rfl, hlarge⟩ | ⟨rfl, qty_s, hqty, hlarge⟩⟩ := h
    · simp only [Proc.step, hargs]
      change Overflowing shop (remove u invalid_qty (upc_s :: rest)) g
      exact remove_overflows hempty hlarge
    · simp only [Proc.step, hargs]
      rw [List.eq_cons_of_mem_head? hqty]
      change Overflowing shop (changeqty u invalid_qty (upc_s :: qty_s :: rest.tail)) g
      exact changeqty_overflows hempty hlarge
  · simp only [Proc.step, orderAddr, orderAddrStep, stoui_error_eq.mpr h]
    rfl
  · simp only [Proc.step, accountAddr, accountAddrStep, stoui_error_eq.mpr h]
    rfl
  · simp only [Proc.step, orderPay, orderPayStep, show stoul line = _ from h]
    rfl
  · simp only [Proc.step, accountPay, accountPayStep, show stoul line = _ from h]
    rfl
  · rename_i cmd args hargs
    simp only [Proc.step, hargs]
    exact orders_overflows h
  · exact h.elim

end Continues

end OnlineShoppingCenter
