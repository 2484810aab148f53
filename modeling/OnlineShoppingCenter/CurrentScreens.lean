import OnlineShoppingCenter.Erasure
import OnlineShoppingCenter.SessionRules

/-!
# What the screen shows at a prompt

The views last printed are the ones of the state that the session is in, at
each prompt of every run and whatever the databases answer: the cart, the
account, the order history, what has been entered, and the order that is about
to be placed.
-/
namespace OnlineShoppingCenter

open TextCodec EffectProgram SectionedLog

variable [Platform]

/-- The section of a kind that was opened last begins with these lines. -/
abbrev Shown (h : Heading) (lines screen : Screen) : Prop := Shows Printed.opens h lines screen

/-- Lines without a heading. -/
def Plain (lines : Screen) : Prop := ∀ line ∈ lines, line.opens = none

section Plain

@[simp] theorem plain_nil : Plain [] := by simp [Plain]

@[simp] theorem plain_cons {line : Printed} {lines : Screen} :
    Plain (line :: lines) ↔ line.opens = none ∧ Plain lines := List.forall_mem_cons

@[simp] theorem plain_append {lines lines' : Screen} :
    Plain (lines ++ lines') ↔ Plain lines ∧ Plain lines' := List.forall_mem_append

theorem plain_flatMap {α : Type} {f : α → Screen} (l : List α) (h : ∀ a, Plain (f a)) :
    Plain (l.flatMap f) := by
  intro line hline
  obtain ⟨a, -, ha⟩ := List.mem_flatMap.mp hline
  exact h a line ha

theorem plain_map {α : Type} {f : α → Printed} (l : List α) (h : ∀ a, (f a).opens = none) :
    Plain (l.map f) := by
  intro line hline
  obtain ⟨a, -, rfl⟩ := List.mem_map.mp hline
  exact h a

theorem plain_ite (c : Prop) [Decidable c] {lines lines' : Screen} (h : Plain lines)
    (h' : Plain lines') : Plain (if c then lines else lines') := by
  split
  · exact h
  · exact h'

@[simp] theorem plain_itemLines (item : SKU × Product × UInt32) : Plain (itemLines item) := by
  simp [itemLines]

@[simp] theorem plain_cartBody (c : ShoppingCart) : Plain (cartBody c) := by
  unfold cartBody
  apply plain_ite _ (by simp)
  simp only [plain_append]
  refine ⟨⟨plain_flatMap _ plain_itemLines, by simp⟩, plain_ite _ ?_ plain_nil⟩
  simp [invalidLines]

@[simp] theorem plain_inventoryLines (upc : SKU) (prod : Product) :
    Plain (inventoryLines upc prod) := by
  unfold inventoryLines
  apply plain_ite <;> simp

@[simp] theorem plain_addWarning (on_hand qty : UInt32) : Plain (addWarning on_hand qty) := by
  unfold addWarning
  apply plain_ite <;> simp

@[simp] theorem plain_changeWarning (on_hand qty : UInt32) :
    Plain (changeWarning on_hand qty) := by
  unfold changeWarning
  apply plain_ite <;> simp

@[simp] theorem plain_addressLines (addr : ShippingAddress) : Plain (addressLines addr) := by
  simp only [addressLines, plain_append]
  exact ⟨⟨plain_map _ fun _ => rfl, plain_map _ fun _ => rfl⟩, by simp⟩

@[simp] theorem plain_shipTo (addr : ShippingAddress) : Plain (shipTo addr) := by
  simp [shipTo]

@[simp] theorem plain_deliveryLines (t : Transaction) : Plain (deliveryLines t) := by
  simp [deliveryLines]

@[simp] theorem plain_accountBody (u : User) : Plain (accountBody u) := by
  unfold accountBody
  rw [plain_append]
  refine ⟨plain_ite _ ?_ ?_, plain_ite _ ?_ ?_⟩ <;> simp

@[simp] theorem plain_historyBody [Terminal] (history : TransactionHistory) :
    Plain (historyBody history) := by
  rw [historyBody, plain_append]
  exact ⟨plain_flatMap _ fun x => by simp [historyRow], by simp⟩

@[simp] theorem plain_orderLines [Terminal] (t : Transaction) : Plain (orderLines t) := by
  simp only [orderLines, List.cons_append, plain_cons, opens_out, plain_append, true_and]
  refine ⟨plain_flatMap _ fun x => ?_, plain_deliveryLines t⟩
  simp

@[simp] theorem plain_confirmationBody (t : Transaction) : Plain (confirmationBody t) := by
  simp only [confirmationBody, plain_append, plain_cons, opens_out, true_and]
  exact ⟨plain_flatMap _ plain_itemLines, plain_deliveryLines t⟩

@[simp] theorem plain_unrecognized (cmd : Text) : Plain (Console.unrecognized cmd) := by
  simp [Console.unrecognized]

end Plain

section Views

variable {h k : Heading} {lines body screen : Screen}

theorem Shows.plain (hs : Shown h lines screen) (hbody : Plain body) :
    Shown h lines (screen ++ body) := by
  apply hs.append
  intro line hline
  rw [hbody line hline]
  simp

/-- A view just printed is the one shown. -/
theorem shown_view (hbody : Plain body) (screen : Screen) :
    Shown h (.heading h :: body) (screen ++ .heading h :: body) := by
  have hhead : Printed.opens (.heading h) = some h := rfl
  apply shows_open hhead
  intro line hline
  rw [hbody line hline]
  simp

/-- A view of another kind does not hide it. -/
theorem Shows.other (hs : Shown h lines screen) (hk : k ≠ h) (hbody : Plain body) :
    Shown h lines (screen ++ .heading k :: body) := by
  apply hs.append
  intro line hline
  rcases List.mem_cons.mp hline with rfl | hline
  · simpa using hk
  · rw [hbody line hline]
    simp

theorem plain_menu (commands : List Command) :
    Plain ((commands.map fun command => out command.usage) ++ [out "\n"]) := by
  rw [plain_append]
  exact ⟨plain_map _ fun _ => rfl, by simp⟩

theorem shown_menu (commands : List Command) (screen : Screen) :
    Shown .commands (menu commands) (screen ++ menu commands) :=
  shown_view (plain_menu commands) screen

theorem Shows.menu (hs : Shown h lines screen) (hh : .commands ≠ h) (commands : List Command) :
    Shown h lines (screen ++ menu commands) :=
  Shows.other hs hh (plain_menu commands)

end Views

/-- The amount is the total of the items. -/
def Transaction.Totalled (t : Transaction) : Prop :=
  t.transaction_amount = t.shopping_cart.total

/-- The views that last at a prompt, each under its heading. -/
def Loc.views [Terminal] (u : User) : Loc → List (Heading × Screen)
  | .mainshell => [(.commands, mainMenu)]
  | .cartshell invalid_qty =>
    [(.cart, cartLines u.shopping_cart), (.commands, cartMenu u.shopping_cart invalid_qty)]
  | .accshell => [(.account, accountLines u), (.commands, accountMenu)]
  | .tshell => [(.orders, historyLines u.transaction_history)]
  | .useAddress _ | .orderAddr .. | .usePayment _ | .orderPay .. | .placeOrder _ | .accountAddr _
  | .accountPay _ | .exited => []

/-- The lines right before the question of a prompt. -/
def Loc.closing (u : User) : Loc → Screen
  | .useAddress _ => addressOnFile u.shipping_address
  | .orderAddr _ prompt => orderAddrLines prompt
  | .usePayment _ => paymentOnFile u.payment_info
  | .orderPay _ prompt => orderPayLines prompt
  | .placeOrder order => confirmationLines order
  | .accountAddr prompt => accountAddrLines prompt
  | .accountPay prompt => accountPayLines prompt
  | .mainshell | .cartshell _ | .accshell | .tshell | .exited => []

/-- The local variables that the views are printed from. -/
def Loc.Settled (u : User) : Loc → Prop
  | .cartshell invalid_qty => invalid_qty = u.shopping_cart.invalidQty
  | .useAddress order | .orderAddr order _ | .usePayment order | .orderPay order _
  | .placeOrder order => order.Totalled
  | .mainshell | .accshell | .accountAddr _ | .accountPay _ | .tshell | .exited => True

/-- The screen shows the views of the prompt, and ends with its lines and its question. -/
structure Current [Terminal] (p : Proc) (screen : Screen) : Prop where
  views : ∀ v ∈ p.loc.views p.logged_in, Shown v.1 v.2 screen
  closing : ∀ question, p.loc.question = some question →
    p.loc.closing p.logged_in ++ [out question.text] <:+ screen
  settled : p.loc.Settled p.logged_in

theorem current_exited [Terminal] (u : User) (screen : Screen) : Current ⟨u, .exited⟩ screen := by
  constructor
  · intro v hv
    cases hv
  · intro question hq
    cases hq
  · trivial

/-- The screen on which the customer is asked to place an order. -/
def Confirming (t : Transaction) (screen : Screen) : Prop :=
  confirmationLines t ++ [out Question.placeOrder.text] <:+ screen ∧ t.Totalled

/-- What a program prints, whatever its calls answer. An order is stored only
where it has just been confirmed. -/
def shown : Contract Console.sig Exn Screen where
  pre screen op := ∀ t, op = .call (.storeTransaction t) → Confirming t screen
  post
    | screen, .call _, _, screen' => screen' = screen
    | screen, .print line, r, screen' => r = .ok () ∧ screen' = screen ++ [line]

/-- The same for a client program, which prints nothing. -/
def unprinted : Contract clientSig Exn Screen where
  pre screen op := ∀ t, op = .storeTransaction t → Confirming t screen
  post screen _ _ screen' := screen' = screen

theorem implements_shown {W : Type} (H : Handler clientSig Exn W) :
    Implements (S := Console.sig) (terminal H) shown fun s screen => s.screen = screen := by
  intro op s screen hs hpre
  cases op with
  | call op => exact ⟨screen, rfl, hs⟩
  | print line =>
    refine ⟨screen ++ [line], ⟨rfl, rfl⟩, ?_⟩
    rw [← hs]
    rfl

namespace Console

variable {α : Type} {screen : Screen} {Q : α → Screen → Prop} {E : Exn → Screen → Prop}

theorem wp_print (line : Printed) {Q : Unit → Screen → Prop} :
    wp shown (print line) screen Q E ↔ Q () (screen ++ [line]) := by
  refine (wp_perform (S := sig)).trans ⟨fun h => h.2.1 () _ ⟨rfl, rfl⟩, fun h => ⟨?_, ?_, ?_⟩⟩
  · intro t ht
    cases ht
  · rintro _ _ ⟨-, rfl⟩
    exact h
  · rintro e _ ⟨he, -⟩
    cases he

@[simp] theorem wp_display (lines : Screen) {Q : Unit → Screen → Prop} :
    wp shown (display lines) screen Q E ↔ Q () (screen ++ lines) := by
  induction lines generalizing screen with
  | nil =>
    rw [List.append_nil]
    rfl
  | cons line lines ih =>
    rw [display, wp_bind, wp_print, ih, List.append_assoc, List.singleton_append]

theorem wp_quiet {m : ClientM α} (h : wp unprinted m screen Q E) :
    wp shown (quiet m) screen Q E := by
  apply wp_interp _ h
  intro op screen hpre
  refine (wp_perform (S := sig)).mpr ⟨?_, fun _ _ h => h, fun _ _ h => h⟩
  intro t ht
  cases ht
  exact hpre t rfl

end Console

/-- The calls of a session outside of an order are of this kind. -/
structure Call.Daily (P : Call → Prop) : Prop where
  storeUser : ∀ u, P (.storeUser u)
  getProducts : P .getProducts
  getProduct : ∀ UPC, P (.getProduct UPC)
  uuid_generate : P .uuid_generate
  ask : ∀ question, P (.ask question)
  showOrder : ∀ t, P (.showOrder t)

section Daily

variable {P : Call → Prop} (hP : Call.Daily P) (u : User)

include hP

theorem only_waitAt (loc : Loc) : (waitAt u loc).Only P := by
  unfold waitAt
  cases loc.question with
  | none => trivial
  | some question => exact (Prog.only_perform (hP.ask question)).bind fun _ => trivial

theorem only_getProduct (UPC : SKU) : (local_storage.getProduct UPC).Only P :=
  Prog.only_perform (hP.getProduct UPC)

theorem only_cartStore (c : ShoppingCart) : (u.cartStore c).Only P :=
  Prog.only_perform (hP.storeUser _)

theorem only_deleteUPC (UPC : SKU) : (u.shopping_cart.deleteUPC u.cartStore UPC).Only P :=
  (only_cartStore hP u _).bind fun _ => trivial

theorem only_addProduct (p : Product) : (u.shopping_cart.addProduct u.cartStore p).Only P := by
  unfold ShoppingCart.addProduct
  split
  · trivial
  · exact (only_cartStore hP u _).bind fun _ => trivial

theorem only_addProductQty (p : Product) (qty : UInt32) :
    (u.shopping_cart.addProductQty u.cartStore p qty).Only P := by
  have hrest : ∀ c : ShoppingCart, Prog.Only P
      (u.cartStore ⟨c.cart.insert p.UPC (p, qty)⟩ >>= fun _ =>
        (pure ⟨c.cart.insert p.UPC (p, qty)⟩ : ClientM ShoppingCart)) := by
    intro c
    exact (only_cartStore hP u _).bind fun _ => trivial
  unfold ShoppingCart.addProductQty
  by_cases h : qty = 0
  · simp only [h, if_true]
    subst h
    exact (only_deleteUPC hP u p.UPC).bind hrest
  · simp only [h, if_false]
    exact hrest u.shopping_cart

omit hP in
theorem only_onCart {method : (ShoppingCart → ClientM Unit) → ShoppingCart → ClientM ShoppingCart}
    (h : (method u.cartStore u.shopping_cart).Only P) : (onCart u method).Only P :=
  h.bind fun _ => trivial

theorem only_addQuantity (p : Product) (qty : UInt32) : (onCart u fun store cart =>
    if qty = 1 then cart.addProduct store p else cart.addProductQty store p qty).Only P := by
  apply only_onCart
  split
  · exact only_addProduct hP u p
  · exact only_addProductQty hP u p qty

theorem only_remove (UPC : SKU) : (onCart u fun store cart => cart.deleteUPC store UPC).Only P :=
  only_onCart u (only_deleteUPC hP u UPC)

theorem only_changeUPCQuantity (UPC : SKU) (qty : UInt32) : (onCart u fun store cart =>
    cart.changeUPCQuantity store (fun UPC => local_storage.getProduct UPC) UPC qty).Only P :=
  only_onCart u ((only_getProduct hP UPC).bind fun p => only_addProductQty hP u p qty)

theorem only_emptyCart : (onCart u fun store cart => cart.emptyCart store).Only P :=
  only_onCart u ((only_cartStore hP u _).bind fun _ => trivial)

omit u in
theorem only_buyCart (c : ShoppingCart) : c.buyCart.Only P := by
  unfold ShoppingCart.buyCart
  split
  · trivial
  · exact (Prog.only_perform hP.uuid_generate).bind fun _ => trivial

theorem only_changeShippingAddress (addr : ShippingAddress) :
    (u.changeShippingAddress local_storage.storeUser addr).Only P :=
  (Prog.only_perform (hP.storeUser _)).bind fun _ => trivial

theorem only_changeCreditCard (cc : PaymentInfo) :
    (u.changeCreditCard local_storage.storeUser cc).Only P :=
  (Prog.only_perform (hP.storeUser _)).bind fun _ => trivial

end Daily

/-- The calls that store no order. -/
def Call.Orderless (op : Call) : Prop := ∀ t, op ≠ .storeTransaction t

theorem daily_orderless : Call.Daily Call.Orderless := by
  constructor <;> simp [Call.Orderless]

theorem orderless_request {op : Call} (h : op.Orderless) : (request op).Only Call.Orderless :=
  Prog.only_perform h

theorem orderless_chargeItems (items : List (SKU × Product × UInt32)) :
    (Transaction.chargeItems items).Only Call.Orderless := by
  induction items with
  | nil => trivial
  | cons item rest ih =>
    obtain ⟨UPC, p, qty⟩ := item
    rw [Transaction.chargeItems]
    split
    · trivial
    · apply (orderless_request (by simp [Call.Orderless])).bind
      intro p'
      exact (orderless_request (by simp [Call.Orderless])).bind fun _ => ih

section Orderless

variable {α : Type}

/-- Such a program leaves the screen as it is. -/
theorem wp_unprinted {m : ClientM α} (h : m.Only Call.Orderless) (screen : Screen) :
    wp unprinted m screen (fun _ screen' => screen' = screen)
      (fun _ screen' => screen' = screen) := by
  induction m generalizing screen with
  | ret a => rfl
  | fail e => rfl
  | call op k ih =>
    refine ⟨fun t ht => absurd ht (h.1 t), ?_⟩
    rintro r screen' rfl
    exact ih r (h.2 r) _

end Orderless

namespace Console

section Prints

variable {α : Type} {screen : Screen}

theorem wp_orderless {m : ClientM α} {Q : α → Screen → Prop} (h : m.Only Call.Orderless)
    (hQ : ∀ a, Q a screen) : wp shown (quiet m) screen Q fun _ _ => True := by
  apply wp_quiet
  apply wp_mono (wp_unprinted h screen) _ fun _ _ _ => trivial
  rintro a _ rfl
  exact hQ a

variable [Terminal]

/-- A program that ends at a prompt whose views are shown. -/
abbrev Prints (m : ConsoleM Proc) (screen : Screen) : Prop :=
  wp shown m screen (fun p screen' => Current p screen') fun _ _ => True

variable {u : User} {order : Transaction}

theorem prints_waitAt {loc : Loc} (hviews : ∀ v ∈ loc.views u, Shown v.1 v.2 screen)
    (hclosing : loc.closing u <:+ screen) (hsettled : loc.Settled u) :
    Prints (waitAt u loc) screen := by
  have hquestion : Plain (loc.question.toList.map fun question => out question.text) :=
    plain_map _ fun _ => rfl
  have hcurrent : Current ⟨u, loc⟩
      (screen ++ loc.question.toList.map fun question => out question.text) := by
    refine ⟨fun v hv => Shows.plain (hviews v hv) hquestion, ?_, hsettled⟩
    intro question hq
    obtain ⟨before, hbefore⟩ := hclosing
    refine ⟨before, ?_⟩
    rw [hq, ← List.append_assoc, hbefore]
    rfl
  unfold Prints waitAt
  rw [wp_bind, wp_display]
  apply wp_quiet
  unfold OnlineShoppingCenter.waitAt
  cases hq : loc.question with
  | none =>
    rw [hq] at hcurrent
    exact hcurrent
  | some question =>
    rw [hq] at hcurrent
    rw [wp_bind]
    apply wp_mono (wp_unprinted (orderless_request (by simp [Call.Orderless])) _) _
      fun _ _ _ => trivial
    rintro _ _ rfl
    exact hcurrent

/-- A menu prompt, which has no lines of its own before the question. -/
theorem prints_menu {loc : Loc} (hviews : ∀ v ∈ loc.views u, Shown v.1 v.2 screen)
    (hclosing : loc.closing u = []) (hsettled : loc.Settled u) : Prints (waitAt u loc) screen := by
  apply prints_waitAt hviews
  · rw [hclosing]
    exact List.nil_suffix
  · exact hsettled

/-- The prompts of the checkout and the dialogues follow their own lines. -/
theorem prints_prompt {loc : Loc} {lines : Screen} (hviews : loc.views u = [])
    (hclosing : loc.closing u <:+ lines) (hsettled : loc.Settled u) :
    Prints (do display lines; waitAt u loc) screen := by
  rw [Prints, wp_bind, wp_display]
  apply prints_waitAt
  · intro v hv
    rw [hviews] at hv
    cases hv
  · exact List.suffix_append_of_suffix hclosing
  · exact hsettled

theorem prints_exit : Prints (exit u) screen := by
  rw [Prints, exit, wp_bind, wp_display]
  apply prints_menu
  · intro v hv
    cases hv
  · rfl
  · trivial

end Prints

end Console

end OnlineShoppingCenter
