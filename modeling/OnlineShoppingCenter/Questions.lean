import OnlineShoppingCenter.SampleData
import OnlineShoppingCenter.SequentialRules

/-!
# Questions and the lines that answer them

A step reads one line, so questions and answers stay in step when every step
prints one question. All do but those that confirm an address or a card just
entered in the checkout, which print two.
-/
namespace OnlineShoppingCenter

open TextCodec EffectProgram

variable [Platform]

def Call.asked : Call → Nat
  | .ask _ => 1
  | _ => 0

/-- The number of questions printed. -/
def questions (l : Journal) : Nat := (l.map Call.asked).sum

/-- A new address or card is confirmed in the checkout: the step goes on to a
question about keeping it, and reads no answer to that. -/
def Proc.Confirms (p : Proc) (line : Text) : Prop :=
  match p.loc with
  | .orderAddr _ (.correct _) | .orderPay _ (.correct _) => saysNo line = false
  | _ => False

def User.onFile (u : User) : ShippingAddress × PaymentInfo := (u.shipping_address, u.payment_info)

def Call.stores : Call → Prop
  | .ask _ | .storeUser _ => True
  | _ => False

/-- Calls answer anything, except that questions and stores of a user return. -/
def counting : Contract clientSig Exn Nat where
  pre _ _ := True
  post n op r n' := n' = n + op.asked ∧ (op.stores → ∃ a, r = .ok a)

theorem implements_counting :
    Implements sys.logged counting fun s n => questions s.2 = n := by
  rintro op ⟨w, l⟩ n rfl -
  refine ⟨questions l + op.asked, ⟨rfl, ?_⟩, ?_⟩
  · intro hop
    cases op with
    | ask question => exact ⟨(), rfl⟩
    | storeUser u =>
      have h : wp db.exact (StorageSystem.storeUser u) w (fun _ _ => True) fun _ _ => False :=
        StorageSystem.wp_storeUser.mpr trivial
      rw [wp_exact] at h
      change ∃ a, (run db (StorageSystem.storeUser u) w).1 = .ok a
      cases hr : (run db (StorageSystem.storeUser u) w).1 with
      | ok a => exact ⟨a, rfl⟩
      | error e =>
        rw [hr] at h
        exact h.elim
    | getUser | getProducts | getProduct | setQuantity | storeProduct | storeTransaction
    | uuid_generate | gmtime | showOrder => exact hop.elim
  · simp [questions, Handler.logged]

section Counting

variable {n k : Nat} {u : User} {f : ShippingAddress × PaymentInfo} {E : Exn → Nat → Prop}

theorem wp_counted {op : Call} {Q : op.Ret → Nat → Prop} (hok : ∀ a, Q a (n + op.asked))
    (herr : ∀ e, ¬ op.stores → E e (n + op.asked)) : wp counting (request op) n Q E := by
  refine wp_perform.mpr ⟨trivial, ?_, ?_⟩
  · rintro a n' ⟨rfl, -⟩
    exact hok a
  · rintro e n' ⟨rfl, hreturns⟩
    apply herr
    intro hop
    obtain ⟨a, ha⟩ := hreturns hop
    cases ha

/-- A program that prints `k` questions and ends at a prompt. -/
abbrev Asks (E : Exn → Nat → Prop) (m : ClientM Proc) (n k : Nat)
    (f : ShippingAddress × PaymentInfo) : Prop :=
  wp counting m n (fun p n' => n' = n + k ∧ p.loc ≠ .exited ∧ p.logged_in.onFile = f) E

/-- A program that prints nothing and leaves the user's file alone. -/
abbrev Quiet (m : ClientM User) (n : Nat) (f : ShippingAddress × PaymentInfo) : Prop :=
  wp counting m n (fun u n' => n' = n ∧ u.onFile = f) fun _ _ => True

theorem question_of_ne {loc : Loc} (h : loc ≠ .exited) : ∃ question, loc.question = some question := by
  cases loc with
  | exited => exact absurd rfl h
  | mainshell | cartshell | useAddress | orderAddr | usePayment | orderPay | placeOrder | accshell
  | accountAddr | accountPay | tshell => exact ⟨_, rfl⟩

theorem asks_waitAt {loc : Loc} (h : loc ≠ .exited) : Asks E (waitAt u loc) n 1 u.onFile := by
  obtain ⟨question, hquestion⟩ := question_of_ne h
  unfold waitAt
  rw [hquestion]
  apply wp_bind.mpr
  exact wp_counted (fun _ => ⟨rfl, h, rfl⟩) fun _ hop => absurd trivial hop

theorem asks_of_quiet {m : ClientM User} {next : User → ClientM Proc} (hm : Quiet m n f)
    (hnext : ∀ u', u'.onFile = f → Asks (fun _ _ => True) (next u') n k f) :
    Asks (fun _ _ => True) (m >>= next) n k f := by
  apply wp_bind.mpr
  apply wp_mono hm
  · rintro u' n' ⟨rfl, hu'⟩
    exact hnext u' hu'
  · exact fun _ _ _ => trivial

theorem asks_mainshell : Asks E (mainshell u) n 1 u.onFile := asks_waitAt (by simp)

theorem asks_listInventory (prodlist : List SKU) {next : ClientM Proc}
    (h : Asks (fun _ _ => True) next n k f) :
    Asks (fun _ _ => True) (listInventory prodlist >>= fun _ => next) n k f := by
  induction prodlist with
  | nil => exact h
  | cons upc prodlist ih =>
    rw [listInventory, bind_assoc]
    apply wp_bind.mpr
    exact wp_counted (fun _ => ih) fun _ _ => trivial

theorem asks_mainbby : Asks (fun _ _ => True) (mainbby u) n 1 u.onFile := by
  apply wp_bind.mpr
  exact wp_counted (fun prodlist => asks_listInventory prodlist asks_mainshell) fun _ _ => trivial

theorem asks_cartshell {invalid_qty : Bool} : Asks E (cartshell u invalid_qty) n 1 u.onFile :=
  asks_waitAt (by simp)

theorem asks_cartview : Asks E (cartview u) n 1 u.onFile := asks_cartshell

theorem asks_accshell : Asks E (accshell u) n 1 u.onFile := asks_waitAt (by simp)

theorem asks_tshell : Asks E (tshell u) n 1 u.onFile := asks_waitAt (by simp)

theorem quiet_cartStore {c : ShoppingCart} {next : ClientM ShoppingCart} {Q : ShoppingCart → Nat → Prop}
    (h : wp counting next n Q fun _ _ => True) :
    wp counting (u.cartStore c >>= fun _ => next) n Q fun _ _ => True := by
  apply wp_bind.mpr
  exact wp_counted (fun _ => h) fun _ _ => trivial

theorem quiet_onCart {method : (ShoppingCart → ClientM Unit) → ShoppingCart → ClientM ShoppingCart}
    (h : wp counting (method u.cartStore u.shopping_cart) n (fun _ n' => n' = n) fun _ _ => True) :
    Quiet (onCart u method) n u.onFile := by
  apply wp_bind.mpr
  apply wp_mono h
  · rintro c n' rfl
    exact ⟨rfl, rfl⟩
  · exact fun _ _ _ => trivial

theorem quiet_addProductQty (c : ShoppingCart) (p : Product) (qty : UInt32) :
    wp counting (c.addProductQty u.cartStore p qty) n (fun _ n' => n' = n) fun _ _ => True := by
  by_cases hz : qty = 0
  · subst hz
    rw [ShoppingCart.addProductQty_zero]
    exact quiet_cartStore (quiet_cartStore rfl)
  · rw [ShoppingCart.addProductQty_pos hz]
    exact quiet_cartStore rfl

theorem quiet_addProduct (c : ShoppingCart) (p : Product) :
    wp counting (c.addProduct u.cartStore p) n (fun _ n' => n' = n) fun _ _ => True := by
  cases hc : c.checkCart p.UPC with
  | true =>
    rw [ShoppingCart.addProduct_old hc]
    rfl
  | false =>
    rw [ShoppingCart.addProduct_new hc]
    exact quiet_cartStore rfl

theorem asks_addtocart (args : List Text) :
    Asks (fun _ _ => True) (addtocart u args) n 1 u.onFile := by
  cases args with
  | nil => exact asks_mainshell
  | cons upc_s rest =>
    have hmain : ∀ u' : User, u'.onFile = u.onFile →
        Asks (fun _ _ => True) (mainshell u') n 1 u.onFile := by
      intro u' hu'
      rw [← hu']
      exact asks_mainshell
    apply wp_bind.mpr
    apply wp_attempt.mpr
    apply wp_bind.mpr
    apply wp_ofExcept.mpr
    constructor
    · intro UPC _
      apply wp_counted
      · intro prod
        cases rest with
        | nil => exact asks_of_quiet (quiet_onCart (quiet_addProduct _ _)) hmain
        | cons qty_s rest =>
          dsimp only
          split
          · exact asks_mainshell
          · trivial
          · apply asks_of_quiet (quiet_onCart ?_) hmain
            split
            · exact quiet_addProduct _ _
            · exact quiet_addProductQty _ _ _
      · intro e _
        cases e with
        | system_error | invalid_argument => exact asks_mainbby
        | out_of_range | runtime_error | undefined => trivial
    · intro e _
      cases e with
      | system_error | invalid_argument => exact asks_mainbby
      | out_of_range | runtime_error | undefined => trivial

theorem asks_remove {invalid_qty : Bool} (args : List Text) :
    Asks (fun _ _ => True) (remove u invalid_qty args) n 1 u.onFile := by
  cases args with
  | nil => exact asks_cartshell
  | cons upc_s rest =>
    rw [remove]
    split
    · exact asks_cartshell
    split
    · exact asks_cartview
    · trivial
    split
    · exact asks_cartview
    · apply asks_of_quiet
      · exact quiet_onCart (quiet_cartStore rfl)
      · intro u' hu'
        rw [← hu']
        exact asks_cartview

theorem asks_changeqty {invalid_qty : Bool} (args : List Text) :
    Asks (fun _ _ => True) (changeqty u invalid_qty args) n 1 u.onFile := by
  match args with
  | [] => exact asks_cartshell
  | [_] => exact asks_cartshell
  | upc_s :: qty_s :: rest =>
    rw [changeqty]
    split
    · exact asks_cartshell
    split
    · exact asks_cartview
    · trivial
    split
    · exact asks_cartshell
    · trivial
    split
    · exact asks_cartview
    · apply asks_of_quiet (quiet_onCart ?_)
      · intro u' hu'
        rw [← hu']
        exact asks_cartview
      · apply wp_bind.mpr
        exact wp_counted (fun p => quiet_addProductQty _ p _) fun _ _ => trivial

theorem asks_clear {invalid_qty : Bool} :
    Asks (fun _ _ => True) (clear u invalid_qty) n 1 u.onFile := by
  unfold clear
  split
  · exact asks_cartshell
  · apply asks_of_quiet
    · exact quiet_onCart (quiet_cartStore rfl)
    · intro u' hu'
      rw [← hu']
      exact asks_mainbby

section Checkout

variable {order : Transaction}

theorem asks_orderNewPay : Asks E (orderNewPay u order) n 1 u.onFile := by
  unfold orderNewPay
  split
  · exact asks_waitAt (by simp)
  · exact asks_waitAt (by simp)

theorem asks_ordercc : Asks E (ordercc u order) n 1 u.onFile := by
  unfold ordercc
  split
  · exact asks_waitAt (by simp)
  · exact asks_orderNewPay

theorem asks_orderNewAddr : Asks E (orderNewAddr u order (ordercc u order)) n 1 u.onFile := by
  unfold orderNewAddr
  split
  · exact asks_ordercc
  · exact asks_waitAt (by simp)

theorem asks_orderaddr : Asks E (orderaddr u order) n 1 u.onFile := by
  unfold orderaddr
  split
  · exact asks_waitAt (by simp)
  · exact asks_orderNewAddr

theorem asks_checkout {invalid_qty : Bool} :
    Asks (fun _ _ => True) (checkout u invalid_qty) n 1 u.onFile := by
  unfold checkout
  split
  · exact asks_cartshell
  split
  · exact asks_cartview
  · unfold ShoppingCart.buyCart
    split
    · trivial
    · apply wp_bind.mpr
      apply wp_bind.mpr
      exact wp_counted (fun _ => asks_orderaddr) fun _ _ => trivial

theorem quiet_chargeItems (items : List (SKU × Product × UInt32)) {next : ClientM User}
    (h : Quiet next n f) : Quiet (Transaction.chargeItems items >>= fun _ => next) n f := by
  induction items with
  | nil => exact h
  | cons item rest ih =>
    obtain ⟨UPC, p, qty⟩ := item
    rw [Transaction.chargeItems]
    split
    · trivial
    · rw [bind_assoc]
      apply wp_bind.mpr
      apply wp_counted
      · intro p'
        rw [bind_assoc]
        apply wp_bind.mpr
        exact wp_counted (fun _ => ih) fun _ _ => trivial
      · exact fun _ _ => trivial

theorem quiet_chargeCreditCard : Quiet (order.chargeCreditCard u) n u.onFile := by
  apply wp_bind.mpr
  apply wp_counted
  · intro date
    apply quiet_chargeItems
    apply wp_bind.mpr
    apply wp_counted
    · intro _
      apply wp_bind.mpr
      exact wp_counted (fun _ => ⟨rfl, rfl⟩) fun _ _ => trivial
    · exact fun _ _ => trivial
  · exact fun _ _ => trivial

theorem asks_confirmOrder {line : Text} :
    Asks (fun _ _ => True) (confirmOrder u order line) n 1 u.onFile := by
  unfold confirmOrder
  split
  · apply asks_of_quiet quiet_chargeCreditCard
    intro u' hu'
    rw [← hu']
    exact asks_mainbby
  · exact asks_cartview

/-- Confirming a new address prints the question about keeping it as well. -/
theorem asks_confirmAddr {addr : ShippingAddress} {line : Text} (h : saysNo line = false) :
    Asks E (orderAddr u order (.correct addr) line) n 2 (addr, u.payment_info) := by
  rw [orderAddr, orderAddrStep, if_neg (by simp [h]), Prog.ofExcept_ok, Prog.ret_bind]
  apply wp_bind.mpr
  apply wp_counted
  · intro _
    rw [h]
    apply wp_bind.mpr
    apply wp_bind.mpr
    exact wp_counted (fun _ => asks_ordercc) fun _ hop => absurd trivial hop
  · exact fun _ hop => absurd trivial hop

theorem asks_confirmPay {cc : PaymentInfo} {line : Text} (h : saysNo line = false) :
    Asks E (orderPay u order (.correct cc) line) n 2 (u.shipping_address, cc) := by
  rw [orderPay, orderPayStep, if_neg (by simp [h]), Prog.ofExcept_ok, Prog.ret_bind]
  apply wp_bind.mpr
  apply wp_counted
  · intro _
    rw [h]
    apply wp_bind.mpr
    apply wp_bind.mpr
    exact wp_counted (fun _ => asks_waitAt (by simp)) fun _ hop => absurd trivial hop
  · exact fun _ hop => absurd trivial hop

theorem asks_orderAddr {prompt : AddrPrompt} {line : Text}
    (h : ∀ addr, prompt = .correct addr → saysNo line = true) :
    Asks (fun _ _ => True) (orderAddr u order prompt line) n 1 u.onFile := by
  apply wp_bind.mpr
  apply wp_ofExcept.mpr
  constructor
  · intro a ha
    cases a with
    | next prompt => exact asks_waitAt (by simp)
    | reject => exact asks_orderaddr
    | decline => exact asks_orderaddr
    | accept addr =>
      by_cases hp : ∃ addr, prompt = .correct addr
      · obtain ⟨addr, rfl⟩ := hp
        rw [orderAddrStep, if_pos (h addr rfl)] at ha
        cases ha
      · exact (orderAddrStep_open (fun addr heq => hp ⟨addr, heq⟩) ha).elim
  · exact fun _ _ => trivial

theorem asks_orderPay {prompt : PayPrompt} {line : Text}
    (h : ∀ cc, prompt = .correct cc → saysNo line = true) :
    Asks (fun _ _ => True) (orderPay u order prompt line) n 1 u.onFile := by
  apply wp_bind.mpr
  apply wp_ofExcept.mpr
  constructor
  · intro a ha
    cases a with
    | next prompt => exact asks_waitAt (by simp)
    | reject => exact asks_ordercc
    | decline => exact asks_orderaddr
    | accept cc =>
      by_cases hp : ∃ cc, prompt = .correct cc
      · obtain ⟨cc, rfl⟩ := hp
        rw [orderPayStep, if_pos (h cc rfl)] at ha
        cases ha
      · exact (orderPayStep_open (fun cc heq => hp ⟨cc, heq⟩) ha).elim
  · exact fun _ _ => trivial

end Checkout

/-- A program that prints one question and ends at a prompt. -/
abbrev AsksOne (m : ClientM Proc) (n : Nat) : Prop :=
  wp counting m n (fun p n' => n' = n + 1 ∧ p.loc ≠ .exited) fun _ _ => True

theorem asksOne_of_asks {m : ClientM Proc} (h : Asks (fun _ _ => True) m n 1 f) : AsksOne m n :=
  wp_mono h (fun _ _ h => ⟨h.1, h.2.1⟩) fun _ _ _ => trivial

theorem asksOne_accountAddr {prompt : AddrPrompt} {line : Text} :
    AsksOne (accountAddr u prompt line) n := by
  apply wp_bind.mpr
  apply wp_ofExcept.mpr
  constructor
  · intro a _
    cases a with
    | next prompt => exact asksOne_of_asks (asks_waitAt (by simp))
    | reject => exact asksOne_of_asks asks_accshell
    | decline => exact asksOne_of_asks asks_accshell
    | accept addr =>
      apply wp_bind.mpr
      apply wp_bind.mpr
      exact wp_counted (fun _ => asksOne_of_asks asks_accshell) fun _ _ => trivial
  · exact fun _ _ => trivial

theorem asksOne_accountPay {prompt : PayPrompt} {line : Text} :
    AsksOne (accountPay u prompt line) n := by
  apply wp_bind.mpr
  apply wp_ofExcept.mpr
  constructor
  · intro a _
    cases a with
    | next prompt => exact asksOne_of_asks (asks_waitAt (by simp))
    | reject => exact asksOne_of_asks asks_accshell
    | decline => exact asksOne_of_asks asks_accshell
    | accept cc =>
      apply wp_bind.mpr
      apply wp_bind.mpr
      exact wp_counted (fun _ => asksOne_of_asks asks_accshell) fun _ _ => trivial
  · exact fun _ _ => trivial

/-- A step that only exits, or one that prints one question and waits. -/
abbrev StepAsks (u : User) (m : ClientM Proc) (n : Nat) : Prop :=
  m = .ret ⟨u, .exited⟩ ∨ AsksOne m n

theorem stepAsks_of_asks {m : ClientM Proc} (h : Asks (fun _ _ => True) m n 1 f) :
    StepAsks u m n := .inr (asksOne_of_asks h)

theorem stepAsks_exit : StepAsks u (exit u) n := .inl rfl

theorem stepAsks_mainCommand (args : List Text) : StepAsks u (mainCommand u args) n := by
  cases args with
  | nil => exact stepAsks_of_asks asks_mainshell
  | cons cmd args =>
    rw [mainCommand]
    split
    · exact stepAsks_exit
    split
    · exact stepAsks_of_asks (asks_addtocart args)
    split
    · exact stepAsks_of_asks asks_cartview
    split
    · exact stepAsks_of_asks asks_accshell
    · exact stepAsks_of_asks asks_mainshell

theorem stepAsks_cartCommand {invalid_qty : Bool} (args : List Text) :
    StepAsks u (cartCommand u invalid_qty args) n := by
  cases args with
  | nil => exact stepAsks_of_asks asks_cartshell
  | cons cmd args =>
    rw [cartCommand]
    split
    · exact stepAsks_exit
    split
    · exact stepAsks_of_asks asks_mainbby
    split
    · exact stepAsks_of_asks (asks_remove args)
    split
    · exact stepAsks_of_asks (asks_changeqty args)
    split
    · exact stepAsks_of_asks asks_clear
    split
    · exact stepAsks_of_asks asks_checkout
    · exact stepAsks_of_asks asks_cartshell

theorem stepAsks_accountCommand (args : List Text) : StepAsks u (accountCommand u args) n := by
  cases args with
  | nil => exact stepAsks_of_asks asks_accshell
  | cons cmd args =>
    rw [accountCommand]
    split
    · exact stepAsks_exit
    split
    · exact stepAsks_of_asks asks_mainbby
    split
    · exact stepAsks_of_asks (asks_waitAt (by simp))
    split
    · exact stepAsks_of_asks (asks_waitAt (by simp))
    split
    · split
      · exact stepAsks_of_asks asks_accshell
      · exact stepAsks_of_asks asks_tshell
    · exact stepAsks_of_asks asks_accshell

theorem stepAsks_orders (args : List Text) : StepAsks u (orders u args) n := by
  cases args with
  | nil => exact stepAsks_of_asks asks_tshell
  | cons cmd args =>
    rw [orders]
    split
    · exact stepAsks_exit
    split
    · exact stepAsks_of_asks asks_accshell
    split
    · exact stepAsks_of_asks asks_tshell
    · exact .inr trivial
    split
    · exact stepAsks_of_asks asks_tshell
    · apply Or.inr
      apply wp_bind.mpr
      exact wp_counted (fun _ => asksOne_of_asks asks_tshell) fun _ _ => trivial

def Loc.inCheckout : Loc → Bool
  | .useAddress _ | .orderAddr .. | .usePayment _ | .orderPay .. | .placeOrder _ => true
  | _ => false

/-- In the checkout only a confirmation prints two questions or replaces what
is on file. -/
theorem asks_checkoutStep {p : Proc} {line : Text} (hloc : p.loc.inCheckout = true)
    (hconfirm : ¬ p.Confirms line) :
    Asks (fun _ _ => True) (p.step line) n 1 p.logged_in.onFile := by
  obtain ⟨u, loc⟩ := p
  cases loc with
  | useAddress order => exact asks_orderNewAddr
  | orderAddr order prompt =>
    apply asks_orderAddr
    rintro addr rfl
    exact (Bool.not_eq_false _).mp hconfirm
  | usePayment order => exact asks_orderNewPay
  | orderPay order prompt =>
    apply asks_orderPay
    rintro cc rfl
    exact (Bool.not_eq_false _).mp hconfirm
  | placeOrder order => exact asks_confirmOrder
  | mainshell | cartshell | accshell | accountAddr | accountPay | tshell | exited => cases hloc

theorem stepAsks_step {p : Proc} {line : Text} (hconfirm : ¬ p.Confirms line) :
    StepAsks p.logged_in (p.step line) n := by
  cases hloc : p.loc.inCheckout with
  | true => exact stepAsks_of_asks (asks_checkoutStep hloc hconfirm)
  | false =>
    obtain ⟨u, loc⟩ := p
    cases loc with
    | mainshell => exact stepAsks_mainCommand _
    | cartshell invalid_qty => exact stepAsks_cartCommand _
    | accshell => exact stepAsks_accountCommand _
    | accountAddr prompt => exact .inr asksOne_accountAddr
    | accountPay prompt => exact .inr asksOne_accountPay
    | tshell => exact stepAsks_orders _
    | exited => exact stepAsks_exit
    | useAddress | orderAddr | usePayment | orderPay | placeOrder => cases hloc

/-- A confirmation never fails and always prints two. -/
theorem asks_confirms {p : Proc} {line : Text} (h : p.Confirms line) :
    ∃ f, Asks (fun _ _ => False) (p.step line) n 2 f := by
  obtain ⟨u, loc⟩ := p
  unfold Proc.Confirms at h
  split at h
  · rename_i order addr hloc
    cases hloc
    exact ⟨_, asks_confirmAddr h⟩
  · rename_i order cc hloc
    cases hloc
    exact ⟨_, asks_confirmPay h⟩
  · exact h.elim

theorem asks_login (username : Text) : wp counting (login username) n
    (fun p n' => p.loc ≠ .exited → n' = n + 1) fun _ _ => True := by
  apply wp_bind.mpr
  apply wp_attempt.mpr
  apply wp_counted
  · intro u
    exact wp_mono asks_mainbby (fun _ _ h _ => h.1) fun _ _ => id
  · intro e _
    cases e with
    | system_error => exact fun h => absurd rfl h
    | invalid_argument | out_of_range | runtime_error | undefined => trivial

end Counting

section Runs

variable {w : World} {username line : Text} {front lines : List Text}

/-- A run with one line more. -/
theorem run_session_snoc {r : Trail × Proc} {s : World × Journal} :
    run sys.logged (session username (front ++ [line])) (w, []) = (.ok r, s) ↔
      ∃ r₀ s₀ p, run sys.logged (session username front) (w, []) = (.ok r₀, s₀) ∧
        run sys.logged (r₀.2.step line) s₀ = (.ok p, s) ∧ r = (r₀.1 ++ [(r₀.2, line)], p) := by
  simp only [session_append, Proc.play, bind_assoc, pure_bind, run_bind_eq_ok]
  constructor
  · rintro ⟨r₀, s₀, h₀, p, s', hp, h⟩
    cases h
    exact ⟨r₀, s₀, p, h₀, hp, rfl⟩
  · rintro ⟨r₀, s₀, p, h₀, hp, rfl⟩
    exact ⟨r₀, s₀, h₀, p, s, hp, rfl⟩

/-- However many lines have been read, one question more has been printed. -/
def InStep (w : World) (username : Text) (lines : List Text) : Prop :=
  ∀ front back, lines = front ++ back → ∀ r s,
    run sys.logged (session username front) (w, []) = (.ok r, s) → r.2.loc ≠ .exited →
      questions s.2 = front.length + 1

/-- During the checkout what is on file is replaced only by a line that answers
the question about keeping it, and does not say no. -/
def SavedOnConsent (w : World) (username : Text) (lines : List Text) : Prop :=
  ∀ front line back, lines = front ++ line :: back → ∀ r s p s',
    run sys.logged (session username front) (w, []) = (.ok r, s) → r.2.loc.inCheckout = true →
      run sys.logged (r.2.step line) s = (.ok p, s') →
        (p.logged_in.shipping_address ≠ r.2.logged_in.shipping_address →
          r.2.loc.question = some .keepAddress ∧ saysNo line = false) ∧
        (p.logged_in.payment_info ≠ r.2.logged_in.payment_info →
          r.2.loc.question = some .keepPayment ∧ saysNo line = false)

/-- No line confirms a new address or card in the checkout. -/
def NeverConfirms (w : World) (username : Text) (lines : List Text) : Prop :=
  ∀ front line back, lines = front ++ line :: back → ∀ r s,
    run sys.logged (session username front) (w, []) = (.ok r, s) → ¬ r.2.Confirms line

theorem questions_login {r : Trail × Proc} {s : World × Journal}
    (hrun : run sys.logged (session username []) (w, []) = (.ok r, s)) (hloc : r.2.loc ≠ .exited) :
    questions s.2 = 1 := by
  obtain ⟨p, s₀, hp, h⟩ := run_bind_eq_ok.mp hrun
  cases h
  have hstart : questions ((w, []) : World × Journal).2 = 0 := rfl
  obtain ⟨n', rfl, hend⟩ := wp_run implements_counting hstart (asks_login username)
  rw [hp] at hend
  simpa using hend hloc

theorem questions_step {p p' : Proc} {s s' : World × Journal} (hconfirm : ¬ p.Confirms line)
    (hrun : run sys.logged (p.step line) s = (.ok p', s')) :
    (p' = ⟨p.logged_in, .exited⟩ ∧ s' = s) ∨
      (p'.loc ≠ .exited ∧ questions s'.2 = questions s.2 + 1) := by
  rcases stepAsks_step (n := questions s.2) hconfirm with hexit | hasks
  · rw [hexit] at hrun
    cases hrun
    exact .inl ⟨rfl, rfl⟩
  · obtain ⟨n', rfl, hend⟩ := wp_run implements_counting (w := s) rfl hasks
    rw [hrun] at hend
    exact .inr ⟨hend.2, hend.1⟩

/-- Confirming goes on, two questions later. -/
theorem run_confirms {p : Proc} (h : p.Confirms line) (s : World × Journal) :
    ∃ p' s', run sys.logged (p.step line) s = (.ok p', s') ∧ p'.loc ≠ .exited ∧
      questions s'.2 = questions s.2 + 2 := by
  obtain ⟨f, hasks⟩ := asks_confirms (n := questions s.2) h
  obtain ⟨n', hn', hend⟩ := wp_run implements_counting (w := s) rfl hasks
  cases hr : run sys.logged (p.step line) s with
  | mk r s' =>
    rw [hr] at hn' hend
    cases r with
    | error e => exact hend.elim
    | ok p' => exact ⟨p', s', rfl, hend.2.1, hn'.trans hend.1⟩

/-- A step that ends the session does nothing else. -/
theorem run_step_exited {p p' : Proc} {s s' : World × Journal}
    (hrun : run sys.logged (p.step line) s = (.ok p', s')) (hloc : p'.loc = .exited) :
    p'.logged_in = p.logged_in ∧ s' = s := by
  by_cases hconfirm : p.Confirms line
  · obtain ⟨q, t, hq, hopen, -⟩ := run_confirms hconfirm s
    rw [hrun] at hq
    cases hq
    exact absurd hloc hopen
  · rcases questions_step hconfirm hrun with ⟨rfl, rfl⟩ | ⟨hopen, -⟩
    · exact ⟨rfl, rfl⟩
    · exact absurd hloc hopen

theorem Proc.Confirms.ne_exited {p : Proc} (h : p.Confirms line) : p.loc ≠ .exited := by
  intro hloc
  unfold Proc.Confirms at h
  rw [hloc] at h
  exact h

theorem step_of_exited {p : Proc} (h : p.loc = .exited) (line : Text) : p.step line = .ret p := by
  unfold Proc.step
  rw [h]
  rfl

theorem NeverConfirms.inStep (h : NeverConfirms w username lines) : InStep w username lines := by
  intro front back hlines
  induction front using List.reverseRecOn generalizing back with
  | nil => exact fun r s hrun hloc => questions_login hrun hloc
  | append_singleton front line ih =>
    intro r s hrun hloc
    have hsplit : lines = front ++ line :: back := by simp [hlines]
    obtain ⟨r₀, s₀, p, h₀, hp, rfl⟩ := run_session_snoc.mp hrun
    have hloc₀ : r₀.2.loc ≠ .exited := by
      intro hexited
      rw [step_of_exited hexited] at hp
      cases hp
      exact hloc hexited
    have hcount := ih (line :: back) hsplit r₀ s₀ h₀ hloc₀
    rcases questions_step (h front line back hsplit r₀ s₀ h₀) hp with ⟨hexit, -⟩ | ⟨-, hnext⟩
    · rw [hexit] at hloc
      exact absurd rfl hloc
    · rw [hnext, hcount, List.length_append]
      rfl

theorem NeverConfirms.savedOnConsent (h : NeverConfirms w username lines) :
    SavedOnConsent w username lines := by
  intro front line back hlines r s p s' hrun hloc hstep
  obtain ⟨n', -, hend⟩ := wp_run implements_counting (w := s) rfl
    (asks_checkoutStep (n := questions s.2) hloc (h front line back hlines r s hrun))
  rw [hstep] at hend
  have hfile : p.logged_in.onFile = r.2.logged_in.onFile := hend.2.2
  exact ⟨fun hne => absurd (congrArg Prod.fst hfile) hne,
    fun hne => absurd (congrArg Prod.snd hfile) hne⟩

theorem InStep.neverConfirms (h : InStep w username lines) : NeverConfirms w username lines := by
  intro front line back hlines r s hrun hconfirm
  obtain ⟨p, s', hp, hloc, hquestions⟩ := run_confirms hconfirm s
  have hbefore := h front (line :: back) hlines r s hrun hconfirm.ne_exited
  have hafter := h (front ++ [line]) back (by simp [hlines]) _ s'
    (run_session_snoc.mpr ⟨r, s, p, hrun, hp, rfl⟩) hloc
  rw [List.length_append, List.length_singleton] at hafter
  omega

/-- Questions and answers stay in step, and saving needs consent, exactly in the
runs that confirm no new address or card in the checkout. -/
theorem inStep_iff_neverConfirms (w : World) (username : Text) (lines : List Text) :
    InStep w username lines ∧ SavedOnConsent w username lines ↔
      NeverConfirms w username lines :=
  ⟨fun h => h.1.neverConfirms, fun h => ⟨h.inStep, h.savedOnConsent⟩⟩

end Runs

end OnlineShoppingCenter

namespace OnlineShoppingCenter

open TextCodec EffectProgram

attribute [local instance] posix

/-- An order to a new address, up to the question whether the address is correct. -/
def newAddressLines : List Text :=
  ["addtocart 653569401025".toList, "cart".toList, "checkout".toList, "Jane Roe".toList,
    "".toList, "1 Main St".toList, "".toList, "Starkville".toList, "MS".toList, "39759".toList,
    "USA".toList]

/-- A yes to the twelfth question prints two more, and puts the address on file. -/
theorem kept_address_unasked :
    ¬ InStep sampleWorld "testuser003".toList (newAddressLines ++ ["y".toList]) ∧
      ¬ SavedOnConsent sampleWorld "testuser003".toList (newAddressLines ++ ["y".toList]) := by
  have hbefore : ((run sys.logged (session "testuser003".toList newAddressLines)
      (sampleWorld, [])).1.toOption.any fun r =>
        r.2.loc.question = some .isCorrect && r.2.loc.inCheckout &&
          r.2.logged_in.shipping_address.street.isEmpty) = true := by
    decide +kernel
  have hafter : ((run sys.logged (session "testuser003".toList (newAddressLines ++ ["y".toList]))
      (sampleWorld, [])).1.toOption.any fun r =>
        r.2.loc.question = some .shell && !r.2.logged_in.shipping_address.street.isEmpty) = true := by
    decide +kernel
  have hcount : questions (run sys.logged
      (session "testuser003".toList (newAddressLines ++ ["y".toList])) (sampleWorld, [])).2.2 =
        14 := by
    decide +kernel
  obtain ⟨r, hr, hasked⟩ := ok_of_any hafter
  simp only [Bool.and_eq_true, decide_eq_true_eq, Bool.not_eq_true'] at hasked
  generalize hrun : run sys.logged
    (session "testuser003".toList (newAddressLines ++ ["y".toList])) (sampleWorld, []) = out
    at hr hcount
  obtain ⟨x, s⟩ := out
  cases hr
  constructor
  · intro hstep
    have hloc : r.2.loc ≠ .exited := by
      intro hloc
      rw [hloc] at hasked
      cases hasked.1
    have h13 := hstep _ [] (List.append_nil _).symm r s hrun hloc
    rw [hcount] at h13
    cases h13
  · intro hsaved
    obtain ⟨r₀, hr₀, hfront⟩ := ok_of_any hbefore
    simp only [Bool.and_eq_true, decide_eq_true_eq] at hfront
    obtain ⟨r₁, s₁, p, h₁, hp, rfl⟩ := run_session_snoc.mp hrun
    rw [h₁] at hr₀
    cases hr₀
    have hnew : p.logged_in.shipping_address ≠ r₀.2.logged_in.shipping_address := by
      intro heq
      rw [heq, hfront.2] at hasked
      cases hasked.2
    have hkeep := (hsaved newAddressLines "y".toList [] rfl r₀ s₁ p s h₁ hfront.1.2 hp).1 hnew
    rw [hfront.1.1] at hkeep
    cases hkeep.1

end OnlineShoppingCenter
