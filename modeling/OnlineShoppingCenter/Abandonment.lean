import OnlineShoppingCenter.Accounts
import OnlineShoppingCenter.CardDialogue
import OnlineShoppingCenter.Checkout

/-!
# Dialogues that are abandoned

A dialogue of the account menu writes nothing before its answer to "Is this
correct" is a yes. A checkout may store the user on the way, for an address or
a card that is kept on file; the stored order list stays the one in memory, and
products and orders are not written before "Place order" is answered.
-/
namespace OnlineShoppingCenter

open TextCodec ColumnFamilies EffectProgram StorageSystem

variable [Platform]

inductive Dialogue where
  | account
  | checkout
  deriving DecidableEq

/-- The dialogue a prompt belongs to. -/
def Loc.dialogue : Loc → Option Dialogue
  | .accountAddr _ | .accountPay _ => some .account
  | .useAddress _ | .orderAddr .. | .usePayment _ | .orderPay .. | .placeOrder _ => some .checkout
  | .mainshell | .cartshell _ | .accshell | .tshell | .exited => none

/-- The answer that ends a dialogue with what it is for. -/
def Proc.confirms (p : Proc) (line : Text) : Bool :=
  match p.loc with
  | .accountAddr (.correct _) | .accountPay (.correct _) | .placeOrder _ => !saysNo line
  | _ => false

/-- A command line that opens a dialogue. -/
def Proc.Opens (p : Proc) (line : Text) : Dialogue → Prop
  | .account => p.loc = .accshell ∧
    ((split line ' ').head? = some "addr".toList ∨ (split line ' ').head? = some "pay".toList)
  | .checkout => (∃ invalid_qty, p.loc = .cartshell invalid_qty) ∧
    (split line ' ').head? = some "checkout".toList

/-- Every answer is given inside the dialogue and none confirms. -/
def abandons (d : Dialogue) : Proc → World → List Text → Bool
  | _, _, [] => true
  | p, w, line :: lines =>
    (p.loc.dialogue = some d) && !p.confirms line &&
      match run sys (p.step line) w with
      | (.ok next, w') => abandons d next w' lines
      | (.error _, _) => true

def storedOrders (w : World) (username : Text) : Option Text :=
  w.users[username]?.bind fun e => e .orders

/-- What an abandoned dialogue leaves, however the session ends. -/
def NoTrace (p : Proc) (w : World) (result : Except Exn (Trail × Proc)) (w' : World) :
    Dialogue → Prop
  | .account => w' = w ∧ ∀ r, result = .ok r → r.2.logged_in = p.logged_in
  | .checkout => w'.products = w.products ∧ w'.orders = w.orders ∧
    storedOrders w' p.logged_in.user_name = storedOrders w p.logged_in.user_name ∧
      ∀ r, result = .ok r →
        r.2.logged_in.transaction_history = p.logged_in.transaction_history ∧
          r.2.logged_in.shopping_cart = p.logged_in.shopping_cart

/-- The stored order list is the one in memory. -/
def HistoryStored (w : World) (u : User) : Prop :=
  storedOrders w u.user_name = some (ordersText u.transaction_history)

theorem historyStored_putUser (w : World) (u : User) : HistoryStored (w.putUser u) u := by
  unfold HistoryStored storedOrders World.putUser
  rw [Database.getElem?_put_self, overlay_userBatch]
  rfl

def historySpec : SequentialSpec where
  holds g u _ := HistoryStored g.1 u
  charging _ _ t _ := t.is_finalized = true
  rest _ := True
  failed _ _ := True
  okQty _ := True
  rest_of_holds _ := trivial
  failed_of_holds _ _ := trivial
  rest_of_refused _ := trivial
  forget h := h
  ask h := h
  showOrder h := h
  getProducts h := h
  noProduct h := h
  getProduct h _ := h
  storeCart _ _ _ _ := historyStored_putUser _ _
  setItem _ _ _ _ := historyStored_putUser _ _
  buyCart h _ _ := h
  setAddress h := h
  setPayment h := h
  storeAddress _ _ _ := historyStored_putUser _ _
  storePayment _ _ _ := historyStored_putUser _ _
  startCharge _ _ := rfl
  chargeItem h _ _ := h
  finalized h := h
  finishCharge _ := historyStored_putUser _ _

/-- A login stores the history it has loaded. -/
theorem wp_getUser_history (username : Text) (w : World) :
    wp db.exact (getUser username) w (fun u w' => HistoryStored w' u) fun _ _ => True := by
  have hK : Restockable fun _ => True := fun _ _ _ _ _ => trivial
  refine wp_getUser hK trivial (fun _ => trivial) (fun _ _ _ _ _ _ _ => trivial) ?_
  intro entry w' user _ _ _
  have hkept : Restockable fun w => HistoryStored w user := fun _ _ _ h _ => h
  refine wp_loadRest hkept (fun _ _ => trivial) ?_ (fun _ _ _ _ _ => trivial) ?_
  · intro pay _
    unfold storeLoaded
    split
    · exact historyStored_putUser (w'.putUser user) (withPayment user pay)
    · exact historyStored_putUser w' user
  · intro pay cart w'' _ h _
    exact h

theorem historySpec_login (username : Text) (g : World × Journal) :
    historySpec.toSessionSpec.Login username g := by
  obtain ⟨w, l⟩ := g
  have hsound := (wp_logged (.getUser username)).mp (promptSpec_login username (w, l))
  have hstored := wp_and rfl hsound (wp_getUser_history username w)
  refine (wp_logged (.getUser username)).mpr (wp_mono hstored ?_ fun _ _ _ => trivial)
  intro u w' ⟨⟨_, hu⟩, hhistory⟩
  exact ⟨hhistory, hu⟩

theorem session_historyStored {w w₀ : World} {username : Text} {lines : List Text}
    {r : Trail × Proc} (h : run sys (session username lines) w = (.ok r, w₀))
    (hloc : r.2.loc ≠ .exited) : HistoryStored w₀ r.2.logged_in := by
  have hkeeps := historySpec.toSessionSpec.keeps_session lines
    (historySpec_login username (w, [])) fun _ => trivial
  rw [wp_exact, (run_logged sys _ w []).1] at hkeeps
  obtain ⟨l', hlogged⟩ := run_logged_eq h []
  rw [hlogged, h] at hkeeps
  obtain ⟨task, htask⟩ := hkeeps.1.holds hloc
  exact htask

section Steps

variable {I : World → User → Prop} {J : World → Prop} {d : Dialogue}

theorem wp_play_cons {p : Proc} {w : World} {line : Text} {lines : List Text}
    (hone : wp sys.exact (p.step line) w (fun p' w' => I w' p'.logged_in) fun _ => J)
    (hrest : ∀ next w', run sys (p.step line) w = (.ok next, w') → I w' next.logged_in →
      wp sys.exact (next.play lines) w' (fun r w' => I w' r.2.logged_in) fun _ => J) :
    wp sys.exact (p.play (line :: lines)) w (fun r w' => I w' r.2.logged_in) fun _ => J := by
  apply wp_bind.mpr
  rw [wp_exact] at hone ⊢
  cases hrun : run sys (p.step line) w with
  | mk out w' =>
    rw [hrun] at hone
    cases out with
    | error e => exact hone
    | ok next =>
      apply wp_bind.mpr
      exact wp_mono (hrest next w' hrun hone) (fun _ _ hlast => hlast) fun _ _ hJ => hJ

/-- What the unconfirmed answers of a dialogue keep one by one, they keep
together. -/
theorem wp_play_abandons
    (hstep : ∀ (p : Proc) w line, I w p.logged_in → p.loc.dialogue = some d →
      p.confirms line = false →
        wp sys.exact (p.step line) w (fun p' w' => I w' p'.logged_in) fun _ => J)
    (lines : List Text) (p : Proc) (w : World) (h : I w p.logged_in)
    (habandons : abandons d p w lines = true) :
    wp sys.exact (p.play lines) w (fun r w' => I w' r.2.logged_in) fun _ => J := by
  induction lines generalizing p w with
  | nil => exact h
  | cons line lines ih =>
    unfold abandons at habandons
    simp only [Bool.and_eq_true, decide_eq_true_eq, Bool.not_eq_true'] at habandons
    obtain ⟨⟨hloc, hno⟩, hrest⟩ := habandons
    apply wp_play_cons (hstep p w line h hloc hno)
    intro next w' hrun hnext
    rw [hrun] at hrest
    exact ih next w' hnext hrest

end Steps

section Account

variable {w : World} {u : User} {cmd : Text}

/-- The session is where it was, but for the prompt. -/
abbrev Unchanged (w₀ : World) (u₀ : User) (m : ClientM Proc) (w : World) : Prop :=
  wp sys.exact m w (fun p w' => w' = w₀ ∧ p.logged_in = u₀) fun _ w' => w' = w₀

theorem unchanged_waitAt (loc : Loc) : Unchanged w u (waitAt u loc) w :=
  wp_waitAt_sys.mpr ⟨rfl, rfl⟩

theorem unchanged_accountAddr {prompt : AddrPrompt}
    (hno : Proc.confirms ⟨u, .accountAddr prompt⟩ cmd = false) :
    Unchanged w u (accountAddr u prompt cmd) w := by
  unfold accountAddr
  rw [accountAddrStep_eq]
  apply wp_bind.mpr
  refine wp_ofExcept.mpr ⟨?_, fun _ _ => rfl⟩
  intro a ha
  by_cases hp : ∃ addr, prompt = .correct addr
  · obtain ⟨addr, rfl⟩ := hp
    have hno : saysNo cmd = true := by simpa [Proc.confirms] using hno
    rw [orderAddrStep, if_pos hno] at ha
    cases ha
    exact unchanged_waitAt .accshell
  · have hopen := orderAddrStep_open (fun addr h => hp ⟨addr, h⟩) ha
    cases a with
    | next prompt => exact unchanged_waitAt (.accountAddr prompt)
    | reject => exact unchanged_waitAt .accshell
    | decline | accept => exact hopen.elim

theorem unchanged_accountPay {prompt : PayPrompt}
    (hno : Proc.confirms ⟨u, .accountPay prompt⟩ cmd = false) :
    Unchanged w u (accountPay u prompt cmd) w := by
  unfold accountPay
  rw [accountPayStep_eq]
  apply wp_bind.mpr
  refine wp_ofExcept.mpr ⟨?_, fun _ _ => rfl⟩
  intro a ha
  by_cases hp : ∃ cc, prompt = .correct cc
  · obtain ⟨cc, rfl⟩ := hp
    have hno : saysNo cmd = true := by simpa [Proc.confirms] using hno
    rw [orderPayStep, if_pos hno] at ha
    cases ha
    exact unchanged_waitAt .accshell
  · have hopen := orderPayStep_open (fun cc h => hp ⟨cc, h⟩) ha
    cases a with
    | next prompt => exact unchanged_waitAt (.accountPay prompt)
    | reject => exact unchanged_waitAt .accshell
    | decline | accept => exact hopen.elim

theorem unchanged_account (p : Proc) (w : World) (line : Text)
    (hloc : p.loc.dialogue = some .account) (hno : p.confirms line = false) :
    Unchanged w p.logged_in (p.step line) w := by
  obtain ⟨u, loc⟩ := p
  cases loc with
  | accountAddr prompt => exact unchanged_accountAddr hno
  | accountPay prompt => exact unchanged_accountPay hno
  | mainshell | cartshell | useAddress | orderAddr | usePayment | orderPay | placeOrder | accshell
  | tshell | exited => cases hloc

/-- The commands `addr` and `pay` ask the first question. -/
theorem step_opens_account {p : Proc} {line : Text} (h : p.Opens line .account) :
    ∃ loc, p.step line = waitAt p.logged_in loc ∧ loc.dialogue = some .account := by
  obtain ⟨u, loc⟩ := p
  obtain ⟨rfl, hcmd⟩ := h
  have hstep : Proc.step ⟨u, .accshell⟩ line = accountCommand u (split line ' ') := rfl
  rw [hstep]
  cases hparts : split line ' ' with
  | nil => simp [hparts] at hcmd
  | cons cmd args =>
    rw [hparts] at hcmd
    rw [accountCommand]
    cases hcmd with
    | inl haddr =>
      cases haddr
      exact ⟨.accountAddr .name1, rfl, rfl⟩
    | inr hpay =>
      cases hpay
      exact ⟨.accountPay .num, rfl, rfl⟩

end Account

/-- The databases and the user of a checkout that has placed no order. -/
structure Untouched (w₀ : World) (username : Text) (w : World) : Prop where
  products : w.products = w₀.products
  orders : w.orders = w₀.orders
  history : storedOrders w username = storedOrders w₀ username

structure Pending (w₀ : World) (u₀ : User) (w : World) (u : User) : Prop where
  world : Untouched w₀ u₀.user_name w
  name : u.user_name = u₀.user_name
  history : u.transaction_history = u₀.transaction_history
  cart : u.shopping_cart = u₀.shopping_cart

abbrev StaysPending (w₀ : World) (u₀ : User) (m : ClientM Proc) (w : World) : Prop :=
  wp sys.exact m w (fun p w' => Pending w₀ u₀ w' p.logged_in)
    fun _ => Untouched w₀ u₀.user_name

section Checkout

variable {w₀ w : World} {u₀ u : User} {order : Transaction} {cmd : Text}

/-- Storing the user of a pending checkout writes the order list there was. -/
theorem Pending.store (h₀ : HistoryStored w₀ u₀) (h : Pending w₀ u₀ w u) :
    Pending w₀ u₀ (w.putUser u) u := by
  refine ⟨⟨h.world.products, h.world.orders, ?_⟩, h.name, h.history, h.cart⟩
  have hstored := historyStored_putUser w u
  rw [HistoryStored, h.name, h.history] at hstored
  rw [hstored, h₀]

theorem pending_waitAt (h : Pending w₀ u₀ w u) (loc : Loc) :
    StaysPending w₀ u₀ (waitAt u loc) w := wp_waitAt_sys.mpr h

theorem pending_orderNewPay (h : Pending w₀ u₀ w u) :
    StaysPending w₀ u₀ (orderNewPay u order) w := by
  unfold orderNewPay
  split
  · exact pending_waitAt h (.placeOrder order)
  · exact pending_waitAt h (.orderPay order .num)

theorem pending_ordercc (h : Pending w₀ u₀ w u) : StaysPending w₀ u₀ (ordercc u order) w := by
  unfold ordercc
  split
  · exact pending_waitAt h (.usePayment order)
  · exact pending_orderNewPay h

theorem pending_orderNewAddr (h : Pending w₀ u₀ w u) :
    StaysPending w₀ u₀ (orderNewAddr u order (ordercc u order)) w := by
  unfold orderNewAddr
  split
  · exact pending_ordercc h
  · exact pending_waitAt h (.orderAddr order .name1)

theorem pending_orderaddr (h : Pending w₀ u₀ w u) : StaysPending w₀ u₀ (orderaddr u order) w := by
  unfold orderaddr
  split
  · exact pending_waitAt h (.useAddress order)
  · exact pending_orderNewAddr h

theorem pending_checkout {invalid_qty : Bool} (h : Pending w₀ u₀ w u) :
    StaysPending w₀ u₀ (checkout u invalid_qty) w := by
  unfold checkout
  split
  · exact pending_waitAt h (.cartshell _)
  split
  · exact pending_waitAt h (.cartshell _)
  unfold ShoppingCart.buyCart
  split
  · exact h.world
  · apply wp_bind.mpr
    apply wp_bind.mpr
    apply wp_exact_perform.mpr
    have hdrawn : Pending w₀ u₀ { w with drawn := w.drawn + 1 } u :=
      ⟨⟨h.world.products, h.world.orders, h.world.history⟩, h.name, h.history, h.cart⟩
    exact pending_orderaddr hdrawn

theorem pending_orderAddr (h₀ : HistoryStored w₀ u₀) (h : Pending w₀ u₀ w u) (prompt : AddrPrompt) :
    StaysPending w₀ u₀ (orderAddr u order prompt cmd) w := by
  apply wp_bind.mpr
  refine wp_ofExcept.mpr ⟨?_, fun _ _ => h.world⟩
  intro a _
  cases a with
  | next prompt => exact pending_waitAt h (.orderAddr order prompt)
  | reject | decline => exact pending_orderaddr h
  | accept addr =>
    apply wp_bind.mpr
    apply wp_sys.mpr
    change wp sys.exact (if _ then _ else _) w _ _
    split
    · have hnew : Pending w₀ u₀ w { u with shipping_address := addr } :=
        ⟨h.world, h.name, h.history, h.cart⟩
      apply wp_bind.mpr
      apply wp_bind.mpr
      apply wp_sys.mpr
      apply wp_storeUser.mpr
      exact pending_ordercc (hnew.store h₀)
    · exact pending_ordercc h

theorem pending_orderPay (h₀ : HistoryStored w₀ u₀) (h : Pending w₀ u₀ w u) (prompt : PayPrompt) :
    StaysPending w₀ u₀ (orderPay u order prompt cmd) w := by
  apply wp_bind.mpr
  refine wp_ofExcept.mpr ⟨?_, fun _ _ => h.world⟩
  intro a _
  cases a with
  | next prompt => exact pending_waitAt h (.orderPay order prompt)
  | reject => exact pending_ordercc h
  | decline => exact pending_orderaddr h
  | accept cc =>
    apply wp_bind.mpr
    apply wp_sys.mpr
    change wp sys.exact (if _ then _ else _) w _ _
    split
    · have hnew : Pending w₀ u₀ w { u with payment_info := cc } :=
        ⟨h.world, h.name, h.history, h.cart⟩
      apply wp_bind.mpr
      apply wp_bind.mpr
      apply wp_sys.mpr
      apply wp_storeUser.mpr
      exact pending_waitAt (hnew.store h₀) (.placeOrder _)
    · exact pending_waitAt h (.placeOrder _)

theorem pending_step (h₀ : HistoryStored w₀ u₀) (p : Proc) (w : World) (line : Text)
    (h : Pending w₀ u₀ w p.logged_in) (hloc : p.loc.dialogue = some .checkout)
    (hno : p.confirms line = false) : StaysPending w₀ u₀ (p.step line) w := by
  obtain ⟨u, loc⟩ := p
  cases loc with
  | useAddress order => exact pending_orderNewAddr h
  | orderAddr order prompt => exact pending_orderAddr h₀ h prompt
  | usePayment order => exact pending_orderNewPay h
  | orderPay order prompt => exact pending_orderPay h₀ h prompt
  | placeOrder order =>
    have hline : saysNo line = true := by simpa [Proc.confirms] using hno
    change StaysPending w₀ u₀ (confirmOrder u order line) w
    rw [confirmOrder, if_neg (by simp [hline])]
    exact pending_waitAt h (.cartshell _)
  | mainshell | cartshell | accshell | accountAddr | accountPay | tshell | exited => cases hloc

theorem step_opens_checkout {p : Proc} {line : Text} (h : p.Opens line .checkout) :
    ∃ invalid_qty, p.step line = checkout p.logged_in invalid_qty := by
  obtain ⟨u, loc⟩ := p
  obtain ⟨⟨invalid_qty, rfl⟩, hcmd⟩ := h
  have hstep : Proc.step ⟨u, .cartshell invalid_qty⟩ line =
      cartCommand u invalid_qty (split line ' ') := rfl
  rw [hstep]
  cases hparts : split line ' ' with
  | nil => simp [hparts] at hcmd
  | cons cmd args =>
    rw [hparts] at hcmd
    cases hcmd
    exact ⟨invalid_qty, rfl⟩

end Checkout

/-- Whatever session opens a dialogue, and whatever the answers. -/
theorem abandoned_leaves_no_trace {w w₀ : World} {username : Text} {front : List Text}
    {r : Trail × Proc} (hfront : run sys (session username front) w = (.ok r, w₀))
    {d : Dialogue} {command : Text} (hopen : r.2.Opens command d) {answers : List Text}
    (habandons : ∀ next w₁, run sys (r.2.step command) w₀ = (.ok next, w₁) →
      abandons d next w₁ answers = true) :
    NoTrace r.2 w₀ (run sys (r.2.play (command :: answers)) w₀).1
      (run sys (r.2.play (command :: answers)) w₀).2 d := by
  cases d with
  | account =>
    obtain ⟨loc, hstep, hloc⟩ := step_opens_account hopen
    have hplay : wp sys.exact (r.2.play (command :: answers)) w₀
        (fun last w' => w' = w₀ ∧ last.2.logged_in = r.2.logged_in) fun _ w' => w' = w₀ := by
      have hopened : Unchanged w₀ r.2.logged_in (r.2.step command) w₀ := by
        rw [hstep]
        exact unchanged_waitAt loc
      apply wp_play_cons (I := fun w' u => w' = w₀ ∧ u = r.2.logged_in) hopened
      intro next w₁ hrun hnext
      refine wp_play_abandons (I := fun w' u => w' = w₀ ∧ u = r.2.logged_in) ?_ answers next w₁
        hnext (habandons next w₁ hrun)
      intro p w' line h hdialogue hno
      obtain ⟨rfl, hu⟩ := h
      rw [← hu]
      exact unchanged_account p w' line hdialogue hno
    rw [wp_exact] at hplay
    cases hr : (run sys (r.2.play (command :: answers)) w₀).1 with
    | error e =>
      rw [hr] at hplay
      exact ⟨hplay, fun _ hlast => nomatch hlast⟩
    | ok last =>
      rw [hr] at hplay
      refine ⟨hplay.1, fun _ hlast => ?_⟩
      cases hlast
      exact hplay.2
  | checkout =>
    obtain ⟨invalid_qty, hstep⟩ := step_opens_checkout hopen
    have hexited : r.2.loc ≠ .exited := by
      obtain ⟨⟨_, hcart⟩, -⟩ := hopen
      rw [hcart]
      exact fun h => nomatch h
    have h₀ := session_historyStored hfront hexited
    have hplay : wp sys.exact (r.2.play (command :: answers)) w₀
        (fun last w' => Pending w₀ r.2.logged_in w' last.2.logged_in)
          fun _ => Untouched w₀ r.2.logged_in.user_name := by
      have hopened : StaysPending w₀ r.2.logged_in (r.2.step command) w₀ := by
        rw [hstep]
        exact pending_checkout ⟨⟨rfl, rfl, rfl⟩, rfl, rfl, rfl⟩
      apply wp_play_cons hopened
      intro next w₁ hrun hnext
      exact wp_play_abandons (pending_step h₀) answers next w₁ hnext (habandons next w₁ hrun)
    rw [wp_exact] at hplay
    cases hr : (run sys (r.2.play (command :: answers)) w₀).1 with
    | error e =>
      rw [hr] at hplay
      exact ⟨hplay.products, hplay.orders, hplay.history, fun _ hlast => nomatch hlast⟩
    | ok last =>
      rw [hr] at hplay
      refine ⟨hplay.world.products, hplay.world.orders, hplay.world.history, fun _ hlast => ?_⟩
      cases hlast
      exact ⟨hplay.history, hplay.cart⟩

end OnlineShoppingCenter

namespace OnlineShoppingCenter

open TextCodec EffectProgram

attribute [local instance] posix

def Loc.isCart : Loc → Bool
  | .cartshell _ => true
  | _ => false

/-- An address that is kept on file, a card that is not correct, the same
address again, another card, and no order. -/
def hesitantAnswers : List Text :=
  ["Test User, III", "", "1 Main St.", "", "Starkville", "MS", "39759", "USA", "y",
    "8299721390", "06/20", "040", "n", "y", "8299721391", "06/20", "040", "y", "n"].map String.toList

def cartTyped : List Text := ["addtocart 653569401025", "cart"].map String.toList

theorem hesitant_leaves_no_trace :
    ∃ r w₀, run sys (session "testuser003".toList cartTyped) sampleWorld = (.ok r, w₀) ∧
      NoTrace r.2 w₀ (run sys (r.2.play ("checkout".toList :: hesitantAnswers)) w₀).1
        (run sys (r.2.play ("checkout".toList :: hesitantAnswers)) w₀).2 .checkout := by
  have hcart : ((run sys (session "testuser003".toList cartTyped) sampleWorld).1.toOption.any
        fun r => r.2.loc.isCart) = true := by
    decide +kernel
  have hanswers : (match run sys (do
      let r ← session "testuser003".toList cartTyped
      r.2.step "checkout".toList) sampleWorld with
      | (.ok next, w₁) => abandons .checkout next w₁ hesitantAnswers
      | (.error _, _) => false) = true := by
    decide +kernel
  obtain ⟨r, hr, hloc⟩ := ok_of_any hcart
  have hfront : run sys (session "testuser003".toList cartTyped) sampleWorld = (.ok r, _) :=
    Prod.ext hr rfl
  have hopen : r.2.Opens "checkout".toList .checkout := by
    refine ⟨?_, by decide⟩
    cases hl : r.2.loc with
    | cartshell invalid_qty => exact ⟨invalid_qty, rfl⟩
    | mainshell | useAddress | orderAddr | usePayment | orderPay | placeOrder | accshell
    | accountAddr | accountPay | tshell | exited =>
      rw [hl] at hloc
      cases hloc
  refine ⟨r, _, hfront, abandoned_leaves_no_trace hfront hopen ?_⟩
  intro next w₁ hrun
  rw [run_bind_ok hfront, hrun] at hanswers
  exact hanswers

end OnlineShoppingCenter
