import OnlineShoppingCenter.Checkout

/-!
# What the customer agreed to

The answers about the shipping address and the payment method are read off the
trail of a session. The payment method charged is always the one accepted last.
The address is, unless the on-file address has been declined while the order
already had an address: the order then keeps the address it had.
-/
namespace OnlineShoppingCenter

open TextCodec EffectProgram

variable [Platform]

/-- What a line answers about the shipping address of an order: it accepts an
address or declines one. -/
def Proc.addressAnswer (p : Proc) (line : Text) : Option (Option ShippingAddress) :=
  match p.loc with
  | .useAddress _ => some (if saysNo line then none else some p.logged_in.shipping_address)
  | .orderAddr _ (.correct addr) => some (if saysNo line then none else some addr)
  | _ => none

def Proc.paymentAnswer (p : Proc) (line : Text) : Option (Option PaymentInfo) :=
  match p.loc with
  | .usePayment _ => some (if saysNo line then none else some p.logged_in.payment_info)
  | .orderPay _ (.correct cc) => some (if saysNo line then none else some cc)
  | _ => none

/-- The last answer of a kind on a trail. -/
def lastAnswer {α : Type} (answer : Proc → Text → Option α) (trail : Trail) : Option α :=
  (trail.filterMap fun e => answer e.1 e.2).getLast?

/-- The on-file address is declined for an order that has an address. -/
def Proc.keepsDeclined (p : Proc) (line : Text) : Bool :=
  match p.loc with
  | .useAddress order => saysNo line && order.shipping_address.is_set
  | _ => false

/-- Whether that was the last answer about an address. -/
def keptDeclined (trail : Trail) : Bool :=
  (lastAnswer (fun p line => (p.addressAnswer line).map fun _ => p.keepsDeclined line) trail).getD
    false

section LastAnswer

variable {α : Type} {answer : Proc → Text → Option α} {trail : Trail} {p : Proc} {line : Text}

theorem lastAnswer_some {a : α} (h : answer p line = some a) :
    lastAnswer answer (trail ++ [(p, line)]) = some a := by
  simp [lastAnswer, h]

theorem lastAnswer_none (h : answer p line = none) :
    lastAnswer answer (trail ++ [(p, line)]) = lastAnswer answer trail := by
  simp [lastAnswer, h]

theorem keptDeclined_none (h : p.addressAnswer line = none) :
    keptDeclined (trail ++ [(p, line)]) = keptDeclined trail := by
  unfold keptDeclined
  rw [lastAnswer_none (by rw [h]; rfl)]

theorem keptDeclined_some {a : Option ShippingAddress} (h : p.addressAnswer line = some a) :
    keptDeclined (trail ++ [(p, line)]) = p.keepsDeclined line := by
  unfold keptDeclined
  rw [lastAnswer_some (by rw [h]; rfl)]
  rfl

end LastAnswer

/-- The address on an order that is past the address questions. -/
def AddressSettled (trail : Trail) (order : Transaction) : Prop :=
  lastAnswer Proc.addressAnswer trail =
    some (if keptDeclined trail then none else some order.shipping_address)

/-- What a trail says about the order at the prompt it leads to. -/
def Consent (trail : Trail) (p : Proc) : Prop :=
  match p.loc with
  | .useAddress order => order.payment_info.is_set = false
  | .orderAddr order _ =>
    order.payment_info.is_set = false ∧ order.shipping_address.is_set = false
  | .usePayment order | .orderPay order _ =>
    order.payment_info.is_set = false ∧ AddressSettled trail order
  | .placeOrder order =>
    AddressSettled trail order ∧
      lastAnswer Proc.paymentAnswer trail = some (some order.payment_info)
  | _ => True

/-- A program that, whatever the calls answer, ends where the trail allows. -/
abbrev Consents (trail : Trail) (m : ClientM Proc) : Prop :=
  wp Contract.any m () (fun p _ => Consent trail p) (fun _ _ => True)

section Steps

variable {trail : Trail} {u : User} {order : Transaction}

theorem consents_bind {β : Type} {m : ClientM β} {k : β → ClientM Proc}
    (h : ∀ a, Consents trail (k a)) : Consents trail (m >>= k) :=
  wp_bind.mpr (wp_any h fun _ => trivial)

theorem consents_waitAt (loc : Loc) (h : Consent trail ⟨u, loc⟩) :
    Consents trail (waitAt u loc) := by
  unfold waitAt
  cases loc.question with
  | none => exact h
  | some question => exact consents_bind fun _ => h

theorem consents_mainbby : Consents trail (mainbby u) :=
  consents_bind fun _ => consents_bind fun _ => consents_waitAt .mainshell trivial

theorem consents_cartview : Consents trail (cartview u) := consents_waitAt (.cartshell _) trivial

theorem consents_cartshell {invalid_qty : Bool} : Consents trail (cartshell u invalid_qty) :=
  consents_waitAt (.cartshell _) trivial

theorem consents_accshell : Consents trail (accshell u) := consents_waitAt .accshell trivial

theorem consents_tshell : Consents trail (tshell u) := consents_waitAt .tshell trivial

theorem consents_orderNewPay (hpay : order.payment_info.is_set = false)
    (haddr : AddressSettled trail order) : Consents trail (orderNewPay u order) := by
  rw [orderNewPay, if_neg (by simp [hpay])]
  exact consents_waitAt (.orderPay order .num) ⟨hpay, haddr⟩

theorem consents_ordercc (hpay : order.payment_info.is_set = false)
    (haddr : AddressSettled trail order) : Consents trail (ordercc u order) := by
  unfold ordercc
  split
  · exact consents_waitAt (.usePayment order) ⟨hpay, haddr⟩
  · exact consents_orderNewPay hpay haddr

theorem consents_orderNewAddr (hpay : order.payment_info.is_set = false)
    (haddr : order.shipping_address.is_set = true → AddressSettled trail order) :
    Consents trail (orderNewAddr u order (ordercc u order)) := by
  unfold orderNewAddr
  split
  · rename_i hset
    exact consents_ordercc hpay (haddr hset)
  · rename_i hset
    exact consents_waitAt (.orderAddr order .name1) ⟨hpay, by simpa using hset⟩

theorem consents_orderaddr (hpay : order.payment_info.is_set = false)
    (haddr : order.shipping_address.is_set = true → AddressSettled trail order) :
    Consents trail (orderaddr u order) := by
  unfold orderaddr
  split
  · exact consents_waitAt (.useAddress order) hpay
  · exact consents_orderNewAddr hpay haddr

theorem consents_checkout {invalid_qty : Bool} : Consents trail (checkout u invalid_qty) := by
  unfold checkout
  split
  · exact consents_cartshell
  split
  · exact consents_cartview
  unfold ShoppingCart.buyCart
  split
  · exact wp_fail.mpr trivial
  · refine wp_bind.mpr (wp_bind.mpr (wp_any (fun id => ?_) fun _ => trivial))
    exact consents_orderaddr rfl (fun h => nomatch h)

theorem consents_addtocart {args : List Text} : Consents trail (addtocart u args) := by
  have hmain : ∀ u', Consents trail (mainshell u') := fun u' => consents_waitAt .mainshell trivial
  cases args with
  | nil => exact hmain u
  | cons upc_s rest =>
    refine consents_bind fun r => ?_
    split
    · exact consents_mainbby
    · exact consents_mainbby
    · exact wp_fail.mpr trivial
    split
    · exact consents_bind hmain
    split
    · exact hmain u
    · exact wp_fail.mpr trivial
    · exact consents_bind hmain

theorem consents_remove {invalid_qty : Bool} {args : List Text} :
    Consents trail (remove u invalid_qty args) := by
  cases args with
  | nil => exact consents_cartshell
  | cons upc_s rest =>
    rw [remove]
    split
    · exact consents_cartshell
    split
    · exact consents_cartview
    · exact wp_fail.mpr trivial
    split
    · exact consents_cartview
    · exact consents_bind fun _ => consents_cartview

theorem consents_changeqty {invalid_qty : Bool} {args : List Text} :
    Consents trail (changeqty u invalid_qty args) := by
  match args with
  | [] => exact consents_cartshell
  | [upc_s] => exact consents_cartshell
  | upc_s :: qty_s :: rest =>
    rw [changeqty]
    split
    · exact consents_cartshell
    split
    · exact consents_cartview
    · exact wp_fail.mpr trivial
    split
    · exact consents_cartshell
    · exact wp_fail.mpr trivial
    split
    · exact consents_cartview
    · exact consents_bind fun _ => consents_cartview

theorem consents_mainCommand {args : List Text} : Consents trail (mainCommand u args) := by
  have hmain : Consents trail (mainshell u) := consents_waitAt .mainshell trivial
  cases args with
  | nil => exact hmain
  | cons cmd args =>
    rw [mainCommand]
    split
    · exact consents_waitAt .exited trivial
    split
    · exact consents_addtocart
    split
    · exact consents_cartview
    split
    · exact consents_accshell
    · exact hmain

theorem consents_cartCommand {invalid_qty : Bool} {args : List Text} :
    Consents trail (cartCommand u invalid_qty args) := by
  cases args with
  | nil => exact consents_cartshell
  | cons cmd args =>
    rw [cartCommand]
    split
    · exact consents_waitAt .exited trivial
    split
    · exact consents_mainbby
    split
    · exact consents_remove
    split
    · exact consents_changeqty
    split
    · unfold clear
      split
      · exact consents_cartshell
      · exact consents_bind fun _ => consents_mainbby
    split
    · exact consents_checkout
    · exact consents_cartshell

theorem consents_accountCommand {args : List Text} : Consents trail (accountCommand u args) := by
  cases args with
  | nil => exact consents_accshell
  | cons cmd rest =>
    rw [accountCommand]
    split
    · exact consents_waitAt .exited trivial
    split
    · exact consents_mainbby
    split
    · exact consents_waitAt (.accountAddr .name1) trivial
    split
    · exact consents_waitAt (.accountPay .num) trivial
    split
    · split
      · exact consents_accshell
      · exact consents_tshell
    · exact consents_accshell

theorem consents_orders {args : List Text} : Consents trail (orders u args) := by
  cases args with
  | nil => exact consents_tshell
  | cons cmd_part rest =>
    rw [orders]
    split
    · exact consents_waitAt .exited trivial
    split
    · exact consents_accshell
    split
    · exact consents_tshell
    · exact wp_fail.mpr trivial
    split
    · exact consents_tshell
    · exact consents_bind fun _ => consents_tshell

theorem consents_accountAddr {prompt : AddrPrompt} {cmd : Text} :
    Consents trail (accountAddr u prompt cmd) := by
  refine consents_bind fun a => ?_
  cases a with
  | next prompt => exact consents_waitAt (.accountAddr prompt) trivial
  | reject | decline => exact consents_accshell
  | accept addr => exact consents_bind fun _ => consents_accshell

theorem consents_accountPay {prompt : PayPrompt} {cmd : Text} :
    Consents trail (accountPay u prompt cmd) := by
  refine consents_bind fun a => ?_
  cases a with
  | next prompt => exact consents_waitAt (.accountPay prompt) trivial
  | reject | decline => exact consents_accshell
  | accept cc => exact consents_bind fun _ => consents_accshell

end Steps

section Answers

variable {trail : Trail} {u : User} {order : Transaction} {cmd : Text}

theorem settled_of_none {p : Proc} (h : p.addressAnswer cmd = none)
    (haddr : AddressSettled trail order) : AddressSettled (trail ++ [(p, cmd)]) order := by
  unfold AddressSettled
  rw [lastAnswer_none h, keptDeclined_none h]
  exact haddr

theorem settled_of_some {p : Proc} {a : Option ShippingAddress} (h : p.addressAnswer cmd = some a)
    (ha : a = if p.keepsDeclined cmd then none else some order.shipping_address) :
    AddressSettled (trail ++ [(p, cmd)]) order := by
  unfold AddressSettled
  rw [lastAnswer_some h, keptDeclined_some h, ha]

theorem consents_useAddress (h : Consent trail ⟨u, .useAddress order⟩) :
    Consents (trail ++ [(⟨u, .useAddress order⟩, cmd)]) (useAddress u order cmd) := by
  unfold useAddress
  cases hno : saysNo cmd with
  | true =>
    refine consents_orderNewAddr h fun hset => settled_of_some rfl ?_
    have hset' : order.shipping_address.is_set = true := by simpa using hset
    simp [Proc.keepsDeclined, hno, hset']
  | false =>
    refine consents_orderNewAddr h fun hset => settled_of_some rfl ?_
    simp [Proc.keepsDeclined, hno, Transaction.setShippingAddress]

theorem consents_orderAddr {prompt : AddrPrompt} (h : Consent trail ⟨u, .orderAddr order prompt⟩) :
    Consents (trail ++ [(⟨u, .orderAddr order prompt⟩, cmd)]) (orderAddr u order prompt cmd) := by
  obtain ⟨hpay, hset⟩ := h
  have hunset : order.shipping_address.is_set = true →
      AddressSettled (trail ++ [(⟨u, .orderAddr order prompt⟩, cmd)]) order := by simp [hset]
  refine wp_bind.mpr (wp_ofExcept.mpr ⟨?_, fun _ _ => trivial⟩)
  intro a ha
  by_cases hp : ∃ addr, prompt = .correct addr
  · obtain ⟨addr, rfl⟩ := hp
    cases ha
    cases hno : saysNo cmd with
    | true => exact consents_orderaddr hpay hunset
    | false =>
      have haddr : AddressSettled (trail ++ [(⟨u, .orderAddr order (.correct addr)⟩, cmd)])
          (order.setShippingAddress addr) := by
        refine settled_of_some rfl ?_
        simp [Proc.keepsDeclined, hno, Transaction.setShippingAddress]
      refine consents_bind fun _ => ?_
      rw [if_pos (by simp)]
      exact consents_bind fun _ => consents_ordercc hpay haddr
  · have hopen := orderAddrStep_open (fun addr heq => hp ⟨addr, heq⟩) ha
    cases a with
    | next prompt' => exact consents_waitAt (.orderAddr order prompt') ⟨hpay, hset⟩
    | reject => exact consents_orderaddr hpay hunset
    | accept | decline => exact hopen.elim

theorem consents_usePayment (h : Consent trail ⟨u, .usePayment order⟩) :
    Consents (trail ++ [(⟨u, .usePayment order⟩, cmd)]) (usePayment u order cmd) := by
  obtain ⟨hpay, haddr⟩ := h
  have haddr' : AddressSettled (trail ++ [(⟨u, .usePayment order⟩, cmd)]) order :=
    settled_of_none rfl haddr
  unfold usePayment
  cases hno : saysNo cmd with
  | true => exact consents_orderNewPay hpay haddr'
  | false =>
    rw [if_neg (by simp), orderNewPay]
    split
    · refine consents_waitAt (.placeOrder _) ⟨haddr', ?_⟩
      rw [lastAnswer_some (a := some u.payment_info) (by simp [Proc.paymentAnswer, hno])]
      rfl
    · rename_i hunset
      exact consents_waitAt (.orderPay _ .num) ⟨by simpa using hunset, haddr'⟩

theorem consents_orderPay {prompt : PayPrompt} (h : Consent trail ⟨u, .orderPay order prompt⟩) :
    Consents (trail ++ [(⟨u, .orderPay order prompt⟩, cmd)]) (orderPay u order prompt cmd) := by
  obtain ⟨hpay, haddr⟩ := h
  have haddr' : AddressSettled (trail ++ [(⟨u, .orderPay order prompt⟩, cmd)]) order :=
    settled_of_none rfl haddr
  refine wp_bind.mpr (wp_ofExcept.mpr ⟨?_, fun _ _ => trivial⟩)
  intro a ha
  by_cases hp : ∃ cc, prompt = .correct cc
  · obtain ⟨cc, rfl⟩ := hp
    cases ha
    cases hno : saysNo cmd with
    | true => exact consents_orderaddr hpay fun _ => haddr'
    | false =>
      have hplace : ∀ u', Consents (trail ++ [(⟨u, .orderPay order (.correct cc)⟩, cmd)])
          (placeOrder u' (order.setPaymentInfo cc)) := by
        intro u'
        refine consents_waitAt (.placeOrder _) ⟨haddr', ?_⟩
        rw [lastAnswer_some (a := some cc) (by simp [Proc.paymentAnswer, hno])]
        rfl
      refine consents_bind fun _ => ?_
      rw [if_pos (by simp)]
      exact consents_bind hplace
  · have hopen := orderPayStep_open (fun cc heq => hp ⟨cc, heq⟩) ha
    cases a with
    | next prompt' => exact consents_waitAt (.orderPay order prompt') ⟨hpay, haddr'⟩
    | reject => exact consents_ordercc hpay haddr'
    | accept | decline => exact hopen.elim

theorem consents_confirmOrder : Consents trail (confirmOrder u order cmd) := by
  unfold confirmOrder
  split
  · exact consents_bind fun _ => consents_mainbby
  · exact consents_cartview

/-- One line keeps the trail and the order in agreement. -/
theorem consents_step {p : Proc} (h : Consent trail p) (line : Text) :
    Consents (trail ++ [(p, line)]) (p.step line) := by
  obtain ⟨u, loc⟩ := p
  cases loc with
  | mainshell => exact consents_mainCommand
  | cartshell invalid_qty => exact consents_cartCommand
  | useAddress order => exact consents_useAddress h
  | orderAddr order prompt => exact consents_orderAddr h
  | usePayment order => exact consents_usePayment h
  | orderPay order prompt => exact consents_orderPay h
  | placeOrder order => exact consents_confirmOrder
  | accshell => exact consents_accountCommand
  | accountAddr prompt => exact consents_accountAddr
  | accountPay prompt => exact consents_accountPay
  | tshell => exact consents_orders
  | exited => exact trivial

theorem consents_play {p : Proc} (lines : List Text) (h : Consent trail p) :
    wp Contract.any (p.play lines) () (fun r _ => Consent (trail ++ r.1) r.2)
      (fun _ _ => True) := by
  induction lines generalizing trail p with
  | nil => simpa [Proc.play] using h
  | cons line lines ih =>
    refine wp_bind.mpr (wp_mono (consents_step h line) ?_ fun _ _ => id)
    intro next _ hnext
    refine wp_bind.mpr (wp_mono (ih hnext) ?_ fun _ _ => id)
    intro r _ hr
    simpa using hr

theorem consents_session (username : Text) (lines : List Text) :
    wp Contract.any (session username lines) () (fun r _ => Consent r.1 r.2) (fun _ _ => True) := by
  have hlogin : Consents [] (login username) := by
    refine consents_bind fun r => ?_
    split
    · exact consents_mainbby
    · exact trivial
    · exact wp_fail.mpr trivial
  refine wp_bind.mpr (wp_mono hlogin ?_ fun _ _ => id)
  intro p _ hp
  exact consents_play lines hp

end Answers

/-- The order charged carries the last payment method accepted, and the last
address accepted unless a decline has been passed over. -/
theorem charged_agreed_iff (w : World) (username : Text) (lines : List Text) (line : Text)
    (trail : Trail) (order : Transaction)
    (hcharged : chargedOrder w username lines line = some (trail, order)) :
    lastAnswer Proc.addressAnswer trail = some (some order.shipping_address) ∧
      lastAnswer Proc.paymentAnswer trail = some (some order.payment_info) ↔
    keptDeclined trail = false := by
  obtain ⟨p, hrun, hc⟩ := chargedOrder_eq_some hcharged
  have h : Consent trail p := ends_of_any (consents_session username lines) hrun
  obtain ⟨hloc, -⟩ := Proc.charged_eq_some.mp hc
  obtain ⟨haddr, hpay⟩ : AddressSettled trail order ∧
      lastAnswer Proc.paymentAnswer trail = some (some order.payment_info) := by
    unfold Consent at h
    rw [hloc] at h
    exact h
  unfold AddressSettled at haddr
  rw [haddr, hpay]
  cases keptDeclined trail <;> simp

end OnlineShoppingCenter

namespace OnlineShoppingCenter

open TextCodec

attribute [local instance] posix

theorem sample_charged_agreed : ∃ trail order,
    chargedOrder sampleWorld "testuser001".toList sampleLines "y".toList = some (trail, order) ∧
      (lastAnswer Proc.addressAnswer trail = some (some order.shipping_address) ∧
        lastAnswer Proc.paymentAnswer trail = some (some order.payment_info) ↔
      keptDeclined trail = false) := by
  have hsome : (chargedOrder sampleWorld "testuser001".toList sampleLines "y".toList).isSome := by
    decide +kernel
  obtain ⟨⟨trail, order⟩, hc⟩ := Option.isSome_iff_exists.mp hsome
  exact ⟨trail, order, hc, charged_agreed_iff _ _ _ _ trail order hc⟩

/-- The on-file address is accepted; a new card is entered and found wrong; then
the on-file address is declined and the card on file accepted. -/
def declineLines : List Text :=
  ["addtocart 653569401025", "cart", "checkout", "y", "n", "4929", "01/19", "123", "n", "n",
    "y"].map String.toList

/-- The order ships to the address declined last. -/
theorem declined_address_charged : ∃ trail order,
    chargedOrder sampleWorld "testuser001".toList declineLines "y".toList = some (trail, order) ∧
      order.shipping_address.street = "56 Park Circle".toList ∧
        lastAnswer Proc.addressAnswer trail = some none := by
  have hsome : ((chargedOrder sampleWorld "testuser001".toList declineLines "y".toList).any
      fun r => r.2.shipping_address.street = "56 Park Circle".toList ∧
        (lastAnswer Proc.addressAnswer r.1).map Option.isNone = some true) = true := by
    decide +kernel
  cases hc : chargedOrder sampleWorld "testuser001".toList declineLines "y".toList with
  | none =>
    rw [hc] at hsome
    cases hsome
  | some r =>
    rw [hc] at hsome
    simp only [Option.any_some, decide_eq_true_eq, Option.map_eq_some_iff] at hsome
    obtain ⟨hstreet, a, ha, hnone⟩ := hsome
    refine ⟨r.1, r.2, rfl, hstreet, ?_⟩
    rw [ha, Option.isNone_iff_eq_none.mp hnone]

end OnlineShoppingCenter
