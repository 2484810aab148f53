import OnlineShoppingCenter.CardDialogue

/-!
# The two copies of each dialogue

The address dialogue and the payment dialogue stand once in the checkout and
once in the account menu. Over any lines both copies of a dialogue consume the
same ones at the same prompts and come to the same verdict; they differ in
where `main` goes on afterwards.
-/
namespace OnlineShoppingCenter

open TextCodec EffectProgram

variable [Platform] {σ α : Type}

/-- What a dialogue has come to. -/
inductive Verdict (σ α : Type) where
  | pending (prompt : σ)
  | rejected
  | declined
  | accepted (value : α)
  | failed (e : Exn)

/-- The lines a dialogue consumes, each with the prompt it answers, and the
verdict. -/
def converse (step : σ → Text → Except Exn (Answer σ α)) :
    σ → List Text → List (σ × Text) × Verdict σ α
  | prompt, [] => ([], .pending prompt)
  | prompt, line :: lines =>
    match step prompt line with
    | .ok (.next next) =>
      let (consumed, verdict) := converse step next lines
      ((prompt, line) :: consumed, verdict)
    | .ok .reject => ([(prompt, line)], .rejected)
    | .ok .decline => ([(prompt, line)], .declined)
    | .ok (.accept value) => ([(prompt, line)], .accepted value)
    | .error e => ([(prompt, line)], .failed e)

/-- A copy of a dialogue: its prompts, its step, and where `main` goes on. -/
structure Copy (σ α : Type) where
  loc : σ → Loc
  step : σ → Text → Except Exn (Answer σ α)
  reject : ClientM Proc
  decline : ClientM Proc
  accept : α → ClientM Proc

def Copy.respond (c : Copy σ α) (u : User) : Answer σ α → ClientM Proc
  | .next prompt => waitAt u (c.loc prompt)
  | .reject => c.reject
  | .decline => c.decline
  | .accept value => c.accept value

def Copy.goOn (c : Copy σ α) (u : User) : Verdict σ α → ClientM Proc
  | .pending prompt => return ⟨u, c.loc prompt⟩
  | .rejected => c.reject
  | .declined => c.decline
  | .accepted value => c.accept value
  | .failed e => .fail e

/-- A session at a prompt of the copy takes the lines of the dialogue, and goes
on with its verdict and the lines that are left. -/
def Copy.Follows (c : Copy σ α) (u : User) (start : σ) : Prop :=
  ∀ lines w, run sys (Proc.play ⟨u, c.loc start⟩ lines) w = run sys (do
    let p ← c.goOn u (converse c.step start lines).2
    let (trail, last) ← p.play (lines.drop (converse c.step start lines).1.length)
    return ((converse c.step start lines).1.map (fun e => (⟨u, c.loc e.1⟩, e.2)) ++ trail, last)) w

/-- Two copies of one dialogue, with the users that go through them. -/
structure CopiesAgree (c c' : Copy σ α) (u u' : User) (start : σ) : Prop where
  same : ∀ lines, converse c.step start lines = converse c'.step start lines
  follows : c.Follows u start
  follows' : c'.Follows u' start

def orderAddrCopy (u : User) (order : Transaction) : Copy AddrPrompt ShippingAddress where
  loc := .orderAddr order
  step := orderAddrStep
  reject := orderaddr u order
  decline := orderaddr u order
  accept addr := do
    ask .keepAddress
    ordercc (← u.changeShippingAddress local_storage.storeUser addr) (order.setShippingAddress addr)

def accountAddrCopy (u : User) : Copy AddrPrompt ShippingAddress where
  loc := .accountAddr
  step := accountAddrStep
  reject := accshell u
  decline := accshell u
  accept addr := do accshell (← u.changeShippingAddress local_storage.storeUser addr)

def orderPayCopy (u : User) (order : Transaction) : Copy PayPrompt PaymentInfo where
  loc := .orderPay order
  step := orderPayStep
  reject := ordercc u order
  decline := orderaddr u order
  accept cc := do
    ask .keepPayment
    placeOrder (← u.changeCreditCard local_storage.storeUser cc) (order.setPaymentInfo cc)

def accountPayCopy (u : User) : Copy PayPrompt PaymentInfo where
  loc := .accountPay
  step := accountPayStep
  reject := accshell u
  decline := accshell u
  accept cc := do accshell (← u.changeCreditCard local_storage.storeUser cc)

section Runs

variable {c : Copy σ α} {u : User}

omit [Platform] in
theorem run_bind_congr {S : Signature} {ε W β γ : Type} {H : Handler S ε W} {m m' : Prog S ε β}
    {f : β → Prog S ε γ} {w : W} (h : run H m w = run H m' w) :
    run H (m >>= f) w = run H (m' >>= f) w := by
  change run H (m.andThen _) w = run H (m'.andThen _) w
  rw [run_andThen, run_andThen, h]

/-- One line of a dialogue, then the others. -/
theorem Copy.follows_of_step
    (hstep : ∀ prompt line, Proc.step ⟨u, c.loc prompt⟩ line =
      Prog.ofExcept (c.step prompt line) >>= c.respond u) (start : σ) : c.Follows u start := by
  intro lines
  induction lines generalizing start with
  | nil => intro w; rfl
  | cons line lines ih =>
    intro w
    rw [Proc.play, hstep, converse]
    cases h : c.step start line with
    | error e => rfl
    | ok a =>
      cases a with
      | next next =>
        rw [Prog.ofExcept_ok, Prog.ret_bind, Copy.respond, run_bind_ok (run_waitAt u _ w),
          run_bind_congr (ih next w)]
        simp only [bind_assoc]
        rfl
      | reject | decline | accept value => rfl

end Runs

section Steps

variable (u : User) (order : Transaction)

/-- What is accepted has not been answered with no. -/
theorem orderAddrStep_accept {prompt : AddrPrompt} {line : Text} {addr : ShippingAddress}
    (h : orderAddrStep prompt line = .ok (.accept addr)) : saysNo line = false := by
  by_cases hp : ∃ a, prompt = .correct a
  · obtain ⟨a, rfl⟩ := hp
    cases hno : saysNo line with
    | false => rfl
    | true =>
      rw [orderAddrStep, if_pos hno] at h
      cases h
  · exact absurd (orderAddrStep_open (fun a ha => hp ⟨a, ha⟩) h) id

theorem orderPayStep_accept {prompt : PayPrompt} {line : Text} {cc : PaymentInfo}
    (h : orderPayStep prompt line = .ok (.accept cc)) : saysNo line = false := by
  by_cases hp : ∃ a, prompt = .correct a
  · obtain ⟨a, rfl⟩ := hp
    cases hno : saysNo line with
    | false => rfl
    | true =>
      rw [orderPayStep, if_pos hno] at h
      cases h
  · exact absurd (orderPayStep_open (fun a ha => hp ⟨a, ha⟩) h) id

theorem follows_orderAddr : (orderAddrCopy u order).Follows u .name1 := by
  apply Copy.follows_of_step
  intro prompt line
  change orderAddr u order prompt line = Prog.ofExcept (orderAddrStep prompt line) >>= _
  unfold orderAddr
  cases h : orderAddrStep prompt line with
  | error e => rfl
  | ok a =>
    cases a with
    | next next => rfl
    | reject | decline => rfl
    | accept addr =>
      have hno := orderAddrStep_accept h
      simp only [Prog.ofExcept_ok, Prog.ret_bind, hno]
      rfl

theorem follows_accountAddr : (accountAddrCopy u).Follows u .name1 := by
  apply Copy.follows_of_step
  intro prompt line
  change accountAddr u prompt line = Prog.ofExcept (accountAddrStep prompt line) >>= _
  unfold accountAddr
  cases accountAddrStep prompt line with
  | error e => rfl
  | ok a => cases a <;> rfl

theorem follows_orderPay : (orderPayCopy u order).Follows u .num := by
  apply Copy.follows_of_step
  intro prompt line
  change orderPay u order prompt line = Prog.ofExcept (orderPayStep prompt line) >>= _
  unfold orderPay
  cases h : orderPayStep prompt line with
  | error e => rfl
  | ok a =>
    cases a with
    | next next => rfl
    | reject | decline => rfl
    | accept cc =>
      have hno := orderPayStep_accept h
      simp only [Prog.ofExcept_ok, Prog.ret_bind, hno]
      rfl

theorem follows_accountPay : (accountPayCopy u).Follows u .num := by
  apply Copy.follows_of_step
  intro prompt line
  change accountPay u prompt line = Prog.ofExcept (accountPayStep prompt line) >>= _
  unfold accountPay
  cases accountPayStep prompt line with
  | error e => rfl
  | ok a => cases a <;> rfl

end Steps

/-- The copies in the checkout and in the account menu. -/
theorem dialogues_agree (u u' : User) (order : Transaction) :
    CopiesAgree (orderAddrCopy u order) (accountAddrCopy u') u u' .name1 ∧
      CopiesAgree (orderPayCopy u order) (accountPayCopy u') u u' .num := by
  constructor
  · refine ⟨fun lines => ?_, follows_orderAddr u order, follows_accountAddr u'⟩
    change _ = converse accountAddrStep .name1 lines
    rw [accountAddrStep_eq]
    rfl
  · refine ⟨fun lines => ?_, follows_orderPay u order, follows_accountPay u'⟩
    change _ = converse accountPayStep .num lines
    rw [accountPayStep_eq]
    rfl

end OnlineShoppingCenter
