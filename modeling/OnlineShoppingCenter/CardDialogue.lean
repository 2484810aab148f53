import OnlineShoppingCenter.SampleData
import OnlineShoppingCenter.SequentialRules

/-!
# What the payment dialogues record

The dialogue of the checkout and the one of the account menu take three lines
and then ask whether the card is correct. Both parse the cv2 from the line typed
for the card number; the third line is never looked at.
-/
namespace OnlineShoppingCenter

open TextCodec EffectProgram

variable [Platform]

/-- A prompt of the payment dialogue, of the checkout or of the account menu. -/
def payLoc : Option Transaction → PayPrompt → Loc
  | some order, prompt => .orderPay order prompt
  | none, prompt => .accountPay prompt

def Loc.payPrompt : Loc → Option PayPrompt
  | .orderPay _ prompt | .accountPay prompt => some prompt
  | _ => none

@[simp] theorem payPrompt_payLoc (order : Option Transaction) (prompt : PayPrompt) :
    (payLoc order prompt).payPrompt = some prompt := by cases order <;> rfl

/-- The card on the order in progress, or on the account when there is none. -/
def Proc.recorded (p : Proc) : PaymentInfo :=
  match p.loc.task with
  | some (.order order) => order.payment_info
  | _ => p.logged_in.payment_info

/-- Three lines were typed for the number, the expiry and the cv2. -/
def Typed (trail : Trail) : Prop :=
  ∃ cc_num num_s cc_num' num_s' cc_exp, trail.map (fun e => e.1.loc.payPrompt) =
    [some .num, some (.exp cc_num num_s), some (.cv2 cc_num' num_s' cc_exp)]

/-- A confirmed dialogue has recorded what the three lines say, and one whose
third line is no number has been rejected and has changed nothing. -/
structure RecordsTyped (w : World) (p : Proc) (num_s exp_s cv2_s : Text) : Prop where
  confirmed : ∀ r w₁ cc line p' w₂,
    run sys (p.play [num_s, exp_s, cv2_s]) w = (.ok r, w₁) → Typed r.1 →
      r.2.loc.payPrompt = some (.correct cc) → saysNo line = false →
        run sys (r.2.step line) w₁ = (.ok p', w₂) →
          stoul num_s = .ok p'.recorded.cc_num ∧ p'.recorded.cc_exp = exp_s ∧
            stoui cv2_s = .ok p'.recorded.cc_cv2
  rejected : ∀ r w₁, run sys (p.play [num_s, exp_s, cv2_s]) w = (.ok r, w₁) → Typed r.1 →
    stoui cv2_s = .error .invalid_argument →
      (∀ cc, r.2.loc.payPrompt ≠ some (.correct cc)) ∧ r.2.logged_in = p.logged_in ∧
        r.2.loc.task = p.loc.task

section Steps

variable {w : World} {u : User} {order : Option Transaction} {prompt : PayPrompt} {line : Text}

theorem run_waitAt (u : User) (loc : Loc) (w : World) :
    run sys (waitAt u loc) w = (.ok ⟨u, loc⟩, w) := by
  unfold waitAt
  cases loc.question with
  | none => rfl
  | some question => rfl

theorem wp_waitAt_sys {loc : Loc} {Q : Proc → World → Prop} {E : Exn → World → Prop} :
    wp sys.exact (waitAt u loc) w Q E ↔ Q ⟨u, loc⟩ w := by
  rw [wp_exact, run_waitAt, ends_ok]

/-- The dialogue goes on at its next prompt. -/
theorem run_pay_next {next : PayPrompt} (h : orderPayStep prompt line = .ok (.next next)) :
    run sys (Proc.step ⟨u, payLoc order prompt⟩ line) w = (.ok ⟨u, payLoc order next⟩, w) := by
  cases order with
  | none =>
    change run sys (accountPay u prompt line) w = _
    rw [accountPay, accountPayStep_eq, h, Prog.ofExcept_ok, Prog.ret_bind]
    exact run_waitAt u _ w
  | some order =>
    change run sys (orderPay u order prompt line) w = _
    rw [orderPay, h, Prog.ofExcept_ok, Prog.ret_bind]
    exact run_waitAt u _ w

/-- A line that is not accepted leads out of the dialogue or to its beginning. -/
theorem run_pay_reject (u : User) (order : Option Transaction) (w : World)
    (h : orderPayStep prompt line = .ok .reject) :
    ∃ loc, run sys (Proc.step ⟨u, payLoc order prompt⟩ line) w = (.ok ⟨u, loc⟩, w) ∧
      (loc.payPrompt = none ∨ loc.payPrompt = some .num) := by
  cases order with
  | none =>
    change ∃ loc, run sys (accountPay u prompt line) w = _ ∧ _
    rw [accountPay, accountPayStep_eq, h, Prog.ofExcept_ok, Prog.ret_bind]
    exact ⟨.accshell, run_waitAt u _ w, .inl rfl⟩
  | some order =>
    change ∃ loc, run sys (orderPay u order prompt line) w = _ ∧ _
    rw [orderPay, h]
    change ∃ loc, run sys (ordercc u order) w = _ ∧ _
    unfold ordercc orderNewPay
    split
    · exact ⟨.usePayment order, run_waitAt u _ w, .inl rfl⟩
    split
    · exact ⟨.placeOrder order, run_waitAt u _ w, .inl rfl⟩
    · exact ⟨.orderPay order .num, run_waitAt u _ w, .inr rfl⟩

theorem run_pay_error {e : Exn} (h : orderPayStep prompt line = .error e) :
    run sys (Proc.step ⟨u, payLoc order prompt⟩ line) w = (.error e, w) := by
  cases order with
  | none =>
    change run sys (accountPay u prompt line) w = _
    rw [accountPay, accountPayStep_eq, h]
    rfl
  | some order =>
    change run sys (orderPay u order prompt line) w = _
    rw [orderPay, h]
    rfl

/-- A card that is confirmed is recorded. -/
theorem run_pay_confirm (u : User) (order : Option Transaction) (w : World) (cc : PaymentInfo)
    (h : saysNo line = false) :
    ∃ p w', run sys (Proc.step ⟨u, payLoc order (.correct cc)⟩ line) w = (.ok p, w') ∧
      p.recorded = cc := by
  have haccept : orderPayStep (.correct cc) line = .ok (.accept cc) := by
    rw [orderPayStep, if_neg (by simp [h])]
  cases order with
  | none =>
    change ∃ p w', run sys (accountPay u (.correct cc) line) w = _ ∧ _
    rw [accountPay, accountPayStep_eq, haccept, Prog.ofExcept_ok, Prog.ret_bind]
    apply exists_run_ok
    apply wp_bind.mpr
    apply wp_bind.mpr
    apply wp_sys.mpr
    apply StorageSystem.wp_storeUser.mpr
    exact wp_waitAt_sys.mpr rfl
  | some order =>
    change ∃ p w', run sys (orderPay u order (.correct cc) line) w = _ ∧ _
    rw [orderPay, haccept, Prog.ofExcept_ok, Prog.ret_bind]
    apply exists_run_ok
    apply wp_bind.mpr
    apply wp_sys.mpr
    rw [h]
    apply wp_bind.mpr
    apply wp_bind.mpr
    apply wp_sys.mpr
    apply StorageSystem.wp_storeUser.mpr
    exact wp_waitAt_sys.mpr rfl

omit [Platform] in
theorem stoui_of_stoul {s : Text} {n : UInt64} (h : stoul s = .ok n) :
    stoui s = .ok n.toUInt32 := by
  rw [stoui, h]
  rfl

/-- A line that is no number, or too large a one, leaves the first prompt behind
with no card number. -/
theorem orderPayStep_num_error {e : Exn} (h : stoul line = .error e) :
    orderPayStep .num line = .ok .reject ∨ orderPayStep .num line = .error e := by
  rw [orderPayStep, h]
  cases e with
  | invalid_argument => exact .inl rfl
  | out_of_range | runtime_error | system_error | undefined => exact .inr rfl

end Steps

section Entry

variable {w : World} {u : User} {order : Option Transaction} {num_s exp_s cv2_s : Text}

/-- Where three accepted lines lead. -/
theorem play_accepted {n : UInt64} (hnum : stoul num_s = .ok n)
    (hexp : (nonspace exp_s).isEmpty = false) :
    run sys (Proc.play ⟨u, payLoc order .num⟩ [num_s, exp_s, cv2_s]) w =
      (.ok ([(⟨u, payLoc order .num⟩, num_s), (⟨u, payLoc order (.exp n num_s)⟩, exp_s),
          (⟨u, payLoc order (.cv2 n num_s exp_s)⟩, cv2_s)],
        ⟨u, payLoc order (.correct (.new n exp_s n.toUInt32))⟩), w) := by
  have hfirst : orderPayStep .num num_s = .ok (.next (.exp n num_s)) := by
    rw [orderPayStep, hnum]
    rfl
  have hsecond : orderPayStep (.exp n num_s) exp_s = .ok (.next (.cv2 n num_s exp_s)) := by
    rw [orderPayStep, hexp]
    rfl
  have hthird : orderPayStep (.cv2 n num_s exp_s) cv2_s =
      .ok (.next (.correct (.new n exp_s n.toUInt32))) := by
    rw [orderPayStep, stoui_of_stoul hnum]
    rfl
  refine run_play_cons.mpr ⟨_, _, (_, _), run_pay_next hfirst, ?_, rfl⟩
  refine run_play_cons.mpr ⟨_, _, (_, _), run_pay_next hsecond, ?_, rfl⟩
  exact run_play_cons.mpr ⟨_, _, ([], _), run_pay_next hthird, rfl, rfl⟩

theorem typed_accepted {n : UInt64} : Typed [(⟨u, payLoc order .num⟩, num_s),
    (⟨u, payLoc order (.exp n num_s)⟩, exp_s),
      (⟨u, payLoc order (.cv2 n num_s exp_s)⟩, cv2_s)] := by
  refine ⟨n, num_s, n, num_s, exp_s, ?_⟩
  simp

/-- Three lines typed at the three prompts have been accepted. -/
theorem accepted_of_typed {r : Trail × Proc} {w₁ : World}
    (hrun : run sys (Proc.play ⟨u, payLoc order .num⟩ [num_s, exp_s, cv2_s]) w = (.ok r, w₁))
    (htyped : Typed r.1) : (∃ n, stoul num_s = .ok n) ∧ (nonspace exp_s).isEmpty = false := by
  obtain ⟨p₁, v₁, r₁, hp₁, hrest₁, rfl⟩ := run_play_cons.mp hrun
  obtain ⟨p₂, v₂, r₂, hp₂, hrest₂, rfl⟩ := run_play_cons.mp hrest₁
  obtain ⟨p₃, v₃, r₃, hp₃, hrest₃, rfl⟩ := run_play_cons.mp hrest₂
  cases hrest₃
  obtain ⟨cc_num, num_s', cc_num', num_s'', cc_exp, hprompts⟩ := htyped
  simp only [List.map_cons, List.map_nil, payPrompt_payLoc, List.cons.injEq, and_true,
    true_and] at hprompts
  have hleft : ∀ loc : Loc, loc.payPrompt = none ∨ loc.payPrompt = some .num →
      loc.payPrompt ≠ some (.exp cc_num num_s') ∧
        loc.payPrompt ≠ some (.cv2 cc_num' num_s'' cc_exp) := by
    rintro loc (h | h) <;> simp [h]
  cases hnum : stoul num_s with
  | error e =>
    rcases orderPayStep_num_error hnum with hstep | hstep
    · obtain ⟨loc, hloc, hprompt⟩ := run_pay_reject u order w hstep
      rw [hp₁] at hloc
      cases hloc
      exact absurd hprompts.1 (hleft loc hprompt).1
    · rw [run_pay_error hstep] at hp₁
      cases hp₁
  | ok n =>
    refine ⟨⟨n, rfl⟩, ?_⟩
    have hfirst : orderPayStep .num num_s = .ok (.next (.exp n num_s)) := by
      rw [orderPayStep, hnum]
      rfl
    rw [run_pay_next hfirst] at hp₁
    cases hp₁
    by_contra hblank
    have hsecond : orderPayStep (.exp n num_s) exp_s = .ok .reject := by
      rw [orderPayStep, if_pos (by simpa using hblank)]
    obtain ⟨loc, hloc, hprompt⟩ := run_pay_reject u order w hsecond
    rw [hp₂] at hloc
    cases hloc
    exact absurd hprompts.2 (hleft loc hprompt).2

/-- What was typed is recorded exactly when the third line denotes the number of
the first, or when it is never typed. -/
theorem records_iff (w : World) (u : User) (order : Option Transaction) (num_s exp_s cv2_s : Text) :
    RecordsTyped w ⟨u, payLoc order .num⟩ num_s exp_s cv2_s ↔
      ¬ ((∃ n, stoul num_s = .ok n) ∧ (nonspace exp_s).isEmpty = false) ∨
        stoui cv2_s = stoui num_s := by
  constructor
  · intro h
    by_cases hvalid : (∃ n, stoul num_s = .ok n) ∧ (nonspace exp_s).isEmpty = false
    · obtain ⟨⟨n, hnum⟩, hexp⟩ := hvalid
      obtain ⟨p', w₂, hstep, hcard⟩ := run_pay_confirm u order w (.new n exp_s n.toUInt32)
        (show saysNo [] = false from rfl)
      have hrecorded := h.confirmed _ _ _ [] p' w₂ (play_accepted hnum hexp) typed_accepted
        (payPrompt_payLoc _ _) rfl hstep
      rw [hcard] at hrecorded
      rw [stoui_of_stoul hnum]
      exact .inr hrecorded.2.2
    · exact .inl hvalid
  · intro h
    have hdetermined : ∀ r w₁,
        run sys (Proc.play ⟨u, payLoc order .num⟩ [num_s, exp_s, cv2_s]) w = (.ok r, w₁) →
          Typed r.1 → ∃ n, stoul num_s = .ok n ∧ stoui cv2_s = .ok n.toUInt32 ∧
            r.2 = ⟨u, payLoc order (.correct (.new n exp_s n.toUInt32))⟩ := by
      intro r w₁ hrun htyped
      obtain ⟨⟨n, hnum⟩, hexp⟩ := accepted_of_typed hrun htyped
      have hsame := h.resolve_left fun hnot => hnot ⟨⟨n, hnum⟩, hexp⟩
      rw [play_accepted hnum hexp] at hrun
      cases hrun
      exact ⟨n, hnum, hsame.trans (stoui_of_stoul hnum), rfl⟩
    constructor
    · intro r w₁ cc line p' w₂ hrun htyped hprompt hline hstep
      obtain ⟨n, hnum, hcv2, hlast⟩ := hdetermined r w₁ hrun htyped
      rw [hlast] at hprompt hstep
      rw [payPrompt_payLoc] at hprompt
      cases hprompt
      obtain ⟨p'', w'', hstep', hcard⟩ := run_pay_confirm u order w₁
        (.new n exp_s n.toUInt32) hline
      rw [hstep] at hstep'
      cases hstep'
      rw [hcard]
      exact ⟨hnum, rfl, hcv2⟩
    · intro r w₁ hrun htyped herror
      obtain ⟨n, -, hcv2, -⟩ := hdetermined r w₁ hrun htyped
      rw [hcv2] at herror
      cases herror

/-- Both dialogues record what was typed exactly when the third line denotes the
number of the first line, or one of the first two lines is not accepted. -/
theorem payment_recorded_iff (w : World) (u : User) (order : Transaction)
    (num_s exp_s cv2_s : Text) :
    RecordsTyped w ⟨u, .orderPay order .num⟩ num_s exp_s cv2_s ∧
        RecordsTyped w ⟨u, .accountPay .num⟩ num_s exp_s cv2_s ↔
      ¬ ((∃ n, stoul num_s = .ok n) ∧ (nonspace exp_s).isEmpty = false) ∨
        stoui cv2_s = stoui num_s := by
  have horder := records_iff w u (some order) num_s exp_s cv2_s
  have haccount := records_iff w u none num_s exp_s cv2_s
  exact ⟨fun h => horder.mp h.1, fun h => ⟨horder.mpr h, haccount.mpr h⟩⟩

end Entry

end OnlineShoppingCenter

namespace OnlineShoppingCenter

open TextCodec EffectProgram

attribute [local instance] posix

def payer : User where
  user_name := "testuser003".toList

/-- Whatever is typed for the cv2, in both dialogues the account or the order gets 4929. -/
theorem cv2_line_ignored :
    ¬ RecordsTyped sampleWorld ⟨payer, .accountPay .num⟩ "4929".toList "01/19".toList "123".toList ∧
      ¬ RecordsTyped sampleWorld ⟨payer, .orderPay (.new {} (sampleId 0)) .num⟩ "4929".toList
        "01/19".toList "none".toList := by
  have hvalid : (∃ n, stoul "4929".toList = .ok n) ∧ (nonspace "01/19".toList).isEmpty = false :=
    ⟨⟨4929, by decide⟩, by decide⟩
  constructor
  · intro h
    rcases (records_iff sampleWorld payer none _ _ _).mp h with hnot | hsame
    · exact hnot hvalid
    · revert hsame
      decide
  · intro h
    rcases (records_iff sampleWorld payer (some _) _ _ _).mp h with hnot | hsame
    · exact hnot hvalid
    · revert hsame
      decide

end OnlineShoppingCenter
