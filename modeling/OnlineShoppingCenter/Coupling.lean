import OnlineShoppingCenter.Interleaving

/-!
# Coupled programs

Two programs are coupled when they issue corresponding calls as long as these
are answered correspondingly. A program that is coupled with itself does not
notice what its answers tell beyond that, and so runs beside others as it would
run alone.
-/
namespace EffectProgram

variable {S T : Signature} {ε α β α' β' W ι : Type}

/-- Which calls correspond, and when their replies do. -/
abbrev Coupling (S : Signature) := (op op' : S.Op) → (S.Ret op → S.Ret op' → Prop) → Prop

/-- Corresponding values, or the same failure. -/
inductive Outcomes (R : α → β → Prop) : Except ε α → Except ε β → Prop where
  | ok {a : α} {b : β} : R a b → Outcomes R (.ok a) (.ok b)
  | error (e : ε) : Outcomes R (.error e) (.error e)

theorem outcomes_of_map {f : α → α'} {g : β → α'} {r : Except ε α} {r' : Except ε β}
    (h : f <$> r = g <$> r') : Outcomes (fun a b => f a = g b) r r' := by
  cases r with
  | ok a =>
    cases r' with
    | ok b => exact .ok (Except.ok.inj h)
    | error e => cases h
  | error e =>
    cases r' with
    | ok b => cases h
    | error e' =>
      cases h
      exact .error e

inductive Coupled (C : Coupling S) (Q : α → β → Prop) : Prog S ε α → Prog S ε β → Prop where
  | ret {a : α} {b : β} : Q a b → Coupled C Q (.ret a) (.ret b)
  | fail (e : ε) : Coupled C Q (.fail e) (.fail e)
  | call {op op' : S.Op} {R : S.Ret op → S.Ret op' → Prop} {k : Except ε (S.Ret op) → Prog S ε α}
      {k' : Except ε (S.Ret op') → Prog S ε β} : C op op' R →
      (∀ r r', Outcomes R r r' → Coupled C Q (k r) (k' r')) →
      Coupled C Q (.call op k) (.call op' k')

section Rules

variable {C : Coupling S} {D : Coupling T} {Q : α → β → Prop} {Q' : α' → β' → Prop}

theorem Coupled.andThen {m : Prog S ε α} {m' : Prog S ε β} {k : Except ε α → Prog S ε α'}
    {k' : Except ε β → Prog S ε β'} (h : Coupled C Q m m')
    (hk : ∀ r r', Outcomes Q r r' → Coupled C Q' (k r) (k' r')) :
    Coupled C Q' (m.andThen k) (m'.andThen k') := by
  induction h with
  | ret hab => exact hk _ _ (.ok hab)
  | fail e => exact hk _ _ (.error e)
  | call hop _ ih => exact .call hop ih

theorem Coupled.bind {m : Prog S ε α} {m' : Prog S ε β} {f : α → Prog S ε α'}
    {f' : β → Prog S ε β'} (h : Coupled C Q m m')
    (hf : ∀ a b, Q a b → Coupled C Q' (f a) (f' b)) : Coupled C Q' (m >>= f) (m' >>= f') := by
  apply h.andThen
  intro r r' hr
  cases hr with
  | ok hab => exact hf _ _ hab
  | error e => exact .fail e

theorem Coupled.attempt {m : Prog S ε α} {m' : Prog S ε β} (h : Coupled C Q m m') :
    Coupled C (Outcomes Q) m.attempt m'.attempt :=
  h.andThen fun _ _ hr => .ret hr

theorem Coupled.mono {P : α → β → Prop} {m : Prog S ε α} {m' : Prog S ε β} (h : Coupled C Q m m')
    (hQ : ∀ a b, Q a b → P a b) : Coupled C P m m' := by
  induction h with
  | ret hab => exact .ret (hQ _ _ hab)
  | fail e => exact .fail e
  | call hop _ ih => exact .call hop ih

theorem Coupled.ite {c : Prop} [Decidable c] {m n : Prog S ε α} {m' n' : Prog S ε β}
    (hm : Coupled C Q m m') (hn : Coupled C Q n n') :
    Coupled C Q (if c then m else n) (if c then m' else n') := by
  by_cases h : c
  · rw [if_pos h, if_pos h]
    exact hm
  · rw [if_neg h, if_neg h]
    exact hn

theorem Coupled.perform {op op' : S.Op} {R : S.Ret op → S.Ret op' → Prop} (h : C op op' R) :
    Coupled C R (.perform op : Prog S ε (S.Ret op)) (.perform op') := by
  apply Coupled.call h
  intro r r' hr
  cases hr with
  | ok hab => exact .ret hab
  | error e => exact .fail e

theorem Coupled.ofExcept {r : Except ε α} {r' : Except ε β} (h : Outcomes Q r r') :
    Coupled C Q (.ofExcept r) (.ofExcept r') := by
  cases h with
  | ok hab => exact .ret hab
  | error e => exact .fail e

/-- A pure result that both programs compute in the same way. -/
theorem coupled_ofExcept_self (r : Except ε α) : Coupled C Eq (Prog.ofExcept r : Prog S ε α) (.ofExcept r) := by
  cases r with
  | ok a => exact .ret rfl
  | error e => exact .fail e

/-- Calls that are replaced by coupled programs. -/
theorem Coupled.interp {t : (op : S.Op) → Prog T ε (S.Ret op)}
    (ht : ∀ op op' R, C op op' R → Coupled D R (t op) (t op')) {m : Prog S ε α} {m' : Prog S ε β}
    (h : Coupled C Q m m') : Coupled D Q (m.interp t) (m'.interp t) := by
  induction h with
  | ret hab => exact .ret hab
  | fail e => exact .fail e
  | call hop _ ih => exact (ht _ _ _ hop).andThen ih

end Rules

/-- Only calls of a kind. -/
def Prog.Only (P : S.Op → Prop) : Prog S ε α → Prop
  | .ret _ | .fail _ => True
  | .call op k => P op ∧ ∀ r, (k r).Only P

section Only

variable {P : S.Op → Prop} {m : Prog S ε α}

theorem Prog.Only.andThen {k : Except ε α → Prog S ε β} (h : m.Only P) (hk : ∀ r, (k r).Only P) :
    (m.andThen k).Only P := by
  induction m with
  | ret a => exact hk (.ok a)
  | fail e => exact hk (.error e)
  | call op f ih => exact ⟨h.1, fun r => ih r (h.2 r)⟩

theorem Prog.Only.bind {f : α → Prog S ε β} (h : m.Only P) (hf : ∀ a, (f a).Only P) :
    (m >>= f).Only P := by
  apply h.andThen
  intro r
  cases r with
  | ok a => exact hf a
  | error e => trivial

theorem Prog.only_ofExcept (r : Except ε α) : (ofExcept r : Prog S ε α).Only P := by
  cases r <;> trivial

theorem Prog.only_perform {op : S.Op} (h : P op) : (perform op : Prog S ε (S.Ret op)).Only P :=
  ⟨h, only_ofExcept⟩

theorem Prog.only_interp {P : T.Op → Prop} {t : (op : S.Op) → Prog T ε (S.Ret op)}
    (ht : ∀ op, (t op).Only P) (m : Prog S ε α) : (m.interp t).Only P := by
  induction m with
  | ret a => trivial
  | fail e => trivial
  | call op k ih => exact (ht op).andThen ih

end Only

/-- A handler answers corresponding calls correspondingly and keeps its two
states related. -/
def Respects (H : Handler S ε W) (C : Coupling S) (V : W → W → Prop) : Prop :=
  ∀ op op' R w w', C op op' R → V w w' →
    Outcomes R (H op w).1 (H op' w').1 ∧ V (H op w).2 (H op' w').2

/-- Answer the next call of a program, if it has one. -/
def advance (H : Handler S ε W) : Prog S ε α → W → Prog S ε α × W
  | .call op k, w => (k (H op w).1, (H op w).2)
  | .ret a, w => (.ret a, w)
  | .fail e, w => (.fail e, w)

theorem Coupled.advance {H : Handler S ε W} {C : Coupling S} {V : W → W → Prop} {Q : α → α → Prop}
    {m m' : Prog S ε α} {w w' : W} (hH : Respects H C V) (h : Coupled C Q m m') (hV : V w w') :
    Coupled C Q (advance H m w).1 (advance H m' w').1 ∧ V (advance H m w).2 (advance H m' w').2 := by
  cases h with
  | ret hab => exact ⟨.ret hab, hV⟩
  | fail e => exact ⟨.fail e, hV⟩
  | call hop hk =>
    obtain ⟨hr, hV'⟩ := hH _ _ _ _ _ hop hV
    exact ⟨hk _ _ hr, hV'⟩

namespace Pool

variable [DecidableEq ι] {H : Handler S ε W}

theorem step_self (p : Pool S ε α W ι) (i : ι) :
    ((p.step H i).threads i, (p.step H i).state) = advance H (p.threads i) p.state := by
  unfold step
  cases h : p.threads i with
  | ret a => simp [advance, h]
  | fail e => simp [advance, h]
  | call op k => simp [advance]

theorem step_other {p : Pool S ε α W ι} {i j : ι} (h : j ≠ i) :
    (p.step H j).threads i = p.threads i := by
  unfold step
  cases p.threads j with
  | ret a => rfl
  | fail e => rfl
  | call op k => exact Function.update_of_ne (Ne.symm h) _ _

/-- Every call of another thread is of a kind, which may depend on what the
thread is about to do. -/
def Spares (H : Handler S ε W) (i : ι) (ok : Prog S ε α → W → S.Op → Prop) :
    Pool S ε α W ι → List ι → Prop
  | _, [] => True
  | p, j :: schedule =>
    (j ≠ i → ∀ op k, p.threads j = .call op k → ok (p.threads i) p.state op) ∧
      Spares H i ok (p.step H j) schedule

instance decidableSpares (H : Handler S ε W) (i : ι) (ok : Prog S ε α → W → S.Op → Prop)
    [∀ m w op, Decidable (ok m w op)] :
    ∀ (p : Pool S ε α W ι) (schedule : List ι), Decidable (p.Spares H i ok schedule)
  | _, [] => isTrue trivial
  | p, j :: schedule =>
    have : Decidable (∀ op k, p.threads j = .call op k → ok (p.threads i) p.state op) :=
      match h : p.threads j with
      | .call op k => decidable_of_iff (ok (p.threads i) p.state op)
          ⟨fun hok _ _ heq => by cases heq; exact hok, fun hall => hall op k rfl⟩
      | .ret _ | .fail _ => isTrue nofun
    have := decidableSpares H i ok (p.step H j) schedule
    inferInstanceAs (Decidable (_ ∧ _))

/-- Calls of no other kind than the other threads' programs issue. -/
theorem Spares.of_only {i : ι} {ok : Prog S ε α → W → S.Op → Prop} {P : S.Op → Prop}
    {p : Pool S ε α W ι} {schedule : List ι} (hok : p.Spares H i ok schedule)
    (h : ∀ j, j ≠ i → (p.threads j).Only P) :
    p.Spares H i (fun m w op => ok m w op ∧ P op) schedule := by
  induction schedule generalizing p with
  | nil => trivial
  | cons j schedule ih =>
    refine ⟨?_, ih hok.2 ?_⟩
    · intro hj op k hthread
      have honly := h j hj
      rw [hthread] at honly
      exact ⟨hok.1 hj op k hthread, honly.1⟩
    · intro other hother
      by_cases hj : j = other
      · subst hj
        have honly := h j hother
        unfold step
        cases hthread : p.threads j with
        | ret a => rwa [hthread] at honly ⊢
        | fail e => rwa [hthread] at honly ⊢
        | call op k =>
          rw [hthread] at honly
          simpa using honly.2 _
      · rw [step_other hj]
        exact h other hother

/-- Its own turns do not change what a thread will end with. -/
theorem run_own_turns {i : ι} {turns : List ι} (hturns : ∀ j ∈ turns, j = i) (p : Pool S ε α W ι) :
    EffectProgram.run H ((p.run H turns).threads i) (p.run H turns).state =
      EffectProgram.run H (p.threads i) p.state := by
  induction turns generalizing p with
  | nil => rfl
  | cons j turns ih =>
    obtain rfl := hturns j List.mem_cons_self
    rw [run_cons, ih fun other hother => hturns other (List.mem_cons_of_mem _ hother)]
    unfold step
    cases hthread : p.threads j with
    | ret a => simp [hthread]
    | fail e => simp [hthread]
    | call op k => simp

/-- A thread among others that spare it, beside the same thread with the turns
of the others left out. -/
theorem run_beside {i : ι} {ok : Prog S ε α → W → S.Op → Prop}
    {V : Prog S ε α → W → Prog S ε α → W → Prop}
    (hown : ∀ m w m' w', V m w m' w' →
      V (advance H m w).1 (advance H m w).2 (advance H m' w').1 (advance H m' w').2)
    (hother : ∀ m w m' w' op, V m w m' w' → ok m' w' op → V m w m' (H op w').2)
    {p q : Pool S ε α W ι} {schedule : List ι} (h : V (q.threads i) q.state (p.threads i) p.state)
    (hok : p.Spares H i ok schedule) :
    let q' := q.run H (schedule.filter (· = i))
    let p' := p.run H schedule
    V (q'.threads i) q'.state (p'.threads i) p'.state := by
  induction schedule generalizing p q with
  | nil => exact h
  | cons j schedule ih =>
    by_cases hj : j = i
    · subst hj
      have hself := hown _ _ _ _ h
      rw [← step_self q j, ← step_self p j] at hself
      simpa using ih hself hok.2
    · have hstep : V (q.threads i) q.state ((p.step H j).threads i) (p.step H j).state := by
        rw [step_other hj]
        have hkind := hok.1 hj
        unfold step
        cases hthread : p.threads j with
        | ret a => exact h
        | fail e => exact h
        | call op k => exact hother _ _ _ _ op h (hkind op k hthread)
      simpa [hj] using ih hstep hok.2

end Pool

end EffectProgram
