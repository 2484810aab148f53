import OnlineShoppingCenter.Coupling

/-!
# Programs on top of programs

Replacing the calls of a program commutes with everything a program is built
from, and may be done in steps. Coupled programs end alike under a handler that
respects the coupling, and a program that keeps to a contract meets its
preconditions at each call that a run comes to.
-/
namespace EffectProgram

variable {S T U : Signature} {ε α β γ W G : Type}

namespace Prog

theorem andThen_assoc (m : Prog S ε α) (f : Except ε α → Prog S ε β)
    (h : Except ε β → Prog S ε γ) :
    (m.andThen f).andThen h = m.andThen fun r => (f r).andThen h := by
  induction m with
  | ret a => rfl
  | fail e => rfl
  | call op k ih =>
    simp only [andThen]
    congr 1
    funext r
    exact ih r

@[simp] theorem ofExcept_andThen (r : Except ε α) (f : Except ε α → Prog S ε β) :
    (ofExcept r : Prog S ε α).andThen f = f r := by
  cases r <;> rfl

theorem andThen_ofExcept (m : Prog S ε α) : m.andThen ofExcept = m := by
  induction m with
  | ret a => rfl
  | fail e => rfl
  | call op k ih =>
    simp only [andThen]
    congr 1
    funext r
    exact ih r

section Interp

variable (t : (op : S.Op) → Prog T ε (S.Ret op))

@[simp] theorem interp_ret (a : α) : (ret a : Prog S ε α).interp t = ret a := rfl
@[simp] theorem interp_fail (e : ε) : (fail e : Prog S ε α).interp t = fail e := rfl

theorem interp_andThen (m : Prog S ε α) (f : Except ε α → Prog S ε β) :
    (m.andThen f).interp t = (m.interp t).andThen fun r => (f r).interp t := by
  induction m with
  | ret a => rfl
  | fail e => rfl
  | call op k ih =>
    simp only [andThen, interp, andThen_assoc]
    congr 1
    funext r
    exact ih r

@[simp] theorem interp_bind (m : Prog S ε α) (f : α → Prog S ε β) :
    (m >>= f).interp t = m.interp t >>= fun a => (f a).interp t := by
  refine (interp_andThen t m _).trans (congrArg _ ?_)
  funext r
  cases r <;> rfl

@[simp] theorem interp_attempt (m : Prog S ε α) : m.attempt.interp t = (m.interp t).attempt :=
  interp_andThen t m ret

@[simp] theorem interp_ofExcept (r : Except ε α) :
    (ofExcept r : Prog S ε α).interp t = ofExcept r := by
  cases r <;> rfl

@[simp] theorem interp_perform (op : S.Op) : (perform op).interp t = t op := by
  change (t op).andThen (fun r => (ofExcept r).interp t) = t op
  simp only [interp_ofExcept]
  exact andThen_ofExcept (t op)

@[simp] theorem interp_ite (c : Prop) [Decidable c] (m n : Prog S ε α) :
    (if c then m else n).interp t = if c then m.interp t else n.interp t :=
  apply_ite (interp t) c m n

end Interp

/-- Calls replaced twice are replaced once, by what the replacements become. -/
theorem interp_interp (t : (op : S.Op) → Prog T ε (S.Ret op))
    (u : (op : T.Op) → Prog U ε (T.Ret op)) (m : Prog S ε α) :
    (m.interp t).interp u = m.interp fun op => (t op).interp u := by
  induction m with
  | ret a => rfl
  | fail e => rfl
  | call op k ih =>
    simp only [interp, interp_andThen]
    congr 1
    funext r
    exact ih r

/-- Calls replaced by themselves. -/
theorem interp_self (m : Prog S ε α) : m.interp perform = m := by
  induction m with
  | ret a => rfl
  | fail e => rfl
  | call op k ih =>
    simp only [interp, perform, andThen, ofExcept_andThen]
    congr 1
    funext r
    exact ih r

end Prog

/-- Coupled programs end alike from related states. -/
theorem Coupled.run {H : Handler S ε W} {C : Coupling S} {V : W → W → Prop} {Q : α → β → Prop}
    {m : Prog S ε α} {m' : Prog S ε β} {w w' : W} (hH : Respects H C V) (h : Coupled C Q m m')
    (hV : V w w') :
    Outcomes Q (EffectProgram.run H m w).1 (EffectProgram.run H m' w').1 ∧
      V (EffectProgram.run H m w).2 (EffectProgram.run H m' w').2 := by
  induction h generalizing w w' with
  | ret hab => exact ⟨.ok hab, hV⟩
  | fail e => exact ⟨.error e, hV⟩
  | call hop _ ih =>
    obtain ⟨hr, hV'⟩ := hH _ _ _ _ _ hop hV
    exact ih _ _ hr hV'

/-- A program whose calls are all coupled with themselves. -/
theorem coupled_self {C : Coupling S} {P : S.Op → Prop} (hC : ∀ op, P op → C op op Eq)
    {m : Prog S ε α} (hm : m.Only P) : Coupled C Eq m m := by
  induction m with
  | ret a => exact .ret rfl
  | fail e => exact .fail e
  | call op k ih =>
    apply Coupled.call (hC op hm.1)
    intro r r' hr
    have hreply : r = r' := by
      cases hr with
      | ok hab => rw [hab]
      | error e => rfl
    rw [hreply]
    exact ih r' (hm.2 r')

/-- A handler that does the same on another picture of the state. -/
theorem run_perform (H : Handler S ε W) (op : S.Op) (w : W) : run H (.perform op) w = H op w := by
  unfold Prog.perform
  rw [run_call]
  cases h : (H op w).1 <;> exact Prod.ext h.symm rfl

theorem run_of_same {W' : Type} {H : Handler S ε W} {H' : Handler S ε W'} {f : W → W'}
    (h : ∀ op w, H' op (f w) = ((H op w).1, f (H op w).2)) (m : Prog S ε α) (w : W) :
    run H' m (f w) = ((run H m w).1, f (run H m w).2) := by
  induction m generalizing w with
  | ret a => rfl
  | fail e => rfl
  | call op k ih => rw [run_call, run_call, h, ih]

/-- A contract for the calls that are replaced by programs, where these keep to
one with a larger state. -/
theorem wp_interp_map {G' : Type} {C : Contract S ε G} {D : Contract T ε G'} {f : G → G'}
    {t : (op : S.Op) → Prog T ε (S.Ret op)}
    (ht : ∀ op g, C.pre g op → wp D (t op) (f g) (fun a g'' => ∃ g', C.post g op (.ok a) g' ∧ g'' = f g')
      fun e g'' => ∃ g', C.post g op (.error e) g' ∧ g'' = f g')
    {m : Prog S ε α} {g : G} {Q : α → G → Prop} {E : ε → G → Prop} (h : wp C m g Q E) :
    wp D (m.interp t) (f g) (fun a g'' => ∃ g', Q a g' ∧ g'' = f g')
      fun e g'' => ∃ g', E e g' ∧ g'' = f g' := by
  induction m generalizing g with
  | ret a => exact ⟨g, h, rfl⟩
  | fail e => exact ⟨g, h, rfl⟩
  | call op k ih =>
    rw [Prog.interp, wp_andThen]
    refine wp_mono (ht op g h.1) ?_ ?_
    · rintro a _ ⟨g', ha, rfl⟩
      exact ih (.ok a) (h.2 (.ok a) g' ha)
    · rintro e _ ⟨g', he, rfl⟩
      exact ih (.error e) (h.2 (.error e) g' he)

section Counted

variable {ι : Type} [DecidableEq ι] {H : Handler S ε W} (count : W → Nat) {P : S.Op → Prop}

/-- A count that no call lowers does not fall in an interleaving. -/
theorem Pool.count_le_run (hle : ∀ op w, count w ≤ count (H op w).2) (p : Pool S ε α W ι)
    (schedule : List ι) : count p.state ≤ count (p.run H schedule).state := by
  induction schedule generalizing p with
  | nil => exact le_refl _
  | cons i schedule ih =>
    have hstep : count p.state ≤ count (p.step H i).state := by
      unfold step
      cases p.threads i with
      | ret a => exact le_refl _
      | fail e => exact le_refl _
      | call op k => exact hle op p.state
    exact hstep.trans (ih (p.step H i))

/-- Calls that raise a count are made below the count of the end. -/
theorem Pool.meets_count (hle : ∀ op w, count w ≤ count (H op w).2)
    (hlt : ∀ op w, P op → count w < count (H op w).2) {n : Nat} {p : Pool S ε α W ι}
    {schedule : List ι} (h : count (p.run H schedule).state ≤ n) :
    p.Meets H (fun w op => P op → count w < n) schedule := by
  induction schedule generalizing p with
  | nil => trivial
  | cons i schedule ih =>
    refine ⟨?_, ih h⟩
    intro op k hthread hop
    have hstep : count p.state < count (p.step H i).state := by
      rw [step, hthread]
      exact hlt op p.state hop
    exact hstep.trans_le ((Pool.count_le_run count hle (p.step H i) schedule).trans h)

end Counted

/-- Threads that are coupled one by one stay so, in any order of their turns. -/
theorem Pool.coupled_run {ι : Type} [DecidableEq ι] {H : Handler S ε W} {C : Coupling S}
    {V : W → W → Prop} {Q : α → α → Prop} (hH : Respects H C V) {p p' : Pool S ε α W ι}
    (h : ∀ i, Coupled C Q (p.threads i) (p'.threads i)) (hV : V p.state p'.state)
    (schedule : List ι) :
    (∀ i, Coupled C Q ((p.run H schedule).threads i) ((p'.run H schedule).threads i)) ∧
      V (p.run H schedule).state (p'.run H schedule).state := by
  induction schedule generalizing p p' with
  | nil => exact ⟨h, hV⟩
  | cons j schedule ih =>
    have hself := (h j).advance hH hV
    rw [← step_self p j, ← step_self p' j] at hself
    rw [run_cons, run_cons]
    apply ih _ hself.2
    intro i
    by_cases hi : j = i
    · subst hi
      exact hself.1
    · rw [step_other hi, step_other hi]
      exact h i

/-- A handler that runs a lower program for each call respects what these are coupled for. -/
theorem Respects.lift {H : Handler T ε W} {D : Coupling T} {C : Coupling S} {V : W → W → Prop}
    {t : (op : S.Op) → Prog T ε (S.Ret op)} (hH : Respects H D V)
    (ht : ∀ op op' R, C op op' R → Coupled D R (t op) (t op')) : Respects (H.lift t) C V :=
  fun _ _ _ _ _ hop hV => (ht _ _ _ hop).run hH hV

section Muted

variable {W' ι : Type}

/-- Some calls are left out and the others stand for one call below. -/
def Mutes (H : Handler S ε W) (H' : Handler T ε W') (t : (op : S.Op) → Prog T ε (S.Ret op))
    (view : W → W') : Prop :=
  ∀ op, (∃ a, t op = .ret a ∧ ∀ w, (H op w).1 = .ok a ∧ view (H op w).2 = view w) ∨
    ∃ (op' : T.Op) (reply : Except ε (T.Ret op') → Except ε (S.Ret op)),
      t op = .call op' (fun r => .ofExcept (reply r)) ∧
        ∀ w, (H op w).1 = reply (H' op' (view w)).1 ∧ view (H op w).2 = (H' op' (view w)).2

variable {H : Handler S ε W} {H' : Handler T ε W'} {t : (op : S.Op) → Prog T ε (S.Ret op)}
  {view : W → W'}

namespace Pool

variable [DecidableEq ι]

/-- The threads with some calls left out, on the view of the state. -/
def muted (t : (op : S.Op) → Prog T ε (S.Ret op)) (view : W → W') (p : Pool S ε α W ι) :
    Pool T ε α W' ι := ⟨fun i => (p.threads i).interp t, view p.state⟩

theorem step_of_call {H : Handler S ε W} {p : Pool S ε α W ι} {i : ι} {op : S.Op}
    {k : Except ε (S.Ret op) → Prog S ε α} (hi : p.threads i = .call op k) :
    p.step H i = ⟨Function.update p.threads i (k (H op p.state).1), (H op p.state).2⟩ := by
  rw [step, hi]

theorem muted_step (h : Mutes H H' t view) (p : Pool S ε α W ι) (i : ι) :
    (p.step H i).muted t view = p.muted t view ∨
      (p.step H i).muted t view = (p.muted t view).step H' i := by
  cases hi : p.threads i with
  | ret a =>
    left
    rw [step, hi]
  | fail e =>
    left
    rw [step, hi]
  | call op k =>
    have hthreads : ∀ m : Prog S ε α, (fun j => (Function.update p.threads i m j).interp t) =
        Function.update (fun j => (p.threads j).interp t) i (m.interp t) := by
      intro m
      funext j
      by_cases hj : j = i
      · subst hj
        simp
      · simp [Function.update_of_ne hj]
    have hmuted : (p.muted t view).threads i = (t op).andThen fun r => (k r).interp t := by
      simp only [muted, hi, Prog.interp]
    rw [step_of_call hi]
    unfold muted
    dsimp only
    rw [hthreads]
    rcases h op with ⟨a, ht, hop⟩ | ⟨op', reply, ht, hop⟩
    · left
      have hself : (k (H op p.state).1).interp t = (p.threads i).interp t := by
        rw [hi, Prog.interp, ht, (hop p.state).1]
        rfl
      rw [hself, (hop p.state).2, Function.update_eq_self]
    · right
      have hcall : (p.muted t view).threads i = .call op' fun r => (k (reply r)).interp t := by
        rw [hmuted, ht]
        simp only [Prog.andThen, Prog.ofExcept_andThen]
      rw [(hop p.state).1, (hop p.state).2]
      exact (step_of_call hcall).symm

/-- Any interleaving, with the turns for the calls left out deleted. -/
theorem exists_run_muted (h : Mutes H H' t view) (p : Pool S ε α W ι) (schedule : List ι) :
    ∃ turns, turns.Sublist schedule ∧
      (p.muted t view).run H' turns = (p.run H schedule).muted t view := by
  induction schedule generalizing p with
  | nil => exact ⟨[], List.Sublist.slnil, rfl⟩
  | cons i schedule ih =>
    obtain ⟨turns, hsub, hrun⟩ := ih (p.step H i)
    rcases muted_step h p i with hstep | hstep
    · rw [hstep] at hrun
      exact ⟨turns, hsub.cons i, hrun⟩
    · rw [hstep] at hrun
      exact ⟨i :: turns, hsub.cons_cons i, hrun⟩

end Pool

end Muted

/-- The calls a run comes to, each with the state it finds. -/
def visits (H : Handler S ε W) : Prog S ε α → W → List (W × S.Op)
  | .call op k, w => (w, op) :: visits H (k (H op w).1) (H op w).2
  | .ret _, _ | .fail _, _ => []

/-- Every call of a run is made in a state that its precondition allows. -/
theorem pre_of_wp {H : Handler S ε W} {C : Contract S ε G} {R : W → G → Prop}
    (hH : Implements H C R) {m : Prog S ε α} {w : W} {g : G} {Q : α → G → Prop}
    {E : ε → G → Prop} (hR : R w g) (h : wp C m g Q E) :
    ∀ v ∈ visits H m w, ∃ g', R v.1 g' ∧ C.pre g' v.2 := by
  induction m generalizing w g with
  | ret a => simp [visits]
  | fail e => simp [visits]
  | call op k ih =>
    intro v hv
    rcases List.mem_cons.mp hv with rfl | hv
    · exact ⟨g, hR, h.1⟩
    · obtain ⟨g', hpost, hR'⟩ := hH op w g hR h.1
      exact ih _ hR' (h.2 _ g' hpost) v hv

end EffectProgram
