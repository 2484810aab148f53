import OnlineShoppingCenter.EffectProgram

/-!
# Interleaved programs

Programs that share a state run in turns: the thread that is scheduled has its
next call answered, the others stand still. What a thread may rely on is its
contract; the shared state is related to the contract states of all threads at
once, so that every answer has to leave the others what they rely on.
-/
namespace EffectProgram

variable {S T : Signature} {ε α β W G ι : Type}

structure Pool (S : Signature) (ε α W ι : Type) where
  threads : ι → Prog S ε α
  state : W

namespace Pool

variable [DecidableEq ι]

/-- Answer the next call of a thread. A thread that has ended does nothing. -/
def step (H : Handler S ε W) (p : Pool S ε α W ι) (i : ι) : Pool S ε α W ι :=
  match p.threads i with
  | .call op k => ⟨Function.update p.threads i (k (H op p.state).1), (H op p.state).2⟩
  | .ret _ | .fail _ => p

def run (H : Handler S ε W) (p : Pool S ε α W ι) (schedule : List ι) : Pool S ε α W ι :=
  schedule.foldl (step H) p

@[simp] theorem run_nil (H : Handler S ε W) (p : Pool S ε α W ι) : p.run H [] = p := rfl
@[simp] theorem run_cons (H : Handler S ε W) (p : Pool S ε α W ι) (i : ι) (schedule : List ι) :
    p.run H (i :: schedule) = (p.step H i).run H schedule := rfl

theorem run_append (H : Handler S ε W) (p : Pool S ε α W ι) (first rest : List ι) :
    p.run H (first ++ rest) = (p.run H first).run H rest := List.foldl_append

/-- How a program that has run to its end stands. -/
def ended : Except ε α → Prog S ε α
  | .ok a => .ret a
  | .error e => .fail e

/-- Enough turns in a row run a thread to its end. -/
theorem exists_run_alone (H : Handler S ε W) {p : Pool S ε α W ι} {i : ι} {m : Prog S ε α}
    (hm : p.threads i = m) :
    ∃ n, p.run H (List.replicate n i) =
      ⟨Function.update p.threads i (ended (EffectProgram.run H m p.state).1),
        (EffectProgram.run H m p.state).2⟩ := by
  induction m generalizing p with
  | ret a =>
    have hself : Function.update p.threads i (.ret a) = p.threads := by
      rw [← hm, Function.update_eq_self]
    refine ⟨0, ?_⟩
    rw [run_ret, ended, hself]
    rfl
  | fail e =>
    have hself : Function.update p.threads i (.fail e) = p.threads := by
      rw [← hm, Function.update_eq_self]
    refine ⟨0, ?_⟩
    rw [run_fail, ended, hself]
    rfl
  | call op k ih =>
    have hstep : p.step H i =
        ⟨Function.update p.threads i (k (H op p.state).1), (H op p.state).2⟩ := by simp [step, hm]
    have hnext : (p.step H i).threads i = k (H op p.state).1 := by simp [hstep]
    obtain ⟨n, hn⟩ := ih _ hnext
    refine ⟨n + 1, ?_⟩
    rw [List.replicate_succ, run_cons, hn, hstep, run_call]
    simp

/-- Every call answered on the way is of a kind. -/
def Meets (H : Handler S ε W) (ok : W → S.Op → Prop) : Pool S ε α W ι → List ι → Prop
  | _, [] => True
  | p, i :: schedule =>
    (∀ op k, p.threads i = .call op k → ok p.state op) ∧ Meets H ok (p.step H i) schedule

instance decidableMeets (H : Handler S ε W) (ok : W → S.Op → Prop) [∀ w op, Decidable (ok w op)] :
    ∀ (p : Pool S ε α W ι) (schedule : List ι), Decidable (p.Meets H ok schedule)
  | _, [] => isTrue trivial
  | p, i :: schedule =>
    have : Decidable (∀ op k, p.threads i = .call op k → ok p.state op) :=
      match h : p.threads i with
      | .call op k => decidable_of_iff (ok p.state op)
          ⟨fun hok _ _ heq => by cases heq; exact hok, fun hall => hall op k rfl⟩
      | .ret _ | .fail _ => isTrue nofun
    have := decidableMeets H ok (p.step H i) schedule
    inferInstanceAs (Decidable (_ ∧ _))

theorem meets_true (H : Handler S ε W) (p : Pool S ε α W ι) (schedule : List ι) :
    p.Meets H (fun _ _ => True) schedule := by
  induction schedule generalizing p with
  | nil => trivial
  | cons i schedule ih => exact ⟨fun _ _ _ => trivial, ih _⟩

end Pool

/-- The handler keeps to the contract of whichever thread calls, and keeps the
state related to the contract states of all of them. -/
def Serves [DecidableEq ι] (H : Handler S ε W) (C : ι → Contract S ε G)
    (R : W → (ι → G) → Prop) (ok : W → S.Op → Prop) : Prop :=
  ∀ i op w g, R w g → ok w op → (C i).pre (g i) op →
    ∃ g', (C i).post (g i) op (H op w).1 g' ∧ R (H op w).2 (Function.update g i g')

section Keeps

variable [DecidableEq ι] {H : Handler S ε W} {C : ι → Contract S ε G} {R : W → (ι → G) → Prop}
  {ok : W → S.Op → Prop} {p : Pool S ε α W ι} {g : ι → G} {Q : ι → α → G → Prop}
  {E : ι → ε → G → Prop}

/-- One turn keeps what all threads rely on. -/
theorem Pool.step_keeps (hH : Serves H C R ok) (hR : R p.state g)
    (h : ∀ i, wp (C i) (p.threads i) (g i) (Q i) (E i)) (i : ι)
    (hok : ∀ op k, p.threads i = .call op k → ok p.state op) :
    ∃ g', R (p.step H i).state g' ∧ ∀ j, wp (C j) ((p.step H i).threads j) (g' j) (Q j) (E j) := by
  cases hi : p.threads i with
  | ret a =>
    have hstep : p.step H i = p := by simp [Pool.step, hi]
    rw [hstep]
    exact ⟨g, hR, h⟩
  | fail e =>
    have hstep : p.step H i = p := by simp [Pool.step, hi]
    rw [hstep]
    exact ⟨g, hR, h⟩
  | call op k =>
    have hwp := h i
    rw [hi] at hwp
    obtain ⟨g', hpost, hR'⟩ := hH i op p.state g hR (hok op k hi) hwp.1
    have hstep : p.step H i =
        ⟨Function.update p.threads i (k (H op p.state).1), (H op p.state).2⟩ := by
      simp [Pool.step, hi]
    rw [hstep]
    refine ⟨Function.update g i g', hR', ?_⟩
    intro j
    by_cases hj : j = i
    · subst hj
      simpa using hwp.2 _ g' hpost
    · simpa [Function.update_of_ne hj] using h j

/-- So does any schedule whose calls are all of the kind. -/
theorem Pool.run_keeps (hH : Serves H C R ok) (hR : R p.state g)
    (h : ∀ i, wp (C i) (p.threads i) (g i) (Q i) (E i)) (schedule : List ι)
    (hok : p.Meets H ok schedule) :
    ∃ g', R (p.run H schedule).state g' ∧
      ∀ i, wp (C i) ((p.run H schedule).threads i) (g' i) (Q i) (E i) := by
  induction schedule generalizing p g with
  | nil => exact ⟨g, hR, h⟩
  | cons i schedule ih =>
    obtain ⟨g', hR', h'⟩ := Pool.step_keeps hH hR h i hok.1
    exact ih hR' h' hok.2

/-- What a turn keeps exactly when its call is of a kind holds at every point of a
schedule exactly when all its calls are of the kind. -/
theorem Pool.holds_iff_meets {K : W → Prop} (hH : Serves H C R fun _ _ => True)
    (hstep : ∀ i op w g, R w g → (C i).pre (g i) op → K w → (K (H op w).2 ↔ ok w op))
    (hR : R p.state g) (h : ∀ i, wp (C i) (p.threads i) (g i) (Q i) (E i)) (hK : K p.state)
    (schedule : List ι) :
    (∀ turns, turns <+: schedule → K (p.run H turns).state) ↔ p.Meets H ok schedule := by
  induction schedule generalizing p g with
  | nil => simpa [Meets] using hK
  | cons i schedule ih =>
    obtain ⟨g', hR', h'⟩ := Pool.step_keeps hH hR h i fun _ _ _ => trivial
    have hfirst : K (p.step H i).state ↔ ∀ op k, p.threads i = .call op k → ok p.state op := by
      unfold Pool.step
      have hi := h i
      cases hthread : p.threads i with
      | ret a => simpa using hK
      | fail e => simpa using hK
      | call op k =>
        rw [hthread] at hi
        have hone := hstep i op p.state g hR hi.1 hK
        constructor
        · rintro hK' _ _ ⟨⟩
          exact hone.mp hK'
        · exact fun hok => hone.mpr (hok op k rfl)
    rw [Meets, ← hfirst]
    constructor
    · intro hall
      have hone : K (p.step H i).state := hall [i] (by simp)
      refine ⟨hone, (ih hR' h' hone).mp ?_⟩
      intro turns hturns
      exact hall (i :: turns) (List.cons_prefix_cons.mpr ⟨rfl, hturns⟩)
    · rintro ⟨hone, hrest⟩ turns hturns
      cases turns with
      | nil => exact hK
      | cons j turns =>
        obtain ⟨rfl, hback⟩ := List.cons_prefix_cons.mp hturns
        exact (ih hR' h' hone).mpr hrest turns hback

end Keeps

/-- A contract for the calls that are replaced by programs, from the programs. -/
theorem wp_interp {C : Contract S ε G} {D : Contract T ε G}
    {t : (op : S.Op) → Prog T ε (S.Ret op)}
    (ht : ∀ op g, C.pre g op → wp D (t op) g (fun a g' => C.post g op (.ok a) g')
      (fun e g' => C.post g op (.error e) g'))
    {m : Prog S ε α} {g : G} {Q : α → G → Prop} {E : ε → G → Prop} (h : wp C m g Q E) :
    wp D (m.interp t) g Q E := by
  induction m generalizing g with
  | ret a => exact h
  | fail e => exact h
  | call op k ih =>
    rw [Prog.interp, wp_andThen]
    refine wp_mono (ht op g h.1) ?_ ?_
    · intro a g' ha
      exact ih (.ok a) (h.2 (.ok a) g' ha)
    · intro e g' he
      exact ih (.error e) (h.2 (.error e) g' he)

end EffectProgram
