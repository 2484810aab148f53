import Mathlib

/-!
# Programs that issue calls

A program over a signature is a finite tree: it returns, fails, or issues one
call and continues with the reply, which may itself be a failure. A handler
gives every call a meaning on a state. A sequential run answers the calls one
after the other; the proof rules below follow the calls, not the state.
-/
namespace EffectProgram

structure Signature where
  Op : Type
  Ret : Op → Type

variable {S T : Signature} {ε α β γ W G : Type}

inductive Prog (S : Signature) (ε α : Type) where
  | ret : α → Prog S ε α
  | fail : ε → Prog S ε α
  | call : (op : S.Op) → (Except ε (S.Ret op) → Prog S ε α) → Prog S ε α

namespace Prog

/-- Continue with the outcome of a program, whether it returned or failed. -/
def andThen : Prog S ε α → (Except ε α → Prog S ε β) → Prog S ε β
  | .ret a, k => k (.ok a)
  | .fail e, k => k (.error e)
  | .call op f, k => .call op (fun r => andThen (f r) k)

def ofExcept : Except ε α → Prog S ε α
  | .ok a => .ret a
  | .error e => .fail e

def bind (m : Prog S ε α) (f : α → Prog S ε β) : Prog S ε β :=
  m.andThen (fun r => match r with | .ok a => f a | .error e => .fail e)

/-- Run a program and hand its outcome to the caller as a value. -/
def attempt (m : Prog S ε α) : Prog S ε (Except ε α) := m.andThen .ret

def perform (op : S.Op) : Prog S ε (S.Ret op) := .call op ofExcept

instance : Monad (Prog S ε) where
  pure := .ret
  bind := .bind

@[simp] theorem pure_eq (a : α) : (pure a : Prog S ε α) = .ret a := rfl
@[simp] theorem ret_bind (a : α) (f : α → Prog S ε β) :
    (Prog.ret a : Prog S ε α) >>= f = f a := rfl
@[simp] theorem fail_bind (e : ε) (f : α → Prog S ε β) :
    (Prog.fail e : Prog S ε α) >>= f = .fail e := rfl
@[simp] theorem call_bind (op : S.Op) (k : Except ε (S.Ret op) → Prog S ε α)
    (f : α → Prog S ε β) : Prog.call op k >>= f = .call op (fun r => k r >>= f) := rfl
@[simp] theorem ofExcept_ok (a : α) : (ofExcept (.ok a) : Prog S ε α) = .ret a := rfl
@[simp] theorem ofExcept_error (e : ε) : (ofExcept (.error e) : Prog S ε α) = .fail e := rfl

theorem bind_assoc (m : Prog S ε α) (f : α → Prog S ε β) (h : β → Prog S ε γ) :
    m >>= f >>= h = m >>= fun a => f a >>= h := by
  induction m with
  | ret a => rfl
  | fail e => rfl
  | call op k ih =>
    simp only [call_bind]
    congr 1
    funext r
    exact ih r

theorem bind_ret (m : Prog S ε α) : m >>= .ret = m := by
  induction m with
  | ret a => rfl
  | fail e => rfl
  | call op k ih =>
    rw [call_bind]
    congr 1
    funext r
    exact ih r

/-- Looking at the outcome and passing a failure on. -/
theorem bind_eq_attempt (m : Prog S ε α) (f : α → Prog S ε β) :
    m >>= f = m.attempt >>= fun r => match r with | .ok a => f a | .error e => .fail e := by
  induction m with
  | ret a => rfl
  | fail e => rfl
  | call op k ih =>
    change Prog.call op _ = Prog.call op _
    congr 1
    funext r
    exact ih r

instance : LawfulMonad (Prog S ε) := LawfulMonad.mk' _ bind_ret (fun _ _ => rfl) bind_assoc

theorem ofExcept_bind (r : Except ε α) (f : α → Except ε β) :
    (ofExcept (r >>= f) : Prog S ε β) = ofExcept r >>= fun a => ofExcept (f a) := by
  cases r <;> rfl

@[simp] theorem ofExcept_pure (a : α) : (ofExcept (pure a) : Prog S ε α) = .ret a := rfl

/-- Replace every call by a program over a lower signature. -/
def interp (t : (op : S.Op) → Prog T ε (S.Ret op)) : Prog S ε α → Prog T ε α
  | .ret a => .ret a
  | .fail e => .fail e
  | .call op k => (t op).andThen (fun r => interp t (k r))

end Prog

/-- What a call does to the state, and what it answers. -/
abbrev Handler (S : Signature) (ε W : Type) :=
  (op : S.Op) → W → Except ε (S.Ret op) × W

def run (H : Handler S ε W) : Prog S ε α → W → Except ε α × W
  | .ret a, w => (.ok a, w)
  | .fail e, w => (.error e, w)
  | .call op k, w => run H (k (H op w).1) (H op w).2

@[simp] theorem run_ret (H : Handler S ε W) (a : α) (w : W) :
    run H (.ret a) w = (.ok a, w) := rfl
@[simp] theorem run_fail (H : Handler S ε W) (e : ε) (w : W) :
    run H (.fail e : Prog S ε α) w = (.error e, w) := rfl
@[simp] theorem run_call (H : Handler S ε W) (op : S.Op)
    (k : Except ε (S.Ret op) → Prog S ε α) (w : W) :
    run H (.call op k) w = run H (k (H op w).1) (H op w).2 := rfl

theorem run_andThen (H : Handler S ε W) (m : Prog S ε α) (k : Except ε α → Prog S ε β)
    (w : W) : run H (m.andThen k) w = run H (k (run H m w).1) (run H m w).2 := by
  induction m generalizing w with
  | ret a => rfl
  | fail e => rfl
  | call op f ih => simpa [Prog.andThen] using ih (H op w).1 (H op w).2

section Bind

variable {H : Handler S ε W} {m : Prog S ε α} {f : α → Prog S ε β} {w w' : W}

theorem run_bind_ok {a : α} (h : run H m w = (.ok a, w')) :
    run H (m >>= f) w = run H (f a) w' := by
  change run H (m.andThen _) w = _
  rw [run_andThen, h]

theorem run_bind_error {e : ε} (h : run H m w = (.error e, w')) :
    run H (m >>= f) w = (.error e, w') := by
  change run H (m.andThen _) w = _
  rw [run_andThen, h]
  rfl

theorem run_bind_eq_ok {b : β} {w'' : W} : run H (m >>= f) w = (.ok b, w'') ↔
    ∃ a w', run H m w = (.ok a, w') ∧ run H (f a) w' = (.ok b, w'') := by
  cases hm : run H m w with
  | mk r w' =>
    cases r with
    | ok a =>
      rw [run_bind_ok hm]
      simp
    | error e =>
      rw [run_bind_error hm]
      simp

end Bind

/-- A handler obtained by running a lower program for each call. -/
def Handler.lift (H : Handler T ε W) (t : (op : S.Op) → Prog T ε (S.Ret op)) :
    Handler S ε W := fun op w => run H (t op) w

/-- Running the replaced program is running the program with the lifted handler. -/
theorem run_interp (H : Handler T ε W) (t : (op : S.Op) → Prog T ε (S.Ret op))
    (m : Prog S ε α) (w : W) : run H (m.interp t) w = run (H.lift t) m w := by
  induction m generalizing w with
  | ret a => rfl
  | fail e => rfl
  | call op k ih =>
    rw [Prog.interp, run_andThen, ih]
    rfl

/-- Keep a journal of the calls answered, in order. -/
def Handler.logged (H : Handler S ε W) : Handler S ε (W × List S.Op) :=
  fun op s => ((H op s.1).1, ((H op s.1).2, s.2 ++ [op]))

/-- The journal does not influence the run. -/
theorem run_logged (H : Handler S ε W) (m : Prog S ε α) (w : W) (l : List S.Op) :
    (run H.logged m (w, l)).1 = (run H m w).1 ∧
      (run H.logged m (w, l)).2.1 = (run H m w).2 := by
  induction m generalizing w l with
  | ret a => exact ⟨rfl, rfl⟩
  | fail e => exact ⟨rfl, rfl⟩
  | call op k ih => exact ih _ _ _

theorem run_logged_eq {H : Handler S ε W} {m : Prog S ε α} {r : Except ε α} {w w' : W}
    (h : run H m w = (r, w')) (l : List S.Op) :
    ∃ l', run H.logged m (w, l) = (r, (w', l')) := by
  obtain ⟨hvalue, hstate⟩ := run_logged H m w l
  rw [h] at hvalue hstate
  exact ⟨_, Prod.ext hvalue (Prod.ext hstate rfl)⟩

/-- Which calls are allowed in a state, and how each may answer and move it. -/
structure Contract (S : Signature) (ε G : Type) where
  pre : G → S.Op → Prop
  post : G → (op : S.Op) → Except ε (S.Ret op) → G → Prop

/-- Every way the program can run under the contract keeps to its
preconditions and ends in `Q` or, when it fails, in `E`. -/
def wp (C : Contract S ε G) : Prog S ε α → G → (α → G → Prop) → (ε → G → Prop) → Prop
  | .ret a, g, Q, _ => Q a g
  | .fail e, g, _, E => E e g
  | .call op k, g, Q, E => C.pre g op ∧ ∀ r g', C.post g op r g' → wp C (k r) g' Q E

section Rules

variable {C : Contract S ε G} {Q Q' : α → G → Prop} {E E' : ε → G → Prop} {g : G}

@[simp] theorem wp_ret {a : α} : wp C (.ret a) g Q E ↔ Q a g := Iff.rfl
@[simp] theorem wp_fail {e : ε} : wp C (.fail e : Prog S ε α) g Q E ↔ E e g := Iff.rfl

theorem wp_mono {m : Prog S ε α} (h : wp C m g Q E)
    (hQ : ∀ a g', Q a g' → Q' a g') (hE : ∀ e g', E e g' → E' e g') : wp C m g Q' E' := by
  induction m generalizing g with
  | ret a => exact hQ a g h
  | fail e => exact hE e g h
  | call op k ih => exact ⟨h.1, fun r g' hr => ih r (h.2 r g' hr)⟩

/-- Two facts about a program, of which one settles the preconditions. -/
theorem wp_and {D : Contract S ε G} (hpost : D.post = C.post) {m : Prog S ε α}
    (h : wp C m g Q E) (h' : wp D m g Q' E') :
    wp C m g (fun a g' => Q a g' ∧ Q' a g') (fun e g' => E e g' ∧ E' e g') := by
  induction m generalizing g with
  | ret a => exact ⟨h, h'⟩
  | fail e => exact ⟨h, h'⟩
  | call op k ih =>
    refine ⟨h.1, fun r g' hr => ih r (h.2 r g' hr) (h'.2 r g' ?_)⟩
    rw [hpost]
    exact hr

theorem wp_andThen {m : Prog S ε α} {k : Except ε α → Prog S ε β}
    {Q : β → G → Prop} {E : ε → G → Prop} :
    wp C (m.andThen k) g Q E ↔
      wp C m g (fun a g' => wp C (k (.ok a)) g' Q E) (fun e g' => wp C (k (.error e)) g' Q E) := by
  induction m generalizing g with
  | ret a => rfl
  | fail e => rfl
  | call op f ih => simp only [Prog.andThen, wp, ih]

@[simp] theorem wp_bind {m : Prog S ε α} {f : α → Prog S ε β}
    {Q : β → G → Prop} {E : ε → G → Prop} :
    wp C (m >>= f) g Q E ↔ wp C m g (fun a g' => wp C (f a) g' Q E) E := wp_andThen

@[simp] theorem wp_attempt {m : Prog S ε α} {Q : Except ε α → G → Prop} :
    wp C m.attempt g Q E ↔ wp C m g (fun a => Q (.ok a)) (fun e => Q (.error e)) :=
  wp_andThen

@[simp] theorem wp_perform {op : S.Op} {Q : S.Ret op → G → Prop} :
    wp C (.perform op) g Q E ↔ C.pre g op ∧
      (∀ a g', C.post g op (.ok a) g' → Q a g') ∧
        ∀ e g', C.post g op (.error e) g' → E e g' := by
  constructor
  · intro h
    exact ⟨h.1, fun a g' hr => h.2 (.ok a) g' hr, fun e g' hr => h.2 (.error e) g' hr⟩
  · intro ⟨hpre, hok, herr⟩
    refine ⟨hpre, fun r g' hr => ?_⟩
    cases r with
    | ok a => exact hok a g' hr
    | error e => exact herr e g' hr

@[simp] theorem wp_ofExcept {r : Except ε α} :
    wp C (.ofExcept r) g Q E ↔ (∀ a, r = .ok a → Q a g) ∧ ∀ e, r = .error e → E e g := by
  cases r <;> simp

end Rules

/-- The handler answers every allowed call as the contract says, and keeps the
state related to the contract's own. -/
def Implements (H : Handler S ε W) (C : Contract S ε G) (R : W → G → Prop) : Prop :=
  ∀ op w g, R w g → C.pre g op → ∃ g', C.post g op (H op w).1 g' ∧ R (H op w).2 g'

/-- What an outcome says once the run is over. -/
def Ends (Q : α → G → Prop) (E : ε → G → Prop) : Except ε α → G → Prop
  | .ok a, g => Q a g
  | .error e, g => E e g

@[simp] theorem ends_ok {Q : α → G → Prop} {E : ε → G → Prop} {a : α} {g : G} :
    Ends Q E (.ok a) g ↔ Q a g := Iff.rfl
@[simp] theorem ends_error {Q : α → G → Prop} {E : ε → G → Prop} {e : ε} {g : G} :
    Ends Q E (.error e) g ↔ E e g := Iff.rfl

/-- The rules are sound for every handler that implements the contract. -/
theorem wp_run {H : Handler S ε W} {C : Contract S ε G} {R : W → G → Prop}
    (hH : Implements H C R) {m : Prog S ε α} {w : W} {g : G} {Q : α → G → Prop}
    {E : ε → G → Prop} (hR : R w g) (h : wp C m g Q E) :
    ∃ g', R (run H m w).2 g' ∧ Ends Q E (run H m w).1 g' := by
  induction m generalizing w g with
  | ret a => exact ⟨g, hR, h⟩
  | fail e => exact ⟨g, hR, h⟩
  | call op k ih =>
    obtain ⟨g', hpost, hR'⟩ := hH op w g hR h.1
    exact ih (H op w).1 hR' (h.2 _ g' hpost)

/-- The contract under which any call may answer anything. -/
def Contract.any : Contract S ε Unit where
  pre _ _ := True
  post _ _ _ _ := True

theorem wp_any {m : Prog S ε α} {Q : α → Unit → Prop} {E : ε → Unit → Prop}
    (hQ : ∀ a, Q a ()) (hE : ∀ e, E e ()) : wp Contract.any m () Q E := by
  induction m with
  | ret a => exact hQ a
  | fail e => exact hE e
  | call op k ih => exact ⟨trivial, fun r _ _ => ih r⟩

/-- What holds whatever the calls answer holds of every run. -/
theorem ends_of_any {H : Handler S ε W} {m : Prog S ε α} {w : W} {Q : α → Prop}
    (h : wp Contract.any m () (fun a _ => Q a) (fun _ _ => True)) {a : α}
    (hrun : (run H m w).1 = .ok a) : Q a := by
  have hany : Implements H Contract.any (fun _ _ => True) :=
    fun _ _ _ _ _ => ⟨(), trivial, trivial⟩
  obtain ⟨g, -, hend⟩ := wp_run hany (w := w) trivial h
  rw [hrun] at hend
  exact hend

/-- The contract that states exactly what a handler does. -/
def Handler.exact (H : Handler S ε W) : Contract S ε W where
  pre _ _ := True
  post w op r w' := H op w = (r, w')

theorem wp_exact {H : Handler S ε W} {m : Prog S ε α} {w : W} {Q : α → W → Prop}
    {E : ε → W → Prop} : wp H.exact m w Q E ↔ Ends Q E (run H m w).1 (run H m w).2 := by
  induction m generalizing w with
  | ret a => rfl
  | fail e => rfl
  | call op k ih =>
    rw [run_call, ← ih]
    constructor
    · intro h
      exact h.2 _ _ rfl
    · intro h
      refine ⟨trivial, fun r w' hr => ?_⟩
      obtain ⟨rfl, rfl⟩ := Prod.mk.inj hr
      exact h

/-- A program that cannot fail returns. -/
theorem exists_run_ok {H : Handler S ε W} {m : Prog S ε α} {w : W} {Q : α → W → Prop}
    (h : wp H.exact m w Q fun _ _ => False) : ∃ a w', run H m w = (.ok a, w') ∧ Q a w' := by
  rw [wp_exact] at h
  cases hr : run H m w with
  | mk r w' =>
    rw [hr] at h
    cases r with
    | ok a => exact ⟨a, w', rfl, h⟩
    | error e => exact h.elim

/-- What holds however a program ends. -/
theorem run_of_wp {H : Handler S ε W} {m : Prog S ε α} {w : W} {P : W → Prop}
    (h : wp H.exact m w (fun _ => P) (fun _ => P)) : P (run H m w).2 := by
  rw [wp_exact] at h
  cases hr : (run H m w).1 with
  | ok a =>
    rw [hr] at h
    exact h
  | error e =>
    rw [hr] at h
    exact h

theorem wp_exact_perform {H : Handler S ε W} {op : S.Op} {w : W} {Q : S.Ret op → W → Prop}
    {E : ε → W → Prop} : wp H.exact (.perform op) w Q E ↔ Ends Q E (H op w).1 (H op w).2 := by
  rw [wp_exact, Prog.perform, run_call]
  cases (H op w).1 <;> rfl

end EffectProgram
