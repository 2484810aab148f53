import Mathlib

/-!
# Operations on the entries of a map

An operation is filed under a key and acts on the entry of that key only. What
a list of operations leaves at a key depends on the operations of that key, so
two lists that agree on each key, order included, leave the same map.
-/
namespace KeyedOperations

variable {K S Op : Type} [DecidableEq K] (key : Op → K) (act : Op → S → S)

def perform (f : K → S) (op : Op) : K → S := Function.update f (key op) (act op (f (key op)))

def performAll (f : K → S) (ops : List Op) : K → S := ops.foldl (perform key act) f

/-- The operations of a key, in their order. -/
def atKey (ops : List Op) (k : K) : List Op := ops.filter fun op => key op = k

@[simp] theorem performAll_nil (f : K → S) : performAll key act f [] = f := rfl

@[simp] theorem performAll_cons (f : K → S) (op : Op) (ops : List Op) :
    performAll key act f (op :: ops) = performAll key act (perform key act f op) ops := rfl

/-- Only the operations of a key act on its entry. -/
theorem performAll_apply (ops : List Op) (f : K → S) (k : K) :
    performAll key act f ops k = (atKey key ops k).foldl (fun s op => act op s) (f k) := by
  induction ops generalizing f with
  | nil => rfl
  | cons op ops ih =>
    rw [performAll_cons, ih]
    by_cases h : key op = k
    · subst h
      simp [atKey, perform]
    · simp [atKey, perform, h, Function.update_of_ne (Ne.symm h)]

/-- Operations of different keys commute. -/
theorem performAll_congr {ops ops' : List Op} (h : ∀ k, atKey key ops k = atKey key ops' k)
    (f : K → S) : performAll key act f ops = performAll key act f ops' := by
  funext k
  rw [performAll_apply, performAll_apply, h]

end KeyedOperations
