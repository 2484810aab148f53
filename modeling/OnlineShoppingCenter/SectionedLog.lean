import Mathlib

/-!
# Logs in sections

Some entries of a log open a section of their kind, which lasts until the next
section of that kind is opened. What a reader takes from the log is the section
of each kind that was opened last.
-/
namespace SectionedLog

variable {α κ : Type} [DecidableEq κ] (opens : α → Option κ)

/-- The log from where the last section of a kind was opened. -/
def since (k : κ) : List α → Option (List α)
  | [] => none
  | a :: l => (since k l).or (if opens a = some k then some (a :: l) else none)

theorem since_append (k : κ) (l m : List α) :
    since opens k (l ++ m) = (since opens k m).or ((since opens k l).map (· ++ m)) := by
  induction l with
  | nil => simp [since]
  | cons a l ih =>
    rw [List.cons_append, since, ih, since]
    by_cases ha : opens a = some k
    · cases since opens k m <;> cases since opens k l <;> simp [ha]
    · cases since opens k m <;> cases since opens k l <;> simp [ha]

variable {opens}

theorem since_eq_none {k : κ} {l : List α} (h : ∀ a ∈ l, opens a ≠ some k) :
    since opens k l = none := by
  induction l with
  | nil => rfl
  | cons a l ih =>
    rw [since, ih fun b hb => h b (List.mem_cons_of_mem a hb), if_neg (h a List.mem_cons_self)]
    rfl

/-- The last section of a kind begins with a block. -/
def Shows (opens : α → Option κ) (k : κ) (block l : List α) : Prop :=
  ∃ after, since opens k l = some (block ++ after)

variable {k : κ} {block l m : List α}

/-- A section stays the last one until another of its kind is opened. -/
theorem Shows.append (h : Shows opens k block l) (hm : ∀ a ∈ m, opens a ≠ some k) :
    Shows opens k block (l ++ m) := by
  obtain ⟨after, hafter⟩ := h
  refine ⟨after ++ m, ?_⟩
  rw [since_append, since_eq_none hm, hafter]
  simp

/-- A section just opened is the last one. -/
theorem shows_open {head : α} {body : List α} (hhead : opens head = some k)
    (hbody : ∀ a ∈ body, opens a ≠ some k) (l : List α) :
    Shows opens k (head :: body) (l ++ head :: body) := by
  refine ⟨[], ?_⟩
  rw [since_append, since, since_eq_none hbody, if_pos hhead]
  simp

/-- The same log shows the same block, as far as the shorter of two blocks goes. -/
theorem Shows.prefix_or {block' : List α} (h : Shows opens k block l)
    (h' : Shows opens k block' l) : block <+: block' ∨ block' <+: block := by
  obtain ⟨after, hafter⟩ := h
  obtain ⟨after', hafter'⟩ := h'
  have heq : block ++ after = block' ++ after' := Option.some.inj (hafter.symm.trans hafter')
  exact List.prefix_or_prefix_of_prefix ⟨after, heq⟩ ⟨after', rfl⟩

end SectionedLog
