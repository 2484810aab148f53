import Mathlib

/-!
# Runs between delimiters

A run is an interval of positions of a list none of which holds the delimiter.
The maximal runs, in their order, are the fields of the list. Cutting a list at
a delimiter cuts the list of its fields.
-/
namespace MaximalRuns

variable {α : Type*} {delim : α} {s t field : List α} {fields more : List (List α)}
  {I J : NonemptyInterval ℕ}

def Run (delim : α) (s : List α) (I : NonemptyInterval ℕ) : Prop :=
  ∀ i ∈ I, ∃ a ∈ s[i]?, a ≠ delim

/-- What stands at the positions of an interval. -/
def slice (s : List α) (I : NonemptyInterval ℕ) : List α := (s.drop I.fst).take (I.snd + 1 - I.fst)

/-- The maximal runs in their order, each with what stands in it. -/
def FieldsOf (delim : α) (s : List α) (fields : List (List α)) : Prop :=
  ∃ runs : List (NonemptyInterval ℕ), runs.Pairwise (fun I J => I.snd < J.fst) ∧
    (∀ I, I ∈ runs ↔ Maximal (Run delim s) I) ∧ runs.map (slice s) = fields

theorem Run.lt_length (h : Run delim s I) : I.snd < s.length := by
  obtain ⟨a, ha, -⟩ := h I.snd ⟨I.fst_le_snd, le_rfl⟩
  exact (List.getElem?_eq_some_iff.mp ha).1

theorem slice_getElem? (s : List α) (I : NonemptyInterval ℕ) (i : ℕ) :
    (slice s I)[i]? = if i < I.snd + 1 - I.fst then s[I.fst + i]? else none := by
  simp [slice, List.getElem?_take]

theorem Run.slice_ne_nil (h : Run delim s I) : slice s I ≠ [] := by
  have hlt := h.lt_length
  have hle := I.fst_le_snd
  have hlength : 0 < (slice s I).length := by
    simp only [slice, List.length_take, List.length_drop]
    omega
  exact List.ne_nil_of_length_pos hlength

theorem Run.not_mem_slice (h : Run delim s I) : delim ∉ slice s I := by
  intro hmem
  obtain ⟨i, hi⟩ := List.mem_iff_getElem?.mp hmem
  rw [slice_getElem?] at hi
  by_cases hlt : i < I.snd + 1 - I.fst
  · rw [if_pos hlt] at hi
    obtain ⟨a, ha, hne⟩ := h (I.fst + i) ⟨by omega, by omega⟩
    rw [hi] at ha
    exact hne (Option.some.inj ha).symm
  · rw [if_neg hlt] at hi
    cases hi

/-- A field is not empty and has no delimiter in it. -/
theorem FieldsOf.mem (h : FieldsOf delim s fields) (hfield : field ∈ fields) :
    field ≠ [] ∧ delim ∉ field := by
  obtain ⟨runs, -, hruns, rfl⟩ := h
  obtain ⟨I, hI, rfl⟩ := List.mem_map.mp hfield
  have hrun : Run delim s I := ((hruns I).mp hI).prop
  exact ⟨hrun.slice_ne_nil, hrun.not_mem_slice⟩

/-- A list has one list of fields. -/
theorem FieldsOf.unique (h : FieldsOf delim s fields) (h' : FieldsOf delim s more) :
    fields = more := by
  obtain ⟨runs, hsorted, hruns, rfl⟩ := h
  obtain ⟨runs', hsorted', hruns', rfl⟩ := h'
  let before (I J : NonemptyInterval ℕ) : Prop := I.snd < J.fst
  have hantisymm : Std.Antisymm before := by
    constructor
    intro I J hIJ hJI
    have hI := I.fst_le_snd
    have hJ := J.fst_le_snd
    simp only [before] at hIJ hJI
    omega
  have hirrefl : Std.Irrefl before := by
    constructor
    intro I hI
    have := I.fst_le_snd
    simp only [before] at hI
    omega
  have hsame : runs = runs' := List.Pairwise.eq_of_mem_iff (r := before) hsorted hsorted' fun I =>
    (hruns I).trans (hruns' I).symm
  rw [hsame]

theorem run_of_not_mem (h : delim ∉ field) : Run delim field I ↔ I.snd < field.length := by
  constructor
  · exact Run.lt_length
  · intro hlt i hi
    have hlen : i < field.length := lt_of_le_of_lt hi.2 hlt
    refine ⟨field[i], List.getElem?_eq_getElem hlen, ?_⟩
    intro heq
    exact h (heq ▸ List.getElem_mem hlen)

theorem maximal_of_not_mem (h : delim ∉ field) :
    Maximal (Run delim field) I ↔ I.fst = 0 ∧ I.snd + 1 = field.length := by
  constructor
  · intro hI
    have hlt := hI.prop.lt_length
    let whole : NonemptyInterval ℕ := ⟨(0, field.length - 1), Nat.zero_le _⟩
    have hwhole : Run delim field whole := (run_of_not_mem h).mpr (by simp only [whole]; omega)
    have hle : I ≤ whole := ⟨Nat.zero_le _, by simp only [whole]; omega⟩
    have hge := hI.le_of_ge hwhole hle
    simp only [NonemptyInterval.le_def, whole] at hge
    omega
  · rintro ⟨hfirst, hlast⟩
    refine ⟨(run_of_not_mem h).mpr (by omega), ?_⟩
    intro J hJ _
    have hlt := hJ.lt_length
    exact ⟨by omega, by omega⟩

theorem fieldsOf_nil (delim : α) : FieldsOf delim [] [] := by
  refine ⟨[], List.Pairwise.nil, ?_, rfl⟩
  intro I
  rw [maximal_of_not_mem List.not_mem_nil]
  simp

theorem fieldsOf_singleton (h : delim ∉ field) (hne : field ≠ []) :
    FieldsOf delim field [field] := by
  have hpos := List.length_pos_of_ne_nil hne
  let whole : NonemptyInterval ℕ := ⟨(0, field.length - 1), Nat.zero_le _⟩
  refine ⟨[whole], List.pairwise_singleton _ _, ?_, ?_⟩
  · intro I
    rw [maximal_of_not_mem h, List.mem_singleton, NonemptyInterval.ext_iff, Prod.ext_iff]
    simp only [whole]
    omega
  · have hlast : field.length - 1 + 1 - 0 = field.length := by omega
    simp [slice, whole, hlast]

def shift (k : ℕ) (I : NonemptyInterval ℕ) : NonemptyInterval ℕ :=
  ⟨(I.fst + k, I.snd + k), Nat.add_le_add_right I.fst_le_snd k⟩

theorem shift_le_shift {k : ℕ} : shift k I ≤ shift k J ↔ I ≤ J := by
  simp [NonemptyInterval.le_def, shift]

theorem getElem?_after (s t : List α) (i : ℕ) :
    (s ++ delim :: t)[i + (s.length + 1)]? = t[i]? := by
  rw [List.getElem?_append_right (by omega)]
  have hi : i + (s.length + 1) - s.length = i + 1 := by omega
  rw [hi, List.getElem?_cons_succ]

/-- No run goes across a delimiter. -/
theorem run_append : Run delim (s ++ delim :: t) I ↔
    Run delim s I ∨ ∃ J, Run delim t J ∧ shift (s.length + 1) J = I := by
  constructor
  · intro h
    have hmid : s.length ∉ I := by
      intro hmem
      obtain ⟨a, ha, hne⟩ := h s.length hmem
      simp at ha
      exact hne ha.symm
    rw [NonemptyInterval.mem_def] at hmid
    by_cases hbefore : I.snd < s.length
    · left
      intro i hi
      have hlt : i < s.length := lt_of_le_of_lt hi.2 hbefore
      have hat := h i hi
      rwa [List.getElem?_append_left hlt] at hat
    · right
      have hle := I.fst_le_snd
      refine ⟨⟨(I.fst - (s.length + 1), I.snd - (s.length + 1)), by omega⟩, ?_, ?_⟩
      · intro i hi
        rw [NonemptyInterval.mem_mk] at hi
        have hat := h (i + (s.length + 1)) ⟨by omega, by omega⟩
        rwa [getElem?_after] at hat
      · apply NonemptyInterval.ext
        apply Prod.ext
        · simp only [shift]
          omega
        · simp only [shift]
          omega
  · rintro (h | ⟨J, h, rfl⟩)
    · intro i hi
      have hlt : i < s.length := lt_of_le_of_lt hi.2 h.lt_length
      rw [List.getElem?_append_left hlt]
      exact h i hi
    · rintro i ⟨hfirst, hlast⟩
      simp only [shift] at hfirst hlast
      obtain ⟨j, rfl⟩ : ∃ j, i = j + (s.length + 1) := ⟨i - (s.length + 1), by omega⟩
      rw [getElem?_after]
      exact h j ⟨by omega, by omega⟩

theorem maximal_append : Maximal (Run delim (s ++ delim :: t)) I ↔
    Maximal (Run delim s) I ∨ ∃ J, Maximal (Run delim t) J ∧ shift (s.length + 1) J = I := by
  constructor
  · rintro ⟨hrun, hmax⟩
    rcases run_append.mp hrun with h | ⟨J, h, rfl⟩
    · left
      exact ⟨h, fun K hK => hmax (run_append.mpr (.inl hK))⟩
    · right
      refine ⟨J, ⟨h, ?_⟩, rfl⟩
      intro K hK hle
      exact shift_le_shift.mp (hmax (run_append.mpr (.inr ⟨K, hK, rfl⟩)) (shift_le_shift.mpr hle))
  · rintro (⟨h, hmax⟩ | ⟨J, ⟨h, hmax⟩, rfl⟩)
    · refine ⟨run_append.mpr (.inl h), ?_⟩
      intro K hK hle
      rcases run_append.mp hK with hK' | ⟨L, -, rfl⟩
      · exact hmax hK' hle
      · have hlt := h.lt_length
        have hfirst := hle.1
        have hI := I.fst_le_snd
        simp only [shift] at hfirst
        omega
    · refine ⟨run_append.mpr (.inr ⟨J, h, rfl⟩), ?_⟩
      intro K hK hle
      rcases run_append.mp hK with hK' | ⟨L, hL, rfl⟩
      · have hlt := hK'.lt_length
        have hlast := hle.2
        simp only [shift] at hlast
        omega
      · exact shift_le_shift.mpr (hmax hL (shift_le_shift.mp hle))

theorem slice_before (h : I.snd < s.length) : slice (s ++ delim :: t) I = slice s I := by
  apply List.ext_getElem?
  intro i
  rw [slice_getElem?, slice_getElem?]
  split
  · rw [List.getElem?_append_left (by omega)]
  · rfl

theorem slice_after (s t : List α) (J : NonemptyInterval ℕ) :
    slice (s ++ delim :: t) (shift (s.length + 1) J) = slice t J := by
  apply List.ext_getElem?
  intro i
  rw [slice_getElem?, slice_getElem?]
  have hwidth : (shift (s.length + 1) J).snd + 1 - (shift (s.length + 1) J).fst =
      J.snd + 1 - J.fst := by
    simp only [shift]
    omega
  have hat : (shift (s.length + 1) J).fst + i = J.fst + i + (s.length + 1) := by
    simp only [shift]
    omega
  rw [hwidth, hat, getElem?_after]

/-- The fields on both sides of a delimiter. -/
theorem FieldsOf.append (h : FieldsOf delim s fields) (h' : FieldsOf delim t more) :
    FieldsOf delim (s ++ delim :: t) (fields ++ more) := by
  obtain ⟨runs, hsorted, hruns, rfl⟩ := h
  obtain ⟨runs', hsorted', hruns', rfl⟩ := h'
  refine ⟨runs ++ runs'.map (shift (s.length + 1)), ?_, ?_, ?_⟩
  · rw [List.pairwise_append, List.pairwise_map]
    refine ⟨hsorted, ?_, ?_⟩
    · apply hsorted'.imp
      intro I J hIJ
      simp only [shift]
      omega
    · intro I hI K hK
      obtain ⟨J, -, rfl⟩ := List.mem_map.mp hK
      have hlt := ((hruns I).mp hI).prop.lt_length
      simp only [shift]
      omega
  · intro I
    rw [List.mem_append, List.mem_map, maximal_append, hruns]
    simp only [hruns']
  · rw [List.map_append, List.map_map]
    congr 1
    · apply List.map_congr_left
      intro I hI
      exact slice_before ((hruns I).mp hI).prop.lt_length
    · apply List.map_congr_left
      intro J _
      exact slice_after s t J

/-- A list has no delimiter, or a first one. -/
theorem field_induction {P : List α → Prop} (delim : α) (last : ∀ field, delim ∉ field → P field)
    (cut : ∀ field rest, delim ∉ field → P rest → P (field ++ delim :: rest)) (s : List α) : P s := by
  induction hn : s.length using Nat.strong_induction_on generalizing s with
  | h n ih =>
    subst hn
    by_cases h : delim ∈ s
    · obtain ⟨field, rest, rfl, hfree⟩ := List.eq_append_cons_of_mem h
      have hlt : rest.length < (field ++ delim :: rest).length := by
        simp only [List.length_append, List.length_cons]
        omega
      exact cut field rest hfree (ih rest.length hlt rest rfl)
    · exact last s h

end MaximalRuns
