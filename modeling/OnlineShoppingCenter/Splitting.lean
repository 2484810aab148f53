import OnlineShoppingCenter.MaximalRuns
import OnlineShoppingCenter.TextCodec

/-!
# Cutting a text at a delimiter

`split` calls `getline` on a stream until a call fails, and keeps what is not
empty. What it returns are the maximal runs of other characters.
-/
namespace OnlineShoppingCenter

open TextCodec MaximalRuns

/-- What has not been extracted yet, and the two bits that `getline` sets. -/
structure Stringstream where
  rest : Text
  eofbit : Bool
  failbit : Bool
  deriving DecidableEq, Repr

def Stringstream.str (s : Text) : Stringstream := ⟨s, false, false⟩

def Stringstream.good (ss : Stringstream) : Bool := !ss.eofbit && !ss.failbit

/-- The characters before the delimiter, and what follows it unless the end
comes first. -/
def readUpTo (delim : Char) : Text → Text × Option Text
  | [] => ([], none)
  | c :: rest =>
    if c = delim then ([], some rest)
    else
      let (line, after) := readUpTo delim rest
      (c :: line, after)

/-- The delimiter is extracted but not stored. A call that extracts nothing
fails, and so does one on a stream that is not good. -/
def getline (ss : Stringstream) (elem : Text) (delim : Char) : Stringstream × Text :=
  if ss.good then
    match readUpTo delim ss.rest with
    | (line, some rest) => (⟨rest, false, false⟩, line)
    | (line, none) => (⟨[], true, line.isEmpty⟩, line)
  else ({ ss with failbit := true }, elem)

section Reading

variable {delim : Char} {field rest elem : Text} {ss : Stringstream}

theorem readUpTo_cut (h : delim ∉ field) :
    readUpTo delim (field ++ delim :: rest) = (field, some rest) := by
  induction field with
  | nil => simp [readUpTo]
  | cons c field ih =>
    rw [List.mem_cons, not_or] at h
    rw [List.cons_append, readUpTo, if_neg (Ne.symm h.1), ih h.2]

theorem readUpTo_last (h : delim ∉ field) : readUpTo delim field = (field, none) := by
  induction field with
  | nil => rfl
  | cons c field ih =>
    rw [List.mem_cons, not_or] at h
    rw [readUpTo, if_neg (Ne.symm h.1), ih h.2]

/-- A field is read up to its delimiter. -/
theorem getline_cut (h : delim ∉ field) :
    getline (.str (field ++ delim :: rest)) elem delim = (.str rest, field) := by
  simp [getline, Stringstream.str, Stringstream.good, readUpTo_cut h]

/-- The last field is read up to the end, if there is anything to read. -/
theorem getline_last (h : delim ∉ field) :
    getline (.str field) elem delim = (⟨[], true, field.isEmpty⟩, field) := by
  simp [getline, Stringstream.str, Stringstream.good, readUpTo_last h]

/-- What is left to extract, and whether its end has not been met yet. -/
def Stringstream.left (ss : Stringstream) : Nat := ss.rest.length + if ss.good then 1 else 0

theorem left_str (s : Text) : (Stringstream.str s).left = s.length + 1 := rfl

theorem getline_left (h : (getline ss elem delim).1.failbit = false) :
    (getline ss elem delim).1.left < ss.left := by
  by_cases hgood : ss.good
  · obtain ⟨s, eofbit, failbit⟩ := ss
    obtain ⟨rfl, rfl⟩ : eofbit = false ∧ failbit = false := by simpa [Stringstream.good] using hgood
    change (getline (.str s) elem delim).1.left < (Stringstream.str s).left
    by_cases hdelim : delim ∈ s
    · obtain ⟨field, rest, rfl, hfree⟩ := List.eq_append_cons_of_mem hdelim
      rw [getline_cut hfree, left_str, left_str, List.length_append, List.length_cons]
      omega
    · rw [getline_last hdelim, left_str]
      exact Nat.succ_pos _
  · rw [getline, if_neg hgood] at h
    cases h

end Reading

/-- The `while` loop of `split`. -/
def getlineLoop (delim : Char) (ss : Stringstream) (elem : Text) (ret : List Text) : List Text :=
  let next := getline ss elem delim
  if _h : next.1.failbit = false then
    getlineLoop delim next.1 next.2 (if next.2.isEmpty then ret else ret ++ [next.2])
  else ret
termination_by ss.left
decreasing_by exact getline_left _h

section Loop

variable {delim : Char} {field elem : Text} {ret : List Text} {ss : Stringstream}

theorem getlineLoop_failed (h : (getline ss elem delim).1.failbit = true) :
    getlineLoop delim ss elem ret = ret := by
  rw [getlineLoop]
  simp [h]

theorem getlineLoop_next {ss' : Stringstream} {line : Text}
    (h : getline ss elem delim = (ss', line)) (hok : ss'.failbit = false) :
    getlineLoop delim ss elem ret =
      getlineLoop delim ss' line (if line.isEmpty then ret else ret ++ [line]) := by
  rw [getlineLoop]
  simp [h, hok]

theorem getlineLoop_last (h : delim ∉ field) (hne : field ≠ []) :
    getlineLoop delim (.str field) elem ret = ret ++ [field] := by
  have hempty : field.isEmpty = false := by simpa using hne
  rw [getlineLoop_next (getline_last h) hempty, hempty]
  exact getlineLoop_failed rfl

end Loop

section Split

variable {delim : Char} {field : Text}

theorem splitLoop_append_cons (elem s t : Text) :
    splitLoop delim elem (s ++ delim :: t) = splitLoop delim elem s ++ split t delim := by
  induction s generalizing elem with
  | nil =>
    rw [List.nil_append, splitLoop, splitLoop, if_pos rfl]
    split <;> rfl
  | cons c s ih =>
    rw [List.cons_append, splitLoop, splitLoop]
    by_cases hc : c = delim
    · rw [if_pos hc, if_pos hc, ih]
      split <;> rfl
    · rw [if_neg hc, if_neg hc, ih]

/-- A delimiter cuts the text into parts that are cut on their own. -/
theorem split_append_cons (s t : Text) (delim : Char) :
    split (s ++ delim :: t) delim = split s delim ++ split t delim := splitLoop_append_cons [] s t

/-- The model of the loop is what the loop over the stream returns. -/
theorem getlineLoop_eq_split (s : Text) (delim : Char) (elem : Text) (ret : List Text) :
    getlineLoop delim (.str s) elem ret = ret ++ split s delim := by
  induction s using field_induction delim generalizing elem ret with
  | last field h =>
    by_cases hne : field = []
    · subst hne
      rw [split_nil, List.append_nil]
      exact getlineLoop_failed rfl
    · rw [split_field h hne]
      exact getlineLoop_last h hne
  | cut field rest h ih =>
    rw [getlineLoop_next (getline_cut h) rfl, ih, split_append_cons]
    by_cases hne : field = []
    · simp [hne]
    · simp [hne, split_field h hne]

theorem fieldsOf_split (s : Text) (delim : Char) : FieldsOf delim s (split s delim) := by
  have hfield : ∀ field, delim ∉ field → FieldsOf delim field (split field delim) := by
    intro field h
    by_cases hne : field = []
    · subst hne
      exact fieldsOf_nil delim
    · rw [split_field h hne]
      exact fieldsOf_singleton h hne
  induction s using field_induction delim with
  | last field h => exact hfield field h
  | cut field rest h ih =>
    rw [split_append_cons]
    exact (hfield field h).append ih

theorem split_replicate_append (n : Nat) (s : Text) (delim : Char) :
    split (List.replicate n delim ++ s) delim = split s delim := by
  induction n with
  | zero => rfl
  | succ n ih =>
    have hcut := split_append_cons [] (List.replicate n delim ++ s) delim
    rw [split_nil, List.nil_append, List.nil_append, ih] at hcut
    exact hcut

theorem split_append_replicate (n : Nat) (s : Text) (delim : Char) :
    split (s ++ List.replicate n delim) delim = split s delim := by
  induction n with
  | zero => rw [List.replicate_zero, List.append_nil]
  | succ n ih =>
    rw [List.replicate_succ', ← List.append_assoc, split_append_cons, ih, split_nil,
      List.append_nil]

/-- Delimiters in a row cut like one. -/
theorem split_append_replicate_append (n : Nat) (s t : Text) (delim : Char) :
    split (s ++ List.replicate (n + 1) delim ++ t) delim = split s delim ++ split t delim := by
  rw [List.replicate_succ, List.append_assoc, List.cons_append, split_append_cons,
    split_replicate_append]

theorem split_append_field (h : delim ∉ field) (hne : field ≠ []) (s : Text) :
    split (s ++ delim :: field) delim = split s delim ++ [field] := by
  rw [split_append_cons, split_field h hne]

theorem intercalate_cons (field : Text) (fields : List Text) :
    [delim].intercalate (field :: fields) = field ++ fields.flatMap (delim :: ·) := by
  induction fields generalizing field with
  | nil => simp
  | cons next fields ih =>
    have hstep : [delim].intercalate (field :: next :: fields) =
        field ++ delim :: [delim].intercalate (next :: fields) := by
      simp [List.intercalate]
    rw [hstep, ih, List.flatMap_cons, List.cons_append]

/-- The loops that store a list of fields join them. -/
theorem join_eq_intercalate {fields : List Text} (h : ∀ field ∈ fields, field ≠ []) :
    join delim fields = [delim].intercalate fields := by
  cases fields with
  | nil => rfl
  | cons field fields => rw [join_cons (h field List.mem_cons_self), intercalate_cons]

theorem split_intercalate {fields : List Text} (h : ∀ field ∈ fields, field ≠ [] ∧ delim ∉ field) :
    split ([delim].intercalate fields) delim = fields := by
  rw [← join_eq_intercalate fun field hfield => (h field hfield).1]
  exact split_join fun field hfield => (h field hfield).symm

end Split

/-- `split` returns the maximal runs of characters other than the delimiter, in
order: nothing empty, nothing for delimiters in a row or at the ends, and the
last run with or without a delimiter after it. It undoes a join. -/
theorem split_exact (s : Text) (delim : Char) :
    getlineLoop delim (.str s) [] [] = split s delim ∧
      (∀ fields, FieldsOf delim s fields ↔ split s delim = fields) ∧
      (∀ field ∈ split s delim, field ≠ [] ∧ delim ∉ field) ∧
      (∀ m n, split (List.replicate m delim ++ s ++ List.replicate n delim) delim =
        split s delim) ∧
      (∀ n t, split (s ++ List.replicate (n + 1) delim ++ t) delim =
        split s delim ++ split t delim) ∧
      (∀ field, field ≠ [] → delim ∉ field →
        split (s ++ delim :: field) delim = split s delim ++ [field] ∧
          split (s ++ delim :: field ++ [delim]) delim = split s delim ++ [field]) ∧
      ∀ fields : List Text, (∀ field ∈ fields, field ≠ [] ∧ delim ∉ field) →
        split ([delim].intercalate fields) delim = fields := by
  have hfields := fieldsOf_split s delim
  refine ⟨?_, ?_, ?_, ?_, ?_, ?_, ?_⟩
  · exact getlineLoop_eq_split s delim [] []
  · intro fields
    constructor
    · exact hfields.unique
    · rintro rfl
      exact hfields
  · exact fun field hfield => hfields.mem hfield
  · intro m n
    rw [split_append_replicate, split_replicate_append]
  · exact fun n t => split_append_replicate_append n s t delim
  · intro field hne hfree
    have hlast := split_append_field hfree hne s
    have htrail := split_append_replicate 1 (s ++ delim :: field) delim
    exact ⟨hlast, htrail.trans hlast⟩
  · exact fun fields h => split_intercalate h

theorem addtocart_split :
    split (" addtocart ".toList ++ ' ' :: "7".toList) ' ' =
        split " addtocart ".toList ' ' ++ ["7".toList] ∧
      split ([' '].intercalate ["addtocart".toList, "7".toList]) ' ' =
        ["addtocart".toList, "7".toList] := by
  obtain ⟨-, -, -, -, -, hlast, hjoin⟩ := split_exact " addtocart ".toList ' '
  exact ⟨(hlast "7".toList (by decide) (by decide)).1, hjoin _ (by decide)⟩

end OnlineShoppingCenter
