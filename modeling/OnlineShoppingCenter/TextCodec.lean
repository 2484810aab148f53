import Mathlib

/-!
# Decimal numerals and delimited text

The C++ conversions a text format is written and read with: `to_string`,
`stoul` and a `getline` loop that cuts a text at a delimiter. A text is a list
of characters, an unsigned long a 64-bit and an unsigned int a 32-bit number.
-/
namespace TextCodec

abbrev Text := List Char

/-- What the standard library throws, and the accesses it leaves undefined. -/
inductive Exn where
  | invalid_argument | out_of_range | system_error | runtime_error | undefined
  deriving DecidableEq, Repr

/-- `isspace` in the C locale. -/
def isspace (c : Char) : Bool :=
  c = ' ' || c = '\t' || c = '\n' || c = '\x0b' || c = '\x0c' || c = '\r'

def to_string (n : Nat) : Text := Nat.toDigits 10 n

/-- The optional sign `strtoul` accepts before the digits. -/
def sign : Text → Bool × Text
  | '-' :: t => (true, t)
  | '+' :: t => (false, t)
  | t => (false, t)

/-- Base ten: blanks, a sign, digits; what follows the digits is ignored. -/
def stoul (s : Text) : Except Exn UInt64 :=
  let (negative, t) := sign (s.dropWhile isspace)
  let digits := t.takeWhile Char.isDigit
  let n := Nat.ofDigitChars 10 digits 0
  if digits.isEmpty then .error .invalid_argument
  else if n < 2 ^ 64 then .ok (if negative then -UInt64.ofNat n else UInt64.ofNat n)
  else .error .out_of_range

/-- `(unsigned int)stoul(s)`: the low 32 bits of the number read. -/
def stoui (s : Text) : Except Exn UInt32 := (stoul s).map UInt64.toUInt32

/-- The `getline` loop: `elem` is what has been read since the last delimiter. -/
def splitLoop (delim : Char) : Text → Text → List Text
  | elem, [] => if elem.isEmpty then [] else [elem]
  | elem, c :: rest =>
    if c = delim then
      if elem.isEmpty then splitLoop delim [] rest else elem :: splitLoop delim [] rest
    else splitLoop delim (elem ++ [c]) rest

def split (s : Text) (delim : Char) : List Text := splitLoop delim [] s

/-- The writing loop: a delimiter is appended before every field that does not
find the text still empty. -/
def join (delim : Char) (fields : List Text) : Text :=
  fields.foldl (fun s field => (if s.isEmpty then s else s ++ [delim]) ++ field) []

theorem isDigit_of_mem_to_string {n : Nat} {c : Char} (h : c ∈ to_string n) :
    c.isDigit = true := Nat.isDigit_of_mem_toDigits (by omega) (by omega) h

theorem to_string_ne_nil (n : Nat) : to_string n ≠ [] := Nat.toDigits_ne_nil

theorem to_string_injective : Function.Injective to_string := by
  intro m n h
  simpa [to_string] using congrArg (fun t => Nat.ofDigitChars 10 t 0) h

/-- A digit is no blank, no sign and none of the delimiters. -/
theorem not_mem_to_string {n : Nat} {c : Char} (h : c.isDigit = false) : c ∉ to_string n := by
  intro hc
  simp [isDigit_of_mem_to_string hc] at h

theorem isspace_of_isDigit {c : Char} (h : c.isDigit = true) : isspace c = false := by
  by_contra hs
  simp only [isspace, Bool.or_eq_true, decide_eq_true_eq, Bool.not_eq_false] at hs
  rcases hs with ((((rfl | rfl) | rfl) | rfl) | rfl) | rfl <;> simp_all +decide

theorem sign_of_isDigit {t : Text} (h : ∀ c ∈ t, c.isDigit = true) : sign t = (false, t) := by
  match t with
  | [] => rfl
  | c :: t =>
    have hc := h c (by simp)
    unfold sign
    split <;> simp_all +decide

theorem stoul_of_digits {t : Text} (hne : t ≠ []) (h : ∀ c ∈ t, c.isDigit = true)
    (hlt : Nat.ofDigitChars 10 t 0 < 2 ^ 64) :
    stoul t = .ok (UInt64.ofNat (Nat.ofDigitChars 10 t 0)) := by
  have hdrop : t.dropWhile isspace = t := by
    cases t with
    | nil => rfl
    | cons c t => simp [isspace_of_isDigit (h c (by simp))]
  have htake : t.takeWhile Char.isDigit = t := by simpa [List.takeWhile_eq_self_iff] using h
  simpa [stoul, hdrop, sign_of_isDigit h, htake, hne] using hlt

/-- Every number is read back as it was written. -/
theorem stoul_to_string {n : Nat} (h : n < 2 ^ 64) :
    stoul (to_string n) = .ok (UInt64.ofNat n) := by
  have hn : Nat.ofDigitChars 10 (to_string n) 0 = n := by simp [to_string]
  have := stoul_of_digits (to_string_ne_nil n) (fun c => isDigit_of_mem_to_string) (by omega)
  rwa [hn] at this

@[simp] theorem stoul_to_string_ulong (n : UInt64) : stoul (to_string n.toNat) = .ok n := by
  rw [stoul_to_string n.toNat_lt, UInt64.ofNat_toNat]

@[simp] theorem stoui_to_string_uint (n : UInt32) : stoui (to_string n.toNat) = .ok n := by
  have h : n.toNat < 2 ^ 64 := by have := n.toNat_lt; omega
  rw [stoui, stoul_to_string h]
  simp [Except.map]

theorem stoul_error_cases {s : Text} {e : Exn} (h : stoul s = .error e) :
    e = .invalid_argument ∨ e = .out_of_range := by
  unfold stoul at h
  split at h
  dsimp only at h
  split at h
  · cases h
    exact .inl rfl
  · split at h
    · cases h
    · cases h
      exact .inr rfl

theorem stoui_error_eq {s : Text} {e : Exn} : stoui s = .error e ↔ stoul s = .error e := by
  unfold stoui
  cases stoul s <;> simp [Except.map]

theorem stoui_error_cases {s : Text} {e : Exn} (h : stoui s = .error e) :
    e = .invalid_argument ∨ e = .out_of_range := stoul_error_cases (stoui_error_eq.mp h)

theorem stoul_error {s : Text} {e : Exn} (h : stoul s = .error e) : e ≠ .runtime_error := by
  rcases stoul_error_cases h with rfl | rfl <;> decide

theorem stoui_error {s : Text} {e : Exn} (h : stoui s = .error e) : e ≠ .runtime_error :=
  stoul_error (stoui_error_eq.mp h)

section Fields

variable {delim : Char} {field : Text}

theorem splitLoop_append (h : delim ∉ field) (elem rest : Text) :
    splitLoop delim elem (field ++ rest) = splitLoop delim (elem ++ field) rest := by
  induction field generalizing elem with
  | nil => simp
  | cons c field ih =>
    have hc : c ≠ delim := by rintro rfl; simp at h
    rw [List.cons_append, splitLoop, if_neg hc, ih (by simp_all)]
    simp

@[simp] theorem split_nil : split [] delim = [] := rfl

/-- A text without the delimiter is its own single field. -/
theorem split_field (h : delim ∉ field) (hne : field ≠ []) : split field delim = [field] := by
  have := splitLoop_append h [] []
  simpa [split, splitLoop, hne] using this

/-- The field before the first delimiter is cut off. -/
theorem split_field_append (h : delim ∉ field) (hne : field ≠ []) (rest : Text) :
    split (field ++ delim :: rest) delim = field :: split rest delim := by
  rw [split, splitLoop_append h]
  simp [split, splitLoop, hne]

/-- The writing loop from a text already begun. -/
theorem foldl_join {s : Text} (hs : s ≠ []) (fields : List Text) :
    fields.foldl (fun s field => (if s.isEmpty then s else s ++ [delim]) ++ field) s =
      s ++ fields.flatMap (delim :: ·) := by
  induction fields generalizing s with
  | nil => simp
  | cons field fields ih =>
    rw [List.foldl_cons, ih (by simp [hs])]
    simp [hs]

theorem join_cons (hne : field ≠ []) (fields : List Text) :
    join delim (field :: fields) = field ++ fields.flatMap (delim :: ·) := by
  simpa [join] using foldl_join hne fields

/-- What the writing loop produces from non-empty fields free of the delimiter
is cut into the same fields. -/
theorem split_join {fields : List Text} (h : ∀ f ∈ fields, delim ∉ f ∧ f ≠ []) :
    split (join delim fields) delim = fields := by
  cases fields with
  | nil => rfl
  | cons field fields =>
    rw [join_cons (h field (by simp)).2]
    induction fields generalizing field with
    | nil => simpa using split_field (h field (by simp)).1 (h field (by simp)).2
    | cons next fields ih =>
      rw [List.flatMap_cons, List.cons_append,
        split_field_append (h field (by simp)).1 (h field (by simp)).2]
      rw [ih next (by simp_all)]

end Fields

example : split "a::b:".toList ':' = ["a".toList, "b".toList] := by decide

end TextCodec
