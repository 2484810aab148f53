import OnlineShoppingCenter.Binary32
import OnlineShoppingCenter.Records

/-!
# A concrete platform

Floats of 32 bits, ids as their text and dates as the text they are formatted
to. It answers as the C library does for decimal numerals without an exponent,
for numbers other than a negative zero, and for the ids and dates that the
program writes, and makes whole sessions computable.
-/
namespace OnlineShoppingCenter.Posix

open TextCodec

def fraction : Text → Text
  | '.' :: t => t.takeWhile Char.isDigit
  | _ => []

def stof (s : Text) : Except Exn Binary32 :=
  let (negative, t) := sign (s.dropWhile isspace)
  let whole := t.takeWhile Char.isDigit
  let part := fraction (t.dropWhile Char.isDigit)
  if whole.isEmpty && part.isEmpty then
    if "inf".toList.isPrefixOf t then .ok (.infinite negative)
    else if "nan".toList.isPrefixOf t then .ok .nan
    else .error .invalid_argument
  else
    match Binary32.ofRatio negative (Nat.ofDigitChars 10 (whole ++ part) 0) (10 ^ part.length) with
    | some f => .ok f
    | none => .error .out_of_range

/-- A number with so many decimals. -/
def decimal (places : Nat) : Binary32 → Text
  | .finite units _ =>
    let n := Binary32.scaled places units.natAbs
    (if units < 0 then ['-'] else []) ++ (to_string (n / 10 ^ places) ++
      '.' :: (to_string (n % 10 ^ places)).leftpad places '0')
  | .infinite negative => (if negative then ['-'] else []) ++ "inf".toList
  | .nan => "nan".toList

def to_string_f (f : Binary32) : Text := decimal 6 f

theorem sign_cons {c : Char} (hc : c.isDigit = true) (t : Text) :
    sign (c :: t) = (false, c :: t) := by
  unfold sign
  split <;> simp_all +decide

theorem sign_minus (t : Text) : sign ((['-'] ++ t).dropWhile isspace) = (true, t) := rfl

/-- A sign, digits, a point and digits. -/
theorem stof_of_sign {s whole part : Text} {negative : Bool} (hne : whole ≠ [])
    (hdigits : ∀ c ∈ whole ++ part, c.isDigit = true)
    (hsign : sign (s.dropWhile isspace) = (negative, whole ++ '.' :: part))
    (hrange : (Binary32.ofRatio negative (Nat.ofDigitChars 10 (whole ++ part) 0)
      (10 ^ part.length)).isSome = true) : ∃ f, stof s = .ok f := by
  have hwhole : ∀ c ∈ whole, c.isDigit = true := fun c hc => hdigits c (List.mem_append_left _ hc)
  have hpart : part.takeWhile Char.isDigit = part := by
    rw [List.takeWhile_eq_self_iff]
    exact fun c hc => hdigits c (List.mem_append_right _ hc)
  have htake : (whole ++ '.' :: part).takeWhile Char.isDigit = whole := by
    rw [List.takeWhile_append_of_pos hwhole]
    simp +decide
  have hdrop : (whole ++ '.' :: part).dropWhile Char.isDigit = '.' :: part := by
    rw [List.dropWhile_append_of_pos hwhole]
    simp +decide
  have hempty : whole.isEmpty = false := List.isEmpty_eq_false_iff.mpr hne
  obtain ⟨f, hf⟩ := Option.isSome_iff_exists.mp hrange
  unfold stof
  simp only [hsign, htake, hdrop, fraction, hpart, hempty, Bool.false_and, Bool.false_eq_true,
    if_false, hf]
  exact ⟨f, rfl⟩

theorem stof_of_digits {whole part : Text} (hne : whole ≠ [])
    (hdigits : ∀ c ∈ whole ++ part, c.isDigit = true)
    (hrange : (Binary32.ofRatio false (Nat.ofDigitChars 10 (whole ++ part) 0)
      (10 ^ part.length)).isSome = true) : ∃ f, stof (whole ++ '.' :: part) = .ok f := by
  obtain ⟨c, t, rfl⟩ := List.exists_cons_of_ne_nil hne
  have hc : c.isDigit = true := hdigits c (by simp)
  apply stof_of_sign hne hdigits _ hrange
  rw [List.cons_append, List.dropWhile_cons_of_neg (by simp [isspace_of_isDigit hc]), sign_cons hc]

/-- So many digits make a number below that power of ten. -/
theorem ofDigitChars_lt {t : Text} (h : ∀ c ∈ t, c.isDigit = true) (init : Nat) :
    Nat.ofDigitChars 10 t init < (init + 1) * 10 ^ t.length := by
  induction t generalizing init with
  | nil => simp
  | cons c t ih =>
    have hc : c.toNat - '0'.toNat ≤ 9 := by
      have hdigit := h c List.mem_cons_self
      simp only [Char.isDigit, Bool.and_eq_true, decide_eq_true_eq] at hdigit
      have hle : c.toNat ≤ 57 := UInt32.le_iff_toNat_le.mp hdigit.2
      change c.toNat - 48 ≤ 9
      omega
    have hrest := ih (fun d hd => h d (List.mem_cons_of_mem _ hd)) (10 * init + (c.toNat - '0'.toNat))
    rw [Nat.ofDigitChars_cons]
    refine hrest.trans_le ?_
    calc (10 * init + (c.toNat - '0'.toNat) + 1) * 10 ^ t.length
        ≤ (init + 1) * 10 * 10 ^ t.length := Nat.mul_le_mul_right _ (by omega)
      _ = (init + 1) * 10 ^ (c :: t).length := by
        rw [List.length_cons, Nat.pow_succ, Nat.mul_assoc, Nat.mul_comm 10]

theorem stof_plain (whole part : Text) (h : PlainDecimal whole part) :
    ∃ f, stof (whole ++ '.' :: part) = .ok f := by
  apply stof_of_digits h.whole_ne h.digits
  have hpart : 10 ^ part.length ≤ 10 ^ 30 := Nat.pow_le_pow_right (by decide) h.fraction_le
  have hwhole : 10 ^ whole.length ≤ 10 ^ 30 := Nat.pow_le_pow_right (by decide) h.whole_le
  have hlt := ofDigitChars_lt h.digits 0
  generalize Nat.ofDigitChars 10 (whole ++ part) 0 = n at hlt ⊢
  rw [List.length_append, Nat.pow_add] at hlt
  apply Binary32.ofRatio_isSome (Nat.pow_pos (by decide))
  · rcases Nat.eq_zero_or_pos n with hzero | hpos
    · exact .inl hzero
    · have hone : 2 ^ 126 ≤ n * 2 ^ 126 := Nat.le_mul_of_pos_left _ hpos
      have hunits : 10 ^ 30 ≤ 2 ^ 126 := by norm_num
      exact .inr (hpart.trans (hunits.trans hone))
  · have hn : n ≤ 10 ^ 30 * 10 ^ part.length := by
      have := Nat.mul_le_mul_right (10 ^ part.length) hwhole
      omega
    calc n * 2 ^ 149 ≤ 10 ^ 30 * 10 ^ part.length * 2 ^ 149 := Nat.mul_le_mul_right _ hn
      _ = 10 ^ 30 * 2 ^ 149 * 10 ^ part.length := by ring
      _ ≤ Binary32.largest * 10 ^ part.length :=
        Nat.mul_le_mul_right _ (by norm_num [Binary32.largest])

theorem length_decimals (n : Nat) : ((to_string (n % 10 ^ 6)).leftpad 6 '0').length = 6 := by
  have hlength : (to_string (n % 10 ^ 6)).length ≤ 6 :=
    (Nat.length_toDigits_le_iff (by decide) (by decide)).mpr (Nat.mod_lt _ (by decide))
  rw [List.leftpad, List.length_append, List.length_replicate]
  omega

/-- What `to_string` prints of the digits before and after the point is read as one number. -/
theorem ofDigitChars_decimal (n : Nat) :
    Nat.ofDigitChars 10 (to_string (n / 10 ^ 6) ++ (to_string (n % 10 ^ 6)).leftpad 6 '0') 0 = n := by
  have hrest : Nat.ofDigitChars 10 ((to_string (n % 10 ^ 6)).leftpad 6 '0') 0 = n % 10 ^ 6 := by
    rw [List.leftpad, Nat.ofDigitChars_append, Nat.ofDigitChars_replicate_zero, Nat.mul_zero]
    exact Nat.ofDigitChars_ten_toDigits
  have hwhole : Nat.ofDigitChars 10 (to_string (n / 10 ^ 6)) 0 = n / 10 ^ 6 :=
    Nat.ofDigitChars_ten_toDigits
  rw [Nat.ofDigitChars_append, hwhole, Nat.ofDigitChars_eq_ofDigitChars_zero, length_decimals, hrest]
  omega

theorem stof_to_string (f : Binary32) : ∃ g, stof (to_string_f f) = .ok g := by
  cases f with
  | nan => exact ⟨_, rfl⟩
  | infinite negative => cases negative <;> exact ⟨_, rfl⟩
  | finite units hunits =>
    have hrange := fun negative => Binary32.ofRatio_scaled negative 6 (by norm_num) hunits
    unfold to_string_f decimal
    dsimp only
    generalize Binary32.scaled 6 units.natAbs = n at hrange ⊢
    have hdigits : ∀ c ∈ to_string (n / 10 ^ 6) ++ (to_string (n % 10 ^ 6)).leftpad 6 '0',
        c.isDigit = true := by
      intro c hc
      rcases List.mem_append.mp hc with hc | hc
      · exact isDigit_of_mem_to_string hc
      · rcases List.mem_append.mp hc with hc | hc
        · rw [(List.mem_replicate.mp hc).2]
          decide
        · exact isDigit_of_mem_to_string hc
    by_cases hneg : units < 0
    · rw [if_pos hneg]
      apply stof_of_sign (to_string_ne_nil _) hdigits (sign_minus _)
      rw [ofDigitChars_decimal, length_decimals]
      exact hrange true
    · rw [if_neg hneg, List.nil_append]
      apply stof_of_digits (to_string_ne_nil _) hdigits
      rw [ofDigitChars_decimal, length_decimals]
      exact hrange false

theorem stof_error (t : Text) (e : Exn) (h : stof t = .error e) :
    e = .invalid_argument ∨ e = .out_of_range := by
  unfold stof at h
  split at h
  dsimp only at h
  split at h
  · split at h
    · cases h
    · split at h
      · cases h
      · cases h
        exact .inl rfl
  · split at h
    · cases h
    · cases h
      exact .inr rfl

abbrev Id := { t : Text // uuidText t = true }

def uuid_parse (t : Text) : Option Id := if h : uuidText t = true then some ⟨t, h⟩ else none

def nil : Id := ⟨"00000000-0000-0000-0000-000000000000".toList, by decide⟩

end OnlineShoppingCenter.Posix

namespace OnlineShoppingCenter

@[reducible] def posix : Platform where
  Flt := Binary32
  flt := Binary32.ofNat
  fadd := Binary32.add
  fmul := Binary32.mul
  stof := Posix.stof
  to_string_f := Posix.to_string_f
  Uuid := Posix.Id
  uuid_parse := Posix.uuid_parse
  uuid_unparse_lower id := id.1
  Tm := TextCodec.Text
  strftime t := t
  strptime t _ := t
  indeterminate_float := Binary32.ofNat 0
  indeterminate_uint := 0
  indeterminate_ulong := 0
  indeterminate_uuid := Posix.nil
  indeterminate_tm := []
  stof_plain := Posix.stof_plain
  stof_to_string := Posix.stof_to_string
  stof_error := Posix.stof_error
  parse_unparse u := dif_pos u.2
  unparse_text u := u.2
  text_unparse t h := ⟨⟨t, h⟩, rfl⟩

end OnlineShoppingCenter
