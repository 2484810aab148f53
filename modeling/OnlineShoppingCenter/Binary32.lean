import Mathlib

/-!
# Binary floating point of 32 bits

A finite number is counted in units of 2⁻¹⁴⁹, the smallest positive number. A
result is the exact one rounded to 24 significant bits, to the nearest and a tie
to even; beyond the largest number it is an infinity. A zero has no sign.
-/
namespace Binary32

/-- The whole number nearest to `n / d`; of two the even one. -/
def roundEven (n d : Nat) : Nat :=
  if 2 * (n % d) < d ∨ (2 * (n % d) = d ∧ n / d % 2 = 0) then n / d else n / d + 1

/-- The number of 24 significant bits nearest to `n / d`. -/
def nearest (n d : Nat) : Nat :=
  let shift := (n / d).log2 - 23
  roundEven n (d * 2 ^ shift) * 2 ^ shift

def smallestNormal : Nat := 2 ^ 23

def largest : Nat := (2 ^ 24 - 1) * 2 ^ 253

section Nearest

variable {m n d : Nat}

theorem roundEven_le (hd : 0 < d) (h : n ≤ m * d) : roundEven n d ≤ m := by
  have hdiv : n / d ≤ m := Nat.div_le_of_le_mul (by rwa [Nat.mul_comm])
  unfold roundEven
  split
  · exact hdiv
  · rename_i hup
    have hlt : n / d < m := by
      refine Nat.lt_of_le_of_ne hdiv ?_
      rintro rfl
      have hmod : n % d = 0 := by
        have := Nat.div_add_mod' n d
        omega
      omega
    omega

theorem le_roundEven (hd : 0 < d) (h : m * d ≤ n) : m ≤ roundEven n d := by
  have hdiv : m ≤ n / d := (Nat.le_div_iff_mul_le hd).mpr h
  unfold roundEven
  split <;> omega

/-- What is not beyond the largest number is not rounded beyond it. -/
theorem nearest_le_largest (hd : 0 < d) (h : n ≤ largest * d) : nearest n d ≤ largest := by
  have hshift : (n / d).log2 - 23 ≤ 253 := by
    have hdiv : n / d ≤ largest := Nat.div_le_of_le_mul (by rwa [Nat.mul_comm])
    have hlog : (n / d).log2 < 24 + 253 := by
      by_cases hzero : n / d = 0
      · simp [hzero]
      · refine (Nat.log2_lt hzero).mpr (hdiv.trans_lt ?_)
        calc largest < 2 ^ 24 * 2 ^ 253 :=
              Nat.mul_lt_mul_of_pos_right (by norm_num) (Nat.two_pow_pos 253)
          _ = 2 ^ (24 + 253) := (Nat.pow_add 2 24 253).symm
    omega
  unfold nearest
  generalize (n / d).log2 - 23 = shift at hshift ⊢
  have hlargest : largest = (2 ^ 24 - 1) * 2 ^ (253 - shift) * 2 ^ shift := by
    rw [largest, Nat.mul_assoc, ← Nat.pow_add, Nat.sub_add_cancel hshift]
  have hround : roundEven n (d * 2 ^ shift) ≤ (2 ^ 24 - 1) * 2 ^ (253 - shift) := by
    apply roundEven_le (Nat.mul_pos hd (Nat.two_pow_pos shift))
    rw [Nat.mul_comm d, ← Nat.mul_assoc, ← hlargest]
    exact h
  calc roundEven n (d * 2 ^ shift) * 2 ^ shift
      ≤ (2 ^ 24 - 1) * 2 ^ (253 - shift) * 2 ^ shift := Nat.mul_le_mul_right _ hround
    _ = largest := hlargest.symm

/-- What is not below the smallest normal number is not rounded below it. -/
theorem smallestNormal_le_nearest (hd : 0 < d) (h : smallestNormal * d ≤ n) :
    smallestNormal ≤ nearest n d := by
  have hdiv : 2 ^ 23 ≤ n / d := (Nat.le_div_iff_mul_le hd).mpr h
  have hpos : n / d ≠ 0 := by
    have := Nat.two_pow_pos 23
    omega
  have hlog : 23 ≤ (n / d).log2 := (Nat.le_log2 hpos).mpr hdiv
  have hself : 2 ^ (n / d).log2 ≤ n / d := Nat.log2_self_le hpos
  unfold nearest smallestNormal
  have hsplit : 2 ^ 23 * 2 ^ ((n / d).log2 - 23) = 2 ^ (n / d).log2 := by
    rw [← Nat.pow_add, Nat.add_sub_cancel' hlog]
  have hround : 2 ^ 23 ≤ roundEven n (d * 2 ^ ((n / d).log2 - 23)) := by
    apply le_roundEven (Nat.mul_pos hd (Nat.two_pow_pos _))
    rw [Nat.mul_comm d, ← Nat.mul_assoc, hsplit]
    exact (Nat.mul_le_mul_right d hself).trans (Nat.div_mul_le_self n d)
  exact hround.trans (Nat.le_mul_of_pos_right _ (Nat.two_pow_pos _))

end Nearest

end Binary32

/-- A finite number by its units, an infinity by its sign. -/
inductive Binary32 where
  | finite (units : Int) (bounded : units.natAbs ≤ Binary32.largest)
  | infinite (negative : Bool)
  | nan

namespace Binary32

def signed (negative : Bool) (n : Nat) : Int := if negative then -n else n

@[simp] theorem natAbs_signed (negative : Bool) (n : Nat) : (signed negative n).natAbs = n := by
  unfold signed
  split <;> simp

/-- `n / d` units, rounded. -/
def round (negative : Bool) (n d : Nat) : Binary32 :=
  if h : nearest n d ≤ largest then
    .finite (signed negative (nearest n d)) (by rwa [natAbs_signed])
  else .infinite negative

/-- `n / d` itself, rounded; nothing where it overflows or is below the normal numbers. -/
def ofRatio (negative : Bool) (n d : Nat) : Option Binary32 :=
  let units := nearest (n * 2 ^ 149) d
  if n = 0 ∨ smallestNormal ≤ units ∧ units ≤ largest then some (round negative (n * 2 ^ 149) d)
  else none

def ofNat (n : Nat) : Binary32 := round false (n * 2 ^ 149) 1

def add : Binary32 → Binary32 → Binary32
  | .finite a _, .finite b _ => round (a + b < 0) (a + b).natAbs 1
  | .infinite s, .infinite t => if s = t then .infinite s else .nan
  | .infinite s, .finite .. | .finite .., .infinite s => .infinite s
  | .nan, _ | _, .nan => .nan

def mul : Binary32 → Binary32 → Binary32
  | .finite a _, .finite b _ => round (a * b < 0) (a * b).natAbs (2 ^ 149)
  | .infinite s, .infinite t => .infinite (s != t)
  | .infinite s, .finite a _ | .finite a _, .infinite s =>
    if a = 0 then .nan else .infinite (s != decide (a < 0))
  | .nan, _ | _, .nan => .nan

theorem ofRatio_isSome {negative : Bool} {n d : Nat} (hd : 0 < d)
    (hn : n = 0 ∨ d ≤ n * 2 ^ 126) (hlargest : n * 2 ^ 149 ≤ largest * d) :
    (ofRatio negative n d).isSome = true := by
  have hrange : n = 0 ∨ smallestNormal ≤ nearest (n * 2 ^ 149) d ∧
      nearest (n * 2 ^ 149) d ≤ largest := by
    refine hn.imp_right fun hn => ⟨smallestNormal_le_nearest hd ?_, nearest_le_largest hd hlargest⟩
    calc smallestNormal * d ≤ 2 ^ 23 * (n * 2 ^ 126) := Nat.mul_le_mul_left _ hn
      _ = n * 2 ^ 149 := by ring
  rw [ofRatio, if_pos hrange]
  rfl

/-- The whole number nearest to `10 ^ places` times the number. -/
def scaled (places : Nat) (units : Nat) : Nat := roundEven (units * 10 ^ places) (2 ^ 149)

/-- Printed with six decimals or fewer and read again, a number stays in range. -/
theorem ofRatio_scaled (negative : Bool) (places : Nat) {units : Nat}
    (hplaces : 10 ^ places ≤ 2 ^ 126) (hunits : units ≤ largest) :
    (ofRatio negative (scaled places units) (10 ^ places)).isSome = true := by
  have hscaled : scaled places units ≤ (2 ^ 24 - 1) * 2 ^ 104 * 10 ^ places := by
    apply roundEven_le (Nat.two_pow_pos 149)
    calc units * 10 ^ places ≤ largest * 10 ^ places := Nat.mul_le_mul_right _ hunits
      _ = (2 ^ 24 - 1) * 2 ^ 104 * 10 ^ places * 2 ^ 149 := by
        rw [largest]
        ring
  apply ofRatio_isSome (Nat.pow_pos (by decide))
  · rcases Nat.eq_zero_or_pos (scaled places units) with hzero | hpos
    · exact .inl hzero
    · exact .inr (hplaces.trans (Nat.le_mul_of_pos_left _ hpos))
  · calc scaled places units * 2 ^ 149 ≤ (2 ^ 24 - 1) * 2 ^ 104 * 10 ^ places * 2 ^ 149 :=
        Nat.mul_le_mul_right _ hscaled
      _ = largest * 10 ^ places := by
        rw [largest]
        ring

end Binary32
