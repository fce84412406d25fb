import Mathlib.Algebra.Field.Rat
import Mathlib.Tactic.Ring
import ShortVolume.Number.Binary64
set_option autoImplicit false

/-!
The value of a finite number.

A finite number is a whole number of units of `2 ^ -1074`, which make its value. It is an integer exactly
when that is its value, and two finite numbers of one value are the same.
-/

namespace ShortVolume

theorem twoTo_add (m n : Nat) : twoTo (m + n) = twoTo m * twoTo n := Nat.pow_add 2 m n

theorem twoTo_succ (n : Nat) : twoTo (n + 1) = 2 * twoTo n := by
  rw [twoTo_add,Nat.mul_comm]
  rfl

namespace Binary64

/-- The units of the last place of the significand, as a power of two. -/
def place (x : Binary64) : Nat := max 1 x.exponentField - 1

/-- How many units the number has, apart from its sign. -/
def magnitude (x : Binary64) : Nat := x.significand * twoTo x.place

def units (x : Binary64) : Int := if x.negative then -x.magnitude else x.magnitude

/-- The units of the number one. -/
def one : Nat := twoTo 1074

def value (x : Binary64) : ℚ := x.units / one

theorem one_pos : 0 < one := twoTo_pos 1074

/-! ### Integers -/

theorem exponent_eq (x : Binary64) : x.exponent = (x.place : Int) - 1074 := by
  unfold exponent place
  omega

/-- The two halves of the test on the size, for numbers with and without a fraction, are one. -/
theorem magnitude_eq_iff (x : Binary64) (n : Nat) :
    x.magnitude = n * one ↔
      if 0 ≤ x.exponent then x.significand * twoTo x.exponent.toNat = n
      else x.significand = n * twoTo (-x.exponent).toNat := by
  have he := x.exponent_eq
  split
  · next h =>
    have hplace : x.place = x.exponent.toNat + 1074 := by omega
    rw [magnitude,hplace,twoTo_add,← Nat.mul_assoc]
    exact Nat.mul_left_inj one_pos.ne'
  · next h =>
    have hone : one = twoTo (-x.exponent).toNat * twoTo x.place := by
      rw [← twoTo_add,one]
      congr 1
      omega
    rw [magnitude,hone,← Nat.mul_assoc]
    exact Nat.mul_left_inj (twoTo_pos _).ne'

theorem units_eq_iff (x : Binary64) (n : Int) :
    x.units = n ↔ (n = 0 ∨ x.negative = decide (n < 0)) ∧ x.magnitude = n.natAbs := by
  unfold units
  cases x.negative <;> simp <;> omega

theorem value_eq_intCast_iff (x : Binary64) (i : Int) : x.value = i ↔ x.units = i * one := by
  have hone : (one : ℚ) ≠ 0 := by exact_mod_cast one_pos.ne'
  rw [value,div_eq_iff hone]
  exact_mod_cast Iff.rfl

theorem isInt_iff (x : Binary64) (i : Int) :
    x.isInt i = true ↔ x.isFinite = true ∧ x.value = i := by
  have hone : (0 : Int) < one := by exact_mod_cast one_pos
  have hzero : i * one = 0 ↔ i = 0 := by
    rw [Int.mul_eq_zero]
    omega
  have hnegative : i * one < 0 ↔ i < 0 := by
    rw [Int.mul_neg_iff]
    omega
  rw [value_eq_intCast_iff,units_eq_iff,hzero,Int.natAbs_mul,Int.natAbs_natCast,magnitude_eq_iff]
  simp only [isInt,Bool.and_eq_true,Bool.or_eq_true,beq_iff_eq,hnegative,and_assoc]
  split <;> simp

/-! ### Numbers of one value -/

theorem value_eq_iff (x y : Binary64) : x.value = y.value ↔ x.units = y.units := by
  have hone : (one : ℚ) ≠ 0 := by exact_mod_cast one_pos.ne'
  rw [value,value,div_left_inj' hone,Int.cast_inj]

theorem fractionField_lt (x : Binary64) : x.fractionField < twoTo 52 :=
  Nat.mod_lt x.word (twoTo_pos 52)

theorem significand_lt (x : Binary64) : x.significand < 2 * twoTo 52 := by
  have h := x.fractionField_lt
  unfold significand
  split <;> omega

/-- Only the smallest numbers have a significand of less than 53 bits. -/
theorem place_of_significand_lt {x : Binary64} (h : x.significand < twoTo 52) : x.place = 0 := by
  unfold significand at h
  unfold place
  split at h <;> omega

theorem place_le_of_magnitude_eq {x y : Binary64} (h : x.magnitude = y.magnitude) :
    y.place ≤ x.place := by
  by_contra hlt
  have hlarge : twoTo 52 ≤ y.significand := by
    by_contra hsmall
    have := place_of_significand_lt (Nat.lt_of_not_le hsmall)
    omega
  obtain ⟨d,hd⟩ : ∃ d, y.place = x.place + (d + 1) := ⟨y.place - x.place - 1,by omega⟩
  have hsignificand : x.significand = 2 * y.significand * twoTo d := by
    refine Nat.eq_of_mul_eq_mul_right (twoTo_pos x.place) ?_
    calc x.significand * twoTo x.place = y.significand * twoTo y.place := h
      _ = 2 * y.significand * twoTo d * twoTo x.place := by
        rw [hd,twoTo_add,twoTo_succ]
        ring
  have hpos := twoTo_pos d
  have hle := Nat.le_mul_of_pos_right (2 * y.significand) hpos
  have hlt := x.significand_lt
  omega

theorem fields_of_magnitude_eq {x y : Binary64} (h : x.magnitude = y.magnitude) :
    x.exponentField = y.exponentField ∧ x.fractionField = y.fractionField := by
  have hplace : x.place = y.place :=
    Nat.le_antisymm (place_le_of_magnitude_eq h.symm) (place_le_of_magnitude_eq h)
  have hsignificand : x.significand = y.significand := by
    unfold magnitude at h
    rw [hplace] at h
    exact Nat.eq_of_mul_eq_mul_right (twoTo_pos y.place) h
  have hx := x.fractionField_lt
  have hy := y.fractionField_lt
  unfold place at hplace
  unfold significand at hsignificand
  split at hsignificand <;> split at hsignificand <;> omega

theorem word_lt (x : Binary64) : x.word < 2 * twoTo 63 := x.bits.toNat_lt

theorem eq_of_fields {x y : Binary64} (hs : x.negative = y.negative)
    (he : x.exponentField = y.exponentField) (hf : x.fractionField = y.fractionField) : x = y := by
  have hx := x.word_lt
  have hy := y.word_lt
  have hword : x.word = y.word := by
    have h11 : twoTo 11 = 2048 := rfl
    have h52 : twoTo 52 = 4503599627370496 := rfl
    have h63 : twoTo 63 = 9223372036854775808 := rfl
    simp only [negative,decide_eq_decide,exponentField,fractionField,h11,h52,h63] at hs he hf hx hy
    omega
  obtain ⟨bits⟩ := x
  obtain ⟨bits'⟩ := y
  exact congrArg mk (UInt64.toNat_inj.mp hword)

theorem isZero_iff (x : Binary64) : x.isZero = true ↔ x.magnitude = 0 := by
  have hpos := twoTo_pos x.place
  have hunit := twoTo_pos 52
  unfold isZero magnitude significand
  rw [Nat.mul_eq_zero]
  simp only [Bool.and_eq_true,beq_iff_eq]
  split <;> omega

theorem not_isNaN_of_isFinite {x : Binary64} (h : x.isFinite = true) : x.isNaN = false := by
  unfold isFinite at h
  simp [isNaN,bne_iff_ne.mp h]

theorem isFinite_of_isZero {x : Binary64} (h : x.isZero = true) : x.isFinite = true := by
  unfold isZero at h
  simp only [Bool.and_eq_true,beq_iff_eq] at h
  simp [isFinite,h.1]

/-- Finite numbers are the same when they have one value, as both zeros have. -/
theorem same_iff_value {x y : Binary64} (hx : x.isFinite = true) (hy : y.isFinite = true) :
    x = y ∨ x.same y = true ↔ x.value = y.value := by
  rw [value_eq_iff]
  simp only [same,not_isNaN_of_isFinite hx,not_isNaN_of_isFinite hy,Bool.not_false,Bool.true_and,
    Bool.or_eq_true,beq_iff_eq,Bool.and_eq_true,isZero_iff]
  constructor
  · rintro (rfl | rfl | ⟨hzero,hzero'⟩)
    · rfl
    · rfl
    · simp [units,hzero,hzero']
  · intro h
    have hmagnitude : x.magnitude = y.magnitude := by
      unfold units at h
      split at h <;> split at h <;> omega
    obtain ⟨hexponent,hfraction⟩ := fields_of_magnitude_eq hmagnitude
    by_cases hs : x.negative = y.negative
    · exact .inl (eq_of_fields hs hexponent hfraction)
    · have hzero : x.magnitude = 0 := by
        unfold units at h
        cases hn : x.negative with
        | false =>
          have hn' : y.negative = true := by simpa [hn] using Ne.symm hs
          simp only [hn,hn',Bool.false_eq_true,if_false,if_true] at h
          omega
        | true =>
          have hn' : y.negative = false := by simpa [hn] using Ne.symm hs
          simp only [hn,hn',Bool.false_eq_true,if_false,if_true] at h
          omega
      exact .inr (.inr ⟨hzero,hmagnitude ▸ hzero⟩)

/-- Of other numbers each is the same as itself only. -/
theorem same_iff_eq {x y : Binary64} (h : x.isFinite = false ∨ y.isFinite = false) :
    x = y ∨ x.same y = true ↔ x = y := by
  have hzero : ¬(x.isZero = true ∧ y.isZero = true) := by
    rintro ⟨hx,hy⟩
    simp [isFinite_of_isZero hx,isFinite_of_isZero hy] at h
  simp only [same,Bool.or_eq_true,Bool.and_eq_true,beq_iff_eq]
  tauto

end Binary64

end ShortVolume
