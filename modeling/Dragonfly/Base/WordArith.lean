import Mathlib

/-!
# Wrapping word arithmetic, bounded above

A sum, difference or product of 64-bit words wraps modulo `2 ^ 64`: it is the exact result when
that is a word (`Int64.toInt_sub_of_bounds`, `Int64.toInt_mul_of_bounds`). When the exact result is
at least the least word, `-2 ^ 63`, wrapping can only lower it (`bmod_le_self`): the word result
is then at most the exact one (`Int64.toInt_add_le`, `Int64.toInt_sub_le`, `Int64.toInt_mul_le`),
so an upper bound proved over the integers holds of the words.

Whole windows of elapsed time add up to at most the whole windows of the total time
(`ediv_add_ediv_le`). Counts below `2 ^ 32` keep their identity as 32-bit words
(`Int32.ofNat_inj_of_lt`), even past the largest `int32`.
-/

namespace Dragonfly.Base.WordArith

/-- Reducing to the balanced residues never raises a value at least the least residue. -/
theorem bmod_le_self {x : ℤ} {m : ℕ} (h : -((m : ℤ) / 2) ≤ x) : x.bmod m ≤ x := by
  rcases Nat.eq_zero_or_pos m with rfl | hm
  · simp
  · by_cases hx : x < ((m : ℤ) + 1) / 2
    · exact Int.le_of_eq (Int.bmod_eq_of_le h hx)
    · have hlt : x.bmod m < ((m : ℤ) + 1) / 2 := Int.bmod_lt hm
      omega

theorem Int64.toInt_sub_of_bounds {a b : Int64} (h₁ : -2 ^ 63 ≤ a.toInt - b.toInt)
    (h₂ : a.toInt - b.toInt < 2 ^ 63) : (a - b).toInt = a.toInt - b.toInt := by
  rw [Int64.toInt_sub]
  exact Int.bmod_eq_of_le (by omega) (by omega)

theorem Int64.toInt_mul_of_bounds {a b : Int64} (h₁ : -2 ^ 63 ≤ a.toInt * b.toInt)
    (h₂ : a.toInt * b.toInt < 2 ^ 63) : (a * b).toInt = a.toInt * b.toInt := by
  rw [Int64.toInt_mul]
  exact Int.bmod_eq_of_le (by omega) (by omega)

theorem Int64.toInt_add_le (a b : Int64) (h : -2 ^ 63 ≤ a.toInt + b.toInt) :
    (a + b).toInt ≤ a.toInt + b.toInt := by
  rw [Int64.toInt_add]
  exact bmod_le_self (by omega)

theorem Int64.toInt_sub_le (a b : Int64) (h : -2 ^ 63 ≤ a.toInt - b.toInt) :
    (a - b).toInt ≤ a.toInt - b.toInt := by
  rw [Int64.toInt_sub]
  exact bmod_le_self (by omega)

theorem Int64.toInt_mul_le (a b : Int64) (h : -2 ^ 63 ≤ a.toInt * b.toInt) :
    (a * b).toInt ≤ a.toInt * b.toInt := by
  rw [Int64.toInt_mul]
  exact bmod_le_self (by omega)

/-- Whole windows are superadditive. -/
theorem ediv_add_ediv_le (a b : ℤ) {c : ℤ} (hc : 0 < c) : a / c + b / c ≤ (a + b) / c := by
  have hc0 : c ≠ 0 := Int.ne_of_gt hc
  rw [Int.le_ediv_iff_mul_le hc, Int.add_mul]
  exact Int.add_le_add (Int.ediv_mul_le a hc0) (Int.ediv_mul_le b hc0)

/-- Naturals below `2 ^ 32` are distinct as `int32` words. -/
theorem Int32.ofNat_inj_of_lt {a b : ℕ} (ha : a < 2 ^ 32) (hb : b < 2 ^ 32) :
    Int32.ofNat a = Int32.ofNat b ↔ a = b := by
  constructor
  · intro h
    have hbits := congrArg (fun x : Int32 => x.toBitVec.toNat) h
    simp only [Int32.toBitVec_ofNat', BitVec.toNat_ofNat, Nat.mod_eq_of_lt ha,
      Nat.mod_eq_of_lt hb] at hbits
    exact hbits
  · rintro rfl
    rfl

end Dragonfly.Base.WordArith
