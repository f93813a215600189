import Dragonfly.Base.GoText

/-!
# Binary64 conversion and one-decimal printing

A natural number converted to a binary64 float keeps 53 significant bits, rounded to nearest
with ties to even (`toFloat64`). `%.1f` prints the exact value of a float rounded to one
decimal, ties to even, as `strconv`'s decimal conversion rounds (`formatFixed1`). Dividing a
float by a power of two is exact while nothing underflows, so the float quotient
`float64(n) / float64(2 ^ k)` prints as `formatFixed1 neg (toFloat64 n) (2 ^ k)`.

Multiples of their divisor print with the decimal `0` (`formatFixed1_mul`), and a multiple of
a power of two with at most 53 significant bits converts exactly (`toFloat64_mul_two_pow`).
-/

namespace Dragonfly.Base.FloatFormat

open GoText

/-- `p / q` rounded to the nearest natural, ties to the even one. -/
def roundHalfEven (p q : ℕ) : ℕ :=
  if 2 * (p % q) < q then p / q
  else if q < 2 * (p % q) then p / q + 1
  else if p / q % 2 = 0 then p / q
  else p / q + 1

/-- `float64(n)` of a natural `n`: `n` rounded to 53 significant bits, to nearest with ties to
even. -/
def toFloat64 (n : ℕ) : ℕ :=
  if n < 2 ^ 53 then n else roundHalfEven n (2 ^ (n.log2 - 52)) * 2 ^ (n.log2 - 52)

/-- `%.1f` of the float `num / den`, negative when `neg`: the quotient rounded to tenths, ties
to even, printed as its integer part, a point and one decimal. -/
def formatFixed1 (neg : Bool) (num den : ℕ) : List Char :=
  let r := roundHalfEven (10 * num) den
  (if neg then ['-'] else []) ++ formatUint (r / 10) ++ '.' :: formatUint (r % 10)

/-- A multiple of the divisor rounds to its quotient. -/
theorem roundHalfEven_mul {q : ℕ} (hq : 0 < q) (a : ℕ) : roundHalfEven (a * q) q = a := by
  rw [roundHalfEven, Nat.mul_mod_left, if_pos (by omega), Nat.mul_div_cancel a hq]

/-- A multiple of `2 ^ k` by fewer than `2 ^ 53` converts to binary64 exactly. -/
theorem toFloat64_mul_two_pow {X : ℕ} (hX : X < 2 ^ 53) (k : ℕ) :
    toFloat64 (X * 2 ^ k) = X * 2 ^ k := by
  unfold toFloat64
  split_ifs with hsmall
  · rfl
  · have hpos : X * 2 ^ k ≠ 0 := by
      intro h
      rw [h] at hsmall
      exact hsmall (Nat.two_pow_pos 53)
    -- the dropped bits lie below `2 ^ k`, so nothing is rounded away
    have hlog : (X * 2 ^ k).log2 < 53 + k := by
      rw [Nat.log2_lt hpos, Nat.pow_add]
      exact Nat.mul_lt_mul_of_pos_right hX (Nat.two_pow_pos k)
    set s := (X * 2 ^ k).log2 - 52 with hs
    have hsk : s ≤ k := by omega
    have hsplit : X * 2 ^ k = X * 2 ^ (k - s) * 2 ^ s := by
      rw [Nat.mul_assoc, ← Nat.pow_add, Nat.sub_add_cancel hsk]
    rw [hsplit, roundHalfEven_mul (Nat.two_pow_pos s)]

/-- A single decimal digit prints as itself. -/
theorem formatUint_of_lt_ten {r : ℕ} (h : r < 10) : formatUint r = [Nat.digitChar r] :=
  Nat.toDigits_of_lt_base h

/-- `%.1f` of an exact quotient prints its integer part and the decimal `0`. -/
theorem formatFixed1_mul {den : ℕ} (hden : 0 < den) (X : ℕ) :
    formatFixed1 false (X * den) den = formatUint X ++ ['.', '0'] := by
  have hr : roundHalfEven (10 * (X * den)) den = 10 * X := by
    rw [← Nat.mul_assoc, roundHalfEven_mul hden]
  simp only [formatFixed1, hr, Bool.false_eq_true, if_false, List.nil_append]
  rw [Nat.mul_div_cancel_left X (by decide), Nat.mul_mod_right]
  rfl

/-- `%.1f` of a value that is not negative is an integer part, a point and one decimal digit. -/
theorem formatFixed1_eq (num den : ℕ) :
    formatFixed1 false num den =
      formatUint (roundHalfEven (10 * num) den / 10) ++
        ['.', Nat.digitChar (roundHalfEven (10 * num) den % 10)] := by
  simp only [formatFixed1, Bool.false_eq_true, if_false, List.nil_append,
    formatUint_of_lt_ten (Nat.mod_lt _ (show 10 > 0 by decide))]

end Dragonfly.Base.FloatFormat
