import Mathlib.Algebra.BigOperators.Group.List.Basic
import Mathlib.Algebra.Order.Field.Basic
import Mathlib.Analysis.SpecialFunctions.Pow.Real

/-!
# Mean and population variance of a list

The mean of a list is its sum over its length and the population variance the mean squared
deviation from the mean, both in a field, where the empty list has mean and variance `0`.
The squared deviations sum to `Σxᵢ² − n·x̄²` (`sum_sq_dev`), and for samples that are not
negative the variance is at most `x̄² (n − 1)` (`populationVariance_le`): all the mass in one
sample is the worst case. A comparison with `x̄ + k·√v` is decided without the root by
comparing squares (`add_mul_sqrt_lt_iff`).
-/

namespace Dragonfly.Base.Stats

variable {α : Type} [Field α]

/-- The mean of a list: its sum over its length. -/
def mean (xs : List α) : α := xs.sum / xs.length

/-- The population variance: the squared deviations from the mean, summed, over the length. -/
def populationVariance (xs : List α) : α := (xs.map fun x => (x - mean xs) ^ 2).sum / xs.length

@[simp] theorem mean_nil : mean ([] : List α) = 0 := by simp [mean]

section CharZero

variable [CharZero α]

/-- The sum is the length times the mean, the empty list included. -/
theorem sum_eq_length_mul_mean (xs : List α) : xs.sum = xs.length * mean xs := by
  by_cases hne : xs = []
  · subst hne
    simp
  · have hlen : (xs.length : α) ≠ 0 := Nat.cast_ne_zero.mpr (List.length_pos_iff.mpr hne).ne'
    rw [mean, mul_div_cancel₀ _ hlen]

/-- The squared deviations from any centre `m`, expanded. -/
theorem sum_sq_sub (m : α) : ∀ xs : List α,
    (xs.map fun x => (x - m) ^ 2).sum = (xs.map (· ^ 2)).sum - 2 * m * xs.sum + xs.length * m ^ 2
  | [] => by simp
  | x :: xs => by
    simp only [List.map_cons, List.sum_cons, List.length_cons, sum_sq_sub m xs]
    push_cast
    ring

/-- The squared deviations sum to the sum of squares less `n` times the squared mean. -/
theorem sum_sq_dev (xs : List α) :
    (xs.map fun x => (x - mean xs) ^ 2).sum = (xs.map (· ^ 2)).sum - xs.length * mean xs ^ 2 := by
  rw [sum_sq_sub, sum_eq_length_mul_mean xs]
  ring

end CharZero

section Ordered

variable [LinearOrder α] [IsStrictOrderedRing α]

/-- The sum of the squares of samples that are not negative is at most the square of their sum. -/
theorem sum_sq_le_sq_sum : ∀ {xs : List α}, (∀ x ∈ xs, 0 ≤ x) →
    (xs.map (· ^ 2)).sum ≤ xs.sum ^ 2
  | [], _ => by simp
  | x :: xs, h => by
    have hx : 0 ≤ x := h x (List.mem_cons_self ..)
    have hrest : 0 ≤ xs.sum := List.sum_nonneg fun y hy => h y (List.mem_cons_of_mem x hy)
    have ih := sum_sq_le_sq_sum fun y hy => h y (List.mem_cons_of_mem x hy)
    simp only [List.map_cons, List.sum_cons]
    nlinarith [mul_nonneg hx hrest]

/-- The variance of samples that are not negative is at most `x̄² (n − 1)`. -/
theorem populationVariance_le {xs : List α} (h : ∀ x ∈ xs, 0 ≤ x) :
    populationVariance xs ≤ mean xs ^ 2 * (xs.length - 1) := by
  by_cases hne : xs = []
  · subst hne
    simp [populationVariance]
  have hlen : (0 : α) < xs.length := by simpa using List.length_pos_iff.mpr hne
  -- `Σ(x − x̄)² = Σx² − n x̄² ≤ (Σx)² − n x̄² = n x̄² (n − 1)`
  have hdev : (xs.map fun x => (x - mean xs) ^ 2).sum ≤
      xs.length * (mean xs ^ 2 * (xs.length - 1)) := by
    rw [sum_sq_dev]
    have hsq := sum_sq_le_sq_sum h
    rw [sum_eq_length_mul_mean xs] at hsq
    nlinarith
  rw [populationVariance, div_le_iff₀ hlen]
  linarith

end Ordered

/-- `x̄ + k·√v < x` exactly when `x̄ < x` and `k² v < (x − x̄)²`. -/
theorem add_mul_sqrt_lt_iff {m k v x : ℝ} (hk : 0 ≤ k) :
    m + k * Real.sqrt v < x ↔ m < x ∧ k ^ 2 * v < (x - m) ^ 2 := by
  have hroot : k * Real.sqrt v = Real.sqrt (k ^ 2 * v) := by
    rw [Real.sqrt_mul (sq_nonneg k), Real.sqrt_sq hk]
  rw [hroot]
  by_cases hmx : m < x
  · rw [← lt_sub_iff_add_lt', Real.sqrt_lt' (sub_pos.mpr hmx)]
    exact ⟨fun h => ⟨hmx, h⟩, fun h => h.2⟩
  · have hle : m ≤ m + Real.sqrt (k ^ 2 * v) := le_add_of_nonneg_right (Real.sqrt_nonneg _)
    exact ⟨fun h => absurd (hle.trans_lt h) hmx, fun h => absurd h.1 hmx⟩

end Dragonfly.Base.Stats
