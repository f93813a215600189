import Mathlib.Data.List.Sort
import Mathlib.Data.List.TakeWhile
import Mathlib.Order.Interval.Finset.Nat

/-!
# Windows of a strictly increasing list

Two ways to answer "the pieces from `s` on, at most `k` of them" over a strictly increasing
list of numbers: take the first `k` elements from `s` on, or keep the elements inside the
window `[s, s + k)`. On a strictly increasing list a predicate that is closed downwards keeps
a prefix, and the window holds at most `k` distinct numbers, so the window is what the first
answer keeps below `s + k`.
-/

namespace Dragonfly.Base

/-- On a strictly increasing list, a predicate closed downwards selects a prefix. -/
theorem filter_eq_takeWhile {α : Type*} [Preorder α] {l : List α} (hl : l.Pairwise (· < ·))
    {p : α → Bool} (hp : ∀ a b, a ≤ b → p b → p a) : l.filter p = l.takeWhile p := by
  induction l with
  | nil => rfl
  | cons x xs ih =>
    rw [List.pairwise_cons] at hl
    by_cases hx : p x
    · rw [List.filter_cons_of_pos hx, List.takeWhile_cons_of_pos hx, ih hl.2]
    · rw [List.filter_cons_of_neg hx, List.takeWhile_cons_of_neg hx, List.filter_eq_nil_iff]
      intro y hy hpy
      exact hx (hp x y (le_of_lt (hl.1 y hy)) hpy)

/-- Cutting a list after its longest `p`-prefix keeps that prefix. -/
theorem takeWhile_take {α : Type*} {l : List α} {p : α → Bool} {n : ℕ}
    (h : (l.takeWhile p).length ≤ n) : (l.take n).takeWhile p = l.takeWhile p := by
  induction l generalizing n with
  | nil => simp
  | cons x xs ih =>
    by_cases hx : p x
    · rw [List.takeWhile_cons_of_pos hx, List.length_cons] at h
      obtain ⟨n, rfl⟩ : ∃ m, n = m + 1 := ⟨n - 1, by omega⟩
      rw [List.take_succ_cons, List.takeWhile_cons_of_pos hx, List.takeWhile_cons_of_pos hx,
        ih (by omega)]
    · cases n with
      | zero => simp [List.takeWhile_cons_of_neg hx]
      | succ n => rw [List.take_succ_cons, List.takeWhile_cons_of_neg hx,
          List.takeWhile_cons_of_neg hx]

/-- The window `[s, s + k)` of a strictly increasing list of naturals holds at most `k`
elements. -/
theorem length_takeWhile_window {l : List ℕ} (hl : l.Pairwise (· < ·)) {s : ℕ}
    (hs : ∀ n ∈ l, s ≤ n) (k : ℕ) : (l.takeWhile (· < s + k)).length ≤ k := by
  have hsub := List.takeWhile_sublist (· < s + k) (l := l)
  have hnodup : (l.takeWhile (· < s + k)).Nodup := (hl.sublist hsub).nodup
  have hwin : (l.takeWhile (· < s + k)).toFinset ⊆ Finset.Ico s (s + k) := by
    intro n hn
    rw [List.mem_toFinset] at hn
    have hlt := List.mem_takeWhile_imp hn
    rw [Finset.mem_Ico]
    exact ⟨hs n (hsub.subset hn), by simpa using hlt⟩
  calc (l.takeWhile (· < s + k)).length = (l.takeWhile (· < s + k)).toFinset.card :=
        (List.toFinset_card_of_nodup hnodup).symm
    _ ≤ (Finset.Ico s (s + k)).card := Finset.card_le_card hwin
    _ = k := by simp

/-- The elements of a strictly increasing list of naturals in the window `[s, s + k)` are
the elements below `s + k` among its first `k` elements from `s` on. -/
theorem filter_window {l : List ℕ} (hl : l.Pairwise (· < ·)) (s k : ℕ) :
    l.filter (fun n => s ≤ n ∧ n < s + k) =
      ((l.filter (fun n => s ≤ n)).take k).filter (· < s + k) := by
  set F := l.filter (fun n => s ≤ n) with hF
  have hFsorted : F.Pairwise (· < ·) := hl.filter _
  have hFge : ∀ n ∈ F, s ≤ n := fun n hn => by simpa using (List.mem_filter.mp hn).2
  have hclosed : ∀ a b : ℕ, a ≤ b → decide (b < s + k) → decide (a < s + k) := by
    intro a b hab hb
    simp only [decide_eq_true_eq] at hb ⊢
    omega
  have hsplit : l.filter (fun n => s ≤ n ∧ n < s + k) = F.filter (· < s + k) := by
    rw [hF, List.filter_filter]
    apply List.filter_congr
    intro n _
    rw [Bool.and_comm]
    simp
  rw [hsplit, filter_eq_takeWhile hFsorted hclosed,
    filter_eq_takeWhile (hFsorted.sublist (List.take_sublist k F)) hclosed,
    takeWhile_take (length_takeWhile_window hFsorted hFge k)]

end Dragonfly.Base
