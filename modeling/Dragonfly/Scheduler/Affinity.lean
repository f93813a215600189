import Mathlib.Algebra.Order.Field.Rat
import Dragonfly.Base.GoText

/-!
# Affinity scores of the evaluator and the searcher

The scheduler's evaluator (`scheduler/scheduler/evaluator/evaluator_base.go`) and the manager's
searcher (`manager/searcher/searcher.go`) each keep a copy of `calculateMultiElementAffinityScore`,
which scores two `|`-separated locations or network topologies: `minScore` when either is empty,
`maxScore` when they are equal, and otherwise the number of leading elements they agree on, at
most `maxElementLen = 5`, over `maxElementLen`. The loop bound is
`mathutils.MaxInt(len(dstElements), len(srcElements))`, which despite its name is the smaller
length, so neither slice is indexed past its end (`calculateMultiElementAffinityScore_spec`).

The two copies differ only in how they compare texts, `==` in the scheduler and
`strings.Compare(..) == 0` in the searcher, so they are one definition over the comparison,
`multiElementAffinityScore`, applied to each package's constants. The two copies of
`calculateIDCAffinityScore` differ in more than that: the searcher also gives `maxScore` when `dst`
is one of the `|`-separated elements of `src` (`calculateIDCAffinityScore_searcher_ge`).

The float64 quotient `float64(score) / float64(maxElementLen)` is kept as the exact rational, and
an index past the end of a slice, which panics, is `none`.
-/

namespace Dragonfly.Affinity

open Dragonfly.Base.GoText

/-! ### Common prefixes -/

section CommonPrefix

variable {α : Type} [DecidableEq α]

/-- The length of the longest common prefix of two lists. -/
def commonPrefixLength : List α → List α → ℕ
  | a :: as, b :: bs => if a = b then commonPrefixLength as bs + 1 else 0
  | _, _ => 0

/-- The common prefix is no longer than either list. -/
theorem commonPrefixLength_le : ∀ as bs : List α,
    commonPrefixLength as bs ≤ as.length ∧ commonPrefixLength as bs ≤ bs.length
  | [], _ => ⟨Nat.zero_le _, Nat.zero_le _⟩
  | _ :: _, [] => ⟨Nat.zero_le _, Nat.zero_le _⟩
  | a :: as, b :: bs => by
    rw [commonPrefixLength]
    split_ifs
    · have ih := commonPrefixLength_le as bs
      exact ⟨Nat.succ_le_succ ih.1, Nat.succ_le_succ ih.2⟩
    · exact ⟨Nat.zero_le _, Nat.zero_le _⟩

/-- `commonPrefixLength` is what its name says: up to the shorter length, the two lists share a
prefix of length `k` exactly when `k` is at most `commonPrefixLength`. -/
theorem take_eq_take_iff_le_commonPrefixLength :
    ∀ (as bs : List α) (k : ℕ), k ≤ as.length → k ≤ bs.length →
      (as.take k = bs.take k ↔ k ≤ commonPrefixLength as bs)
  | _, _, 0, _, _ => by simp
  | [], _, k + 1, hk, _ => absurd hk (by simp)
  | _ :: _, [], k + 1, _, hk => absurd hk (by simp)
  | a :: as, b :: bs, k + 1, hka, hkb => by
    have ih := take_eq_take_iff_le_commonPrefixLength as bs k
      (Nat.le_of_succ_le_succ hka) (Nat.le_of_succ_le_succ hkb)
    rw [List.take_succ_cons, List.take_succ_cons, List.cons_eq_cons, commonPrefixLength]
    by_cases hab : a = b
    · rw [if_pos hab, ih]
      simp [hab]
    · rw [if_neg hab]
      simp [hab]

end CommonPrefix

/-! ### The shared loop -/

/-- `mathutils.MaxInt` (`math_utils.go:27`): the smaller of the two, whatever its name says. -/
def maxInt (a b : ℤ) : ℤ := if a < b then a else b

theorem maxInt_eq_min (a b : ℤ) : maxInt a b = min a b := by
  unfold maxInt
  split_ifs with h
  · exact (min_eq_left h.le).symm
  · exact (min_eq_right (not_lt.mp h)).symm

/-- The loop of `calculateMultiElementAffinityScore` with `n` rounds left from index `i`, having
counted `score` matches: it stops at the first elements that differ under `same`; `none` where an
index panics. -/
def countMatches (same : List Char → List Char → Bool) (dstElements srcElements : List (List Char)) :
    ℕ → ℕ → ℕ → Option ℕ
  | 0, _, score => some score
  | n + 1, i, score =>
    match dstElements[i]?, srcElements[i]? with
    | some d, some s =>
      if same d s then countMatches same dstElements srcElements n (i + 1) (score + 1)
      else some score
    | _, _ => none

/-- `calculateMultiElementAffinityScore` of a package whose texts compare by `same`, with the
package's `minScore`, `maxScore` and `maxElementLen`. -/
def multiElementAffinityScore (same : List Char → List Char → Bool) (minScore maxScore : ℚ)
    (maxElementLen : ℤ) (dst src : List Char) : Option ℚ :=
  if dst = [] ∨ src = [] then some minScore
  else if same dst src then some maxScore
  else
    let dstElements := dst.splitOn '|'
    let srcElements := src.splitOn '|'
    let elementLen := maxInt dstElements.length srcElements.length
    let elementLen := if elementLen > maxElementLen then maxElementLen else elementLen
    (countMatches same dstElements srcElements elementLen.toNat 0 0).map fun (score : ℕ) =>
      (score : ℚ) / maxElementLen

section Loop

variable {same : List Char → List Char → Bool} {dstElements srcElements : List (List Char)}

/-- With `n` rounds that stay inside both slices, the loop counts the elements the two agree on
from `i`, at most `n` of them. -/
theorem countMatches_eq (hsame : ∀ a b, same a b = true ↔ a = b) :
    ∀ (n i score : ℕ), i + n ≤ dstElements.length → i + n ≤ srcElements.length →
      countMatches same dstElements srcElements n i score =
        some (score + min n (commonPrefixLength (dstElements.drop i) (srcElements.drop i)))
  | 0, i, score, _, _ => by simp [countMatches]
  | n + 1, i, score, hd, hs => by
    have hdi : i < dstElements.length := by omega
    have hsi : i < srcElements.length := by omega
    rw [countMatches, List.getElem?_eq_getElem hdi, List.getElem?_eq_getElem hsi,
      List.drop_eq_getElem_cons hdi, List.drop_eq_getElem_cons hsi, commonPrefixLength]
    dsimp only
    by_cases heq : dstElements[i] = srcElements[i]
    · -- the elements agree: one more match, and the rest of the loop from `i + 1`
      rw [if_pos ((hsame _ _).mpr heq), if_pos heq,
        countMatches_eq hsame n (i + 1) (score + 1) (by omega) (by omega)]
      congr 1
      omega
    · rw [if_neg (mt (hsame _ _).mp heq), if_neg heq]
      simp

/-- What `calculateMultiElementAffinityScore` returns, for a comparison that decides equality
and a non-negative `maxElementLen`: it never panics. -/
theorem multiElementAffinityScore_eq (hsame : ∀ a b, same a b = true ↔ a = b)
    (minScore maxScore : ℚ) {maxElementLen : ℤ} (hmax : 0 ≤ maxElementLen) (dst src : List Char) :
    multiElementAffinityScore same minScore maxScore maxElementLen dst src =
      some (if dst = [] ∨ src = [] then minScore
        else if dst = src then maxScore
        else (min maxElementLen.toNat
          (commonPrefixLength (dst.splitOn '|') (src.splitOn '|')) : ℕ) / maxElementLen) := by
  unfold multiElementAffinityScore
  by_cases hempty : dst = [] ∨ src = []
  · rw [if_pos hempty, if_pos hempty]
  rw [if_neg hempty, if_neg hempty]
  by_cases hds : dst = src
  · rw [if_pos ((hsame _ _).mpr hds), if_pos hds]
  rw [if_neg (mt (hsame _ _).mp hds), if_neg hds]
  dsimp only
  set ds := dst.splitOn '|'
  set ss := src.splitOn '|'
  -- `MaxInt` gives the shorter length, so the rounds stay inside both slices
  have hrounds : (if maxInt ds.length ss.length > maxElementLen then maxElementLen
      else maxInt ds.length ss.length).toNat = min (min ds.length ss.length) maxElementLen.toNat := by
    rw [maxInt_eq_min]
    split_ifs <;> omega
  have hcpl := commonPrefixLength_le ds ss
  rw [hrounds, countMatches_eq hsame _ 0 0 (by omega) (by omega), List.drop_zero, List.drop_zero,
    Option.map_some]
  congr 3
  omega

end Loop

end Dragonfly.Affinity

namespace Dragonfly.Scheduler.Evaluator

/-- `maxScore` (`evaluator_base.go:52`). -/
def maxScore : ℚ := 1

/-- `minScore` (`evaluator_base.go:55`). -/
def minScore : ℚ := 0

/-- `maxElementLen` (`evaluator_base.go:68`). -/
def maxElementLen : ℤ := 5

/-- `calculateMultiElementAffinityScore` (`evaluator_base.go:145`): texts compare with `==`. -/
def calculateMultiElementAffinityScore (dst src : List Char) : Option ℚ :=
  Affinity.multiElementAffinityScore (fun a b => a == b) minScore maxScore maxElementLen dst src

/-- `calculateIDCAffinityScore` (`evaluator_base.go:136`) of the two hosts' `IDC`, the only field
it reads. -/
def calculateIDCAffinityScore (dst src : List Char) : ℚ :=
  if dst ≠ [] ∧ src ≠ [] ∧ dst = src then maxScore else minScore

end Dragonfly.Scheduler.Evaluator

namespace Dragonfly.Manager.Searcher

open Dragonfly.Base.GoText

/-- `maxScore` (`searcher.go:60`). -/
def maxScore : ℚ := 1

/-- `minScore` (`searcher.go:63`). -/
def minScore : ℚ := 0

/-- `maxElementLen` (`searcher.go:68`). -/
def maxElementLen : ℤ := 5

/-- `calculateMultiElementAffinityScore` (`searcher.go:188`): texts compare with
`strings.Compare`. -/
def calculateMultiElementAffinityScore (dst src : List Char) : Option ℚ :=
  Affinity.multiElementAffinityScore (fun a b => stringsCompare a b == 0) minScore maxScore
    maxElementLen dst src

/-- `calculateIDCAffinityScore` (`searcher.go:165`): equal texts, or `dst` equal to one of the
`|`-separated elements of `src`, score `maxScore`. -/
def calculateIDCAffinityScore (dst src : List Char) : ℚ :=
  if dst = [] ∨ src = [] then minScore
  else if stringsCompare dst src = 0 then maxScore
  else if (src.splitOn '|').any fun srcElement => stringsCompare dst srcElement = 0 then maxScore
  else minScore

end Dragonfly.Manager.Searcher

namespace Dragonfly.Affinity

open Dragonfly.Base.GoText

/-- Both copies of `calculateMultiElementAffinityScore` return, for all texts, a score whose
product with `maxElementLen` is `0` when a text is empty, `5` when they are equal, and otherwise
the common prefix of their elements, capped at `5`: the loop never indexes past a slice. -/
theorem calculateMultiElementAffinityScore_spec (dst src : List Char) :
    let expected : ℕ := if dst = [] ∨ src = [] then 0
      else if dst = src then 5
      else min 5 (commonPrefixLength (dst.splitOn '|') (src.splitOn '|'))
    (∃ r, Scheduler.Evaluator.calculateMultiElementAffinityScore dst src = some r ∧
        r * Scheduler.Evaluator.maxElementLen = expected) ∧
      ∃ r, Manager.Searcher.calculateMultiElementAffinityScore dst src = some r ∧
        r * Manager.Searcher.maxElementLen = expected := by
  intro expected
  -- both copies are the shared definition at the same constants
  have hscore : ∀ (same : List Char → List Char → Bool), (∀ a b, same a b = true ↔ a = b) →
      ∃ r, multiElementAffinityScore same 0 1 5 dst src = some r ∧ r * (5 : ℤ) = expected := by
    intro same hsame
    refine ⟨_, multiElementAffinityScore_eq hsame 0 1 (by decide) dst src, ?_⟩
    simp only [expected]
    split_ifs <;> push_cast <;> simp
  constructor
  · exact hscore _ fun a b => beq_iff_eq
  · exact hscore _ fun a b => by simp

/-- The evaluator's `calculateIDCAffinityScore` is `1` on equal non-empty texts, else `0`. -/
theorem evaluator_calculateIDCAffinityScore_eq (dst src : List Char) :
    Scheduler.Evaluator.calculateIDCAffinityScore dst src = if dst ≠ [] ∧ dst = src then 1 else 0 := by
  unfold Scheduler.Evaluator.calculateIDCAffinityScore
  by_cases h : dst ≠ [] ∧ dst = src
  · obtain ⟨hne, rfl⟩ := h
    rw [if_pos ⟨hne, hne, rfl⟩, if_pos ⟨hne, rfl⟩]
    rfl
  · rw [if_neg (fun h' => h ⟨h'.1, h'.2.2⟩), if_neg h]
    rfl

/-- The searcher's `calculateIDCAffinityScore` is `1` when `dst` is not empty and is `src` or one
of its `|`-separated elements, else `0`. -/
theorem searcher_calculateIDCAffinityScore_eq (dst src : List Char) :
    Manager.Searcher.calculateIDCAffinityScore dst src =
      if dst ≠ [] ∧ (dst = src ∨ dst ∈ src.splitOn '|') then 1 else 0 := by
  have hany : ((src.splitOn '|').any fun e => stringsCompare dst e = 0) =
      decide (dst ∈ src.splitOn '|') := by
    rw [Bool.eq_iff_iff, List.any_eq_true, decide_eq_true_iff]
    simp
  unfold Manager.Searcher.calculateIDCAffinityScore
  rw [hany]
  by_cases hdst : dst = []
  · rw [if_pos (Or.inl hdst), if_neg (fun h => h.1 hdst)]
    rfl
  by_cases hsrc : src = []
  · -- an empty `src` splits into one empty element, which `dst` is not
    have hmem : dst ∉ src.splitOn '|' := by simpa [hsrc] using hdst
    have hne : dst ≠ src := by rw [hsrc]; exact hdst
    rw [if_pos (Or.inr hsrc), if_neg (fun h => h.2.elim hne hmem)]
    rfl
  rw [if_neg (fun h => h.elim hdst hsrc)]
  by_cases heq : dst = src
  · rw [if_pos (stringsCompare_eq_zero_iff.mpr heq), if_pos ⟨hdst, Or.inl heq⟩]
    rfl
  rw [if_neg (mt stringsCompare_eq_zero_iff.mp heq)]
  by_cases hmem : dst ∈ src.splitOn '|'
  · rw [if_pos (decide_eq_true hmem), if_pos ⟨hdst, Or.inr hmem⟩]
    rfl
  · rw [if_neg (by simpa using hmem), if_neg (fun h => h.2.elim heq hmem)]
    rfl

/-- On the same IDC texts the searcher scores at least what the evaluator does, and more exactly
when `dst` is one of the `|`-separated elements of a different `src`. -/
theorem calculateIDCAffinityScore_searcher_ge (dst src : List Char) :
    Scheduler.Evaluator.calculateIDCAffinityScore dst src ≤
        Manager.Searcher.calculateIDCAffinityScore dst src ∧
      (Scheduler.Evaluator.calculateIDCAffinityScore dst src <
          Manager.Searcher.calculateIDCAffinityScore dst src ↔
        dst ≠ [] ∧ dst ≠ src ∧ dst ∈ src.splitOn '|') := by
  rw [evaluator_calculateIDCAffinityScore_eq, searcher_calculateIDCAffinityScore_eq]
  by_cases hdst : dst = []
  · simp [hdst]
  by_cases heq : dst = src
  · simp [heq]
  by_cases hmem : dst ∈ src.splitOn '|'
  · simp [hdst, heq, hmem]
  · simp [hdst, heq, hmem]

end Dragonfly.Affinity
