import Dragonfly.Scheduler.PeerTree

/-!
# Choosing parents

`scheduler/scheduler/scheduler.go:207–254`. `filterParents` ranges over the peers of the
task and keeps those that pass six checks in order: not in the blocklist, not the peer
itself, not a bad node, not a descendant, not an ancestor, and with free upload load.
The evaluator's `IsBadNode`, the host's `FreeUploadLoad` and the blocklist are taken as
functions of the candidate; the two tree checks run the loop of `isDescendant` with the
bound `fuel`, and a loop that has not returned makes the whole call `none`.
-/

namespace Dragonfly.Scheduler

open Dragonfly.Base

/-- A peer that fails a check is left out, and the candidates among the rest are kept. -/
theorem candidates_cons_skip {α : Type} {P : α → Prop} {peers parents : List α} {x : α}
    (hrest : ∀ c, c ∈ parents ↔ c ∈ peers ∧ P c) (hx : ¬ P x) :
    ∀ c, c ∈ parents ↔ c ∈ x :: peers ∧ P c := by
  intro c
  rw [hrest c, List.mem_cons]
  constructor
  · exact fun ⟨hc, hcand⟩ => ⟨.inr hc, hcand⟩
  · rintro ⟨rfl | hc, hcand⟩
    · exact absurd hcand hx
    · exact ⟨hc, hcand⟩

/-- A peer that passes every check is kept in front of the candidates among the rest. -/
theorem candidates_cons_keep {α : Type} {P : α → Prop} {peers parents : List α} {x : α}
    (hrest : ∀ c, c ∈ parents ↔ c ∈ peers ∧ P c) (hx : P x) :
    ∀ c, c ∈ x :: parents ↔ c ∈ x :: peers ∧ P c := by
  intro c
  rw [List.mem_cons, hrest c, List.mem_cons]
  constructor
  · rintro (rfl | ⟨hc, hcand⟩)
    · exact ⟨.inl rfl, hx⟩
    · exact ⟨.inr hc, hcand⟩
  · rintro ⟨rfl | hc, hcand⟩
    · exact .inl rfl
    · exact .inr ⟨hc, hcand⟩

namespace PeerGraph

variable {ι : Type} [DecidableEq ι] (g : PeerGraph ι)

/-- `filterParents` (`scheduler.go:208`) over the task's peers `peers`, in `Range` order. -/
def filterParents (fuel : ℕ) (blocklist isBadNode : ι → Bool) (freeUploadLoad : ι → ℤ)
    (peer : ι) : List ι → Option (List ι)
  | [] => some []
  | parent :: rest =>
    let next := filterParents fuel blocklist isBadNode freeUploadLoad peer rest
    if blocklist parent || decide (parent = peer) || isBadNode parent then next
    else
      -- `parent.IsDescendant(peer)`, then `parent.IsAncestor(peer)`
      (g.isDescendant peer fuel parent).bind fun isDesc =>
        if isDesc then next
        else
          (g.isDescendant parent fuel peer).bind fun isAnc =>
            if isAnc then next
            else if freeUploadLoad parent ≤ 0 then next
            else (parent :: ·) <$> next

/-- The six checks of `filterParents` on one candidate, in their meaning on the tree. -/
structure IsCandidate (blocklist isBadNode : ι → Bool) (freeUploadLoad : ι → ℤ)
    (peer c : ι) : Prop where
  not_blocked : blocklist c = false
  ne_peer : c ≠ peer
  not_bad : isBadNode c = false
  not_descendant : ¬ Ancestor g.parent peer c
  not_ancestor : ¬ Ancestor g.parent c peer
  free_upload : 0 < freeUploadLoad c

variable {g}

/-- The result of `filterParents`, when it returns, is exactly the candidates among the
task's peers. -/
theorem mem_filterParents {fuel : ℕ} {blocklist isBadNode : ι → Bool}
    {freeUploadLoad : ι → ℤ} {peer : ι} :
    ∀ {peers parents : List ι},
      g.filterParents fuel blocklist isBadNode freeUploadLoad peer peers = some parents →
      ∀ c, c ∈ parents ↔ c ∈ peers ∧ g.IsCandidate blocklist isBadNode freeUploadLoad peer c
  | [], parents, h => by
    simp only [filterParents, Option.some.injEq] at h
    subst h
    simp
  | x :: rest, parents, h => by
    -- one case per check of the loop body, in the source's order
    simp only [filterParents] at h
    by_cases hskip : (blocklist x || decide (x = peer) || isBadNode x) = true
    · -- one of the three plain checks rejects `x`
      rw [if_pos hskip] at h
      refine candidates_cons_skip (mem_filterParents h) fun hcand => ?_
      simp [hcand.not_blocked, hcand.ne_peer, hcand.not_bad] at hskip
    · rw [if_neg hskip] at h
      simp only [Bool.or_eq_true, decide_eq_true_eq, not_or, Bool.not_eq_true] at hskip
      obtain ⟨⟨hblock, hne⟩, hbad⟩ := hskip
      obtain ⟨isDesc, hdesc, h⟩ := Option.bind_eq_some_iff.mp h
      have hdesc' := isDescendant_sound hdesc
      cases isDesc with
      | true =>
        rw [if_pos rfl] at h
        exact candidates_cons_skip (mem_filterParents h) fun hcand =>
          hcand.not_descendant (hdesc'.mp rfl)
      | false =>
        simp only [Bool.false_eq_true, if_false] at h
        obtain ⟨isAnc, hanc, h⟩ := Option.bind_eq_some_iff.mp h
        have hanc' := isDescendant_sound hanc
        cases isAnc with
        | true =>
          rw [if_pos rfl] at h
          exact candidates_cons_skip (mem_filterParents h) fun hcand =>
            hcand.not_ancestor (hanc'.mp rfl)
        | false =>
          simp only [Bool.false_eq_true, if_false] at h
          by_cases hload : freeUploadLoad x ≤ 0
          · rw [if_pos hload] at h
            exact candidates_cons_skip (mem_filterParents h) fun hcand =>
              not_lt.mpr hload hcand.free_upload
          · rw [if_neg hload] at h
            obtain ⟨rest', hrest, rfl⟩ := Option.map_eq_some_iff.mp h
            -- `x` passes every check
            exact candidates_cons_keep (mem_filterParents hrest)
              ⟨hblock, hne, hbad, fun h' => by simpa using hdesc'.mpr h',
                fun h' => by simpa using hanc'.mpr h', lt_of_not_ge hload⟩

end PeerGraph

end Dragonfly.Scheduler
