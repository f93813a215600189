import Dragonfly.Scheduler.Scheduling

/-!
# The peer tree over whole runs

The graph-changing steps of the scheduler, each executed atomically: `ReplaceParent` with
a parent drawn from the current result of `filterParents`, which both
`NotifyAndFindParent` (`scheduler.go:180`) and the small-scope branch of
`RegisterPeerTask` (`service.go:147`, through `FindParent`) do after sorting by the
evaluator, and `DeleteParent`, from the back-to-source branch of `ScheduleParent`
(`scheduler.go:106`), `LeaveTask` (`service.go:345`) and `PeerManager.RunGC`
(`peer_manager.go:135`). Any element of the filtered list is allowed, so the sort and the
evaluator need not be modelled. Every reachable tree keeps `TreeInv`, hence the
`isDescendant` loop and the `TreeTotalNodeCount` recursion return.
-/

namespace Dragonfly.Scheduler

open Dragonfly.Base Relation

namespace PeerGraph

variable {ι : Type} [DecidableEq ι]

/-- One graph-changing step of the scheduler. -/
inductive GraphStep : PeerGraph ι → PeerGraph ι → Prop
  /-- `peer.ReplaceParent(parent)` for a `parent` in the result of `filterParents`. -/
  | replaceParent (g : PeerGraph ι) (fuel : ℕ) (blocklist isBadNode : ι → Bool)
      (freeUploadLoad : ι → ℤ) (peers parents : List ι) (peer parent : ι)
      (hfilter : g.filterParents fuel blocklist isBadNode freeUploadLoad peer peers = some parents)
      (hmem : parent ∈ parents) :
      GraphStep g (g.replaceParent peer parent)
  /-- `peer.DeleteParent()`. -/
  | deleteParent (g : PeerGraph ι) (peer : ι) : GraphStep g (g.deleteParent peer)

/-- Trees reachable from a fresh scheduler by graph-changing steps. -/
def Reachable (g : PeerGraph ι) : Prop := ReflTransGen GraphStep empty g

variable {g g' : PeerGraph ι}

/-- Every graph-changing step keeps the tree invariant: `filterParents` never offers the
peer itself or one of its descendants. -/
theorem GraphStep.treeInv (hstep : GraphStep g g') (h : TreeInv g) : TreeInv g' := by
  cases hstep with
  | replaceParent fuel blocklist isBadNode freeUploadLoad peers parents peer parent hfilter hmem =>
    have hcand := ((mem_filterParents hfilter parent).mp hmem).2
    exact h.replaceParent hcand.ne_peer hcand.not_descendant
  | deleteParent peer => exact h.deleteParent peer

/-- The tree invariant holds in every reachable state. -/
theorem Reachable.treeInv (h : Reachable g) : TreeInv g := by
  induction h with
  | refl => exact treeInv_empty
  | tail _ hstep ih => exact hstep.treeInv ih

/-- In every reachable state, `p.Parent = q` exactly when `q.Children` maps `p.ID` to `p`, no
peer is its own ancestor, the `isDescendant` loop returns for every pair of peers, and
`TreeTotalNodeCount(p)` returns one plus the number of peers that have `p` as an ancestor. -/
theorem peerTree_reachable_invariant (h : Reachable g) :
    (∀ p q, g.parent p = some q ↔ p ∈ g.children q) ∧
    (∀ p, ¬ Ancestor g.parent p p) ∧
    (∀ a d, ∃ n b, g.isDescendant a n d = some b) ∧
    (∀ p, ∃ n, g.treeTotalNodeCount n p = some (1 + (descendants g.parent p).ncard)) := by
  have hinv := h.treeInv
  obtain ⟨rank, hr⟩ := hinv.ranked
  refine ⟨hinv.parent_iff, hinv.acyclic, fun a d => ?_, fun p => ?_⟩
  · exact ⟨_, Option.isSome_iff_exists.mp (isDescendant_isSome hr a (Nat.lt_succ_self (rank d)))⟩
  · exact ⟨_, treeTotalNodeCount_eq hinv (Nat.lt_succ_self _)⟩

/-- A run of one step: peer `1` takes peer `0`, the only candidate `filterParents` offers. -/
theorem peerTree_reachable_invariant_one_edge :
    Reachable ((empty : PeerGraph ℕ).replaceParent 1 0) ∧
      (∀ p q, ((empty : PeerGraph ℕ).replaceParent 1 0).parent p = some q ↔
        p ∈ ((empty : PeerGraph ℕ).replaceParent 1 0).children q) ∧
      (∀ p, ¬ Ancestor ((empty : PeerGraph ℕ).replaceParent 1 0).parent p p) ∧
      (∀ a d, ∃ n b, ((empty : PeerGraph ℕ).replaceParent 1 0).isDescendant a n d = some b) ∧
      (∀ p, ∃ n, ((empty : PeerGraph ℕ).replaceParent 1 0).treeTotalNodeCount n p =
        some (1 + (descendants ((empty : PeerGraph ℕ).replaceParent 1 0).parent p).ncard)) := by
  have hstep : GraphStep (empty : PeerGraph ℕ) ((empty : PeerGraph ℕ).replaceParent 1 0) :=
    .replaceParent empty 1 (fun _ => false) (fun _ => false) (fun _ => 1) [0] [0] 1 0 rfl
      (List.mem_singleton_self 0)
  have hreach : Reachable ((empty : PeerGraph ℕ).replaceParent 1 0) := ReflTransGen.single hstep
  exact ⟨hreach, peerTree_reachable_invariant hreach⟩

end PeerGraph

end Dragonfly.Scheduler
