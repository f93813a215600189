import Dragonfly.Base.Forest

/-!
# The scheduler's peer tree

`scheduler/resource/peer.go:226–350`. Each peer holds an atomic `Parent` pointer and a
`Children` `sync.Map` keyed by child ID; both directions of an edge are written by the
operations below, which the scheduler calls one at a time under the peer lock. Peers are
identified by their IDs, as the peer manager, `Task.Peers` and the `Children` maps key
them. `isDescendant` is a `for` loop over parent pointers and `TreeTotalNodeCount` a
recursion over children; both are modelled with an explicit iteration bound, `none`
standing for a loop that has not returned within the bound.
-/

namespace Dragonfly.Scheduler

open Dragonfly.Base

/-- The parent pointers and children maps of all peers (`peer.go:122–126`). -/
structure PeerGraph (ι : Type) where
  parent : ι → Option ι
  children : ι → Finset ι

namespace PeerGraph

variable {ι : Type} [DecidableEq ι] (g : PeerGraph ι)

/-- The tree of a fresh scheduler: `NewPeer` (`peer.go:150–151`) starts every peer with an
empty parent value and an empty children map. -/
def empty : PeerGraph ι := ⟨fun _ => none, fun _ => ∅⟩

/-- `Peer.StoreParent` (`peer.go:281`): point `p` at `parent` and record `p` among the
children of `parent`. The entry under a previous parent is left in place. -/
def storeParent (p parent : ι) : PeerGraph ι :=
  { parent := Function.update g.parent p (some parent)
    children := Function.update g.children parent (insert p (g.children parent)) }

/-- `Peer.StoreChild` (`peer.go:237`) writes the same two fields as `StoreParent`. -/
def storeChild (p child : ι) : PeerGraph ι := g.storeParent child p

/-- `Peer.DeleteChild` (`peer.go:246`): when `key` is a child of `p`, drop it from the map
and clear its parent pointer. -/
def deleteChild (p key : ι) : PeerGraph ι :=
  if key ∈ g.children p then
    { parent := Function.update g.parent key none
      children := Function.update g.children p ((g.children p).erase key) }
  else g

/-- `Peer.DeleteParent` (`peer.go:290`): when `p` has a parent, clear the pointer and drop
`p` from that parent's children. -/
def deleteParent (p : ι) : PeerGraph ι :=
  match g.parent p with
  | none => g
  | some parent =>
    { parent := Function.update g.parent p none
      children := Function.update g.children parent ((g.children parent).erase p) }

/-- `Peer.ReplaceParent` (`peer.go:304`). -/
def replaceParent (p parent : ι) : PeerGraph ι := (g.deleteParent p).storeParent p parent

/-- `Peer.LenChildren` (`peer.go:260`). -/
def lenChildren (p : ι) : ℕ := (g.children p).card

/-- The loop of `isDescendant(ancestor, descendant)` (`peer.go:336–350`), run for at most
`fuel` iterations starting at `node`: it walks up parent pointers and answers whether it
meets the ID of `ancestor`. -/
def isDescendant (ancestor : ι) : ℕ → ι → Option Bool
  | 0, _ => none
  | fuel + 1, node =>
    match g.parent node with
    | none => some false
    | some parent => if parent = ancestor then some true else isDescendant ancestor fuel parent

/-- `Peer.TreeTotalNodeCount` (`peer.go:310`) with recursion depth at most `fuel`: one for
the peer and the count of every child's tree, summed over the `Range` of `Children`. -/
def treeTotalNodeCount : ℕ → ι → Option ℕ
  | 0, _ => none
  | fuel + 1, p =>
    if ∀ child ∈ g.children p, (treeTotalNodeCount fuel child).isSome then
      some (1 + ∑ child ∈ g.children p, (treeTotalNodeCount fuel child).getD 0)
    else none

variable {g}

omit [DecidableEq ι] in
@[simp] theorem parent_empty (p : ι) : (empty : PeerGraph ι).parent p = none := rfl

omit [DecidableEq ι] in
@[simp] theorem children_empty (p : ι) : (empty : PeerGraph ι).children p = ∅ := rfl

@[simp] theorem parent_storeParent (p c : ι) :
    (g.storeParent p c).parent = Function.update g.parent p (some c) := rfl

@[simp] theorem children_storeParent (p c : ι) :
    (g.storeParent p c).children = Function.update g.children c (insert p (g.children c)) := rfl

theorem deleteParent_of_none {p : ι} (h : g.parent p = none) : g.deleteParent p = g := by
  simp only [deleteParent, h]

theorem deleteParent_of_some {p q : ι} (h : g.parent p = some q) :
    g.deleteParent p =
      { parent := Function.update g.parent p none
        children := Function.update g.children q ((g.children q).erase p) } := by
  simp only [deleteParent, h]

/-- Whatever the old pointer was, `DeleteParent` leaves `p` without a parent. -/
@[simp] theorem parent_deleteParent (p : ι) :
    (g.deleteParent p).parent = Function.update g.parent p none := by
  cases h : g.parent p with
  | none =>
    rw [deleteParent_of_none h]
    funext x
    by_cases hx : x = p
    · subst hx
      simp [h]
    · simp [hx]
  | some q => rw [deleteParent_of_some h]

@[simp] theorem parent_replaceParent (p c : ι) :
    (g.replaceParent p c).parent = Function.update g.parent p (some c) := by
  simp [replaceParent]

/-- Deleting a pointer removes edges and adds none. -/
theorem parent_deleteParent_sub {p x y : ι} (h : (g.deleteParent p).parent x = some y) :
    g.parent x = some y := by
  rw [parent_deleteParent] at h
  by_cases hx : x = p
  · subst hx
    simp at h
  · rwa [Function.update_of_ne hx] at h

/-! ### The loop of `isDescendant` -/

/-- When the loop returns, its answer is the ancestor relation. -/
theorem isDescendant_sound {a : ι} :
    ∀ {n : ℕ} {d : ι} {b : Bool}, g.isDescendant a n d = some b → (b = true ↔ Ancestor g.parent a d)
  | 0, _, _, h => by simp [isDescendant] at h
  | n + 1, d, b, h => by
    simp only [isDescendant] at h
    cases hp : g.parent d with
    | none =>
      simp only [hp, Option.some.injEq] at h
      subst h
      simp [Ancestor.not_of_parent_none hp]
    | some q =>
      simp only [hp] at h
      rw [Ancestor.iff_of_parent hp]
      by_cases hq : q = a
      · rw [if_pos hq] at h
        cases h
        simp [hq]
      · rw [if_neg hq] at h
        rw [isDescendant_sound h]
        simp [hq]

/-- Along a ranked forest the loop returns within one more iteration than the rank of its
start. -/
theorem isDescendant_isSome {rank : ι → ℕ} (hr : Ranked g.parent rank) (a : ι) :
    ∀ {n : ℕ} {d : ι}, rank d < n → (g.isDescendant a n d).isSome
  | 0, _, h => absurd h (Nat.not_lt_zero _)
  | n + 1, d, h => by
    simp only [isDescendant]
    cases hp : g.parent d with
    | none => rfl
    | some q =>
      have hq := hr d q hp
      by_cases hqa : q = a
      · simp [hqa]
      · simp only [hqa, if_false]
        exact isDescendant_isSome hr a (by omega)

/-! ### The tree invariant -/

/-- The peer tree invariant: both directions of every edge agree, a rank decreases along
every parent pointer, and only finitely many peers have a parent. -/
structure TreeInv (g : PeerGraph ι) : Prop where
  parent_iff : ∀ p q, g.parent p = some q ↔ p ∈ g.children q
  ranked : ∃ rank, Ranked g.parent rank
  finite : {p | (g.parent p).isSome}.Finite

omit [DecidableEq ι] in
theorem TreeInv.acyclic (h : TreeInv g) : Acyclic g.parent := by
  obtain ⟨rank, hr⟩ := h.ranked
  exact hr.acyclic

omit [DecidableEq ι] in
theorem treeInv_empty : TreeInv (empty : PeerGraph ι) where
  parent_iff := by simp
  ranked := ⟨fun _ => 0, fun _ _ h => by simp at h⟩
  finite := by simp

private theorem finite_update {parent : ι → Option ι} (hfin : {x | (parent x).isSome}.Finite)
    (p : ι) (v : Option ι) : {x | (Function.update parent p v x).isSome}.Finite := by
  refine (hfin.insert p).subset fun x hx => ?_
  by_cases hxp : x = p
  · rw [hxp]
    exact Set.mem_insert p _
  · rw [Set.mem_ofPred_eq, Function.update_of_ne hxp] at hx
    exact Set.mem_insert_of_mem _ hx

/-- `DeleteParent` keeps the invariant: it removes both directions of the one edge. -/
theorem TreeInv.deleteParent (h : TreeInv g) (p : ι) : TreeInv (g.deleteParent p) := by
  cases hp : g.parent p with
  | none => rwa [deleteParent_of_none hp]
  | some q =>
    rw [deleteParent_of_some hp]
    obtain ⟨rank, hr⟩ := h.ranked
    refine ⟨fun x y => ?_, ⟨rank, hr.update_none p⟩, finite_update h.finite p none⟩
    dsimp only
    by_cases hx : x = p
    · subst hx
      -- `x` was only recorded under its old parent `q`, and is erased there
      simp only [Function.update_self, reduceCtorEq, false_iff]
      by_cases hy : y = q
      · subst hy
        simp
      · rw [Function.update_of_ne hy, ← h.parent_iff, hp]
        exact fun h' => hy (Option.some.inj h').symm
    · rw [Function.update_of_ne hx, h.parent_iff]
      by_cases hy : y = q
      · subst hy
        simp [hx]
      · rw [Function.update_of_ne hy]

/-- `StoreParent` on a peer without a parent keeps the invariant when the new parent is
neither the peer nor one of its descendants. -/
theorem TreeInv.storeParent (h : TreeInv g) {p c : ι} (hp : g.parent p = none) (hne : c ≠ p)
    (hdesc : ¬ Ancestor g.parent p c) : TreeInv (g.storeParent p c) := by
  obtain ⟨rank', hr'⟩ := (Classical.choose_spec h.ranked).update_some hne hdesc
  refine ⟨fun x y => ?_, ⟨rank', hr'⟩, finite_update h.finite p (some c)⟩
  simp only [parent_storeParent, children_storeParent]
  by_cases hx : x = p
  · subst hx
    simp only [Function.update_self, Option.some.injEq]
    by_cases hy : y = c
    · subst hy
      simp
    · rw [Function.update_of_ne hy, ← h.parent_iff, hp]
      simp [Ne.symm hy]
  · rw [Function.update_of_ne hx, h.parent_iff]
    by_cases hy : y = c
    · subst hy
      simp [hx]
    · rw [Function.update_of_ne hy]

/-- `ReplaceParent` keeps the invariant for a new parent that is neither the peer nor one of
its descendants: the first half removes the old edge, so `StoreParent` starts from a root. -/
theorem TreeInv.replaceParent (h : TreeInv g) {p c : ι} (hne : c ≠ p)
    (hdesc : ¬ Ancestor g.parent p c) : TreeInv (g.replaceParent p c) :=
  (h.deleteParent p).storeParent (by simp) hne
    (fun h' => hdesc (Ancestor.mono (fun _ _ => parent_deleteParent_sub) h'))

/-! ### Subtree counting -/

/-- Under the invariant, `TreeTotalNodeCount` returns one plus the number of proper
descendants of the peer as soon as the recursion bound exceeds that number. -/
theorem treeTotalNodeCount_eq (h : TreeInv g) :
    ∀ {n : ℕ} {p : ι}, (descendants g.parent p).ncard < n →
      g.treeTotalNodeCount n p = some (1 + (descendants g.parent p).ncard)
  | 0, _, hn => absurd hn (Nat.not_lt_zero _)
  | n + 1, p, hn => by
    have hacyc := h.acyclic
    -- every child has a strictly smaller subtree, so the bound `n` suffices for it
    have hchild : ∀ c ∈ g.children p,
        g.treeTotalNodeCount n c = some (1 + (descendants g.parent c).ncard) := fun c hc =>
      treeTotalNodeCount_eq h (lt_of_lt_of_le
        (ncard_descendants_lt hacyc h.finite ((h.parent_iff c p).mpr hc)) (Nat.lt_succ_iff.mp hn))
    have hall : ∀ c ∈ g.children p, (g.treeTotalNodeCount n c).isSome := fun c hc => by
      simp [hchild c hc]
    rw [treeTotalNodeCount, if_pos hall,
      ncard_descendants hacyc h.finite (g.children p) (fun c => (h.parent_iff c p).symm)]
    congr 2
    refine Finset.sum_congr rfl fun c hc => ?_
    rw [hchild c hc, Option.getD_some, Nat.add_comm]

end PeerGraph

end Dragonfly.Scheduler
