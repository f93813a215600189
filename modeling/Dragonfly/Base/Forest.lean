import Mathlib.Logic.Relation
import Mathlib.Data.Set.Card
import Mathlib.Algebra.BigOperators.Group.Finset.Basic

/-!
# Parent-pointer forests

A forest given only by a partial parent map `parent : α → Option α`. The ancestor
relation is the transitive closure of one parent step; a rank that strictly decreases
along every pointer certifies that there is no cycle, and redirecting one pointer to a
node outside the redirected node's own subtree keeps such a rank. When a child set is
exactly the inverse image of the parent map and only finitely many nodes have a parent,
the descendants of a node split into the disjoint subtrees of its children, which is the
subtree-size recursion.
-/

namespace Dragonfly.Base

open Relation

variable {α : Type*}

/-- One parent step: `y` is the parent of `x`. -/
def ParentStep (parent : α → Option α) (x y : α) : Prop := parent x = some y

/-- `a` is a proper ancestor of `d`: one or more parent steps lead from `d` to `a`. -/
def Ancestor (parent : α → Option α) (a d : α) : Prop := TransGen (ParentStep parent) d a

/-- The proper descendants of `a`. -/
def descendants (parent : α → Option α) (a : α) : Set α := {d | Ancestor parent a d}

/-- `rank` strictly decreases along every parent pointer. -/
def Ranked (parent : α → Option α) (rank : α → ℕ) : Prop :=
  ∀ x y, parent x = some y → rank y < rank x

/-- No node is its own proper ancestor. -/
def Acyclic (parent : α → Option α) : Prop := ∀ a, ¬ Ancestor parent a a

variable {parent : α → Option α} {rank : α → ℕ} {a d : α}

/-- A parent map is a functional relation. -/
theorem parentStep_rightUnique : Relator.RightUnique (ParentStep parent) :=
  fun _ _ _ hb hc => Option.some.inj (hb.symm.trans hc)

namespace Ancestor

theorem of_parent (h : parent d = some a) : Ancestor parent a d := TransGen.single h

/-- Unfolding the first parent step above the descendant. -/
theorem iff_head : Ancestor parent a d ↔ ∃ q, parent d = some q ∧ (q = a ∨ Ancestor parent a q) := by
  unfold Ancestor
  rw [TransGen.head'_iff]
  refine exists_congr fun q => and_congr Iff.rfl ?_
  rw [reflTransGen_iff_eq_or_transGen, eq_comm]

/-- Unfolding the last parent step below the ancestor. -/
theorem iff_tail : Ancestor parent a d ↔ ∃ c, parent c = some a ∧ (d = c ∨ Ancestor parent c d) := by
  unfold Ancestor
  rw [TransGen.tail'_iff]
  refine ⟨fun ⟨c, hdc, hc⟩ => ⟨c, hc, ?_⟩, fun ⟨c, hc, hdc⟩ => ⟨c, ?_, hc⟩⟩
  · rcases reflTransGen_iff_eq_or_transGen.mp hdc with h | h
    · exact .inl h.symm
    · exact .inr h
  · rcases hdc with h | h
    · rw [h]
    · exact h.to_reflTransGen

/-- Unfolding a known first parent step. -/
theorem iff_of_parent {q : α} (hq : parent d = some q) :
    Ancestor parent a d ↔ q = a ∨ Ancestor parent a q := by
  rw [iff_head]
  constructor
  · rintro ⟨q', hq', h⟩
    rw [hq] at hq'
    cases hq'
    exact h
  · exact fun h => ⟨q, hq, h⟩

/-- Fewer parent pointers give fewer ancestors. -/
theorem mono {parent' : α → Option α} (hsub : ∀ x y, parent' x = some y → parent x = some y)
    (h : Ancestor parent' a d) : Ancestor parent a d :=
  TransGen.mono (fun x y hxy => hsub x y hxy) _ _ h

/-- A root has no proper ancestor. -/
theorem not_of_parent_none (h : parent d = none) : ¬ Ancestor parent a d := by
  rw [iff_head]
  rintro ⟨q, hq, -⟩
  simp [h] at hq

/-- A node with a proper ancestor has a parent. -/
theorem parent_isSome (h : Ancestor parent a d) : (parent d).isSome := by
  obtain ⟨q, hq, -⟩ := iff_head.mp h
  simp [hq]

end Ancestor

/-- Along a ranked forest every proper ancestor has a smaller rank. -/
theorem Ranked.rank_lt (h : Ranked parent rank) (ha : Ancestor parent a d) : rank a < rank d := by
  induction ha with
  | single hs => exact h _ _ hs
  | tail _ hs ih => exact lt_trans (h _ _ hs) ih

/-- A ranked forest has no cycle. -/
theorem Ranked.acyclic (h : Ranked parent rank) : Acyclic parent :=
  fun _ ha => lt_irrefl _ (h.rank_lt ha)

section Update

variable [DecidableEq α]

/-- Cutting one pointer keeps every rank. -/
theorem Ranked.update_none (h : Ranked parent rank) (p : α) :
    Ranked (Function.update parent p none) rank := by
  intro x y hxy
  by_cases hx : x = p
  · subst hx
    simp at hxy
  · rw [Function.update_of_ne hx] at hxy
    exact h x y hxy

/-- Redirecting the pointer of `p` to a node `c` outside the subtree of `p` keeps the forest
ranked: the whole subtree of `p` is lifted above the rank of `c`. -/
theorem Ranked.update_some (h : Ranked parent rank) {p c : α} (hne : c ≠ p)
    (hc : ¬ Ancestor parent p c) : ∃ rank', Ranked (Function.update parent p (some c)) rank' := by
  classical
  refine ⟨fun x => if ReflTransGen (ParentStep parent) x p then rank x + rank c + 1 else rank x, ?_⟩
  intro x y hxy
  by_cases hx : x = p
  · subst hx
    have hy : y = c := (Option.some.inj (by simpa using hxy)).symm
    subst hy
    -- `c` is outside the subtree of `x`, so only `x` is lifted
    have hout : ¬ ReflTransGen (ParentStep parent) y x := by
      rw [reflTransGen_iff_eq_or_transGen]
      rintro (h' | h')
      · exact hne h'.symm
      · exact hc h'
    simp only [hout, if_false, ReflTransGen.refl, if_true]
    omega
  · rw [Function.update_of_ne hx] at hxy
    have hlt := h x y hxy
    by_cases hxp : ReflTransGen (ParentStep parent) x p
    · have hyp : ReflTransGen (ParentStep parent) y p := by
        rcases hxp.cases_head with h' | ⟨z, hz, hzp⟩
        · exact absurd h' hx
        · have hzy : z = y := parentStep_rightUnique hz hxy
          exact hzy ▸ hzp
      simp only [hxp, hyp, if_true]
      omega
    · have hyp : ¬ ReflTransGen (ParentStep parent) y p := fun hy => hxp (ReflTransGen.head hxy hy)
      simp only [hxp, hyp, if_false]
      exact hlt

end Update

section Count

/-- Two children of one node lie in disjoint subtrees. -/
private theorem sibling_eq_of_reach (hacyc : Acyclic parent) {c₁ c₂ : α}
    (h₁ : parent c₁ = some a) (h₂ : parent c₂ = some a)
    (h : ReflTransGen (ParentStep parent) c₁ c₂) : c₁ = c₂ := by
  rcases reflTransGen_iff_eq_or_transGen.mp h with h' | h'
  · exact h'.symm
  · -- `c₂` is a proper ancestor of `c₁`, so it is `a` or above `a`, and `a` is above `c₂`
    exfalso
    obtain ⟨q, hq, hqc⟩ := Ancestor.iff_head.mp h'
    rw [h₁] at hq
    cases hq
    rcases hqc with rfl | hqc
    · exact hacyc _ (Ancestor.of_parent h₂)
    · exact hacyc _ (TransGen.trans (Ancestor.of_parent h₂) hqc)

/-- The subtree-size recursion: the descendants of `a` are its children `kids` and their
descendants, each child's subtree counted once. -/
theorem ncard_descendants [DecidableEq α] (hacyc : Acyclic parent)
    (hfin : {x | (parent x).isSome}.Finite) (kids : Finset α)
    (hkids : ∀ c, c ∈ kids ↔ parent c = some a) :
    (descendants parent a).ncard = ∑ c ∈ kids, ((descendants parent c).ncard + 1) := by
  have hf : ∀ x, (descendants parent x).Finite := fun x =>
    hfin.subset fun _ hd => Ancestor.parent_isSome hd
  have hdecomp : descendants parent a =
      ↑(kids.biUnion fun c => insert c (hf c).toFinset) := by
    ext e
    simp only [descendants, Set.mem_ofPred_eq, Finset.coe_biUnion, Finset.mem_coe,
      Finset.coe_insert, Set.Finite.coe_toFinset, Set.mem_iUnion, Set.mem_insert_iff,
      exists_prop, hkids]
    exact Ancestor.iff_tail
  have hdisj : (kids : Set α).PairwiseDisjoint fun c => insert c (hf c).toFinset := by
    intro c₁ hc₁ c₂ hc₂ hne
    rw [Function.onFun, Finset.disjoint_left]
    intro e he₁ he₂
    -- both children are reached from `e`, so one is reached from the other
    have reach : ∀ c, e ∈ insert c (hf c).toFinset → ReflTransGen (ParentStep parent) e c := by
      intro c hc
      rcases Finset.mem_insert.mp hc with rfl | hc
      · exact ReflTransGen.refl
      · exact ((hf c).mem_toFinset.mp hc).to_reflTransGen
    have hp₁ := (hkids c₁).mp hc₁
    have hp₂ := (hkids c₂).mp hc₂
    rcases ReflTransGen.total_of_right_unique parentStep_rightUnique (reach c₁ he₁)
      (reach c₂ he₂) with h | h
    · exact hne (sibling_eq_of_reach hacyc hp₁ hp₂ h)
    · exact hne (sibling_eq_of_reach hacyc hp₂ hp₁ h).symm
  rw [hdecomp, Set.ncard_coe_finset, Finset.card_biUnion hdisj]
  refine Finset.sum_congr rfl fun c _ => ?_
  have hc : c ∉ (hf c).toFinset := fun hc => hacyc c ((hf c).mem_toFinset.mp hc)
  rw [Finset.card_insert_of_notMem hc, Set.ncard_eq_toFinset_card _ (hf c)]

/-- A child's subtree has fewer nodes than its parent's. -/
theorem ncard_descendants_lt (hacyc : Acyclic parent)
    (hfin : {x | (parent x).isSome}.Finite) {c : α} (hc : parent c = some a) :
    (descendants parent c).ncard < (descendants parent a).ncard := by
  have hf : (descendants parent a).Finite := hfin.subset fun _ hd => Ancestor.parent_isSome hd
  apply Set.ncard_lt_ncard _ hf
  refine ⟨fun e he => TransGen.trans_left he (ReflTransGen.single hc), fun hsub => ?_⟩
  exact hacyc c (hsub (Ancestor.of_parent hc))

end Count

end Dragonfly.Base
