import Mathlib.Data.Finset.Card

/-!
# Sorted lists

`pkg/container/list` keeps items in a `container/list.List` in order of their `SortedValue()`:
`sortedList.Insert` puts an item before the first element whose `SortedValue` is at least its
own, `Remove` unlinks the first element equal to it, and `Range`/`ReverseRange` hand the elements
to a callback front to back or back to front until it returns `false`. `sortedUniqueList` wraps a
`sortedList` with a `set.Set` of the items it holds: inserting an item the set has takes it out of
the list and inserts it again.

`SortedValue()` reads the item, which its owner may change between calls, so the model takes it
as a function of the step: the call at step `t` sees `sortedValue t`. The order is kept when the
items a list holds keep their `SortedValue` from one call to the next (`KeysFixed`); items out of
the list may change theirs as they like. Under that condition every run of calls from an empty
list leaves a list that `Range` visits in non-decreasing `SortedValue` order, holding exactly the
items inserted and not removed since, counted as a multiset for `sortedList` and as a set for
`sortedUniqueList` (`sortedList_invariants`).

The mutexes are left out: each call runs alone.
-/

namespace Dragonfly.Pkg

/-- A call that changes a sorted list: `Insert(item)` or `Remove(item)`. -/
inductive ListOp (α : Type) where
  | insert (item : α)
  | remove (item : α)
  deriving DecidableEq, Repr

variable {α : Type}

/-! ### What a run of calls leaves -/

namespace ListOp

variable [DecidableEq α]

/-- The items a list holds after the call, as a multiset: an insert adds a copy, a remove takes
one out if there is one. -/
def multiset (m : Multiset α) : ListOp α → Multiset α
  | .insert item => item ::ₘ m
  | .remove item => m.erase item

/-- The items a list holds after the call, as a set. -/
def set (s : Finset α) : ListOp α → Finset α
  | .insert item => Insert.insert item s
  | .remove item => s.erase item

end ListOp

/-! ### Runs of calls with changing sort keys -/

section Runs

variable {σ : Type} (apply : (α → ℤ) → σ → ListOp α → σ) (items : σ → List α)
  (sortedValue : ℕ → α → ℤ)

/-- The calls `ops` one after the other from step `t`, the one at step `k` reading the
`SortedValue`s `sortedValue k`. -/
def runCalls : σ → ℕ → List (ListOp α) → σ
  | s, _, [] => s
  | s, t, op :: ops => runCalls (apply (sortedValue t) s op) (t + 1) ops

/-- Along the calls `ops` from `s` at step `t`, every item a call leaves in the list has the same
`SortedValue` at the next step. -/
def KeysFixed : σ → ℕ → List (ListOp α) → Prop
  | _, _, [] => True
  | s, t, op :: ops =>
    (∀ x ∈ items (apply (sortedValue t) s op), sortedValue (t + 1) x = sortedValue t x) ∧
      KeysFixed (apply (sortedValue t) s op) (t + 1) ops

/-- Keys that never change are fixed along every run. -/
theorem keysFixed_of_const (hconst : ∀ t, sortedValue t = sortedValue 0) :
    ∀ (s : σ) (t : ℕ) (ops : List (ListOp α)), KeysFixed apply items sortedValue s t ops
  | _, _, [] => trivial
  | s, t, op :: ops => by
    refine ⟨fun x _ => ?_, keysFixed_of_const hconst _ (t + 1) ops⟩
    rw [hconst (t + 1), hconst t]

variable {apply items sortedValue}

/-- A property of the state at a step that every call keeps, given that the items it leaves keep
their keys to the next step, holds after every run along which the keys are fixed. -/
theorem runCalls_induction {P : ℕ → σ → Prop}
    (hstep : ∀ t s op, P t s →
      (∀ x ∈ items (apply (sortedValue t) s op), sortedValue (t + 1) x = sortedValue t x) →
        P (t + 1) (apply (sortedValue t) s op)) :
    ∀ (ops : List (ListOp α)) (s : σ) (t : ℕ), P t s → KeysFixed apply items sortedValue s t ops →
      P (t + ops.length) (runCalls apply sortedValue s t ops)
  | [], s, t, h, _ => h
  | op :: ops, s, t, h, hfixed => by
    obtain ⟨hkeys, hrest⟩ := hfixed
    have hrun := runCalls_induction hstep ops _ (t + 1) (hstep t s op h hkeys) hrest
    rw [runCalls, List.length_cons, ← Nat.add_assoc, Nat.add_right_comm]
    exact hrun

/-- A view of the state that each call moves as `next` does, whatever the keys, follows `next`
along every run. -/
theorem runCalls_view {β : Type} (view : σ → β) (next : β → ListOp α → β)
    (hview : ∀ f s op, view (apply f s op) = next (view s) op) :
    ∀ (ops : List (ListOp α)) (s : σ) (t : ℕ),
      view (runCalls apply sortedValue s t ops) = ops.foldl next (view s)
  | [], _, _ => rfl
  | op :: ops, s, t => by
    rw [runCalls, List.foldl_cons, ← hview (sortedValue t) s op]
    exact runCalls_view view next hview ops _ (t + 1)

end Runs

/-! ### Order by `SortedValue` -/

section Order

variable (sortedValue : α → ℤ)

/-- The items are in non-decreasing order of `sortedValue`. -/
def SortedBy (l : List α) : Prop := l.Pairwise fun a b => sortedValue a ≤ sortedValue b

/-- The loop of `Insert` (`sorted_list.go:58`): `item` goes before the first element whose
`SortedValue` is at least its own, or at the back. -/
def insertBefore (item : α) : List α → List α
  | [] => [item]
  | v :: vs =>
    if sortedValue v ≥ sortedValue item then item :: v :: vs
    else v :: insertBefore item vs

/-- The loop of `Range` (`sorted_list.go:106`) over `vs`: the elements handed to `fn`, up to the
first one for which it returns `false`. -/
def rangeFrom (fn : α → Bool) : List α → List α
  | [] => []
  | v :: vs => if fn v then v :: rangeFrom fn vs else [v]

variable {sortedValue}

theorem insertBefore_perm (item : α) : ∀ l : List α, (insertBefore sortedValue item l).Perm (item :: l)
  | [] => List.Perm.refl _
  | v :: vs => by
    rw [insertBefore]
    split_ifs
    · exact List.Perm.refl _
    · exact ((insertBefore_perm item vs).cons v).trans (List.Perm.swap item v vs)

theorem mem_insertBefore {item x : α} {l : List α} :
    x ∈ insertBefore sortedValue item l ↔ x = item ∨ x ∈ l :=
  (insertBefore_perm item l).mem_iff.trans List.mem_cons

/-- An item a list lacks is inserted into it once. -/
theorem nodup_insertBefore {item : α} {l : List α} (hout : item ∉ l) (hl : l.Nodup) :
    (insertBefore sortedValue item l).Nodup :=
  (insertBefore_perm item l).nodup_iff.mpr (List.nodup_cons.mpr ⟨hout, hl⟩)

/-- `Insert` keeps a sorted list sorted. -/
theorem SortedBy.insertBefore (item : α) :
    ∀ {l : List α}, SortedBy sortedValue l → SortedBy sortedValue (insertBefore sortedValue item l)
  | [], _ => List.pairwise_singleton _ _
  | v :: vs, h => by
    unfold SortedBy at h ⊢
    rw [Dragonfly.Pkg.insertBefore]
    split_ifs with hle
    · -- `item` goes first: it is at most `v`, which is at most the rest
      refine List.Pairwise.cons (fun x hx => ?_) h
      rcases List.mem_cons.mp hx with rfl | hx
      · exact hle
      · exact le_trans hle (List.rel_of_pairwise_cons h hx)
    · -- `item` goes further on: `v` is below it and below the rest
      refine List.Pairwise.cons (fun x hx => ?_) (SortedBy.insertBefore item h.of_cons)
      rcases mem_insertBefore.mp hx with rfl | hx
      · exact (not_le.mp hle).le
      · exact List.rel_of_pairwise_cons h hx

theorem SortedBy.erase [DecidableEq α] {l : List α} (h : SortedBy sortedValue l) (item : α) :
    SortedBy sortedValue (l.erase item) :=
  List.Pairwise.sublist List.erase_sublist h

/-- The order by one key is the order by another that agrees with it on the items. -/
theorem SortedBy.congr {l : List α} (h : SortedBy sortedValue l) {sortedValue' : α → ℤ}
    (hkeys : ∀ x ∈ l, sortedValue' x = sortedValue x) : SortedBy sortedValue' l := by
  unfold SortedBy at h ⊢
  apply h.imp_of_mem
  intro a b ha hb hab
  rw [hkeys a ha, hkeys b hb]
  exact hab

/-- A callback that never stops `Range` sees every element. -/
@[simp] theorem rangeFrom_true : ∀ l : List α, rangeFrom (fun _ => true) l = l
  | [] => rfl
  | v :: vs => by rw [rangeFrom, if_pos rfl, rangeFrom_true vs]

end Order

/-! ### `sortedList` -/

/-- `sortedList` (`sorted_list.go:40`): the items of its `container`, front to back. -/
structure SortedList (α : Type) where
  container : List α
  deriving DecidableEq, Repr

namespace SortedList

variable [DecidableEq α]

/-- `NewSortedList` (`sorted_list.go:45`). -/
def new : SortedList α := ⟨[]⟩

/-- `Len` (`sorted_list.go:52`). -/
def len (l : SortedList α) : ℕ := l.container.length

/-- `Insert` (`sorted_list.go:58`) with the `SortedValue`s `sortedValue`. -/
def insert (sortedValue : α → ℤ) (l : SortedList α) (item : α) : SortedList α :=
  ⟨insertBefore sortedValue item l.container⟩

/-- `Remove` (`sorted_list.go:76`): the first element equal to `item` is unlinked, which is
`List.erase`. -/
def remove (l : SortedList α) (item : α) : SortedList α := ⟨l.container.erase item⟩

/-- `Contains` (`sorted_list.go:92`). -/
def contains (l : SortedList α) (item : α) : Bool := l.container.contains item

/-- `Range` (`sorted_list.go:104`): the elements handed to `fn`. -/
def range (l : SortedList α) (fn : α → Bool) : List α := rangeFrom fn l.container

/-- `ReverseRange` (`sorted_list.go:120`): the elements handed to `fn`, from the back. -/
def reverseRange (l : SortedList α) (fn : α → Bool) : List α := rangeFrom fn l.container.reverse

/-- One call on the list. -/
def apply (sortedValue : α → ℤ) (l : SortedList α) : ListOp α → SortedList α
  | .insert item => l.insert sortedValue item
  | .remove item => l.remove item

variable {sortedValue : α → ℤ}

theorem apply_sortedBy {l : SortedList α} (h : SortedBy sortedValue l.container) :
    ∀ op : ListOp α, SortedBy sortedValue (l.apply sortedValue op).container
  | .insert item => h.insertBefore item
  | .remove item => h.erase item

/-- Each call moves the items as the multiset semantics says. -/
theorem coe_apply (sortedValue : α → ℤ) (l : SortedList α) :
    ∀ op : ListOp α, ((l.apply sortedValue op).container : Multiset α) =
      ListOp.multiset (l.container : Multiset α) op
  | .insert item => by
    rw [apply, ListOp.multiset, insert, Multiset.cons_coe, Multiset.coe_eq_coe]
    exact insertBefore_perm item l.container
  | .remove item => (Multiset.coe_erase l.container item).symm

end SortedList

/-! ### `sortedUniqueList` -/

/-- `sortedUniqueList` (`sorted_unique_list.go:33`): a sorted list and the set `data` of its
items. -/
structure SortedUniqueList (α : Type) where
  container : SortedList α
  data : Finset α

namespace SortedUniqueList

variable [DecidableEq α]

/-- `NewSortedUniqueList` (`sorted_unique_list.go:39`). -/
def new : SortedUniqueList α := ⟨SortedList.new, ∅⟩

/-- `Len` (`sorted_unique_list.go:47`): the length of the list, not of the set. -/
def len (ul : SortedUniqueList α) : ℕ := ul.container.len

/-- `Insert` (`sorted_unique_list.go:54`): an item the set has is taken out of the list and
inserted again; a new one is added to the set and inserted. -/
def insert (sortedValue : α → ℤ) (ul : SortedUniqueList α) (item : α) : SortedUniqueList α :=
  if item ∈ ul.data then ⟨(ul.container.remove item).insert sortedValue item, ul.data⟩
  else ⟨ul.container.insert sortedValue item, Insert.insert item ul.data⟩

/-- `Remove` (`sorted_unique_list.go:67`). -/
def remove (ul : SortedUniqueList α) (item : α) : SortedUniqueList α :=
  ⟨ul.container.remove item, ul.data.erase item⟩

/-- `Contains` (`sorted_unique_list.go:75`): asks the set. -/
def contains (ul : SortedUniqueList α) (item : α) : Bool := decide (item ∈ ul.data)

/-- `Range` (`sorted_unique_list.go:82`): the list's, through a callback that returns what `fn`
does. -/
def range (ul : SortedUniqueList α) (fn : α → Bool) : List α := ul.container.range fn

/-- `ReverseRange` (`sorted_unique_list.go:94`). -/
def reverseRange (ul : SortedUniqueList α) (fn : α → Bool) : List α :=
  ul.container.reverseRange fn

/-- One call on the list. -/
def apply (sortedValue : α → ℤ) (ul : SortedUniqueList α) : ListOp α → SortedUniqueList α
  | .insert item => ul.insert sortedValue item
  | .remove item => ul.remove item

/-- The items of the list. -/
def items (ul : SortedUniqueList α) : List α := ul.container.container

/-- The list holds each item once, and exactly the items of the set. -/
structure Inv (ul : SortedUniqueList α) : Prop where
  nodup : ul.items.Nodup
  mem_data : ∀ x, x ∈ ul.data ↔ x ∈ ul.items

omit [DecidableEq α] in
theorem inv_new : (new : SortedUniqueList α).Inv where
  nodup := List.nodup_nil
  mem_data x := by simp [new, items, SortedList.new]

variable {sortedValue : α → ℤ} {ul : SortedUniqueList α}

/-- The set moves as the set semantics says. -/
theorem data_apply (sortedValue : α → ℤ) (ul : SortedUniqueList α) :
    ∀ op : ListOp α, (ul.apply sortedValue op).data = ListOp.set ul.data op
  | .insert item => by
    rw [SortedUniqueList.apply, insert]
    split_ifs with hmem
    · exact (Finset.insert_eq_of_mem hmem).symm
    · rfl
  | .remove _ => rfl

theorem Inv.apply (h : ul.Inv) : ∀ op : ListOp α, (ul.apply sortedValue op).Inv
  | .insert item => by
    rw [SortedUniqueList.apply, insert]
    split_ifs with hmem
    · -- the item is taken out, so it is not in what is left, and put back once
      have hout : item ∉ ul.items.erase item := fun hin => (h.nodup.mem_erase_iff.mp hin).1 rfl
      refine ⟨nodup_insertBefore hout (h.nodup.erase item), fun x => ?_⟩
      rw [h.mem_data]
      change x ∈ ul.items ↔ x ∈ insertBefore sortedValue item (ul.items.erase item)
      rw [mem_insertBefore, h.nodup.mem_erase_iff]
      constructor
      · intro hx
        by_cases hxi : x = item
        · exact Or.inl hxi
        · exact Or.inr ⟨hxi, hx⟩
      · rintro (rfl | ⟨-, hx⟩)
        · exact (h.mem_data _).mp hmem
        · exact hx
    · have hout : item ∉ ul.items := fun hin => hmem ((h.mem_data item).mpr hin)
      refine ⟨nodup_insertBefore hout h.nodup, fun x => ?_⟩
      change x ∈ Insert.insert item ul.data ↔ x ∈ insertBefore sortedValue item ul.items
      rw [Finset.mem_insert, mem_insertBefore, h.mem_data]
  | .remove item => by
    refine ⟨h.nodup.erase item, fun x => ?_⟩
    change x ∈ ul.data.erase item ↔ x ∈ ul.items.erase item
    rw [Finset.mem_erase, h.mem_data, h.nodup.mem_erase_iff]

theorem apply_sortedBy (h : SortedBy sortedValue ul.items) :
    ∀ op : ListOp α, SortedBy sortedValue (ul.apply sortedValue op).items
  | .insert item => by
    rw [SortedUniqueList.apply, insert]
    split_ifs
    · exact (h.erase item).insertBefore item
    · exact h.insertBefore item
  | .remove item => h.erase item

/-- Under the invariant the list, as a multiset, is the set. -/
theorem Inv.coe_items (h : ul.Inv) : (ul.items : Multiset α) = ul.data.val := by
  have hdata : ul.data = ul.items.toFinset := by
    ext x
    rw [h.mem_data, List.mem_toFinset]
  rw [hdata, List.toFinset_val, h.nodup.dedup]

theorem Inv.contains_iff (h : ul.Inv) (x : α) : ul.contains x = true ↔ x ∈ ul.items := by
  rw [contains, decide_eq_true_iff, h.mem_data]

/-- Under the invariant `Len` counts the items of the set. -/
theorem Inv.len_eq (h : ul.Inv) : ul.len = ul.data.card := by
  have hcard := congrArg Multiset.card h.coe_items
  rw [Multiset.coe_card] at hcard
  exact hcard

end SortedUniqueList

/-! ### Runs from an empty list -/

section Laws

variable [DecidableEq α] (sortedValue : ℕ → α → ℤ) (ops : List (ListOp α))

/-- A run of a `sortedList` holds the multiset of its calls, in order of the last keys. -/
theorem SortedList.run_laws
    (hfixed : KeysFixed SortedList.apply SortedList.container sortedValue SortedList.new 0 ops) :
    let l := runCalls SortedList.apply sortedValue SortedList.new 0 ops
    (l.container : Multiset α) = ops.foldl ListOp.multiset 0 ∧
      SortedBy (sortedValue ops.length) l.container := by
  intro l
  -- the order, carried from step to step by the fixed keys
  have hsorted : SortedBy (sortedValue (0 + ops.length)) l.container :=
    runCalls_induction (P := fun t (l : SortedList α) => SortedBy (sortedValue t) l.container)
      (fun t l op hl hkeys => (SortedList.apply_sortedBy hl op).congr hkeys) ops SortedList.new 0
      List.Pairwise.nil hfixed
  have hcoe : (l.container : Multiset α) = ops.foldl ListOp.multiset (SortedList.new.container : List α) :=
    runCalls_view (fun l => (l.container : Multiset α)) ListOp.multiset
      (fun f l op => SortedList.coe_apply f l op) ops SortedList.new 0
  rw [Nat.zero_add] at hsorted
  exact ⟨hcoe, hsorted⟩

/-- Among equal keys the item inserted last comes first. -/
example : (runCalls SortedList.apply (fun _ (x : ℕ × ℕ) => (x.1 : ℤ)) SortedList.new 0
    [.insert (1, 0), .insert (1, 1), .insert (0, 2)]).container = [(0, 2), (1, 1), (1, 0)] := by
  decide

/-- A run of a `sortedUniqueList` keeps the invariant, holds the set of its calls, and is in order
of the last keys. -/
theorem SortedUniqueList.run_laws
    (hfixed : KeysFixed SortedUniqueList.apply SortedUniqueList.items sortedValue
      SortedUniqueList.new 0 ops) :
    let ul := runCalls SortedUniqueList.apply sortedValue SortedUniqueList.new 0 ops
    ul.Inv ∧ ul.data = ops.foldl ListOp.set ∅ ∧ SortedBy (sortedValue ops.length) ul.items := by
  intro ul
  -- the invariant and the order, carried together
  have hinv : ul.Inv ∧ SortedBy (sortedValue (0 + ops.length)) ul.items :=
    runCalls_induction
      (P := fun t (ul : SortedUniqueList α) => ul.Inv ∧ SortedBy (sortedValue t) ul.items)
      (fun t ul op hul hkeys =>
        ⟨hul.1.apply op, (SortedUniqueList.apply_sortedBy hul.2 op).congr hkeys⟩)
      ops SortedUniqueList.new 0 ⟨SortedUniqueList.inv_new, List.Pairwise.nil⟩ hfixed
  have hdata : ul.data = ops.foldl ListOp.set SortedUniqueList.new.data :=
    runCalls_view SortedUniqueList.data ListOp.set
      (fun f ul op => SortedUniqueList.data_apply f ul op) ops SortedUniqueList.new 0
  rw [Nat.zero_add] at hinv
  exact ⟨hinv.1, hdata, hinv.2⟩

end Laws

/-- Over every run of `Insert` and `Remove` calls from an empty list along which the items in the
list keep their `SortedValue`: `Range` visits the items inserted and not removed, as a multiset
for `sortedList` and as a set for `sortedUniqueList`, in non-decreasing order of their current
`SortedValue`, and `ReverseRange` visits them backwards; the unique list holds each item once,
`Contains` answers membership and `Len` is the number of items. -/
theorem sortedList_invariants [DecidableEq α] (sortedValue : ℕ → α → ℤ) :
    (∀ ops : List (ListOp α),
      KeysFixed SortedList.apply SortedList.container sortedValue SortedList.new 0 ops →
        let l := runCalls SortedList.apply sortedValue SortedList.new 0 ops
        let visited := l.range fun _ => true
        (visited : Multiset α) = ops.foldl ListOp.multiset 0 ∧
          SortedBy (sortedValue ops.length) visited ∧
          l.reverseRange (fun _ => true) = visited.reverse) ∧
    ∀ ops : List (ListOp α),
      KeysFixed SortedUniqueList.apply SortedUniqueList.items sortedValue SortedUniqueList.new 0
          ops →
        let ul := runCalls SortedUniqueList.apply sortedValue SortedUniqueList.new 0 ops
        let visited := ul.range fun _ => true
        (visited : Multiset α) = (ops.foldl ListOp.set ∅).val ∧
          SortedBy (sortedValue ops.length) visited ∧
          ul.reverseRange (fun _ => true) = visited.reverse ∧
          visited.Nodup ∧ (∀ x, ul.contains x = true ↔ x ∈ visited) ∧
          ul.len = (ops.foldl ListOp.set ∅).card := by
  constructor
  · intro ops hfixed l visited
    obtain ⟨hcoe, hsorted⟩ := SortedList.run_laws sortedValue ops hfixed
    -- a callback that always goes on visits the whole list
    have hvisited : visited = l.container := rangeFrom_true _
    rw [hvisited]
    refine ⟨hcoe, hsorted, ?_⟩
    exact rangeFrom_true _
  · intro ops hfixed ul visited
    obtain ⟨hinv, hdata, hsorted⟩ := SortedUniqueList.run_laws sortedValue ops hfixed
    have hvisited : visited = ul.items := rangeFrom_true _
    rw [hvisited, ← hdata]
    exact ⟨hinv.coe_items, hsorted, rangeFrom_true _, hinv.nodup, hinv.contains_iff, hinv.len_eq⟩

theorem sortedList_invariants_fixed_keys :
    let sortedValue : ℕ → ℕ → ℤ := fun _ x => x
    let ops : List (ListOp ℕ) := [.insert 2, .insert 1, .insert 2, .remove 1]
    KeysFixed SortedList.apply SortedList.container sortedValue SortedList.new 0 ops ∧
      KeysFixed SortedUniqueList.apply SortedUniqueList.items sortedValue SortedUniqueList.new 0
        ops ∧
      ((runCalls SortedList.apply sortedValue SortedList.new 0 ops).range fun _ => true :
        Multiset ℕ) = ops.foldl ListOp.multiset 0 ∧
      (runCalls SortedUniqueList.apply sortedValue SortedUniqueList.new 0 ops).len =
        (ops.foldl ListOp.set ∅).card := by
  intro sortedValue ops
  have hlist := keysFixed_of_const SortedList.apply SortedList.container sortedValue
    (fun _ => rfl) SortedList.new 0 ops
  have hunique := keysFixed_of_const SortedUniqueList.apply SortedUniqueList.items sortedValue
    (fun _ => rfl) SortedUniqueList.new 0 ops
  exact ⟨hlist, hunique, ((sortedList_invariants sortedValue).1 ops hlist).1,
    ((sortedList_invariants sortedValue).2 ops hunique).2.2.2.2.2⟩

end Dragonfly.Pkg
