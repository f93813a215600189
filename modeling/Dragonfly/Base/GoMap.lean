import Mathlib

/-!
# Go maps as references

A Go map value is a reference to a table that every copy of the value shares: copying a struct
copies its maps' references, not their tables. A heap holds the tables, a map value is `none` for
`nil` or the index of its table, and the statements `m[k] = v` and `delete(m, k)` act on the table
the value points to. A table is Mathlib's association list, which keeps one entry a key.

An assignment puts the new value where the key's entry stands, so assigning a table its own
entry changes nothing (`assign_of_mem`): a loop that writes a map's entries back into the same map
leaves the heap as it was (`copyEntries_self`). Through a reference, a run of assignments and
deletions acts on what the map reads as on a function (`run_lookup`).
-/

namespace Dragonfly.Base.GoMap

open List

variable {κ ν : Type} [DecidableEq κ]

/-! ### Tables -/

/-- The entries of one Go map. -/
abbrev Table (κ ν : Type) := AList fun _ : κ => ν

theorem dlookup_kreplace (k : κ) (v : ν) (a : κ) :
    ∀ l : List (Sigma fun _ : κ => ν),
      dlookup a (kreplace k v l) = if a = k ∧ k ∈ l.keys then some v else dlookup a l
  | [] => by simp [kreplace]
  | ⟨a', b'⟩ :: l => by
    by_cases hk : k = a'
    · -- the first entry is the key's: it takes the new value
      subst hk
      have hrep : kreplace k v (⟨k, b'⟩ :: l) = ⟨k, v⟩ :: l := by
        simp [kreplace, lookmap_cons_some]
      rw [hrep]
      by_cases ha : a = k
      · subst ha
        simp
      · simp [ha, dlookup_cons_ne]
    · have hrep : kreplace k v (⟨a', b'⟩ :: l) = ⟨a', b'⟩ :: kreplace k v l := by
        simp [kreplace, lookmap_cons_none, hk]
      rw [hrep]
      by_cases ha : a = a'
      · subst ha
        have hne : a ≠ k := fun h => hk h.symm
        simp [hne]
      · rw [dlookup_cons_ne _ _ ha, dlookup_cons_ne _ _ ha, dlookup_kreplace k v a l]
        simp [keys_cons, hk]

/-- `m[k] = v` on a table: the key's entry takes `v` where it stands, or a new entry is added. -/
def assign (t : Table κ ν) (k : κ) (v : ν) : Table κ ν :=
  if k ∈ t then t.replace k v else t.insert k v

theorem lookup_assign (t : Table κ ν) (k : κ) (v : ν) (a : κ) :
    (assign t k v).lookup a = if a = k then some v else t.lookup a := by
  unfold assign
  split_ifs with hk ha ha
  · subst ha
    have hk' : a ∈ t.entries.keys := AList.mem_keys.mp hk
    simp only [AList.lookup, AList.replace]
    rw [dlookup_kreplace, if_pos ⟨rfl, hk'⟩]
  · simp only [AList.lookup, AList.replace]
    rw [dlookup_kreplace, if_neg (fun h => ha h.1)]
  · subst ha
    exact AList.lookup_insert t
  · exact AList.lookup_insert_ne ha

/-- Assigning a key the value of its entry leaves the table as it is. -/
theorem assign_of_mem {t : Table κ ν} {k : κ} {v : ν}
    (h : (⟨k, v⟩ : Sigma fun _ : κ => ν) ∈ t.entries) : assign t k v = t := by
  have hk : k ∈ t := AList.mem_keys.mpr (List.mem_keys_of_mem h)
  rw [assign, if_pos hk]
  exact AList.ext (kreplace_self t.nodupKeys h)

/-! ### The heap -/

/-- The tables of the maps made so far; a map value is `none` for `nil`, or the index of its
table. -/
abbrev Heap (κ ν : Type) := List (Table κ ν)

/-- The table a map value points to; a `nil` map reads as an empty one. -/
def table (h : Heap κ ν) : Option ℕ → Option (Table κ ν)
  | none => some ∅
  | some r => h[r]?

/-- `m[k]`: `none` for a key the map lacks. -/
def lookup (h : Heap κ ν) (m : Option ℕ) (k : κ) : Option ν := (table h m).bind (AList.lookup k)

/-- `len(m)`. -/
def len (h : Heap κ ν) (m : Option ℕ) : ℕ := ((table h m).map fun t => t.entries.length).getD 0

/-- A statement that changes a map: `m[k] = v` or `delete(m, k)`. -/
inductive Op (κ ν : Type) where
  | assign (k : κ) (v : ν)
  | delete (k : κ)
  deriving DecidableEq, Repr

/-- What an operation does to a map read as a function. -/
def Op.applyFn (f : κ → Option ν) : Op κ ν → κ → Option ν
  | .assign k v => Function.update f k (some v)
  | .delete k => Function.update f k none

/-- An operation through the map value `m`: an assignment to a `nil` map panics, a deletion from
it does nothing. -/
def apply (h : Heap κ ν) (m : Option ℕ) : Op κ ν → Option (Heap κ ν)
  | .assign k v =>
    match m with
    | none => none
    | some r => h[r]?.map fun t => h.set r (assign t k v)
  | .delete k =>
    match m with
    | none => some h
    | some r => h[r]?.map fun t => h.set r (t.erase k)

/-- The operations one after the other through `m`; `none` once one panics. -/
def run (h : Heap κ ν) (m : Option ℕ) : List (Op κ ν) → Option (Heap κ ν)
  | [] => some h
  | op :: ops => (apply h m op).bind fun h => run h m ops

/-- The loop `for k, v := range src { dst[k] = v }` over the entries `es` of `src`. -/
def copyEntries (h : Heap κ ν) (dst : Option ℕ) : List (Sigma fun _ : κ => ν) → Option (Heap κ ν)
  | [] => some h
  | ⟨k, v⟩ :: es => (apply h dst (.assign k v)).bind fun h => copyEntries h dst es

/-! ### What the heap operations do -/

variable {h h' : Heap κ ν}

omit [DecidableEq κ] in
/-- Writing a table back in its own place leaves the heap as it was. -/
theorem set_self {r : ℕ} {t : Table κ ν} (ht : h[r]? = some t) : h.set r t = h := by
  obtain ⟨hr, rfl⟩ := List.getElem?_eq_some_iff.mp ht
  exact List.set_getElem_self hr

theorem lookup_set {r : ℕ} (hr : r < h.length) (t : Table κ ν) (k : κ) :
    lookup (h.set r t) (some r) k = t.lookup k := by
  rw [lookup, table, List.getElem?_set_self hr, Option.bind_some]

/-- One operation through `m` acts on what `m` reads as on a function. -/
theorem apply_lookup {m : Option ℕ} {op : Op κ ν} (happ : apply h m op = some h') :
    lookup h' m = op.applyFn (lookup h m) := by
  cases m with
  | none =>
    -- through `nil` an assignment panics and a deletion does nothing
    cases op with
    | assign k v => cases happ
    | delete k =>
      rw [apply, Option.some.injEq] at happ
      subst happ
      funext a
      rw [Op.applyFn, Function.update_apply]
      split_ifs <;> simp [lookup, table]
  | some r =>
    cases ht : h[r]? with
    | none => cases op <;> rw [apply, ht] at happ <;> cases happ
    | some t =>
      have hr : r < h.length := (List.getElem?_eq_some_iff.mp ht).1
      have hread : lookup h (some r) = t.lookup := by
        funext a
        simp only [lookup, table, ht, Option.bind_some]
      funext a
      cases op with
      | assign k v =>
        rw [apply, ht, Option.map_some, Option.some.injEq] at happ
        subst happ
        rw [lookup_set hr, lookup_assign, Op.applyFn, Function.update_apply, hread]
      | delete k =>
        rw [apply, ht, Option.map_some, Option.some.injEq] at happ
        subst happ
        rw [lookup_set hr, Op.applyFn, Function.update_apply, hread]
        split_ifs with ha
        · subst ha
          exact AList.lookup_erase a t
        · exact AList.lookup_erase_ne ha

/-- A run of operations through `m` acts on what `m` reads as the operations do on a function. -/
theorem run_lookup {m : Option ℕ} :
    ∀ {h h' : Heap κ ν} (ops : List (Op κ ν)), run h m ops = some h' →
      lookup h' m = ops.foldl Op.applyFn (lookup h m)
  | h, h', [], hrun => by
    rw [run, Option.some.injEq] at hrun
    subst hrun
    rfl
  | h, h', op :: ops, hrun => by
    rw [run] at hrun
    cases happ : apply h m op with
    | none => rw [happ] at hrun; cases hrun
    | some h₁ =>
      rw [happ, Option.bind_some] at hrun
      rw [run_lookup ops hrun, apply_lookup happ, List.foldl_cons]

/-- Writing entries of a map's table back into the same map leaves the heap as it was. -/
theorem copyEntries_self {r : ℕ} {t : Table κ ν} (ht : h[r]? = some t) :
    ∀ es : List (Sigma fun _ : κ => ν), (∀ e ∈ es, e ∈ t.entries) →
      copyEntries h (some r) es = some h
  | [], _ => rfl
  | ⟨k, v⟩ :: es, hes => by
    have hmem := hes ⟨k, v⟩ (List.mem_cons_self ..)
    rw [copyEntries, apply, ht, Option.map_some, assign_of_mem hmem, set_self ht, Option.bind_some]
    exact copyEntries_self ht es fun e he => hes e (List.mem_cons_of_mem _ he)

omit [DecidableEq κ] in
/-- A map value that is `nil` or points into the heap has a table. -/
theorem exists_table {m : Option ℕ} (hm : ∀ r, m = some r → r < h.length) :
    ∃ t, table h m = some t := by
  cases m with
  | none => exact ⟨∅, rfl⟩
  | some r =>
    have hr := hm r rfl
    exact ⟨h[r], List.getElem?_eq_getElem hr⟩

/-- The loop that writes a map's entries back into the map leaves the heap as it was. -/
theorem copyEntries_table {m : Option ℕ} {t : Table κ ν} (ht : table h m = some t) :
    copyEntries h m t.entries = some h := by
  cases m with
  | none =>
    rw [table, Option.some.injEq] at ht
    subst ht
    rfl
  | some r => exact copyEntries_self ht _ fun _ he => he

end Dragonfly.Base.GoMap
