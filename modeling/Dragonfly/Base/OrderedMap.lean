import Mathlib

/-!
# Ordered maps

A map kept as its entries in ascending key order, the order in which a search-tree map
iterates them: `put` inserts or replaces a key in one pass, `get` looks it up, and `values`
lists the values in key order. The entries carry their sortedness, so every map is well
formed.

For a map whose values are lists (a multimap), appending an element to a key's list adds it
to the flattened values (`values_flatten_put_append`), and a prefix of the flattened values
followed by anything else holds every element of a smaller key as soon as it holds an element
of a larger one (`mem_take_values_flatten`): whatever a prefix takes comes from the smallest
keys first.
-/

namespace Dragonfly.Base

/-- A map as its entries, strictly ascending by key. -/
structure OrderedMap (κ ν : Type) [LinearOrder κ] where
  entries : List ((_ : κ) × ν)
  sorted : entries.Pairwise fun a b => a.1 < b.1

namespace OrderedMap

variable {κ ν α : Type} [LinearOrder κ]

/-- Insert `⟨k, v⟩` at its place in a key-sorted list, replacing the entry of `k`. -/
def insertEntry (k : κ) (v : ν) : List ((_ : κ) × ν) → List ((_ : κ) × ν)
  | [] => [⟨k, v⟩]
  | e :: es =>
    if k < e.1 then ⟨k, v⟩ :: e :: es
    else if k = e.1 then ⟨k, v⟩ :: es
    else e :: insertEntry k v es

theorem mem_insertEntry {k : κ} {v : ν} {e : (_ : κ) × ν} {l : List ((_ : κ) × ν)}
    (h : e ∈ insertEntry k v l) : e = ⟨k, v⟩ ∨ e ∈ l := by
  induction l with
  | nil => simpa [insertEntry] using h
  | cons hd tl ih =>
    rw [insertEntry] at h
    split_ifs at h <;> grind

theorem insertEntry_sorted (k : κ) (v : ν) {l : List ((_ : κ) × ν)}
    (h : l.Pairwise fun a b => a.1 < b.1) :
    (insertEntry k v l).Pairwise fun a b => a.1 < b.1 := by
  induction l with
  | nil => simp [insertEntry]
  | cons hd tl ih =>
    rw [insertEntry]
    split_ifs with hlt heq
    · refine h.cons fun a ha => ?_
      rcases List.mem_cons.mp ha with rfl | hmem
      · exact hlt
      · exact lt_trans hlt (List.rel_of_pairwise_cons h hmem)
    · subst heq
      exact h.of_cons.cons fun a ha => List.rel_of_pairwise_cons h ha
    · refine (ih h.of_cons).cons fun a ha => ?_
      rcases mem_insertEntry ha with rfl | hmem
      · exact lt_of_le_of_ne (not_lt.mp hlt) (Ne.symm heq)
      · exact List.rel_of_pairwise_cons h hmem

/-- The map with no entry. -/
def empty : OrderedMap κ ν := ⟨[], .nil⟩

/-- The value of a key. -/
def get (m : OrderedMap κ ν) (k : κ) : Option ν := m.entries.dlookup k

/-- The map with `k` bound to `v`. -/
def put (m : OrderedMap κ ν) (k : κ) (v : ν) : OrderedMap κ ν :=
  ⟨insertEntry k v m.entries, insertEntry_sorted k v m.sorted⟩

/-- The values in ascending key order. -/
def values (m : OrderedMap κ ν) : List ν := m.entries.map Sigma.snd

@[simp] theorem get_empty (k : κ) : (empty : OrderedMap κ ν).get k = none := rfl

@[simp] theorem values_empty : (empty : OrderedMap κ ν).values = [] := rfl

theorem get_put_self (m : OrderedMap κ ν) (k : κ) (v : ν) : (m.put k v).get k = some v := by
  obtain ⟨l, _⟩ := m
  simp only [get, put]
  induction l with
  | nil => simp [insertEntry]
  | cons hd tl ih =>
    obtain ⟨k', v'⟩ := hd
    rw [insertEntry]
    split_ifs with hlt heq
    · simp
    · simp
    · rw [List.dlookup_cons_ne _ _ heq]
      exact ih (List.Pairwise.of_cons ‹_›)

theorem get_put_of_ne (m : OrderedMap κ ν) {k k' : κ} (v : ν) (h : k ≠ k') :
    (m.put k v).get k' = m.get k' := by
  obtain ⟨l, hl⟩ := m
  simp only [get, put]
  clear hl
  induction l with
  | nil => simp [insertEntry, List.dlookup, h.symm]
  | cons hd tl ih =>
    obtain ⟨k'', v''⟩ := hd
    rw [insertEntry]
    split_ifs with hlt heq
    · rw [List.dlookup_cons_ne _ _ (Ne.symm h)]
    · subst heq
      rw [List.dlookup_cons_ne _ _ (Ne.symm h), List.dlookup_cons_ne _ _ (Ne.symm h)]
    · by_cases hk : k' = k''
      · subst hk
        simp
      · rw [List.dlookup_cons_ne _ _ hk, List.dlookup_cons_ne _ _ hk, ih]

/-- A key that lies below every key of a sorted list has no value in it. -/
theorem dlookup_eq_none_of_lt {k : κ} {hd : (_ : κ) × ν} {tl : List ((_ : κ) × ν)}
    (h : (hd :: tl).Pairwise fun a b => a.1 < b.1) (hk : k < hd.1) :
    (hd :: tl).dlookup k = none := by
  rw [List.dlookup_eq_none, List.keys_cons, List.mem_cons, not_or]
  refine ⟨ne_of_lt hk, fun hmem => ?_⟩
  obtain ⟨e, he, rfl⟩ : ∃ e ∈ tl, e.1 = k := by simpa [List.keys] using hmem
  exact lt_asymm hk (List.rel_of_pairwise_cons h he)

section Multimap

/-- Appending `x` to the list of `k` adds `x` to the flattened values. -/
theorem values_flatten_put_append (m : OrderedMap κ (List α)) (k : κ) (x : α) :
    ((m.put k ((m.get k).getD [] ++ [x])).values.flatten).Perm (m.values.flatten ++ [x]) := by
  obtain ⟨l, hl⟩ := m
  simp only [values, get, put]
  induction l with
  | nil => simp [insertEntry]
  | cons hd tl ih =>
    obtain ⟨k', v'⟩ := hd
    rw [insertEntry]
    split_ifs with hlt heq
    · -- a new key below every key: the new list stands first
      rw [dlookup_eq_none_of_lt hl hlt]
      simpa using (List.perm_append_singleton x (v' ++ (tl.map Sigma.snd).flatten)).symm
    · subst heq
      simpa using (List.perm_append_singleton x _).symm.append_left v'
    · rw [List.dlookup_cons_ne _ _ heq]
      simpa using (ih hl.of_cons).append_left v'

theorem mem_values_flatten_of_get {m : OrderedMap κ (List α)} {k : κ} {a : α}
    (h : a ∈ (m.get k).getD []) : a ∈ m.values.flatten := by
  cases hk : m.get k with
  | none => simp [hk] at h
  | some v =>
    rw [hk, Option.getD_some] at h
    exact List.mem_flatten.mpr ⟨v, List.mem_map.mpr ⟨⟨k, v⟩, List.of_mem_dlookup hk, rfl⟩, h⟩

/-- The values of a sorted list are those of its keys below `k`, then those of the others. -/
theorem values_split (l : List ((_ : κ) × ν)) (hl : l.Pairwise fun a b => a.1 < b.1) (k : κ) :
    l.map Sigma.snd =
      (l.filter fun e => e.1 < k).map Sigma.snd ++ (l.filter fun e => ¬ e.1 < k).map Sigma.snd := by
  induction l with
  | nil => rfl
  | cons hd tl ih =>
    by_cases hlt : hd.1 < k
    · simp [hlt, ih hl.of_cons]
    · -- every later key lies above `hd.1`, so not below `k` either
      have hall : ∀ e ∈ hd :: tl, ¬ e.1 < k := by
        intro e he hek
        rcases List.mem_cons.mp he with rfl | he
        · exact hlt hek
        · exact hlt (lt_trans (List.rel_of_pairwise_cons hl he) hek)
      have hbelow : (hd :: tl).filter (fun e => e.1 < k) = [] :=
        List.filter_eq_nil_iff.mpr fun e he => by simpa using hall e he
      have habove : (hd :: tl).filter (fun e => ¬ e.1 < k) = hd :: tl :=
        List.filter_eq_self.mpr fun e he => by simpa using hall e he
      rw [hbelow, habove]
      rfl

/-- In a list without repetitions, a prefix that holds an element of the right part holds the
whole left part. -/
theorem mem_take_of_mem_take_right {l₁ l₂ : List α} (hnd : (l₁ ++ l₂).Nodup) {a b : α}
    (ha : a ∈ l₁) (hb : b ∈ l₂) {n : ℕ} (hbn : b ∈ (l₁ ++ l₂).take n) :
    a ∈ (l₁ ++ l₂).take n := by
  rw [List.take_append] at hbn ⊢
  by_cases hn : l₁.length ≤ n
  · rw [List.take_of_length_le hn]
    exact List.mem_append_left _ ha
  · rw [Nat.sub_eq_zero_of_le (Nat.le_of_not_le hn), List.take_zero, List.append_nil] at hbn
    exact absurd hb (List.disjoint_of_nodup_append hnd (List.mem_of_mem_take hbn))

/-- A prefix of the flattened values, followed by anything, that holds an element of key `kb`
holds every element of every key below `kb`. -/
theorem mem_take_values_flatten {m : OrderedMap κ (List α)} (rest : List α)
    (hnd : (m.values.flatten ++ rest).Nodup) {a b : α} {ka kb : κ}
    (ha : a ∈ (m.get ka).getD []) (hb : b ∈ (m.get kb).getD []) (hlt : ka < kb) {n : ℕ}
    (hbn : b ∈ (m.values.flatten ++ rest).take n) : a ∈ (m.values.flatten ++ rest).take n := by
  set below := ((m.entries.filter fun e => e.1 < kb).map Sigma.snd).flatten
  set above := ((m.entries.filter fun e => ¬ e.1 < kb).map Sigma.snd).flatten
  have hsplit : m.values.flatten = below ++ above := by
    rw [values, values_split m.entries m.sorted kb, List.flatten_append]
  -- `a` and `b` stand in the entries of their keys, on either side of `kb`
  have hmem : ∀ {k : κ} {x : α}, x ∈ (m.get k).getD [] →
      ∃ v, ⟨k, v⟩ ∈ m.entries ∧ x ∈ v := by
    intro k x hx
    cases hk : m.get k with
    | none => simp [hk] at hx
    | some v => exact ⟨v, List.of_mem_dlookup hk, by simpa [hk] using hx⟩
  obtain ⟨va, hva, hav⟩ := hmem ha
  obtain ⟨vb, hvb, hbv⟩ := hmem hb
  have ha' : a ∈ below :=
    List.mem_flatten.mpr ⟨va, List.mem_map.mpr ⟨⟨ka, va⟩, by simp [hva, hlt], rfl⟩, hav⟩
  have hb' : b ∈ above ++ rest :=
    List.mem_append_left _
      (List.mem_flatten.mpr ⟨vb, List.mem_map.mpr ⟨⟨kb, vb⟩, by simp [hvb], rfl⟩, hbv⟩)
  rw [hsplit, List.append_assoc] at hnd hbn ⊢
  exact mem_take_of_mem_take_right hnd ha' hb' hbn

end Multimap

end OrderedMap

end Dragonfly.Base
