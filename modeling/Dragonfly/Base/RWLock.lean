import Mathlib.Data.Fintype.Card

/-!
# Reader/writer locks

An abstract reader/writer lock: how many readers hold it and whether a writer does. A reader
may take it while no writer holds it, a writer only while nobody does; a `lock` that cannot
proceed blocks, and an `unlock` that finds no holder of its kind fails.

`Holds l h` ties a lock to the threads that hold it, `h t` being what thread `t` holds it for
(`some true` reading, `some false` writing, `none` not at all). A writer holds a lock that
`Holds` alone (`Holds.writer_alone`); `lock` and `unlock` keep `Holds` as the holder's entry
changes (`Holds.lock`, `Holds.unlock`), and a lock that nobody holds is free
(`Holds.eq_free`).

Threads are counted through `among P f`, the threads whose value under `f` satisfies `P`:
changing one thread's value adds it, removes it or leaves the set as it is.
-/

namespace Dragonfly.Base

section Among

variable {τ β : Type} [Fintype τ] (P : β → Prop) [DecidablePred P]

/-- The threads whose value satisfies `P`. -/
def among (f : τ → β) : Finset τ := Finset.univ.filter fun t => P (f t)

variable {P} {f : τ → β} {t : τ} {v : β}

@[simp] theorem mem_among {t' : τ} : t' ∈ among P f ↔ P (f t') := by
  simp [among]

variable [DecidableEq τ]

theorem among_update_of_not (hf : ¬ P (f t)) (hv : P v) :
    among P (Function.update f t v) = insert t (among P f) := by
  ext t'
  by_cases h : t' = t
  · subst h
    simp [hv]
  · simp [h]

theorem among_update_of (hf : P (f t)) (hv : ¬ P v) :
    among P (Function.update f t v) = (among P f).erase t := by
  ext t'
  by_cases h : t' = t
  · subst h
    simp [hv]
  · simp [h]

theorem among_update_of_iff (h : P (f t) ↔ P v) :
    among P (Function.update f t v) = among P f := by
  ext t'
  by_cases h' : t' = t
  · subst h'
    simp [h]
  · simp [Function.update_of_ne h']

theorem card_among_update_of_not (hf : ¬ P (f t)) (hv : P v) :
    (among P (Function.update f t v)).card = (among P f).card + 1 := by
  rw [among_update_of_not hf hv, Finset.card_insert_of_notMem (by simpa using hf)]

theorem card_among_update_of (hf : P (f t)) (hv : ¬ P v) :
    (among P (Function.update f t v)).card + 1 = (among P f).card := by
  rw [among_update_of hf hv, Finset.card_erase_add_one (by simpa using hf)]

end Among

/-- A reader/writer lock: the number of readers that hold it and whether a writer does. -/
structure RWLock where
  readers : ℕ
  writer : Bool
  deriving DecidableEq, Repr

namespace RWLock

/-- The lock that nobody holds. -/
def free : RWLock := ⟨0, false⟩

/-- A `lock` for reading (`rLock`) or for writing can proceed. -/
def canLock (l : RWLock) (rLock : Bool) : Bool :=
  !l.writer && (rLock || l.readers == 0)

/-- Take the lock, once `canLock` lets the caller in. -/
def lock (l : RWLock) (rLock : Bool) : RWLock :=
  if rLock then { l with readers := l.readers + 1 } else { l with writer := true }

/-- Release the lock; `none` when no holder of that kind holds it. -/
def unlock (l : RWLock) (rLock : Bool) : Option RWLock :=
  if rLock then
    if 0 < l.readers then some { l with readers := l.readers - 1 } else none
  else if l.writer then some { l with writer := false } else none

variable {τ : Type} [Fintype τ]

/-- `l` is held for reading by the threads `h` maps to `some true`, for writing by those it
maps to `some false`, and a writer holds it alone. -/
structure Holds (l : RWLock) (h : τ → Option Bool) : Prop where
  readers_eq : l.readers = (among (· = some true) h).card
  writer_iff : l.writer = true ↔ ∃ t, h t = some false
  writer_alone : ∀ t t', h t = some false → h t' ≠ none → t' = t

theorem holds_free : Holds free (fun _ : τ => none) where
  readers_eq := by simp [free, among]
  writer_iff := by simp [free]
  writer_alone := by simp

variable {l : RWLock} {h : τ → Option Bool} {t : τ}

theorem Holds.readers_pos (hl : Holds l h) (ht : h t = some true) : 0 < l.readers := by
  rw [hl.readers_eq]
  exact Finset.card_pos.mpr ⟨t, by simpa using ht⟩

theorem Holds.writer_of (hl : Holds l h) (ht : h t = some false) : l.writer = true :=
  hl.writer_iff.mpr ⟨t, ht⟩

/-- Nobody holds a lock with no reader and no writer. -/
theorem Holds.eq_none (hl : Holds l h) (hw : l.writer = false) (hr : l.readers = 0) (t : τ) :
    h t = none := by
  cases ht : h t with
  | none => rfl
  | some r =>
    cases r with
    | true => exact absurd (hl.readers_pos ht) (by omega)
    | false => simp [hl.writer_of ht] at hw

/-- A reader and a writer never hold one lock together. -/
theorem Holds.no_writer_of_reader (hl : Holds l h) (ht : h t = some true) (t' : τ) :
    h t' ≠ some false := by
  intro ht'
  have heq : t = t' := hl.writer_alone t' t ht' (by simp [ht])
  subst heq
  simp [ht] at ht'

theorem Holds.eq_free (hl : Holds l h) (hnone : ∀ t, h t = none) : l = free := by
  have hr : l.readers = 0 := by
    rw [hl.readers_eq, Finset.card_eq_zero, Finset.eq_empty_iff_forall_notMem]
    intro t
    simp [hnone t]
  have hw : l.writer = false := by
    cases hwl : l.writer with
    | false => rfl
    | true =>
      obtain ⟨t, ht⟩ := hl.writer_iff.mp hwl
      simp [hnone t] at ht
  cases l
  simp_all [free]

variable [DecidableEq τ]

omit [Fintype τ] in
/-- Giving one thread anything but a write hold keeps a map without writers so. -/
theorem update_ne_writer (hnw : ∀ t', h t' ≠ some false) {v : Option Bool}
    (hv : v ≠ some false) (t' : τ) : Function.update h t v t' ≠ some false := by
  by_cases h' : t' = t
  · subst h'
    simpa using hv
  · simpa [Function.update_of_ne h'] using hnw t'

theorem Holds.lock (hl : Holds l h) (ht : h t = none) {rLock : Bool}
    (hc : l.canLock rLock = true) : Holds (l.lock rLock) (Function.update h t (some rLock)) := by
  have hw : l.writer = false := by
    simp only [canLock, Bool.and_eq_true, Bool.not_eq_eq_eq_not, Bool.not_true] at hc
    exact hc.1
  -- no thread writes: a new reader or writer finds no writer to share with
  have hnw : ∀ t', h t' ≠ some false := fun t' ht' => by simp [hl.writer_of ht'] at hw
  cases rLock with
  | true =>
    have hnw' := update_ne_writer (t := t) hnw (v := some true) (by simp)
    refine ⟨?_, ?_, fun t₁ _ h₁ => absurd h₁ (hnw' t₁)⟩
    · rw [RWLock.lock, if_pos rfl, card_among_update_of_not (P := (· = some true)) (by simp [ht]) rfl,
        hl.readers_eq]
    · simp only [RWLock.lock, if_pos, hw, Bool.false_eq_true, false_iff, not_exists]
      exact hnw'
  | false =>
    have hr : l.readers = 0 := by
      simpa [canLock, hw] using hc
    have hnone := hl.eq_none hw hr
    refine ⟨?_, ?_, ?_⟩
    · rw [RWLock.lock, if_neg Bool.false_ne_true, among_update_of_iff (by simp [ht])]
      exact hl.readers_eq
    · simp only [RWLock.lock, if_neg Bool.false_ne_true, true_iff]
      exact ⟨t, by simp⟩
    · -- the new writer is the only holder
      have hat : ∀ t', Function.update h t (some false) t' ≠ none → t' = t := by
        intro t' ht'
        by_contra h'
        simp [Function.update_of_ne h', hnone t'] at ht'
      intro t₁ t₂ h₁ h₂
      rw [hat t₂ h₂, hat t₁ (by simp [h₁])]

theorem Holds.unlock (hl : Holds l h) {rLock : Bool} (ht : h t = some rLock) :
    ∃ l', l.unlock rLock = some l' ∧ Holds l' (Function.update h t none) := by
  cases rLock with
  | true =>
    have hpos := hl.readers_pos ht
    -- a reader holds it, so no writer does, before or after
    have hnw' := update_ne_writer (t := t) (hl.no_writer_of_reader ht) (v := none) (by simp)
    refine ⟨{ l with readers := l.readers - 1 }, by simp [RWLock.unlock, hpos], ?_, ?_,
      fun t₁ _ h₁ => absurd h₁ (hnw' t₁)⟩
    · have hcard := card_among_update_of (P := (· = some true)) (f := h) (v := none)
        (by simpa using ht) (by simp)
      show l.readers - 1 = _
      rw [hl.readers_eq] at hpos ⊢
      omega
    · have hw : l.writer = false := by
        cases hwl : l.writer with
        | false => rfl
        | true =>
          obtain ⟨t', ht'⟩ := hl.writer_iff.mp hwl
          exact absurd ht' (hl.no_writer_of_reader ht t')
      simp only [hw, Bool.false_eq_true, false_iff, not_exists]
      exact hnw'
  | false =>
    have hw := hl.writer_of ht
    refine ⟨{ l with writer := false }, by simp [RWLock.unlock, hw], ?_, ?_, ?_⟩
    · rw [among_update_of_iff (by simp [ht])]
      exact hl.readers_eq
    · -- the writer was alone, and it has left
      simp only [Bool.false_eq_true, false_iff, not_exists]
      intro t'
      by_cases h' : t' = t
      · simp [h']
      · rw [Function.update_of_ne h']
        intro ht'
        exact h' (hl.writer_alone t t' ht (by simp [ht']))
    · intro t₁ t₂ h₁
      by_cases h' : t₁ = t
      · simp [h'] at h₁
      · rw [Function.update_of_ne h'] at h₁
        exact absurd (hl.writer_alone t t₁ ht (by simp [h₁])) h'

end RWLock

end Dragonfly.Base
