import Mathlib

/-!
# Buffered Go channels

The buffer of a Go channel of capacity `cap` holds the values sent and not yet received, oldest
first. A send blocks while the buffer is full, and a send inside a `select` with a `default` case
drops its value instead; a receive blocks while the buffer is empty and takes the oldest value.

What a receiver has taken followed by what the buffer holds is a subsequence of what was offered
to the channel, and stays one through every send and receive (`trySend_sublist`,
`recv_append`): a channel never reorders or repeats a value, and a value goes missing only by a
non-blocking send to a full buffer (`trySend_of_lt`).
-/

namespace Dragonfly.Base.GoChan

variable {α : Type}

/-- `ch <- v` on a channel of capacity `cap`: `none` while the buffer is full. -/
def send (cap : ℕ) (buf : List α) (v : α) : Option (List α) :=
  if buf.length < cap then some (buf ++ [v]) else none

/-- `select { case ch <- v: default: }` on a channel of capacity `cap`: the value is dropped
when the buffer is full. -/
def trySend (cap : ℕ) (buf : List α) (v : α) : List α :=
  if buf.length < cap then buf ++ [v] else buf

/-- `v := <-ch`: the oldest value and the buffer after it, `none` while the buffer is empty. -/
def recv : List α → Option (α × List α)
  | [] => none
  | v :: rest => some (v, rest)

variable {cap : ℕ} {buf : List α}

theorem send_eq_some {v : α} {buf' : List α} :
    send cap buf v = some buf' ↔ buf.length < cap ∧ buf' = buf ++ [v] := by
  unfold send
  split_ifs with h
  · simp [h, eq_comm]
  · simp [h]

/-- A non-blocking send to a buffer with room delivers its value. -/
theorem trySend_of_lt (h : buf.length < cap) (v : α) : trySend cap buf v = buf ++ [v] :=
  if_pos h

/-- A non-blocking send to a full buffer drops its value. -/
theorem trySend_of_le (h : cap ≤ buf.length) (v : α) : trySend cap buf v = buf :=
  if_neg (Nat.not_lt.mpr h)

theorem recv_eq_some {v : α} {rest : List α} : recv buf = some (v, rest) ↔ buf = v :: rest := by
  cases buf with
  | nil => simp [recv]
  | cons w ws => simp [recv]

/-- Offering a value keeps what was taken and what is buffered a subsequence of what was
offered. -/
theorem trySend_sublist {taken offered : List α} (h : (taken ++ buf).Sublist offered) (v : α) :
    (taken ++ trySend cap buf v).Sublist (offered ++ [v]) := by
  by_cases hroom : buf.length < cap
  · rw [trySend_of_lt hroom, ← List.append_assoc]
    exact h.append (List.Sublist.refl [v])
  · rw [trySend_of_le (Nat.le_of_not_lt hroom)]
    exact h.trans (List.sublist_append_left offered [v])

/-- A receive moves the oldest buffered value to what was taken. -/
theorem recv_append {v : α} {rest : List α} (h : recv buf = some (v, rest)) (taken : List α) :
    taken ++ [v] ++ rest = taken ++ buf := by
  rw [recv_eq_some.mp h, List.append_assoc, List.singleton_append]

end Dragonfly.Base.GoChan
