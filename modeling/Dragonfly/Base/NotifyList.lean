import Mathlib.Data.Nat.Notation

/-!
# The wait list of Go's `sync.Cond`

`sync.Cond` keeps its waiters in a runtime `notifyList` of tickets (`runtime/sema.go`):
`Wait` takes the next ticket (`notifyListAdd`) while it still holds the lock, then releases
the lock and sleeps until its ticket has been notified (`notifyListWait`); `Signal`
(`notifyListNotifyOne`) notifies the oldest ticket not yet notified, and does nothing when
every ticket taken has been. A `Signal` therefore reaches only a waiter that has already taken
its ticket: one sent before is lost.
-/

namespace Dragonfly.Base

/-- The two counters of a `notifyList`: `wait` is the next ticket to hand out, `notify` the
next ticket to notify. -/
structure NotifyList where
  wait : ℕ
  notify : ℕ
  deriving DecidableEq, Repr

namespace NotifyList

/-- The list of a new `sync.Cond`. -/
def empty : NotifyList := ⟨0, 0⟩

/-- `notifyListAdd`: the ticket taken, and the list after. -/
def add (l : NotifyList) : ℕ × NotifyList := (l.wait, { l with wait := l.wait + 1 })

/-- `notifyListNotifyOne`: notify the oldest ticket not yet notified, if any. -/
def notifyOne (l : NotifyList) : NotifyList :=
  if l.notify = l.wait then l else { l with notify := l.notify + 1 }

/-- A waiter with ticket `t` has been notified (`less(t, l.notify)`). -/
def notified (l : NotifyList) (t : ℕ) : Bool := decide (t < l.notify)

/-- A `Signal` with no ticket waiting changes nothing. -/
theorem notifyOne_of_notify_eq_wait {l : NotifyList} (h : l.notify = l.wait) :
    l.notifyOne = l := by
  simp [notifyOne, h]

end NotifyList

end Dragonfly.Base
