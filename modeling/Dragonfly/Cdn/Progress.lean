import Dragonfly.Base.Interleave
import Dragonfly.Base.NotifyList
import Mathlib.Data.List.Sort

/-!
# Seed progress to one watcher

A watcher of a seeding task gets a `subscriber` (`cdn/supervisor/progress/progress.go`): a
map of pieces to send, filled first with the task's pieces when it subscribes, and a
goroutine `readLoop` that sends them on `pieceChan` and sleeps on a `sync.Cond` while there
are none. The seeding goroutine, under the per-task lock of the progress manager
(`manager.go`), calls `Notify` for each piece it publishes (`PublishPiece`) and `Close` when
it publishes the task (`PublishTask`, through `RemoveAllSubscribers`). The two goroutines
interleave; the watcher's consumer keeps draining `pieceChan` and its context is never
done, so a send never blocks and `ctx.Done()` is never ready.

`Notify` changes the map under the cond's lock and signals after; `Close` sets `closed` and
signals without the lock. `readLoop` reads `closed` under the lock and only then takes its
ticket in `Wait`, so a `Close` between the two signals no ticket, and `readLoop` sleeps with
nobody left to wake it.
-/

namespace Dragonfly.Cdn

open Dragonfly.Base Dragonfly.Base.Interleave

/-- Where `readLoop` (`progress.go:62`) is. -/
inductive LoopPc where
  /-- At the `select` of the `for` loop. -/
  | select
  /-- In the `default:` branch, taking `cond.L`. -/
  | lockDefault
  /-- Holding `cond.L`, at the condition of the wait loop. -/
  | check
  /-- Holding `cond.L`, inside `cond.Wait` before it takes its ticket. -/
  | enterWait
  /-- In `cond.Wait` with its ticket, `cond.L` released. -/
  | waiting (ticket : ℕ)
  /-- Woken in `cond.Wait`, taking `cond.L` back. -/
  | relock
  /-- In the `case <-sub.done:` branch with pieces left, taking `cond.L`. -/
  | lockDone
  /-- Returned: `pieceChan` is closed. -/
  | exited
  deriving DecidableEq, Repr

/-- Where the seeding goroutine is in its calls on the subscriber: `Notify` of each piece of
`rest` in turn, then `Close`. -/
inductive SeedPc where
  /-- About to `Notify` the head of `rest`, or to `Close` when there is none. -/
  | notify (rest : List UInt32)
  /-- In `Notify`, the piece stored, about to `Signal`. -/
  | notifySignal (rest : List UInt32)
  /-- In `Close`, `closed` set, about to `Signal`. -/
  | closeSignal
  /-- In `Close`, about to close `done`. -/
  | closeDone
  /-- `Close` has returned, and with it `PublishTask`. -/
  | finished
  deriving DecidableEq, Repr

/-- The two goroutines. -/
inductive Goroutine where
  | readLoop | seeding
  deriving DecidableEq, Repr

/-- A subscriber (`progress.go:31`) with its two goroutines. `pieces` are the keys of
`sub.pieces`; `sent` the piece numbers sent on `pieceChan`, in order. -/
structure Subscriber where
  pieces : List UInt32
  closed : Bool
  /-- `sub.done` has been closed. -/
  done : Bool
  /-- `cond.L` is held; only `readLoop` holds it across steps. -/
  locked : Bool
  cond : NotifyList
  loop : LoopPc
  seed : SeedPc
  sent : List UInt32
  deriving DecidableEq, Repr

namespace Subscriber

/-- `newProgressSubscriber` (`progress.go:43`) with the task's pieces `snapshot`, and the
seeding goroutine about to publish `published`. -/
def new (snapshot published : List UInt32) : Subscriber :=
  ⟨snapshot, false, false, false, NotifyList.empty, .select, .notify published, []⟩

/-- `sendPieces` (`progress.go:91`): send the pieces in increasing order and forget them. -/
def sendPieces (s : Subscriber) : Subscriber :=
  { s with
    sent := s.sent ++ s.pieces.insertionSort (· ≤ ·)
    pieces := [] }

/-- One step of `readLoop` (`progress.go:62–89`), `none` while it is blocked. -/
def readLoopStep (s : Subscriber) : Option Subscriber :=
  match s.loop with
  | .select =>
    -- a closed `done` is ready and wins over `default`
    if s.done then
      if s.pieces = [] then some { s with loop := .exited } else some { s with loop := .lockDone }
    else some { s with loop := .lockDefault }
  | .lockDefault => if s.locked then none else some { s with locked := true, loop := .check }
  | .check =>
    if s.pieces = [] ∧ s.closed = false then some { s with loop := .enterWait }
    else some { s.sendPieces with locked := false, loop := .select }
  | .enterWait =>
    some { s with cond := s.cond.add.2, locked := false, loop := .waiting s.cond.add.1 }
  | .waiting ticket => if s.cond.notified ticket then some { s with loop := .relock } else none
  | .relock => if s.locked then none else some { s with locked := true, loop := .check }
  -- take `cond.L`, send what is left and release it
  | .lockDone => if s.locked then none else some { s.sendPieces with loop := .select }
  | .exited => none

/-- One step of the seeding goroutine: `Notify` (`progress.go:106`) takes `cond.L`, stores the
piece and releases it, then signals; `Close` (`progress.go:118`) sets `closed`, signals and
closes `done`, without the lock. -/
def seedingStep (s : Subscriber) : Option Subscriber :=
  match s.seed with
  | .notify (p :: rest) =>
    if s.locked then none else some { s with pieces := s.pieces.insert p, seed := .notifySignal rest }
  | .notify [] => some { s with closed := true, seed := .closeSignal }
  | .notifySignal rest => some { s with cond := s.cond.notifyOne, seed := .notify rest }
  | .closeSignal => some { s with cond := s.cond.notifyOne, seed := .closeDone }
  | .closeDone => some { s with done := true, seed := .finished }
  | .finished => none

/-- A step of either goroutine. -/
def step : Goroutine → Subscriber → Option Subscriber
  | .readLoop => readLoopStep
  | .seeding => seedingStep

/-- The pieces stored after `Notify` of each of `ps`, from `l`. -/
def storeAll (l ps : List UInt32) : List UInt32 := ps.foldl (fun m p => m.insert p) l

theorem mem_storeAll {l ps : List UInt32} {p : UInt32} : p ∈ storeAll l ps ↔ p ∈ l ∨ p ∈ ps := by
  induction ps generalizing l with
  | nil => simp [storeAll]
  | cons q ps ih =>
    rw [storeAll, List.foldl_cons, ← storeAll, ih, List.mem_insert_iff, List.mem_cons]
    tauto

theorem nodup_storeAll {l : List UInt32} (hl : l.Nodup) (ps : List UInt32) :
    (storeAll l ps).Nodup := by
  induction ps generalizing l with
  | nil => exact hl
  | cons q ps ih =>
    rw [storeAll, List.foldl_cons, ← storeAll]
    exact ih hl.insert

/-! ### What each goroutine does at a step -/

section Steps

variable {s : Subscriber}

theorem seedingStep_notify {p : UInt32} {rest : List UInt32} (hseed : s.seed = .notify (p :: rest))
    (hlock : s.locked = false) :
    seedingStep s = some { s with pieces := s.pieces.insert p, seed := .notifySignal rest } := by
  simp [seedingStep, hseed, hlock]

theorem seedingStep_notifySignal {rest : List UInt32} (hseed : s.seed = .notifySignal rest) :
    seedingStep s = some { s with cond := s.cond.notifyOne, seed := .notify rest } := by
  simp [seedingStep, hseed]

/-- A ticket not yet notified blocks `readLoop`. -/
theorem readLoopStep_waiting {ticket : ℕ} (hloop : s.loop = .waiting ticket)
    (hn : s.cond.notified ticket = false) : readLoopStep s = none := by
  simp [readLoopStep, hloop, hn]

end Steps

/-! ### The runs -/

/-- While `readLoop` does not hold `cond.L` and no ticket is waiting, the seeding goroutine
stores each piece of `ps` in turn, and its signals do nothing. -/
theorem run_notify (ps : List UInt32) {s : Subscriber} (hseed : s.seed = .notify ps)
    (hlock : s.locked = false) (hcond : s.cond.notify = s.cond.wait) :
    run step (List.replicate (2 * ps.length) .seeding) s =
      some { s with pieces := storeAll s.pieces ps, seed := .notify [] } := by
  -- induction on the pieces left to publish, two steps of the seeding goroutine for each
  induction ps generalizing s with
  | nil =>
    cases s
    cases hseed
    rfl
  | cons p ps ih =>
    have hsignal := seedingStep_notifySignal
      (s := { s with pieces := s.pieces.insert p, seed := .notifySignal ps }) rfl
    rw [NotifyList.notifyOne_of_notify_eq_wait hcond] at hsignal
    rw [List.length_cons, show 2 * (ps.length + 1) = 2 * ps.length + 1 + 1 by omega,
      List.replicate_succ, List.replicate_succ, run_cons (seedingStep_notify hseed hlock),
      run_cons hsignal]
    exact (@ih { s with pieces := s.pieces.insert p, seed := .notify ps } rfl hlock hcond).trans rfl

/-- Where the lost wakeup leaves a subscriber: every stored piece sent, `Close` returned, and
`readLoop` asleep on ticket `0`, which no `Signal` reached. -/
def lostWakeup (snapshot published : List UInt32) : Subscriber :=
  ⟨[], true, true, false, ⟨1, 0⟩, .waiting 0, .finished,
    (storeAll snapshot published).insertionSort (· ≤ ·)⟩

/-- The seeding goroutine notifies every piece; `readLoop` sends them, finds none left and
`closed` unset, and is about to take its ticket when `Close` sets `closed` and signals; then it
takes its ticket and sleeps. -/
theorem reachable_lostWakeup (snapshot published : List UInt32) :
    Reachable step (new snapshot published) (lostWakeup snapshot published) := by
  have hnotify := run_notify published (s := new snapshot published) rfl rfl rfl
  by_cases hempty : storeAll snapshot published = []
  -- nothing to send: `readLoop` goes straight to its wait
  · have hrun : run step (List.replicate (2 * published.length) Goroutine.seeding ++
        ([.readLoop, .readLoop, .readLoop, .seeding, .seeding, .seeding, .readLoop] : List Goroutine))
        (new snapshot published) = some (lostWakeup snapshot published) := by
      rw [run_append, hnotify]
      simp only [Option.bind_some, run, step, readLoopStep, seedingStep, new, lostWakeup, hempty,
        NotifyList.empty, NotifyList.add, NotifyList.notifyOne, NotifyList.notified, if_true,
        if_false, Bool.false_eq_true, and_self]
      rfl
    exact reachable_of_run hrun
  · have hrun : run step (List.replicate (2 * published.length) Goroutine.seeding ++
        ([.readLoop, .readLoop, .readLoop, .readLoop, .readLoop, .readLoop, .seeding, .seeding,
          .seeding, .readLoop] : List Goroutine))
        (new snapshot published) = some (lostWakeup snapshot published) := by
      rw [run_append, hnotify]
      simp only [Option.bind_some, run, step, readLoopStep, seedingStep, new, lostWakeup, hempty,
        sendPieces, NotifyList.empty, NotifyList.add, NotifyList.notifyOne, NotifyList.notified,
        if_true, if_false, Bool.false_eq_true, and_self, false_and]
      rfl
    exact reachable_of_run hrun

/-- Neither goroutine can move after the lost wakeup. -/
theorem stuck_lostWakeup (snapshot published : List UInt32) :
    Stuck step (lostWakeup snapshot published) := by
  intro g
  cases g with
  | readLoop =>
    exact readLoopStep_waiting (show (lostWakeup snapshot published).loop = .waiting 0 from rfl) rfl
  | seeding => rfl

end Subscriber

/-! ### What a closed channel has delivered -/

/-- The pieces the seeding goroutine has still to `Notify`. -/
def SeedPc.rest : SeedPc → List UInt32
  | .notify rest => rest
  | .notifySignal rest => rest
  | _ => []

namespace Subscriber

variable (snapshot published : List UInt32)

/-- What every interleaving keeps: the pieces sent or waiting to be are, up to order, the
snapshot and the pieces notified so far; `done` is closed only once `Close` has returned; and
`readLoop` returns only with nothing left to send and `done` closed. -/
structure Delivery (s : Subscriber) : Prop where
  split : ∃ notified, published = notified ++ s.seed.rest ∧
    (s.sent ++ s.pieces).Perm (snapshot ++ notified)
  done : s.done = true → s.seed = .finished
  exited : s.loop = .exited → s.pieces = [] ∧ s.done = true

variable {snapshot published}

theorem delivery_new : Delivery snapshot published (new snapshot published) where
  split := ⟨[], rfl, by simp [new]⟩
  done := by simp [new]
  exited := by simp [new]

/-- Sending moves the waiting pieces, in order, to the sent ones. -/
theorem perm_sendPieces (s : Subscriber) :
    (s.sendPieces.sent ++ s.sendPieces.pieces).Perm (s.sent ++ s.pieces) := by
  simp only [sendPieces, List.append_nil]
  exact (List.perm_insertionSort _ _).append_left s.sent

@[simp] theorem seed_sendPieces (s : Subscriber) : s.sendPieces.seed = s.seed := rfl

@[simp] theorem done_sendPieces (s : Subscriber) : s.sendPieces.done = s.done := rfl

/-- A step of `readLoop` keeps the seeding goroutine, `done`, and the sent and waiting pieces up
to order; it returns only with nothing to send and `done` closed. -/
theorem readLoopStep_cases {s s' : Subscriber} (h : readLoopStep s = some s') :
    s'.seed = s.seed ∧ s'.done = s.done ∧ (s'.sent ++ s'.pieces).Perm (s.sent ++ s.pieces) ∧
      (s'.loop = .exited → s'.pieces = [] ∧ s'.done = true) := by
  cases hloop : s.loop with
  | select =>
    simp only [readLoopStep, hloop] at h
    split_ifs at h with hdone hpieces
    · cases h
      simp [hdone, hpieces]
    · cases h
      simp
    · cases h
      simp
  | lockDefault | relock =>
    simp only [readLoopStep, hloop] at h
    split_ifs at h
    cases h
    simp
  | check =>
    simp only [readLoopStep, hloop] at h
    split_ifs at h <;> cases h <;> simp [perm_sendPieces]
  | enterWait | waiting _ =>
    simp only [readLoopStep, hloop] at h
    try split_ifs at h
    cases h
    simp
  | lockDone =>
    simp only [readLoopStep, hloop] at h
    split_ifs at h
    cases h
    simp [perm_sendPieces]
  | exited => simp [readLoopStep, hloop] at h

/-- A step of the seeding goroutine keeps what was sent and where `readLoop` is; it either
stores the next piece to notify or leaves the pieces and the rest to notify alone, and closes
`done` only as `Close` returns. -/
theorem seedingStep_cases {s s' : Subscriber} (h : seedingStep s = some s') :
    s'.sent = s.sent ∧ s'.loop = s.loop ∧ s.seed ≠ .finished ∧
      (s'.done = true → s.done = true ∨ s'.seed = .finished) ∧
      ((∃ p, s.seed.rest = p :: s'.seed.rest ∧ s'.pieces = s.pieces.insert p) ∨
        (s'.seed.rest = s.seed.rest ∧ s'.pieces = s.pieces)) := by
  cases hseed : s.seed with
  | notify rest =>
    cases rest with
    | nil =>
      simp only [seedingStep, hseed] at h
      cases h
      simp [SeedPc.rest]
    | cons p rest =>
      simp only [seedingStep, hseed] at h
      split_ifs at h
      cases h
      simp [SeedPc.rest]
  | notifySignal rest | closeSignal | closeDone =>
    simp only [seedingStep, hseed] at h
    cases h
    simp [SeedPc.rest]
  | finished => simp [seedingStep, hseed] at h

/-- A new piece joins the pieces sent or waiting as one more element. -/
theorem perm_insert_of_not_mem {sent pieces l : List UInt32} {p : UInt32}
    (hperm : (sent ++ pieces).Perm l) (hp : p ∉ l) :
    (sent ++ pieces.insert p).Perm (l ++ [p]) := by
  have hnot : p ∉ pieces := fun h => hp (hperm.subset (List.mem_append_right _ h))
  rw [List.insert_of_not_mem hnot]
  exact List.perm_middle.trans ((hperm.cons p).trans (List.perm_append_singleton p l).symm)

/-- Every interleaving keeps `Delivery`, when no piece is both in the snapshot and published,
and none is published twice. -/
theorem delivery_reachable (hnd : (snapshot ++ published).Nodup) {s : Subscriber}
    (hr : Reachable step (new snapshot published) s) : Delivery snapshot published s := by
  refine Reachable.invariant delivery_new (fun g s s' hs h => ?_) hr
  obtain ⟨notified, hpub, hperm⟩ := hs.split
  cases g with
  | readLoop =>
    obtain ⟨hseed, hdone, hperm', hexit⟩ := readLoopStep_cases h
    exact {
      split := ⟨notified, by rw [hseed]; exact hpub, hperm'.trans hperm⟩
      done := fun h' => by rw [hseed]; exact hs.done (hdone ▸ h')
      exited := hexit }
  | seeding =>
    obtain ⟨hsent, hloop, hnotfin, hdone, hpieces⟩ := seedingStep_cases h
    -- `done` closed before would mean `Close` had returned already
    have hdone' : s.done = false := by
      cases hd : s.done
      · rfl
      · exact absurd (hs.done hd) hnotfin
    refine ⟨?_, fun h' => ?_, fun h' => ?_⟩
    · rcases hpieces with ⟨p, hrest, hins⟩ | ⟨hrest, hsame⟩
      · -- the piece stored is published once and not in the snapshot
        have hfresh : p ∉ snapshot ++ notified := by
          rw [hpub, hrest, ← List.append_assoc] at hnd
          have hcons := (List.nodup_cons.mp (List.nodup_middle.mp hnd)).1
          exact fun hmem => hcons (List.mem_append_left _ hmem)
        refine ⟨notified ++ [p], by rw [hpub, hrest, List.append_assoc, List.singleton_append], ?_⟩
        rw [hsent, hins, ← List.append_assoc]
        exact perm_insert_of_not_mem hperm hfresh
      · exact ⟨notified, by rw [hrest]; exact hpub, by rw [hsent, hsame]; exact hperm⟩
    · rcases hdone h' with h'' | h''
      · rw [hdone'] at h''
        cases h''
      · exact h''
    · rw [hloop] at h'
      have hclosed := (hs.exited h').2
      rw [hdone'] at hclosed
      cases hclosed

end Subscriber

section Closed

open Subscriber

/-- Whatever the interleaving, a watcher's channel that has been closed has delivered the
pieces of its snapshot and the pieces published after, each exactly once, when no piece is
published twice or both in the snapshot and published. -/
theorem watchSeedProgress_closed_delivers_once (snapshot published : List UInt32)
    (hnd : (snapshot ++ published).Nodup) {s : Subscriber}
    (hr : Reachable step (new snapshot published) s) (hexit : s.loop = .exited) :
    s.sent.Perm (snapshot ++ published) := by
  have hs := delivery_reachable hnd hr
  obtain ⟨hpieces, hdone⟩ := hs.exited hexit
  obtain ⟨notified, hpub, hperm⟩ := hs.split
  -- the channel closes only after `Close` returned, with nothing left to notify
  rw [hs.done hdone, show SeedPc.finished.rest = [] from rfl, List.append_nil] at hpub
  rw [hpieces, List.append_nil] at hperm
  rw [hpub]
  exact hperm

/-- The subscriber after piece `7` is published, sent, and the task published: `readLoop` has
returned. -/
def closedAfterSeven : Subscriber :=
  ⟨[], true, true, false, NotifyList.empty, .exited, .finished, [7]⟩

theorem watchSeedProgress_closed_delivers_once_seven :
    Reachable step (new [] [7]) closedAfterSeven ∧ closedAfterSeven.loop = .exited ∧
      closedAfterSeven.sent.Perm ([] ++ [7]) := by
  have hr : Reachable step (new [] [7]) closedAfterSeven := reachable_of_run
    (show run step [.seeding, .seeding, .readLoop, .readLoop, .readLoop, .seeding, .seeding,
      .seeding, .readLoop] (new [] [7]) = some closedAfterSeven by decide)
  exact ⟨hr, rfl, watchSeedProgress_closed_delivers_once [] [7] (by decide) hr rfl⟩

end Closed

/-! ### A watcher whose channel is never closed -/

section LeftOpen

open Subscriber

/-- For every set of pieces a watcher subscribes with and every list of pieces published
after, some interleaving of the seeding goroutine and `readLoop` ends with `PublishTask`
returned and every piece sent once, yet neither goroutine can move again, so `pieceChan` is
never closed. -/
theorem watchSeedProgress_channel_left_open (snapshot published : List UInt32)
    (hsnap : snapshot.Nodup) :
    ∃ s, Reachable step (new snapshot published) s ∧ s.seed = .finished ∧ Stuck step s ∧
      (∀ s', Reachable step s s' → s'.loop ≠ .exited) ∧
      s.sent.Nodup ∧ ∀ p, p ∈ s.sent ↔ p ∈ snapshot ∨ p ∈ published := by
  have hperm := List.perm_insertionSort (· ≤ ·) (storeAll snapshot published)
  refine ⟨lostWakeup snapshot published, reachable_lostWakeup snapshot published, rfl,
    stuck_lostWakeup snapshot published, fun s' hs' => ?_, ?_, fun p => ?_⟩
  · rw [(stuck_lostWakeup snapshot published).reachable_eq hs']
    simp [lostWakeup]
  · exact hperm.nodup_iff.mpr (nodup_storeAll hsnap published)
  · rw [lostWakeup, hperm.mem_iff, mem_storeAll]

theorem watchSeedProgress_channel_left_open_one :
    ∃ s, Reachable step (new [] [0]) s ∧ s.seed = .finished ∧ Stuck step s ∧
      (∀ s', Reachable step s s' → s'.loop ≠ .exited) ∧
      s.sent.Nodup ∧ ∀ p, p ∈ s.sent ↔ p ∈ ([] : List UInt32) ∨ p ∈ [(0 : UInt32)] :=
  watchSeedProgress_channel_left_open [] [0] List.nodup_nil

end LeftOpen

end Dragonfly.Cdn
