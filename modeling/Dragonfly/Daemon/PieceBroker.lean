import Dragonfly.Base.GoChan
import Dragonfly.Base.Interleave

/-!
# The piece broker

`pieceBroker` (`client/daemon/peer/piece_broker.go`) fans the conductor's piece notifications
out to the stream and file tasks that read a peer task. `Publish` sends a `pieceInfo` on
`publishCh`, a channel of ten; the loop of `Start` takes it and offers it to each subscriber's
channel of five with a non-blocking send, so a subscriber whose channel is full misses it.
`Subscribe` makes a channel and hands it to the loop on `subCh`, `Unsubscribe` takes it back on
`unsubCh`, and `Stop` closes `stopCh`: the loop may then return, `Publish` may return without
sending, and `Subscribe` may return a channel the loop never registered.

The loop, the publisher and the subscribers are threads of `Base.Interleave` over one state, one
step for each case of the `select`s; Go picks among ready cases at random, and here every ready
case can step. The fan-out of one message is one step: a subscriber's receive only touches its
own channel, so it commutes with the sends to the others. Each channel is named by the number of
the `Subscribe` call that made it. Beside the broker the state keeps what the publisher has
published and what each subscriber has received, and over every interleaving each subscriber
receives a subsequence of what was published, in order and none twice
(`received_sublist_published`), though not all of it (`received_sublist_published_full`).
-/

namespace Dragonfly.Daemon.Broker

open Dragonfly.Base.GoChan Dragonfly.Base.Interleave

/-- `pieceInfo` (`piece_broker.go:26–29`). -/
structure PieceInfo where
  num : Int32
  finished : Bool
  deriving DecidableEq, Repr

/-- The capacity of `publishCh` (`piece_broker.go:34`). -/
def publishChCap : ℕ := 10

/-- The capacity of the channel `Subscribe` makes (`piece_broker.go:70`). -/
def msgChCap : ℕ := 5

/-- The broker's channels and the `subs` of its loop, with the channels `Subscribe` has made,
what the publisher has published and what each subscriber has received. -/
structure State where
  /-- `stopCh` is closed. -/
  stopped : Bool
  /-- The loop of `Start` has not returned. -/
  running : Bool
  publishCh : List PieceInfo
  subs : Finset ℕ
  msgCh : ℕ → List PieceInfo
  /-- The number of channels `Subscribe` has made. -/
  made : ℕ
  published : List PieceInfo
  received : ℕ → List PieceInfo

/-- `newPieceBroker()` with `go Start()` (`piece_broker.go:31–38`,
`peertask_conductor.go:305`). -/
def init : State := ⟨false, true, [], ∅, fun _ => [], 0, [], fun _ => []⟩

/-- One case of a `select` of the broker or of a thread that calls it. -/
inductive Action where
  /-- `Publish`: the send on `publishCh`. -/
  | publish (msg : PieceInfo)
  /-- `Publish`: the `stopCh` case, which sends nothing. -/
  | publishStopped (msg : PieceInfo)
  /-- `Subscribe`: the send on `subCh`, taken by the loop. -/
  | subscribe
  /-- `Subscribe`: the `stopCh` case; the new channel is never registered. -/
  | subscribeStopped
  /-- `Unsubscribe`: the send on `unsubCh`, taken by the loop. -/
  | unsubscribe (ch : ℕ)
  /-- The loop takes a message from `publishCh` and offers it to every subscriber. -/
  | fanOut
  /-- `Stop`: `close(stopCh)`. -/
  | stop
  /-- The loop takes the `stopCh` case and returns. -/
  | exit
  /-- A subscriber takes a message from its channel. -/
  | receive (ch : ℕ)
  deriving DecidableEq, Repr

/-- What one case does, `none` while it is blocked. Closing `stopCh` twice panics, and the
conductor calls `Stop` once, under `statusOnce`, so a second `stop` has no step. -/
def step : Action → State → Option State
  | .publish msg, s =>
    (send publishChCap s.publishCh msg).map fun buf =>
      { s with publishCh := buf, published := s.published ++ [msg] }
  | .publishStopped msg, s =>
    if s.stopped then some { s with published := s.published ++ [msg] } else none
  | .subscribe, s =>
    if s.running then some { s with subs := insert s.made s.subs, made := s.made + 1 } else none
  | .subscribeStopped, s => if s.stopped then some { s with made := s.made + 1 } else none
  | .unsubscribe ch, s => if s.running then some { s with subs := s.subs.erase ch } else none
  | .fanOut, s =>
    if s.running then
      (recv s.publishCh).map fun (msg, rest) =>
        { s with
          publishCh := rest
          msgCh := fun ch =>
            if ch ∈ s.subs then trySend msgChCap (s.msgCh ch) msg else s.msgCh ch }
    else none
  | .stop, s => if s.stopped then none else some { s with stopped := true }
  | .exit, s => if s.running ∧ s.stopped then some { s with running := false } else none
  | .receive ch, s =>
    (recv (s.msgCh ch)).map fun (msg, rest) =>
      { s with
        msgCh := Function.update s.msgCh ch rest
        received := Function.update s.received ch (s.received ch ++ [msg]) }

/-! ### What every interleaving keeps -/

/-- Each subscriber's received messages followed by its channel's are a subsequence of the
messages the loop has taken from `publishCh`, and those followed by `publishCh` are a subsequence
of what was published. -/
def Inv (s : State) : Prop :=
  ∃ fanned : List PieceInfo, (fanned ++ s.publishCh).Sublist s.published ∧
    ∀ ch, (s.received ch ++ s.msgCh ch).Sublist fanned

theorem inv_init : Inv init := ⟨[], List.Sublist.slnil, fun _ => List.Sublist.slnil⟩

/-- Every case of every thread keeps the invariant. -/
theorem Inv.preserved {a : Action} {s s' : State} (h : Inv s) (hstep : step a s = some s') :
    Inv s' := by
  obtain ⟨fanned, hpub, hsubs⟩ := h
  cases a with
  | publish msg =>
    obtain ⟨buf, hsend, rfl⟩ := Option.map_eq_some_iff.mp hstep
    obtain ⟨-, rfl⟩ := send_eq_some.mp hsend
    refine ⟨fanned, ?_, hsubs⟩
    rw [← List.append_assoc]
    exact hpub.append (List.Sublist.refl [msg])
  | publishStopped msg =>
    rw [step] at hstep
    split_ifs at hstep
    cases hstep
    exact ⟨fanned, hpub.trans (List.sublist_append_left _ _), hsubs⟩
  | subscribe | subscribeStopped | unsubscribe _ | stop | exit =>
    -- the channels and the histories stay as they are
    simp only [step] at hstep
    split_ifs at hstep
    cases hstep
    exact ⟨fanned, hpub, hsubs⟩
  | fanOut =>
    rw [step] at hstep
    split_ifs at hstep
    obtain ⟨⟨msg, rest⟩, hrecv, rfl⟩ := Option.map_eq_some_iff.mp hstep
    refine ⟨fanned ++ [msg], ?_, fun ch => ?_⟩
    · rw [List.append_assoc, List.singleton_append, ← recv_eq_some.mp hrecv]
      exact hpub
    · dsimp only
      split_ifs
      · exact trySend_sublist (hsubs ch) msg
      · exact (hsubs ch).trans (List.sublist_append_left _ _)
  | receive ch =>
    obtain ⟨⟨msg, rest⟩, hrecv, rfl⟩ := Option.map_eq_some_iff.mp hstep
    refine ⟨fanned, hpub, fun ch' => ?_⟩
    by_cases hch : ch' = ch
    · subst hch
      simp only [Function.update_self]
      rw [recv_append hrecv]
      exact hsubs ch'
    · simp only [Function.update_of_ne hch]
      exact hsubs ch'

/-- Over every interleaving each subscriber receives a subsequence of what was published: the
messages in the order they were published, none twice. -/
theorem received_sublist_published {s : State} (hs : Reachable step init s) (ch : ℕ) :
    (s.received ch).Sublist s.published := by
  obtain ⟨fanned, hpub, hsubs⟩ := hs.invariant inv_init fun _ _ _ h hstep => h.preserved hstep
  have hfanned : fanned.Sublist s.published := (List.sublist_append_left _ _).trans hpub
  exact (List.sublist_append_left _ _).trans ((hsubs ch).trans hfanned)

theorem received_sublist_published_full :
    let pieces : List PieceInfo :=
      [⟨0, false⟩, ⟨1, false⟩, ⟨2, false⟩, ⟨3, false⟩, ⟨4, false⟩, ⟨5, true⟩]
    ∃ s, Reachable step init s ∧ s.published = pieces ∧ s.publishCh = [] ∧ s.msgCh 0 = [] ∧
      s.received 0 = pieces.take 5 ∧ (s.received 0).Sublist s.published := by
  intro pieces
  -- one subscriber, six messages published and fanned out to it, then five received
  let sched : List Action := .subscribe :: pieces.map .publish ++ List.replicate 6 .fanOut ++
    List.replicate 5 (.receive 0)
  obtain ⟨s, hrun, hpub, hch, hmsg, hrec⟩ : ∃ s, run step sched init = some s ∧
      s.published = pieces ∧ s.publishCh = [] ∧ s.msgCh 0 = [] ∧
      s.received 0 = pieces.take 5 :=
    ⟨_, rfl, by decide⟩
  have hs := reachable_of_run hrun
  exact ⟨s, hs, hpub, hch, hmsg, hrec, received_sublist_published hs 0⟩

end Dragonfly.Daemon.Broker
