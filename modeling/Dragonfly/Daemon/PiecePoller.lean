import Dragonfly.Daemon.Conductor

/-!
# Polling a peer for piece tasks

`client/daemon/peer/peertask_piecetask_poller.go`. `preparePieceTasks` asks the main peer of
the current peer packet for piece tasks and then its steal peers, and starts again
(`goto prepare`) when the scheduler replaced the packet meanwhile, at most
`getPiecesMaxRetry` times when that is positive. `preparePieceTasksByPeer` asks one peer
through `getPieceTasksByPeer`, which calls `GetPieceTasks` under `retry.Run` with 40
attempts, and reports a failure to the scheduler. When the peer answers
`Code_CDNTaskNotFound` and the packet is still the same object, it asks again
(`goto retry`), with no bound: a CDN that never gets the task keeps the poll asking forever
(`preparePieceTasks_never_returns`).

The poll runs against a `World`: the peer packet each `peerPacket.Load()` returns, the answer
of each `GetPieceTasks` call, whether each `Send` to the scheduler fails, and whether the
context is done at each check of `retry.Run`, each indexed by the number of these
interactions before it. The two `goto` loops take fuel; `none` is a run out of fuel. Backoff
sleeps, spans and logs are left out.
-/

namespace Dragonfly.Daemon.Poller

/-- `base.Code_BadRequest`. -/
def codeBadRequest : ℕ := 1400
/-- `base.Code_ClientPieceRequestFail`. -/
def codeClientPieceRequestFail : ℕ := 4001
/-- `base.Code_ClientWaitPieceReady`. -/
def codeClientWaitPieceReady : ℕ := 4004
/-- `base.Code_CDNTaskNotFound`. -/
def codeCDNTaskNotFound : ℕ := 6404
/-- `codes.Canceled` of gRPC. -/
def grpcCanceled : ℕ := 1
/-- `codes.Unauthenticated` of gRPC, the last of its codes. -/
def grpcUnauthenticated : ℕ := 16

/-- A destination peer of a peer packet (`PeerPacket_DestPeer`). -/
structure DestPeer where
  peerId : List Char
  deriving DecidableEq, Repr

/-- A `scheduler.PeerPacket`, with `ptr` the object it is: the poll compares packets both by
pointer and by the ID of their main peer. -/
structure PeerPacket where
  ptr : ℕ
  mainPeer : DestPeer
  stealPeers : List DestPeer
  deriving DecidableEq, Repr

/-- The fields of a `base.PiecePacket` the poll reads. -/
structure PiecePacket where
  pieceInfoCount : ℕ
  contentLength : Int64
  totalPiece : Int32
  deriving DecidableEq, Repr

/-- An error of `GetPieceTasks`: a `*dferrors.DfError` with its code, an error with a gRPC
status and its code, or another. -/
inductive PieceError where
  | df (code : ℕ)
  | grpc (code : ℕ)
  | other
  deriving DecidableEq, Repr

/-- The errors the poll returns. -/
inductive PollError where
  /-- `errPeerPacketChanged` -/
  | peerPacketChanged
  /-- `"get pieces max retry count reached"` -/
  | maxRetryReached
  /-- `dferrors.ErrEmptyValue`, after 40 empty answers -/
  | emptyValue
  /-- The error of `peerPacketStream.Send`. -/
  | send
  /-- `ctx.Err()` of a context that is done. -/
  | canceled
  | get (e : PieceError)
  deriving DecidableEq, Repr

/-- What the other parties do, at each interaction. -/
structure World where
  peerPacket : ℕ → PeerPacket
  getPieceTasks : ℕ → DestPeer → Except PieceError PiecePacket
  sendFails : ℕ → Bool
  ctxDone : ℕ → Bool

/-- The poll's trace: the interactions so far, the `GetPieceTasks` calls among them, and the
codes reported to the scheduler. -/
structure PollState where
  t : ℕ
  calls : ℕ
  reports : List ℕ
  deriving DecidableEq, Repr

variable (w : World) (pt : Conductor) (startNum : UInt32)

namespace PollState

/-- `ptc.peerPacket.Load()`. -/
def load (s : PollState) : PollState × PeerPacket :=
  ({ s with t := s.t + 1 }, w.peerPacket s.t)

/-- `dfclient.GetPieceTasks` of `peer`. -/
def call (s : PollState) (peer : DestPeer) : PollState × Except PieceError PiecePacket :=
  ({ s with t := s.t + 1, calls := s.calls + 1 }, w.getPieceTasks s.t peer)

/-- `ptc.peerPacketStream.Send` of a failed `PieceResult` with `code`: whether it fails. -/
def send (s : PollState) (code : ℕ) : PollState × Bool :=
  ({ s with t := s.t + 1, reports := s.reports ++ [code] }, w.sendFails s.t)

/-- The `ctx.Done()` check of `retry.Run`. -/
def ctxCheck (s : PollState) : PollState × Bool :=
  ({ s with t := s.t + 1 }, w.ctxDone s.t)

end PollState

/-- `retry.Run` (`retry.go:26`) over a state `σ`, with `attempts` attempts left and the
answer of the last: an attempt that succeeds or cancels ends it, and a failed one is
followed by the check `ctxDone` of the context, which ends it with `ctxErr`. -/
def retryRun {σ α ε : Type} (f : σ → σ × (Option α × Bool × Option ε))
    (ctxDone : σ → σ × Bool) (ctxErr : ε) :
    ℕ → σ → Option α × Bool × Option ε → σ × (Option α × Bool × Option ε)
  | 0, s, last => (s, last)
  | attempts + 1, s, _ =>
    match f s with
    | (s, (res, cancel, none)) => (s, (res, cancel, none))
    | (s, (res, true, some cause)) => (s, (res, true, some cause))
    | (s, (res, false, some cause)) =>
      match ctxDone s with
      | (s, true) => (s, (none, false, some ctxErr))
      | (s, false) => retryRun f ctxDone ctxErr attempts s (res, false, some cause)

/-- The function `getPieceTasksByPeer` retries (`peertask_piecetask_poller.go:162–232`), for
the packet `cur` and `peer`, with its flag `peerPacketChanged`. -/
def getPieceTasksAttempt (cur : PeerPacket) (peer : DestPeer) :
    PollState × Bool → (PollState × Bool) × (Option PiecePacket × Bool × Option PollError)
  | (s, changed) =>
    match PollState.call w s peer with
    | (s, .error e) =>
      if e = .df codeBadRequest then ((s, changed), (none, true, some (.get e)))
      else
        match PollState.load w s with
        | (s, last) =>
          if cur.mainPeer.peerId ≠ last.mainPeer.peerId then ((s, true), (none, true, none))
          else ((s, changed), (none, true, some (.get e)))
    | (s, .ok pp) =>
      if pp.pieceInfoCount > 0 then ((s, changed), (some pp, false, none))
      else if pp.contentLength > pt.contentLength ∨ pp.totalPiece > pt.totalPiece then
        ((s, changed), (some pp, false, none))
      else if pp.totalPiece > -1 ∧ pp.totalPiece.toUInt32 ≤ startNum then
        ((s, changed), (some pp, false, none))
      else
        -- an empty answer is reported as `Code_ClientWaitPieceReady`
        match PollState.send w s codeClientWaitPieceReady with
        | (s, true) => ((s, changed), (none, true, some .send))
        | (s, false) =>
          match PollState.load w s with
          | (s, last) =>
            if cur.mainPeer.peerId ≠ last.mainPeer.peerId then ((s, true), (none, true, none))
            else ((s, changed), (none, false, some .emptyValue))

/-- `getPieceTasksByPeer` (`peertask_piecetask_poller.go:151`): `GetPieceTasks` under
`retry.Run` with 40 attempts. -/
def getPieceTasksByPeer (cur : PeerPacket) (peer : DestPeer) (s : PollState) :
    PollState × Except PollError PiecePacket :=
  match retryRun (getPieceTasksAttempt w pt startNum cur peer)
      (fun sc => match PollState.ctxCheck w sc.1 with | (s, done) => ((s, sc.2), done))
      .canceled 40 (s, false) (none, false, none) with
  | ((s, true), _) => (s, .error .peerPacketChanged)
  | ((s, false), (_, _, some e)) => (s, .error e)
  | ((s, false), (some pp, _, none)) => (s, .ok pp)
  -- no attempt answers without data and error unless it set the flag
  | ((s, false), (none, _, none)) => (s, .error .peerPacketChanged)

/-- The code a failure is reported with (`peertask_piecetask_poller.go:117–122`): the code of
a `DfError` above the gRPC codes, `Code_ClientPieceRequestFail` otherwise. -/
def failureCode : PollError → ℕ
  | .get (.df code) => if code > grpcUnauthenticated then code else codeClientPieceRequestFail
  | _ => codeClientPieceRequestFail

/-- An error with the gRPC status `codes.Canceled`. -/
def PollError.isCanceledStatus : PollError → Bool
  | .get (.grpc code) => code = grpcCanceled
  | _ => false

/-- `preparePieceTasksByPeer` (`peertask_piecetask_poller.go:75`) with `fuel` passes through
`retry:`; `none` when it runs out. -/
def preparePieceTasksByPeer (cur : PeerPacket) (peer : DestPeer) :
    ℕ → PollState → PollState × Option (Except PollError PiecePacket)
  | 0, s => (s, none)
  | fuel + 1, s =>
    match getPieceTasksByPeer w pt startNum cur peer s with
    | (s, .ok p) => (s, some (.ok p))
    | (s, .error err) =>
      if err = .peerPacketChanged ∨ err.isCanceledStatus then (s, some (.error err))
      else
        match PollState.send w s (failureCode err) with
        | (s, true) => (s, some (.error .send))
        | (s, false) =>
          -- the packet is loaded only for `Code_CDNTaskNotFound`, and compared as a pointer
          if failureCode err = codeCDNTaskNotFound then
            match PollState.load w s with
            | (s, last) =>
              if cur.ptr = last.ptr then preparePieceTasksByPeer cur peer fuel s
              else (s, some (.error err))
          else (s, some (.error err))

/-- What asking one peer tells `preparePieceTasks` to do. -/
inductive Flow where
  | ret (r : Except PollError PiecePacket)
  | prepare
  | outOfFuel

variable (getPiecesMaxRetry : ℤ)

/-- The peers of one pass of `preparePieceTasks` (`peertask_piecetask_poller.go:47–71`), the
main peer first and then the steal peers, at the pass `retryCount`: the first answer ends
it, a changed packet starts a new pass unless the retries are used up, and the error of the
last peer is returned. -/
def askPeers (fuel : ℕ) (retryCount : ℤ) (cur : PeerPacket) :
    DestPeer → List DestPeer → PollState → PollState × Flow
  | peer, rest, s =>
    match preparePieceTasksByPeer w pt startNum cur peer fuel s with
    | (s, none) => (s, .outOfFuel)
    | (s, some (.ok p)) => (s, .ret (.ok p))
    | (s, some (.error e)) =>
      if e = .peerPacketChanged then
        if getPiecesMaxRetry > 0 ∧ retryCount > getPiecesMaxRetry then
          (s, .ret (.error .maxRetryReached))
        else (s, .prepare)
      else
        match rest with
        | [] => (s, .ret (.error e))
        | next :: rest => askPeers fuel retryCount cur next rest s

/-- `preparePieceTasks` (`peertask_piecetask_poller.go:40`) with `fuel` passes through
`prepare:` (and as many through `retry:` for each peer), after `retryCount` passes; `none`
when it runs out. -/
def preparePieceTasks : ℕ → ℤ → PollState → PollState × Option (Except PollError PiecePacket)
  | 0, _, s => (s, none)
  | fuel + 1, retryCount, s =>
    match PollState.load w s with
    | (s, peerPacket) =>
      match askPeers w pt startNum getPiecesMaxRetry fuel (retryCount + 1) peerPacket
          peerPacket.mainPeer peerPacket.stealPeers s with
      | (s, .ret r) => (s, some r)
      | (s, .prepare) => preparePieceTasks fuel (retryCount + 1) s
      | (s, .outOfFuel) => (s, none)

/-! ### A CDN that never has the task -/

/-- A world in which the scheduler keeps the packet `cur`, every `GetPieceTasks` answers
`Code_CDNTaskNotFound`, every report reaches the scheduler and the context is never done. -/
def cdnWithoutTask (cur : PeerPacket) : World where
  peerPacket _ := cur
  getPieceTasks _ _ := .error (.df codeCDNTaskNotFound)
  sendFails _ := false
  ctxDone _ := false

section CdnWithoutTask

variable {pt startNum} {cur : PeerPacket} {peer : DestPeer}

/-- The attempt calls once and is canceled by the error: the main peer did not change. -/
theorem getPieceTasksAttempt_cdnWithoutTask (s : PollState) :
    getPieceTasksAttempt (cdnWithoutTask cur) pt startNum cur peer (s, false) =
      ((⟨s.t + 2, s.calls + 1, s.reports⟩, false),
        (none, true, some (.get (.df codeCDNTaskNotFound)))) := by
  simp [getPieceTasksAttempt, PollState.call, PollState.load, cdnWithoutTask, codeBadRequest,
    codeCDNTaskNotFound]

/-- `retry.Run` ends after the first attempt, with its error. -/
theorem getPieceTasksByPeer_cdnWithoutTask (s : PollState) :
    getPieceTasksByPeer (cdnWithoutTask cur) pt startNum cur peer s =
      (⟨s.t + 2, s.calls + 1, s.reports⟩, .error (.get (.df codeCDNTaskNotFound))) := by
  simp [getPieceTasksByPeer, retryRun, getPieceTasksAttempt_cdnWithoutTask]

/-- One pass through `retry:` calls once, reports `Code_CDNTaskNotFound`, finds the same packet
and goes back to `retry:`. -/
theorem preparePieceTasksByPeer_cdnWithoutTask_succ (fuel : ℕ) (s : PollState) :
    preparePieceTasksByPeer (cdnWithoutTask cur) pt startNum cur peer (fuel + 1) s =
      preparePieceTasksByPeer (cdnWithoutTask cur) pt startNum cur peer fuel
        ⟨s.t + 4, s.calls + 1, s.reports ++ [codeCDNTaskNotFound]⟩ := by
  have hcode : failureCode (.get (.df codeCDNTaskNotFound)) = codeCDNTaskNotFound := by decide
  rw [preparePieceTasksByPeer, getPieceTasksByPeer_cdnWithoutTask]
  simp [PollError.isCanceledStatus, PollState.send, PollState.load, cdnWithoutTask, hcode]

/-- Every fuel runs out: one call and one report per pass. -/
theorem preparePieceTasksByPeer_cdnWithoutTask (fuel : ℕ) (s : PollState) :
    preparePieceTasksByPeer (cdnWithoutTask cur) pt startNum cur peer fuel s =
      (⟨s.t + 4 * fuel, s.calls + fuel, s.reports ++ List.replicate fuel codeCDNTaskNotFound⟩,
        none) := by
  induction fuel generalizing s with
  | zero => simp [preparePieceTasksByPeer]
  | succ fuel ih =>
    rw [preparePieceTasksByPeer_cdnWithoutTask_succ, ih]
    simp only [List.append_assoc, List.singleton_append, List.replicate_succ]
    congr 2 <;> omega

end CdnWithoutTask

/-- Whatever `getPiecesMaxRetry`, steal peers and request, a poll whose CDN never has the task
and whose scheduler keeps the packet never returns: every fuel runs out, and by then the poll
has called `GetPieceTasks` once per pass through `retry:` and reported
`Code_CDNTaskNotFound` as often. -/
theorem preparePieceTasks_never_returns (pt : Conductor) (startNum : UInt32)
    (getPiecesMaxRetry : ℤ) (cur : PeerPacket) (fuel : ℕ) (retryCount : ℤ) (s : PollState) :
    preparePieceTasks (cdnWithoutTask cur) pt startNum getPiecesMaxRetry (fuel + 1) retryCount s =
      (⟨s.t + 1 + 4 * fuel, s.calls + fuel,
        s.reports ++ List.replicate fuel codeCDNTaskNotFound⟩, none) := by
  have hload : (cdnWithoutTask cur).peerPacket s.t = cur := rfl
  rw [preparePieceTasks]
  dsimp only [PollState.load]
  rw [hload, askPeers, preparePieceTasksByPeer_cdnWithoutTask]

end Dragonfly.Daemon.Poller
