import Dragonfly.Base.GoChan
import Dragonfly.Base.Interleave
import Dragonfly.Cdn.PieceTasks
import Dragonfly.Daemon.BackSource

/-!
# Pulling pieces from peers

`pullPiecesFromPeers` (`client/daemon/peer/peertask_conductor.go:686`) and the
`downloadPieceWorker`s it starts, as threads of `Base.Interleave` over one state. Each round
of the loop asks a peer for the piece tasks from `num` on, at most `limit` of them, hands each
piece to the workers on `pieceRequestCh`, and goes on from the first piece it has not
requested; once every piece is requested it waits in `waitFailedPiece`. A worker downloads a
piece and publishes it, or puts its number on `failedPieceCh`, from which the loop takes it
at the top of a round (then asking for that one piece) or in `waitFailedPiece`. Both channels
hold `DefaultPieceChanSize = 16` values, and a worker's send of a failed piece blocks: the
source keeps the buffer of `pieceRequestCh` "same size with pt.failedPieceCh for avoiding
dead-lock".

The peers answer through their `GetPieceTasks`: the CDN's of `Cdn.PieceTasks` or the
dfdaemon's store of `Daemon.Storage`, both of which answer at most `Limit` pieces
(`Peer.length_pieceInfos_le`). Every step of the loop between two blocking points is one
step, and every case of each `select` is a step of its own; the scheduler and the other
goroutines of the conductor are one more thread, which may cancel the task at any time.

Over every interleaving with at least one worker, the loop and its workers never block each
other while the loop hands out pieces: the one place they can all wait is
`waitFailedPiece` (`pull_blocks_only_waiting_failed`). And they can wait there for good with
a piece never fetched (`failed_piece_lost`): `waitFailedPiece` returns a failed piece as the
next `num`, and the top `select` of the next round overwrites it when another piece has
failed meanwhile, while `getNextPieceNum` skips the lost piece as requested. Once the task
has finished, nothing any thread does changes how it finished or what was reported
(`status_stable`).

Left out: the `waitFirstPeerPacket` before the loop, spans, logs and metrics, the piece
results sent to the scheduler, and the broker. `requestedPieces` is a set, as
`Daemon.ReadyPieces` relates the bitmap to one below its panic bound. The poll of
`preparePieceTasks` is one answer of one peer or a failure, and a download is one answer of
the network. The codes `cancel` is called with outside `Code` (`Code_SchedError`,
`Code_ClientScheduleTimeout`, `Code_ClientRequestLimitFail`) are not recorded, and
`cancelOnce` is not kept apart from `statusOnce`.
-/

namespace Dragonfly.Daemon.Pull

open Dragonfly.Base.GoChan Dragonfly.Base.Interleave Dragonfly.Rpc Dragonfly.Digest

/-- `config.DefaultPieceChanSize` (`client/config/constants.go:73`): the capacity of
`failedPieceCh` and of `pieceRequestCh`. -/
def defaultPieceChanSize : ℕ := 16

/-- `pieceBufferSize = uint32(config.DefaultPieceChanSize)` (`peertask_conductor.go:701`), the
limit of a request for fresh pieces. -/
def pieceBufferSize : UInt32 := 16

/-! ### The peers -/

/-- A peer the poll asks for piece tasks, with what its `GetPieceTasks` reads. -/
inductive Peer where
  /-- A CDN (`cdn/rpcserver/rpcserver.go:160`) with the seed task it holds, if any. -/
  | cdn (peerId dstAddr : List Char) (task : Option Cdn.SeedTask)
  /-- A dfdaemon (`client/daemon/rpcserver/rpcserver.go:86`) uploading at `uploadAddr`, with the
  store of the task; `none` while its peer task runs without one. -/
  | daemon (peerId uploadAddr : List Char) (store : Option TaskStore)

/-- The `PeerId` the poll puts in the request's `DstPid`. -/
def Peer.peerId : Peer → List Char
  | .cdn peerId _ _ | .daemon peerId _ _ => peerId

/-- What the peer's `GetPieceTasks` answers, `none` for an error: the CDN's packet, or the
dfdaemon's `GetPieces` with its upload address, and an empty packet with unknown counts while
its peer task runs without a store (`rpcserver.go:107–121`). -/
def Peer.getPieceTasks (sha256 : List (List Char) → List Char) :
    Peer → PieceTaskRequest → Option PiecePacket
  | .cdn _ dstAddr task, req =>
    match Cdn.getPieceTasks dstAddr sha256 task req with
    | .ok pkt => some pkt
    | .error _ => none
  | .daemon _ uploadAddr (some t), req =>
    match t.getPieces req with
    | .ok pkt => some { pkt with dstAddr := uploadAddr }
    | .error _ => none
  | .daemon _ uploadAddr none, req => some ⟨req.taskId, req.dstPid, uploadAddr, [], -1, -1, []⟩

theorem toNat_toInt_toInt32_le (x : UInt32) : x.toInt32.toInt.toNat ≤ x.toNat := by
  have hint : x.toInt32.toInt = x.toBitVec.toInt := rfl
  have hnat : x.toBitVec.toNat = x.toNat := rfl
  rw [hint, BitVec.toInt_eq_toNat_cond]
  split_ifs <;> omega

/-- The dfdaemon's store answers at most `Limit` pieces. -/
theorem length_windowPieces_le (t : TaskStore) (req : PieceTaskRequest) :
    (t.windowPieces req).length ≤ req.limit.toNat :=
  calc (t.windowPieces req).length ≤ (List.range req.limit.toInt32.toInt.toNat).length :=
        List.length_filterMap_le _ _
    _ = req.limit.toInt32.toInt.toNat := List.length_range
    _ ≤ req.limit.toNat := toNat_toInt_toInt32_le _

/-- Every peer answers at most `Limit` pieces to a request with a positive `Limit`; the CDN
answers them all for `Limit = 0`. -/
theorem Peer.length_pieceInfos_le {sha256 : List (List Char) → List Char} {peer : Peer}
    {req : PieceTaskRequest} {pkt : PiecePacket} (h : peer.getPieceTasks sha256 req = some pkt)
    (hlim : 0 < req.limit) : pkt.pieceInfos.length ≤ req.limit.toNat := by
  cases peer with
  | cdn peerId dstAddr task =>
    simp only [Peer.getPieceTasks] at h
    split at h
    · next pc hpc =>
      cases h
      cases task with
      | none => simp [Cdn.getPieceTasks] at hpc
      | some t =>
        -- the loop of the CDN takes pieces while fewer than `Limit` are taken
        have hnums := Cdn.selectPieces_pieceNums hlim UInt32.zero_le
          (Cdn.selectPieces_of_getPieceTasks hpc)
        have hlen := congrArg List.length hnums
        simp only [List.length_map, List.length_take, UInt32.toNat_zero, Nat.sub_zero] at hlen
        omega
    · cases h
  | daemon peerId uploadAddr store =>
    cases store with
    | none =>
      cases h
      exact Nat.zero_le _
    | some t =>
      simp only [Peer.getPieceTasks] at h
      split at h
      · next pd hpd =>
        cases h
        rw [(TaskStore.getPieces_ok hpd).2]
        exact length_windowPieces_le t req
      · cases h

/-! ### The threads -/

/-- Where the loop of `pullPiecesFromPeers` stands. -/
inductive Main where
  /-- At the top `select` of a round, with the start and the limit of the next request. -/
  | top (num : Int32) (limit : UInt32)
  /-- In `preparePieceTasks`. -/
  | prepare (num : Int32) (limit : UInt32)
  /-- In `waitAvailablePeerPacket`, with the limit the next round keeps. -/
  | waitAvailable (limit : UInt32)
  /-- In `dispatchPieceRequest`, with the pieces of the packet not yet handed out. -/
  | dispatch (num : Int32) (pieces : List PieceInfo)
  /-- Entering `waitFailedPiece`. -/
  | waitFailed
  /-- In the `select` of `waitFailedPiece`. -/
  | waitFailedSelect
  /-- The loop has returned. -/
  | exited
  deriving DecidableEq, Repr

/-- Where a `downloadPieceWorker` stands. -/
inductive Worker where
  /-- At its `select`. -/
  | idle
  /-- Holding a request, before the check of `readyPieces`. -/
  | received (piece : PieceInfo)
  /-- Waiting on the limiter and downloading. -/
  | working (piece : PieceInfo)
  /-- Sending the number of a piece that failed on `failedPieceCh`. -/
  | failing (piece : PieceInfo)
  /-- Returned. -/
  | exited
  deriving DecidableEq, Repr

/-- The loop, its workers and the conductor they share. A `DownloadPieceRequest` is its piece:
the rest of it is the same for every request of the task. `workers` means nothing until the
first packet has started them (`initialized`). -/
structure State (n : ℕ) where
  main : Main
  pieceRequestCh : List PieceInfo
  failedPieceCh : List Int32
  workers : Fin n → Worker
  requestedPieces : Finset Int32
  initialized : Bool
  pt : Conductor
  /-- `pt.storage`, `none` until `InitStorage` registers it. -/
  storage : Option TaskStore

/-- The task has finished: `successCh` or `failCh` is closed. -/
def State.finished {n : ℕ} (s : State n) : Bool := s.pt.status.isSome

/-- The state in which the loop starts once `waitFirstPeerPacket` let it
(`peertask_conductor.go:694–703`): `num = 0`, `limit = pieceBufferSize`, nothing requested. -/
def init {n : ℕ} (pt : Conductor) (storage : Option TaskStore) : State n :=
  ⟨.top 0 pieceBufferSize, [], [], fun _ => .idle, ∅, false, pt, storage⟩

/-- A case of a `select` of the loop, or the loop's next step. -/
inductive MainAction (α : Type) where
  /-- The top `select` takes `successCh` or `failCh`. -/
  | selectFinished
  /-- The top `select` takes a failed piece: `num = failed; limit = 1`. -/
  | selectFailed
  /-- The top `select` finds no case ready. -/
  | selectDefault
  /-- `preparePieceTasks` returns the packet `peer` answers, and the round goes on to the
  dispatch. -/
  | answer (peer : Peer)
  /-- The first packet comes from `peer`, and `InitStorage` fails. -/
  | initStorageFailed (peer : Peer)
  /-- `preparePieceTasks` fails. -/
  | prepareFailed
  /-- `waitAvailablePeerPacket` takes `successCh` or `failCh`. -/
  | availableFinished
  /-- `waitAvailablePeerPacket` takes a new peer packet, and the loop goes on from piece 0. -/
  | peerReady
  /-- `waitAvailablePeerPacket` finds `peerPacketReady` closed and downloads from the source,
  whose body, length and expected digest are given. -/
  | needBackSource (body : Body α) (contentLength : Int64) (digest : List Char)
  /-- `waitAvailablePeerPacket` times out. -/
  | scheduleTimeout (body : Body α) (contentLength : Int64) (digest : List Char)
  /-- The dispatch sends its next piece on `pieceRequestCh`. -/
  | dispatchSend
  /-- The dispatch's `select` takes `successCh` or `failCh` for its next piece. -/
  | dispatchFinished
  /-- The dispatch has handed out every piece, and `getNextPieceNum` runs. -/
  | dispatchEnd
  /-- `waitFailedPiece` checks `isCompleted`. -/
  | waitFailedCheck
  /-- `waitFailedPiece` takes `successCh` or `failCh`. -/
  | waitFailedFinished
  /-- `waitFailedPiece` takes a failed piece: `limit = 1`. -/
  | waitFailedTake

/-- A case of the `select` of a worker, or the worker's next step. -/
inductive WorkerAction where
  /-- Take a request from `pieceRequestCh`. -/
  | take
  /-- Take `successCh` or `failCh`, and return. -/
  | finished
  /-- Check `readyPieces`: a ready piece is skipped. -/
  | check
  /-- The limiter refuses the piece: cancel the task and return. -/
  | limitFail
  /-- `DownloadPiece` fails. -/
  | fail
  /-- `DownloadPiece` stores the piece, which is then published. -/
  | succeed
  /-- The send on `failedPieceCh`. -/
  | sendFailed

/-- A step of the loop, of worker `i`, or of another goroutine that cancels the task. -/
inductive Action (α : Type) (n : ℕ) where
  | main (a : MainAction α)
  | worker (i : Fin n) (a : WorkerAction)
  | cancel

/-- What the threads read from the configuration and from the conductor's fixed fields. -/
structure Config (α : Type) where
  md5 : List α → List Char
  sha256 : List (List Char) → List Char
  calculateDigest : Bool
  /-- `schedulerOption.DisableAutoBackSource`. -/
  disableAutoBackSource : Bool
  /-- `pt.limiter != nil`. -/
  hasLimiter : Bool
  taskId : List Char

/-! ### The conductor's part of a round -/

/-- `&base.PieceTaskRequest{...}` of a round (`peertask_conductor.go:724–729`), with the
`DstPid` the poll sets for the peer it asks. -/
def pieceTaskRequest (taskId : List Char) (pt : Conductor) (dstPid : List Char) (num : Int32)
    (limit : UInt32) : PieceTaskRequest :=
  ⟨taskId, pt.peerID, dstPid, num.toUInt32, limit⟩

/-- `InitStorage` (`peertask_conductor.go:1109`) when registering passes: the storage the
conductor holds, or a new one with its counts. -/
def initStorage (pt : Conductor) : Option TaskStore → TaskStore
  | some t => t
  | none => TaskStore.createTask pt.peerID pt.contentLength pt.totalPiece pt.digest

/-- Change the conductor by `f` when `cond` holds of it, and save the change with
`UpdateStorage`, whose error is ignored. -/
def updateWhen (cond : Conductor → Bool) (f : Conductor → Conductor)
    (p : Conductor × TaskStore) : Conductor × TaskStore :=
  if cond p.1 then (f p.1, (f p.1).updateStorage p.2) else p

/-- The updates a packet brings (`peertask_conductor.go:747–767`): a larger total piece count,
a piece signature when there is none, and a known content length. -/
def updateFromPacket (pkt : PiecePacket) (pt : Conductor) (t : TaskStore) :
    Conductor × TaskStore :=
  (pt, t)
    |> updateWhen (fun pt => pkt.totalPiece > pt.totalPiece)
      (fun pt => { pt with totalPiece := pkt.totalPiece })
    |> updateWhen (fun pt => pkt.pieceMd5Sign ≠ [] ∧ pt.digest = [])
      (fun pt => { pt with digest := pkt.pieceMd5Sign })
    |> updateWhen (fun _ => pkt.contentLength > -1)
      (fun pt => { pt with contentLength := pkt.contentLength })

variable {α : Type} (c : Config α) {n : ℕ}

/-- A round from its packet to the first dispatch (`peertask_conductor.go:742–771,878–886`):
on the first packet `init` stores its content length and the storage; then the packet's
updates, and `Done` when it has no pieces and all bytes are in. -/
def takePacket (pkt : PiecePacket) (initialized : Bool) (pt : Conductor)
    (storage : Option TaskStore) : Conductor × TaskStore :=
  let pt := if initialized then pt else { pt with contentLength := pkt.contentLength }
  let updated := updateFromPacket pkt pt (initStorage pt storage)
  if pkt.pieceInfos = [] ∧ updated.1.isCompleted then
    updated.1.doneOnce c.calculateDigest c.sha256 updated.2
  else updated

/-- `for ; requestedPieces.IsSet(i); i++ {}` (`peertask_conductor.go:1027,1031`): the first
number from `i` on that is not requested, in `int32`. Each round passes a requested number,
so `requested.card` rounds suffice. -/
def skipRequested (requested : Finset Int32) : ℕ → Int32 → Int32
  | 0, i => i
  | rounds + 1, i => if i ∈ requested then skipRequested requested rounds (i + 1) else i

/-- `getNextPieceNum` (`peertask_conductor.go:1021`): nothing once all bytes are in; the first
piece from `cur` on not requested, searched again from `0` when that is past a known total
piece count. -/
def getNextPieceNum (pt : Conductor) (requested : Finset Int32) (cur : Int32) : Option Int32 :=
  if pt.isCompleted then none
  else
    let i := skipRequested requested requested.card cur
    if 0 < pt.totalPiece ∧ i ≥ pt.totalPiece then
      let i := skipRequested requested requested.card 0
      if 0 < pt.totalPiece ∧ i ≥ pt.totalPiece then none else some i
    else some i

/-- `cancel` with a code `Code` does not name: the failed code is left as it is. -/
def cancelUnlisted (pt : Conductor) : Conductor := pt.cancel pt.failedCode

/-- What a successful `DownloadPiece` leaves in the storage (`piece_manager.go:150–170`): the
piece as the request describes it, unless the storage holds it already. The MD5 the storage
takes from the bytes when the request has none is left out. -/
def storePiece (t : TaskStore) (p : PieceInfo) : TaskStore :=
  match t.pieces p.pieceNum with
  | some _ => t
  | none =>
    t.setPiece p.pieceNum
      ⟨p.pieceNum, p.pieceMd5, p.pieceOffset,
        ⟨p.rangeStart.toInt64, p.rangeSize.toUInt64.toInt64⟩, 0⟩

/-- `backSource` from `waitAvailablePeerPacket` (`peertask_conductor.go:370`), and the loop
returns. -/
def State.backSource (s : State n) (body : Body α) (contentLength : Int64) (digest : List Char) :
    State n :=
  let run := Daemon.backSource c.md5 c.sha256 c.calculateDigest s.pt s.storage body contentLength
    digest
  { s with main := .exited, pt := run.1, storage := some run.2 }

/-- A step of the loop of `pullPiecesFromPeers` (`peertask_conductor.go:705–788`) with the
functions it calls; `none` while it is blocked or the case is not ready. -/
def mainStep (a : MainAction α) (s : State n) : Option (State n) :=
  match a, s.main with
  | .selectFinished, .top _ _ => if s.finished then some { s with main := .exited } else none
  | .selectFailed, .top _ _ =>
    (recv s.failedPieceCh).map fun (failed, rest) =>
      { s with main := .prepare failed 1, failedPieceCh := rest }
  | .selectDefault, .top num limit =>
    if s.failedPieceCh = [] ∧ s.finished = false then some { s with main := .prepare num limit }
    else none
  | .answer peer, .prepare num limit =>
    (peer.getPieceTasks c.sha256 (pieceTaskRequest c.taskId s.pt peer.peerId num limit)).map
      fun pkt =>
        let (pt, t) := takePacket c pkt s.initialized s.pt s.storage
        { s with
          main := .dispatch num pkt.pieceInfos
          initialized := true
          pt := pt
          storage := some t }
  | .initStorageFailed peer, .prepare num limit =>
    if s.initialized = false ∧ s.storage = none then
      (peer.getPieceTasks c.sha256 (pieceTaskRequest c.taskId s.pt peer.peerId num limit)).map
        fun pkt =>
          { s with
            main := .exited
            initialized := true
            pt := Conductor.cancel .clientError { s.pt with contentLength := pkt.contentLength } }
    else none
  | .prepareFailed, .prepare _ limit => some { s with main := .waitAvailable limit }
  | .availableFinished, .waitAvailable _ =>
    if s.finished then some { s with main := .exited } else none
  | .peerReady, .waitAvailable limit => some { s with main := .top 0 limit }
  | .needBackSource body contentLength digest, .waitAvailable _ =>
    some (s.backSource c body contentLength digest)
  | .scheduleTimeout body contentLength digest, .waitAvailable _ =>
    if c.disableAutoBackSource then some { s with main := .exited, pt := cancelUnlisted s.pt }
    else some (s.backSource c body contentLength digest)
  | .dispatchSend, .dispatch num (p :: ps) =>
    (send defaultPieceChanSize s.pieceRequestCh p).map fun buf =>
      { s with
        main := .dispatch num ps
        pieceRequestCh := buf
        requestedPieces := insert p.pieceNum s.requestedPieces }
  | .dispatchFinished, .dispatch num (p :: ps) =>
    if s.finished then
      some { s with
        main := .dispatch num ps
        requestedPieces := insert p.pieceNum s.requestedPieces }
    else none
  | .dispatchEnd, .dispatch num [] =>
    match getNextPieceNum s.pt s.requestedPieces num with
    | some i => some { s with main := .top i pieceBufferSize }
    | none => some { s with main := .waitFailed }
  | .waitFailedCheck, .waitFailed =>
    some { s with main := if s.pt.isCompleted then .exited else .waitFailedSelect }
  | .waitFailedFinished, .waitFailedSelect =>
    if s.finished then some { s with main := .exited } else none
  | .waitFailedTake, .waitFailedSelect =>
    (recv s.failedPieceCh).map fun (failed, rest) =>
      { s with main := .top failed 1, failedPieceCh := rest }
  | _, _ => none

/-- Worker `i` moved to `w`. -/
def State.setWorker (s : State n) (i : Fin n) (w : Worker) : State n :=
  { s with workers := Function.update s.workers i w }

/-- A step of `downloadPieceWorker` `i` (`peertask_conductor.go:932`); `none` while it is
blocked or the case is not ready. -/
def workerStep (i : Fin n) (a : WorkerAction) (s : State n) : Option (State n) :=
  match a, s.workers i with
  | .take, .idle =>
    (recv s.pieceRequestCh).map fun (p, rest) =>
      { s.setWorker i (.received p) with pieceRequestCh := rest }
  | .finished, .idle => if s.finished then some (s.setWorker i .exited) else none
  | .check, .received p =>
    some (s.setWorker i (if p.pieceNum ∈ s.pt.readyPieces then .idle else .working p))
  | .limitFail, .working _ =>
    if c.hasLimiter then some { s.setWorker i .exited with pt := cancelUnlisted s.pt } else none
  | .fail, .working p => some (s.setWorker i (.failing p))
  | .succeed, .working p =>
    s.storage.map fun t =>
      let (pt, t) := s.pt.publishPieceInfo c.calculateDigest c.sha256 (storePiece t p) p.pieceNum
        p.rangeSize
      { s.setWorker i .idle with pt := pt, storage := some t }
  | .sendFailed, .failing p =>
    (send defaultPieceChanSize s.failedPieceCh p.pieceNum).map fun buf =>
      { s.setWorker i .idle with failedPieceCh := buf }
  | _, _ => none

/-- A step of any thread. The workers start with the first packet. -/
def step : Action α n → State n → Option (State n)
  | .main a, s => mainStep c a s
  | .worker i a, s => if s.initialized then workerStep c i a s else none
  | .cancel, s => some { s with pt := cancelUnlisted s.pt }

/-! ### Peers and a configuration to run the threads with -/

/-- A configuration without digests, limiter or back-source switch. -/
def plainConfig : Config Unit := ⟨fun _ => [], fun _ => [], false, false, false, ['t']⟩

/-- A dfdaemon that holds both four-byte pieces of an eight-byte task. -/
def twoPiecePeer : Peer :=
  .daemon ['p'] ['a'] (some ⟨['p'], 8, 2,
    fun k => if k = 0 then some ⟨0, [], 0, ⟨0, 4⟩, 0⟩ else if k = 1 then some ⟨1, [], 4, ⟨4, 4⟩, 0⟩
      else none, [], false⟩)

/-- A dfdaemon that holds the same two pieces of a task whose length it does not know yet. -/
def unknownLengthPeer : Peer :=
  .daemon ['q'] ['b'] (some ⟨['q'], -1, -1,
    fun k => if k = 0 then some ⟨0, [], 0, ⟨0, 4⟩, 0⟩ else if k = 1 then some ⟨1, [], 4, ⟨4, 4⟩, 0⟩
      else none, [], false⟩)

/-! ### Finishing once -/

section Finishing

variable {st : Status} {r : Option PeerResult} {pt : Conductor}

/-- The task has finished with `st` and reported `r`. -/
def Finished (st : Status) (r : Option PeerResult) (pt : Conductor) : Prop :=
  pt.status = some st ∧ pt.peerResult = r

theorem Finished.cancel (h : Finished st r pt) (code : Code) : Finished st r (pt.cancel code) := by
  unfold Conductor.cancel
  rw [if_pos (by simp [h.1])]
  exact h

theorem Finished.doneOnce (h : Finished st r pt) (calculateDigest : Bool)
    (sha256 : List (List Char) → List Char) (t : TaskStore) :
    Finished st r (pt.doneOnce calculateDigest sha256 t).1 := by
  rw [Conductor.doneOnce_of_status calculateDigest sha256 h.1]
  exact h

theorem Finished.publishPieceInfo (h : Finished st r pt) (calculateDigest : Bool)
    (sha256 : List (List Char) → List Char) (t : TaskStore) (pieceNum : Int32) (size : UInt32) :
    Finished st r (pt.publishPieceInfo calculateDigest sha256 t pieceNum size).1 := by
  unfold Conductor.publishPieceInfo
  split_ifs
  · exact h
  · dsimp only
    split_ifs
    · -- the new piece keeps the status and the result
      apply Finished.doneOnce
      exact h
    · exact h

section BackSource

variable (md5 : List α → List Char) (sha256 : List (List Char) → List Char) (calculateDigest : Bool)

theorem Finished.knownLengthLoop {contentLength : Int64} {pieceSize : UInt32}
    {maxPieceNum : Int32} (rounds : ℕ) {pieceNum : Int32} {s : Run α} (h : Finished st r s.pt) :
    Finished st r (Daemon.knownLengthLoop md5 sha256 calculateDigest contentLength pieceSize
      maxPieceNum rounds pieceNum s).1.pt := by
  induction rounds generalizing pieceNum s with
  | zero => exact h
  | succ rounds ih =>
    rw [Daemon.knownLengthLoop]
    by_cases hlt : pieceNum < maxPieceNum
    · rw [if_pos hlt]
      dsimp only
      -- a failed or short write ends the loop; a full one publishes and goes on
      obtain ⟨⟨t, rd⟩, res⟩ := processPieceFromSource md5 sha256 calculateDigest s.store s.reader
        contentLength pieceNum _ _ _
      cases res with
      | error e => exact h
      | ok n =>
        dsimp only
        split
        · exact h
        · exact ih (h.publishPieceInfo calculateDigest sha256 _ _ _)
    · rw [if_neg hlt]
      exact h

theorem Finished.unknownLengthLoop {pieceSize : UInt32} (rounds : ℕ) {pieceNum : Int32}
    {s : Run α} (h : Finished st r s.pt) :
    Finished st r (Daemon.unknownLengthLoop md5 sha256 calculateDigest pieceSize rounds pieceNum
      s).1.pt := by
  induction rounds generalizing pieceNum s with
  | zero => exact h
  | succ rounds ih =>
    rw [Daemon.unknownLengthLoop]
    dsimp only
    obtain ⟨⟨t, rd⟩, res⟩ := processPieceFromSource md5 sha256 calculateDigest s.store s.reader
      (-1) pieceNum _ _ _
    cases res with
    | error e => exact h
    | ok n =>
      dsimp only
      split_ifs
      · exact ih (h.publishPieceInfo calculateDigest sha256 _ _ _)
      · exact h
      · exact h
      · -- the last, short piece is published after the counts are fixed
        apply Finished.publishPieceInfo
        exact h

theorem Finished.downloadUnknownLengthSource (s : Run α) (pieceSize : UInt32)
    (h : Finished st r s.pt) :
    Finished st r
      (Daemon.downloadUnknownLengthSource md5 sha256 calculateDigest s pieceSize).1.pt := by
  have hloop : Finished st r (Daemon.unknownLengthLoop md5 sha256 calculateDigest pieceSize
      (s.reader.body.rest.length + 1) 0 s).1.pt :=
    Finished.unknownLengthLoop md5 sha256 calculateDigest _ h
  unfold Daemon.downloadUnknownLengthSource
  split
  · next s' contentLength heq =>
    rw [heq] at hloop
    exact hloop
  · next s' e heq =>
    rw [heq] at hloop
    exact hloop

theorem Finished.downloadSource (h : Finished st r pt) (t : TaskStore) (body : Body α)
    (contentLength : Int64) (digest : List Char) :
    Finished st r (Daemon.downloadSource md5 sha256 calculateDigest pt t body contentLength
      digest).1.pt := by
  unfold Daemon.downloadSource
  by_cases hneg : contentLength < 0
  · simp only [hneg, ↓reduceIte]
    exact Finished.downloadUnknownLengthSource md5 sha256 calculateDigest _ _ h
  · simp only [hneg, ↓reduceIte]
    exact Finished.knownLengthLoop md5 sha256 calculateDigest _ h

/-- Downloading from the source once the task has finished keeps how it finished: the run
publishes through `Done`, and ends with `cancel` or `Done`. -/
theorem Finished.backSource (h : Finished st r pt) (storage : Option TaskStore) (body : Body α)
    (contentLength : Int64) (digest : List Char) :
    Finished st r (Daemon.backSource md5 sha256 calculateDigest pt storage body contentLength
      digest).1 := by
  have h' : Finished st r { pt with contentLength := -1 } := h
  have hrun := Finished.downloadSource md5 sha256 calculateDigest h'
    (storage.getD (TaskStore.createTask pt.peerID (-1) pt.totalPiece pt.digest)) body
    contentLength digest
  unfold Daemon.backSource
  dsimp only
  split
  · next s' e heq =>
    rw [heq] at hrun
    exact hrun.cancel .clientError
  · next s' heq =>
    rw [heq] at hrun
    exact hrun.doneOnce calculateDigest sha256 _

end BackSource

theorem Finished.updateWhen {cond : Conductor → Bool} {f : Conductor → Conductor}
    {p : Conductor × TaskStore} (h : Finished st r p.1)
    (hf : ∀ pt, Finished st r pt → Finished st r (f pt)) :
    Finished st r (updateWhen cond f p).1 := by
  unfold Pull.updateWhen
  split_ifs
  · exact hf _ h
  · exact h

theorem Finished.updateFromPacket (h : Finished st r pt) (pkt : PiecePacket) (t : TaskStore) :
    Finished st r (updateFromPacket pkt pt t).1 := by
  unfold Pull.updateFromPacket
  -- each update sets a count or the digest, never the status or the result
  refine Finished.updateWhen (Finished.updateWhen (Finished.updateWhen h ?_) ?_) ?_ <;>
    exact fun _ h => h

theorem Finished.takePacket (h : Finished st r pt) (pkt : PiecePacket) (initialized : Bool)
    (storage : Option TaskStore) : Finished st r (takePacket c pkt initialized pt storage).1 := by
  unfold Pull.takePacket
  dsimp only
  -- the first packet only sets the content length
  have hinit : Finished st r
      (if initialized then pt else { pt with contentLength := pkt.contentLength }) := by
    split_ifs <;> exact h
  generalize (if initialized then pt else { pt with contentLength := pkt.contentLength }) = pt₀
    at hinit ⊢
  have hpkt := hinit.updateFromPacket pkt (initStorage pt₀ storage)
  split_ifs
  · exact hpkt.doneOnce c.calculateDigest c.sha256 _
  · exact hpkt

end Finishing

/-! ### What a step can do -/

section Steps

variable {s s' : State n}

theorem mainStep_of_top {a : MainAction α} {num : Int32} {limit : UInt32}
    (hm : s.main = .top num limit) (h : mainStep c a s = some s') :
    (s.finished = true ∧ s' = { s with main := .exited }) ∨
    (∃ failed rest, s.failedPieceCh = failed :: rest ∧
      s' = { s with main := .prepare failed 1, failedPieceCh := rest }) ∨
    (s.failedPieceCh = [] ∧ s.finished = false ∧ s' = { s with main := .prepare num limit }) := by
  unfold mainStep at h
  rw [hm] at h
  cases a with
  | selectFinished =>
    simp only [Option.ite_none_right_eq_some, Option.some.injEq] at h
    exact .inl ⟨h.1, h.2.symm⟩
  | selectFailed =>
    obtain ⟨⟨failed, rest⟩, hrecv, rfl⟩ := Option.map_eq_some_iff.mp h
    exact .inr (.inl ⟨failed, rest, recv_eq_some.mp hrecv, rfl⟩)
  | selectDefault =>
    simp only [Option.ite_none_right_eq_some, Option.some.injEq] at h
    exact .inr (.inr ⟨h.1.1, h.1.2, h.2.symm⟩)
  | _ => cases h

/-- The packet `peer` answers the request of a round from `num` for `limit` pieces. -/
def State.answerOf (s : State n) (peer : Peer) (num : Int32) (limit : UInt32) :
    Option PiecePacket :=
  peer.getPieceTasks c.sha256 (pieceTaskRequest c.taskId s.pt peer.peerId num limit)

theorem mainStep_of_prepare {a : MainAction α} {num : Int32} {limit : UInt32}
    (hm : s.main = .prepare num limit) (h : mainStep c a s = some s') :
    (∃ peer pkt, s.answerOf c peer num limit = some pkt ∧
      s' = { s with
        main := .dispatch num pkt.pieceInfos
        initialized := true
        pt := (takePacket c pkt s.initialized s.pt s.storage).1
        storage := some (takePacket c pkt s.initialized s.pt s.storage).2 }) ∨
    (∃ peer pkt, s.answerOf c peer num limit = some pkt ∧ s.initialized = false ∧
      s.storage = none ∧
      s' = { s with
        main := .exited
        initialized := true
        pt := Conductor.cancel .clientError { s.pt with contentLength := pkt.contentLength } }) ∨
    s' = { s with main := .waitAvailable limit } := by
  unfold mainStep at h
  rw [hm] at h
  cases a with
  | answer peer =>
    obtain ⟨pkt, hpkt, rfl⟩ := Option.map_eq_some_iff.mp h
    exact .inl ⟨peer, pkt, hpkt, rfl⟩
  | initStorageFailed peer =>
    simp only [Option.ite_none_right_eq_some] at h
    obtain ⟨⟨hinit, hstorage⟩, h⟩ := h
    obtain ⟨pkt, hpkt, rfl⟩ := Option.map_eq_some_iff.mp h
    exact .inr (.inl ⟨peer, pkt, hpkt, hinit, hstorage, rfl⟩)
  | prepareFailed =>
    cases h
    exact .inr (.inr rfl)
  | _ => cases h

theorem mainStep_of_waitAvailable {a : MainAction α} {limit : UInt32}
    (hm : s.main = .waitAvailable limit) (h : mainStep c a s = some s') :
    (s.finished = true ∧ s' = { s with main := .exited }) ∨
    s' = { s with main := .top 0 limit } ∨
    (∃ body contentLength digest, s' = s.backSource c body contentLength digest) ∨
    (c.disableAutoBackSource = true ∧
      s' = { s with main := .exited, pt := cancelUnlisted s.pt }) := by
  unfold mainStep at h
  rw [hm] at h
  cases a with
  | availableFinished =>
    simp only [Option.ite_none_right_eq_some, Option.some.injEq] at h
    exact .inl ⟨h.1, h.2.symm⟩
  | peerReady =>
    cases h
    exact .inr (.inl rfl)
  | needBackSource body contentLength digest =>
    cases h
    exact .inr (.inr (.inl ⟨body, contentLength, digest, rfl⟩))
  | scheduleTimeout body contentLength digest =>
    dsimp only at h
    split_ifs at h with hdisable
    · cases h
      exact .inr (.inr (.inr ⟨hdisable, rfl⟩))
    · cases h
      exact .inr (.inr (.inl ⟨body, contentLength, digest, rfl⟩))
  | _ => cases h

theorem mainStep_of_dispatch_cons {a : MainAction α} {num : Int32} {p : PieceInfo}
    {ps : List PieceInfo} (hm : s.main = .dispatch num (p :: ps)) (h : mainStep c a s = some s') :
    (s.pieceRequestCh.length < defaultPieceChanSize ∧
      s' = { s with
        main := .dispatch num ps
        pieceRequestCh := s.pieceRequestCh ++ [p]
        requestedPieces := insert p.pieceNum s.requestedPieces }) ∨
    (s.finished = true ∧
      s' = { s with
        main := .dispatch num ps
        requestedPieces := insert p.pieceNum s.requestedPieces }) := by
  unfold mainStep at h
  rw [hm] at h
  cases a with
  | dispatchSend =>
    obtain ⟨buf, hsend, rfl⟩ := Option.map_eq_some_iff.mp h
    obtain ⟨hroom, rfl⟩ := send_eq_some.mp hsend
    exact .inl ⟨hroom, rfl⟩
  | dispatchFinished =>
    simp only [Option.ite_none_right_eq_some, Option.some.injEq] at h
    exact .inr ⟨h.1, h.2.symm⟩
  | _ => cases h

theorem mainStep_of_dispatch_nil {a : MainAction α} {num : Int32}
    (hm : s.main = .dispatch num []) (h : mainStep c a s = some s') :
    (∃ i, getNextPieceNum s.pt s.requestedPieces num = some i ∧
      s' = { s with main := .top i pieceBufferSize }) ∨
    (getNextPieceNum s.pt s.requestedPieces num = none ∧ s' = { s with main := .waitFailed }) := by
  unfold mainStep at h
  rw [hm] at h
  cases a with
  | dispatchEnd =>
    dsimp only at h
    split at h
    · next i hnext =>
      cases h
      exact .inl ⟨i, hnext, rfl⟩
    · next hnext =>
      cases h
      exact .inr ⟨hnext, rfl⟩
  | _ => cases h

theorem mainStep_of_waitFailed {a : MainAction α} (hm : s.main = .waitFailed)
    (h : mainStep c a s = some s') :
    s' = { s with main := if s.pt.isCompleted then .exited else .waitFailedSelect } := by
  unfold mainStep at h
  rw [hm] at h
  cases a with
  | waitFailedCheck =>
    cases h
    rfl
  | _ => cases h

theorem mainStep_of_waitFailedSelect {a : MainAction α} (hm : s.main = .waitFailedSelect)
    (h : mainStep c a s = some s') :
    (s.finished = true ∧ s' = { s with main := .exited }) ∨
    (∃ failed rest, s.failedPieceCh = failed :: rest ∧
      s' = { s with main := .top failed 1, failedPieceCh := rest }) := by
  unfold mainStep at h
  rw [hm] at h
  cases a with
  | waitFailedFinished =>
    simp only [Option.ite_none_right_eq_some, Option.some.injEq] at h
    exact .inl ⟨h.1, h.2.symm⟩
  | waitFailedTake =>
    obtain ⟨⟨failed, rest⟩, hrecv, rfl⟩ := Option.map_eq_some_iff.mp h
    exact .inr ⟨failed, rest, recv_eq_some.mp hrecv, rfl⟩
  | _ => cases h

theorem mainStep_of_exited {a : MainAction α} (hm : s.main = .exited) : mainStep c a s = none := by
  unfold mainStep
  rw [hm]
  cases a <;> rfl

variable {i : Fin n}

theorem workerStep_of_idle {a : WorkerAction} (hw : s.workers i = .idle)
    (h : workerStep c i a s = some s') :
    (∃ p rest, s.pieceRequestCh = p :: rest ∧
      s' = { s.setWorker i (.received p) with pieceRequestCh := rest }) ∨
    (s.finished = true ∧ s' = s.setWorker i .exited) := by
  unfold workerStep at h
  rw [hw] at h
  cases a with
  | take =>
    obtain ⟨⟨p, rest⟩, hrecv, rfl⟩ := Option.map_eq_some_iff.mp h
    exact .inl ⟨p, rest, recv_eq_some.mp hrecv, rfl⟩
  | finished =>
    simp only [Option.ite_none_right_eq_some, Option.some.injEq] at h
    exact .inr ⟨h.1, h.2.symm⟩
  | _ => cases h

theorem workerStep_of_received {a : WorkerAction} {p : PieceInfo}
    (hw : s.workers i = .received p) (h : workerStep c i a s = some s') :
    s' = s.setWorker i (if p.pieceNum ∈ s.pt.readyPieces then .idle else .working p) := by
  unfold workerStep at h
  rw [hw] at h
  cases a with
  | check =>
    cases h
    rfl
  | _ => cases h

theorem workerStep_of_working {a : WorkerAction} {p : PieceInfo}
    (hw : s.workers i = .working p) (h : workerStep c i a s = some s') :
    (c.hasLimiter = true ∧ s' = { s.setWorker i .exited with pt := cancelUnlisted s.pt }) ∨
    s' = s.setWorker i (.failing p) ∨
    (∃ t, s.storage = some t ∧
      s' = { s.setWorker i .idle with
        pt := (s.pt.publishPieceInfo c.calculateDigest c.sha256 (storePiece t p) p.pieceNum
          p.rangeSize).1
        storage := some (s.pt.publishPieceInfo c.calculateDigest c.sha256 (storePiece t p)
          p.pieceNum p.rangeSize).2 }) := by
  unfold workerStep at h
  rw [hw] at h
  cases a with
  | limitFail =>
    simp only [Option.ite_none_right_eq_some, Option.some.injEq] at h
    exact .inl ⟨h.1, h.2.symm⟩
  | fail =>
    cases h
    exact .inr (.inl rfl)
  | succeed =>
    obtain ⟨t, ht, rfl⟩ := Option.map_eq_some_iff.mp h
    exact .inr (.inr ⟨t, ht, rfl⟩)
  | _ => cases h

theorem workerStep_of_failing {a : WorkerAction} {p : PieceInfo}
    (hw : s.workers i = .failing p) (h : workerStep c i a s = some s') :
    s.failedPieceCh.length < defaultPieceChanSize ∧
      s' = { s.setWorker i .idle with failedPieceCh := s.failedPieceCh ++ [p.pieceNum] } := by
  unfold workerStep at h
  rw [hw] at h
  cases a with
  | sendFailed =>
    obtain ⟨buf, hsend, rfl⟩ := Option.map_eq_some_iff.mp h
    obtain ⟨hroom, rfl⟩ := send_eq_some.mp hsend
    exact ⟨hroom, rfl⟩
  | _ => cases h

theorem workerStep_of_exited {a : WorkerAction} (hw : s.workers i = .exited) :
    workerStep c i a s = none := by
  unfold workerStep
  rw [hw]
  cases a <;> rfl

end Steps

/-! ### How the task finishes -/

section Finish

variable {s s' : State n} {a : Action α n} {st : Status} {r : Option PeerResult}

/-- No thread changes how the task finished: the source runs `done` and `fail` under
`statusOnce`, and every call after the first does nothing. -/
theorem Finished.step (h : Finished st r s.pt) (hstep : step c a s = some s') :
    Finished st r s'.pt := by
  cases a with
  | main a =>
    cases hm : s.main with
    | top num limit =>
      rcases mainStep_of_top c hm hstep with ⟨-, rfl⟩ | ⟨_, _, -, rfl⟩ | ⟨-, -, rfl⟩ <;> exact h
    | prepare num limit =>
      rcases mainStep_of_prepare c hm hstep with ⟨-, pkt, -, rfl⟩ | ⟨-, -, -, -, -, rfl⟩ | rfl
      · exact h.takePacket c pkt _ _
      · -- the first packet's content length is stored before `InitStorage` fails
        apply Finished.cancel
        exact h
      · exact h
    | waitAvailable limit =>
      rcases mainStep_of_waitAvailable c hm hstep with
        ⟨-, rfl⟩ | rfl | ⟨body, contentLength, digest, rfl⟩ | ⟨-, rfl⟩
      · exact h
      · exact h
      · exact h.backSource c.md5 c.sha256 c.calculateDigest _ body contentLength digest
      · exact h.cancel _
    | dispatch num pieces =>
      cases pieces with
      | nil => rcases mainStep_of_dispatch_nil c hm hstep with ⟨_, -, rfl⟩ | ⟨-, rfl⟩ <;> exact h
      | cons p ps =>
        rcases mainStep_of_dispatch_cons c hm hstep with ⟨-, rfl⟩ | ⟨-, rfl⟩ <;> exact h
    | waitFailed =>
      rw [mainStep_of_waitFailed c hm hstep]
      exact h
    | waitFailedSelect =>
      rcases mainStep_of_waitFailedSelect c hm hstep with ⟨-, rfl⟩ | ⟨_, _, -, rfl⟩ <;> exact h
    | exited =>
      rw [step, mainStep_of_exited c hm] at hstep
      cases hstep
  | worker i a =>
    rw [step] at hstep
    split_ifs at hstep
    cases hw : s.workers i with
    | idle =>
      rcases workerStep_of_idle c hw hstep with ⟨_, _, -, rfl⟩ | ⟨-, rfl⟩ <;> exact h
    | received p =>
      rw [workerStep_of_received c hw hstep]
      exact h
    | working p =>
      rcases workerStep_of_working c hw hstep with ⟨-, rfl⟩ | rfl | ⟨t, -, rfl⟩
      · exact h.cancel _
      · exact h
      · exact h.publishPieceInfo c.calculateDigest c.sha256 _ _ _
    | failing p =>
      rw [(workerStep_of_failing c hw hstep).2]
      exact h
    | exited =>
      rw [workerStep_of_exited c hw] at hstep
      cases hstep
  | cancel =>
    cases hstep
    exact h.cancel _

/-- A finished task stays finished. -/
theorem finished_step (h : s.finished = true) (hstep : step c a s = some s') :
    s'.finished = true := by
  obtain ⟨st, hst⟩ := Option.isSome_iff_exists.mp h
  have hfin : Finished st s.pt.peerResult s.pt := ⟨hst, rfl⟩
  exact Option.isSome_iff_exists.mpr ⟨st, (hfin.step c hstep).1⟩

end Finish

/-! ### The load on the channels -/

section Load

/-- What the loop owes the channels in its round: the pieces it asked for, then the pieces of
the packet it has not handed out. -/
def Main.pending : Main → ℕ
  | .prepare _ limit => limit.toNat
  | .dispatch _ pieces => pieces.length
  | _ => 0

/-- A round asks for at least one piece and at most `pieceBufferSize`. -/
def Main.LimitOk : Main → Prop
  | .top _ limit | .prepare _ limit | .waitAvailable limit =>
    0 < limit.toNat ∧ limit.toNat ≤ defaultPieceChanSize
  | _ => True

/-- One for a worker that holds a piece it took from `pieceRequestCh`. -/
def Worker.load : Worker → ℕ
  | .received _ | .working _ | .failing _ => 1
  | _ => 0

/-- The pieces the workers hold. -/
def held (w : Fin n → Worker) : ℕ := ∑ i, (w i).load

theorem Worker.load_le_one (w : Worker) : w.load ≤ 1 := by
  cases w <;> simp [Worker.load]

theorem held_le (w : Fin n → Worker) : held w ≤ n := by
  calc held w ≤ ∑ _i : Fin n, 1 := Finset.sum_le_sum fun i _ => (w i).load_le_one
    _ = n := by simp

/-- Moving one worker changes the count by its own load. -/
theorem held_update (w : Fin n → Worker) (i : Fin n) (x : Worker) :
    held (Function.update w i x) + (w i).load = held w + x.load := by
  unfold held
  rw [← Finset.add_sum_erase _ _ (Finset.mem_univ i),
    ← Finset.add_sum_erase _ _ (Finset.mem_univ i), Function.update_self]
  have hrest : ∑ j ∈ Finset.univ.erase i, (Function.update w i x j).load =
      ∑ j ∈ Finset.univ.erase i, (w j).load :=
    Finset.sum_congr rfl fun j hj => by rw [Function.update_of_ne (Finset.ne_of_mem_erase hj)]
  omega

/-- Every worker holds a piece. -/
theorem held_of_all (w : Fin n → Worker) (hall : ∀ i, (w i).load = 1) : held w = n := by
  unfold held
  simp [hall]

variable {s s' : State n}

theorem held_setWorker (i : Fin n) (x : Worker) :
    held (s.setWorker i x).workers + (s.workers i).load = held s.workers + x.load :=
  held_update s.workers i x

/-- The loop, its workers and its channels over every interleaving: the channels within
their capacity, and the pieces in them, held by the workers, or still owed by the round at
most two channels' worth and one for each worker; a worker returns only once the task has
finished, and the loop dispatches only once the workers have started. -/
structure Inv (s : State n) : Prop where
  requests_le : s.pieceRequestCh.length ≤ defaultPieceChanSize
  failed_le : s.failedPieceCh.length ≤ defaultPieceChanSize
  load_le : s.pieceRequestCh.length + s.failedPieceCh.length + held s.workers + s.main.pending ≤
    2 * defaultPieceChanSize + n
  limit_ok : s.main.LimitOk
  exited_finished : ∀ i, s.workers i = .exited → s.finished = true
  dispatch_initialized : ∀ num pieces, s.main = .dispatch num pieces → s.initialized = true

/-- A worker that takes on no more than it held keeps the load bound. -/
theorem Inv.load_le_setWorker (h : Inv s) (i : Fin n) {x : Worker}
    (hx : x.load ≤ (s.workers i).load) :
    s.pieceRequestCh.length + s.failedPieceCh.length + held (s.setWorker i x).workers +
      s.main.pending ≤ 2 * defaultPieceChanSize + n := by
  have hheld := held_setWorker (s := s) i x
  have hload := h.load_le
  omega

theorem inv_init (pt : Conductor) (storage : Option TaskStore) :
    Inv (init pt storage : State n) where
  requests_le := by simp [init]
  failed_le := by simp [init]
  load_le := by simp [init, held, Worker.load, Main.pending]
  limit_ok := by simp [init, Main.LimitOk, pieceBufferSize, defaultPieceChanSize]
  exited_finished := by simp [init]
  dispatch_initialized := by simp [init]

/-- The conductor a cancel leaves has finished. -/
theorem finished_cancel (code : Code) (pt : Conductor) : (pt.cancel code).status.isSome = true := by
  unfold Conductor.cancel Conductor.fail
  dsimp only
  split_ifs with h
  · exact h
  · rfl

theorem update_eq_exited {w : Fin n → Worker} {i j : Fin n} {x : Worker}
    (h : Function.update w i x j = .exited) : (j = i ∧ x = .exited) ∨ (j ≠ i ∧ w j = .exited) := by
  rw [Function.update_apply] at h
  split_ifs at h with hj
  · exact .inl ⟨hj, h⟩
  · exact .inr ⟨hj, h⟩

variable {a : MainAction α}

/-- Every step of the loop keeps the invariant. -/
theorem Inv.preserve_main (h : Inv s) (hstep : mainStep c a s = some s') : Inv s' := by
  have hmono : s.finished = true → s'.finished = true := fun hf =>
    finished_step c hf (a := .main a) hstep
  have hload := h.load_le
  have hlimit := h.limit_ok
  have hheld := held_le s.workers
  have hreq := h.requests_le
  have hfail := h.failed_le
  cases hm : s.main with
  | top num limit =>
    simp only [hm, Main.pending, Main.LimitOk] at hload hlimit
    rcases mainStep_of_top c hm hstep with ⟨-, rfl⟩ | ⟨failed, rest, hF, rfl⟩ | ⟨hF, -, rfl⟩
    · exact ⟨hreq, hfail, hload, trivial, h.exited_finished, by simp⟩
    · -- the failed piece moves from the channel to the round's request
      rw [hF, List.length_cons] at hload hfail
      refine ⟨hreq, by simp only; omega, ?_, by simp [Main.LimitOk, defaultPieceChanSize],
        h.exited_finished, by simp⟩
      simp only [Main.pending, UInt32.toNat_one]
      omega
    · rw [hF, List.length_nil] at hload
      refine ⟨hreq, by simp [hF], ?_, hlimit, h.exited_finished, by simp⟩
      simp only [hF, List.length_nil, Main.pending]
      omega
  | prepare num limit =>
    simp only [hm, Main.pending, Main.LimitOk] at hload hlimit
    rcases mainStep_of_prepare c hm hstep with ⟨peer, pkt, hpkt, rfl⟩ | ⟨_, _, -, -, -, rfl⟩ | rfl
    · -- a peer answers at most the pieces the round asked for
      have hlen := Peer.length_pieceInfos_le hpkt (UInt32.lt_iff_toNat_lt.mpr hlimit.1)
      refine ⟨hreq, hfail, ?_, trivial, fun i hi => hmono (h.exited_finished i hi),
        fun _ _ _ => rfl⟩
      simp only [Main.pending]
      simp only [pieceTaskRequest] at hlen
      omega
    · exact ⟨hreq, hfail, by simp only [Main.pending]; omega, trivial,
        fun i hi => hmono (h.exited_finished i hi), by simp⟩
    · exact ⟨hreq, hfail, by simp only [Main.pending]; omega, hlimit, h.exited_finished, by simp⟩
  | waitAvailable limit =>
    simp only [hm, Main.pending, Main.LimitOk] at hload hlimit
    rcases mainStep_of_waitAvailable c hm hstep with ⟨-, rfl⟩ | rfl | ⟨_, _, _, rfl⟩ | ⟨-, rfl⟩
    · exact ⟨hreq, hfail, hload, trivial, h.exited_finished, by simp⟩
    · exact ⟨hreq, hfail, hload, hlimit, h.exited_finished, by simp⟩
    · exact ⟨hreq, hfail, hload, trivial, fun i hi => hmono (h.exited_finished i hi),
        by simp [State.backSource]⟩
    · exact ⟨hreq, hfail, hload, trivial, fun i hi => hmono (h.exited_finished i hi), by simp⟩
  | dispatch num pieces =>
    have hinit := h.dispatch_initialized num pieces hm
    cases pieces with
    | nil =>
      simp only [hm, Main.pending, List.length_nil] at hload
      rcases mainStep_of_dispatch_nil c hm hstep with ⟨_, -, rfl⟩ | ⟨-, rfl⟩
      · exact ⟨hreq, hfail, hload, by simp [Main.LimitOk, defaultPieceChanSize, pieceBufferSize],
          h.exited_finished, by simp⟩
      · exact ⟨hreq, hfail, hload, trivial, h.exited_finished, by simp⟩
    | cons p ps =>
      simp only [hm, Main.pending, List.length_cons] at hload
      rcases mainStep_of_dispatch_cons c hm hstep with ⟨hroom, rfl⟩ | ⟨-, rfl⟩
      · -- the piece moves from the round to the channel
        refine ⟨by simp only [List.length_append, List.length_singleton]; omega, hfail, ?_, trivial,
          h.exited_finished, fun _ _ _ => hinit⟩
        simp only [List.length_append, List.length_singleton, Main.pending]
        omega
      · exact ⟨hreq, hfail, by simp only [Main.pending]; omega, trivial, h.exited_finished,
          fun _ _ _ => hinit⟩
  | waitFailed =>
    simp only [hm, Main.pending] at hload
    rw [mainStep_of_waitFailed c hm hstep]
    -- the check of `isCompleted` only decides whether the loop returns
    have hpend : (if s.pt.isCompleted then Main.exited else .waitFailedSelect).pending = 0 := by
      split_ifs <;> rfl
    have hok : (if s.pt.isCompleted then Main.exited else .waitFailedSelect).LimitOk := by
      split_ifs <;> trivial
    refine ⟨hreq, hfail, by simp only [hpend]; omega, hok, h.exited_finished, ?_⟩
    split_ifs <;> simp
  | waitFailedSelect =>
    simp only [hm, Main.pending] at hload
    rcases mainStep_of_waitFailedSelect c hm hstep with ⟨-, rfl⟩ | ⟨failed, rest, hF, rfl⟩
    · exact ⟨hreq, hfail, hload, trivial, h.exited_finished, by simp⟩
    · rw [hF, List.length_cons] at hload hfail
      exact ⟨hreq, by simp only; omega, by simp only [Main.pending]; omega,
        by simp [Main.LimitOk, defaultPieceChanSize], h.exited_finished, by simp⟩
  | exited =>
    rw [mainStep_of_exited c hm] at hstep
    cases hstep

/-- Every step of a worker keeps the invariant. -/
theorem Inv.preserve_worker {i : Fin n} {a : WorkerAction} (h : Inv s)
    (hinit : s.initialized = true) (hstep : workerStep c i a s = some s') : Inv s' := by
  have hmono : s.finished = true → s'.finished = true := fun hf =>
    finished_step c hf (a := .worker i a) (by rw [step, if_pos hinit]; exact hstep)
  have hload := h.load_le
  have hreq := h.requests_le
  have hfail := h.failed_le
  -- a worker that stays or becomes busy has not returned
  have hexited : ∀ x : Worker, x ≠ .exited → ∀ j, (Function.update s.workers i x) j = .exited →
      s.finished = true := fun x hx j hj => by
    rcases update_eq_exited hj with ⟨-, hxe⟩ | ⟨-, hje⟩
    · exact absurd hxe hx
    · exact h.exited_finished j hje
  cases hw : s.workers i with
  | idle =>
    rcases workerStep_of_idle c hw hstep with ⟨p, rest, hR, rfl⟩ | ⟨hf, rfl⟩
    · -- the piece moves from the channel to the worker
      have hheld := held_setWorker (s := s) i (.received p)
      have hlen : s.pieceRequestCh.length = rest.length + 1 := by rw [hR, List.length_cons]
      rw [hw] at hheld
      refine ⟨by simp only; omega, hfail, ?_, h.limit_ok, hexited _ (by simp),
        h.dispatch_initialized⟩
      simp only [State.setWorker, Worker.load] at hheld ⊢
      omega
    · refine ⟨hreq, hfail, h.load_le_setWorker i (by simp [hw, Worker.load]), h.limit_ok,
        fun j hj => ?_, h.dispatch_initialized⟩
      rcases update_eq_exited hj with ⟨-, -⟩ | ⟨-, hje⟩
      · exact hf
      · exact h.exited_finished j hje
  | received p =>
    rw [workerStep_of_received c hw hstep]
    -- a ready piece is dropped, any other is kept for the download
    refine ⟨hreq, hfail, h.load_le_setWorker i (by rw [hw]; exact Worker.load_le_one _),
      h.limit_ok, hexited _ (by split_ifs <;> simp), h.dispatch_initialized⟩
  | working p =>
    rcases workerStep_of_working c hw hstep with ⟨-, rfl⟩ | rfl | ⟨t, -, rfl⟩
    · exact ⟨hreq, hfail, h.load_le_setWorker i (by simp [hw, Worker.load]), h.limit_ok,
        fun _ _ => finished_cancel _ _, h.dispatch_initialized⟩
    · exact ⟨hreq, hfail, h.load_le_setWorker i (by simp [hw, Worker.load]), h.limit_ok,
        hexited _ (by simp), h.dispatch_initialized⟩
    · exact ⟨hreq, hfail, h.load_le_setWorker i (by simp [hw, Worker.load]), h.limit_ok,
        fun j hj => hmono (hexited _ (by simp) j hj), h.dispatch_initialized⟩
  | failing p =>
    obtain ⟨hroom, rfl⟩ := workerStep_of_failing c hw hstep
    -- the number moves from the worker to the channel
    have hheld := held_setWorker (s := s) i .idle
    rw [hw] at hheld
    refine ⟨hreq, by simp only [List.length_append, List.length_singleton]; omega, ?_, h.limit_ok,
      hexited _ (by simp), h.dispatch_initialized⟩
    simp only [State.setWorker, Worker.load, List.length_append, List.length_singleton] at hheld ⊢
    omega
  | exited =>
    rw [workerStep_of_exited c hw] at hstep
    cases hstep

/-- Every step of every thread keeps the invariant. -/
theorem Inv.preserved {a : Action α n} (h : Inv s) (hstep : step c a s = some s') : Inv s' := by
  cases a with
  | main a => exact h.preserve_main c hstep
  | worker i a =>
    rw [step] at hstep
    split_ifs at hstep with hinit
    exact h.preserve_worker c hinit hstep
  | cancel =>
    cases hstep
    exact { h with exited_finished := fun _ _ => finished_cancel _ _ }

theorem inv_of_reachable {pt : Conductor} {storage : Option TaskStore}
    (hs : Reachable (step c) (init pt storage) s) : Inv s :=
  hs.invariant (inv_init pt storage) fun _ _ _ h hstep => h.preserved c hstep

end Load

/-! ### Where the threads wait -/

section Progress

variable {s : State n}

/-- While the loop hands out a piece, the loop or a worker can step. Were all of them blocked,
the task would be running and `pieceRequestCh` full, so every worker would hold a piece and
wait on a full `failedPieceCh`: two full channels, a piece for each worker and the piece the
loop holds are one more than the invariant allows. -/
theorem Inv.dispatch_progress (h : Inv s) (hn : 0 < n) {num : Int32} {p : PieceInfo}
    {ps : List PieceInfo} (hm : s.main = .dispatch num (p :: ps)) :
    ∃ a : Action α n, a ≠ .cancel ∧ (step c a s).isSome := by
  by_contra hstuck
  have hblocked : ∀ a : Action α n, a ≠ .cancel → step c a s = none := fun a ha =>
    Option.not_isSome_iff_eq_none.mp fun hsome => hstuck ⟨a, ha, hsome⟩
  have hinit := h.dispatch_initialized num _ hm
  -- the loop's send is blocked: `pieceRequestCh` is full
  have hR : defaultPieceChanSize ≤ s.pieceRequestCh.length := by
    have hsend := hblocked (.main .dispatchSend) (by simp)
    simp only [step, mainStep, hm, Option.map_eq_none_iff] at hsend
    exact Nat.le_of_not_lt fun hlt => by simp [send, hlt] at hsend
  -- and the task is running
  have hrun : s.finished = false := by
    have hskip := hblocked (.main .dispatchFinished) (by simp)
    simpa [step, mainStep, hm] using hskip
  -- so every worker holds a piece it cannot hand back
  have hfailing : ∀ i, ∃ q, s.workers i = .failing q ∧
      defaultPieceChanSize ≤ s.failedPieceCh.length := by
    intro i
    cases hw : s.workers i with
    | idle =>
      have htake := hblocked (.worker i .take) (by simp)
      cases hreq : s.pieceRequestCh with
      | nil =>
        rw [hreq] at hR
        simp [defaultPieceChanSize] at hR
      | cons q rest => simp [step, hinit, workerStep, hw, hreq, recv] at htake
    | received q =>
      have hcheck := hblocked (.worker i .check) (by simp)
      simp [step, hinit, workerStep, hw] at hcheck
    | working q =>
      have hfail := hblocked (.worker i .fail) (by simp)
      simp [step, hinit, workerStep, hw] at hfail
    | failing q =>
      have hsend := hblocked (.worker i .sendFailed) (by simp)
      simp only [step, hinit, if_true, workerStep, hw, Option.map_eq_none_iff] at hsend
      exact ⟨q, rfl, Nat.le_of_not_lt fun hlt => by simp [send, hlt] at hsend⟩
    | exited =>
      have := h.exited_finished i hw
      rw [hrun] at this
      cases this
  obtain ⟨-, -, hF⟩ := hfailing ⟨0, hn⟩
  have hheld : held s.workers = n := held_of_all s.workers fun i => by
    obtain ⟨q, hq, -⟩ := hfailing i
    rw [hq]
    rfl
  have hload := h.load_le
  rw [hm, hheld] at hload
  simp only [Main.pending, List.length_cons] at hload
  omega

/-- Over every interleaving with at least one worker, the loop and its workers are never all
blocked but in the `select` of `waitFailedPiece`. The top `select` has its `default`; a round
waits for a peer, the scheduler or a timer, which the environment always brings; and the
sends of the dispatch never wait for good (`Inv.dispatch_progress`). -/
theorem pull_blocks_only_waiting_failed (hn : 0 < n) {pt : Conductor}
    {storage : Option TaskStore} (hs : Reachable (step c) (init pt storage) s)
    (hwait : s.main ≠ .waitFailedSelect) (hexit : s.main ≠ .exited) :
    ∃ a : Action α n, a ≠ .cancel ∧ (step c a s).isSome := by
  have h := inv_of_reachable c hs
  cases hm : s.main with
  | top num limit =>
    -- a finished task, a failed piece, or else the `default` case
    by_cases hfin : s.finished = true
    · exact ⟨.main .selectFinished, by simp, by simp [step, mainStep, hm, hfin]⟩
    · cases hF : s.failedPieceCh with
      | nil => exact ⟨.main .selectDefault, by simp, by simp [step, mainStep, hm, hF, hfin]⟩
      | cons failed rest =>
        exact ⟨.main .selectFailed, by simp, by simp [step, mainStep, hm, hF, recv]⟩
  | prepare num limit => exact ⟨.main .prepareFailed, by simp, by simp [step, mainStep, hm]⟩
  | waitAvailable limit => exact ⟨.main .peerReady, by simp, by simp [step, mainStep, hm]⟩
  | dispatch num pieces =>
    cases pieces with
    | nil =>
      refine ⟨.main .dispatchEnd, by simp, ?_⟩
      simp only [step, mainStep, hm]
      split <;> rfl
    | cons p ps => exact h.dispatch_progress c hn hm
  | waitFailed => exact ⟨.main .waitFailedCheck, by simp, by simp [step, mainStep, hm]⟩
  | waitFailedSelect => exact absurd hm hwait
  | exited => exact absurd hm hexit

theorem pull_blocks_only_waiting_failed_dispatching :
    ∃ s, Reachable (step plainConfig) (init (Conductor.new ['x']) none : State 1) s ∧
      s.main = .dispatch 0 [⟨0, 0, 4, [], 0, 0⟩, ⟨1, 4, 4, [], 4, 0⟩] ∧
      ∃ a : Action Unit 1, a ≠ .cancel ∧ (step plainConfig a s).isSome := by
  obtain ⟨s, hrun, hm⟩ : ∃ s, run (step plainConfig)
      [.main .selectDefault, .main (.answer twoPiecePeer)]
        (init (Conductor.new ['x']) none : State 1) = some s ∧
        s.main = .dispatch 0 [⟨0, 0, 4, [], 0, 0⟩, ⟨1, 4, 4, [], 4, 0⟩] :=
    ⟨_, rfl, by decide⟩
  have hs := reachable_of_run hrun
  exact ⟨s, hs, hm, pull_blocks_only_waiting_failed plainConfig (by decide) hs
    (by rw [hm]; decide) (by rw [hm]; decide)⟩

/-- With no request queued, every worker at its `select` and the task running, the workers
are all blocked. -/
theorem workers_blocked (hR : s.pieceRequestCh = []) (hidle : ∀ i, s.workers i = .idle)
    (hrun : s.finished = false) (i : Fin n) (a : WorkerAction) : workerStep c i a s = none := by
  cases a <;> simp [workerStep, hidle i, hR, hrun, recv]

/-- In `waitFailedPiece` with no failed piece queued, and the workers blocked, no thread of
the loop can step: only a cancel from outside moves them. -/
theorem waitFailed_stuck (hm : s.main = .waitFailedSelect) (hF : s.failedPieceCh = [])
    (hR : s.pieceRequestCh = []) (hidle : ∀ i, s.workers i = .idle) (hrun : s.finished = false)
    (a : Action α n) (ha : a ≠ .cancel) : step c a s = none := by
  cases a with
  | main a => cases a <;> simp [step, mainStep, hm, hF, hrun, recv]
  | worker i a => simp [step, workers_blocked c hR hidle hrun]
  | cancel => exact absurd rfl ha

/-- Once the loop has returned, with the workers blocked, no thread of the loop can step. -/
theorem exited_stuck (hm : s.main = .exited) (hR : s.pieceRequestCh = [])
    (hidle : ∀ i, s.workers i = .idle) (hrun : s.finished = false) (a : Action α n)
    (ha : a ≠ .cancel) : step c a s = none := by
  cases a with
  | main a => exact mainStep_of_exited c hm
  | worker i a => simp [step, workers_blocked c hR hidle hrun]
  | cancel => exact absurd rfl ha

end Progress

/-! ### A retry the loop loses -/

section Lost

/-- The loop can wait for good with a piece never fetched. Piece 0 fails and `waitFailedPiece`
returns it as the next `num`; before the next round piece 1 fails too, and the top `select`
takes it in place of piece 0. Piece 1 is fetched again, `getNextPieceNum` finds every piece
requested, and the loop waits for a failed piece with none to come: piece 0 is in no channel
and no worker's hands, and only a cancel from outside ends the task. -/
theorem failed_piece_lost :
    ∃ s, Reachable (step plainConfig) (init (Conductor.new ['x']) none : State 1) s ∧
      (∀ a, a ≠ .cancel → step plainConfig a s = none) ∧
      (0 : Int32) ∈ s.requestedPieces ∧ (0 : Int32) ∉ s.pt.readyPieces ∧ s.finished = false := by
  let w : Fin 1 := 0
  let sched : List (Action Unit 1) :=
    [.main .selectDefault, .main (.answer twoPiecePeer), .main .dispatchSend, .main .dispatchSend,
      .main .dispatchEnd, .main .waitFailedCheck,
      .worker w .take, .worker w .check, .worker w .fail, .worker w .sendFailed,
      .main .waitFailedTake,
      .worker w .take, .worker w .check, .worker w .fail, .worker w .sendFailed,
      .main .selectFailed, .main (.answer twoPiecePeer), .main .dispatchSend,
      .worker w .take, .worker w .check, .worker w .succeed,
      .main .dispatchEnd, .main .waitFailedCheck]
  obtain ⟨s, hrun, hm, hF, hR, hidle, hfin, hreq, hready⟩ : ∃ s,
      run (step plainConfig) sched (init (Conductor.new ['x']) none) = some s ∧
      s.main = .waitFailedSelect ∧ s.failedPieceCh = [] ∧ s.pieceRequestCh = [] ∧
      (∀ i, s.workers i = .idle) ∧ s.finished = false ∧ (0 : Int32) ∈ s.requestedPieces ∧
      (0 : Int32) ∉ s.pt.readyPieces :=
    ⟨_, rfl, by decide⟩
  exact ⟨s, reachable_of_run hrun, waitFailed_stuck plainConfig hm hF hR hidle hfin, hreq, hready,
    hfin⟩

/-- The loop can return with all bytes in and the task never finished. A peer that does not
know the length yet hands out both pieces, and they are published while the content length is
still `-1`, so `PublishPieceInfo` does not run `Done`. The loop then asks another peer, whose
packet brings the length with both pieces: the workers skip them as ready, `getNextPieceNum`
and `waitFailedPiece` see all bytes in, and the loop returns. `Done` only runs for a packet
without pieces, so nobody runs it, and the workers wait for requests that never come. -/
theorem loop_returns_without_done :
    ∃ s, Reachable (step plainConfig) (init (Conductor.new ['x']) none : State 1) s ∧
      (∀ a, a ≠ .cancel → step plainConfig a s = none) ∧ s.main = .exited ∧
      s.pt.isCompleted = true ∧ s.finished = false := by
  let w : Fin 1 := 0
  let sched : List (Action Unit 1) :=
    [.main .selectDefault, .main (.answer unknownLengthPeer), .main .dispatchSend,
      .main .dispatchSend,
      .worker w .take, .worker w .check, .worker w .succeed,
      .worker w .take, .worker w .check, .worker w .succeed,
      .main .dispatchEnd, .main .selectDefault, .main .prepareFailed, .main .peerReady,
      .main .selectDefault, .main (.answer twoPiecePeer), .main .dispatchSend, .main .dispatchSend,
      .worker w .take, .worker w .check, .worker w .take, .worker w .check,
      .main .dispatchEnd, .main .waitFailedCheck]
  obtain ⟨s, hrun, hm, hR, hidle, hfin, hdone⟩ : ∃ s,
      run (step plainConfig) sched (init (Conductor.new ['x']) none) = some s ∧
      s.main = .exited ∧ s.pieceRequestCh = [] ∧ (∀ i, s.workers i = .idle) ∧
      s.finished = false ∧ s.pt.isCompleted = true :=
    ⟨_, rfl, by decide⟩
  exact ⟨s, reachable_of_run hrun, exited_stuck plainConfig hm hR hidle hfin, hm, hdone, hfin⟩

end Lost

end Dragonfly.Daemon.Pull
