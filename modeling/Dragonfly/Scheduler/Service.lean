import Dragonfly.Scheduler.Resource
import Mathlib.Data.List.MinMax

/-!
# Peer registration

`scheduler/service/service.go:74–202,351–415` and `FindParent` (`scheduler.go:186`).
`RegisterPeerTask` registers the task, the host and the peer, then answers by the task's
size scope: a tiny task returns its direct piece, a small one its first piece and a parent
found by `FindParent`, and anything else a normal registration; each branch fires the
matching register event on the peer. The evaluator is a function `evaluate` into a linear
order and `IsBadNode` a predicate; `sort.Slice` followed by `parents[0]` is modelled as the
first candidate of maximal score, one of the orders the unstable sort may produce. The
`isDescendant` loops of `filterParents` run with the bound `fuel`, and `none` marks a call
that has not returned within it. The CDN download that `registerTask` starts in a new
goroutine is a later step of its own.
-/

namespace Dragonfly.Scheduler

open Dragonfly.Base

/-- The `dferrors` codes the handlers return (`base.Code`). -/
inductive Code where
  | success | schedError | schedTaskStatusError | schedNeedBackSource | schedPeerNotFound
  deriving DecidableEq, Repr

/-- What a `dferrors.DfError` of the handlers carries besides its code. -/
inductive Cause where
  /-- `"register task is fail"` (`service.go:78`). -/
  | registerTaskFail
  /-- `"peer %s not found"` (`service.go:322`). -/
  | peerNotFound
  /-- `err.Error()` of a failed state-machine event. -/
  | fsm (e : FsmError)
  deriving DecidableEq, Repr

/-- `dferrors.DfError`. -/
structure DfError where
  code : Code
  cause : Cause
  deriving DecidableEq, Repr

/-- The fields of `scheduler.PeerTaskRequest` registration reads; `taskId` is the value of
`idgen.TaskID(req.Url, req.UrlMeta)`. -/
structure PeerTaskRequest (ι τ η : Type) where
  taskId : τ
  peerId : ι
  hostId : η
  deriving DecidableEq, Repr

/-- `RegisterResult` by size scope, with the direct piece of a tiny task and the single
piece of a small one (`service.go:100–105,154–174`). -/
inductive RegisterResult (ι : Type) where
  | tiny (pieceContent : List UInt8)
  | small (dstPid : ι) (pieceInfo : PieceInfo)
  | normal
  deriving DecidableEq, Repr

/-- The configuration the handlers read. -/
structure Config where
  /-- `Scheduler.BackSourceCount`, the back-to-source limit of a new task. -/
  backSourceCount : ℤ
  /-- The upload load limit of a new host: the cluster's `LoadLimit` or `defaultUploadLoadLimit`. -/
  uploadLoadLimit : ℤ
  /-- `Scheduler.RetryBackSourceLimit`. -/
  retryBackSourceLimit : ℕ
  /-- `Scheduler.RetryLimit`. -/
  retryLimit : ℕ

/-- The default scheduler configuration (`scheduler/config/config.go:66–68`) with the default
upload load limit. -/
def defaultConfig : Config := ⟨3, 100, 5, 20⟩

/-- `NewTask` (`task.go:107`). -/
def newTask {ι : Type} (backToSourceLimit : ℤ) : Task ι where
  state := .pending
  contentLength := 0
  totalPieceCount := 0
  backToSourceLimit := backToSourceLimit
  backToSourcePeers := ∅
  pieces := fun _ => none
  peers := []
  directPiece := []

namespace Resources

variable {ι τ η σ : Type} [DecidableEq ι] [DecidableEq τ] [DecidableEq η] [LinearOrder σ]
variable (s : Resources ι τ η)

/-- `Task.LenAvailablePeers` (`task.go:190`): the task's peers that have not left. -/
def lenAvailablePeers (t : Task ι) : ℕ :=
  (t.peers.filter fun p => (s.peers p).any fun peer => peer.state ≠ .leave).length

/-- Store a task record. -/
def setTask (t : τ) (task : Task ι) : Resources ι τ η :=
  { s with tasks := Function.update s.tasks t (some task) }

/-- `Service.registerTask` (`service.go:351`): reuse a healthy task, otherwise fire
`TaskEventDownload` on the loaded or new task. -/
def registerTask (backSourceCount : ℤ) (t : τ) : Except FsmError (Resources ι τ η) :=
  match s.tasks t with
  | some task =>
    if (task.state = .running ∨ task.state = .succeeded) ∧ s.lenAvailablePeers task ≠ 0 then .ok s
    else s.taskEvent t task .download
  | none => (s.setTask t (newTask backSourceCount)).taskEvent t (newTask backSourceCount) .download

/-- `Service.registerHost` (`service.go:385`). -/
def registerHost (uploadLoadLimit : ℤ) (h : η) : Resources ι τ η :=
  match s.hosts h with
  | some _ => s
  | none => { s with hosts := Function.update s.hosts h (some ⟨uploadLoadLimit, ∅, false⟩) }

/-- The storing branch of `PeerManager.LoadOrStore` (`peer_manager.go:106–110`): `NewPeer`
(`peer.go:142`) goes into the manager, its host's peers and its task's peers. -/
def storeNewPeer (p : ι) (t : τ) (h : η) : Resources ι τ η × Peer τ η :=
  let peer : Peer τ η := ⟨t, h, .pending, true, false⟩
  ({ s with
      peers := Function.update s.peers p (some peer)
      hosts := Function.update s.hosts h ((s.hosts h).map fun host =>
        { host with peers := insert p host.peers })
      tasks := Function.update s.tasks t ((s.tasks t).map fun task =>
        { task with peers := if p ∈ task.peers then task.peers else task.peers ++ [p] }) },
    peer)

/-- `Service.registerPeer` (`service.go:406`) through `PeerManager.LoadOrStore`
(`peer_manager.go:102`): a stored peer is reused, whatever its task and state. -/
def registerPeer (p : ι) (t : τ) (h : η) : Resources ι τ η × Peer τ η :=
  match s.peers p with
  | some peer => if peer.stored then (s, peer) else s.storeNewPeer p t h
  | none => s.storeNewPeer p t h

/-- The free upload load of a peer's host, zero for an unknown peer. -/
def freeUploadLoadOf (c : ι) : ℤ :=
  ((s.peers c).bind fun peer => (s.hosts peer.host).map Host.freeUploadLoad).getD 0

/-- `scheduler.FindParent` (`scheduler.go:186`) for `peer` with record `pr`. -/
def findParent (fuel : ℕ) (evaluate : ι → ι → ℤ → σ) (isBadNode : ι → Bool)
    (blocklist : ι → Bool) (p : ι) (pr : Peer τ η) : Option (Option ι) :=
  let task := s.tasks pr.task
  let taskPeers := (task.map Task.peers).getD []
  let totalPieceCount := (task.map Task.totalPieceCount).getD 0
  (s.graph.filterParents fuel blocklist isBadNode s.freeUploadLoadOf p taskPeers).map
    fun parents => parents.argmax fun parent => evaluate p parent totalPieceCount

/-- Fire a register event on the peer and answer with `result`, or fail with
`Code_SchedError` (`service.go:94–99` and its siblings). The handlers share memory, so the
state is returned on both paths. -/
def registerEvent (p : ι) (pr : Peer τ η) (e : PeerEvent) (result : RegisterResult ι) :
    Resources ι τ η × Except DfError (RegisterResult ι) :=
  match s.peerEvent p pr e with
  | .error err => (s, .error ⟨.schedError, .fsm err⟩)
  | .ok s' => (s', .ok result)

/-- The small-scope branch of `RegisterPeerTask` (`service.go:113–174`): without a parent
or a first piece it falls back to a normal registration; otherwise it replaces the peer's
parent and only then fires `PeerEventRegisterSmall`. -/
def registerSmall (fuel : ℕ) (evaluate : ι → ι → ℤ → σ) (isBadNode : ι → Bool) (p : ι)
    (pr : Peer τ η) (task : Task ι) :
    Option (Resources ι τ η × Except DfError (RegisterResult ι)) :=
  (s.findParent fuel evaluate isBadNode (fun _ => false) p pr).map fun
    | none => s.registerEvent p pr .registerNormal .normal
    | some parent =>
      match task.pieces 0 with
      | none => s.registerEvent p pr .registerNormal .normal
      | some firstPiece =>
        { s with graph := s.graph.replaceParent p parent }.registerEvent p pr .registerSmall
          (.small parent firstPiece)

/-- The branches of `RegisterPeerTask` after the task, host and peer are registered
(`service.go:86–201`). -/
def registerByScope (fuel : ℕ) (evaluate : ι → ι → ℤ → σ) (isBadNode : ι → Bool) (p : ι)
    (pr : Peer τ η) (task : Task ι) :
    Option (Resources ι τ η × Except DfError (RegisterResult ι)) :=
  if task.state = .succeeded then
    match task.sizeScope with
    | .tiny =>
      if 0 < task.directPiece.length ∧ (task.directPiece.length : ℤ) = task.contentLength then
        some (s.registerEvent p pr .registerTiny (.tiny task.directPiece))
      -- `fallthrough` to the small-scope branch
      else s.registerSmall fuel evaluate isBadNode p pr task
    | .small => s.registerSmall fuel evaluate isBadNode p pr task
    | .normal => some (s.registerEvent p pr .registerNormal .normal)
  else some (s.registerEvent p pr .registerNormal .normal)

/-- `Service.RegisterPeerTask` (`service.go:74`). -/
def registerPeerTask (cfg : Config) (fuel : ℕ) (evaluate : ι → ι → ℤ → σ)
    (isBadNode : ι → Bool) (req : PeerTaskRequest ι τ η) :
    Option (Resources ι τ η × Except DfError (RegisterResult ι)) :=
  match s.registerTask cfg.backSourceCount req.taskId with
  | .error _ => some (s, .error ⟨.schedTaskStatusError, .registerTaskFail⟩)
  | .ok s₁ =>
    let (s₂, pr) := (s₁.registerHost cfg.uploadLoadLimit req.hostId).registerPeer req.peerId
      req.taskId req.hostId
    match s₂.tasks req.taskId with
    | none => none
    | some task => s₂.registerByScope fuel evaluate isBadNode req.peerId pr task

/-- The result fields `handleTaskSuccess` stores (`rpcscheduler.PeerResult`). -/
structure PeerResult where
  totalPieceCount : ℤ
  contentLength : ℤ
  deriving DecidableEq, Repr

/-- `task.TotalPieceCount.Store(n)`. -/
def storeTotalPieceCount (t : τ) (n : ℤ) : Resources ι τ η :=
  s.modifyTask t fun task => { task with totalPieceCount := n }

/-- `task.ContentLength.Store(n)`. -/
def storeContentLength (t : τ) (n : ℤ) : Resources ι τ η :=
  s.modifyTask t fun task => { task with contentLength := n }

/-- The first atomic step of `Service.handleTaskSuccess` (`service.go:582–589`): nothing
when the task has already succeeded or the event is refused, otherwise
`TaskEventDownloadSucceeded`; `some` when the handler goes on to the two stores. -/
def taskSuccessEvent (t : τ) : Option (Resources ι τ η) :=
  match s.tasks t with
  | none => none
  | some task =>
    if task.state = .succeeded then none
    else match s.taskEvent t task .downloadSucceeded with
      | .error _ => none
      | .ok s₁ => some s₁

/-- `Service.handleTaskSuccess` (`service.go:581`): the event, then the two stores of the
result's geometry, each its own atomic step. -/
def handleTaskSuccess (t : τ) (result : PeerResult) : Resources ι τ η :=
  match s.taskSuccessEvent t with
  | none => s
  | some s₁ =>
    (s₁.storeTotalPieceCount t result.totalPieceCount).storeContentLength t result.contentLength

end Resources

end Dragonfly.Scheduler
