import Dragonfly.Scheduler.Scheduling

/-!
# Scheduler resources

`scheduler/resource/{peer,task,host}.go`. The peer and task state machines are the event
tables of `NewPeer` (`peer.go:159–174`) and `NewTask` (`task.go:124–130`). The looplab
`fsm.FSM.Event` they are built on is taken at its documented behaviour: an event whose
source list holds the current state moves to its destination and then runs the event's
callback; any other event leaves the state alone and returns an `InvalidEventError`. No
event of either table lists its own destination among its sources, so the `NoTransition`
case of the library never arises. Peers, tasks and hosts are keyed by their IDs, as the
three managers key them; a peer record stays after `PeerManager.Delete` (`stored` turns
false), as the object does for the handlers still holding it.
-/

namespace Dragonfly.Scheduler

/-- Peer states (`peer.go:42–69`). -/
inductive PeerState where
  | pending | receivedTiny | receivedSmall | receivedNormal | running | backToSource
  | succeeded | failed | leave
  deriving DecidableEq, Repr

/-- Peer events (`peer.go:71–98`). -/
inductive PeerEvent where
  | registerTiny | registerSmall | registerNormal | download | downloadFromBackToSource
  | downloadSucceeded | downloadFailed | restart | leave
  deriving DecidableEq, Repr

/-- The destination of a peer event from a state (`peer.go:161–174`), `none` when the
state is not among the event's sources. -/
def PeerEvent.dst : PeerEvent → PeerState → Option PeerState
  | .registerTiny, .pending => some .receivedTiny
  | .registerSmall, .pending => some .receivedSmall
  | .registerNormal, .pending => some .receivedNormal
  | .download, .receivedTiny | .download, .receivedSmall | .download, .receivedNormal =>
    some .running
  | .downloadFromBackToSource, .receivedTiny | .downloadFromBackToSource, .receivedSmall
  | .downloadFromBackToSource, .receivedNormal | .downloadFromBackToSource, .running =>
    some .backToSource
  | .downloadSucceeded, .running | .downloadSucceeded, .backToSource => some .succeeded
  | .downloadFailed, .failed | .downloadFailed, .leave => none
  | .downloadFailed, _ => some .failed
  | .restart, .succeeded => some .pending
  | .leave, .failed | .leave, .succeeded => some .leave
  | _, _ => none

/-- Task states (`task.go:37–49`). -/
inductive TaskState where
  | pending | running | succeeded | failed
  deriving DecidableEq, Repr

/-- Task events (`task.go:51–60`). -/
inductive TaskEvent where
  | download | downloadSucceeded | downloadFailed
  deriving DecidableEq, Repr

/-- The destination of a task event from a state (`task.go:126–130`). -/
def TaskEvent.dst : TaskEvent → TaskState → Option TaskState
  | .download, .pending | .download, .succeeded | .download, .failed => some .running
  | .downloadSucceeded, .running | .downloadSucceeded, .failed => some .succeeded
  | .downloadFailed, .running => some .failed
  | _, _ => none

/-- The `InvalidEventError` of `fsm.FSM.Event`: the event and the state it was fired in. -/
inductive FsmError where
  | peer (event : PeerEvent) (state : PeerState)
  | task (event : TaskEvent) (state : TaskState)
  deriving DecidableEq, Repr

/-- The piece record a task keeps (`base.PieceInfo`). -/
structure PieceInfo where
  pieceNum : ℤ
  rangeStart : ℕ
  rangeSize : ℕ
  pieceOffset : ℕ
  deriving DecidableEq, Repr

/-- The fields of a peer that the handlers read and write (`peer.go:100–139`); the tree
fields live in `PeerGraph`. -/
structure Peer (τ η : Type) where
  task : τ
  host : η
  state : PeerState
  /-- Whether the peer is in the peer manager. -/
  stored : Bool
  /-- Whether a `ReportPieceResult` stream is stored (`Peer.Stream`). -/
  hasStream : Bool
  deriving DecidableEq, Repr

/-- The fields of a task that the handlers read and write (`task.go:62–104`). -/
structure Task (ι : Type) where
  state : TaskState
  contentLength : ℤ
  totalPieceCount : ℤ
  backToSourceLimit : ℤ
  backToSourcePeers : Finset ι
  pieces : ℤ → Option PieceInfo
  /-- `Task.Peers`, in the order its `Range` visits them. -/
  peers : List ι
  directPiece : List UInt8

/-- The fields of a host that scheduling reads (`host.go`). -/
structure Host (ι : Type) where
  uploadLoadLimit : ℤ
  peers : Finset ι
  isCDN : Bool

/-- `Host.FreeUploadLoad` (`host.go:190`). -/
def Host.freeUploadLoad {ι : Type} (h : Host ι) : ℤ := h.uploadLoadLimit - h.peers.card

/-- `Task.CanBackToSource` (`task.go:281`). -/
def Task.canBackToSource {ι : Type} (t : Task ι) : Bool :=
  decide ((t.backToSourcePeers.card : ℤ) < t.backToSourceLimit)

/-- `Task.SizeScope` (`task.go:268`). -/
inductive SizeScope where
  | normal | small | tiny
  deriving DecidableEq, Repr

/-- `TinyFileSize` (`task.go:34`). -/
def tinyFileSize : ℤ := 128

/-- `Task.SizeScope` (`task.go:268–278`). -/
def Task.sizeScope {ι : Type} (t : Task ι) : SizeScope :=
  if t.contentLength ≤ tinyFileSize then .tiny
  else if t.totalPieceCount = 1 then .small
  else .normal

/-- The scheduler's resources: the three managers and the peer tree. -/
structure Resources (ι τ η : Type) where
  peers : ι → Option (Peer τ η)
  tasks : τ → Option (Task ι)
  hosts : η → Option (Host ι)
  graph : PeerGraph ι

namespace Resources

variable {ι τ η : Type} [DecidableEq ι] [DecidableEq τ] (s : Resources ι τ η)

/-- Replace the record of one peer. -/
def setPeer (p : ι) (peer : Peer τ η) : Resources ι τ η :=
  { s with peers := Function.update s.peers p (some peer) }

/-- Apply `f` to the record of a task, if there is one. -/
def modifyTask (t : τ) (f : Task ι → Task ι) : Resources ι τ η :=
  { s with tasks := Function.update s.tasks t ((s.tasks t).map f) }

/-- How the after-event callbacks of `NewPeer` (`peer.go:192–212`) change the
`BackToSourcePeers` of the peer's task for an event fired from `src`: `DownloadFromBackToSource`
adds the peer, `DownloadSucceeded` and `DownloadFailed` fired from `BackToSource` delete it,
and the other callbacks only log and touch `UpdateAt`. -/
def backToSourceUpdate (p : ι) : PeerEvent → PeerState → Finset ι → Finset ι
  | .downloadFromBackToSource, _ => insert p
  | .downloadSucceeded, .backToSource | .downloadFailed, .backToSource => fun peers => peers.erase p
  | _, _ => id

/-- The callbacks of an event on peer `p` of task `task`. -/
def peerCallback (p : ι) (task : τ) (e : PeerEvent) (src : PeerState) : Resources ι τ η :=
  s.modifyTask task fun t => { t with backToSourcePeers := backToSourceUpdate p e src t.backToSourcePeers }

/-- `peer.FSM.Event(e)` on a stored or held peer record. -/
def peerEvent (p : ι) (peer : Peer τ η) (e : PeerEvent) : Except FsmError (Resources ι τ η) :=
  match e.dst peer.state with
  | none => .error (.peer e peer.state)
  | some dst => .ok ((s.setPeer p { peer with state := dst }).peerCallback p peer.task e peer.state)

/-- `task.FSM.Event(e)`; the task callbacks only touch `UpdateAt`. -/
def taskEvent (t : τ) (task : Task ι) (e : TaskEvent) : Except FsmError (Resources ι τ η) :=
  match e.dst task.state with
  | none => .error (.task e task.state)
  | some dst => .ok (s.modifyTask t fun task => { task with state := dst })

variable {s}

section SetPeer

omit [DecidableEq τ]

@[simp] theorem peers_setPeer (p : ι) (peer : Peer τ η) :
    (s.setPeer p peer).peers = Function.update s.peers p (some peer) := rfl

@[simp] theorem tasks_setPeer (p : ι) (peer : Peer τ η) : (s.setPeer p peer).tasks = s.tasks := rfl

@[simp] theorem graph_setPeer (p : ι) (peer : Peer τ η) : (s.setPeer p peer).graph = s.graph := rfl

end SetPeer

section ModifyTask

omit [DecidableEq ι]

@[simp] theorem peers_modifyTask (t : τ) (f : Task ι → Task ι) :
    (s.modifyTask t f).peers = s.peers := rfl

@[simp] theorem graph_modifyTask (t : τ) (f : Task ι → Task ι) :
    (s.modifyTask t f).graph = s.graph := rfl

/-- Modifying a task by the identity changes nothing. -/
theorem modifyTask_id (t : τ) : s.modifyTask t id = s := by
  cases s
  simp only [modifyTask, Option.map_id, id_eq, Function.update_eq_self]

theorem graph_taskEvent {t : τ} {task : Task ι} {e : TaskEvent} {s' : Resources ι τ η}
    (h : s.taskEvent t task e = .ok s') : s'.graph = s.graph := by
  unfold taskEvent at h
  split at h
  · cases h
  · cases h
    rfl

end ModifyTask

theorem graph_peerCallback (p : ι) (task : τ) (e : PeerEvent) (src : PeerState) :
    (s.peerCallback p task e src).graph = s.graph := rfl

@[simp] theorem peers_peerCallback (p : ι) (task : τ) (e : PeerEvent) (src : PeerState) :
    (s.peerCallback p task e src).peers = s.peers := rfl

/-- The state machine never touches the peer tree. -/
theorem graph_peerEvent {p : ι} {peer : Peer τ η} {e : PeerEvent} {s' : Resources ι τ η}
    (h : s.peerEvent p peer e = .ok s') : s'.graph = s.graph := by
  unfold peerEvent at h
  split at h
  · cases h
  · cases h
    rw [graph_peerCallback]
    rfl

/-- An event the table refuses from the peer's state changes nothing and reports both. -/
theorem peerEvent_of_dst_none {p : ι} {peer : Peer τ η} {e : PeerEvent}
    (h : e.dst peer.state = none) : s.peerEvent p peer e = .error (.peer e peer.state) := by
  simp only [peerEvent, h]

/-- A peer event succeeds exactly when the table has the transition. -/
theorem peerEvent_ok_iff {p : ι} {peer : Peer τ η} {e : PeerEvent} :
    (∃ s', s.peerEvent p peer e = .ok s') ↔ (e.dst peer.state).isSome := by
  unfold peerEvent
  split <;> simp_all

end Resources

end Dragonfly.Scheduler
