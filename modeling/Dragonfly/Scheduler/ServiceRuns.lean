import Dragonfly.Scheduler.Schedule
import Dragonfly.Base.Interleave

/-!
# Runs of the scheduler service

The scheduler service as one state machine. Its atomic steps are the handlers of
`scheduler/service/service.go` (`RegisterPeerTask`, `ReportPeerResult`, `LeaveTask`), the CDN
trigger goroutine that `registerTask` starts (`service.go:367–379` over `TriggerTask`,
`resource/cdn.go:66–126`), one seed message at a time, and the two garbage collectors
(`peer_manager.go:126`, `task_manager.go:102`), one collected record at a time. The TTLs of the
collectors are not modelled, so any peer or task may be collected at any step where the
collector's other conditions hold. The evaluator, the bad-node test, whether a packet can be
sent and the CDN peer `LoadCDNPeer` returns are fixed for a run. `Children.Range` visits a
peer's children in an order the step names: a step whose list is not exactly the children
does not happen.

`registerTask` refuses exactly a loaded task that is `Running` and has no peer that has not
left (`registerTask_error_iff`), and a run of three handler calls reaches such a task: its only
peer fails and leaves while the CDN has not answered yet
(`registerTask_fails_on_reachable_state`).
-/

namespace Dragonfly.Scheduler

open Dragonfly.Base Dragonfly.Base.Interleave

/-- A `cdnsystem.PieceSeed` as `TriggerTask` reads it (`cdn.go:103–124`). -/
inductive PieceSeed where
  /-- A seed whose piece number is `BeginOfPiece`. -/
  | beginOfPiece
  /-- A seed of a piece the CDN has downloaded. -/
  | piece (info : PieceInfo)
  /-- The seed with `Done` set and the task's geometry. -/
  | done (result : Resources.PeerResult)
  deriving DecidableEq, Repr

/-- Where a CDN trigger goroutine is: waiting for its first seed, or with its CDN peer
initialized. -/
inductive SeedTrigger (ι τ : Type) where
  | obtaining (t : τ)
  | seeding (t : τ) (cdn : ι)
  deriving DecidableEq, Repr

/-- The task a trigger goroutine seeds. -/
def SeedTrigger.task {ι τ : Type} : SeedTrigger ι τ → τ
  | .obtaining t | .seeding t _ => t

/-- The state of the service: its resources and the trigger goroutines that have not
returned, in the order they started. -/
structure ServiceState (ι τ η : Type) where
  resources : Resources ι τ η
  seeds : List (SeedTrigger ι τ)

/-- The service before any request: no peer, task or host, and no goroutine. -/
def ServiceState.initial {ι τ η : Type} : ServiceState ι τ η :=
  ⟨⟨fun _ => none, fun _ => none, fun _ => none, PeerGraph.empty⟩, []⟩

namespace Resources

variable {ι τ η σ : Type} [DecidableEq ι] [DecidableEq τ] [DecidableEq η] [LinearOrder σ]
variable (s : Resources ι τ η)

/-- Whether `registerTask` reuses the loaded task (`service.go:354`). -/
def reusesTask (t : τ) : Bool :=
  match s.tasks t with
  | some task =>
    decide ((task.state = .running ∨ task.state = .succeeded) ∧ s.lenAvailablePeers task ≠ 0)
  | none => false

/-- Whether `children` lists the children of `p` as `Children.Range` may visit them. -/
def listsChildren (p : ι) (children : List ι) : Bool :=
  decide (children.Nodup ∧ children.toFinset = s.graph.children p)

/-- `peer.FSM.Event(e)` on the record of `p`; records are never removed, so the unknown
case does not arise. -/
def eventOn (p : ι) (e : PeerEvent) : Except FsmError (Resources ι τ η) :=
  match s.peers p with
  | some pr => s.peerEvent p pr e
  | none => .ok s

/-- `Service.handleTaskFail` (`service.go:599`): `TaskEventDownloadFailed` unless the task has
failed already; a refused event is only logged. -/
def handleTaskFail (t : τ) : Resources ι τ η :=
  match s.tasks t with
  | none => s
  | some task =>
    if task.state = .failed then s
    else match s.taskEvent t task .downloadFailed with
      | .error _ => s
      | .ok s₁ => s₁

/-- `Service.handlePeerFail` (`service.go:557`): `PeerEventDownloadFailed`, then
`ScheduleParent` on each child with the failed peer on its blocklist. -/
def handlePeerFail (cfg : Config) (fuel : ℕ) (evaluate : ι → ι → ℤ → σ)
    (isBadNode : ι → Bool) (send : ι → Packet ι → Bool) (cdnPeer : Option ι) (p : ι)
    (pr : Peer τ η) (children : List ι) : Option (Resources ι τ η) :=
  match s.peerEvent p pr .downloadFailed with
  | .error _ => some s
  | .ok s₁ =>
    (scheduleChildren cfg fuel evaluate isBadNode send cdnPeer (fun c => decide (c = p))
      children s₁).map Prod.fst

/-- `Service.handlePeerSuccess` (`service.go:537`): a tiny task without its direct piece stores
what `DownloadTinyFile` returned (`none` for an error) when it has the content length; then
`PeerEventDownloadSucceeded`, a refused event only logged. -/
def handlePeerSuccess (p : ι) (pr : Peer τ η) (tinyFile : Option (List UInt8)) :
    Resources ι τ η :=
  let s₁ :=
    match s.tasks pr.task, tinyFile with
    | some task, some data =>
      if task.sizeScope = SizeScope.tiny ∧ task.directPiece.length = 0 ∧
          (data.length : ℤ) = task.contentLength then
        s.modifyTask pr.task fun task => { task with directPiece := data }
      else s
    | _, _ => s
  match s₁.peerEvent p pr .downloadSucceeded with
  | .error _ => s₁
  | .ok s₂ => s₂

/-- `Service.ReportPeerResult` (`service.go:294`): a failure of a back-to-source peer fails its
task first, a success of one succeeds it first. -/
def reportPeerResult (cfg : Config) (fuel : ℕ) (evaluate : ι → ι → ℤ → σ)
    (isBadNode : ι → Bool) (send : ι → Packet ι → Bool) (cdnPeer : Option ι) (p : ι)
    (success : Bool) (result : Resources.PeerResult) (tinyFile : Option (List UInt8))
    (children : List ι) : Option (Resources ι τ η × Except DfError Unit) :=
  match s.peers p with
  | some pr =>
    if !pr.stored then some (s, .error ⟨.schedPeerNotFound, .peerNotFound⟩)
    else if !success then
      let s₁ := if pr.state = .backToSource then s.handleTaskFail pr.task else s
      (s₁.handlePeerFail cfg fuel evaluate isBadNode send cdnPeer p pr children).map
        fun s₂ => (s₂, .ok ())
    else
      let s₁ := if pr.state = .backToSource then s.handleTaskSuccess pr.task result else s
      some (s₁.handlePeerSuccess p pr tinyFile, .ok ())
  | none => some (s, .error ⟨.schedPeerNotFound, .peerNotFound⟩)

/-- The new CDN peer of `initPeer` (`cdn.go:138–153`): `NewPeer` on a known host, stored,
then `PeerEventRegisterNormal`; `none` for an error. -/
def newCdnPeer (t : τ) (cdn : ι) (h : η) : Option (Resources ι τ η) :=
  match s.hosts h with
  | none => none
  | some _ =>
    let (s₁, pr) := s.storeNewPeer cdn t h
    match s₁.peerEvent cdn pr .registerNormal with
    | .error _ => none
    | .ok s₂ => some s₂

/-- `cdn.initPeer` (`cdn.go:129`): a stored peer of the seed's ID is used as it is. -/
def initPeer (t : τ) (cdn : ι) (h : η) : Option (Resources ι τ η) :=
  match s.peers cdn with
  | some pr => if pr.stored then some s else s.newCdnPeer t cdn h
  | none => s.newCdnPeer t cdn h

/-- One seed handled by a trigger goroutine of task `t` whose CDN peer is `cdn`
(`cdn.go:103–124`, then `service.go:370–378`): the goroutine's next place, `none` when it has
returned. -/
def seedPiece (t : τ) (cdn : ι) (seed : PieceSeed) (tinyFile : Option (List UInt8)) :
    Resources ι τ η × Option (SeedTrigger ι τ) :=
  match seed with
  | .beginOfPiece =>
    match s.eventOn cdn .download with
    | .error _ => (s.handleTaskFail t, none)
    | .ok s₁ => (s₁, some (.seeding t cdn))
  | .piece info =>
    -- `task.StorePiece`
    let store (task : Task ι) : Task ι :=
      { task with pieces := Function.update task.pieces info.pieceNum (some info) }
    (s.modifyTask t store, some (.seeding t cdn))
  | .done result =>
    let s₁ := s.handleTaskSuccess t result
    match s₁.peers cdn with
    | some pr => (s₁.handlePeerSuccess cdn pr tinyFile, none)
    | none => (s₁, none)

/-- A seed received by a trigger goroutine; the first one initializes the CDN peer it names
(`cdn.go:95–101`). -/
def seedReceived (cdn : ι) (h : η) (seed : PieceSeed) (tinyFile : Option (List UInt8)) :
    SeedTrigger ι τ → Resources ι τ η × Option (SeedTrigger ι τ)
  | .obtaining t =>
    match s.initPeer t cdn h with
    | none => (s.handleTaskFail t, none)
    | some s₁ => s₁.seedPiece t cdn seed tinyFile
  | .seeding t cdn' => s.seedPiece t cdn' seed tinyFile

/-- A trigger goroutine whose stream failed (`cdn.go:81–91`, then `service.go:370–373`): an
initialized CDN peer gets `PeerEventDownloadFailed`, and the task `handleTaskFail`. -/
def seedFailed : SeedTrigger ι τ → Resources ι τ η
  | .obtaining t => s.handleTaskFail t
  | .seeding t cdn =>
    match s.eventOn cdn .downloadFailed with
    | .error _ => s.handleTaskFail t
    | .ok s₁ => s₁.handleTaskFail t

/-- One peer of `PeerManager.RunGC` (`peer_manager.go:127–151`) past its TTL: a peer without
children that has left is deleted with its parent cut, another one is sent
`PeerEventLeave`, a refused event only logged. -/
def gcPeer (p : ι) : Resources ι τ η :=
  match s.peers p with
  | some pr =>
    if pr.stored ∧ s.graph.lenChildren p = 0 then
      if pr.state = .leave then
        ({ s with graph := s.graph.deleteParent p } : Resources ι τ η).deletePeer p
      else match s.peerEvent p pr .leave with
        | .error _ => s
        | .ok s₁ => s₁
    else s
  | none => s

/-- One task of `TaskManager.RunGC` (`task_manager.go:103–113`) past its TTL: deleted when it
has no peers and is not running. -/
def gcTask (t : τ) : Resources ι τ η :=
  match s.tasks t with
  | some task =>
    if task.peers = [] ∧ task.state ≠ .running then
      { s with tasks := Function.update s.tasks t none }
    else s
  | none => s

end Resources

/-- The atomic steps of the service. -/
inductive ServiceOp (ι τ η : Type) where
  | registerPeerTask (req : PeerTaskRequest ι τ η)
  | reportPeerResult (p : ι) (success : Bool) (result : Resources.PeerResult)
      (tinyFile : Option (List UInt8)) (children : List ι)
  | leaveTask (p : ι) (children : List ι)
  /-- Trigger goroutine `i` receives a seed naming CDN peer `cdn` on host `host`. -/
  | seedRecv (i : ℕ) (cdn : ι) (host : η) (seed : PieceSeed) (tinyFile : Option (List UInt8))
  /-- The stream of trigger goroutine `i` fails. -/
  | seedError (i : ℕ)
  | gcPeer (p : ι)
  | gcTask (t : τ)

section Step

variable {ι τ η σ : Type} [DecidableEq ι] [DecidableEq τ] [DecidableEq η] [LinearOrder σ]
variable (cfg : Config) (fuel : ℕ) (evaluate : ι → ι → ℤ → σ) (isBadNode : ι → Bool)
  (send : ι → Packet ι → Bool) (cdnPeer : Option ι)

/-- One step of the service; `none` when the step cannot happen: a goroutine that does not
exist, children listed wrongly, or a call that does not return within `fuel`. A registration
that fires `TaskEventDownload` starts a trigger goroutine. -/
def serviceStep : ServiceOp ι τ η → ServiceState ι τ η → Option (ServiceState ι τ η)
  | .registerPeerTask req, st =>
    let started := (st.resources.registerTask cfg.backSourceCount req.taskId).isOk &&
      !st.resources.reusesTask req.taskId
    (st.resources.registerPeerTask cfg fuel evaluate isBadNode req).map fun r =>
      ⟨r.1, if started then st.seeds ++ [.obtaining req.taskId] else st.seeds⟩
  | .reportPeerResult p success result tinyFile children, st =>
    if st.resources.listsChildren p children then
      (st.resources.reportPeerResult cfg fuel evaluate isBadNode send cdnPeer p success result
        tinyFile children).map fun r => { st with resources := r.1 }
    else none
  | .leaveTask p children, st =>
    if st.resources.listsChildren p children then
      (st.resources.leaveTask cfg fuel evaluate isBadNode send cdnPeer p children).map
        fun r => { st with resources := r.1 }
    else none
  | .seedRecv i cdn host seed tinyFile, st =>
    st.seeds[i]?.map fun trigger =>
      let r := st.resources.seedReceived cdn host seed tinyFile trigger
      ⟨r.1, match r.2 with
        | some next => st.seeds.set i next
        | none => st.seeds.eraseIdx i⟩
  | .seedError i, st =>
    st.seeds[i]?.map fun trigger => ⟨st.resources.seedFailed trigger, st.seeds.eraseIdx i⟩
  | .gcPeer p, st => some { st with resources := st.resources.gcPeer p }
  | .gcTask t, st => some { st with resources := st.resources.gcTask t }

end Step

namespace Resources

variable {ι τ η : Type} [DecidableEq τ] {s : Resources ι τ η}

/-- `TaskEventDownload` is refused from `Running` alone. -/
theorem download_dst_eq_none_iff {st : TaskState} :
    TaskEvent.download.dst st = none ↔ st = .running := by
  cases st <;> simp [TaskEvent.dst]

/-- `registerTask` fails exactly on a loaded task that is `Running` with no peer that has not
left: it is not reused, and `TaskEventDownload` is refused from `Running`. -/
theorem registerTask_error_iff {b : ℤ} {t : τ} {e : FsmError} :
    s.registerTask b t = .error e ↔
      ∃ task, s.tasks t = some task ∧ task.state = .running ∧ s.lenAvailablePeers task = 0 ∧
        e = .task .download .running := by
  unfold registerTask
  cases ht : s.tasks t with
  | none => simp [setTask, taskEvent, newTask, TaskEvent.dst]
  | some task =>
    simp only [Option.some.injEq, exists_eq_left']
    by_cases hreuse : (task.state = .running ∨ task.state = .succeeded) ∧
        s.lenAvailablePeers task ≠ 0
    · -- the reused task answers at once
      rw [if_pos hreuse]
      have : ¬ (task.state = .running ∧ s.lenAvailablePeers task = 0) := fun h =>
        hreuse.2 h.2
      simp only [reduceCtorEq, false_iff]
      tauto
    · rw [if_neg hreuse]
      unfold taskEvent
      cases hdst : TaskEvent.download.dst task.state with
      | none =>
        have hrun := download_dst_eq_none_iff.mp hdst
        have hlen : s.lenAvailablePeers task = 0 := by
          by_contra hne
          exact hreuse ⟨.inl hrun, hne⟩
        simp [hrun, hlen, eq_comm]
      | some dst =>
        have hrun : task.state ≠ .running := fun h => by
          rw [h] at hdst
          cases hdst
        simp [hrun]

end Resources

/-- The three handler calls of the run that strands a task: peer `0` registers for task `0`
from host `0`, reports a failed download and leaves. -/
def strandingRun : List (ServiceOp ℕ ℕ ℕ) :=
  [.registerPeerTask ⟨0, 0, 0⟩, .reportPeerResult 0 false ⟨0, 0⟩ none [], .leaveTask 0 []]

/-- Registration fails on a reachable state: after its only peer has failed and left, task `0`
is still `Running` while its CDN trigger goroutine waits for the first seed, so the next
`registerTask` of it fires `TaskEventDownload` from `Running` and `RegisterPeerTask` answers
`Code_SchedTaskStatusError`. -/
theorem registerTask_fails_on_reachable_state :
    ∃ st : ServiceState ℕ ℕ ℕ,
      Reachable (serviceStep defaultConfig 10 (fun _ _ _ => (0 : ℤ)) (fun _ => false)
        (fun _ _ => true) none) ServiceState.initial st ∧
      st.seeds = [.obtaining 0] ∧
      st.resources.registerTask defaultConfig.backSourceCount 0 = .error (.task .download .running) ∧
      st.resources.registerPeerTask defaultConfig 10 (fun _ _ _ => (0 : ℤ)) (fun _ => false)
        ⟨0, 1, 1⟩ = some (st.resources, .error ⟨.schedTaskStatusError, .registerTaskFail⟩) := by
  obtain ⟨st, hrun⟩ : ∃ st, run (serviceStep defaultConfig 10 (fun _ _ _ => (0 : ℤ))
      (fun _ => false) (fun _ _ => true) none) strandingRun ServiceState.initial = some st :=
    ⟨_, rfl⟩
  refine ⟨st, reachable_of_run hrun, ?_⟩
  cases hrun
  exact ⟨rfl, rfl, rfl⟩

end Dragonfly.Scheduler
