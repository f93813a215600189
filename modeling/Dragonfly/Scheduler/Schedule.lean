import Dragonfly.Scheduler.Service

/-!
# Scheduling a parent

`ScheduleParent` and `NotifyAndFindParent` (`scheduler.go:61–183`). The retry loop
re-checks the back-to-source condition, the retry limit and a fresh `NotifyAndFindParent`
until one of them ends it; the sleep between rounds is left out. Whether a `stream.Send`
succeeds is the function `send` of the packet, and `LoadCDNPeer`, the task's CDN peer with
the latest `UpdateAt`, is the argument `cdnPeer` since update times are not modelled.
`BackToSourcePeers` is written only by the peer callbacks, and every peer event keeps it
equal to the set of the task's peers in `BackToSource`.
-/

namespace Dragonfly.Scheduler

open Dragonfly.Base

/-- The `PeerPacket`s the scheduler sends, by code; a success packet names its main peer. -/
inductive Packet (ι : Type) where
  | success (mainPeer : ι)
  | needBackSource
  | taskStatusError
  deriving DecidableEq, Repr

namespace Resources

variable {ι τ η σ : Type} [DecidableEq ι] [DecidableEq τ] [LinearOrder σ]
variable (s : Resources ι τ η)

/-- `NotifyAndFindParent` (`scheduler.go:143`): for a running peer, send the best candidate
of `filterParents` as its new main peer and replace its parent; the packets delivered and
whether a parent was found. -/
def notifyAndFindParent (fuel : ℕ) (evaluate : ι → ι → ℤ → σ) (isBadNode : ι → Bool)
    (send : Packet ι → Bool) (blocklist : ι → Bool) (p : ι) (pr : Peer τ η) :
    Option (Resources ι τ η × List (Packet ι) × Bool) :=
  if pr.state ≠ .running then some (s, [], false)
  else
    let task := s.tasks pr.task
    let taskPeers := (task.map Task.peers).getD []
    let totalPieceCount := (task.map Task.totalPieceCount).getD 0
    (s.graph.filterParents fuel blocklist isBadNode s.freeUploadLoadOf p taskPeers).map fun parents =>
      match parents.argmax fun parent => evaluate parent p totalPieceCount with
      | none => (s, [], false)
      | some best =>
        if !pr.hasStream then (s, [], false)
        else if !send (.success best) then (s, [], false)
        else ({ s with graph := s.graph.replaceParent p best }, [.success best], true)

/-- The back-to-source branch of `ScheduleParent` (`scheduler.go:77–108`): notify the peer,
fire `PeerEventDownloadFromBackToSource`, restart a failed task and cut the peer's parent;
every failure returns at once. -/
def backToSource (p : ι) (pr : Peer τ η) : Resources ι τ η × List (Packet ι) :=
  match s.peerEvent p pr .downloadFromBackToSource with
  | .error _ => (s, [.needBackSource])
  | .ok s₁ =>
    match s₁.tasks pr.task with
    | some task =>
      if task.state = .failed then
        match s₁.taskEvent pr.task task .download with
        | .error _ => (s₁, [.needBackSource])
        | .ok s₂ => ({ s₂ with graph := s₂.graph.deleteParent p }, [.needBackSource])
      else ({ s₁ with graph := s₁.graph.deleteParent p }, [.needBackSource])
    | none => ({ s₁ with graph := s₁.graph.deleteParent p }, [.needBackSource])

variable {s}

section Choice

omit [DecidableEq τ]

/-- `NotifyAndFindParent` leaves a peer that is not running alone. -/
theorem notifyAndFindParent_of_not_running {fuel : ℕ} {evaluate : ι → ι → ℤ → σ}
    {isBadNode send blocklist} {p : ι} {pr : Peer τ η} (h : pr.state ≠ .running) :
    s.notifyAndFindParent fuel evaluate isBadNode send blocklist p pr = some (s, [], false) := by
  simp [notifyAndFindParent, h]

/-- What `FindParent` returns is a candidate of `filterParents` that scores highest with the
peer itself in the parent position of `Evaluate`. -/
theorem findParent_best {fuel : ℕ} {evaluate : ι → ι → ℤ → σ} {isBadNode blocklist : ι → Bool}
    {p c : ι} {pr : Peer τ η}
    (h : s.findParent fuel evaluate isBadNode blocklist p pr = some (some c)) :
    ∃ parents, s.graph.filterParents fuel blocklist isBadNode s.freeUploadLoadOf p
        (((s.tasks pr.task).map Task.peers).getD []) = some parents ∧ c ∈ parents ∧
      ∀ d ∈ parents, evaluate p d (((s.tasks pr.task).map Task.totalPieceCount).getD 0) ≤
        evaluate p c (((s.tasks pr.task).map Task.totalPieceCount).getD 0) := by
  obtain ⟨parents, hparents, hmax⟩ := Option.map_eq_some_iff.mp h
  exact ⟨parents, hparents, List.argmax_mem hmax, fun d hd => List.le_of_mem_argmax hd hmax⟩

/-- When `NotifyAndFindParent` succeeds it has sent and stored a candidate of `filterParents`
that scores highest with the peer in the child position of `Evaluate`. -/
theorem notifyAndFindParent_best {fuel : ℕ} {evaluate : ι → ι → ℤ → σ}
    {isBadNode send blocklist} {p : ι} {pr : Peer τ η} {s' : Resources ι τ η}
    {packets : List (Packet ι)}
    (h : s.notifyAndFindParent fuel evaluate isBadNode send blocklist p pr =
      some (s', packets, true)) :
    ∃ parents best, s.graph.filterParents fuel blocklist isBadNode s.freeUploadLoadOf p
        (((s.tasks pr.task).map Task.peers).getD []) = some parents ∧ best ∈ parents ∧
      (∀ d ∈ parents, evaluate d p (((s.tasks pr.task).map Task.totalPieceCount).getD 0) ≤
        evaluate best p (((s.tasks pr.task).map Task.totalPieceCount).getD 0)) ∧
      packets = [.success best] ∧ s' = { s with graph := s.graph.replaceParent p best } := by
  unfold notifyAndFindParent at h
  by_cases hrun : pr.state ≠ .running
  · rw [if_pos hrun] at h
    cases h
  rw [if_neg hrun] at h
  dsimp only at h
  obtain ⟨parents, hparents, hbest⟩ := Option.map_eq_some_iff.mp h
  -- only the branch that sends a success packet answers `true`
  split at hbest
  · cases hbest
  · next best hmax =>
    -- a refused stream or send answers `false`
    split_ifs at hbest <;> simp only [Prod.mk.injEq, Bool.false_eq_true, and_false] at hbest
    obtain ⟨rfl, rfl, -⟩ := hbest
    exact ⟨parents, best, hparents, List.argmax_mem hmax,
      fun d hd => List.le_of_mem_argmax hd hmax, rfl, rfl⟩

end Choice

/-- When the table refuses `DownloadFromBackToSource`, the back-to-source branch changes
nothing, though `NeedBackSource` has already gone out. -/
theorem backToSource_of_refused {p : ι} {pr : Peer τ η}
    (h : PeerEvent.downloadFromBackToSource.dst pr.state = none) :
    s.backToSource p pr = (s, [.needBackSource]) := by
  simp [backToSource, peerEvent_of_dst_none h]

end Resources

variable {ι τ η σ : Type} [DecidableEq ι] [DecidableEq τ] [LinearOrder σ]

/-- Round `n` of the loop of `ScheduleParent` (`scheduler.go:63–139`) from state `s`, with at
most `rounds` rounds left; the packets delivered on the way. -/
def scheduleParentFrom (cfg : Config) (fuel : ℕ) (evaluate : ι → ι → ℤ → σ)
    (isBadNode : ι → Bool) (send : Packet ι → Bool) (cdnPeer : Option ι) (blocklist : ι → Bool)
    (p : ι) (pr : Peer τ η) : ℕ → ℕ → Resources ι τ η → Option (Resources ι τ η × List (Packet ι))
  | 0, _, s => some (s, [])
  | rounds + 1, n, s =>
    let cdnFailed := (cdnPeer.bind s.peers).any fun cdn => cdn.state = .failed
    let canBackToSource := ((s.tasks pr.task).map Task.canBackToSource).getD false
    if (decide (cfg.retryBackSourceLimit ≤ n) || cdnFailed) && canBackToSource then
      if !pr.hasStream then some (s, [])
      else if !send .needBackSource then some (s, [])
      else some (s.backToSource p pr)
    else if cfg.retryLimit ≤ n then
      if pr.hasStream && send .taskStatusError then some (s, [.taskStatusError]) else some (s, [])
    else
      (s.notifyAndFindParent fuel evaluate isBadNode send blocklist p pr).bind fun
        | (s', packets, true) => some (s', packets)
        | (s', packets, false) =>
          (scheduleParentFrom cfg fuel evaluate isBadNode send cdnPeer blocklist p pr rounds
            (n + 1) s').map fun (s'', packets') => (s'', packets ++ packets')

/-- A peer in a state the table does not let go back to source is not running either. -/
theorem PeerState.ne_running_of_refused {st : PeerState}
    (h : PeerEvent.downloadFromBackToSource.dst st = none) : st ≠ .running := by
  rintro rfl
  simp [PeerEvent.dst] at h

/-- For a peer the table does not let go back to source, no round of the loop changes the
state: `NotifyAndFindParent` skips it and the back-to-source branch stops at the refused
event. -/
theorem scheduleParentFrom_of_refused {cfg : Config} {fuel : ℕ} {evaluate : ι → ι → ℤ → σ}
    {isBadNode send cdnPeer blocklist} {p : ι} {pr : Peer τ η}
    (href : PeerEvent.downloadFromBackToSource.dst pr.state = none) (rounds n : ℕ)
    (s : Resources ι τ η) : ∃ packets,
      scheduleParentFrom cfg fuel evaluate isBadNode send cdnPeer blocklist p pr rounds n s =
        some (s, packets) := by
  induction rounds generalizing n with
  | zero => exact ⟨[], rfl⟩
  | succ rounds ih =>
    obtain ⟨packets, h⟩ := ih (n + 1)
    simp only [scheduleParentFrom, Resources.backToSource_of_refused href,
      Resources.notifyAndFindParent_of_not_running (PeerState.ne_running_of_refused href),
      Option.bind_some, h, Option.map_some]
    split_ifs <;> simp

namespace Resources

variable (s : Resources ι τ η)

/-- `ScheduleParent` (`scheduler.go:61`): the loop from round 0; round `RetryLimit` always
returns, so `RetryLimit + 1` rounds suffice. -/
def scheduleParent (cfg : Config) (fuel : ℕ) (evaluate : ι → ι → ℤ → σ)
    (isBadNode : ι → Bool) (send : Packet ι → Bool) (cdnPeer : Option ι) (blocklist : ι → Bool)
    (p : ι) (pr : Peer τ η) : Option (Resources ι τ η × List (Packet ι)) :=
  scheduleParentFrom cfg fuel evaluate isBadNode send cdnPeer blocklist p pr
    (cfg.retryLimit + 1) 0 s

/-! ### `BackToSourcePeers` follows the state machine -/

/-- Every task's `BackToSourcePeers` holds exactly its peers in `BackToSource`. -/
def BackToSourceExact : Prop :=
  ∀ t task, s.tasks t = some task →
    ∀ q, q ∈ task.backToSourcePeers ↔ ∃ qr, s.peers q = some qr ∧ qr.task = t ∧ qr.state = .backToSource

variable {s}

/-- The callbacks put the peer in the set exactly when the event enters `BackToSource`, as
long as the set held the peer exactly when it was in `BackToSource` before. -/
theorem mem_backToSourceUpdate {p q : ι} {e : PeerEvent} {src dst : PeerState}
    {peers : Finset ι} (hdst : e.dst src = some dst) (hp : p ∈ peers ↔ src = .backToSource) :
    q ∈ backToSourceUpdate p e src peers ↔ if q = p then dst = .backToSource else q ∈ peers := by
  by_cases hq : q = p
  · subst hq
    cases e <;> cases src <;> simp only [PeerEvent.dst, reduceCtorEq, Option.some.injEq] at hdst <;>
      subst hdst <;> simp_all [backToSourceUpdate]
  · cases e <;> cases src <;> simp [backToSourceUpdate, hq]

/-- A peer event fired on the peer's current record keeps `BackToSourcePeers` exact. -/
theorem BackToSourceExact.peerEvent (hinv : s.BackToSourceExact) {p : ι} {pr : Peer τ η}
    (hpr : s.peers p = some pr) {e : PeerEvent} {s' : Resources ι τ η}
    (h : s.peerEvent p pr e = .ok s') : s'.BackToSourceExact := by
  unfold Resources.peerEvent at h
  split at h
  · cases h
  · next dst hdst =>
    cases h
    intro t task ht q
    simp only [peerCallback, setPeer, modifyTask] at ht ⊢
    by_cases htp : t = pr.task
    · subst htp
      simp only [Function.update_self, Option.map_eq_some_iff] at ht
      obtain ⟨task₀, ht₀, rfl⟩ := ht
      have hp : p ∈ task₀.backToSourcePeers ↔ pr.state = .backToSource := by
        rw [hinv _ _ ht₀ p]
        simp [hpr]
      rw [mem_backToSourceUpdate hdst hp]
      by_cases hq : q = p
      · subst hq
        simp
      · simp [hq, hinv _ _ ht₀ q]
    · rw [Function.update_of_ne htp] at ht
      rw [hinv t task ht q]
      by_cases hq : q = p
      · subst hq
        simp [hpr, Ne.symm htp]
      · simp [hq]

/-- The divergence of `ScheduleParent` from the set: a peer the table does not let go back to
source, and that is not in `BackToSource` already, stays out of `BackToSourcePeers`, whatever
packets it has been sent. -/
theorem scheduleParent_refused_not_mem (hinv : s.BackToSourceExact) {p : ι} {pr : Peer τ η}
    (hpr : s.peers p = some pr) (href : PeerEvent.downloadFromBackToSource.dst pr.state = none)
    (hbts : pr.state ≠ .backToSource) {cfg : Config} {fuel : ℕ} {evaluate : ι → ι → ℤ → σ}
    {isBadNode send cdnPeer blocklist} {s' : Resources ι τ η} {packets : List (Packet ι)}
    (h : s.scheduleParent cfg fuel evaluate isBadNode send cdnPeer blocklist p pr =
      some (s', packets)) {task : Task ι} (ht : s'.tasks pr.task = some task) :
    p ∉ task.backToSourcePeers := by
  have hs : s' = s := by
    obtain ⟨packets', h'⟩ : ∃ packets', s.scheduleParent cfg fuel evaluate isBadNode send cdnPeer
        blocklist p pr = some (s, packets') := scheduleParentFrom_of_refused href _ _ s
    rw [h'] at h
    cases h
    rfl
  subst hs
  rw [hinv _ _ ht p]
  rintro ⟨qr, hqr, -, hst⟩
  rw [hpr, Option.some.injEq] at hqr
  subst hqr
  exact hbts hst

/-! ### `LeaveTask` -/

variable [DecidableEq η]

/-- `PeerManager.Delete` (`peer_manager.go:114`): a stored peer leaves the manager, its host's
peers and its task's peers. -/
def deletePeer (p : ι) : Resources ι τ η :=
  match s.peers p with
  | some peer =>
    if peer.stored then
      { s with
        peers := Function.update s.peers p (some { peer with stored := false })
        hosts := Function.update s.hosts peer.host ((s.hosts peer.host).map fun host =>
          { host with peers := host.peers.erase p })
        tasks := Function.update s.tasks peer.task ((s.tasks peer.task).map fun task =>
          { task with peers := task.peers.erase p }) }
    else s
  | none => s

end Resources

/-- `ScheduleParent` on each child in the order `Children.Range` visits them
(`service.go:331–342`), with the packets each child is sent. -/
def scheduleChildren (cfg : Config) (fuel : ℕ) (evaluate : ι → ι → ℤ → σ)
    (isBadNode : ι → Bool) (send : ι → Packet ι → Bool) (cdnPeer : Option ι)
    (blocklist : ι → Bool) : List ι → Resources ι τ η →
      Option (Resources ι τ η × List (ι × Packet ι))
  | [], s => some (s, [])
  | c :: cs, s =>
    match s.peers c with
    -- a child is always a peer object; an unknown key has nothing to schedule
    | none => scheduleChildren cfg fuel evaluate isBadNode send cdnPeer blocklist cs s
    | some cr =>
      (s.scheduleParent cfg fuel evaluate isBadNode (send c) cdnPeer blocklist c cr).bind
        fun (s', packets) =>
          (scheduleChildren cfg fuel evaluate isBadNode send cdnPeer blocklist cs s').map
            fun (s'', rest) => (s'', packets.map (c, ·) ++ rest)

namespace Resources

variable [DecidableEq η] (s : Resources ι τ η)

/-- `Service.LeaveTask` (`service.go:317`): fire `PeerEventLeave`, reschedule every child
with the leaving peer on its blocklist, cut the peer's parent and delete it from the peer
manager. `children` is the order in which `Children.Range` visits the peer's children. -/
def leaveTask (cfg : Config) (fuel : ℕ) (evaluate : ι → ι → ℤ → σ) (isBadNode : ι → Bool)
    (send : ι → Packet ι → Bool) (cdnPeer : Option ι) (p : ι) (children : List ι) :
    Option (Resources ι τ η × Except DfError (List (ι × Packet ι))) :=
  match s.peers p with
  | some pr =>
    if !pr.stored then some (s, .error ⟨.schedPeerNotFound, .peerNotFound⟩)
    else
      match s.peerEvent p pr .leave with
      | .error e => some (s, .error ⟨.schedTaskStatusError, .fsm e⟩)
      | .ok s₁ =>
        (scheduleChildren cfg fuel evaluate isBadNode send cdnPeer (fun c => decide (c = p))
          children s₁).map fun (s₂, packets) =>
            (({ s₂ with graph := s₂.graph.deleteParent p } : Resources ι τ η).deletePeer p,
              .ok packets)
  | none => some (s, .error ⟨.schedPeerNotFound, .peerNotFound⟩)

end Resources

/-- Task `0` runs with the default back-to-source limit and nobody back to source. -/
def leavingTask : Task ℕ where
  state := .running
  contentLength := 1000
  totalPieceCount := 4
  backToSourceLimit := 3
  backToSourcePeers := ∅
  pieces := fun _ => none
  peers := [0, 1]
  directPiece := []

/-- Peer `0` has finished task `0`, and peer `1` has finished downloading it from peer `0`:
the succeeded peer keeps its parent, and its piece-result stream is still open. -/
def leavingState : Resources ℕ ℕ ℕ where
  peers := fun p =>
    if p = 0 then some ⟨0, 0, .succeeded, true, false⟩
    else if p = 1 then some ⟨0, 1, .succeeded, true, true⟩ else none
  tasks := fun t => if t = 0 then some leavingTask else none
  hosts := fun h =>
    if h = 0 then some ⟨100, {0}, false⟩ else if h = 1 then some ⟨100, {1}, false⟩ else none
  graph := PeerGraph.empty.storeParent 1 0

/-- The state is consistent: nobody is in `BackToSource` and the set is empty. -/
theorem leavingState_backToSourceExact : leavingState.BackToSourceExact := by
  intro t task ht q
  simp only [leavingState] at ht ⊢
  split_ifs at ht with h0
  cases ht
  simp only [leavingTask, Finset.notMem_empty, false_iff, not_exists, not_and]
  intro qr hqr _
  split_ifs at hqr <;> cases hqr <;> simp

/-- Peer `0` leaves: `ScheduleParent` on its child `1` fails every round until the
back-to-source limit, then sends `NeedBackSource`, and `DownloadFromBackToSource` is refused
from `Succeeded`; peer `1` has been told to go back to source and is not in the set. -/
theorem leaveTask_needBackSource_outside_backToSourcePeers :
    ∃ s', leavingState.leaveTask defaultConfig 10 (fun _ _ _ => (0 : ℕ)) (fun _ => false)
        (fun _ _ => true) none 0 [1] = some (s', .ok [(1, .needBackSource)]) ∧
      leavingState.graph.children 0 = {1} ∧
      (s'.tasks 0).map (fun task => decide (1 ∈ task.backToSourcePeers)) = some false ∧
      (s'.peers 1).map Peer.state = some .succeeded ∧ leavingState.BackToSourceExact := by
  refine ⟨_, rfl, ?_, rfl, rfl, leavingState_backToSourceExact⟩
  decide

/-! ### `FindParent` against `NotifyAndFindParent` -/

/-- Task `0` runs with three peers and four pieces. -/
def rankingTask : Task ℕ where
  state := .running
  contentLength := 1000
  totalPieceCount := 4
  backToSourceLimit := 3
  backToSourcePeers := ∅
  pieces := fun _ => none
  peers := [0, 1, 2]
  directPiece := []

/-- Peers `0`, `1` and `2` run task `0`, each on its own host with free upload load; only
peer `0` has a piece-result stream, and nobody has a parent yet. -/
def rankingState : Resources ℕ ℕ ℕ where
  peers := fun p => if p ≤ 2 then some ⟨0, p, .running, true, decide (p = 0)⟩ else none
  tasks := fun t => if t = 0 then some rankingTask else none
  hosts := fun h => if h ≤ 2 then some ⟨100, {h}, false⟩ else none
  graph := PeerGraph.empty

/-- An evaluator that is not symmetric in its two peers: the child's ID minus the parent's. -/
def asymmetricEvaluate (parent child : ℕ) (_ : ℤ) : ℤ := (child : ℤ) - parent

/-- Out of the same two candidates `1` and `2` for peer `0`, `FindParent` takes `2`, which
scores below `1` with peer `0` in the child position, while `NotifyAndFindParent` sends and
stores `1`. -/
theorem findParent_disagrees_with_notifyAndFindParent :
    rankingState.graph.filterParents 10 (fun _ => false) (fun _ => false)
        rankingState.freeUploadLoadOf 0 rankingTask.peers = some [1, 2] ∧
      rankingState.findParent 10 asymmetricEvaluate (fun _ => false) (fun _ => false) 0
        ⟨0, 0, .running, true, true⟩ = some (some 2) ∧
      asymmetricEvaluate 2 0 4 < asymmetricEvaluate 1 0 4 ∧
      (rankingState.notifyAndFindParent 10 asymmetricEvaluate (fun _ => false) (fun _ => true)
        (fun _ => false) 0 ⟨0, 0, .running, true, true⟩).map (·.2) = some ([.success 1], true) := by
  refine ⟨?_, ?_, by decide, ?_⟩ <;> decide

end Dragonfly.Scheduler
