import Dragonfly.Scheduler.Service

/-!
# What registration answers

A successful `RegisterPeerTask` answers in agreement with the peer's new state: every
answer fires the register event of its own size scope, a tiny answer carries a direct piece
as long as the task, and a small one names the parent the peer now points at. The error
path is not atomic: the small-scope branch replaces the parent before it fires
`PeerEventRegisterSmall`, and a peer that registers again after leaving `Pending` keeps
the new edge. `handleTaskSuccess` fires its event before it stores the task's geometry, so
a registration that runs between the two sees a succeeded task of length zero, takes the
tiny branch, falls through to the small one and hands out piece 0 as the whole task.
-/

namespace Dragonfly.Scheduler

open Dragonfly.Base

/-- The peer state each answer registers (`service.go:94,148,120`). -/
def RegisterResult.peerState {ι : Type} : RegisterResult ι → PeerState
  | .tiny _ => .receivedTiny
  | .small _ _ => .receivedSmall
  | .normal => .receivedNormal

/-- The register event each answer fires. -/
def RegisterResult.event {ι : Type} : RegisterResult ι → PeerEvent
  | .tiny _ => .registerTiny
  | .small _ _ => .registerSmall
  | .normal => .registerNormal

namespace Resources

variable {ι τ η σ : Type} [DecidableEq ι] [DecidableEq τ] [LinearOrder σ]
variable {s s' : Resources ι τ η}

/-- The register events run no callback that writes scheduler state. -/
theorem peerCallback_register (p : ι) (t : τ) (r : RegisterResult ι) (src : PeerState) :
    s.peerCallback p t r.event src = s := by
  cases r <;> exact modifyTask_id t

/-- A register event that succeeds moves the peer to the answer's state and changes
nothing else. -/
theorem registerEvent_ok {p : ι} {pr : Peer τ η} {r r' : RegisterResult ι}
    (h : s.registerEvent p pr r.event r = (s', .ok r')) :
    r' = r ∧ s'.graph = s.graph ∧ s'.tasks = s.tasks ∧
      s'.peers p = some { pr with state := r.peerState } := by
  unfold registerEvent at h
  cases hev : s.peerEvent p pr r.event with
  | error err =>
    rw [hev] at h
    cases h
  | ok s'' =>
    rw [hev] at h
    cases h
    unfold peerEvent at hev
    cases hdst : r.event.dst pr.state with
    | none =>
      rw [hdst] at hev
      cases hev
    | some dst =>
      rw [hdst] at hev
      cases hev
      rw [peerCallback_register]
      have hdst' : dst = r.peerState := by
        cases r <;> cases hpr : pr.state <;>
          simp_all [RegisterResult.event, PeerEvent.dst, RegisterResult.peerState]
      subst hdst'
      exact ⟨rfl, rfl, rfl, by simp⟩

/-- What a successful answer `r` promises about the state `s'` it leaves: the peer is in
the answer's state, a tiny answer's piece is as long as the task, and a small answer names
the peer's parent. -/
structure AnswerSpec (s' : Resources ι τ η) (p : ι) (pr : Peer τ η) (task : Task ι)
    (r : RegisterResult ι) : Prop where
  peer_state : s'.peers p = some { pr with state := r.peerState }
  tiny_length : ∀ c, r = .tiny c → (c.length : ℤ) = task.contentLength
  small_parent : ∀ dst piece, r = .small dst piece → s'.graph.parent p = some dst

/-- The normal answer keeps its promise. -/
theorem answerSpec_normal {p : ι} {pr : Peer τ η} {task : Task ι} {r : RegisterResult ι}
    (h : s.registerEvent p pr .registerNormal .normal = (s', .ok r)) :
    s'.tasks = s.tasks ∧ AnswerSpec s' p pr task r := by
  obtain ⟨rfl, -, htasks, hpeer⟩ := registerEvent_ok (r := .normal) h
  exact ⟨htasks, hpeer, fun _ h' => (by cases h'), fun _ _ h' => (by cases h')⟩

/-- The small-scope branch answers small only with the parent it has just stored, and
never answers tiny. -/
theorem registerSmall_ok {fuel : ℕ} {evaluate : ι → ι → ℤ → σ} {isBadNode : ι → Bool}
    {p : ι} {pr : Peer τ η} {task : Task ι} {r : RegisterResult ι}
    (h : s.registerSmall fuel evaluate isBadNode p pr task = some (s', .ok r)) :
    s'.tasks = s.tasks ∧ AnswerSpec s' p pr task r := by
  unfold registerSmall at h
  obtain ⟨found, -, h⟩ := Option.map_eq_some_iff.mp h
  split at h
  · exact answerSpec_normal h
  · next parent =>
    split at h
    · exact answerSpec_normal h
    · next piece _ =>
      obtain ⟨rfl, hgraph, htasks, hpeer⟩ := registerEvent_ok (r := .small parent piece) h
      refine ⟨htasks, hpeer, fun _ h' => (by cases h'), fun dst piece' h' => ?_⟩
      cases h'
      rw [hgraph]
      simp

/-- Every successful branch after registration keeps the promise of its answer. -/
theorem registerByScope_ok {fuel : ℕ} {evaluate : ι → ι → ℤ → σ} {isBadNode : ι → Bool}
    {p : ι} {pr : Peer τ η} {task : Task ι} {r : RegisterResult ι}
    (h : s.registerByScope fuel evaluate isBadNode p pr task = some (s', .ok r)) :
    s'.tasks = s.tasks ∧ AnswerSpec s' p pr task r := by
  unfold registerByScope at h
  split at h
  · split at h
    · split at h
      · next hlen =>
        obtain ⟨rfl, -, htasks, hpeer⟩ :=
          registerEvent_ok (r := .tiny task.directPiece) (Option.some.inj h)
        refine ⟨htasks, hpeer, fun c h' => ?_, fun _ _ h' => by cases h'⟩
        cases h'
        exact hlen.2
      · exact registerSmall_ok h
    · exact registerSmall_ok h
    · exact answerSpec_normal (Option.some.inj h)
  · exact answerSpec_normal (Option.some.inj h)

variable [DecidableEq η] in
/-- A successful `RegisterPeerTask` keeps the promise of its answer for the registered peer
and the registered task. -/
theorem registerPeerTask_ok {cfg : Config} {fuel : ℕ} {evaluate : ι → ι → ℤ → σ}
    {isBadNode : ι → Bool} {req : PeerTaskRequest ι τ η} {r : RegisterResult ι}
    (h : s.registerPeerTask cfg fuel evaluate isBadNode req = some (s', .ok r)) :
    ∃ pr task, s'.tasks req.taskId = some task ∧ AnswerSpec s' req.peerId pr task r := by
  unfold registerPeerTask at h
  split at h
  · cases h
  · next s₁ _ =>
    split at h
    next s₂ pr _ =>
    split at h
    · cases h
    · next task htask =>
      obtain ⟨htasks, hspec⟩ := registerByScope_ok h
      exact ⟨pr, task, htasks ▸ htask, hspec⟩

end Resources

/-! ### A peer registering again keeps the edge of a refused small registration -/

/-- A task that has succeeded with one piece of 1000 bytes, piece 0 stored. -/
def succeededSmallTask : Task ℕ where
  state := .succeeded
  contentLength := 1000
  totalPieceCount := 1
  backToSourceLimit := 3
  backToSourcePeers := ∅
  pieces := fun n => if n = 0 then some ⟨0, 0, 1000, 0⟩ else none
  peers := [0, 1]
  directPiece := []

/-- The CDN peer `0` has seeded task `0`; peer `1` registered while the task was running and
has already received its normal registration. -/
def reregisterState : Resources ℕ ℕ ℕ where
  peers := fun p =>
    if p = 0 then some ⟨0, 0, .succeeded, true, false⟩
    else if p = 1 then some ⟨0, 1, .receivedNormal, true, true⟩ else none
  tasks := fun t => if t = 0 then some succeededSmallTask else none
  hosts := fun h =>
    if h = 0 then some ⟨100, {0}, true⟩ else if h = 1 then some ⟨100, {1}, false⟩ else none
  graph := PeerGraph.empty

/-- Peer `1` registers again: the small-scope branch points it at the CDN peer, the register
event is refused from `ReceivedNormal`, and the error leaves the new edge in both maps. -/
theorem registerPeerTask_reregister_error_keeps_edge :
    ∃ s', reregisterState.registerPeerTask defaultConfig 10 (fun _ _ _ => (0 : ℕ))
        (fun _ => false) ⟨0, 1, 1⟩ =
      some (s', .error ⟨.schedError, .fsm (.peer .registerSmall .receivedNormal)⟩) ∧
      reregisterState.graph.parent 1 = none ∧ s'.graph.parent 1 = some 0 ∧
      1 ∉ reregisterState.graph.children 0 ∧ 1 ∈ s'.graph.children 0 := by
  refine ⟨_, rfl, rfl, ?_, ?_, ?_⟩
  · rfl
  · decide
  · decide

/-! ### A registration between the two halves of `handleTaskSuccess` -/

/-- Task `0` while the CDN seeds it: a new task of length zero whose three pieces of a
10-byte file, cut at 4 bytes, are stored by the CDN stream. -/
def seedingTask : Task ℕ where
  state := .running
  contentLength := 0
  totalPieceCount := 0
  backToSourceLimit := 3
  backToSourcePeers := ∅
  pieces := fun n =>
    if n = 0 then some ⟨0, 0, 4, 0⟩ else if n = 1 then some ⟨1, 4, 4, 4⟩
    else if n = 2 then some ⟨2, 8, 2, 8⟩ else none
  peers := [0]
  directPiece := []

/-- The CDN peer `0` is downloading task `0`; no other peer is known. -/
def seedingState : Resources ℕ ℕ ℕ where
  peers := fun p => if p = 0 then some ⟨0, 0, .running, true, false⟩ else none
  tasks := fun t => if t = 0 then some seedingTask else none
  hosts := fun h => if h = 0 then some ⟨100, {0}, true⟩ else none
  graph := PeerGraph.empty

/-- `handleTaskSuccess` with the CDN result `(3 pieces, 10 bytes)` runs its event, a new peer
registers, and only then are the two stores made: the registration answers small with
piece 0, 4 bytes, as the whole of a 10-byte task. -/
theorem registerPeerTask_between_taskSuccess_steps :
    ∃ s₁ s₂, seedingState.taskSuccessEvent 0 = some s₁ ∧
      s₁.registerPeerTask defaultConfig 10 (fun _ _ _ => (0 : ℕ)) (fun _ => false) ⟨0, 1, 1⟩ =
        some (s₂, .ok (.small 0 ⟨0, 0, 4, 0⟩)) ∧
      (((s₂.storeTotalPieceCount 0 3).storeContentLength 0 10).tasks 0).map
        Task.contentLength = some 10 ∧
      seedingState.handleTaskSuccess 0 ⟨3, 10⟩ =
        (s₁.storeTotalPieceCount 0 3).storeContentLength 0 10 := by
  refine ⟨_, _, rfl, rfl, rfl, rfl⟩

end Dragonfly.Scheduler
