import Dragonfly.Scheduler.ServiceRuns
import Dragonfly.Scheduler.TreeRuns

/-!
# Piece results, and the service over whole runs

`Service.ReportPieceResult` (`service.go:204–292`) with `handleBeginOfPiece`,
`handlePieceSuccess` and `handlePieceFail` (`service.go:417–535`). Every stream is a goroutine
of its own: at the first result it receives the handler loads its peer and stores the stream in
it (`Peer.StoreStream`), then that result and every later one go through the branches of the
loop, and when `Recv` fails the deferred `DeleteStream` clears the peer's stream, whichever
stream is stored there (`peer.go:378–386`). The stream handlers join the steps of `ServiceRuns`
as threads of their own; a handler reads the record of its peer's ID at each step.

What a step of the service may do to the resources is said once (`Resources.Evolves`): move the
peer tree by steps of the tree model `PeerGraph.GraphStep`, and clear a peer's stream but never
store one. Every handler evolves the resources so, hence the tree of every reachable state is a
tree of that model and keeps `TreeInv` (`service_peerTree_reachable`), and a stored stream
always belongs to a running handler of its peer (`stream_held_of_reachable`). Each handler is one
atomic step here, as in the tree model; `Scheduler.ScheduleRace` shows what the code does where
no lock joins `filterParents` to `ReplaceParent`.

Left out: `peer.Pieces.Set` and `AppendPieceCost` of a successful piece, read only by the
evaluator, which is a parameter; the traffic metrics and the logs.
-/

namespace Dragonfly.Scheduler

open Dragonfly.Base Dragonfly.Base.Interleave Relation

/-- `common.BeginOfPiece` (`common.go:29`). -/
def beginOfPiece : ℤ := -1

/-- `common.EndOfPiece` (`common.go:28`). -/
def endOfPiece : ℤ := 2 ^ 30

/-- The `base.Code` values of a piece result that the handlers tell apart (`base.pb.go:51–75`);
`other` is any other code. -/
inductive PieceCode where
  | success | clientWaitPieceReady | clientPieceDownloadFail | peerTaskNotFound | cdnError
  | cdnTaskDownloadFail | clientPieceNotFound | cdnTaskNotFound | other
  deriving DecidableEq, Repr

/-- The fields of a `scheduler.PieceResult` the handlers read. The daemon sends a `PieceInfo`
with every result (`peertask_conductor.go:999–1095`, `peertask_piecetask_poller.go:125,204`),
so the nil case is not modelled. -/
structure PieceResult (ι : Type) where
  dstPid : ι
  pieceInfo : PieceInfo
  success : Bool
  code : PieceCode
  deriving DecidableEq, Repr

namespace Resources

variable {ι τ η σ : Type} [DecidableEq ι] [DecidableEq τ] [LinearOrder σ]
variable (s : Resources ι τ η)

/-- `Task.StorePiece` (`task.go:250`). -/
def storePiece (t : τ) (info : PieceInfo) : Resources ι τ η :=
  s.modifyTask t fun task =>
    { task with pieces := Function.update task.pieces info.pieceNum (some info) }

/-- `Peer.StoreStream` (`peer.go:379`) and `Peer.DeleteStream` (`peer.go:384`) on the record of
`p`: whether a stream is stored. -/
def setStream (p : ι) (b : Bool) : Resources ι τ η :=
  match s.peers p with
  | some pr => s.setPeer p { pr with hasStream := b }
  | none => s

/-- Whether the host of a peer is a CDN (`parent.Host.IsCDN`). -/
def isCDNPeer (pr : Peer τ η) : Bool := ((s.hosts pr.host).map Host.isCDN).getD false

variable (cfg : Config) (fuel : ℕ) (evaluate : ι → ι → ℤ → σ) (isBadNode : ι → Bool)
  (send : ι → Packet ι → Bool) (cdnPeer : Option ι)

/-- `Service.handleBeginOfPiece` (`service.go:417–454`): a registered peer starts downloading;
a normal one is then scheduled with itself on the blocklist. A refused event is only logged, and
a peer in another state only logs. -/
def handleBeginOfPiece (p : ι) (pr : Peer τ η) : Option (Resources ι τ η) :=
  match pr.state with
  | .receivedTiny | .receivedSmall =>
    match s.peerEvent p pr .download with
    | .error _ => some s
    | .ok s₁ => some s₁
  | .receivedNormal =>
    match s.peerEvent p pr .download with
    | .error _ => some s
    | .ok s₁ =>
      -- the event has moved the peer object to `Running`
      (s₁.scheduleParent cfg fuel evaluate isBadNode (send p) cdnPeer (fun c => decide (c = p)) p
        { pr with state := .running }).map Prod.fst
  | _ => some s

/-- `Service.handlePieceSuccess` (`service.go:460–471`): a back-to-source peer's piece is
stored in its task. -/
def handlePieceSuccess (pr : Peer τ η) (info : PieceInfo) : Resources ι τ η :=
  if pr.state = .backToSource then s.storePiece pr.task info else s

/-- The part of `handlePieceFail` that acts on the parent `q` the result names
(`service.go:491–519`), with the trigger goroutines it starts: a failed download fails the
parent, and a task the CDN has lost (or a piece a CDN parent does not have) fails the parent
through `handlePeerFail` and starts a goroutine that triggers the CDN again for its task. -/
def pieceFailParent (q : ι) (qr : Peer τ η) (code : PieceCode) (children : List ι) :
    Option (Resources ι τ η × List (SeedTrigger ι τ)) :=
  let retrigger := (s.handlePeerFail cfg fuel evaluate isBadNode send cdnPeer q qr children).map
    fun s₁ => (s₁, [SeedTrigger.obtaining qr.task])
  match code with
  | .clientPieceDownloadFail | .peerTaskNotFound | .cdnError | .cdnTaskDownloadFail =>
    match s.peerEvent q qr .downloadFailed with
    | .error _ => some (s, [])
    | .ok s₁ => some (s₁, [])
  -- `fallthrough` to `CDNTaskNotFound` for a CDN parent
  | .clientPieceNotFound => if s.isCDNPeer qr then retrigger else some (s, [])
  | .cdnTaskNotFound => retrigger
  | _ => some (s, [])

/-- `Service.handlePieceFail` (`service.go:474–535`) for the result `r` of peer `p`; `children`
is the order in which `Children.Range` visits the children of the parent. A parent the peer
manager does not hold reschedules the peer with an empty blocklist; otherwise the peer, if it
still runs, is rescheduled with the parent on its blocklist. -/
def handlePieceFail (p : ι) (pr : Peer τ η) (r : PieceResult ι) (children : List ι) :
    Option (Resources ι τ η × List (SeedTrigger ι τ)) :=
  let reschedule :=
    (s.scheduleParent cfg fuel evaluate isBadNode (send p) cdnPeer (fun _ => false) p pr).map
      fun r => (r.1, [])
  if pr.state = .backToSource then some (s, [])
  else
    match s.peers r.dstPid with
    | none => reschedule
    | some qr =>
      if !qr.stored then reschedule
      else
        (s.pieceFailParent cfg fuel evaluate isBadNode send cdnPeer r.dstPid qr r.code
          children).bind fun (s₁, started) =>
            match s₁.peers p with
            | some pr₁ =>
              if pr₁.state = .running then
                (s₁.scheduleParent cfg fuel evaluate isBadNode (send p) cdnPeer
                  (fun c => decide (c = r.dstPid)) p pr₁).map fun r => (r.1, started)
              else some (s₁, started)
            | none => some (s₁, started)

/-- One result taken by the loop of `ReportPieceResult` for peer `p` (`service.go:245–290`),
with the trigger goroutines it starts. -/
def handlePieceResult (p : ι) (pr : Peer τ η) (r : PieceResult ι) (children : List ι) :
    Option (Resources ι τ η × List (SeedTrigger ι τ)) :=
  if r.pieceInfo.pieceNum = beginOfPiece then
    (s.handleBeginOfPiece cfg fuel evaluate isBadNode send cdnPeer p pr).map (·, [])
  else if r.pieceInfo.pieceNum = endOfPiece then some (s, [])
  else if r.success then some (s.handlePieceSuccess pr r.pieceInfo, [])
  -- `ClientWaitPieceReady` is skipped until the daemon retries
  else if r.code ≠ .success ∧ r.code ≠ .clientWaitPieceReady then
    s.handlePieceFail cfg fuel evaluate isBadNode send cdnPeer p pr r children
  else some (s, [])

/-! ### What a step may do to the resources -/

/-- Peer `p` has a stream stored. -/
def StreamOf (s : Resources ι τ η) (p : ι) : Prop :=
  ∃ pr, s.peers p = some pr ∧ pr.hasStream = true

/-- What a handler of the service may do to the resources: move the peer tree by steps of the
tree model, and clear streams but store none. -/
structure Evolves (s s' : Resources ι τ η) : Prop where
  graph : ReflTransGen PeerGraph.GraphStep s.graph s'.graph
  stream : ∀ p, s'.StreamOf p → s.StreamOf p

variable {s} {s' s'' : Resources ι τ η}

section Basic

omit [DecidableEq τ]

theorem Evolves.refl (s : Resources ι τ η) : Evolves s s := ⟨.refl, fun _ h => h⟩

theorem Evolves.trans (h : Evolves s s') (h' : Evolves s' s'') : Evolves s s'' :=
  ⟨h.graph.trans h'.graph, fun p hp => h.stream p (h'.stream p hp)⟩

omit [DecidableEq ι] in
/-- Whether a stream is stored depends on the records alone. -/
theorem streamOf_congr (h : s'.peers = s.peers) (p : ι) : s'.StreamOf p ↔ s.StreamOf p := by
  simp only [StreamOf, h]

/-- A change that keeps the tree and every record. -/
theorem evolves_of_peers (hg : s'.graph = s.graph) (hp : s'.peers = s.peers) : Evolves s s' :=
  ⟨hg ▸ .refl, fun p => (streamOf_congr hp p).mp⟩

/-- A record written for `p` stores no stream that `p` did not have. -/
theorem StreamOf.of_update {p q : ι} {pr : Peer τ η}
    (hpeers : s'.peers = Function.update s.peers p (some pr))
    (hst : pr.hasStream = true → s.StreamOf p) (h : s'.StreamOf q) : s.StreamOf q := by
  obtain ⟨qr, hqr, hs⟩ := h
  rw [hpeers] at hqr
  by_cases hqp : q = p
  · subst hqp
    rw [Function.update_self, Option.some.injEq] at hqr
    subst hqr
    exact hst hs
  · rw [Function.update_of_ne hqp] at hqr
    exact ⟨qr, hqr, hs⟩

/-- A step of the tree model on the tree alone. -/
theorem evolves_graphStep {g : PeerGraph ι} (h : PeerGraph.GraphStep s.graph g) :
    Evolves s { s with graph := g } :=
  ⟨.single h, fun _ h => h⟩

end Basic

theorem evolves_modifyTask (t : τ) (f : Task ι → Task ι) : Evolves s (s.modifyTask t f) :=
  evolves_of_peers rfl rfl

/-- An event fired on a record whose stream, if it has one, is stored. -/
theorem Evolves.peerEvent {p : ι} {pr : Peer τ η} {e : PeerEvent}
    (hst : pr.hasStream = true → s.StreamOf p) (h : s.peerEvent p pr e = .ok s') :
    Evolves s s' := by
  unfold Resources.peerEvent at h
  split at h
  · cases h
  · cases h
    exact ⟨.refl, fun q => StreamOf.of_update rfl hst⟩

theorem Evolves.taskEvent {t : τ} {task : Task ι} {e : TaskEvent}
    (h : s.taskEvent t task e = .ok s') : Evolves s s' := by
  unfold Resources.taskEvent at h
  split at h
  · cases h
  · cases h
    exact evolves_modifyTask t _

/-! ### Scheduling -/

section Scheduling

variable {fuel : ℕ} {evaluate : ι → ι → ℤ → σ} {isBadNode : ι → Bool}
  {blocklist : ι → Bool} {p : ι} {pr : Peer τ η}

omit [DecidableEq τ] in
/-- `NotifyAndFindParent` leaves the resources alone or replaces the peer's parent by a
candidate of `filterParents`. -/
theorem notifyAndFindParent_cases {send : Packet ι → Bool} {packets : List (Packet ι)} {b : Bool}
    (h : s.notifyAndFindParent fuel evaluate isBadNode send blocklist p pr =
      some (s', packets, b)) :
    s' = s ∨ ∃ g, PeerGraph.GraphStep s.graph g ∧ s' = { s with graph := g } := by
  unfold notifyAndFindParent at h
  by_cases hrun : pr.state ≠ .running
  · rw [if_pos hrun] at h
    cases h
    exact .inl rfl
  · rw [if_neg hrun] at h
    dsimp only at h
    obtain ⟨parents, hparents, hbest⟩ := Option.map_eq_some_iff.mp h
    split at hbest
    · cases hbest
      exact .inl rfl
    · next best hmax =>
      -- only a delivered success packet writes the tree
      split_ifs at hbest <;> cases hbest
      · exact .inl rfl
      · exact .inl rfl
      · exact .inr ⟨_, .replaceParent s.graph fuel blocklist isBadNode s.freeUploadLoadOf _ parents
          p best hparents (List.argmax_mem hmax), rfl⟩

omit [DecidableEq τ] in
theorem Evolves.of_cases
    (h : s' = s ∨ ∃ g, PeerGraph.GraphStep s.graph g ∧ s' = { s with graph := g }) :
    Evolves s s' := by
  obtain rfl | ⟨g, hg, rfl⟩ := h
  · exact .refl _
  · exact evolves_graphStep hg

omit [DecidableEq τ] in
theorem peers_of_cases
    (h : s' = s ∨ ∃ g, PeerGraph.GraphStep s.graph g ∧ s' = { s with graph := g }) :
    s'.peers = s.peers := by
  obtain rfl | ⟨g, -, rfl⟩ := h <;> rfl

/-- The back-to-source branch of `ScheduleParent` fires an event on the peer and may restart its
task and cut its parent. -/
theorem Evolves.backToSource {packets : List (Packet ι)} (hst : pr.hasStream = true → s.StreamOf p)
    (h : s.backToSource p pr = (s', packets)) : Evolves s s' := by
  unfold Resources.backToSource at h
  split at h
  · cases h
    exact .refl s
  · next s₁ hev =>
    have h₁ := Evolves.peerEvent hst hev
    split at h
    · split_ifs at h
      · split at h
        · cases h
          exact h₁
        · next s₂ hte =>
          cases h
          exact h₁.trans ((Evolves.taskEvent hte).trans (evolves_graphStep (.deleteParent _ p)))
      · cases h
        exact h₁.trans (evolves_graphStep (.deleteParent _ p))
    · cases h
      exact h₁.trans (evolves_graphStep (.deleteParent _ p))

/-- Every round of the loop of `ScheduleParent` evolves the resources; the induction is on the
rounds left, and the peer's record is kept by the rounds that only move the tree. -/
theorem Evolves.scheduleParentFrom {cfg : Config} {send : Packet ι → Bool} {cdnPeer : Option ι} :
    ∀ {rounds n : ℕ} {s s' : Resources ι τ η} {packets : List (Packet ι)},
      (pr.hasStream = true → s.StreamOf p) →
      scheduleParentFrom cfg fuel evaluate isBadNode send cdnPeer blocklist p pr rounds n s =
        some (s', packets) → Evolves s s'
  | 0, _, s, _, _, _, h => by
    cases h
    exact .refl s
  | rounds + 1, n, s, s', packets, hst, h => by
    simp only [Dragonfly.Scheduler.scheduleParentFrom] at h
    split_ifs at h
    · cases h
      exact .refl s
    · cases h
      exact .refl s
    · exact Evolves.backToSource hst (Option.some.inj h)
    · cases h
      exact .refl s
    · cases h
      exact .refl s
    · obtain ⟨⟨s₁, pk, found⟩, hnotify, hrest⟩ := Option.bind_eq_some_iff.mp h
      have hcases := notifyAndFindParent_cases hnotify
      cases found with
      | true =>
        cases hrest
        exact Evolves.of_cases hcases
      | false =>
        -- the next round starts from a state with the same records
        obtain ⟨⟨s₂, pk'⟩, hnext, heq⟩ := Option.map_eq_some_iff.mp hrest
        cases heq
        have hst₁ : pr.hasStream = true → s₁.StreamOf p := fun hs =>
          (streamOf_congr (peers_of_cases hcases) p).mpr (hst hs)
        exact (Evolves.of_cases hcases).trans (Evolves.scheduleParentFrom hst₁ hnext)

theorem Evolves.scheduleParent {cfg : Config} {send : Packet ι → Bool} {cdnPeer : Option ι}
    {packets : List (Packet ι)} (hst : pr.hasStream = true → s.StreamOf p)
    (h : s.scheduleParent cfg fuel evaluate isBadNode send cdnPeer blocklist p pr =
      some (s', packets)) : Evolves s s' :=
  Evolves.scheduleParentFrom hst h

/-- Scheduling the children one after another, each from its own record. -/
theorem Evolves.scheduleChildren {cfg : Config} {send : ι → Packet ι → Bool}
    {cdnPeer : Option ι} :
    ∀ {children : List ι} {s s' : Resources ι τ η} {out : List (ι × Packet ι)},
      scheduleChildren cfg fuel evaluate isBadNode send cdnPeer blocklist children s =
        some (s', out) → Evolves s s'
  | [], s, _, _, h => by
    cases h
    exact .refl s
  | c :: cs, s, s', out, h => by
    simp only [Dragonfly.Scheduler.scheduleChildren] at h
    split at h
    · exact Evolves.scheduleChildren h
    · next cr hcr =>
      obtain ⟨⟨s₁, pk⟩, h₁, h₂⟩ := Option.bind_eq_some_iff.mp h
      dsimp only at h₂
      obtain ⟨⟨s₂, rest⟩, h₃, heq⟩ := Option.map_eq_some_iff.mp h₂
      cases heq
      exact (Evolves.scheduleParent (fun hs => ⟨cr, hcr, hs⟩) h₁).trans
        (Evolves.scheduleChildren h₃)

variable [DecidableEq η]

/-- `PeerManager.Delete` keeps every record's stream. -/
theorem evolves_deletePeer (p : ι) : Evolves s (s.deletePeer p) := by
  unfold deletePeer
  split
  · next peer hpeer =>
    split_ifs
    · exact ⟨.refl, fun q => StreamOf.of_update rfl fun hs => ⟨peer, hpeer, hs⟩⟩
    · exact .refl s
  · exact .refl s

theorem Evolves.leaveTask {cfg : Config} {send : ι → Packet ι → Bool} {cdnPeer : Option ι}
    {children : List ι} {res : Except DfError (List (ι × Packet ι))}
    (h : s.leaveTask cfg fuel evaluate isBadNode send cdnPeer p children = some (s', res)) :
    Evolves s s' := by
  unfold Resources.leaveTask at h
  split at h
  · next pr hpr =>
    split_ifs at h
    · cases h
      exact .refl s
    · split at h
      · cases h
        exact .refl s
      · next s₁ hev =>
        obtain ⟨⟨s₂, packets⟩, hchildren, heq⟩ := Option.map_eq_some_iff.mp h
        cases heq
        exact (Evolves.peerEvent (fun hs => ⟨pr, hpr, hs⟩) hev).trans
          ((Evolves.scheduleChildren hchildren).trans
            ((evolves_graphStep (.deleteParent _ p)).trans (evolves_deletePeer p)))
  · cases h
    exact .refl s

end Scheduling

/-! ### The handlers of the service -/

/-- A change of tasks and hosts alone. -/
def Frame (s s' : Resources ι τ η) : Prop := s'.peers = s.peers ∧ s'.graph = s.graph

omit [DecidableEq τ] in
theorem Frame.evolves (h : Frame s s') : Evolves s s' := evolves_of_peers h.2 h.1

section Frames

omit [DecidableEq ι]

omit [DecidableEq τ] in
theorem Frame.trans (h : Frame s s') (h' : Frame s' s'') : Frame s s'' :=
  ⟨h'.1.trans h.1, h'.2.trans h.2⟩

theorem frame_modifyTask (t : τ) (f : Task ι → Task ι) : Frame s (s.modifyTask t f) := ⟨rfl, rfl⟩

theorem Frame.taskEvent {t : τ} {task : Task ι} {e : TaskEvent}
    (h : s.taskEvent t task e = .ok s') : Frame s s' := by
  unfold Resources.taskEvent at h
  split at h
  · cases h
  · cases h
    exact frame_modifyTask t _

theorem frame_handleTaskFail (t : τ) : Frame s (s.handleTaskFail t) := by
  unfold handleTaskFail
  split
  · exact ⟨rfl, rfl⟩
  · split_ifs
    · exact ⟨rfl, rfl⟩
    · split
      · exact ⟨rfl, rfl⟩
      · next s₁ hte => exact Frame.taskEvent hte

theorem frame_handleTaskSuccess (t : τ) (result : PeerResult) :
    Frame s (s.handleTaskSuccess t result) := by
  unfold handleTaskSuccess
  split
  · exact ⟨rfl, rfl⟩
  · next s₁ hev =>
    -- the event, then the two stores of the result's geometry
    have h₁ : Frame s s₁ := by
      unfold taskSuccessEvent at hev
      split at hev
      · cases hev
      · split_ifs at hev
        split at hev
        · cases hev
        · next s₂ hte =>
          cases hev
          exact Frame.taskEvent hte
    exact h₁.trans ⟨rfl, rfl⟩

end Frames

/-- An event on a peer leaves its record with the event's destination, and its stream. -/
theorem streamOf_peerEvent {p : ι} {pr : Peer τ η} {e : PeerEvent}
    (h : s.peerEvent p pr e = .ok s') (hs : pr.hasStream = true) : s'.StreamOf p := by
  unfold Resources.peerEvent at h
  split at h
  · cases h
  · next dst _ =>
    cases h
    exact ⟨{ pr with state := dst }, by simp [peerCallback, setPeer], hs⟩

section Handlers

variable {cfg : Config} {fuel : ℕ} {evaluate : ι → ι → ℤ → σ} {isBadNode : ι → Bool}
  {send : ι → Packet ι → Bool} {cdnPeer : Option ι} {p : ι} {pr : Peer τ η}

theorem Evolves.handlePeerFail {children : List ι} (hst : pr.hasStream = true → s.StreamOf p)
    (h : s.handlePeerFail cfg fuel evaluate isBadNode send cdnPeer p pr children = some s') :
    Evolves s s' := by
  unfold Resources.handlePeerFail at h
  split at h
  · cases h
    exact .refl _
  · next s₁ hev =>
    obtain ⟨⟨s₂, out⟩, hchildren, rfl⟩ := Option.map_eq_some_iff.mp h
    exact (Evolves.peerEvent hst hev).trans (Evolves.scheduleChildren hchildren)

theorem Evolves.handlePeerSuccess {tinyFile : Option (List UInt8)}
    (hst : pr.hasStream = true → s.StreamOf p) : Evolves s (s.handlePeerSuccess p pr tinyFile) := by
  unfold Resources.handlePeerSuccess
  dsimp only
  -- the tiny file goes into the task before the event
  have hevent : ∀ s₁ : Resources ι τ η, Frame s s₁ →
      Evolves s (match s₁.peerEvent p pr .downloadSucceeded with
        | .error _ => s₁
        | .ok s₂ => s₂) := by
    intro s₁ hframe
    split
    · exact hframe.evolves
    · next s₂ hev =>
      exact hframe.evolves.trans
        (Evolves.peerEvent (fun hs => (streamOf_congr hframe.1 p).mpr (hst hs)) hev)
  apply hevent
  split
  · split_ifs
    · exact frame_modifyTask _ _
    · exact ⟨rfl, rfl⟩
  · exact ⟨rfl, rfl⟩

theorem Evolves.reportPeerResult {success : Bool} {result : PeerResult}
    {tinyFile : Option (List UInt8)} {children : List ι} {res : Except DfError Unit}
    (h : s.reportPeerResult cfg fuel evaluate isBadNode send cdnPeer p success result tinyFile
      children = some (s', res)) : Evolves s s' := by
  unfold Resources.reportPeerResult at h
  split at h
  · next pr hpr =>
    -- the task's handler comes first and changes a task only
    have hfail : ∀ s₁ : Resources ι τ η, Frame s s₁ → ∀ {s₂},
        s₁.handlePeerFail cfg fuel evaluate isBadNode send cdnPeer p pr children = some s₂ →
          Evolves s s₂ := fun s₁ hframe _ h₂ =>
      hframe.evolves.trans
        (Evolves.handlePeerFail (fun hs => (streamOf_congr hframe.1 p).mpr ⟨pr, hpr, hs⟩) h₂)
    have hsucc : ∀ s₁ : Resources ι τ η, Frame s s₁ →
        Evolves s (s₁.handlePeerSuccess p pr tinyFile) := fun s₁ hframe =>
      hframe.evolves.trans
        (Evolves.handlePeerSuccess fun hs => (streamOf_congr hframe.1 p).mpr ⟨pr, hpr, hs⟩)
    dsimp only at h
    split_ifs at h
    · cases h
      exact .refl _
    · obtain ⟨s₂, h₂, heq⟩ := Option.map_eq_some_iff.mp h
      cases heq
      exact hfail _ (frame_handleTaskFail _) h₂
    · obtain ⟨s₂, h₂, heq⟩ := Option.map_eq_some_iff.mp h
      cases heq
      exact hfail _ ⟨rfl, rfl⟩ h₂
    · cases h
      exact hsucc _ (frame_handleTaskSuccess _ _)
    · cases h
      exact hsucc _ ⟨rfl, rfl⟩
  · cases h
    exact .refl _

end Handlers

/-! ### Registration -/

omit [DecidableEq ι] in
theorem Frame.registerTask {b : ℤ} {t : τ} (h : s.registerTask b t = .ok s') : Frame s s' := by
  unfold Resources.registerTask at h
  split at h
  · split_ifs at h
    · cases h
      exact ⟨rfl, rfl⟩
    · exact Frame.taskEvent h
  · have hset : Frame s (s.setTask t (newTask b)) := ⟨rfl, rfl⟩
    exact hset.trans (Frame.taskEvent h)

section Hosts

variable [DecidableEq η]

omit [DecidableEq ι] [DecidableEq τ] in
theorem frame_registerHost (l : ℤ) (h : η) : Frame s (s.registerHost l h) := by
  unfold registerHost
  split <;> exact ⟨rfl, rfl⟩

/-- A new peer starts without a stream. -/
theorem storeNewPeer_spec (p : ι) (t : τ) (h : η) :
    Evolves s (s.storeNewPeer p t h).1 ∧ (s.storeNewPeer p t h).2.hasStream = false :=
  ⟨⟨.refl, fun _ => StreamOf.of_update rfl fun hs => by cases hs⟩, rfl⟩

/-- The peer `registerPeer` answers has its stream, if any, stored. -/
theorem registerPeer_spec (p : ι) (t : τ) (h : η) :
    Evolves s (s.registerPeer p t h).1 ∧
      ((s.registerPeer p t h).2.hasStream = true → (s.registerPeer p t h).1.StreamOf p) := by
  unfold registerPeer
  split
  · next peer hpeer =>
    split_ifs
    · exact ⟨.refl s, fun hs => ⟨peer, hpeer, hs⟩⟩
    · exact ⟨(storeNewPeer_spec p t h).1, fun hs => by simp [(storeNewPeer_spec p t h).2] at hs⟩
  · exact ⟨(storeNewPeer_spec p t h).1, fun hs => by simp [(storeNewPeer_spec p t h).2] at hs⟩
end Hosts

section Register

variable {fuel : ℕ} {evaluate : ι → ι → ℤ → σ} {isBadNode : ι → Bool} {p : ι} {pr : Peer τ η}

theorem Evolves.registerEvent {e : PeerEvent} {result : RegisterResult ι}
    (hst : pr.hasStream = true → s.StreamOf p) : Evolves s (s.registerEvent p pr e result).1 := by
  unfold Resources.registerEvent
  split
  · exact .refl s
  · next s₁ hev => exact Evolves.peerEvent hst hev

/-- The small-scope branch stores the parent `FindParent` found, a candidate of
`filterParents`, before the event. -/
theorem Evolves.registerSmall {task : Task ι} {res : Except DfError (RegisterResult ι)}
    (hst : pr.hasStream = true → s.StreamOf p)
    (h : s.registerSmall fuel evaluate isBadNode p pr task = some (s', res)) : Evolves s s' := by
  unfold Resources.registerSmall at h
  obtain ⟨found, hfind, heq⟩ := Option.map_eq_some_iff.mp h
  have hfst := congrArg Prod.fst heq
  cases found with
  | none =>
    subst hfst
    exact Evolves.registerEvent hst
  | some parent =>
    dsimp only at hfst
    split at hfst
    · subst hfst
      exact Evolves.registerEvent hst
    · subst hfst
      obtain ⟨parents, hparents, hmem, -⟩ := findParent_best hfind
      exact (evolves_graphStep (.replaceParent s.graph fuel _ isBadNode s.freeUploadLoadOf _
        parents p parent hparents hmem)).trans (Evolves.registerEvent hst)

theorem Evolves.of_registerEvent {e : PeerEvent} {result : RegisterResult ι}
    {res : Except DfError (RegisterResult ι)} (hst : pr.hasStream = true → s.StreamOf p)
    (h : some (s.registerEvent p pr e result) = some (s', res)) : Evolves s s' := by
  obtain rfl := congrArg Prod.fst (Option.some.inj h)
  exact Evolves.registerEvent hst

theorem Evolves.registerByScope {task : Task ι} {res : Except DfError (RegisterResult ι)}
    (hst : pr.hasStream = true → s.StreamOf p)
    (h : s.registerByScope fuel evaluate isBadNode p pr task = some (s', res)) : Evolves s s' := by
  unfold Resources.registerByScope at h
  by_cases hsucc : task.state = .succeeded
  · rw [if_pos hsucc] at h
    split at h
    · -- a tiny task without its direct piece falls through to the small-scope branch
      split_ifs at h
      · exact Evolves.of_registerEvent hst h
      · exact Evolves.registerSmall hst h
    · exact Evolves.registerSmall hst h
    · exact Evolves.of_registerEvent hst h
  · rw [if_neg hsucc] at h
    exact Evolves.of_registerEvent hst h

variable [DecidableEq η] in
theorem Evolves.registerPeerTask {cfg : Config} {req : PeerTaskRequest ι τ η}
    {res : Except DfError (RegisterResult ι)}
    (h : s.registerPeerTask cfg fuel evaluate isBadNode req = some (s', res)) : Evolves s s' := by
  unfold Resources.registerPeerTask at h
  split at h
  · cases h
    exact .refl s
  · next s₁ hreg =>
    have h₁ : Evolves s (s₁.registerHost cfg.uploadLoadLimit req.hostId) :=
      ((Frame.registerTask hreg).trans (frame_registerHost _ _)).evolves
    obtain ⟨h₂, hrecord⟩ :=
      registerPeer_spec (s := s₁.registerHost cfg.uploadLoadLimit req.hostId) req.peerId req.taskId
        req.hostId
    generalize (s₁.registerHost cfg.uploadLoadLimit req.hostId).registerPeer req.peerId req.taskId
      req.hostId = reg at h h₂ hrecord
    obtain ⟨s₂, pr⟩ := reg
    dsimp only at h h₂ hrecord
    split at h
    · cases h
    · exact h₁.trans (h₂.trans (Evolves.registerByScope hrecord h))

end Register

/-! ### The CDN's seeds and the collectors -/

theorem Evolves.eventOn {p : ι} {e : PeerEvent} (h : s.eventOn p e = .ok s') : Evolves s s' := by
  unfold Resources.eventOn at h
  split at h
  · next pr hpr => exact Evolves.peerEvent (fun hs => ⟨pr, hpr, hs⟩) h
  · cases h
    exact .refl s

theorem evolves_seedPiece (t : τ) (cdn : ι) (seed : PieceSeed) (tinyFile : Option (List UInt8)) :
    Evolves s (s.seedPiece t cdn seed tinyFile).1 := by
  unfold seedPiece
  cases seed with
  | beginOfPiece =>
    dsimp only
    split
    · exact (frame_handleTaskFail t).evolves
    · next s₁ hev => exact Evolves.eventOn hev
  | piece info => exact evolves_modifyTask t _
  | done result =>
    dsimp only
    split
    · next pr hpr =>
      exact (frame_handleTaskSuccess t result).evolves.trans (Evolves.handlePeerSuccess
        fun hs => ⟨pr, hpr, hs⟩)
    · exact (frame_handleTaskSuccess t result).evolves

theorem evolves_seedFailed (trigger : SeedTrigger ι τ) : Evolves s (s.seedFailed trigger) := by
  cases trigger with
  | obtaining t => exact (frame_handleTaskFail t).evolves
  | seeding t cdn =>
    simp only [seedFailed]
    split
    · exact (frame_handleTaskFail t).evolves
    · next s₁ hev => exact (Evolves.eventOn hev).trans (frame_handleTaskFail t).evolves

omit [DecidableEq ι] in
theorem frame_gcTask (t : τ) : Frame s (s.gcTask t) := by
  unfold gcTask
  split
  · split_ifs <;> exact ⟨rfl, rfl⟩
  · exact ⟨rfl, rfl⟩

section Seeds

variable [DecidableEq η]

theorem Evolves.newCdnPeer {t : τ} {cdn : ι} {h : η} (hnew : s.newCdnPeer t cdn h = some s') :
    Evolves s s' := by
  unfold Resources.newCdnPeer at hnew
  split at hnew
  · cases hnew
  · obtain ⟨h₁, hfresh⟩ := storeNewPeer_spec (s := s) cdn t h
    generalize s.storeNewPeer cdn t h = stored at hnew h₁ hfresh
    obtain ⟨s₁, pr⟩ := stored
    dsimp only at hnew h₁ hfresh
    split at hnew
    · cases hnew
    · next s₂ hev =>
      cases hnew
      exact h₁.trans (Evolves.peerEvent (fun hs => by simp [hfresh] at hs) hev)

theorem Evolves.initPeer {t : τ} {cdn : ι} {h : η} (hinit : s.initPeer t cdn h = some s') :
    Evolves s s' := by
  unfold Resources.initPeer at hinit
  split at hinit
  · split_ifs at hinit
    · cases hinit
      exact .refl s
    · exact Evolves.newCdnPeer hinit
  · exact Evolves.newCdnPeer hinit

theorem evolves_seedReceived (cdn : ι) (h : η) (seed : PieceSeed)
    (tinyFile : Option (List UInt8)) (trigger : SeedTrigger ι τ) :
    Evolves s (s.seedReceived cdn h seed tinyFile trigger).1 := by
  cases trigger with
  | obtaining t =>
    simp only [seedReceived]
    split
    · exact (frame_handleTaskFail t).evolves
    · next s₁ hinit => exact (Evolves.initPeer hinit).trans (evolves_seedPiece t cdn seed tinyFile)
  | seeding t cdn' => exact evolves_seedPiece t cdn' seed tinyFile

theorem evolves_gcPeer (p : ι) : Evolves s (s.gcPeer p) := by
  unfold gcPeer
  split
  · next pr hpr =>
    split_ifs
    · exact (evolves_graphStep (.deleteParent _ p)).trans (evolves_deletePeer p)
    · split
      · exact .refl s
      · next s₁ hev => exact Evolves.peerEvent (fun hs => ⟨pr, hpr, hs⟩) hev
    · exact .refl s
  · exact .refl s

end Seeds

/-! ### The stream handlers -/

omit [DecidableEq ι] in
theorem frame_handlePieceSuccess (pr : Peer τ η) (info : PieceInfo) :
    Frame s (s.handlePieceSuccess pr info) := by
  unfold handlePieceSuccess
  split_ifs
  · exact frame_modifyTask _ _
  · exact ⟨rfl, rfl⟩

omit [DecidableEq τ] in
theorem graph_setStream (p : ι) (b : Bool) : (s.setStream p b).graph = s.graph := by
  unfold setStream
  split <;> rfl

section PieceHandlers

variable {cfg : Config} {fuel : ℕ} {evaluate : ι → ι → ℤ → σ} {isBadNode : ι → Bool}
  {send : ι → Packet ι → Bool} {cdnPeer : Option ι} {p : ι} {pr : Peer τ η}

theorem Evolves.handleBeginOfPiece (hpr : s.peers p = some pr)
    (h : s.handleBeginOfPiece cfg fuel evaluate isBadNode send cdnPeer p pr = some s') :
    Evolves s s' := by
  unfold Resources.handleBeginOfPiece at h
  have hst : pr.hasStream = true → s.StreamOf p := fun hs => ⟨pr, hpr, hs⟩
  have hevent : ∀ {s₁ : Resources ι τ η}, s.peerEvent p pr .download = .ok s₁ → Evolves s s₁ :=
    Evolves.peerEvent hst
  split at h
  · -- `ReceivedTiny`: the event only
    split at h
    · cases h
      exact .refl s
    · next s₁ hev =>
      cases h
      exact hevent hev
  · -- `ReceivedSmall`: the event only
    split at h
    · cases h
      exact .refl s
    · next s₁ hev =>
      cases h
      exact hevent hev
  · split at h
    · cases h
      exact .refl s
    · next s₁ hev =>
      -- the peer is scheduled from its record after the event
      obtain ⟨⟨s₂, pk⟩, hsched, rfl⟩ := Option.map_eq_some_iff.mp h
      have hst₁ : ({ pr with state := .running } : Peer τ η).hasStream = true → s₁.StreamOf p :=
        fun hs => streamOf_peerEvent hev hs
      exact (hevent hev).trans (Evolves.scheduleParent hst₁ hsched)
  · cases h
    exact .refl s

theorem Evolves.pieceFailParent {q : ι} {qr : Peer τ η} {code : PieceCode} {children : List ι}
    {started : List (SeedTrigger ι τ)} (hq : s.peers q = some qr)
    (h : s.pieceFailParent cfg fuel evaluate isBadNode send cdnPeer q qr code children =
      some (s', started)) : Evolves s s' := by
  unfold Resources.pieceFailParent at h
  have hst : qr.hasStream = true → s.StreamOf q := fun hs => ⟨qr, hq, hs⟩
  have hretrigger : ∀ {x : Resources ι τ η × List (SeedTrigger ι τ)},
      (s.handlePeerFail cfg fuel evaluate isBadNode send cdnPeer q qr children).map
        (fun s₁ => (s₁, [SeedTrigger.obtaining qr.task])) = some x → Evolves s x.1 := by
    intro x hx
    obtain ⟨s₁, hfail, rfl⟩ := Option.map_eq_some_iff.mp hx
    exact Evolves.handlePeerFail hst hfail
  dsimp only at h
  cases code with
  | clientPieceDownloadFail | peerTaskNotFound | cdnError | cdnTaskDownloadFail =>
    -- the parent's download has failed
    dsimp only at h
    split at h
    · cases h
      exact .refl s
    · next s₁ hev =>
      cases h
      exact Evolves.peerEvent hst hev
  | clientPieceNotFound =>
    dsimp only at h
    split_ifs at h
    · exact hretrigger h
    · cases h
      exact .refl s
  | cdnTaskNotFound => exact hretrigger h
  | success | clientWaitPieceReady | other =>
    dsimp only at h
    cases h
    exact .refl s

theorem Evolves.handlePieceFail {r : PieceResult ι} {children : List ι}
    {started : List (SeedTrigger ι τ)} (hpr : s.peers p = some pr)
    (h : s.handlePieceFail cfg fuel evaluate isBadNode send cdnPeer p pr r children =
      some (s', started)) : Evolves s s' := by
  unfold Resources.handlePieceFail at h
  have hreschedule : ∀ {x : Resources ι τ η × List (SeedTrigger ι τ)},
      (s.scheduleParent cfg fuel evaluate isBadNode (send p) cdnPeer (fun _ => false) p pr).map
        (fun r => (r.1, [])) = some x → Evolves s x.1 := by
    intro x hx
    obtain ⟨⟨s₁, pk⟩, hsched, rfl⟩ := Option.map_eq_some_iff.mp hx
    exact Evolves.scheduleParent (fun hs => ⟨pr, hpr, hs⟩) hsched
  dsimp only at h
  by_cases hbts : pr.state = .backToSource
  · rw [if_pos hbts] at h
    cases h
    exact .refl s
  rw [if_neg hbts] at h
  split at h
  · exact hreschedule h
  · next qr hq =>
    by_cases hstored : (!qr.stored) = true
    · rw [if_pos hstored] at h
      exact hreschedule h
    rw [if_neg hstored] at h
    obtain ⟨⟨s₁, started₁⟩, hparent, hrest⟩ := Option.bind_eq_some_iff.mp h
    have h₁ := Evolves.pieceFailParent hq hparent
    -- the peer itself is rescheduled from its record after the parent's handling
    dsimp only at hrest
    split at hrest
    · next pr₁ hpr₁ =>
      split_ifs at hrest
      · obtain ⟨⟨s₂, pk⟩, hsched, heq⟩ := Option.map_eq_some_iff.mp hrest
        cases heq
        exact h₁.trans (Evolves.scheduleParent (fun hs => ⟨pr₁, hpr₁, hs⟩) hsched)
      · cases hrest
        exact h₁
    · cases hrest
      exact h₁

theorem Evolves.handlePieceResult {r : PieceResult ι} {children : List ι}
    {started : List (SeedTrigger ι τ)} (hpr : s.peers p = some pr)
    (h : s.handlePieceResult cfg fuel evaluate isBadNode send cdnPeer p pr r children =
      some (s', started)) : Evolves s s' := by
  unfold Resources.handlePieceResult at h
  by_cases hbegin : r.pieceInfo.pieceNum = beginOfPiece
  · rw [if_pos hbegin] at h
    obtain ⟨s₁, h₁, heq⟩ := Option.map_eq_some_iff.mp h
    cases heq
    exact Evolves.handleBeginOfPiece hpr h₁
  rw [if_neg hbegin] at h
  split_ifs at h
  · cases h
    exact .refl s
  · cases h
    exact (frame_handlePieceSuccess pr r.pieceInfo).evolves
  · exact Evolves.handlePieceFail hpr h
  · cases h
    exact .refl s

end PieceHandlers

end Resources

section ServiceStep

variable {ι τ η σ : Type} [DecidableEq ι] [DecidableEq τ] [DecidableEq η] [LinearOrder σ]
variable {cfg : Config} {fuel : ℕ} {evaluate : ι → ι → ℤ → σ} {isBadNode : ι → Bool}
  {send : ι → Packet ι → Bool} {cdnPeer : Option ι}

open Resources in
/-- Every step of the service evolves its resources. -/
theorem Evolves.serviceStep {op : ServiceOp ι τ η} {st st' : ServiceState ι τ η}
    (h : serviceStep cfg fuel evaluate isBadNode send cdnPeer op st = some st') :
    Evolves st.resources st'.resources := by
  cases op with
  | registerPeerTask req =>
    obtain ⟨r, hr, rfl⟩ := Option.map_eq_some_iff.mp h
    exact Evolves.registerPeerTask hr
  | reportPeerResult p success result tinyFile children =>
    simp only [Dragonfly.Scheduler.serviceStep] at h
    split_ifs at h
    obtain ⟨r, hr, rfl⟩ := Option.map_eq_some_iff.mp h
    exact Evolves.reportPeerResult hr
  | leaveTask p children =>
    simp only [Dragonfly.Scheduler.serviceStep] at h
    split_ifs at h
    obtain ⟨r, hr, rfl⟩ := Option.map_eq_some_iff.mp h
    exact Evolves.leaveTask hr
  | seedRecv i cdn host seed tinyFile =>
    obtain ⟨trigger, -, rfl⟩ := Option.map_eq_some_iff.mp h
    exact evolves_seedReceived cdn host seed tinyFile trigger
  | seedError i =>
    obtain ⟨trigger, -, rfl⟩ := Option.map_eq_some_iff.mp h
    exact evolves_seedFailed trigger
  | gcPeer p =>
    cases h
    exact evolves_gcPeer p
  | gcTask t =>
    cases h
    exact (frame_gcTask t).evolves

end ServiceStep

/-- The service with the `ReportPieceResult` handlers that have loaded their peer, by the ID of
that peer, oldest first. -/
structure StreamState (ι τ η : Type) where
  service : ServiceState ι τ η
  streams : List ι

/-- The service before any request, with no stream. -/
def StreamState.initial {ι τ η : Type} : StreamState ι τ η := ⟨ServiceState.initial, []⟩

/-- The steps of the service and of its stream handlers. -/
inductive StreamOp (ι τ η : Type) where
  | service (op : ServiceOp ι τ η)
  /-- A new stream receives its first result `r`, from peer `p`: the handler loads the peer,
  stores the stream in it and takes `r` (`service.go:231–290`); `children` lists the children
  of `r.dstPid`. -/
  | openStream (p : ι) (r : PieceResult ι) (children : List ι)
  /-- Handler `i` takes result `r`; `children` lists the children of `r.dstPid`. -/
  | recvPiece (i : ℕ) (r : PieceResult ι) (children : List ι)
  /-- The `Recv` of handler `i` fails or meets the end of the stream: the handler returns and
  its deferred `DeleteStream` runs. -/
  | closeStream (i : ℕ)

section Step

variable {ι τ η σ : Type} [DecidableEq ι] [DecidableEq τ] [DecidableEq η] [LinearOrder σ]
variable (cfg : Config) (fuel : ℕ) (evaluate : ι → ι → ℤ → σ) (isBadNode : ι → Bool)
  (send : ι → Packet ι → Bool) (cdnPeer : Option ι)

/-- The loop of the handler of peer `p` takes result `r` (`service.go:245–290`) through the
record the peer has now. -/
def takeResult (p : ι) (r : PieceResult ι) (children : List ι) (st : StreamState ι τ η) :
    Option (StreamState ι τ η) :=
  match st.service.resources.peers p with
  | none => none
  | some pr =>
    if st.service.resources.listsChildren r.dstPid children then
      (st.service.resources.handlePieceResult cfg fuel evaluate isBadNode send cdnPeer p pr r
        children).map fun (res, started) => ⟨⟨res, st.service.seeds ++ started⟩, st.streams⟩
    else none

/-- One step of the service or of a stream handler; `none` when it cannot happen. A peer the
manager does not hold ends the new stream at once with `Code_SchedPeerNotFound`. -/
def streamStep : StreamOp ι τ η → StreamState ι τ η → Option (StreamState ι τ η)
  | .service op, st =>
    (serviceStep cfg fuel evaluate isBadNode send cdnPeer op st.service).map
      fun sv => { st with service := sv }
  | .openStream p r children, st =>
    match st.service.resources.peers p with
    | some pr =>
      if pr.stored then
        takeResult cfg fuel evaluate isBadNode send cdnPeer p r children
          ⟨{ st.service with resources := st.service.resources.setStream p true },
            st.streams ++ [p]⟩
      else some st
    | none => some st
  | .recvPiece i r children, st =>
    st.streams[i]?.bind fun p => takeResult cfg fuel evaluate isBadNode send cdnPeer p r children st
  | .closeStream i, st =>
    st.streams[i]?.map fun p =>
      ⟨{ st.service with resources := st.service.resources.setStream p false },
        st.streams.eraseIdx i⟩

end Step


namespace Resources

variable {ι τ η : Type} [DecidableEq ι] {s : Resources ι τ η}

theorem streamOf_setStream_of_ne {p q : ι} (b : Bool) (hq : q ≠ p) :
    (s.setStream p b).StreamOf q ↔ s.StreamOf q := by
  unfold setStream
  split
  · simp only [StreamOf, peers_setPeer, Function.update_of_ne hq]
  · rfl

theorem not_streamOf_setStream_false (p : ι) : ¬ (s.setStream p false).StreamOf p := by
  unfold setStream
  split
  · simp [StreamOf]
  · next hnone =>
    rintro ⟨pr, hpr, -⟩
    rw [hnone] at hpr
    cases hpr

end Resources

/-! ### Whole runs -/

section Runs

variable {ι τ η σ : Type} [DecidableEq ι] [DecidableEq τ] [DecidableEq η] [LinearOrder σ]
variable {cfg : Config} {fuel : ℕ} {evaluate : ι → ι → ℤ → σ} {isBadNode : ι → Bool}
  {send : ι → Packet ι → Bool} {cdnPeer : Option ι}

open Resources

omit [DecidableEq η] in
/-- The loop of a handler evolves the resources and keeps the handlers. -/
theorem takeResult_evolves {p : ι} {r : PieceResult ι} {children : List ι}
    {st st' : StreamState ι τ η}
    (h : takeResult cfg fuel evaluate isBadNode send cdnPeer p r children st = some st') :
    Evolves st.service.resources st'.service.resources ∧ st'.streams = st.streams := by
  unfold takeResult at h
  split at h
  · cases h
  · next pr hpr =>
    split_ifs at h
    obtain ⟨⟨res, started⟩, hres, rfl⟩ := Option.map_eq_some_iff.mp h
    exact ⟨Evolves.handlePieceResult hpr hres, rfl⟩

/-- What one step of the service or of a stream handler does: the resources evolve with the
handlers as they are, or a new handler stores its stream and its first result evolves the
resources from there, or a handler returns and its `DeleteStream` clears the stream of its
peer. -/
theorem streamStep_cases {op : StreamOp ι τ η} {st st' : StreamState ι τ η}
    (h : streamStep cfg fuel evaluate isBadNode send cdnPeer op st = some st') :
    (Evolves st.service.resources st'.service.resources ∧ st'.streams = st.streams) ∨
    (∃ p, Evolves (st.service.resources.setStream p true) st'.service.resources ∧
      st'.streams = st.streams ++ [p]) ∨
    (∃ i p, st.streams[i]? = some p ∧
      st'.service.resources = st.service.resources.setStream p false ∧
      st'.streams = st.streams.eraseIdx i) := by
  cases op with
  | service op =>
    obtain ⟨sv, hsv, rfl⟩ := Option.map_eq_some_iff.mp h
    exact .inl ⟨Evolves.serviceStep hsv, rfl⟩
  | openStream p r children =>
    simp only [streamStep] at h
    split at h
    · split_ifs at h
      · exact .inr (.inl ⟨p, takeResult_evolves h⟩)
      · cases h
        exact .inl ⟨.refl _, rfl⟩
    · cases h
      exact .inl ⟨.refl _, rfl⟩
  | recvPiece i r children =>
    obtain ⟨p, -, h⟩ := Option.bind_eq_some_iff.mp h
    exact .inl (takeResult_evolves h)
  | closeStream i =>
    obtain ⟨p, hp, rfl⟩ := Option.map_eq_some_iff.mp h
    exact .inr (.inr ⟨i, p, hp, rfl, rfl⟩)

/-- Every step moves the peer tree by steps of the tree model. -/
theorem streamStep_graph {op : StreamOp ι τ η} {st st' : StreamState ι τ η}
    (h : streamStep cfg fuel evaluate isBadNode send cdnPeer op st = some st') :
    ReflTransGen PeerGraph.GraphStep st.service.resources.graph st'.service.resources.graph := by
  rcases streamStep_cases h with ⟨hev, -⟩ | ⟨p, hev, -⟩ | ⟨i, p, -, hres, -⟩
  · exact hev.graph
  · simpa only [graph_setStream] using hev.graph
  · rw [hres, graph_setStream]

/-- The peer tree of every state the service and its stream handlers reach is a tree the tree
model reaches, so it keeps `TreeInv`: both directions of every edge agree and no peer is its
own ancestor. -/
theorem service_peerTree_reachable {st : StreamState ι τ η}
    (hs : Reachable (streamStep cfg fuel evaluate isBadNode send cdnPeer) StreamState.initial st) :
    PeerGraph.Reachable st.service.resources.graph ∧
      PeerGraph.TreeInv st.service.resources.graph := by
  have hgraph : PeerGraph.Reachable st.service.resources.graph := by
    induction hs with
    | refl => exact ReflTransGen.refl
    | tail _ hstep ih =>
      obtain ⟨op, hop⟩ := hstep
      exact ReflTransGen.trans ih (streamStep_graph hop)
  exact ⟨hgraph, hgraph.treeInv⟩

/-- Peers `0` and `1` register for task `0`; peer `1` opens its stream, whose first result, the
begin of its pieces, makes peer `0` its parent. -/
theorem service_peerTree_reachable_join :
    ∃ st : StreamState ℕ ℕ ℕ,
      Reachable (streamStep defaultConfig 10 (fun _ _ _ => (0 : ℤ)) (fun _ => false)
        (fun _ _ => true) none) StreamState.initial st ∧
      st.service.resources.graph.parent 1 = some 0 ∧
      PeerGraph.Reachable st.service.resources.graph ∧
        PeerGraph.TreeInv st.service.resources.graph := by
  let sched : List (StreamOp ℕ ℕ ℕ) :=
    [.service (.registerPeerTask ⟨0, 0, 0⟩), .service (.registerPeerTask ⟨0, 1, 1⟩),
      .openStream 1 ⟨1, ⟨beginOfPiece, 0, 0, 0⟩, false, .success⟩ []]
  obtain ⟨st, hrun, hparent⟩ : ∃ st, run (streamStep defaultConfig 10 (fun _ _ _ => (0 : ℤ))
      (fun _ => false) (fun _ _ => true) none) sched StreamState.initial = some st ∧
      st.service.resources.graph.parent 1 = some 0 :=
    ⟨_, rfl, by decide⟩
  have hs := reachable_of_run hrun
  exact ⟨st, hs, hparent, service_peerTree_reachable hs⟩

/-- Every stored stream belongs to a handler that has not returned. -/
def StreamState.StreamsHeld (st : StreamState ι τ η) : Prop :=
  ∀ p, st.service.resources.StreamOf p → p ∈ st.streams

omit [DecidableEq ι] [DecidableEq τ] [DecidableEq η] in
theorem streamsHeld_initial : (StreamState.initial : StreamState ι τ η).StreamsHeld := by
  rintro p ⟨pr, hpr, -⟩
  cases hpr

/-- A new handler holds the stream it stores, and a returning one clears the stream of its
peer: the other handlers and streams stay. -/
theorem StreamState.StreamsHeld.step {op : StreamOp ι τ η} {st st' : StreamState ι τ η}
    (hinv : st.StreamsHeld)
    (h : streamStep cfg fuel evaluate isBadNode send cdnPeer op st = some st') :
    st'.StreamsHeld := by
  intro q hq
  rcases streamStep_cases h with ⟨hev, hstreams⟩ | ⟨p, hev, hstreams⟩ | ⟨i, p, hi, hres, hstreams⟩
  · rw [hstreams]
    exact hinv q (hev.stream q hq)
  · -- the new handler's first result stores no stream, so `q` had one before or is `p`
    have hq' := hev.stream q hq
    rw [hstreams, List.mem_append]
    by_cases hqp : q = p
    · exact .inr (by simp [hqp])
    · rw [streamOf_setStream_of_ne true hqp] at hq'
      exact .inl (hinv q hq')
  · have hqp : q ≠ p := by
      rintro rfl
      rw [hres] at hq
      exact not_streamOf_setStream_false q hq
    rw [hres, streamOf_setStream_of_ne false hqp] at hq
    -- `q` stood at another index than the returning handler, whose peer is `p`
    obtain ⟨j, hj⟩ := List.mem_iff_getElem?.mp (hinv q hq)
    have hji : j ≠ i := by
      rintro rfl
      rw [hi, Option.some.injEq] at hj
      exact hqp hj.symm
    rw [hstreams]
    exact List.mem_eraseIdx_iff_getElem?.mpr ⟨j, hji, hj⟩

/-- Over every interleaving of the service and its stream handlers, a peer whose record holds a
stream has a `ReportPieceResult` handler that has not returned. -/
theorem stream_held_of_reachable {st : StreamState ι τ η}
    (hs : Reachable (streamStep cfg fuel evaluate isBadNode send cdnPeer) StreamState.initial st)
    {p : ι} {pr : Peer τ η} (hpr : st.service.resources.peers p = some pr)
    (hstream : pr.hasStream = true) : p ∈ st.streams :=
  hs.invariant (P := StreamState.StreamsHeld) streamsHeld_initial
    (fun _ _ _ hinv h => hinv.step h) p ⟨pr, hpr, hstream⟩

/-- Peer `0` registers and opens its stream with the begin of its pieces; alone in its task, it
goes back to the source, and its record holds the stream while its handler runs. -/
theorem stream_held_of_reachable_opened :
    ∃ st : StreamState ℕ ℕ ℕ,
      Reachable (streamStep defaultConfig 10 (fun _ _ _ => (0 : ℤ)) (fun _ => false)
        (fun _ _ => true) none) StreamState.initial st ∧
      (st.service.resources.peers 0).map Peer.hasStream = some true ∧ 0 ∈ st.streams := by
  let sched : List (StreamOp ℕ ℕ ℕ) := [.service (.registerPeerTask ⟨0, 0, 0⟩),
    .openStream 0 ⟨0, ⟨beginOfPiece, 0, 0, 0⟩, false, .success⟩ []]
  obtain ⟨st, hrun, hpr⟩ : ∃ st, run (streamStep defaultConfig 10 (fun _ _ _ => (0 : ℤ))
      (fun _ => false) (fun _ _ => true) none) sched StreamState.initial = some st ∧
      st.service.resources.peers 0 = some ⟨0, 0, .backToSource, true, true⟩ :=
    ⟨_, rfl, rfl⟩
  have hs := reachable_of_run hrun
  exact ⟨st, hs, by rw [hpr]; rfl, stream_held_of_reachable hs hpr rfl⟩

end Runs

end Dragonfly.Scheduler
