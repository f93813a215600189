import Dragonfly.Scheduler.PieceResults

/-!
# Two calls of `NotifyAndFindParent` at once

Every stream handler is a goroutine of its own, and `ScheduleParent` runs in the handler of the
peer's stream, in the handler of a parent that fails (`service.go:573`) and in `LeaveTask`
(`service.go:341`). Nothing joins the two halves of `NotifyAndFindParent`
(`scheduler.go:143–183`): `filterParents` reads the tree under no lock and the sort picks a
parent, and only then `ReplaceParent` writes the tree, its `DeleteParent` and `StoreParent` each
under the lock of the peer itself. A call is two atomic steps here: `find`, the state check,
`filterParents` and the sort, which leaves the call pending with the parent it picked; and
`commit`, which loads the stream, sends the success packet and replaces the parent. A call with
no step of another between its halves is the atomic call of the service model
(`run_find_commit`).

Two peers of one task that pick each other before either has committed become each other's
parent, which neither order of the two calls one after the other can do
(`notifyAndFindParent_race_cycle`). On such a cycle the loop of `isDescendant` never returns
from either peer, so `filterParents` never returns for another peer of the task to which one of
them is a plain candidate, and neither does its `NotifyAndFindParent`
(`notifyAndFindParent_hangs_on_cycle`). With a third peer that has no parent, the calls of the
two peers of the cycle hang as well, so when the task is all the store holds, no call for any of
its peers ever returns and the state is stuck (`raceStep_stuck_on_cycle`).

Only the calls of `NotifyAndFindParent` are threads here, and a call whose peer has no record in
the store does not step.
-/

namespace Dragonfly.Scheduler

open Dragonfly.Base Dragonfly.Base.Interleave Relation

namespace PeerGraph

variable {ι : Type} [DecidableEq ι] {g : PeerGraph ι}

/-- The loop of `isDescendant` never returns from a node of a set in which every node has a
parent, in the set and other than the ancestor sought. -/
theorem isDescendant_eq_none_of_closed {S : Set ι} {a : ι}
    (hS : ∀ x ∈ S, ∃ y ∈ S, g.parent x = some y ∧ y ≠ a) :
    ∀ n, ∀ x ∈ S, g.isDescendant a n x = none
  | 0, _, _ => rfl
  | n + 1, x, hx => by
    obtain ⟨y, hy, hxy, hya⟩ := hS x hx
    simp only [isDescendant, hxy, if_neg hya]
    exact isDescendant_eq_none_of_closed hS n y hy

/-- On two peers that are each other's parent, the walk up from either never meets a third. -/
theorem isDescendant_eq_none_of_cycle {a b d : ι} (hab : g.parent a = some b)
    (hba : g.parent b = some a) (hda : d ≠ a) (hdb : d ≠ b) (n : ℕ) :
    g.isDescendant d n a = none := by
  have hS : ∀ x ∈ ({a, b} : Set ι), ∃ y ∈ ({a, b} : Set ι), g.parent x = some y ∧ y ≠ d := by
    rintro x (rfl | rfl)
    · exact ⟨b, .inr rfl, hab, Ne.symm hdb⟩
    · exact ⟨a, .inl rfl, hba, Ne.symm hda⟩
  exact isDescendant_eq_none_of_closed hS n a (.inl rfl)

/-- The two tree checks of `filterParents` on the candidate `x` do not both return: the first
loop does not, or it answers that `x` is not a descendant and the second loop does not. -/
def ChecksHang (g : PeerGraph ι) (fuel : ℕ) (peer x : ι) : Prop :=
  g.isDescendant peer fuel x = none ∨
    (g.isDescendant peer fuel x = some false ∧ g.isDescendant x fuel peer = none)

/-- A peer of a cycle of two is a candidate whose first check hangs for any third peer. -/
theorem checksHang_of_cycle {a b d : ι} (hab : g.parent a = some b) (hba : g.parent b = some a)
    (hda : d ≠ a) (hdb : d ≠ b) (fuel : ℕ) : g.ChecksHang fuel d a :=
  .inl (isDescendant_eq_none_of_cycle hab hba hda hdb fuel)

/-- For a peer of a cycle of two, a third peer without a parent is a candidate whose second
check hangs. -/
theorem checksHang_of_root {a b d : ι} (hab : g.parent a = some b) (hba : g.parent b = some a)
    (hd : g.parent d = none) (hda : d ≠ a) (hdb : d ≠ b) :
    ∀ fuel, g.ChecksHang fuel a d
  | 0 => .inl rfl
  | fuel + 1 => .inr ⟨by simp [isDescendant, hd],
      isDescendant_eq_none_of_cycle hab hba hda hdb (fuel + 1)⟩

/-- `filterParents` returns only if the tree checks return for every peer that passes the
three plain checks. -/
theorem filterParents_eq_none_of_mem {fuel : ℕ} {blocklist isBadNode : ι → Bool}
    {freeUploadLoad : ι → ℤ} {peer x : ι}
    (hplain : (blocklist x || decide (x = peer) || isBadNode x) = false)
    (hloop : g.ChecksHang fuel peer x) :
    ∀ {peers : List ι}, x ∈ peers →
      g.filterParents fuel blocklist isBadNode freeUploadLoad peer peers = none
  | [], h => absurd h List.not_mem_nil
  | y :: rest, h => by
    rcases List.mem_cons.mp h with rfl | hrest
    · rcases hloop with hfirst | ⟨hfirst, hsecond⟩
      · simp [filterParents, hplain, hfirst]
      · simp [filterParents, hplain, hfirst, hsecond]
    · -- every branch on `y` ends in the call on `rest`, which does not return
      have ih : g.filterParents fuel blocklist isBadNode freeUploadLoad peer rest = none :=
        filterParents_eq_none_of_mem hplain hloop hrest
      simp [filterParents, ih]

end PeerGraph

namespace Resources

variable {ι τ η σ : Type} [DecidableEq ι] [LinearOrder σ]
variable (s : Resources ι τ η)

/-- The first half of `NotifyAndFindParent` (`scheduler.go:146–166`): the state check,
`filterParents` and the sort. The parent the call has picked, `none` inside when the call
returns there. -/
def pickParent (fuel : ℕ) (evaluate : ι → ι → ℤ → σ) (isBadNode : ι → Bool)
    (blocklist : ι → Bool) (p : ι) (pr : Peer τ η) : Option (Option ι) :=
  if pr.state ≠ .running then some none
  else
    let task := s.tasks pr.task
    let taskPeers := (task.map Task.peers).getD []
    let totalPieceCount := (task.map Task.totalPieceCount).getD 0
    (s.graph.filterParents fuel blocklist isBadNode s.freeUploadLoadOf p taskPeers).map
      fun parents => parents.argmax fun parent => evaluate parent p totalPieceCount

/-- The second half of `NotifyAndFindParent` (`scheduler.go:168–182`): load the stream, send
the success packet and replace the parent. -/
def commitParent (send : Packet ι → Bool) (p : ι) (pr : Peer τ η) (best : ι) :
    Resources ι τ η × List (Packet ι) × Bool :=
  if !pr.hasStream then (s, [], false)
  else if !send (.success best) then (s, [], false)
  else ({ s with graph := s.graph.replaceParent p best }, [.success best], true)

variable {s}
variable {fuel : ℕ} {evaluate : ι → ι → ℤ → σ} {isBadNode : ι → Bool}

/-- `NotifyAndFindParent` is its first half followed by its second. -/
theorem notifyAndFindParent_eq_pick_commit {send : Packet ι → Bool} {blocklist : ι → Bool}
    {p : ι} {pr : Peer τ η} :
    s.notifyAndFindParent fuel evaluate isBadNode send blocklist p pr =
      (s.pickParent fuel evaluate isBadNode blocklist p pr).map fun
        | none => (s, [], false)
        | some best => s.commitParent send p pr best := by
  unfold notifyAndFindParent pickParent
  by_cases hrun : pr.state ≠ .running
  · simp [hrun]
  · rw [if_neg hrun, if_neg hrun, Option.map_map]
    rfl

/-- The second half with a stream that takes the packet replaces the parent. -/
theorem commitParent_of_send {send : Packet ι → Bool} {p best : ι} {pr : Peer τ η}
    (hstream : pr.hasStream = true) (hsend : send (.success best) = true) :
    s.commitParent send p pr best =
      ({ s with graph := s.graph.replaceParent p best }, [.success best], true) := by
  simp [commitParent, hstream, hsend]

/-- The second half writes no record. -/
@[simp] theorem peers_commitParent {send : Packet ι → Bool} {p best : ι} {pr : Peer τ η} :
    (s.commitParent send p pr best).1.peers = s.peers := by
  unfold commitParent
  split_ifs <;> rfl

/-- A parent the first half picks passes every check of `filterParents`. -/
theorem pickParent_candidate {blocklist : ι → Bool} {p c : ι} {pr : Peer τ η}
    (h : s.pickParent fuel evaluate isBadNode blocklist p pr = some (some c)) :
    s.graph.IsCandidate blocklist isBadNode s.freeUploadLoadOf p c := by
  unfold pickParent at h
  by_cases hrun : pr.state ≠ .running
  · rw [if_pos hrun] at h
    cases h
  · rw [if_neg hrun] at h
    obtain ⟨parents, hparents, hmax⟩ := Option.map_eq_some_iff.mp h
    exact ((PeerGraph.mem_filterParents hparents c).mp (List.argmax_mem hmax)).2

/-- The first half never returns for a running peer of a task with a candidate that passes the
plain checks and on which the tree checks hang. -/
theorem pickParent_eq_none_of_checksHang {blocklist : ι → Bool} {d x : ι} {rd : Peer τ η}
    {task : Task ι} (hrun : rd.state = .running) (htask : s.tasks rd.task = some task)
    (hx : x ∈ task.peers) (hblock : blocklist x = false) (hbad : isBadNode x = false)
    (hxd : x ≠ d) (hloop : s.graph.ChecksHang fuel d x) :
    s.pickParent fuel evaluate isBadNode blocklist d rd = none := by
  have hplain : (blocklist x || decide (x = d) || isBadNode x) = false := by
    simp [hblock, hbad, hxd]
  have hfilter : s.graph.filterParents fuel blocklist isBadNode s.freeUploadLoadOf d task.peers =
      none :=
    PeerGraph.filterParents_eq_none_of_mem hplain hloop hx
  simp [pickParent, hrun, htask, hfilter]

/-- `NotifyAndFindParent` never returns for a running peer of a task in which two other peers
are each other's parent, as long as one of them passes the peer's three plain checks: not in the
blocklist, and not a bad node. -/
theorem notifyAndFindParent_hangs_on_cycle {send : Packet ι → Bool} {blocklist : ι → Bool}
    {a b d : ι} {rd : Peer τ η} {task : Task ι} (hab : s.graph.parent a = some b)
    (hba : s.graph.parent b = some a) (hda : d ≠ a) (hdb : d ≠ b)
    (hrun : rd.state = .running) (htask : s.tasks rd.task = some task) (ha : a ∈ task.peers)
    (hblock : blocklist a = false) (hbad : isBadNode a = false) (fuel : ℕ) :
    s.notifyAndFindParent fuel evaluate isBadNode send blocklist d rd = none := by
  rw [notifyAndFindParent_eq_pick_commit,
    pickParent_eq_none_of_checksHang hrun htask ha hblock hbad (Ne.symm hda)
      (PeerGraph.checksHang_of_cycle hab hba hda hdb fuel), Option.map_none]

end Resources

variable {ι τ η σ : Type} [DecidableEq ι] [LinearOrder σ]

/-- The resources and the calls of `NotifyAndFindParent` that have run their first half and
not yet their second, each with its peer and the parent it picked. -/
structure RaceState (ι τ η : Type) where
  resources : Resources ι τ η
  pending : List (ι × Option ι)

/-- A step of one call. -/
inductive RaceOp (ι : Type) where
  /-- A call for peer `p` runs its first half. -/
  | find (p : ι)
  /-- The `i`-th pending call runs its second half and returns. -/
  | commit (i : ℕ)
  deriving DecidableEq, Repr

section Step

variable (fuel : ℕ) (evaluate : ι → ι → ℤ → σ) (isBadNode : ι → Bool)
  (send : ι → Packet ι → Bool) (blocklist : ι → ι → Bool)

/-- The halves of the calls as threads over the resources. Each peer's stream takes the
packets of `send p`, and each call of the peer has the blocklist `blocklist p`. -/
def raceStep : RaceOp ι → RaceState ι τ η → Option (RaceState ι τ η)
  | .find p, st =>
    match st.resources.peers p with
    | none => none
    | some pr =>
      (st.resources.pickParent fuel evaluate isBadNode (blocklist p) p pr).map fun pick =>
        { st with pending := st.pending ++ [(p, pick)] }
  | .commit i, st =>
    match st.pending[i]? with
    | none => none
    | some (p, pick) =>
      match st.resources.peers p, pick with
      | none, _ => none
      | some _, none => some { st with pending := st.pending.eraseIdx i }
      | some pr, some best =>
        some ⟨(st.resources.commitParent (send p) p pr best).1, st.pending.eraseIdx i⟩

end Step

section Runs

variable {fuel : ℕ} {evaluate : ι → ι → ℤ → σ} {isBadNode : ι → Bool}
  {send : ι → Packet ι → Bool} {blocklist : ι → ι → Bool}

open Resources

/-- A call whose halves run back to back is the atomic `NotifyAndFindParent` of the service. -/
theorem run_find_commit {st : RaceState ι τ η} {p : ι} {pr : Peer τ η}
    (hp : st.resources.peers p = some pr) :
    run (raceStep fuel evaluate isBadNode send blocklist) [.find p, .commit st.pending.length] st =
      (st.resources.notifyAndFindParent fuel evaluate isBadNode (send p) (blocklist p) p pr).map
        fun r => ⟨r.1, st.pending⟩ := by
  have herase : ∀ pick : Option ι, (st.pending ++ [(p, pick)]).eraseIdx st.pending.length =
      st.pending := by
    intro pick
    simp [List.eraseIdx_append_of_length_le le_rfl]
  rw [notifyAndFindParent_eq_pick_commit]
  cases hpick : st.resources.pickParent fuel evaluate isBadNode (blocklist p) p pr with
  | none => simp [run, raceStep, hp, hpick]
  | some pick =>
    cases pick with
    | none => simp [run, raceStep, hp, hpick, herase]
    | some best => simp [run, raceStep, hp, hpick, herase]

/-- A call that runs alone moves the tree by a step of the tree model, or leaves it. -/
theorem reachable_run_find_commit {st st' : RaceState ι τ η} {p : ι} {pr : Peer τ η}
    (hp : st.resources.peers p = some pr) (hg : PeerGraph.Reachable st.resources.graph)
    (h : run (raceStep fuel evaluate isBadNode send blocklist) [.find p, .commit st.pending.length]
      st = some st') :
    PeerGraph.Reachable st'.resources.graph ∧ st'.resources.peers = st.resources.peers ∧
      st'.pending = st.pending := by
  rw [run_find_commit hp] at h
  obtain ⟨⟨s', packets, found⟩, hcall, rfl⟩ := Option.map_eq_some_iff.mp h
  rcases notifyAndFindParent_cases hcall with rfl | ⟨g, hstep, rfl⟩
  · exact ⟨hg, rfl, rfl⟩
  · exact ⟨hg.tail hstep, rfl, rfl⟩

/-- Calls that run one at a time, for the peers `ps` in turn, keep the tree a tree of the tree
model. -/
theorem reachable_run_serial {st : RaceState ι τ η} (hpend : st.pending = [])
    (hg : PeerGraph.Reachable st.resources.graph) :
    ∀ {ps : List ι} {st' : RaceState ι τ η},
      run (raceStep fuel evaluate isBadNode send blocklist)
        (ps.flatMap fun p => [.find p, .commit 0]) st = some st' →
      PeerGraph.Reachable st'.resources.graph
  | [], st', h => by
    cases h
    exact hg
  | p :: ps, st', h => by
    rw [List.flatMap_cons, run_append] at h
    obtain ⟨st₁, h₁, hrest⟩ := Option.bind_eq_some_iff.mp h
    -- the peer's record is read by the first half, which steps only when there is one
    cases hp : st.resources.peers p with
    | none => simp [run, raceStep, hp] at h₁
    | some pr =>
      rw [← List.length_nil, ← hpend] at h₁
      obtain ⟨hg₁, -, hpend₁⟩ := reachable_run_find_commit hp hg h₁
      exact reachable_run_serial (hpend₁.trans hpend) hg₁ hrest

/-- Two running peers of a task that pick each other, both first halves before either second
half: the calls make them each other's parent, and the tree is no longer a tree. The two calls
one after the other, in either order, keep it a tree. -/
theorem notifyAndFindParent_race_cycle {s : Resources ι τ η} {a b : ι} {ra rb : Peer τ η}
    (hg : PeerGraph.Reachable s.graph) (ha : s.peers a = some ra) (hb : s.peers b = some rb)
    (hpa : s.pickParent fuel evaluate isBadNode (blocklist a) a ra = some (some b))
    (hpb : s.pickParent fuel evaluate isBadNode (blocklist b) b rb = some (some a))
    (hsa : ra.hasStream = true) (hsb : rb.hasStream = true)
    (hsenda : send a (.success b) = true) (hsendb : send b (.success a) = true) :
    (∃ st, run (raceStep fuel evaluate isBadNode send blocklist)
        [.find a, .find b, .commit 0, .commit 0] ⟨s, []⟩ = some st ∧
      st.resources.graph.parent a = some b ∧ st.resources.graph.parent b = some a ∧
      ¬ PeerGraph.TreeInv st.resources.graph) ∧
    ∀ st, run (raceStep fuel evaluate isBadNode send blocklist)
        [.find a, .commit 0, .find b, .commit 0] ⟨s, []⟩ = some st ∨
      run (raceStep fuel evaluate isBadNode send blocklist)
        [.find b, .commit 0, .find a, .commit 0] ⟨s, []⟩ = some st →
      PeerGraph.TreeInv st.resources.graph := by
  have hne : b ≠ a := (pickParent_candidate hpa).ne_peer
  -- the interleaved schedule: both picks are made on the tree of `s`
  have hrun : run (raceStep fuel evaluate isBadNode send blocklist)
      [.find a, .find b, .commit 0, .commit 0] ⟨s, []⟩ =
        some ⟨{ s with graph := (s.graph.replaceParent a b).replaceParent b a }, []⟩ := by
    simp [run, raceStep, ha, hb, hpa, hpb, commitParent_of_send hsa hsenda,
      commitParent_of_send hsb hsendb]
  have hab' : ((s.graph.replaceParent a b).replaceParent b a).parent a = some b := by
    simp [Function.update_of_ne hne.symm]
  have hba' : ((s.graph.replaceParent a b).replaceParent b a).parent b = some a := by simp
  refine ⟨⟨_, hrun, hab', hba', fun hinv => ?_⟩, ?_⟩
  · exact hinv.acyclic a (TransGen.trans (Ancestor.of_parent hab') (Ancestor.of_parent hba'))
  · -- each serial schedule is a run of calls one at a time
    intro st hst
    have hserial : ∀ ps : List ι, run (raceStep fuel evaluate isBadNode send blocklist)
        (ps.flatMap fun p => [.find p, .commit 0]) ⟨s, []⟩ = some st →
        PeerGraph.TreeInv st.resources.graph :=
      fun _ h => (reachable_run_serial rfl hg h).treeInv
    rcases hst with h | h
    · exact hserial [a, b] h
    · exact hserial [b, a] h

/-- Three fresh running peers of one task, of which `0` and `1` rank each other first. -/
theorem notifyAndFindParent_race_cycle_fresh :
    let s : Resources ℕ ℕ ℕ :=
      ⟨fun p => if p < 3 then some ⟨0, p, .running, true, true⟩ else none,
        fun _ => some ⟨.running, 4096, 4, 1, ∅, fun _ => none, [0, 1, 2], []⟩,
        fun _ => some ⟨4, ∅, false⟩, PeerGraph.empty⟩
    let evaluate : ℕ → ℕ → ℤ → ℤ := fun parent peer _ => if parent + peer = 1 then 1 else 0
    let step := raceStep (τ := ℕ) (η := ℕ) 10 evaluate (fun _ => false) (fun _ _ => true)
      (fun _ _ => false)
    (run step [.find 0, .commit 0, .find 1, .commit 0] ⟨s, []⟩).isSome ∧
    ((∃ st, run step [.find 0, .find 1, .commit 0, .commit 0] ⟨s, []⟩ = some st ∧
      st.resources.graph.parent 0 = some 1 ∧ st.resources.graph.parent 1 = some 0 ∧
      ¬ PeerGraph.TreeInv st.resources.graph) ∧
    ∀ st, run step [.find 0, .commit 0, .find 1, .commit 0] ⟨s, []⟩ = some st ∨
      run step [.find 1, .commit 0, .find 0, .commit 0] ⟨s, []⟩ = some st →
      PeerGraph.TreeInv st.resources.graph) := by
  intro s evaluate step
  exact ⟨by decide, notifyAndFindParent_race_cycle .refl rfl rfl (by decide) (by decide) rfl rfl
    rfl rfl⟩

/-- After the race of `notifyAndFindParent_race_cycle_fresh`, the call of the third peer never
returns. -/
theorem notifyAndFindParent_hangs_on_cycle_race :
    let s : Resources ℕ ℕ ℕ :=
      ⟨fun p => if p < 3 then some ⟨0, p, .running, true, true⟩ else none,
        fun _ => some ⟨.running, 4096, 4, 1, ∅, fun _ => none, [0, 1, 2], []⟩,
        fun _ => some ⟨4, ∅, false⟩, PeerGraph.empty⟩
    let evaluate : ℕ → ℕ → ℤ → ℤ := fun parent peer _ => if parent + peer = 1 then 1 else 0
    ∃ st, run (raceStep 10 evaluate (fun _ => false) (fun _ _ => true) (fun _ _ => false))
        [.find 0, .find 1, .commit 0, .commit 0] ⟨s, []⟩ = some st ∧
      ∀ fuel, st.resources.notifyAndFindParent fuel evaluate (fun _ => false) (fun _ => true)
        (fun _ => false) 2 ⟨0, 2, .running, true, true⟩ = none := by
  intro s evaluate
  exact ⟨_, rfl, Resources.notifyAndFindParent_hangs_on_cycle (a := 0) (b := 1) (by decide)
    (by decide) (by decide) (by decide) rfl rfl (by decide) rfl rfl⟩

/-- A task whose peers `a` and `b` are each other's parent and whose peer `d` has no parent
leaves the calls stuck, for any fuel: when every peer in the store is a running peer of the task
and `a` and `d` pass every peer's plain checks, no call can run its first half, and with none
pending none can run its second. No interleaving leaves such a state
(`Interleave.Stuck.reachable_eq`). -/
theorem raceStep_stuck_on_cycle {st : RaceState ι τ η} {a b d : ι} {t : τ} {task : Task ι}
    (hab : st.resources.graph.parent a = some b) (hba : st.resources.graph.parent b = some a)
    (hd : st.resources.graph.parent d = none) (hda : d ≠ a) (hdb : d ≠ b)
    (htask : st.resources.tasks t = some task) (ha : a ∈ task.peers) (hdt : d ∈ task.peers)
    (hpeers : ∀ q qr, st.resources.peers q = some qr → qr.state = .running ∧ qr.task = t)
    (hblock : ∀ q, blocklist q a = false ∧ blocklist q d = false)
    (hbad : isBadNode a = false ∧ isBadNode d = false) (hpend : st.pending = []) :
    Stuck (raceStep fuel evaluate isBadNode send blocklist) st := by
  intro op
  cases op with
  | find q =>
    cases hq : st.resources.peers q with
    | none => simp [raceStep, hq]
    | some qr =>
      obtain ⟨hrun, rfl⟩ := hpeers q qr hq
      -- a peer of the cycle hangs on the peer without a parent, any other peer on `a`
      have hpick : st.resources.pickParent fuel evaluate isBadNode (blocklist q) q qr = none := by
        by_cases hqa : q = a
        · subst hqa
          exact pickParent_eq_none_of_checksHang hrun htask hdt (hblock q).2 hbad.2 hda
            (PeerGraph.checksHang_of_root hab hba hd hda hdb fuel)
        by_cases hqb : q = b
        · subst hqb
          exact pickParent_eq_none_of_checksHang hrun htask hdt (hblock q).2 hbad.2 hdb
            (PeerGraph.checksHang_of_root hba hab hd hdb hda fuel)
        exact pickParent_eq_none_of_checksHang hrun htask ha (hblock q).1 hbad.1 (Ne.symm hqa)
          (PeerGraph.checksHang_of_cycle hab hba hqa hqb fuel)
      simp [raceStep, hq, hpick]
  | commit i => simp [raceStep, hpend]

/-- The race of `notifyAndFindParent_race_cycle_fresh` leaves the three peers' calls stuck. -/
theorem raceStep_stuck_on_cycle_fresh :
    let s : Resources ℕ ℕ ℕ :=
      ⟨fun p => if p < 3 then some ⟨0, p, .running, true, true⟩ else none,
        fun _ => some ⟨.running, 4096, 4, 1, ∅, fun _ => none, [0, 1, 2], []⟩,
        fun _ => some ⟨4, ∅, false⟩, PeerGraph.empty⟩
    let evaluate : ℕ → ℕ → ℤ → ℤ := fun parent peer _ => if parent + peer = 1 then 1 else 0
    let step := raceStep (τ := ℕ) (η := ℕ) 10 evaluate (fun _ => false) (fun _ _ => true)
      (fun _ _ => false)
    ∃ st, run step [.find 0, .find 1, .commit 0, .commit 0] ⟨s, []⟩ = some st ∧ Stuck step st := by
  intro s evaluate step
  refine ⟨_, rfl, raceStep_stuck_on_cycle (a := 0) (b := 1) (d := 2) (t := 0) (by decide)
    (by decide) (by decide) (by decide) (by decide) rfl (by decide) (by decide) ?_
    (fun _ => ⟨rfl, rfl⟩) ⟨rfl, rfl⟩ rfl⟩
  -- the two commits leave the records of the three peers as they were
  intro q qr h
  by_cases hq : q < 3
  · simp [s, hq] at h
    subst h
    exact ⟨rfl, rfl⟩
  · simp [s, hq] at h

end Runs

end Dragonfly.Scheduler
