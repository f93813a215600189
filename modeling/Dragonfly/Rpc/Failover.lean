import Mathlib.Data.Finset.Card

/-!
# Failing over to another server node

`pkg/rpc/client.go` and the clients built on it. A `Connection` binds each hash key to a
server node (`key2NodeMap`). When a call on the key's node fails, the failover paths move the
key with `TryMigrate` to the first node of the hash ring outside the nodes that failed and
call again with `ExecuteWithRetry`, until `TryMigrate` finds no node. `TryMigrate` refuses a
cause that is `Canceled` or `DeadlineExceeded`, or a `DfError` other than `ResourceLacked`
(`migrationAdmits`).

The paths share one shape (`failover`) and differ in the errors they pass on. `replaceClient`
of the three streams and `retryRegisterPeerTask` pass the cause to both `TryMigrate` and
`ExecuteWithRetry`; but `ExecuteWithRetry` returns at once, without a call, for any `DfError`
cause, so a `ResourceLacked` cause moves the key from node to node and never calls one.
`retryReportPeerResult` passes its named result `err`, still `nil`, instead: it migrates for
any cause, also one that `TryMigrate` refuses (`failover_disagrees_with_tryMigrate`).

On a ring of `n` nodes the paths return within `n + 1` levels, and each level calls only the
node the key moved to, which no earlier level called: no node is called more than three
times, the attempts of one `ExecuteWithRetry`, and there are at most `3 n` calls in all
(`failover_paths_call_untried`). `replaceStream` has no such bound: its failure branch
calls it again with the same `StreamTimes` and cause (`replaceStream_never_returns`). Its only
callers, `retrySend` and `retryRecv`, are called nowhere in the repository.

One key is followed, on a ring and a set of cached clients that no other call changes. A
`World` fixes whether dialling each node succeeds and how the call on each node answers; the
nodes called are recorded. The recursion of the paths takes fuel; `none` is a run out of it.
-/

namespace Dragonfly.Rpc.Failover

/-- `base.Code_ResourceLacked`. -/
def codeResourceLacked : ℕ := 1000

/-- An error of a call: a gRPC status `Canceled` or `DeadlineExceeded`, a `*dferrors.DfError`
with its code, or another error (another status, `ErrNoCandidateNode`, a dial error). -/
inductive RpcError where
  | canceled
  | deadlineExceeded
  | df (code : ℕ)
  | other
  deriving DecidableEq, Repr

/-- `status.Code(err)` is `Canceled` or `DeadlineExceeded`. -/
def RpcError.isCanceledOrDeadline : RpcError → Bool
  | .canceled | .deadlineExceeded => true
  | _ => false

/-- `err.(*dferrors.DfError)` succeeds. -/
def RpcError.isDf : RpcError → Bool
  | .df _ => true
  | _ => false

/-- The policy of `TryMigrate` (`client.go:367–376`): whether a cause lets a key move. -/
def migrationAdmits (cause : RpcError) : Bool :=
  !cause.isCanceledOrDeadline &&
    match cause with
    | .df code => code = codeResourceLacked
    | _ => true

variable {ν : Type} [DecidableEq ν]

/-- The part of a `Connection` one key sees: the nodes `hashRing.GetNodes` gives for it, in
order, the node the key is bound to, the nodes with a cached client (`node2ClientMap`), and
the nodes called so far. -/
structure Connection (ν : Type) where
  ring : List ν
  key2Node : Option ν
  clients : List ν
  invoked : List ν
  deriving DecidableEq, Repr

/-- Whether dialling each node succeeds (`createClient`), and how the call on each node
answers (`none` for success). -/
structure World (ν : Type) where
  dial : ν → Bool
  rpc : ν → Option RpcError

variable (w : World ν)

/-- `findCandidateClientConn` (`client.go:211`): the key's node unless excluded, else the first
node of the ring outside `exclusiveNodes` with a cached client or that dials. -/
def findCandidateClientConn (conn : Connection ν) (exclusiveNodes : List ν) : Option ν :=
  let fromRing := (conn.ring.filter (· ∉ exclusiveNodes)).find? fun n =>
    decide (n ∈ conn.clients) || w.dial n
  match conn.key2Node with
  | some node => if node ∉ exclusiveNodes ∧ node ∈ conn.clients then some node else fromRing
  | none => fromRing

/-- `TryMigrate` (`client.go:365`) of the key: the node it was bound to (`""` is `none`) once
it is bound to a candidate outside `exclusiveNodes` and that node. -/
def tryMigrate (conn : Connection ν) (cause : Option RpcError) (exclusiveNodes : List ν) :
    Connection ν × Except RpcError (Option ν) :=
  match cause with
  | some c =>
    if c.isCanceledOrDeadline then (conn, .error c)
    else if c.isDf ∧ c ≠ .df codeResourceLacked then (conn, .error c)
    else migrate
  | none => migrate
where
  migrate : Connection ν × Except RpcError (Option ν) :=
    match findCandidateClientConn w conn (exclusiveNodes ++ conn.key2Node.toList) with
    | none => (conn, .error .other)
    | some node =>
      ({ conn with
        key2Node := some node
        clients := if node ∈ conn.clients then conn.clients else node :: conn.clients },
        .ok conn.key2Node)

/-- One call of the function `ExecuteWithRetry` runs: `getXClient(key, true)`, that is
`GetClientConn` of a stateful request, then the call on the key's node. -/
def attempt (conn : Connection ν) : Connection ν × Option RpcError :=
  match conn.key2Node with
  -- `"it is a stateful request, but cannot find hash key"`
  | none => (conn, some .other)
  | some node =>
    if node ∈ conn.clients ∨ w.dial node = true then
      ({ conn with
        clients := if node ∈ conn.clients then conn.clients else node :: conn.clients
        invoked := conn.invoked ++ [node] }, w.rpc node)
    else (conn, some .other)

/-- `ExecuteWithRetry` (`client_util.go:219`) with `attempts` attempts left: it returns its
cause at once when that is a `DfError`, `Canceled` or `DeadlineExceeded`, and otherwise
calls until a call succeeds. -/
def executeWithRetry : ℕ → Connection ν → Option RpcError → Connection ν × Option RpcError
  | 0, conn, cause => (conn, cause)
  | attempts + 1, conn, cause =>
    if (cause.map RpcError.isDf).getD false ∨ (cause.map RpcError.isCanceledOrDeadline).getD false
    then (conn, cause)
    else
      match attempt w conn with
      | (conn, none) => (conn, none)
      | (conn, some err) => executeWithRetry attempts conn (some err)

/-- The shape of the failover paths with `fuel` levels of recursion: migrate with the error
`migrateCause cause`, call with `ExecuteWithRetry` and the cause `executeCause cause`, and on a
failure `err` fail over again from the cause `nextCause cause err`; the failed nodes grow by
the node the key left. -/
def failover (migrateCause executeCause : RpcError → Option RpcError)
    (nextCause : RpcError → RpcError → RpcError) :
    ℕ → Connection ν → List ν → RpcError → Connection ν × Option (Except RpcError Unit)
  | 0, conn, _, _ => (conn, none)
  | fuel + 1, conn, exclusiveNodes, cause =>
    match tryMigrate w conn (migrateCause cause) exclusiveNodes with
    | (conn, .error _) => (conn, some (.error cause))
    | (conn, .ok preNode) =>
      let exclusiveNodes := exclusiveNodes ++ preNode.toList
      match executeWithRetry w 3 conn (executeCause cause) with
      | (conn, none) => (conn, some (.ok ()))
      | (conn, some err) =>
        failover migrateCause executeCause nextCause fuel conn exclusiveNodes
          (nextCause cause err)

/-- `schedulerClient.retryRegisterPeerTask` (`scheduler/client/client.go:112`): fails over on
the error of each attempt. -/
def retryRegisterPeerTask (fuel : ℕ) (conn : Connection ν) (exclusiveNodes : List ν)
    (cause : RpcError) : Connection ν × Option (Except RpcError Unit) :=
  if cause.isCanceledOrDeadline then (conn, some (.error cause))
  else failover w some some (fun _ err => err) fuel conn exclusiveNodes cause

/-- `schedulerClient.retryReportPeerResult` (`scheduler/client/client.go:174`): `TryMigrate`
gets the named result `err`, `nil` at that point, and `ExecuteWithRetry` `nil`; the cause is
passed on unchanged. -/
def retryReportPeerResult (fuel : ℕ) (conn : Connection ν) (exclusiveNodes : List ν)
    (cause : RpcError) : Connection ν × Option (Except RpcError Unit) :=
  if cause.isCanceledOrDeadline then (conn, some (.error cause))
  else failover w (fun _ => none) (fun _ => none) (fun cause _ => cause) fuel conn
    exclusiveNodes cause

/-- `peerPacketStream.replaceClient` (`peer_packet_stream.go:196`); the call is
`RegisterPeerTask` then `ReportPieceResult`. -/
def peerPacketStreamReplaceClient (fuel : ℕ) (conn : Connection ν) (failedServers : List ν)
    (cause : RpcError) : Connection ν × Option (Except RpcError Unit) :=
  failover w some some (fun cause _ => cause) fuel conn failedServers cause

/-- `PieceSeedStream.replaceClient` (`piece_seed_stream.go:130`); the call is `ObtainSeeds`. -/
def pieceSeedStreamReplaceClient (fuel : ℕ) (conn : Connection ν) (failedServers : List ν)
    (cause : RpcError) : Connection ν × Option (Except RpcError Unit) :=
  failover w some some (fun cause _ => cause) fuel conn failedServers cause

/-- `DownResultStream.replaceClient` (`down_result_stream.go:139`); the call is `Download`. -/
def downResultStreamReplaceClient (fuel : ℕ) (conn : Connection ν) (failedServers : List ν)
    (cause : RpcError) : Connection ν × Option (Except RpcError Unit) :=
  failover w some some (fun cause _ => cause) fuel conn failedServers cause

/-- `peerPacketStream.replaceStream` (`peer_packet_stream.go:173`) and
`PieceSeedStream.replaceStream` (`piece_seed_stream.go:106`) with `fuel` levels of recursion:
after `MaxAttempts` stream replacements give up with the cause; otherwise call with
`ExecuteWithRetry` and the cause, count the new stream on success, and on a failure replace
again with the same count and cause. -/
def replaceStream (maxAttempts : ℕ) :
    ℕ → Connection ν → ℕ → RpcError → Connection ν × Option (Except RpcError ℕ)
  | 0, conn, _, _ => (conn, none)
  | fuel + 1, conn, streamTimes, cause =>
    if streamTimes ≥ maxAttempts then (conn, some (.error cause))
    else
      match executeWithRetry w maxAttempts conn (some cause) with
      | (conn, none) => (conn, some (.ok (streamTimes + 1)))
      | (conn, some _) => replaceStream maxAttempts fuel conn streamTimes cause

/-- `peerPacketStream.replaceStream` (`peer_packet_stream.go:173`), with
`retryMeta.MaxAttempts`. -/
def peerPacketStreamReplaceStream (maxAttempts fuel : ℕ) (conn : Connection ν) (streamTimes : ℕ)
    (cause : RpcError) : Connection ν × Option (Except RpcError ℕ) :=
  replaceStream w maxAttempts fuel conn streamTimes cause

/-- `PieceSeedStream.replaceStream` (`piece_seed_stream.go:106`), with `MaxAttempts`. -/
def pieceSeedStreamReplaceStream (maxAttempts fuel : ℕ) (conn : Connection ν) (streamTimes : ℕ)
    (cause : RpcError) : Connection ν × Option (Except RpcError ℕ) :=
  replaceStream w maxAttempts fuel conn streamTimes cause

/-! ### What the paths call -/

section Calls

variable {w}

/-- Migrating calls no node. -/
@[simp] theorem tryMigrate_invoked (conn : Connection ν) (cause : Option RpcError)
    (exclusiveNodes : List ν) : (tryMigrate w conn cause exclusiveNodes).1.invoked = conn.invoked := by
  unfold tryMigrate tryMigrate.migrate
  split
  · split_ifs
    · rfl
    · rfl
    · split <;> rfl
  · split <;> rfl

/-- A `DfError` cause returns from `ExecuteWithRetry` before any call. -/
theorem executeWithRetry_df (attempts : ℕ) (conn : Connection ν) (code : ℕ) :
    executeWithRetry w (attempts + 1) conn (some (.df code)) = (conn, some (.df code)) := by
  simp [executeWithRetry, RpcError.isDf]

/-- The nodes called only grow. -/
theorem attempt_invoked_extends (conn : Connection ν) :
    conn.invoked <+: (attempt w conn).1.invoked := by
  obtain ⟨ring, key, clients, invoked⟩ := conn
  unfold attempt
  cases key with
  | none => exact List.prefix_refl _
  | some node =>
    dsimp only
    by_cases h : node ∈ clients ∨ w.dial node = true
    · rw [if_pos h]
      exact List.prefix_append _ _
    · simp only [if_neg h, List.prefix_refl]

theorem executeWithRetry_invoked_extends (attempts : ℕ) (conn : Connection ν)
    (cause : Option RpcError) : conn.invoked <+: (executeWithRetry w attempts conn cause).1.invoked := by
  induction attempts generalizing conn cause with
  | zero => exact List.prefix_refl _
  | succ attempts ih =>
    unfold executeWithRetry
    split_ifs
    · exact List.prefix_refl _
    · cases h : attempt w conn with
      | mk conn' r =>
        have hpre : conn.invoked <+: conn'.invoked := by
          simpa [h] using attempt_invoked_extends (w := w) conn
        cases r with
        | none => exact hpre
        | some err => exact hpre.trans (ih conn' (some err))

theorem failover_invoked_extends {migrateCause executeCause : RpcError → Option RpcError}
    {nextCause : RpcError → RpcError → RpcError} (fuel : ℕ) (conn : Connection ν)
    (exclusiveNodes : List ν) (cause : RpcError) :
    conn.invoked <+:
      (failover w migrateCause executeCause nextCause fuel conn exclusiveNodes cause).1.invoked := by
  induction fuel generalizing conn exclusiveNodes cause with
  | zero => exact List.prefix_refl _
  | succ fuel ih =>
    unfold failover
    cases hm : tryMigrate w conn (migrateCause cause) exclusiveNodes with
    | mk conn₁ r =>
      have h₁ : conn₁.invoked = conn.invoked := by
        simpa [hm] using tryMigrate_invoked (w := w) conn (migrateCause cause) exclusiveNodes
      cases r with
      | error _ => exact h₁ ▸ List.prefix_refl _
      | ok preNode =>
        dsimp only
        cases he : executeWithRetry w 3 conn₁ (executeCause cause) with
        | mk conn₂ r₂ =>
          have h₂ : conn.invoked <+: conn₂.invoked := by
            simpa [h₁, he] using executeWithRetry_invoked_extends (w := w) 3 conn₁ (executeCause cause)
          cases r₂ with
          | none => exact h₂
          | some err => exact h₂.trans (ih _ _ _)

/-- Failing over from a `DfError` that stays the cause never calls a node and never
succeeds: `ExecuteWithRetry` returns the cause each time, and the key only moves. -/
theorem failover_of_df (migrateCause : RpcError → Option RpcError)
    (nextCause : RpcError → RpcError → RpcError) (code : ℕ)
    (hnext : nextCause (.df code) (.df code) = .df code) (fuel : ℕ) (conn : Connection ν)
    (exclusiveNodes : List ν) :
    (failover w migrateCause some nextCause fuel conn exclusiveNodes (.df code)).2 ≠
        some (.ok ()) ∧
      (failover w migrateCause some nextCause fuel conn exclusiveNodes (.df code)).1.invoked =
        conn.invoked := by
  induction fuel generalizing conn exclusiveNodes with
  | zero => exact ⟨by simp [failover], rfl⟩
  | succ fuel ih =>
    unfold failover
    cases hm : tryMigrate w conn (migrateCause (.df code)) exclusiveNodes with
    | mk conn₁ r =>
      have h₁ : conn₁.invoked = conn.invoked := by
        simpa [hm] using tryMigrate_invoked (w := w) conn (migrateCause (.df code)) exclusiveNodes
      cases r with
      | error _ => exact ⟨by simp, h₁⟩
      | ok preNode =>
        dsimp only
        rw [executeWithRetry_df]
        dsimp only
        rw [hnext, ← h₁]
        exact ih conn₁ _

/-- A cause `nil` is never refused: `TryMigrate` binds the key to the candidate. -/
theorem tryMigrate_none {conn : Connection ν} {exclusiveNodes : List ν} {node : ν}
    (hfind : findCandidateClientConn w conn (exclusiveNodes ++ conn.key2Node.toList) = some node) :
    tryMigrate w conn none exclusiveNodes =
      ({ conn with
        key2Node := some node
        clients := if node ∈ conn.clients then conn.clients else node :: conn.clients },
        .ok conn.key2Node) := by
  simp [tryMigrate, tryMigrate.migrate, hfind]

/-- A key bound to a node with a client is called there. -/
theorem attempt_of_bound {conn : Connection ν} {node : ν} (hbound : conn.key2Node = some node)
    (hclient : node ∈ conn.clients) :
    attempt w conn = ({ conn with invoked := conn.invoked ++ [node] }, w.rpc node) := by
  simp [attempt, hbound, hclient]

/-- `retryReportPeerResult` migrates whatever its cause, short of `Canceled` and
`DeadlineExceeded`, and calls the node it migrated to. -/
theorem retryReportPeerResult_calls_candidate {conn : Connection ν} {exclusiveNodes : List ν}
    {cause : RpcError} (hcause : cause.isCanceledOrDeadline = false) {node : ν}
    (hfind : findCandidateClientConn w conn (exclusiveNodes ++ conn.key2Node.toList) = some node)
    (fuel : ℕ) :
    conn.invoked ++ [node] <+: (retryReportPeerResult w (fuel + 1) conn exclusiveNodes cause).1.invoked := by
  set conn₁ : Connection ν := { conn with
    key2Node := some node
    clients := if node ∈ conn.clients then conn.clients else node :: conn.clients }
  have hclient : node ∈ conn₁.clients := by
    by_cases h : node ∈ conn.clients <;> simp [conn₁, h]
  have hcall := attempt_of_bound (w := w) (show conn₁.key2Node = some node from rfl) hclient
  unfold retryReportPeerResult
  rw [if_neg (by simp [hcause]), failover, tryMigrate_none hfind]
  dsimp only
  rw [executeWithRetry, if_neg (by simp), hcall]
  -- whatever the node answers, the call on it is recorded first
  cases w.rpc node with
  | none => exact List.prefix_refl _
  | some err =>
    dsimp only
    have h₂ := executeWithRetry_invoked_extends (w := w) 2
      { conn₁ with invoked := conn₁.invoked ++ [node] } (some err)
    cases he : executeWithRetry w 2 { conn₁ with invoked := conn₁.invoked ++ [node] } (some err) with
    | mk conn₂ r₂ =>
      rw [he] at h₂
      cases r₂ with
      | none => exact h₂
      | some err₂ => exact h₂.trans (failover_invoked_extends (w := w) _ _ _ _)

end Calls

/-- `TryMigrate` admits a `ResourceLacked` cause, but with it `retryRegisterPeerTask` and the
`replaceClient` of the three streams move the key and never call a node, so they never
succeed, whatever the ring and the nodes' answers. `retryReportPeerResult` migrates and calls
the candidate node for a `DfError` that `TryMigrate` refuses. -/
theorem failover_disagrees_with_tryMigrate (w : World ν) (conn : Connection ν)
    (exclusiveNodes : List ν) (fuel : ℕ) :
    migrationAdmits (.df codeResourceLacked) = true ∧
      ((retryRegisterPeerTask w fuel conn exclusiveNodes (.df codeResourceLacked)).2 ≠
          some (.ok ()) ∧
        (retryRegisterPeerTask w fuel conn exclusiveNodes (.df codeResourceLacked)).1.invoked =
          conn.invoked) ∧
      ((peerPacketStreamReplaceClient w fuel conn exclusiveNodes (.df codeResourceLacked)).2 ≠
          some (.ok ()) ∧
        (peerPacketStreamReplaceClient w fuel conn exclusiveNodes
          (.df codeResourceLacked)).1.invoked = conn.invoked) ∧
      ((pieceSeedStreamReplaceClient w fuel conn exclusiveNodes (.df codeResourceLacked)).2 ≠
          some (.ok ()) ∧
        (pieceSeedStreamReplaceClient w fuel conn exclusiveNodes
          (.df codeResourceLacked)).1.invoked = conn.invoked) ∧
      ((downResultStreamReplaceClient w fuel conn exclusiveNodes (.df codeResourceLacked)).2 ≠
          some (.ok ()) ∧
        (downResultStreamReplaceClient w fuel conn exclusiveNodes
          (.df codeResourceLacked)).1.invoked = conn.invoked) ∧
      ∀ code, code ≠ codeResourceLacked → ∀ node,
        findCandidateClientConn w conn (exclusiveNodes ++ conn.key2Node.toList) = some node →
        migrationAdmits (.df code) = false ∧
          conn.invoked ++ [node] <+:
            (retryReportPeerResult w (fuel + 1) conn exclusiveNodes (.df code)).1.invoked := by
  have hstream := failover_of_df (w := w) some (fun cause _ => cause) codeResourceLacked rfl fuel
    conn exclusiveNodes
  refine ⟨by decide, ?_, hstream, hstream, hstream, ?_⟩
  · have hregister := failover_of_df (w := w) some (fun _ err => err) codeResourceLacked rfl fuel
      conn exclusiveNodes
    simpa [retryRegisterPeerTask, RpcError.isCanceledOrDeadline] using hregister
  · intro code hcode node hfind
    refine ⟨by simp [migrationAdmits, RpcError.isCanceledOrDeadline, hcode], ?_⟩
    exact retryReportPeerResult_calls_candidate rfl hfind fuel

/-- Two nodes, the key on node `0`, which failed; node `1` would answer. -/
def twoNodes : Connection ℕ := ⟨[0, 1], some 0, [0, 1], []⟩

/-- Node `0` fails, node `1` succeeds. -/
def secondNodeUp : World ℕ := ⟨fun _ => true, fun n => if n = 1 then none else some .other⟩

/-- With a `ResourceLacked` cause the registration moves the key to node `1` and returns the
cause without calling it; a report with the refused `DfError` code `4000` calls node `1` and
succeeds. -/
theorem failover_disagrees_with_tryMigrate_two :
    retryRegisterPeerTask secondNodeUp 3 twoNodes [0] (.df codeResourceLacked) =
        (⟨[0, 1], some 1, [0, 1], []⟩, some (.error (.df codeResourceLacked))) ∧
      retryReportPeerResult secondNodeUp 3 twoNodes [0] (.df 4000) =
        (⟨[0, 1], some 1, [0, 1], [1]⟩, some (.ok ())) ∧
      (migrationAdmits (.df codeResourceLacked) = true ∧
        ((retryRegisterPeerTask secondNodeUp 2 twoNodes [0] (.df codeResourceLacked)).2 ≠
            some (.ok ()) ∧
          (retryRegisterPeerTask secondNodeUp 2 twoNodes [0]
            (.df codeResourceLacked)).1.invoked = twoNodes.invoked) ∧
        ((peerPacketStreamReplaceClient secondNodeUp 2 twoNodes [0]
            (.df codeResourceLacked)).2 ≠ some (.ok ()) ∧
          (peerPacketStreamReplaceClient secondNodeUp 2 twoNodes [0]
            (.df codeResourceLacked)).1.invoked = twoNodes.invoked) ∧
        ((pieceSeedStreamReplaceClient secondNodeUp 2 twoNodes [0]
            (.df codeResourceLacked)).2 ≠ some (.ok ()) ∧
          (pieceSeedStreamReplaceClient secondNodeUp 2 twoNodes [0]
            (.df codeResourceLacked)).1.invoked = twoNodes.invoked) ∧
        ((downResultStreamReplaceClient secondNodeUp 2 twoNodes [0]
            (.df codeResourceLacked)).2 ≠ some (.ok ()) ∧
          (downResultStreamReplaceClient secondNodeUp 2 twoNodes [0]
            (.df codeResourceLacked)).1.invoked = twoNodes.invoked) ∧
        ∀ code, code ≠ codeResourceLacked → ∀ node,
          findCandidateClientConn secondNodeUp twoNodes ([0] ++ twoNodes.key2Node.toList) =
              some node →
          migrationAdmits (.df code) = false ∧
            twoNodes.invoked ++ [node] <+:
              (retryReportPeerResult secondNodeUp (2 + 1) twoNodes [0] (.df code)).1.invoked) :=
  ⟨by decide, by decide, failover_disagrees_with_tryMigrate secondNodeUp twoNodes [0] 2⟩

/-! ### How deep the recursions go -/

section Termination

variable {w}

/-- The ring nodes a failover can still move the key to: those outside the failed nodes and
the key's own node. -/
def untried (conn : Connection ν) (exclusiveNodes : List ν) : Finset ν :=
  conn.ring.toFinset \ (exclusiveNodes ++ conn.key2Node.toList).toFinset

/-- A call keeps the ring and the key's node. -/
theorem attempt_ring_key2Node (conn : Connection ν) :
    (attempt w conn).1.ring = conn.ring ∧ (attempt w conn).1.key2Node = conn.key2Node := by
  unfold attempt
  split
  · exact ⟨rfl, rfl⟩
  · split_ifs <;> exact ⟨rfl, rfl⟩

theorem executeWithRetry_ring_key2Node (attempts : ℕ) (conn : Connection ν)
    (cause : Option RpcError) :
    (executeWithRetry w attempts conn cause).1.ring = conn.ring ∧
      (executeWithRetry w attempts conn cause).1.key2Node = conn.key2Node := by
  induction attempts generalizing conn cause with
  | zero => exact ⟨rfl, rfl⟩
  | succ attempts ih =>
    unfold executeWithRetry
    split_ifs
    · exact ⟨rfl, rfl⟩
    · obtain ⟨hring, hkey⟩ := attempt_ring_key2Node (w := w) conn
      cases h : attempt w conn with
      | mk conn' r =>
        rw [h] at hring hkey
        cases r with
        | none => exact ⟨hring, hkey⟩
        | some err =>
          obtain ⟨hring', hkey'⟩ := ih conn' (some err)
          exact ⟨hring'.trans hring, hkey'.trans hkey⟩

/-- A candidate is outside the excluded nodes, and on the ring unless it is the key's node. -/
theorem findCandidateClientConn_spec {conn : Connection ν} {exclusiveNodes : List ν} {n : ν}
    (h : findCandidateClientConn w conn exclusiveNodes = some n) :
    n ∉ exclusiveNodes ∧ (n ∈ conn.ring ∨ conn.key2Node = some n) := by
  -- a node found on the ring passed the filter
  have hring : ∀ {m}, ((conn.ring.filter (· ∉ exclusiveNodes)).find? fun m =>
      decide (m ∈ conn.clients) || w.dial m) = some m → m ∉ exclusiveNodes ∧ m ∈ conn.ring := by
    intro m hm
    have hmem := List.mem_filter.mp (List.mem_of_find?_eq_some hm)
    exact ⟨of_decide_eq_true hmem.2, hmem.1⟩
  unfold findCandidateClientConn at h
  split at h
  · next node hkey =>
    split_ifs at h with hnode
    · cases h
      exact ⟨hnode.1, .inr hkey⟩
    · obtain ⟨hn, hn'⟩ := hring h
      exact ⟨hn, .inl hn'⟩
  · obtain ⟨hn, hn'⟩ := hring h
    exact ⟨hn, .inl hn'⟩

/-- A migration leaves the ring alone and binds the key to an untried ring node; the node it
reports is the one the key left. -/
theorem tryMigrate_ok {conn conn' : Connection ν} {cause : Option RpcError}
    {exclusiveNodes : List ν} {preNode : Option ν}
    (h : tryMigrate w conn cause exclusiveNodes = (conn', .ok preNode)) :
    preNode = conn.key2Node ∧ conn'.ring = conn.ring ∧
      ∃ n, conn'.key2Node = some n ∧ n ∈ untried conn exclusiveNodes := by
  have hmigrate : tryMigrate.migrate w conn exclusiveNodes = (conn', .ok preNode) := by
    unfold tryMigrate at h
    split at h
    · split_ifs at h
      · cases h
      · cases h
      · exact h
    · exact h
  unfold tryMigrate.migrate at hmigrate
  split at hmigrate
  · cases hmigrate
  · next n hfind =>
    cases hmigrate
    obtain ⟨hn, hring⟩ := findCandidateClientConn_spec hfind
    -- the key's own node is excluded, so the candidate comes from the ring
    have hkey : conn.key2Node ≠ some n := fun hk => hn (by simp [hk])
    refine ⟨rfl, rfl, n, rfl, ?_⟩
    simpa [untried, hring.resolve_right hkey] using hn

/-- A migration binds the key to an untried node, and leaves untried, after the calls of
`ExecuteWithRetry`, the nodes that were but that one. -/
theorem untried_migrate {conn conn' : Connection ν} {cause : Option RpcError}
    {exclusiveNodes : List ν} {preNode : Option ν}
    (h : tryMigrate w conn cause exclusiveNodes = (conn', .ok preNode)) (attempts : ℕ)
    (executeCause : Option RpcError) :
    ∃ n, conn'.key2Node = some n ∧ n ∈ untried conn exclusiveNodes ∧
      untried (executeWithRetry w attempts conn' executeCause).1
        (exclusiveNodes ++ preNode.toList) = (untried conn exclusiveNodes).erase n := by
  obtain ⟨hpre, hring, n, hkey, hn⟩ := tryMigrate_ok h
  obtain ⟨hring', hkey'⟩ := executeWithRetry_ring_key2Node (w := w) attempts conn' executeCause
  refine ⟨n, hkey, hn, ?_⟩
  rw [untried, untried, hring', hkey', hkey, hring, hpre, ← Finset.sdiff_insert]
  congr 1
  ext m
  simp

/-- Each migration takes one node out of the untried ones. -/
theorem card_untried_migrate {conn conn' : Connection ν} {cause : Option RpcError}
    {exclusiveNodes : List ν} {preNode : Option ν}
    (h : tryMigrate w conn cause exclusiveNodes = (conn', .ok preNode)) (attempts : ℕ)
    (executeCause : Option RpcError) :
    (untried (executeWithRetry w attempts conn' executeCause).1
      (exclusiveNodes ++ preNode.toList)).card < (untried conn exclusiveNodes).card := by
  obtain ⟨n, -, hn, heq⟩ := untried_migrate h attempts executeCause
  rw [heq]
  exact Finset.card_erase_lt_of_mem hn

/-- With more levels than untried nodes, a failover returns. -/
theorem failover_isSome {migrateCause executeCause : RpcError → Option RpcError}
    {nextCause : RpcError → RpcError → RpcError} (fuel : ℕ) (conn : Connection ν)
    (exclusiveNodes : List ν) (cause : RpcError)
    (hfuel : (untried conn exclusiveNodes).card < fuel) :
    (failover w migrateCause executeCause nextCause fuel conn exclusiveNodes cause).2.isSome := by
  -- induction on the levels, the untried nodes dropping by one at each
  induction fuel generalizing conn exclusiveNodes cause with
  | zero => omega
  | succ fuel ih =>
    unfold failover
    cases hm : tryMigrate w conn (migrateCause cause) exclusiveNodes with
    | mk conn₁ r =>
      cases r with
      | error _ => rfl
      | ok preNode =>
        dsimp only
        have hlt := card_untried_migrate hm 3 (executeCause cause)
        cases he : executeWithRetry w 3 conn₁ (executeCause cause) with
        | mk conn₂ r₂ =>
          rw [he] at hlt
          cases r₂ with
          | none => rfl
          | some err => exact ih conn₂ _ _ (by dsimp only at hlt; omega)

theorem card_untried_le (conn : Connection ν) (exclusiveNodes : List ν) :
    (untried conn exclusiveNodes).card ≤ conn.ring.length :=
  (Finset.card_le_card Finset.sdiff_subset).trans (List.toFinset_card_le _)

/-- What holds of a refused cause and of every `failover` holds of the five failover paths: the
two retries first return a canceled or expired cause as it is, and the three streams fail over at
once. -/
theorem failover_paths_cases {P : Connection ν × Option (Except RpcError Unit) → Prop} (w : World ν)
    (fuel : ℕ) (conn : Connection ν) (exclusiveNodes : List ν) (cause : RpcError)
    (hret : P (conn, some (.error cause)))
    (hfail : ∀ migrateCause executeCause nextCause,
      P (failover w migrateCause executeCause nextCause fuel conn exclusiveNodes cause)) :
    ∀ r ∈ [retryRegisterPeerTask w fuel conn exclusiveNodes cause,
        retryReportPeerResult w fuel conn exclusiveNodes cause,
        peerPacketStreamReplaceClient w fuel conn exclusiveNodes cause,
        pieceSeedStreamReplaceClient w fuel conn exclusiveNodes cause,
        downResultStreamReplaceClient w fuel conn exclusiveNodes cause], P r := by
  simp only [List.mem_cons, List.not_mem_nil, or_false]
  rintro r (rfl | rfl | rfl | rfl | rfl)
  · unfold retryRegisterPeerTask
    split_ifs
    · exact hret
    · exact hfail _ _ _
  · unfold retryReportPeerResult
    split_ifs
    · exact hret
    · exact hfail _ _ _
  · exact hfail _ _ _
  · exact hfail _ _ _
  · exact hfail _ _ _

/-- On a ring of `n` nodes, `retryRegisterPeerTask`, `retryReportPeerResult` and the
`replaceClient` of the three streams return within `n + 1` levels, that is after at most `n`
recursive calls, whatever the cause and the nodes' answers. -/
theorem failover_paths_return (w : World ν) (conn : Connection ν) (exclusiveNodes : List ν)
    (cause : RpcError) :
    (retryRegisterPeerTask w (conn.ring.length + 1) conn exclusiveNodes cause).2.isSome ∧
      (retryReportPeerResult w (conn.ring.length + 1) conn exclusiveNodes cause).2.isSome ∧
      (peerPacketStreamReplaceClient w (conn.ring.length + 1) conn exclusiveNodes cause).2.isSome ∧
      (pieceSeedStreamReplaceClient w (conn.ring.length + 1) conn exclusiveNodes cause).2.isSome ∧
      (downResultStreamReplaceClient w (conn.ring.length + 1) conn exclusiveNodes cause).2.isSome := by
  have hfuel : (untried conn exclusiveNodes).card < conn.ring.length + 1 :=
    Nat.lt_succ_of_le (card_untried_le conn exclusiveNodes)
  have h := failover_paths_cases (P := fun r => r.2.isSome) w (conn.ring.length + 1) conn
    exclusiveNodes cause rfl fun _ _ _ => failover_isSome _ conn exclusiveNodes cause hfuel
  simp only [List.mem_cons, List.not_mem_nil, or_false, forall_eq_or_imp, forall_eq] at h
  exact h

theorem failover_paths_return_two :
    (retryRegisterPeerTask secondNodeUp (twoNodes.ring.length + 1) twoNodes [] .other).2.isSome ∧
      (retryReportPeerResult secondNodeUp (twoNodes.ring.length + 1) twoNodes [] .other).2.isSome ∧
      (peerPacketStreamReplaceClient secondNodeUp (twoNodes.ring.length + 1) twoNodes []
        .other).2.isSome ∧
      (pieceSeedStreamReplaceClient secondNodeUp (twoNodes.ring.length + 1) twoNodes []
        .other).2.isSome ∧
      (downResultStreamReplaceClient secondNodeUp (twoNodes.ring.length + 1) twoNodes []
        .other).2.isSome :=
  failover_paths_return secondNodeUp twoNodes [] .other

/-- A call on a key bound to `n` calls `n` once, or no node when `n` does not dial. -/
theorem attempt_invoked {conn : Connection ν} {n : ν} (hkey : conn.key2Node = some n) :
    ∃ k ≤ 1, (attempt w conn).1.invoked = conn.invoked ++ List.replicate k n := by
  simp only [attempt, hkey]
  by_cases hcall : n ∈ conn.clients ∨ w.dial n = true
  · rw [if_pos hcall]
    exact ⟨1, le_rfl, rfl⟩
  · rw [if_neg hcall]
    exact ⟨0, Nat.zero_le _, by simp⟩

/-- `ExecuteWithRetry` on a key bound to `n` calls `n` alone, at most once an attempt. -/
theorem executeWithRetry_invoked {n : ν} (attempts : ℕ) :
    ∀ {conn : Connection ν} {cause : Option RpcError}, conn.key2Node = some n →
      ∃ k ≤ attempts,
        (executeWithRetry w attempts conn cause).1.invoked =
          conn.invoked ++ List.replicate k n := by
  induction attempts with
  | zero => exact fun _ => ⟨0, le_rfl, by simp [executeWithRetry]⟩
  | succ attempts ih =>
    intro conn cause hkey
    unfold executeWithRetry
    split_ifs
    · exact ⟨0, Nat.zero_le _, by simp⟩
    · obtain ⟨k₁, hk₁, hinv₁⟩ := attempt_invoked (w := w) hkey
      have hkey₁ := (attempt_ring_key2Node (w := w) conn).2
      cases h : attempt w conn with
      | mk conn₁ r =>
        rw [h] at hinv₁ hkey₁
        cases r with
        | none => exact ⟨k₁, by omega, hinv₁⟩
        | some err =>
          -- the next attempts call the same node, the key staying where it is
          obtain ⟨k₂, hk₂, hinv₂⟩ : ∃ k ≤ attempts, (executeWithRetry w attempts conn₁
              (some err)).1.invoked = conn₁.invoked ++ List.replicate k n :=
            ih (hkey₁.trans hkey)
          refine ⟨k₁ + k₂, by omega, ?_⟩
          rw [hinv₂, hinv₁, List.replicate_add, List.append_assoc]

/-- The nodes called from `conn` to `conn'` lie in `S`, none more than `MaxAttempts` (three)
times, so they are at most three times as many as the nodes of `S`. -/
def CallsWithin (S : Finset ν) (conn conn' : Connection ν) : Prop :=
  ∃ calls, conn'.invoked = conn.invoked ++ calls ∧ (∀ m ∈ calls, m ∈ S) ∧
    (∀ m, calls.count m ≤ 3) ∧ calls.length ≤ 3 * S.card

theorem CallsWithin.of_invoked {S : Finset ν} {conn conn' : Connection ν}
    (h : conn'.invoked = conn.invoked) : CallsWithin S conn conn' :=
  ⟨[], by simp [h], by simp, by simp, by simp⟩

/-- A level that calls `n` of `S` at most three times, followed by calls outside `n`. -/
theorem CallsWithin.level {S : Finset ν} {conn conn₁ conn₂ : Connection ν} {n : ν} {k : ℕ}
    (hn : n ∈ S) (hk : k ≤ 3) (hinv : conn₁.invoked = conn.invoked ++ List.replicate k n)
    (hrest : CallsWithin (S.erase n) conn₁ conn₂) : CallsWithin S conn conn₂ := by
  obtain ⟨calls, hcalls, hmem, hcount, hlen⟩ := hrest
  have hnot : n ∉ calls := fun h => by simpa using hmem n h
  refine ⟨List.replicate k n ++ calls, by rw [hcalls, hinv, List.append_assoc], ?_, ?_, ?_⟩
  · intro m hm
    rcases List.mem_append.mp hm with hm | hm
    · rw [List.eq_of_mem_replicate hm]
      exact hn
    · exact Finset.mem_of_mem_erase (hmem m hm)
  · -- `n` is called at this level only, any other node at the later ones only
    intro m
    rw [List.count_append, List.count_replicate]
    by_cases hmn : n = m
    · subst hmn
      simp [List.count_eq_zero_of_not_mem hnot, hk]
    · simpa [hmn] using hcount m
  · have hcard := Finset.card_erase_add_one hn
    rw [List.length_append, List.length_replicate]
    omega

/-- Each level of a failover calls only the node the key moved to, an untried one that no later
level can move it to again. -/
theorem failover_callsWithin {migrateCause executeCause : RpcError → Option RpcError}
    {nextCause : RpcError → RpcError → RpcError} (fuel : ℕ) (conn : Connection ν)
    (exclusiveNodes : List ν) (cause : RpcError) :
    CallsWithin (untried conn exclusiveNodes) conn
      (failover w migrateCause executeCause nextCause fuel conn exclusiveNodes cause).1 := by
  induction fuel generalizing conn exclusiveNodes cause with
  | zero => exact .of_invoked rfl
  | succ fuel ih =>
    unfold failover
    cases hm : tryMigrate w conn (migrateCause cause) exclusiveNodes with
    | mk conn₁ r =>
      have h₁ : conn₁.invoked = conn.invoked := by
        simpa [hm] using tryMigrate_invoked (w := w) conn (migrateCause cause) exclusiveNodes
      cases r with
      | error _ => exact .of_invoked h₁
      | ok preNode =>
        dsimp only
        obtain ⟨n, hkey, hn, heq⟩ := untried_migrate hm 3 (executeCause cause)
        obtain ⟨k, hk, hinv⟩ : ∃ k ≤ 3, (executeWithRetry w 3 conn₁ (executeCause cause)).1.invoked =
            conn₁.invoked ++ List.replicate k n :=
          executeWithRetry_invoked 3 hkey
        rw [h₁] at hinv
        cases he : executeWithRetry w 3 conn₁ (executeCause cause) with
        | mk conn₂ r₂ =>
          rw [he] at hinv heq
          cases r₂ with
          | none => exact .level hn hk hinv (.of_invoked rfl)
          | some err => exact .level hn hk hinv (heq ▸ ih conn₂ _ _)

/-- A call that fails on every node leaves `ExecuteWithRetry` with an error. -/
theorem executeWithRetry_fails (hfail : ∀ n, w.rpc n ≠ none) (attempts : ℕ) (conn : Connection ν)
    {cause : Option RpcError} (hcause : cause.isSome) :
    (executeWithRetry w attempts conn cause).2.isSome := by
  induction attempts generalizing conn cause with
  | zero => exact hcause
  | succ attempts ih =>
    unfold executeWithRetry
    split_ifs
    · exact hcause
    · cases h : attempt w conn with
      | mk conn' r =>
        -- a failed attempt carries the node's error or the dial error
        have hr : r.isSome := by
          have hsnd : (attempt w conn).2 = r := by rw [h]
          rw [← hsnd]
          unfold attempt
          split
          · rfl
          · next node _ =>
            by_cases hc : node ∈ conn.clients ∨ w.dial node = true
            · rw [if_pos hc]
              exact Option.ne_none_iff_isSome.mp (hfail node)
            · rw [if_neg hc]
              rfl
        cases r with
        | none => exact absurd hr (by simp)
        | some err => exact ih conn' rfl

/-- `replaceStream` below `MaxAttempts` never returns when `ExecuteWithRetry` keeps failing:
the failure branch calls it again without counting the attempt. It keeps failing for a
`DfError` cause, which `ExecuteWithRetry` returns at once, on any ring, and for any cause
when every node fails. -/
theorem replaceStream_never_returns (w : World ν) (maxAttempts : ℕ) (conn : Connection ν)
    (streamTimes : ℕ) (hlt : streamTimes < maxAttempts) (fuel : ℕ) :
    (∀ code, (peerPacketStreamReplaceStream w maxAttempts fuel conn streamTimes (.df code)).2 =
        none ∧
      (pieceSeedStreamReplaceStream w maxAttempts fuel conn streamTimes (.df code)).2 = none) ∧
    ((∀ n, w.rpc n ≠ none) → ∀ cause,
      (peerPacketStreamReplaceStream w maxAttempts fuel conn streamTimes cause).2 = none ∧
        (pieceSeedStreamReplaceStream w maxAttempts fuel conn streamTimes cause).2 = none) := by
  -- every level fails, so the levels run out whatever their number
  have hloop : ∀ cause, (∀ conn : Connection ν,
      (executeWithRetry w maxAttempts conn (some cause)).2.isSome) →
      ∀ fuel conn, (replaceStream w maxAttempts fuel conn streamTimes cause).2 = none := by
    intro cause hfails fuel
    induction fuel with
    | zero => intro conn; rfl
    | succ fuel ih =>
      intro conn
      rw [replaceStream, if_neg (Nat.not_le.mpr hlt)]
      have hf := hfails conn
      cases he : executeWithRetry w maxAttempts conn (some cause) with
      | mk conn' r =>
        rw [he] at hf
        cases r with
        | none => exact absurd hf (by simp)
        | some _ => exact ih conn'
  have hdf : ∀ code (conn : Connection ν),
      (executeWithRetry w maxAttempts conn (some (.df code))).2.isSome := by
    intro code conn
    cases maxAttempts with
    | zero => rfl
    | succ k => rw [executeWithRetry_df]; rfl
  refine ⟨fun code => ⟨hloop _ (hdf code) fuel conn, hloop _ (hdf code) fuel conn⟩,
    fun hfail cause => ?_⟩
  have hfails : ∀ conn : Connection ν,
      (executeWithRetry w maxAttempts conn (some cause)).2.isSome :=
    fun conn => executeWithRetry_fails hfail maxAttempts conn rfl
  exact ⟨hloop cause hfails fuel conn, hloop cause hfails fuel conn⟩

end Termination

end Dragonfly.Rpc.Failover
