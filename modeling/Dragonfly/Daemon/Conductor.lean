import Dragonfly.Daemon.Storage

/-!
# The peer task conductor

The part of `peerTaskConductor` (`client/daemon/peer/peertask_conductor.go`) that a
back-to-source run reads and writes: its content length and total piece count, the pieces
published so far, and how the task ended. `statusOnce` runs either `done` or `fail`, once;
`done` updates and validates the storage, closes `successCh` or `failCh`, and reports a
`PeerResult` to the scheduler. The scheduler stream, the broker, traces and metrics are left
out.
-/

namespace Dragonfly.Daemon

/-- The `base.Code`s a peer task ends with. -/
inductive Code where
  /-- `Code_Success` -/
  | success
  /-- `Code_ClientError` -/
  | clientError
  /-- `Code_UnknownError`, the `failedCode` a conductor starts with -/
  | unknownError
  deriving DecidableEq, Repr

/-- The fields of `scheduler.PeerResult` that `done` and `fail` fill from the conductor
(`peertask_conductor.go:1212–1225,1259–1272`). -/
structure PeerResult where
  contentLength : Int64
  totalPieceCount : Int32
  success : Bool
  code : Code
  deriving DecidableEq, Repr

/-- Which of `successCh` and `failCh` a finished task has closed. -/
inductive Status where
  | succeeded | failed
  deriving DecidableEq, Repr

/-- The fields of `peerTaskConductor` (`peertask_conductor.go:66`) the run reads and writes. -/
structure Conductor where
  peerID : List Char
  contentLength : Int64
  totalPiece : Int32
  /-- `digest`, the piece signature `GetPieceMd5Sign` returns. -/
  digest : List Char
  completedLength : Int64
  readyPieces : List Int32
  failedCode : Code
  /-- Set when `statusOnce` has run `done` or `fail`. -/
  status : Option Status
  /-- The result reported to the scheduler. -/
  peerResult : Option PeerResult
  deriving DecidableEq, Repr

namespace Conductor

/-- The counters of `newPeerTaskConductor` (`peertask_conductor.go:180–203`). -/
def new (peerID : List Char) : Conductor :=
  ⟨peerID, -1, -1, [], 0, [], .unknownError, none, none⟩

variable (calculateDigest : Bool) (sha256 : List (List Char) → List Char)

/-- `UpdateStorage` (`peertask_conductor.go:1133`); the local store's `UpdateTask` does not
fail. -/
def updateStorage (pt : Conductor) (t : TaskStore) : TaskStore :=
  t.updateTask pt.contentLength pt.totalPiece pt.digest

/-- `Validate` (`peertask_conductor.go:1287`): store the metadata with the total piece count,
then check the digest when `calculateDigest` is on. -/
def validate (pt : Conductor) (t : TaskStore) : TaskStore × Except StoreError Unit :=
  let stored := t.store pt.totalPiece
  if calculateDigest then stored.validateDigest sha256 else (stored, .ok ())

/-- `done` (`peertask_conductor.go:1157`): update and validate the storage, close `successCh`
when both pass and `failCh` otherwise, and report the result. -/
def done (pt : Conductor) (t : TaskStore) : Conductor × TaskStore :=
  match validate calculateDigest sha256 pt (updateStorage pt t) with
  | (t', .ok ()) =>
    ({ pt with
        status := some .succeeded
        peerResult := some ⟨pt.contentLength, pt.totalPiece, true, .success⟩ }, t')
  | (t', .error _) =>
    ({ pt with
        status := some .failed
        failedCode := .clientError
        peerResult := some ⟨pt.contentLength, pt.totalPiece, false, .clientError⟩ }, t')

/-- `Done` (`peertask_conductor.go:1153`): `done`, unless `statusOnce` has already run. -/
def doneOnce (pt : Conductor) (t : TaskStore) : Conductor × TaskStore :=
  if pt.status.isSome then (pt, t) else done calculateDigest sha256 pt t

/-- `fail` (`peertask_conductor.go:1239`): close `failCh` and report the failed code. -/
def fail (pt : Conductor) : Conductor :=
  { pt with
    status := some .failed
    peerResult := some ⟨pt.contentLength, pt.totalPiece, false, pt.failedCode⟩ }

/-- `cancel` (`peertask_conductor.go:362`) with `Fail` (`peertask_conductor.go:1235`): record
the code and fail, unless `statusOnce` has already run. A run cancels at most once, so
`cancelOnce` is left out. -/
def cancel (code : Code) (pt : Conductor) : Conductor :=
  let pt' := { pt with failedCode := code }
  if pt'.status.isSome then pt' else fail pt'

/-- `isCompleted` (`peertask_conductor.go:1017`). -/
def isCompleted (pt : Conductor) : Bool := pt.completedLength = pt.contentLength

/-- `PublishPieceInfo` (`peertask_conductor.go:1319`): mark a new piece ready, count its
bytes, and run `Done` once all bytes are in. -/
def publishPieceInfo (pt : Conductor) (t : TaskStore) (pieceNum : Int32) (size : UInt32) :
    Conductor × TaskStore :=
  if pieceNum ∈ pt.readyPieces then (pt, t)
  else
    let pt' := { pt with
      readyPieces := pt.readyPieces ++ [pieceNum]
      completedLength := pt.completedLength + size.toUInt64.toInt64 }
    if pt'.isCompleted then doneOnce calculateDigest sha256 pt' t else (pt', t)

/-! ### What publishing and finishing do -/

section Spec

variable {pt : Conductor} {t : TaskStore} {pieceNum : Int32} {size : UInt32}

/-- Publishing a new piece that does not complete the task only records it. -/
theorem publishPieceInfo_of_not_completed (hnew : pieceNum ∉ pt.readyPieces)
    (hc : pt.completedLength + size.toUInt64.toInt64 ≠ pt.contentLength) :
    pt.publishPieceInfo calculateDigest sha256 t pieceNum size =
      ({ pt with
        readyPieces := pt.readyPieces ++ [pieceNum]
        completedLength := pt.completedLength + size.toUInt64.toInt64 }, t) := by
  simp [publishPieceInfo, hnew, isCompleted, hc]

/-- Publishing the new piece that completes a running task runs `done`. -/
theorem publishPieceInfo_of_completed (hnew : pieceNum ∉ pt.readyPieces)
    (hc : pt.completedLength + size.toUInt64.toInt64 = pt.contentLength) (hstatus : pt.status = none) :
    pt.publishPieceInfo calculateDigest sha256 t pieceNum size =
      done calculateDigest sha256 { pt with
        readyPieces := pt.readyPieces ++ [pieceNum]
        completedLength := pt.completedLength + size.toUInt64.toInt64 } t := by
  simp [publishPieceInfo, hnew, isCompleted, hc, doneOnce, hstatus]

/-- `done` after a validation that passes closes `successCh` and reports success. -/
theorem done_of_validate_ok {t' : TaskStore}
    (hv : validate calculateDigest sha256 pt (updateStorage pt t) = (t', .ok ())) :
    done calculateDigest sha256 pt t =
      ({ pt with
        status := some .succeeded
        peerResult := some ⟨pt.contentLength, pt.totalPiece, true, .success⟩ }, t') := by
  simp only [done, hv]

/-- Once `statusOnce` has run, `Done` does nothing. -/
theorem doneOnce_of_status {st : Status} (h : pt.status = some st) :
    doneOnce calculateDigest sha256 pt t = (pt, t) := by
  simp [doneOnce, h]

/-- Validation with a total piece count that is not positive passes, and keeps the store, when
the digest is off or the store's signature is set, its count positive and its digests sign
to it. -/
theorem validate_ok (htotal : ¬ 0 < pt.totalPiece)
    (hdigest : calculateDigest = true →
      t.pieceMd5Sign ≠ [] ∧ 0 < t.totalPieces ∧ sha256 t.pieceDigests = t.pieceMd5Sign) :
    validate calculateDigest sha256 pt t = (t, .ok ()) := by
  have hstored : t.store pt.totalPiece = t := by simp [TaskStore.store, htotal]
  unfold validate
  rw [hstored]
  cases calculateDigest with
  | false => rfl
  | true =>
    obtain ⟨hsign, hpos, hsha⟩ := hdigest rfl
    have hnotle : ¬ t.totalPieces ≤ 0 := by
      rw [Int32.lt_iff_toInt_lt] at hpos
      rw [Int32.le_iff_toInt_le]
      simp only [Int32.toInt_zero] at hpos ⊢
      omega
    simp [TaskStore.validateDigest, hsign, hnotle, hsha]

/-- `done` keeps the piece accounting and records that `statusOnce` has run. -/
theorem done_accounting :
    (done calculateDigest sha256 pt t).1.readyPieces = pt.readyPieces ∧
      (done calculateDigest sha256 pt t).1.completedLength = pt.completedLength ∧
      (done calculateDigest sha256 pt t).1.contentLength = pt.contentLength ∧
      (done calculateDigest sha256 pt t).1.status.isSome = true := by
  unfold done
  split <;> exact ⟨rfl, rfl, rfl, rfl⟩

/-- Validating stores the counts and may mark the digest invalid, but writes no piece. -/
theorem pieces_validate : (validate calculateDigest sha256 pt t).1.pieces = t.pieces := by
  unfold validate TaskStore.validateDigest
  dsimp only
  split_ifs <;> rfl

/-- `done` writes the store's counts and checks its digest, but no piece. -/
theorem pieces_done : (done calculateDigest sha256 pt t).2.pieces = t.pieces := by
  have hstore : (done calculateDigest sha256 pt t).2 =
      (validate calculateDigest sha256 pt (updateStorage pt t)).1 := by
    unfold done
    split <;> next heq => rw [heq]
  rw [hstore, pieces_validate]
  rfl

/-- `done` reports the total piece count but does not change it. -/
theorem totalPiece_done : (done calculateDigest sha256 pt t).1.totalPiece = pt.totalPiece := by
  unfold done
  split <;> rfl

/-- Publishing keeps the conductor's total piece count. -/
theorem totalPiece_publishPieceInfo :
    (pt.publishPieceInfo calculateDigest sha256 t pieceNum size).1.totalPiece = pt.totalPiece := by
  unfold publishPieceInfo doneOnce
  dsimp only
  split_ifs
  · rfl
  · rfl
  · exact totalPiece_done calculateDigest sha256
  · rfl

/-- Publishing keeps the conductor's content length. -/
theorem contentLength_publishPieceInfo :
    (pt.publishPieceInfo calculateDigest sha256 t pieceNum size).1.contentLength =
      pt.contentLength := by
  unfold publishPieceInfo doneOnce
  dsimp only
  split_ifs
  · rfl
  · rfl
  · exact (done_accounting calculateDigest sha256).2.2.1
  · rfl

/-- Publishing writes no piece of the store. -/
theorem pieces_publishPieceInfo :
    (pt.publishPieceInfo calculateDigest sha256 t pieceNum size).2.pieces = t.pieces := by
  unfold publishPieceInfo doneOnce
  dsimp only
  split_ifs
  · rfl
  · rfl
  · exact pieces_done calculateDigest sha256
  · rfl

/-- Publishing a piece that is already ready changes nothing. -/
theorem publishPieceInfo_of_ready (hready : pieceNum ∈ pt.readyPieces) :
    pt.publishPieceInfo calculateDigest sha256 t pieceNum size = (pt, t) := by
  simp [publishPieceInfo, hready]

/-- Publishing a new piece records it and its bytes; afterwards `statusOnce` has run exactly when
it had before or the task is complete now. -/
theorem publishPieceInfo_accounting (hnew : pieceNum ∉ pt.readyPieces) :
    (pt.publishPieceInfo calculateDigest sha256 t pieceNum size).1.readyPieces =
        pt.readyPieces ++ [pieceNum] ∧
      (pt.publishPieceInfo calculateDigest sha256 t pieceNum size).1.completedLength =
        pt.completedLength + size.toUInt64.toInt64 ∧
      (pt.publishPieceInfo calculateDigest sha256 t pieceNum size).1.contentLength =
        pt.contentLength ∧
      (pt.publishPieceInfo calculateDigest sha256 t pieceNum size).1.status.isSome =
        (pt.status.isSome || decide (pt.completedLength + size.toUInt64.toInt64 = pt.contentLength)) := by
  by_cases hc : pt.completedLength + size.toUInt64.toInt64 = pt.contentLength
  · -- the task is complete now: `Done` runs `done` unless `statusOnce` has run
    by_cases hs : pt.status.isSome
    · rw [publishPieceInfo, if_neg hnew]
      simp [isCompleted, hc, doneOnce, hs]
    · cases hst : pt.status with
      | some st => simp [hst] at hs
      | none =>
        rw [publishPieceInfo_of_completed calculateDigest sha256 hnew hc hst]
        obtain ⟨hr, hcl, hcn, hsome⟩ := @done_accounting calculateDigest sha256
          { pt with
            readyPieces := pt.readyPieces ++ [pieceNum]
            completedLength := pt.completedLength + size.toUInt64.toInt64 } t
        exact ⟨hr, hcl, hcn, by rw [hsome]; simp [hc]⟩
  · rw [publishPieceInfo_of_not_completed calculateDigest sha256 hnew hc]
    simp [hc]

end Spec

end Conductor

end Dragonfly.Daemon
