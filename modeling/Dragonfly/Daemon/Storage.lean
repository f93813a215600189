import Dragonfly.Rpc.Base
import Dragonfly.Pkg.Digest
import Dragonfly.Base.GoText

/-!
# The dfdaemon's task store

`client/daemon/storage/local_storage.go`: the metadata a `localTaskStore` keeps for one
task, and the methods that read and write it. Pieces are a map from piece number to piece
metadata; the piece signature `PieceMd5Sign` is the SHA-256 of the piece digests in piece
order, with `sha256` the function `digestutils.Sha256` of the digests. Locks, access times
and the data file are left out: every method runs under the store's lock, and writes to the
data file do not fail. A piece is written from a digest reader over the response body
(`Dragonfly.Digest`); `calculateDigest` says whether the piece manager wrapped it in one of
its own, from which the store then takes the piece's MD5.
-/

namespace Dragonfly.Daemon

open Dragonfly.Rpc Dragonfly.Digest Dragonfly.Base.GoText

/-- `clientutil.Range` (`client/clientutil/range.go:28`). -/
structure ByteRange where
  start : Int64
  length : Int64
  deriving DecidableEq, Repr

/-- `storage.PieceMetadata` (`metadata.go:44`). -/
structure PieceMetadata where
  num : Int32
  md5 : List Char
  offset : UInt64
  range : ByteRange
  style : Int32
  deriving DecidableEq, Repr

/-- The fields of a `localTaskStore` and its `persistentMetadata` (`metadata.go:26`) that the
modelled methods read and write. -/
structure TaskStore where
  peerID : List Char
  contentLength : Int64
  totalPieces : Int32
  pieces : Int32 → Option PieceMetadata
  pieceMd5Sign : List Char
  /-- Set when a digest check fails (`invalid`). -/
  invalid : Bool

/-- The storage errors (`storage_manager.go:95–99`). -/
inductive StoreError where
  /-- `"total piece count not set"` -/
  | pieceCountNotSet
  /-- `"digest not set"` -/
  | digestNotSet
  /-- `"invalid digest"` -/
  | invalidDigest
  /-- `ErrShortRead`, `"short read"` (`const.go:34`) -/
  | shortRead
  /-- `ErrDigestNotMatch`, `"digest not match"` (`digestutils/digest_reader.go:31`), passed
  up from the reader -/
  | digestNotMatch
  deriving DecidableEq, Repr

/-- `storage.WritePieceRequest` (`metadata.go:65`) without the reader, which is passed beside
it. `genPieceDigest` is the callback `GenPieceDigest`, `none` when nil. -/
structure WritePieceRequest where
  pieceMetadata : PieceMetadata
  unknownLength : Bool
  genPieceDigest : Option (Int64 → Int32 × Bool)

namespace TaskStore

/-- The `base.PieceInfo` of a stored piece (`local_storage.go:359–366`). -/
def pieceInfo (p : PieceMetadata) : PieceInfo :=
  ⟨p.num, p.range.start.toUInt64, UInt32.ofInt p.range.length.toInt, p.md5, p.offset, p.style⟩

/-- The stored pieces numbered `StartNum`, ..., `StartNum + Limit - 1`, in `int32` arithmetic
(`local_storage.go:357–368`). -/
def windowPieces (t : TaskStore) (req : PieceTaskRequest) : List PieceInfo :=
  (List.range req.limit.toInt32.toInt.toNat).filterMap fun i =>
    (t.pieces (req.startNum.toInt32 + Int32.ofNat i)).map pieceInfo

/-- `localTaskStore.GetPieces` (`local_storage.go:338`): refuse once the digest is invalid,
otherwise the pieces of the window and the task's counts. -/
def getPieces (t : TaskStore) (req : PieceTaskRequest) : Except StoreError PiecePacket :=
  if t.invalid then .error .invalidDigest
  else .ok ⟨req.taskId, t.peerID, [], t.windowPieces req, t.totalPieces, t.contentLength,
    t.pieceMd5Sign⟩

/-- A packet of `GetPieces` comes from a store whose digest is not invalid and carries the
pieces of the window. -/
theorem getPieces_ok {t : TaskStore} {req : PieceTaskRequest} {pd : PiecePacket}
    (h : t.getPieces req = .ok pd) : t.invalid = false ∧ pd.pieceInfos = t.windowPieces req := by
  unfold getPieces at h
  split at h
  · cases h
  · next hvalid =>
    cases h
    exact ⟨by simpa using hvalid, rfl⟩

/-- The digests of pieces `0, ..., TotalPieces - 1`, empty for a missing piece
(`local_storage.go:171–174,197–200`). -/
def pieceDigests (t : TaskStore) : List (List Char) :=
  (List.range t.totalPieces.toInt.toNat).map fun i => ((t.pieces (Int32.ofNat i)).map (·.md5)).getD []

/-- `storageManager.CreateTask` (`storage_manager.go:303`) as `RegisterTask` calls it for a
task it does not hold: a store with the request's counts and no pieces. -/
def createTask (peerID : List Char) (contentLength : Int64) (totalPieces : Int32)
    (pieceMd5Sign : List Char) : TaskStore :=
  ⟨peerID, contentLength, totalPieces, fun _ => none, pieceMd5Sign, false⟩

/-- The store with piece `num` set to `piece`. -/
def setPiece (t : TaskStore) (num : Int32) (piece : PieceMetadata) : TaskStore :=
  { t with pieces := fun k => if k = num then some piece else t.pieces k }

/-- `localTaskStore.genDigest` (`local_storage.go:147`): after a write of `n` bytes, when the
request has a callback and the store no signature yet, ask the callback for the total piece
count and, when it says so, set the count and sign the digests of pieces `0 .. total - 1`. -/
def genDigest (sha256 : List (List Char) → List Char) (t : TaskStore) (n : Int64)
    (req : WritePieceRequest) : TaskStore :=
  match req.genPieceDigest with
  | none => t
  | some gen =>
    if t.pieceMd5Sign ≠ [] then t
    else
      let (total, g) := gen n
      if g then
        let counted := { t with totalPieces := total }
        { counted with pieceMd5Sign := sha256 counted.pieceDigests }
      else t

variable {α : Type} (md5 : List α → List Char) (sha256 : List (List Char) → List Char)

/-- `localTaskStore.WritePiece` (`local_storage.go:65`) reading from `r`: a piece already held
is read past and its length returned; otherwise up to `Range.Length` bytes are copied, a
short copy is an error unless the length is unknown (then it is the piece's real length, and
an empty one is no piece at all), the MD5 is taken from the piece manager's digest reader
when `calculateDigest` is on, and the piece is stored and the digest generated. The second
lookup under the write lock finds nothing: every method runs alone here. -/
def writePiece (calculateDigest : Bool) (t : TaskStore) (req : WritePieceRequest)
    (r : DigestReader α) : (TaskStore × DigestReader α) × Except StoreError Int64 :=
  match t.pieces req.pieceMetadata.num with
  | some piece =>
    let (chunk, r', bad) := r.read md5 piece.range.length.toInt.toNat
    if bad then ((t, r'), .error .digestNotMatch)
    else if Int64.ofNat chunk.length ≠ piece.range.length then ((t, r'), .error .shortRead)
    else ((t, r'), .ok piece.range.length)
  | none =>
    let (chunk, r', bad) := r.read md5 req.pieceMetadata.range.length.toInt.toNat
    let n : Int64 := Int64.ofNat chunk.length
    if bad then ((t, r'), .error .digestNotMatch)
    else if req.unknownLength ∧ n = 0 then ((genDigest sha256 t 0 req, r'), .ok 0)
    else if n ≠ req.pieceMetadata.range.length ∧ ¬ req.unknownLength then
      ((t, r'), .error .shortRead)
    else
      let piece : PieceMetadata :=
        { req.pieceMetadata with
          md5 := if req.pieceMetadata.md5 = [] ∧ calculateDigest then md5 chunk
            else req.pieceMetadata.md5
          range := { req.pieceMetadata.range with length := n } }
      ((genDigest sha256 (t.setPiece req.pieceMetadata.num piece) n req, r'), .ok n)

/-- `localTaskStore.Store` (`local_storage.go:280`) with `MetadataOnly`: a positive total piece
count replaces the stored one; saving the metadata file does not fail. -/
def store (t : TaskStore) (totalPieces : Int32) : TaskStore :=
  { t with totalPieces := if 0 < totalPieces then totalPieces else t.totalPieces }

/-- `localTaskStore.UpdateTask` (`local_storage.go:180`): store the content length, a positive
total piece count, and a piece signature when there is none yet. -/
def updateTask (t : TaskStore) (contentLength : Int64) (totalPieces : Int32)
    (pieceMd5Sign : List Char) : TaskStore :=
  { t with
    contentLength := contentLength
    totalPieces := if 0 < totalPieces then totalPieces else t.totalPieces
    pieceMd5Sign := if t.pieceMd5Sign = [] ∧ pieceMd5Sign ≠ [] then pieceMd5Sign else t.pieceMd5Sign }

/-- `localTaskStore.ValidateDigest` (`local_storage.go:186`): the store afterwards, with
`invalid` set on failure, and the error if any. -/
def validateDigest (sha256 : List (List Char) → List Char) (t : TaskStore) :
    TaskStore × Except StoreError Unit :=
  if t.pieceMd5Sign = [] then ({ t with invalid := true }, .error .digestNotSet)
  else if t.totalPieces ≤ 0 then ({ t with invalid := true }, .error .pieceCountNotSet)
  else if sha256 t.pieceDigests ≠ t.pieceMd5Sign then
    ({ t with invalid := true }, .error .invalidDigest)
  else (t, .ok ())

/-! ### What a write does -/

section Spec

variable {t : TaskStore} {req : WritePieceRequest} {n : Int64}

@[simp] theorem pieces_setPiece_self (t : TaskStore) (num : Int32) (piece : PieceMetadata) :
    (t.setPiece num piece).pieces num = some piece := by
  simp [setPiece]

theorem pieces_setPiece_of_ne {num k : Int32} (piece : PieceMetadata) (h : k ≠ num) :
    (t.setPiece num piece).pieces k = t.pieces k := by
  simp [setPiece, h]

@[simp] theorem pieceMd5Sign_setPiece (num : Int32) (piece : PieceMetadata) :
    (t.setPiece num piece).pieceMd5Sign = t.pieceMd5Sign := rfl

@[simp] theorem totalPieces_setPiece (num : Int32) (piece : PieceMetadata) :
    (t.setPiece num piece).totalPieces = t.totalPieces := rfl

@[simp] theorem pieces_updateTask (l : Int64) (n : Int32) (sign : List Char) :
    (t.updateTask l n sign).pieces = t.pieces := rfl

@[simp] theorem pieceMd5Sign_updateTask_nil (l : Int64) (n : Int32) :
    (t.updateTask l n []).pieceMd5Sign = t.pieceMd5Sign := by
  simp [updateTask]

theorem totalPieces_updateTask {l : Int64} {n : Int32} (sign : List Char) (h : 0 < n) :
    (t.updateTask l n sign).totalPieces = n := by
  simp [updateTask, h]

theorem totalPieces_updateTask_of_not_pos {l : Int64} {n : Int32} (sign : List Char)
    (h : ¬ 0 < n) : (t.updateTask l n sign).totalPieces = t.totalPieces := by
  simp [updateTask, h]

/-- The digests of a store whose first `N` pieces carry the MD5s `f 0, ..., f (N - 1)`. -/
theorem pieceDigests_eq {N : ℕ} {f : ℕ → List Char} (htotal : t.totalPieces = Int32.ofNat N)
    (hN : N < 2 ^ 31) (hpieces : ∀ j < N, (t.pieces (Int32.ofNat j)).map (·.md5) = some (f j)) :
    t.pieceDigests = (List.range N).map f := by
  unfold pieceDigests
  rw [htotal, Int32.toInt_ofNat_of_lt hN, Int.toNat_natCast]
  apply List.map_congr_left
  intro j hj
  rw [hpieces j (List.mem_range.mp hj)]
  rfl

/-- A callback that does not ask for the digest leaves the store as it is. -/
theorem genDigest_of_not_gen {gen : Int64 → Int32 × Bool} {total : Int32}
    (hreq : req.genPieceDigest = some gen) (hg : gen n = (total, false)) :
    genDigest sha256 t n req = t := by
  simp [genDigest, hreq, hg]

/-- A callback that asks for the digest, on a store without a signature, sets the total piece
count and signs the digests of that many pieces. -/
theorem genDigest_of_gen {gen : Int64 → Int32 × Bool} {total : Int32}
    (hreq : req.genPieceDigest = some gen) (hsign : t.pieceMd5Sign = []) (hg : gen n = (total, true)) :
    genDigest sha256 t n req =
      { t with
        totalPieces := total
        pieceMd5Sign := sha256 { t with totalPieces := total }.pieceDigests } := by
  simp only [genDigest, hreq, hsign, ne_eq, not_true_eq_false, if_false, hg, if_true]

/-- Writing a piece the store does not hold, from a reader with at least `Range.Length > 0`
bytes left whose read passes the digest check: the bytes are read, the piece stored with
their MD5 when the piece manager hashes them, and the digest generated. -/
theorem writePiece_fresh (calculateDigest : Bool) {r : DigestReader α} {s : ℕ}
    (hnone : t.pieces req.pieceMetadata.num = none) (hgood : (r.read md5 s).2.2 = false)
    (hlen : req.pieceMetadata.range.length = Int64.ofNat s) (hs : s < 2 ^ 63) (hpos : 0 < s)
    (hrest : s ≤ r.body.rest.length) :
    t.writePiece md5 sha256 calculateDigest req r =
      ((genDigest sha256 (t.setPiece req.pieceMetadata.num
          { req.pieceMetadata with
            md5 := if req.pieceMetadata.md5 = [] ∧ calculateDigest then md5 (r.body.rest.take s)
              else req.pieceMetadata.md5
            range := { req.pieceMetadata.range with length := Int64.ofNat s } })
          (Int64.ofNat s) req, (r.read md5 s).2.1), .ok (Int64.ofNat s)) := by
  have hlen' : req.pieceMetadata.range.length.toInt.toNat = s := by
    rw [hlen, Int64.toInt_ofNat_of_lt hs]
    rfl
  have hread : r.read md5 s = (r.body.rest.take s, (r.read md5 s).2.1, false) :=
    Prod.ext rfl (Prod.ext rfl hgood)
  have hchunk : (r.body.rest.take s).length = s := List.length_take_of_le hrest
  have hnz : Int64.ofNat s ≠ 0 := by
    rw [show (0 : Int64) = Int64.ofNat 0 from rfl, Ne, Int64.ofNat_eq_ofNat_iff hs (by decide)]
    omega
  unfold writePiece
  rw [hnone, hlen', hread]
  simp only [hchunk, Bool.false_eq_true, if_false, hnz, and_false, hlen, ne_eq, not_true_eq_false,
    false_and]

/-- Generating the digest leaves the pieces as they are. -/
@[simp] theorem pieces_genDigest (n : Int64) (req : WritePieceRequest) :
    (genDigest sha256 t n req).pieces = t.pieces := by
  unfold genDigest
  split
  · rfl
  · split_ifs
    · rfl
    · -- the callback's answer only decides whether the counts are signed
      split
      split_ifs <;> rfl

/-- Writing a piece of unknown length that the store does not hold, from a reader at the end of
the body whose read passes the digest check: nothing is stored and the length is `0`. -/
theorem writePiece_unknownLength_empty (calculateDigest : Bool) {r : DigestReader α} {s : ℕ}
    (hnone : t.pieces req.pieceMetadata.num = none) (hunknown : req.unknownLength = true)
    (hgood : (r.read md5 s).2.2 = false) (hlen : req.pieceMetadata.range.length = Int64.ofNat s)
    (hs : s < 2 ^ 63) (hempty : r.body.rest = []) :
    t.writePiece md5 sha256 calculateDigest req r =
      ((genDigest sha256 t 0 req, (r.read md5 s).2.1), .ok 0) := by
  have hlen' : req.pieceMetadata.range.length.toInt.toNat = s := by
    rw [hlen, Int64.toInt_ofNat_of_lt hs]
    rfl
  have hread : r.read md5 s = ([], (r.read md5 s).2.1, false) := by
    refine Prod.ext ?_ (Prod.ext rfl hgood)
    rw [DigestReader.chunk_read, hempty, List.take_nil]
  unfold writePiece
  rw [hnone, hlen', hread]
  simp [hunknown]

/-- Writing a piece of unknown length that the store does not hold, from a reader with bytes
left whose read passes the digest check: up to `Range.Length` bytes are read and the piece is
stored with the length read. -/
theorem writePiece_unknownLength_of_pos (calculateDigest : Bool) {r : DigestReader α} {s : ℕ}
    (hnone : t.pieces req.pieceMetadata.num = none) (hunknown : req.unknownLength = true)
    (hgood : (r.read md5 s).2.2 = false) (hlen : req.pieceMetadata.range.length = Int64.ofNat s)
    (hs : s < 2 ^ 63) (hpos : 0 < s) (hrest : 0 < r.body.rest.length) :
    t.writePiece md5 sha256 calculateDigest req r =
      ((genDigest sha256 (t.setPiece req.pieceMetadata.num
          { req.pieceMetadata with
            md5 := if req.pieceMetadata.md5 = [] ∧ calculateDigest then md5 (r.body.rest.take s)
              else req.pieceMetadata.md5
            range := { req.pieceMetadata.range with
              length := Int64.ofNat (min s r.body.rest.length) } })
          (Int64.ofNat (min s r.body.rest.length)) req, (r.read md5 s).2.1),
        .ok (Int64.ofNat (min s r.body.rest.length))) := by
  have hlen' : req.pieceMetadata.range.length.toInt.toNat = s := by
    rw [hlen, Int64.toInt_ofNat_of_lt hs]
    rfl
  have hread : r.read md5 s = (r.body.rest.take s, (r.read md5 s).2.1, false) :=
    Prod.ext rfl (Prod.ext rfl hgood)
  have hnz : Int64.ofNat (min s r.body.rest.length) ≠ 0 := by
    rw [show (0 : Int64) = Int64.ofNat 0 from rfl, Ne,
      Int64.ofNat_eq_ofNat_iff (by omega) (by decide)]
    omega
  unfold writePiece
  rw [hnone, hlen', hread]
  simp only [List.length_take, Bool.false_eq_true, if_false, hunknown, hnz, and_false,
    not_true_eq_false, and_false, if_false]

/-- Writing a piece the store does not hold from a reader whose read fails the digest check
stores nothing and returns the reader's error. -/
theorem writePiece_digestNotMatch (calculateDigest : Bool) {r : DigestReader α} {s : ℕ}
    (hnone : t.pieces req.pieceMetadata.num = none) (hbad : (r.read md5 s).2.2 = true)
    (hlen : req.pieceMetadata.range.length = Int64.ofNat s) (hs : s < 2 ^ 63) :
    t.writePiece md5 sha256 calculateDigest req r =
      ((t, (r.read md5 s).2.1), .error .digestNotMatch) := by
  have hlen' : req.pieceMetadata.range.length.toInt.toNat = s := by
    rw [hlen, Int64.toInt_ofNat_of_lt hs]
    rfl
  have hread : r.read md5 s = ((r.read md5 s).1, (r.read md5 s).2.1, true) :=
    Prod.ext rfl (Prod.ext rfl hbad)
  unfold writePiece
  rw [hnone, hlen', hread]
  rfl

end Spec

end TaskStore

end Dragonfly.Daemon
