import Dragonfly.Cdn.Storage
import Mathlib.Data.List.Sort

/-!
# Resuming a seed from its break point

`cacheDetector.detectByReadFile` (`cdn/supervisor/cdn/cache_detector.go:164`),
`getBreakRange` and `manager.download` (`downloader.go:32–80`), and `cacheWriter.doWrite`
with its writer pool (`cache_writer.go:108–216`). The detector keeps the leading piece
records that carry their index and pass `checkPieceContent`, and returns one past the last
kept origin range as the break point; the download then asks the source for the bytes from
the break point on, and the writer cuts them into pieces from piece `BreakPoint / PieceSize`.
Integers keep their Go widths. `checkPieceContent`, which reads the piece from the data file
and compares its digest, is the predicate `check`, and the piece digest
`digestutils.ToHashString(md5)` the function `md5`. The writer pool appends one record per
piece as it finishes it; the records are listed here in the order the pieces are sent.
-/

namespace Dragonfly.Cdn

open Dragonfly.Base.GoText Dragonfly.Util

/-! ### Detecting the break point -/

/-- The errors of `detectByReadFile` that do not come from the storage driver. -/
inductive DetectError where
  /-- `"read piece meta records"` around the read error. -/
  | readPieceMetaRecords (err : ReadRecordsError)
  /-- The panic of a nil `OriginRange`; a parsed record always has one. -/
  | nilOriginRange
  deriving DecidableEq, Repr

/-- The loop of `detectByReadFile` (`cache_detector.go:179–190`) from record `index` on:
stop at a record whose piece number is not its index or whose content fails `check`, and
move the break point past each record kept. -/
def detectLoop (check : PieceMetaRecord → Bool) :
    ℕ → Int64 → List PieceMetaRecord → Except DetectError (Int64 × List PieceMetaRecord)
  | _, breakPoint, [] => .ok (breakPoint, [])
  | index, breakPoint, r :: rs =>
    if UInt32.ofNat index ≠ r.pieceNum then .ok (breakPoint, [])
    else if !check r then .ok (breakPoint, [])
    else
      match r.originRange with
      | none => .error .nilOriginRange
      | some originRange =>
        (detectLoop check (index + 1) (originRange.endIndex + 1).toInt64 rs).map
          fun (bp, kept) => (bp, r :: kept)

/-- `cacheResult` (`cache_detector.go:208`), without the file metadata it passes through. -/
structure CacheResult where
  breakPoint : Int64
  pieceMetaRecords : List PieceMetaRecord
  deriving DecidableEq, Repr

/-- `detectByReadFile` (`cache_detector.go:164`) on the task's piece-meta file: the result,
and the file as the detector leaves it, rewritten with the kept records when it dropped
some. `sort.Slice` by piece number is an insertion sort, one of the orders it may give. -/
def detectByReadFile (check : PieceMetaRecord → Bool) (metaFile : List Char) :
    Except DetectError (CacheResult × List Char) := do
  let tempRecords ← (readPieceMetaRecords metaFile).mapError .readPieceMetaRecords
  let sorted := tempRecords.insertionSort fun a b => a.pieceNum ≤ b.pieceNum
  let (breakPoint, pieceMetaRecords) ← detectLoop check 0 0 sorted
  let metaFile' :=
    if tempRecords.length ≠ pieceMetaRecords.length then writePieceMetaRecords pieceMetaRecords
    else metaFile
  return (⟨breakPoint, pieceMetaRecords⟩, metaFile')

/-! ### The range asked of the source -/

/-- The errors of `getBreakRange` (`downloader.go:64–79`). -/
inductive BreakRangeError where
  /-- `"breakPoint is non-positive: %d"` -/
  | nonPositiveBreakPoint (breakPoint : Int64)
  /-- `"file length is non-positive: %d"` -/
  | nonPositiveLength (fileTotalLength : Int64)
  /-- `"parse range failed, taskRange: %s, fileTotalLength: %d: %v"` -/
  | parseRange (taskRange : List Char) (fileTotalLength : Int64) (err : ParseRangeError)
  /-- `"breakPoint %d is larger than or equal with length of download required %s"` -/
  | breakPointTooLarge (breakPoint : Int64) (requestRange : Range)
  deriving DecidableEq, Repr

/-- `getBreakRange` (`downloader.go:64`): the rest of the file from the break point, or of the
task's own range when it has one. -/
def getBreakRange (breakPoint : Int64) (taskRange : List Char) (fileTotalLength : Int64) :
    Except BreakRangeError (List Char) :=
  if breakPoint ≤ 0 then .error (.nonPositiveBreakPoint breakPoint)
  else if fileTotalLength ≤ 0 then .error (.nonPositiveLength fileTotalLength)
  else if isBlank taskRange then
    .ok (formatInt breakPoint.toInt ++ '-' :: formatInt (fileTotalLength - 1).toInt)
  else
    match parseRange taskRange fileTotalLength.toUInt64 with
    | .error e => .error (.parseRange taskRange fileTotalLength e)
    | .ok requestRange =>
      if (requestRange.endIndex - requestRange.startIndex + 1).toInt64 ≤ breakPoint then
        .error (.breakPointTooLarge breakPoint requestRange)
      else
        .ok (formatUint (requestRange.startIndex + breakPoint.toUInt64).toNat ++
          '-' :: formatUint requestRange.endIndex.toNat)

/-- The range `manager.download` (`downloader.go:32–40`) puts in the request: the task's
range from the start, the break range once there is a break point. A blank range sends no
`Range` header. -/
def downloadRange (breakPoint : Int64) (taskRange : List Char) (sourceFileLength : Int64) :
    Except BreakRangeError (List Char) :=
  if 0 < breakPoint then getBreakRange breakPoint taskRange sourceFileLength else .ok taskRange

/-! ### Cutting the source into pieces -/

/-- A piece the reading loop sends to the writer pool (`cache_writer.go:146–151`). -/
structure Piece (α : Type) where
  pieceNum : UInt32
  pieceSize : UInt32
  pieceContent : List α
  deriving DecidableEq, Repr

variable {α : Type}

/-- The rounds of the reading loop of `doWrite` (`cache_writer.go:124–158`) on the bytes
`src` still to come, from piece `curPieceNum`: read up to `pieceSize` bytes, stop when none
came, send the piece, and stop after a short one. The pieces, the bytes read and the final
piece number. Each round reads a byte or ends the loop, so `src.length + 1` rounds suffice. -/
def readPieces (pieceSize : Int32) : ℕ → Int32 → List α → List (Piece α) × Int64 × Int32
  | 0, curPieceNum, _ => ([], 0, curPieceNum)
  | rounds + 1, curPieceNum, src =>
    let chunk := src.take pieceSize.toInt.toNat
    if chunk.length = 0 then ([], 0, curPieceNum)
    else
      let piece : Piece α := ⟨curPieceNum.toUInt32, pieceSize.toUInt32, chunk⟩
      if chunk.length < pieceSize.toInt.toNat then
        ([piece], Int64.ofNat chunk.length, curPieceNum + 1)
      else
        let (pieces, n, last) :=
          readPieces pieceSize rounds (curPieceNum + 1) (src.drop pieceSize.toInt.toNat)
        (piece :: pieces, Int64.ofNat chunk.length + n, last)

/-- `doWrite` (`cache_writer.go:109`): the reading loop from piece `BreakPoint / PieceSize`;
the pieces, `backSourceLength` and the total piece count it returns. -/
def doWrite (pieceSize : Int32) (breakPoint : Int64) (src : List α) :
    List (Piece α) × Int64 × Int32 :=
  readPieces pieceSize (src.length + 1) (breakPoint / pieceSize.toInt64).toInt32 src

/-- The record the writer pool appends for a piece (`cache_writer.go:178–201`): both ranges
are the piece's bytes in the file, in `uint64` arithmetic, and the style is `PLAIN`. -/
def pieceRecord (md5 : List α → List Char) (p : Piece α) : PieceMetaRecord :=
  let start : UInt64 := p.pieceNum.toUInt64 * p.pieceSize.toUInt64
  let end_ : UInt64 := start + UInt64.ofNat p.pieceContent.length - 1
  ⟨p.pieceNum, UInt32.ofNat p.pieceContent.length, md5 p.pieceContent, some ⟨start, end_⟩,
    some ⟨start, end_⟩, 0⟩

/-- The part of `downloadMetadata` (`cache_writer.go:98–105`) that counts the source. -/
structure DownloadMetadata where
  backSourceLength : Int64
  realSourceFileLength : Int64
  totalPieceCount : Int32
  deriving DecidableEq, Repr

/-- `startWriter` (`cache_writer.go:72`): write the source bytes from the break point on; the
counts it reports and the records the pool appends. -/
def startWriter (md5 : List α → List Char) (pieceSize : Int32) (breakPoint : Int64)
    (src : List α) : DownloadMetadata × List PieceMetaRecord :=
  let (pieces, backSourceLength, totalPieceCount) := doWrite pieceSize breakPoint src
  (⟨backSourceLength, breakPoint + backSourceLength, totalPieceCount⟩,
    pieces.map (pieceRecord md5))

/-! ### The reading loop round by round -/

section Rounds

variable {pieceSize : Int32} (rounds : ℕ) (n : Int32) {src : List α}

/-- An empty source ends the loop with no piece. -/
theorem readPieces_nil : readPieces pieceSize (rounds + 1) n ([] : List α) = ([], 0, n) := by
  simp [readPieces]

/-- A source shorter than a piece is the last piece. -/
theorem readPieces_short (hpos : 0 < src.length) (hshort : src.length < pieceSize.toInt.toNat) :
    readPieces pieceSize (rounds + 1) n src =
      ([⟨n.toUInt32, pieceSize.toUInt32, src⟩], Int64.ofNat src.length, n + 1) := by
  have htake : src.take pieceSize.toInt.toNat = src := List.take_of_length_le hshort.le
  simp only [readPieces, htake, Nat.pos_iff_ne_zero.mp hpos, hshort, if_false, if_true]

/-- A source of at least a piece gives a full piece, then the pieces of the rest. -/
theorem readPieces_full (hp : 0 < pieceSize.toInt.toNat) (hle : pieceSize.toInt.toNat ≤ src.length) :
    readPieces pieceSize (rounds + 1) n src =
      let rest := readPieces pieceSize rounds (n + 1) (src.drop pieceSize.toInt.toNat)
      (⟨n.toUInt32, pieceSize.toUInt32, src.take pieceSize.toInt.toNat⟩ :: rest.1,
        Int64.ofNat pieceSize.toInt.toNat + rest.2.1, rest.2.2) := by
  have hlen : (src.take pieceSize.toInt.toNat).length = pieceSize.toInt.toNat := by
    rw [List.length_take, Nat.min_eq_left hle]
  rw [readPieces]
  simp only [hlen, Nat.pos_iff_ne_zero.mp hp, Nat.lt_irrefl, if_false]

end Rounds

/-! ### Resuming after the last piece -/

/-- A 10-byte source, seeded with 4-byte pieces: two full pieces and a short last one. -/
def tenBytes : List UInt8 := List.replicate 10 0

/-- A fixed stand-in for the piece digest. -/
def zeroDigest (_ : List UInt8) : List Char := "0".toList

/-- A fresh seed of `tenBytes`: its counts and the records the pool appends. -/
def freshSeed : DownloadMetadata × List PieceMetaRecord := startWriter zeroDigest 4 0 tenBytes

/-- The piece-meta file the fresh seed leaves. -/
def freshMetaFile : List Char := freshSeed.2.foldl appendPieceMetadata []

/-- The seed is interrupted after all three piece records are written and before the file
metadata is: the detector keeps all three and returns `BreakPoint = 10 = L`. The break
range is then `10-9`, whose start lies past its end; the source has no bytes in it, and the
writer, starting at piece `10 / 4 = 2`, reads none and reports 2 pieces where a fresh seed
reports 3. -/
theorem resume_after_last_piece :
    freshSeed.1 = ⟨10, 10, 3⟩ ∧
      detectByReadFile (fun _ => true) freshMetaFile = .ok (⟨10, freshSeed.2⟩, freshMetaFile) ∧
      downloadRange 10 [] 10 = .ok "10-9".toList ∧
      (startWriter zeroDigest 4 10 ([] : List UInt8)).1 = ⟨0, 10, 2⟩ := by
  refine ⟨rfl, ?_, rfl, rfl⟩
  rfl

end Dragonfly.Cdn
