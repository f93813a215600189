import Dragonfly.Daemon.Conductor

/-!
# Downloading from the source

`pieceManager.DownloadSource` (`client/daemon/peer/piece_manager.go:242`) with its two piece
loops, for a source whose length is known in advance and for one whose length is not, and
`peerTaskConductor.backSource` (`peertask_conductor.go:370`) around it. The body is read
through a digest reader: the one `DownloadSource` puts around the body when
`calculateDigest` is on, with the request's expected digest, and an inert one otherwise.
The rate limiter, traffic counters, piece reports to the scheduler and the broker are left
out; requests to the source do not fail, and `GetContentLength` gives `contentLength`, `-1`
when the source cannot tell.
-/

namespace Dragonfly.Daemon

open Dragonfly.Digest Dragonfly.Base.GoText

/-- `util.DefaultPieceSize` (`internal/util/util.go:21`), 4 MiB. -/
def defaultPieceSize : UInt32 := 4 * 1024 * 1024

/-- `util.DefaultPieceSizeLimit` (`util.go:24`), 15 MiB. -/
def defaultPieceSizeLimit : UInt32 := 15 * 1024 * 1024

/-- `util.ComputePieceSize` (`util.go:31`), in `int64` arithmetic. -/
def computePieceSize (length : Int64) : UInt32 :=
  if length ≤ 200 * 1024 * 1024 then defaultPieceSize
  else
    let gapCount := length / (100 * 1024 * 1024)
    let mpSize := (gapCount - 2) * 1024 * 1024 + defaultPieceSize.toUInt64.toInt64
    if mpSize > defaultPieceSizeLimit.toUInt64.toInt64 then defaultPieceSizeLimit
    else mpSize.toUInt64.toUInt32

/-- `int32(math.Ceil(float64(contentLength) / float64(pieceSize)))`
(`piece_manager.go:313,427`), the number of pieces of `contentLength ≥ 0` bytes. Below `2^53`
both operands are exact floats, and a quotient `L / P` that is not an integer lies more than
half an ulp (at least `1 / P`) above `⌊L / P⌋`, so the rounded quotient has the integer ceiling
taken here; from `2^53` on the two can differ. Go leaves the conversion of a float outside the
`int32` range to the implementation; the model wraps it modulo `2^32`, which at `2^31` gives
`-2^31` as amd64 does. -/
def pieceCount (contentLength : Int64) (pieceSize : UInt32) : Int32 :=
  Int32.ofNat ((contentLength.toInt.toNat + pieceSize.toNat - 1) / pieceSize.toNat)

/-- `uint64(pieceNum) * uint64(pieceSize)`, the offset of a piece (`piece_manager.go:316,382`). -/
def pieceOffset (pieceNum : Int32) (pieceSize : UInt32) : UInt64 :=
  pieceNum.toInt64.toUInt64 * pieceSize.toUInt64

/-- The size of the piece at `offset` of a known-length source (`piece_manager.go:315–320`):
the piece size, cut to the content length for the last piece. -/
def knownPieceSize (contentLength : Int64) (offset : UInt64) (pieceSize : UInt32) : UInt32 :=
  if 0 < contentLength ∧ offset.toInt64 + pieceSize.toUInt64.toInt64 > contentLength then
    (contentLength - offset.toInt64).toUInt64.toUInt32
  else pieceSize

/-- The errors a piece loop returns. -/
inductive SourceError where
  /-- An error of the storage or of the reader under it. -/
  | store (err : StoreError)
  /-- `"piece %d size %d should not great than %d"` (`piece_manager.go:417`) -/
  | pieceTooLarge (pieceNum : Int32) (size : Int64) (limit : UInt32)
  deriving DecidableEq, Repr

/-- What a back-to-source run carries from piece to piece: the conductor, its storage, and
the reader over the body. -/
structure Run (α : Type) where
  pt : Conductor
  store : TaskStore
  reader : DigestReader α

variable {α : Type} (md5 : List α → List Char) (sha256 : List (List Char) → List Char)
  (calculateDigest : Bool)

/-- `processPieceFromSource` (`piece_manager.go:181`): write one piece of `pieceSize` bytes at
`pieceOffset` from the reader, its MD5 left for the store to take, with `isLastPiece` as the
store's digest callback; the size written. The MD5 it returns only goes into the piece
report, which is left out. -/
def processPieceFromSource (t : TaskStore) (r : DigestReader α) (contentLength : Int64)
    (pieceNum : Int32) (pieceOffset : UInt64) (pieceSize : UInt32)
    (isLastPiece : Int64 → Int32 × Bool) :
    (TaskStore × DigestReader α) × Except StoreError Int64 :=
  t.writePiece md5 sha256 calculateDigest
    ⟨⟨pieceNum, [], pieceOffset, ⟨pieceOffset.toInt64, pieceSize.toUInt64.toInt64⟩, 0⟩,
      decide (contentLength = -1), some isLastPiece⟩ r

/-- The rounds of the loop of `downloadKnownLengthSource` (`piece_manager.go:314–372`) from
piece `pieceNum`: write the piece, cut to the content length for the last one; stop at an
error or a short piece; after the last piece record the total piece count; publish the
piece. `maxPieceNum` rounds suffice. -/
def knownLengthLoop (contentLength : Int64) (pieceSize : UInt32) (maxPieceNum : Int32) :
    ℕ → Int32 → Run α → Run α × Except SourceError Unit
  | 0, _, s => (s, .ok ())
  | rounds + 1, pieceNum, s =>
    if pieceNum < maxPieceNum then
      let offset := pieceOffset pieceNum pieceSize
      let size := knownPieceSize contentLength offset pieceSize
      match processPieceFromSource md5 sha256 calculateDigest s.store s.reader contentLength
          pieceNum offset size (fun _ => (maxPieceNum, decide (pieceNum = maxPieceNum - 1))) with
      | ((t, r), .error e) => (⟨s.pt, t, r⟩, .error (.store e))
      | ((t, r), .ok n) =>
        if n ≠ size.toUInt64.toInt64 then (⟨s.pt, t, r⟩, .error (.store .shortRead))
        else
          let t := if pieceNum = maxPieceNum - 1 then t.updateTask contentLength maxPieceNum []
            else t
          let (pt, t) := s.pt.publishPieceInfo calculateDigest sha256 t pieceNum n.toUInt64.toUInt32
          knownLengthLoop contentLength pieceSize maxPieceNum rounds (pieceNum + 1) ⟨pt, t, r⟩
    else (s, .ok ())

/-- `downloadKnownLengthSource` (`piece_manager.go:309`): set the content length and run the
piece loop over `ceil(contentLength / pieceSize)` pieces. -/
def downloadKnownLengthSource (s : Run α) (contentLength : Int64) (pieceSize : UInt32) :
    Run α × Except SourceError Unit :=
  let maxPieceNum := pieceCount contentLength pieceSize
  knownLengthLoop md5 sha256 calculateDigest contentLength pieceSize maxPieceNum
    maxPieceNum.toInt.toNat 0 { s with pt := { s.pt with contentLength := contentLength } }

/-- The store's digest callback of the unknown-length loop (`piece_manager.go:385–396`): a
short piece is the last one, and an empty one is no piece. -/
def unknownLastPiece (pieceSize : UInt32) (pieceNum : Int32) (n : Int64) : Int32 × Bool :=
  if n ≥ pieceSize.toUInt64.toInt64 then (-1, false)
  else if n = 0 then (pieceNum, true)
  else (pieceNum + 1, true)

/-- The rounds of the loop of `downloadUnknownLengthSource` (`piece_manager.go:380–451`) from
piece `pieceNum`: a full piece is published and the loop goes on; a short one fixes the
content length and the total piece count in the conductor and the store, is published
unless empty, and ends the loop with the content length. Every full piece reads `pieceSize`
bytes, so one round more than the body has bytes suffices; a run out of rounds ends with
length `-1`. -/
def unknownLengthLoop (pieceSize : UInt32) : ℕ → Int32 → Run α → Run α × Except SourceError Int64
  | 0, _, s => (s, .ok (-1))
  | rounds + 1, pieceNum, s =>
    let size := pieceSize
    let offset := pieceOffset pieceNum pieceSize
    match processPieceFromSource md5 sha256 calculateDigest s.store s.reader (-1) pieceNum
        offset size (unknownLastPiece pieceSize pieceNum) with
    | ((t, r), .error e) => (⟨s.pt, t, r⟩, .error (.store e))
    | ((t, r), .ok n) =>
      if n = size.toUInt64.toInt64 then
        let (pt, t) := s.pt.publishPieceInfo calculateDigest sha256 t pieceNum n.toUInt64.toUInt32
        unknownLengthLoop pieceSize rounds (pieceNum + 1) ⟨pt, t, r⟩
      else if n > size.toUInt64.toInt64 then
        (⟨s.pt, t, r⟩, .error (.pieceTooLarge pieceNum n size))
      else
        let contentLength := pieceSize.toUInt64.toInt64 * pieceNum.toInt64 + n
        let pt := { s.pt with totalPiece := pieceCount contentLength pieceSize }
        let t := t.updateTask contentLength pt.totalPiece []
        if n = 0 then (⟨pt, t, r⟩, .ok contentLength)
        else
          let (pt, t) := pt.publishPieceInfo calculateDigest sha256 t pieceNum n.toUInt64.toUInt32
          (⟨pt, t, r⟩, .ok contentLength)

/-- `downloadUnknownLengthSource` (`piece_manager.go:377`): run the piece loop, then set the
content length it found. -/
def downloadUnknownLengthSource (s : Run α) (pieceSize : UInt32) : Run α × Except SourceError Unit :=
  match unknownLengthLoop md5 sha256 calculateDigest pieceSize (s.reader.body.rest.length + 1) 0 s
    with
  | (s', .ok contentLength) => ({ s' with pt := { s'.pt with contentLength := contentLength } }, .ok ())
  | (s', .error e) => (s', .error e)

/-- `DownloadSource` (`piece_manager.go:242`) of `body`, whose length `GetContentLength` gives
as `contentLength`, for a request expecting `digest` (`UrlMeta.Digest`): record a known
length in the store, read through a digest reader with the expected digest when
`calculateDigest` is on, and run the loop for a known or an unknown length. -/
def downloadSource (pt : Conductor) (t : TaskStore) (body : Body α) (contentLength : Int64)
    (digest : List Char) : Run α × Except SourceError Unit :=
  let t := if contentLength < 0 then t else t.updateTask contentLength 0 []
  let reader := newDigestReader body (if calculateDigest then digest else [])
  let pieceSize := computePieceSize contentLength
  if contentLength < 0 then
    downloadUnknownLengthSource md5 sha256 calculateDigest ⟨pt, t, reader⟩ pieceSize
  else downloadKnownLengthSource md5 sha256 calculateDigest ⟨pt, t, reader⟩ contentLength pieceSize

/-- `backSource` (`peertask_conductor.go:370`): reset the content length, take the storage
the conductor holds or register a new one, download from the source, and cancel on an error
or run `Done` otherwise. The conductor and the storage afterwards. -/
def backSource (pt : Conductor) (storage : Option TaskStore) (body : Body α)
    (contentLength : Int64) (digest : List Char) : Conductor × TaskStore :=
  let pt := { pt with contentLength := -1 }
  let t := storage.getD (TaskStore.createTask pt.peerID pt.contentLength pt.totalPiece pt.digest)
  match downloadSource md5 sha256 calculateDigest pt t body contentLength digest with
  | (s, .error _) => (s.pt.cancel .clientError, s.store)
  | (s, .ok ()) => s.pt.doneOnce calculateDigest sha256 s.store

/-- The piece size is at least the default 4 MiB for every length that is not negative. -/
theorem computePieceSize_ge {L : ℕ} (hL : L < 2 ^ 63) :
    4 * 1024 * 1024 ≤ (computePieceSize (Int64.ofNat L)).toNat := by
  unfold computePieceSize
  dsimp only
  split_ifs with hsmall hlarge
  · decide
  · decide
  · have hgt : 209715200 < L := by
      rw [Int64.le_iff_toInt_le, Int64.toInt_ofNat_of_lt hL] at hsmall
      have : ((200 * 1024 * 1024 : Int64)).toInt = 209715200 := rfl
      omega
    -- `gapCount` and `mpSize` do not wrap for a length below `2^63`
    have hg : (Int64.ofNat L / (100 * 1024 * 1024)).toInt = (L : ℤ) / 104857600 := by
      rw [Int64.toInt_div, Int64.toInt_ofNat_of_lt hL,
        show ((100 * 1024 * 1024 : Int64)).toInt = 104857600 from rfl,
        Int.tdiv_eq_ediv_of_nonneg (by omega)]
      apply Int.bmod_eq_of_le <;> omega
    have hm : ((Int64.ofNat L / (100 * 1024 * 1024) - 2) * 1024 * 1024 +
        defaultPieceSize.toUInt64.toInt64).toInt =
          ((L : ℤ) / 104857600 - 2) * 1024 * 1024 + 4194304 := by
      rw [Int64.toInt_add, Int64.toInt_mul, Int64.toInt_mul, Int64.toInt_sub, hg]
      simp only [show (2 : Int64).toInt = 2 from rfl, show (1024 : Int64).toInt = 1024 from rfl,
        show defaultPieceSize.toUInt64.toInt64.toInt = 4194304 from rfl]
      simp (disch := omega) only [Int.bmod_eq_of_le]
    set mpSize := (Int64.ofNat L / (100 * 1024 * 1024) - 2) * 1024 * 1024 +
      defaultPieceSize.toUInt64.toInt64 with hmpSize
    have hle : mpSize.toInt ≤ 15728640 := by
      rw [gt_iff_lt, Int64.lt_iff_toInt_lt] at hlarge
      have : defaultPieceSizeLimit.toUInt64.toInt64.toInt = 15728640 := rfl
      omega
    have hx : mpSize = Int64.ofNat mpSize.toInt.toNat :=
      Int64.toInt_inj.mp (by rw [Int64.toInt_ofNat_of_lt (by omega)]; omega)
    rw [hx, Int64.toUInt64_toUInt32_ofNat, UInt32.toNat_ofNat', Nat.mod_eq_of_lt (by omega)]
    omega

end Dragonfly.Daemon
