import Dragonfly.Pkg.Digest
import Dragonfly.Cdn.Resume
import Dragonfly.Cdn.PieceTasks

/-!
# Seeding from the source: the digest and the result check

The digest side of `manager.doTrigger` (`cdn/supervisor/cdn/manager.go:119`) for a seed task
with no cache to resume: the hash the source body is read through, the `<algo>:<hex>` digest
the limit reader (`pkg/ratelimiter/limitreader/limit_reader.go`) reports once the writer has
read the whole body, and `handleCDNResult` (`manager.go:206`), which checks that digest, the
length read and the writer's piece count against the task. The writer is `startWriter` from
the break point `0`; the size of the CDN file and the piece signature come from the storage
and are parameters. Locks, traces, statistics and the report of the detect result are left
out, as are download and storage errors; the hash functions are parameters as in
`Dragonfly.Digest`.
-/

namespace Dragonfly.Cdn

open Dragonfly.Digest Dragonfly.Base.GoText

/-- A `task.SeedTask` (`task.go:32`) with the two fields beyond `SeedTask` that the trigger
reads: the expected `Digest` and the `PieceSize`. -/
structure TriggerTask extends SeedTask where
  digest : List Char
  pieceSize : Int32
  deriving DecidableEq, Repr

/-- The fields of `downloadMetadata` (`cache_writer.go:98–105`) beside the counts of
`startWriter` (`DownloadMetadata`): the size of the CDN file, the piece signature and the
digest of the limit reader. -/
structure DownloadDigests where
  realCdnFileLength : Int64
  pieceMd5Sign : List Char
  sourceRealDigest : List Char
  deriving DecidableEq, Repr

/-- The fields of `storage.FileMetadata` that `handleCDNResult` records through
`updateStatusAndResult` (`manager.go:224–236`). -/
structure FileResult where
  finish : Bool
  success : Bool
  sourceFileLen : Int64
  cdnFileLength : Int64
  sourceRealDigest : List Char
  totalPieceCount : Int32
  pieceMd5Sign : List Char
  deriving DecidableEq, Repr

/-- The checks of `handleCDNResult` that fail (`manager.go:211–223`). -/
inductive ResultError where
  /-- `"file digest not match expected: %s real: %s"` -/
  | digestNotMatch (expected real : List Char)
  /-- `"file length not match expected: %d real: %d"` -/
  | lengthNotMatch (expected real : Int64)
  /-- `"task total piece count not match expected: %d real: %d"` -/
  | pieceCountNotMatch (expected real : Int32)
  deriving DecidableEq, Repr

/-! ### The source digest -/

/-- `digestType` and `fileDigest` of `doTrigger` (`manager.go:126–131`): MD5 for a blank
expected digest, otherwise the first part of `Parse(digest)` and its `CreateHash`, `none`
for an unsupported name. -/
def triggerDigest (digest : List Char) : List Char × Option Algorithm :=
  if isBlank digest then (Algorithm.md5.toString, some .md5)
  else
    let digestType := (parse digest).headD []
    (digestType, createHash digestType)

variable {α : Type} (md5 sha256 : List α → List Char)

/-- `LimitReader.Digest` (`limit_reader.go:86`) after `content` was read through a reader
built with the hash `fileDigest` and the algorithm `Algorithms[digestType]`:
`<algo>:<hex>`, and `""` without a hash. -/
def limitReaderDigest (fileDigest : Option Algorithm) (digestType : List Char)
    (content : List α) : List Char :=
  match fileDigest with
  | some algo => algorithmName digestType ++ ':' :: hashOf md5 sha256 algo content
  | none => []

/-- `sourceRealDigest` of the writer's `downloadMetadata` (`cache_writer.go:103`) after a run
from no cache, which reads all of `content` through the limit reader. -/
def sourceRealDigest (digest : List Char) (content : List α) : List Char :=
  let (digestType, fileDigest) := triggerDigest digest
  limitReaderDigest md5 sha256 fileDigest digestType content

/-! ### The result check -/

/-- The three checks of `handleCDNResult` in order (`manager.go:211–223`): the expected digest
unless blank, a source length that is known, and a positive piece count. -/
def resultError (t : TriggerTask) (m : DownloadMetadata) (d : DownloadDigests) :
    Option ResultError :=
  if !isBlank t.digest ∧ t.digest ≠ d.sourceRealDigest then
    some (.digestNotMatch t.digest d.sourceRealDigest)
  else if t.sourceFileLength ≥ 0 ∧ t.sourceFileLength ≠ m.realSourceFileLength then
    some (.lengthNotMatch t.sourceFileLength m.realSourceFileLength)
  else if t.totalPieceCount > 0 ∧ m.totalPieceCount ≠ t.totalPieceCount then
    some (.pieceCountNotMatch t.totalPieceCount m.totalPieceCount)
  else none

/-- `handleCDNResult` (`manager.go:206`): the result recorded for the task, and the error of
the first check that fails. Recording it does not fail. -/
def handleCDNResult (t : TriggerTask) (m : DownloadMetadata) (d : DownloadDigests) :
    FileResult × Except ResultError Unit :=
  let success := (resultError t m d).isNone
  let sourceFileLen :=
    if success ∧ t.sourceFileLength ≤ 0 then m.realSourceFileLength else t.sourceFileLength
  (⟨true, success, sourceFileLen, d.realCdnFileLength, d.sourceRealDigest, m.totalPieceCount,
      d.pieceMd5Sign⟩,
    match resultError t m d with
    | some e => .error e
    | none => .ok ())

/-- `doTrigger` (`manager.go:119`) for a task with no cache: the writer reads all of `content`
through the limit reader from the break point `0`, and the result check runs on what it
reports, with the storage's `realCdnFileLength` and `pieceMd5Sign`. -/
def doTrigger (t : TriggerTask) (content : List α) (realCdnFileLength : Int64)
    (pieceMd5Sign : List Char) : FileResult × Except ResultError Unit :=
  handleCDNResult t (startWriter md5 t.pieceSize 0 content).1
    ⟨realCdnFileLength, pieceMd5Sign, sourceRealDigest md5 sha256 t.digest content⟩

/-! ### What the writer reads -/

/-- A source is empty, shorter than a piece, or at least a piece long: the three rounds of
the reading loop. -/
theorem source_cases (P : ℕ) (src : List α) :
    src = [] ∨ (0 < src.length ∧ src.length < P) ∨ P ≤ src.length := by
  rcases Nat.lt_or_ge src.length P with hshort | hle
  · rcases Nat.eq_zero_or_pos src.length with h0 | hpos
    · exact .inl (List.length_eq_zero_iff.mp h0)
    · exact .inr (.inl ⟨hpos, hshort⟩)
  · exact .inr (.inr hle)

/-- From any piece, the reading loop with a round for every byte and one more reads all of the
source. -/
theorem readPieces_bytes {pieceSize : Int32} (hp : 0 < pieceSize.toInt) (rounds : ℕ) (n : Int32)
    (src : List α) (hrounds : src.length < rounds) (hsrc : src.length < 2 ^ 63) :
    (readPieces pieceSize rounds n src).2.1 = Int64.ofNat src.length := by
  -- induction on the rounds, each full piece handing the rest of the source on
  induction rounds generalizing n src with
  | zero => omega
  | succ rounds ih =>
    have hp' : 0 < pieceSize.toInt.toNat := by omega
    rcases source_cases pieceSize.toInt.toNat src with rfl | ⟨hpos, hshort⟩ | hle
    · rw [readPieces_nil]
      rfl
    · rw [readPieces_short rounds n hpos hshort]
    · rw [readPieces_full rounds n hp' hle]
      dsimp only
      rw [ih (n + 1) (src.drop pieceSize.toInt.toNat) (by rw [List.length_drop]; omega)
        (by rw [List.length_drop]; omega), List.length_drop, ← Int64.ofNat_add]
      congr 1
      omega

/-- From piece `n`, the reading loop with a round for every byte and one more ends at piece
`n + ceil(L / pieceSize)` for a source of `L` bytes. -/
theorem readPieces_count {pieceSize : Int32} (hp : 0 < pieceSize.toInt) (rounds : ℕ) (n : Int32)
    (src : List α) (hrounds : src.length < rounds) :
    (readPieces pieceSize rounds n src).2.2 =
      n + Int32.ofNat ((src.length + pieceSize.toInt.toNat - 1) / pieceSize.toInt.toNat) := by
  induction rounds generalizing n src with
  | zero => omega
  | succ rounds ih =>
    have hp' : 0 < pieceSize.toInt.toNat := by omega
    rcases source_cases pieceSize.toInt.toNat src with rfl | ⟨hpos, hshort⟩ | hle
    · rw [readPieces_nil, List.length_nil, Nat.zero_add, Nat.div_eq_of_lt (by omega)]
      exact (Int32.add_zero n).symm
    · have hone : (src.length + pieceSize.toInt.toNat - 1) / pieceSize.toInt.toNat = 1 := by
        rw [Nat.div_eq_iff hp']
        omega
      rw [readPieces_short rounds n hpos hshort, hone]
      rfl
    · -- one full piece, then the pieces of the rest
      have hsplit : (src.length + pieceSize.toInt.toNat - 1) / pieceSize.toInt.toNat =
          ((src.length - pieceSize.toInt.toNat) + pieceSize.toInt.toNat - 1) /
            pieceSize.toInt.toNat + 1 := by
        rw [← Nat.add_div_right _ hp']
        congr 1
        omega
      rw [readPieces_full rounds n hp' hle]
      dsimp only
      rw [ih (n + 1) (src.drop pieceSize.toInt.toNat) (by rw [List.length_drop]; omega),
        List.length_drop, hsplit, Int32.ofNat_add, Int32.add_assoc, Int32.add_comm 1]
      rfl

/-- A writer from the break point `0` reports the whole source as read. -/
theorem startWriter_realSourceFileLength {pieceSize : Int32} (hp : 0 < pieceSize.toInt)
    (src : List α) (hsrc : src.length < 2 ^ 63) :
    (startWriter md5 pieceSize 0 src).1.realSourceFileLength = Int64.ofNat src.length := by
  have hbytes := readPieces_bytes hp (src.length + 1) ((0 : Int64) / pieceSize.toInt64).toInt32 src
    (Nat.lt_succ_self _) hsrc
  rw [startWriter, doWrite]
  generalize readPieces pieceSize (src.length + 1) ((0 : Int64) / pieceSize.toInt64).toInt32 src = r
    at hbytes ⊢
  obtain ⟨pieces, backSourceLength, totalPieceCount⟩ := r
  dsimp only at hbytes ⊢
  rw [hbytes, Int64.zero_add]

/-- A writer from the break point `0` counts `ceil(L / pieceSize)` pieces. -/
theorem startWriter_totalPieceCount {pieceSize : Int32} (hp : 0 < pieceSize.toInt)
    (src : List α) :
    (startWriter md5 pieceSize 0 src).1.totalPieceCount =
      Int32.ofNat ((src.length + pieceSize.toInt.toNat - 1) / pieceSize.toInt.toNat) := by
  have hcount := readPieces_count hp (src.length + 1) ((0 : Int64) / pieceSize.toInt64).toInt32
    src (Nat.lt_succ_self _)
  rw [startWriter, doWrite]
  generalize readPieces pieceSize (src.length + 1) ((0 : Int64) / pieceSize.toInt64).toInt32 src = r
    at hcount ⊢
  obtain ⟨pieces, backSourceLength, totalPieceCount⟩ := r
  dsimp only at hcount ⊢
  rw [hcount, Int64.zero_div]
  exact Int32.zero_add _

/-! ### What the checks accept -/

/-- No check fails exactly when the expected digest is blank or the real one, a known source
length is the length read, and a positive piece count is the writer's. -/
theorem resultError_eq_none_iff (t : TriggerTask) (m : DownloadMetadata) (d : DownloadDigests) :
    resultError t m d = none ↔
      (isBlank t.digest ∨ t.digest = d.sourceRealDigest) ∧
      (0 ≤ t.sourceFileLength → t.sourceFileLength = m.realSourceFileLength) ∧
      (0 < t.totalPieceCount → m.totalPieceCount = t.totalPieceCount) := by
  unfold resultError
  split_ifs with hd hl hc
  · simp only [false_iff, not_and]
    rintro (hb | heq) <;> simp_all
  · simp only [false_iff, not_and]
    intro _ h
    exact absurd (h hl.1) hl.2
  · simp only [false_iff, not_and]
    intro _ _ h
    exact absurd (h hc.1) hc.2
  · simp only [true_iff]
    refine ⟨?_, fun h => ?_, fun h => ?_⟩
    · cases hb : isBlank t.digest <;> simp_all
    · exact Decidable.byContradiction fun hne => hl ⟨h, hne⟩
    · exact Decidable.byContradiction fun hne => hc ⟨h, hne⟩

/-- The result check passes exactly when none of its checks fails. -/
theorem handleCDNResult_ok_iff (t : TriggerTask) (m : DownloadMetadata) (d : DownloadDigests) :
    (handleCDNResult t m d).2 = .ok () ↔ resultError t m d = none := by
  unfold handleCDNResult
  cases resultError t m d <;> simp

/-- For an expected digest that is not blank, the digest of a run is the expected one exactly
when the expected one names a supported algorithm, a colon and the hex of the content under
that algorithm. -/
theorem sourceRealDigest_eq_iff {digest : List Char} (hd : isBlank digest = false)
    (content : List α) :
    digest = sourceRealDigest md5 sha256 digest content ↔
      ∃ a : Algorithm, digest = a.toString ++ ':' :: hashOf md5 sha256 a content := by
  constructor
  · intro h
    unfold sourceRealDigest triggerDigest at h
    rw [if_neg (by simp [hd])] at h
    dsimp only at h
    cases ha : createHash ((parse digest).headD []) with
    | none =>
      -- without a hash the run's digest is empty, and the empty digest is blank
      rw [ha, limitReaderDigest] at h
      subst h
      exact absurd hd (by decide)
    | some a =>
      have hname : algorithmName ((parse digest).headD []) = a.toString := by
        rw [createHash] at ha
        rw [algorithmName, ha]
        rfl
      rw [ha, limitReaderDigest, hname] at h
      exact ⟨a, h⟩
  · rintro ⟨a, rfl⟩
    unfold sourceRealDigest triggerDigest
    rw [if_neg (by simp [isBlank_algorithm]), parse_algorithm]
    simp [createHash, algorithmName, limitReaderDigest]

/-- A run that passes the result check under an expected digest that is not blank was asked
for `<algo>:<hex>` of its content, whatever the task's length and piece count. -/
theorem doTrigger_ok_digest {t : TriggerTask} (hd : isBlank t.digest = false) {content : List α}
    {realCdnFileLength : Int64} {pieceMd5Sign : List Char}
    (h : (doTrigger md5 sha256 t content realCdnFileLength pieceMd5Sign).2 = .ok ()) :
    ∃ a : Algorithm, t.digest = a.toString ++ ':' :: hashOf md5 sha256 a content := by
  rw [doTrigger, handleCDNResult_ok_iff, resultError_eq_none_iff] at h
  exact (sourceRealDigest_eq_iff md5 sha256 hd content).mp (h.1.resolve_left (by simp [hd]))

/-- A seeding run from no cache, for a task whose known source length is the content's and
whose positive piece count is `ceil(L / pieceSize)`, as the task manager registers it,
accepts its content under a non-blank expected digest exactly when the digest is
`<algo>:<hex>` of the content for a supported algorithm. -/
theorem doTrigger_ok_iff {t : TriggerTask} (hd : isBlank t.digest = false) (content : List α)
    (realCdnFileLength : Int64) (pieceMd5Sign : List Char) (hp : 0 < t.pieceSize.toInt)
    (hsrc : content.length < 2 ^ 63)
    (hlength : 0 ≤ t.sourceFileLength → t.sourceFileLength = Int64.ofNat content.length)
    (hcount : 0 < t.totalPieceCount → t.totalPieceCount =
      Int32.ofNat ((content.length + t.pieceSize.toInt.toNat - 1) / t.pieceSize.toInt.toNat)) :
    (doTrigger md5 sha256 t content realCdnFileLength pieceMd5Sign).2 = .ok () ↔
      ∃ a : Algorithm, t.digest = a.toString ++ ':' :: hashOf md5 sha256 a content := by
  rw [doTrigger, handleCDNResult_ok_iff, resultError_eq_none_iff,
    ← sourceRealDigest_eq_iff md5 sha256 hd, startWriter_realSourceFileLength md5 hp _ hsrc,
    startWriter_totalPieceCount md5 hp]
  simp only [hd, Bool.false_eq_true, false_or]
  exact ⟨fun h => h.1, fun h => ⟨h, hlength, fun hpos => (hcount hpos).symm⟩⟩

/-- A seeding run from no cache, for a task whose known source length is the content's and
whose positive piece count is `ceil(L / pieceSize)`, accepts its content exactly when the
expected digest is blank or `<algo>:<hex>` of the content for a supported algorithm. -/
theorem doTrigger_accepts_iff {t : TriggerTask} (content : List α) (realCdnFileLength : Int64)
    (pieceMd5Sign : List Char) (hp : 0 < t.pieceSize.toInt) (hsrc : content.length < 2 ^ 63)
    (hlength : 0 ≤ t.sourceFileLength → t.sourceFileLength = Int64.ofNat content.length)
    (hcount : 0 < t.totalPieceCount → t.totalPieceCount =
      Int32.ofNat ((content.length + t.pieceSize.toInt.toNat - 1) / t.pieceSize.toInt.toNat)) :
    (doTrigger md5 sha256 t content realCdnFileLength pieceMd5Sign).2 = .ok () ↔
      isBlank t.digest ∨ ∃ a : Algorithm, t.digest = a.toString ++ ':' :: hashOf md5 sha256 a content := by
  cases hb : isBlank t.digest with
  | false =>
    rw [doTrigger_ok_iff md5 sha256 hb content realCdnFileLength pieceMd5Sign hp hsrc hlength hcount]
    simp
  | true =>
    -- a blank expected digest is not checked
    rw [doTrigger, handleCDNResult_ok_iff, resultError_eq_none_iff,
      startWriter_realSourceFileLength md5 hp _ hsrc, startWriter_totalPieceCount md5 hp]
    simp only [hb, true_or, true_and, iff_true]
    exact ⟨hlength, fun hpos => (hcount hpos).symm⟩

theorem doTrigger_accepts_iff_blank :
    (doTrigger (fun _ => "00".toList) (fun _ => "11".toList)
        ⟨⟨[], 1, .waiting, 1, [], []⟩, " ".toList, 4⟩ [(0 : UInt8)] 1 []).2 = .ok () ↔
      isBlank " ".toList ∨ ∃ a : Algorithm, " ".toList = a.toString ++ ':' ::
        hashOf (fun _ => "00".toList) (fun _ => "11".toList) a [(0 : UInt8)] :=
  doTrigger_accepts_iff _ _ [0] 1 [] (by decide) (by decide) (fun _ => rfl) (fun _ => rfl)

end Dragonfly.Cdn
