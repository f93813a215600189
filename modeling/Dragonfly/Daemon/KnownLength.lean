import Dragonfly.Daemon.BackSource

/-!
# A known-length source, piece by piece

The loop of `downloadKnownLengthSource` over a body of `L > 0` bytes in pieces of `p` bytes:
piece `i` holds the `min p (L - i * p)` bytes from `i * p`. Each round writes and publishes
one piece, and `KnownAfter i` says what the run holds after `i` of them. The last round also
has the store sign the piece digests and record the total piece count, and publishing it
completes the task, so `done` runs inside the loop (`KnownFinished`). The conductor's own
total piece count is never set on this path: the `PeerResult` reports the count the
conductor started with.
-/

namespace Dragonfly.Daemon

open Dragonfly.Digest Dragonfly.Base.GoText

variable {α : Type}

/-- The number of pieces of `L` bytes in pieces of `p` bytes, `ceil(L / p)`. -/
def ceilPieces (L p : ℕ) : ℕ := (L + p - 1) / p

/-- The bytes of piece `i` of `c` in pieces of `p` bytes. -/
def pieceBytes (c : List α) (p i : ℕ) : List α := (c.drop (i * p)).take p

/-- The MD5 the store records for a piece: that of its bytes when the piece manager hashes
them, none otherwise. -/
def storedMd5 (md5 : List α → List Char) (calculateDigest : Bool) (bytes : List α) : List Char :=
  if calculateDigest then md5 bytes else []

/-! ### Pieces of a known length -/

theorem lt_ceilPieces_iff {L p i : ℕ} (hp : 0 < p) : i < ceilPieces L p ↔ i * p < L := by
  rw [ceilPieces, Nat.lt_iff_add_one_le, Nat.le_div_iff_mul_le hp, Nat.add_mul, Nat.one_mul]
  omega

/-- The last piece starts before the end of the body and reaches it. -/
theorem ceilPieces_last {L p i : ℕ} (hp : 0 < p) (hi : i + 1 = ceilPieces L p) :
    i * p < L ∧ L ≤ i * p + p := by
  have hend := mt (lt_ceilPieces_iff hp).mpr (show ¬ i + 1 < ceilPieces L p by omega)
  rw [Nat.add_mul, Nat.one_mul] at hend
  exact ⟨(lt_ceilPieces_iff hp).mp (by omega), by omega⟩

/-- The bytes left from piece `i` on, cut to the piece's length, are the piece's bytes. -/
theorem take_drop_eq_pieceBytes (c : List α) (p i : ℕ) :
    (c.drop (i * p)).take (min p (c.length - i * p)) = pieceBytes c p i := by
  unfold pieceBytes
  rcases Nat.le_total p (c.length - i * p) with h | h
  · rw [Nat.min_eq_left h]
  · rw [Nat.min_eq_right h, List.take_of_length_le (by simp),
      List.take_of_length_le (by simp; omega)]

/-! ### The piece geometry in Go's integer widths -/

section Widths

variable {P : UInt32} {L i : ℕ}

theorem pieceOffset_ofNat (hi : i < 2 ^ 31) :
    pieceOffset (Int32.ofNat i) P = UInt64.ofNat (i * P.toNat) := by
  rw [pieceOffset, Int32.toInt64_toUInt64_ofNat hi, UInt32.toUInt64_eq, UInt64.ofNat_mul]

/-- The size of piece `i` is `min p (L - i * p)` while the piece starts inside the content. -/
theorem knownPieceSize_ofNat (hL : 0 < L) (hL' : L < 2 ^ 62) (hi : i * P.toNat < L) :
    knownPieceSize (Int64.ofNat L) (UInt64.ofNat (i * P.toNat)) P =
      UInt32.ofNat (min P.toNat (L - i * P.toNat)) := by
  have hP := P.toNat_lt
  have hsum : (UInt64.ofNat (i * P.toNat)).toInt64 + P.toUInt64.toInt64 =
      Int64.ofNat (i * P.toNat + P.toNat) := by
    rw [UInt32.toUInt64_toInt64_eq, Int64.ofNat_add]
    rfl
  have hpos : (0 : Int64) < Int64.ofNat L := by
    rw [show (0 : Int64) = Int64.ofNat 0 from rfl, Int64.ofNat_lt_ofNat_iff (by decide) (by omega)]
    exact hL
  unfold knownPieceSize
  rw [hsum]
  by_cases hlast : L < i * P.toNat + P.toNat
  · rw [if_pos ⟨hpos, (Int64.ofNat_lt_ofNat_iff (by omega) (by omega)).mpr hlast⟩,
      show (UInt64.ofNat (i * P.toNat)).toInt64 = Int64.ofNat (i * P.toNat) from rfl,
      ← Int64.ofNat_sub _ _ hi.le, Int64.toUInt64_toUInt32_ofNat, Nat.min_eq_right (by omega)]
  · rw [if_neg (fun h => hlast ((Int64.ofNat_lt_ofNat_iff (by omega) (by omega)).mp h.2)),
      Nat.min_eq_left (by omega), UInt32.ofNat_toNat]

/-- The size of piece `i` as the loop computes it. -/
theorem knownPieceSize_at (hL : 0 < L) (hL' : L < 2 ^ 62) (hi31 : i < 2 ^ 31)
    (hi : i * P.toNat < L) :
    knownPieceSize (Int64.ofNat L) (pieceOffset (Int32.ofNat i) P) P =
      UInt32.ofNat (min P.toNat (L - i * P.toNat)) := by
  rw [pieceOffset_ofNat hi31, knownPieceSize_ofNat hL hL' hi]

theorem pieceCount_ofNat (hL : L < 2 ^ 63) :
    pieceCount (Int64.ofNat L) P = Int32.ofNat (ceilPieces L P.toNat) := by
  rw [pieceCount, Int64.toInt_ofNat_of_lt hL, Int.toNat_natCast]
  rfl

end Widths

/-! ### One round of the loop -/

section Loop

variable (md5 : List α → List Char) (sha256 : List (List Char) → List Char)
  (calculateDigest : Bool) (c : List α) (P : UInt32) (T : Int32) (expected : List Char)
  (eof : Bool)

/-- What a run over the body `c` in pieces of `P` bytes holds after its first `i` pieces: the
conductor has published them and counted their bytes, the reader is past them and has hashed
them, the store holds them with their MD5s and has no signature yet. `T` is the conductor's
total piece count, which the loop leaves alone; the reader expects `expected`, and `eof`
says whether the body sends `io.EOF` with its last bytes. -/
structure KnownAfter (i : ℕ) (s : Run α) : Prop where
  contentLength : s.pt.contentLength = Int64.ofNat c.length
  completed : s.pt.completedLength = Int64.ofNat (i * P.toNat)
  ready : s.pt.readyPieces = (List.range i).map Int32.ofNat
  status : s.pt.status = none
  totalPiece : s.pt.totalPiece = T
  digest : s.pt.digest = []
  rest : s.reader.body.rest = c.drop (i * P.toNat)
  eofWithLast : s.reader.body.eofWithLast = eof
  expected : s.reader.digest = expected
  hashed : s.reader.hashed = c.take (i * P.toNat)
  pieces : ∀ j < 2 ^ 31, (s.store.pieces (Int32.ofNat j)).map (·.md5) =
    if j < i then some (storedMd5 md5 calculateDigest (pieceBytes c P.toNat j)) else none
  sign : s.store.pieceMd5Sign = []

/-- The digests of the pieces of `c`, in piece order, as the store records them. -/
def knownDigests : List (List Char) :=
  (List.range (ceilPieces c.length P.toNat)).map fun j =>
    storedMd5 md5 calculateDigest (pieceBytes c P.toNat j)

/-- A finished run: `successCh` closed, success reported with the content length and the
conductor's count `T`, and the store holding the piece count and the signature of the
digests. -/
structure KnownFinished (pt : Conductor) (t : TaskStore) : Prop where
  status : pt.status = some .succeeded
  peerResult : pt.peerResult = some ⟨Int64.ofNat c.length, T, true, .success⟩
  totalPieces : t.totalPieces = Int32.ofNat (ceilPieces c.length P.toNat)
  sign : t.pieceMd5Sign = sha256 (knownDigests md5 calculateDigest c P)

variable {md5 calculateDigest c P T expected eof}

/-- Piece `i` is not stored yet. -/
theorem KnownAfter.pieces_self {i : ℕ} {s : Run α}
    (hs : KnownAfter md5 calculateDigest c P T expected eof i s) (hi : i < 2 ^ 31) :
    s.store.pieces (Int32.ofNat i) = none := by
  have h := hs.pieces i hi
  rw [if_neg (Nat.lt_irrefl i)] at h
  exact Option.map_eq_none_iff.mp h

/-- Piece `i` has not been published yet. -/
theorem KnownAfter.not_mem_ready {i : ℕ} {s : Run α}
    (hs : KnownAfter md5 calculateDigest c P T expected eof i s) (hi : i < 2 ^ 31) :
    Int32.ofNat i ∉ s.pt.readyPieces := by
  rw [hs.ready, List.mem_map]
  rintro ⟨j, hj, hji⟩
  rw [List.mem_range] at hj
  exact absurd ((Int32.ofNat_eq_ofNat_iff (by omega) hi).mp hji) (by omega)

/-- Publishing `n` more bytes after the first `i` pieces counts `i * P + n` bytes. -/
theorem KnownAfter.completed_add {i n : ℕ} {s : Run α}
    (hs : KnownAfter md5 calculateDigest c P T expected eof i s) (hn : n < 2 ^ 32) :
    s.pt.completedLength + (UInt32.ofNat n).toUInt64.toInt64 = Int64.ofNat (i * P.toNat + n) := by
  rw [hs.completed, UInt32.toUInt64_toInt64_ofNat hn, ← Int64.ofNat_add]

/-- The read of the last piece, which takes all bytes left, checks the MD5 of the whole body
exactly when the body sends `io.EOF` with those bytes. -/
theorem KnownAfter.read_last {i : ℕ} {s : Run α}
    (hs : KnownAfter md5 calculateDigest c P T expected eof i s) (hip : i * P.toNat < c.length) :
    (s.reader.read md5 (c.length - i * P.toNat)).2.2 =
      (eof && decide (expected ≠ []) && decide (md5 c ≠ expected)) := by
  have hrest : s.reader.body.rest.length = c.length - i * P.toNat := by
    rw [hs.rest, List.length_drop]
  cases heof : eof with
  | false => simp [DigestReader.read, Body.readAtMost, hrest, hs.eofWithLast, heof]
  | true =>
    rw [DigestReader.read_at_end md5 hrest (by omega) (hs.eofWithLast.trans heof), hs.hashed,
      hs.rest, List.take_append_drop, hs.expected, Bool.true_and]

/-- Writing piece `i`, when its read passes the digest check, stores it with its MD5 and moves
the reader past it; what the store's digest callback then does is left to `genDigest`. -/
theorem knownPiece_write {i : ℕ} {s : Run α}
    (hs : KnownAfter md5 calculateDigest c P T expected eof i s)
    (hP : 0 < P.toNat) (hL' : c.length < 2 ^ 62) (hN : ceilPieces c.length P.toNat < 2 ^ 31)
    (hi : i < ceilPieces c.length P.toNat) (gen : Int64 → Int32 × Bool)
    (hgood : (s.reader.read md5 (min P.toNat (c.length - i * P.toNat))).2.2 = false) :
    ∃ (t₀ : TaskStore) (req : WritePieceRequest), req.genPieceDigest = some gen ∧
      (∀ j < 2 ^ 31, (t₀.pieces (Int32.ofNat j)).map (·.md5) =
        if j < i + 1 then some (storedMd5 md5 calculateDigest (pieceBytes c P.toNat j)) else none) ∧
      t₀.pieceMd5Sign = [] ∧
      processPieceFromSource md5 sha256 calculateDigest s.store s.reader (Int64.ofNat c.length)
          (Int32.ofNat i) (pieceOffset (Int32.ofNat i) P)
          (knownPieceSize (Int64.ofNat c.length) (pieceOffset (Int32.ofNat i) P) P) gen =
        ((TaskStore.genDigest sha256 t₀ (Int64.ofNat (min P.toNat (c.length - i * P.toNat))) req,
          (s.reader.read md5 (min P.toNat (c.length - i * P.toNat))).2.1),
          .ok (Int64.ofNat (min P.toNat (c.length - i * P.toNat)))) := by
  have hip := (lt_ceilPieces_iff hP).mp hi
  have hP32 := P.toNat_lt
  have hi31 : i < 2 ^ 31 := by omega
  set len := min P.toNat (c.length - i * P.toNat) with hlen
  have hrest : len ≤ s.reader.body.rest.length := by
    rw [hs.rest, List.length_drop]
    omega
  rw [knownPieceSize_at (by omega) hL' hi31 hip]
  unfold processPieceFromSource
  refine ⟨_, _, ?_, ?_, ?_, TaskStore.writePiece_fresh md5 sha256 calculateDigest
    (hs.pieces_self hi31) hgood (UInt32.toUInt64_toInt64_ofNat (by omega)) (by omega) (by omega)
    hrest⟩
  · rfl
  -- the new piece sits at key `i`; every other key keeps its lookup
  · intro j hj
    by_cases hji : j = i
    · subst hji
      rw [TaskStore.pieces_setPiece_self, if_pos (Nat.lt_succ_self j), Option.map_some, hs.rest,
        take_drop_eq_pieceBytes]
      simp [storedMd5]
    · have hne : Int32.ofNat j ≠ Int32.ofNat i := fun h =>
        hji ((Int32.ofNat_eq_ofNat_iff hj hi31).mp h)
      rw [TaskStore.pieces_setPiece_of_ne _ hne, hs.pieces j hj]
      by_cases hji' : j < i
      · rw [if_pos hji', if_pos (by omega)]
      · rw [if_neg hji', if_neg (by omega)]
  · exact hs.sign

/-- Writing piece `i`, when its read fails the digest check, stores nothing and fails. -/
theorem knownPiece_digestNotMatch {i : ℕ} {s : Run α}
    (hs : KnownAfter md5 calculateDigest c P T expected eof i s)
    (hP : 0 < P.toNat) (hL' : c.length < 2 ^ 62) (hN : ceilPieces c.length P.toNat < 2 ^ 31)
    (hi : i < ceilPieces c.length P.toNat) (gen : Int64 → Int32 × Bool)
    (hbad : (s.reader.read md5 (min P.toNat (c.length - i * P.toNat))).2.2 = true) :
    processPieceFromSource md5 sha256 calculateDigest s.store s.reader (Int64.ofNat c.length)
        (Int32.ofNat i) (pieceOffset (Int32.ofNat i) P)
        (knownPieceSize (Int64.ofNat c.length) (pieceOffset (Int32.ofNat i) P) P) gen =
      ((s.store, (s.reader.read md5 (min P.toNat (c.length - i * P.toNat))).2.1),
        .error .digestNotMatch) := by
  have hip := (lt_ceilPieces_iff hP).mp hi
  have hP32 := P.toNat_lt
  have hi31 : i < 2 ^ 31 := by omega
  rw [knownPieceSize_at (by omega) hL' hi31 hip]
  exact TaskStore.writePiece_digestNotMatch md5 sha256 calculateDigest (hs.pieces_self hi31) hbad
    (UInt32.toUInt64_toInt64_ofNat (by omega)) (by omega)

theorem knownLengthLoop_of_not_lt {contentLength : Int64} {maxPieceNum pieceNum : Int32}
    {s : Run α} (rounds : ℕ) (h : ¬ pieceNum < maxPieceNum) :
    knownLengthLoop md5 sha256 calculateDigest contentLength P maxPieceNum rounds pieceNum s =
      (s, .ok ()) := by
  cases rounds with
  | zero => rfl
  | succ rounds => rw [knownLengthLoop, if_neg h]

/-- A round whose write succeeds with the whole size of its piece publishes the piece, after
the store has recorded the piece count for the last one, and goes on with the next piece. -/
theorem knownLengthLoop_round {contentLength : Int64} {maxPieceNum pieceNum : Int32}
    {s : Run α} {t : TaskStore} {r : DigestReader α} {n : Int64} (rounds : ℕ)
    (hlt : pieceNum < maxPieceNum)
    (hwrite : processPieceFromSource md5 sha256 calculateDigest s.store s.reader contentLength
        pieceNum (pieceOffset pieceNum P) (knownPieceSize contentLength (pieceOffset pieceNum P) P)
        (fun _ => (maxPieceNum, decide (pieceNum = maxPieceNum - 1))) = ((t, r), .ok n))
    (hn : n = (knownPieceSize contentLength (pieceOffset pieceNum P) P).toUInt64.toInt64) :
    knownLengthLoop md5 sha256 calculateDigest contentLength P maxPieceNum (rounds + 1) pieceNum s =
      let published := s.pt.publishPieceInfo calculateDigest sha256
        (if pieceNum = maxPieceNum - 1 then t.updateTask contentLength maxPieceNum [] else t)
        pieceNum n.toUInt64.toUInt32
      knownLengthLoop md5 sha256 calculateDigest contentLength P maxPieceNum rounds (pieceNum + 1)
        ⟨published.1, published.2, r⟩ := by
  rw [knownLengthLoop, if_pos hlt]
  dsimp only
  rw [hwrite]
  dsimp only
  rw [if_neg (fun h => h hn)]

/-- A round whose write fails ends the loop with the store's error. -/
theorem knownLengthLoop_round_error {contentLength : Int64} {maxPieceNum pieceNum : Int32}
    {s : Run α} {t : TaskStore} {r : DigestReader α} {e : StoreError} (rounds : ℕ)
    (hlt : pieceNum < maxPieceNum)
    (hwrite : processPieceFromSource md5 sha256 calculateDigest s.store s.reader contentLength
        pieceNum (pieceOffset pieceNum P) (knownPieceSize contentLength (pieceOffset pieceNum P) P)
        (fun _ => (maxPieceNum, decide (pieceNum = maxPieceNum - 1))) = ((t, r), .error e)) :
    knownLengthLoop md5 sha256 calculateDigest contentLength P maxPieceNum (rounds + 1) pieceNum s =
      (⟨s.pt, t, r⟩, .error (.store e)) := by
  rw [knownLengthLoop, if_pos hlt]
  dsimp only
  rw [hwrite]

/-- A round before the last writes and publishes piece `i` and goes on with piece `i + 1`. Its
read stops before the end of the body, so the digest is not checked. -/
theorem knownLengthLoop_step {i : ℕ} {s : Run α} (rounds : ℕ)
    (hs : KnownAfter md5 calculateDigest c P T expected eof i s)
    (hP : 0 < P.toNat) (hL' : c.length < 2 ^ 62) (hN : ceilPieces c.length P.toNat < 2 ^ 31)
    (hi : i + 1 < ceilPieces c.length P.toNat) :
    ∃ s', knownLengthLoop md5 sha256 calculateDigest (Int64.ofNat c.length) P
        (Int32.ofNat (ceilPieces c.length P.toNat)) (rounds + 1) (Int32.ofNat i) s =
      knownLengthLoop md5 sha256 calculateDigest (Int64.ofNat c.length) P
        (Int32.ofNat (ceilPieces c.length P.toNat)) rounds (Int32.ofNat (i + 1)) s' ∧
      KnownAfter md5 calculateDigest c P T expected eof (i + 1) s' := by
  set N := ceilPieces c.length P.toNat with hNdef
  have hip1 : i * P.toNat + P.toNat < c.length := by
    have := (lt_ceilPieces_iff hP).mp hi
    rwa [Nat.add_mul, Nat.one_mul] at this
  have hP32 := P.toNat_lt
  have hi31 : i < 2 ^ 31 := by omega
  have hlen : min P.toNat (c.length - i * P.toNat) = P.toNat := Nat.min_eq_left (by omega)
  have hgood : (s.reader.read md5 (min P.toNat (c.length - i * P.toNat))).2.2 = false := by
    rw [hlen]
    apply DigestReader.read_before_end
    rw [hs.rest, List.length_drop]
    omega
  have hnotlast : decide (Int32.ofNat i = Int32.ofNat N - 1) = false := by
    rw [decide_eq_false_iff_not, Int32.ofNat_eq_ofNat_sub_one_iff hi31 hN (by omega)]
    omega
  obtain ⟨t₀, req, hreq, hpieces, hsign, hwrite⟩ := knownPiece_write sha256 hs hP hL' hN (by omega)
    (fun _ => (Int32.ofNat N, decide (Int32.ofNat i = Int32.ofNat N - 1))) hgood
  rw [hlen, TaskStore.genDigest_of_not_gen sha256 hreq (by rw [hnotlast])] at hwrite
  have hsize := knownPieceSize_at (show 0 < c.length by omega) hL' hi31 (show i * P.toNat < c.length by omega)
  rw [hlen] at hsize
  have hlt : Int32.ofNat i < Int32.ofNat N := (Int32.ofNat_lt_ofNat_iff hi31 hN).mpr (by omega)
  have hcount : s.pt.completedLength + (UInt32.ofNat P.toNat).toUInt64.toInt64 =
      Int64.ofNat ((i + 1) * P.toNat) := by
    rw [hs.completed_add hP32, Nat.add_mul, Nat.one_mul]
  have hnotdone : s.pt.completedLength + (UInt32.ofNat P.toNat).toUInt64.toInt64 ≠
      s.pt.contentLength := by
    rw [hcount, hs.contentLength, Nat.add_mul, Nat.one_mul, Ne,
      Int64.ofNat_eq_ofNat_iff (by omega) (by omega)]
    omega
  have hsucc : Int32.ofNat (i + 1) = Int32.ofNat i + 1 := by
    rw [Int32.ofNat_add]
    rfl
  refine ⟨⟨{ s.pt with
      readyPieces := s.pt.readyPieces ++ [Int32.ofNat i]
      completedLength := s.pt.completedLength + (UInt32.ofNat P.toNat).toUInt64.toInt64 }, t₀,
      (s.reader.read md5 P.toNat).2.1⟩, ?_, ?_⟩
  · rw [knownLengthLoop_round sha256 rounds hlt hwrite
      (by rw [hsize, UInt32.toUInt64_toInt64_ofNat hP32])]
    dsimp only
    rw [if_neg (of_decide_eq_false hnotlast), Int64.toUInt64_toUInt32_ofNat,
      Conductor.publishPieceInfo_of_not_completed calculateDigest sha256 (hs.not_mem_ready hi31)
        hnotdone, hsucc]
  · exact {
      contentLength := hs.contentLength
      completed := hcount
      ready := by rw [hs.ready, List.range_succ, List.map_append]; rfl
      status := hs.status
      totalPiece := hs.totalPiece
      digest := hs.digest
      rest := by
        rw [DigestReader.rest_read, hs.rest, List.drop_drop, Nat.add_mul, Nat.one_mul]
      eofWithLast := by rw [DigestReader.eofWithLast_read, hs.eofWithLast]
      expected := by rw [DigestReader.digest_read, hs.expected]
      hashed := by
        rw [DigestReader.hashed_read, hs.hashed, hs.rest, Nat.add_mul, Nat.one_mul, List.take_add]
      pieces := hpieces
      sign := hsign }

/-- The read of the last piece passes when the body's MD5 is the expected digest whenever the
check is made. -/
theorem KnownAfter.read_last_good {i : ℕ} {s : Run α}
    (hs : KnownAfter md5 calculateDigest c P T expected eof i s) (hip : i * P.toNat < c.length)
    (hcheck : eof = true → expected ≠ [] → md5 c = expected) :
    (s.reader.read md5 (c.length - i * P.toNat)).2.2 = false := by
  rw [hs.read_last hip]
  cases eof with
  | false => rfl
  | true =>
    by_cases hexp : expected = []
    · simp [hexp]
    · simp [hcheck rfl hexp]

/-- What `done` meets after the last write: the store that the callback signed with the
`ceil(L / P)` pieces the run recorded, and that the loop gave the content length and the count,
updated by `UpdateStorage` of a conductor with no count or signature of its own. It counts the
pieces, carries the signature of their digests, and passes validation. -/
theorem validate_last_store (pt : Conductor) {t₀ : TaskStore}
    (hN : ceilPieces c.length P.toNat < 2 ^ 31) (hNpos : 0 < ceilPieces c.length P.toNat)
    (hT : ¬ 0 < pt.totalPiece) (hdigest : pt.digest = [])
    (hpieces : ∀ j < ceilPieces c.length P.toNat, (t₀.pieces (Int32.ofNat j)).map (·.md5) =
      some (storedMd5 md5 calculateDigest (pieceBytes c P.toNat j)))
    (hsha : calculateDigest = true → ∀ values, values ≠ [] → sha256 values ≠ []) :
    let t₃ := Conductor.updateStorage pt
      (({ t₀ with
        totalPieces := Int32.ofNat (ceilPieces c.length P.toNat)
        pieceMd5Sign := sha256
          { t₀ with totalPieces := Int32.ofNat (ceilPieces c.length P.toNat) }.pieceDigests } :
        TaskStore).updateTask (Int64.ofNat c.length) (Int32.ofNat (ceilPieces c.length P.toNat)) [])
    Conductor.validate calculateDigest sha256 pt t₃ = (t₃, .ok ()) ∧
      t₃.totalPieces = Int32.ofNat (ceilPieces c.length P.toNat) ∧
      t₃.pieceMd5Sign = sha256 (knownDigests md5 calculateDigest c P) := by
  intro t₃
  have hNpos' : (0 : Int32) < Int32.ofNat (ceilPieces c.length P.toNat) := by
    rw [show (0 : Int32) = Int32.ofNat 0 from rfl, Int32.ofNat_lt_ofNat_iff (by decide) hN]
    exact hNpos
  -- every store with the recorded pieces and the count has the run's digests
  have hdigests : ∀ t : TaskStore, t.pieces = t₀.pieces →
      t.totalPieces = Int32.ofNat (ceilPieces c.length P.toNat) →
      t.pieceDigests = knownDigests md5 calculateDigest c P := by
    intro t hpieces' htotal
    apply TaskStore.pieceDigests_eq htotal hN
    intro j hj
    rw [hpieces', hpieces j hj]
  have htotal : t₃.totalPieces = Int32.ofNat (ceilPieces c.length P.toNat) := by
    simp only [t₃]
    rw [Conductor.updateStorage, TaskStore.totalPieces_updateTask_of_not_pos _ hT,
      TaskStore.totalPieces_updateTask _ hNpos']
  have hsign : t₃.pieceMd5Sign = sha256 (knownDigests md5 calculateDigest c P) := by
    simp only [t₃]
    rw [Conductor.updateStorage, hdigest, TaskStore.pieceMd5Sign_updateTask_nil,
      TaskStore.pieceMd5Sign_updateTask_nil]
    show sha256 ({ t₀ with totalPieces := Int32.ofNat (ceilPieces c.length P.toNat) } :
      TaskStore).pieceDigests = _
    rw [hdigests { t₀ with totalPieces := Int32.ofNat (ceilPieces c.length P.toNat) } rfl rfl]
  refine ⟨?_, htotal, hsign⟩
  apply Conductor.validate_ok calculateDigest sha256 hT
  intro hcalc
  have hne : knownDigests md5 calculateDigest c P ≠ [] := by
    simp [knownDigests]
    omega
  refine ⟨?_, by rw [htotal]; exact hNpos', ?_⟩
  · rw [hsign]
    exact hsha hcalc _ hne
  · rw [hsign, hdigests t₃ rfl htotal]

/-- The last round, when its read passes the digest check, writes the last piece, whose
callback has the store record the piece count and sign the digests; publishing it completes
the task and runs `done`, whose validation passes; the loop then ends. -/
theorem knownLengthLoop_last {i : ℕ} {s : Run α} (rounds : ℕ)
    (hs : KnownAfter md5 calculateDigest c P T expected eof i s)
    (hP : 0 < P.toNat) (hL' : c.length < 2 ^ 62) (hN : ceilPieces c.length P.toNat < 2 ^ 31)
    (hi : i + 1 = ceilPieces c.length P.toNat) (hT : ¬ 0 < T)
    (hsha : calculateDigest = true → ∀ values, values ≠ [] → sha256 values ≠ [])
    (hcheck : eof = true → expected ≠ [] → md5 c = expected) :
    ∃ s', knownLengthLoop md5 sha256 calculateDigest (Int64.ofNat c.length) P
        (Int32.ofNat (ceilPieces c.length P.toNat)) (rounds + 1) (Int32.ofNat i) s = (s', .ok ()) ∧
      KnownFinished md5 sha256 calculateDigest c P T s'.pt s'.store := by
  obtain ⟨hip, hend⟩ := ceilPieces_last hP hi
  set N := ceilPieces c.length P.toNat with hNdef
  have hP32 := P.toNat_lt
  have hi31 : i < 2 ^ 31 := by omega
  have hlen : min P.toNat (c.length - i * P.toNat) = c.length - i * P.toNat :=
    Nat.min_eq_right (by omega)
  have hgood : (s.reader.read md5 (min P.toNat (c.length - i * P.toNat))).2.2 = false := by
    rw [hlen]
    exact hs.read_last_good hip hcheck
  have hlast : decide (Int32.ofNat i = Int32.ofNat N - 1) = true := by
    rw [decide_eq_true_iff, Int32.ofNat_eq_ofNat_sub_one_iff hi31 hN (by omega)]
    exact hi
  obtain ⟨t₀, req, hreq, hpieces, hsign, hwrite⟩ := knownPiece_write sha256 hs hP hL' hN (by omega)
    (fun _ => (Int32.ofNat N, decide (Int32.ofNat i = Int32.ofNat N - 1))) hgood
  rw [hlen, TaskStore.genDigest_of_gen sha256 hreq hsign (by rw [hlast])] at hwrite
  have hsize := knownPieceSize_at (show 0 < c.length by omega) hL' hi31 hip
  rw [hlen] at hsize
  have hlen32 : c.length - i * P.toNat < 2 ^ 32 := by omega
  have hlt : Int32.ofNat i < Int32.ofNat N := (Int32.ofNat_lt_ofNat_iff hi31 hN).mpr (by omega)
  have hcomplete : s.pt.completedLength + (UInt32.ofNat (c.length - i * P.toNat)).toUInt64.toInt64 =
      s.pt.contentLength := by
    rw [hs.completed_add hlen32, hs.contentLength, Nat.add_sub_cancel' hip.le]
  -- the store after the write, the piece count of the loop, and `done`'s `UpdateStorage`
  set t₁ : TaskStore := { t₀ with
    totalPieces := Int32.ofNat N
    pieceMd5Sign := sha256 { t₀ with totalPieces := Int32.ofNat N }.pieceDigests } with ht₁
  set pt' : Conductor := { s.pt with
    readyPieces := s.pt.readyPieces ++ [Int32.ofNat i]
    completedLength :=
      s.pt.completedLength + (UInt32.ofNat (c.length - i * P.toNat)).toUInt64.toInt64 } with hpt'
  set t₃ := Conductor.updateStorage pt' (t₁.updateTask (Int64.ofNat c.length) (Int32.ofNat N) [])
    with ht₃
  -- `done` validates the store the last write signed
  obtain ⟨hvalid, htotal₃, hsign₃⟩ := validate_last_store sha256 pt' hN (by omega)
    (by rw [hpt', hs.totalPiece]; exact hT) hs.digest
    (fun j hj => by rw [hpieces j (by omega), if_pos (by omega)]) hsha
  have hsucc : Int32.ofNat i + 1 = Int32.ofNat N := by
    rw [← hi, Int32.ofNat_add]
    rfl
  refine ⟨⟨{ pt' with
      status := some .succeeded
      peerResult := some ⟨pt'.contentLength, pt'.totalPiece, true, .success⟩ }, t₃,
      (s.reader.read md5 (c.length - i * P.toNat)).2.1⟩, ?_, ?_⟩
  · rw [knownLengthLoop_round sha256 rounds hlt hwrite
      (by rw [hsize, UInt32.toUInt64_toInt64_ofNat hlen32])]
    dsimp only
    rw [if_pos (of_decide_eq_true hlast), Int64.toUInt64_toUInt32_ofNat,
      Conductor.publishPieceInfo_of_completed calculateDigest sha256 (hs.not_mem_ready hi31)
        hcomplete hs.status,
      Conductor.done_of_validate_ok calculateDigest sha256 hvalid, hsucc,
      knownLengthLoop_of_not_lt sha256 _ Int32.lt_irrefl]
  · exact {
      status := rfl
      peerResult := by rw [hs.contentLength, hs.totalPiece]
      totalPieces := htotal₃
      sign := hsign₃ }

/-- The last round, when the body sends `io.EOF` with its last bytes and their MD5 is not the
expected digest, fails the read: nothing is stored or published and the loop ends with
`ErrDigestNotMatch`. -/
theorem knownLengthLoop_last_digestNotMatch {i : ℕ} {s : Run α} (rounds : ℕ)
    (hs : KnownAfter md5 calculateDigest c P T expected true i s)
    (hP : 0 < P.toNat) (hL' : c.length < 2 ^ 62) (hN : ceilPieces c.length P.toNat < 2 ^ 31)
    (hi : i + 1 = ceilPieces c.length P.toNat) (hexp : expected ≠ []) (hmd5 : md5 c ≠ expected) :
    knownLengthLoop md5 sha256 calculateDigest (Int64.ofNat c.length) P
        (Int32.ofNat (ceilPieces c.length P.toNat)) (rounds + 1) (Int32.ofNat i) s =
      (⟨s.pt, s.store, (s.reader.read md5 (c.length - i * P.toNat)).2.1⟩,
        .error (.store .digestNotMatch)) := by
  obtain ⟨hip, hend⟩ := ceilPieces_last hP hi
  have hlen : min P.toNat (c.length - i * P.toNat) = c.length - i * P.toNat :=
    Nat.min_eq_right (by omega)
  have hbad : (s.reader.read md5 (min P.toNat (c.length - i * P.toNat))).2.2 = true := by
    rw [hlen, hs.read_last hip]
    simp [hexp, hmd5]
  have hlt : Int32.ofNat i < Int32.ofNat (ceilPieces c.length P.toNat) :=
    (Int32.ofNat_lt_ofNat_iff (by omega) hN).mpr (by omega)
  have hwrite := knownPiece_digestNotMatch sha256 hs hP hL' hN (by omega)
    (fun _ => (Int32.ofNat (ceilPieces c.length P.toNat),
      decide (Int32.ofNat i = Int32.ofNat (ceilPieces c.length P.toNat) - 1))) hbad
  rw [hlen] at hwrite
  exact knownLengthLoop_round_error sha256 rounds hlt hwrite

/-- From any piece `i` before the end, with rounds for the pieces left, the loop runs to its
last piece. -/
theorem knownLengthLoop_to_last {i : ℕ} {s : Run α} (rounds : ℕ)
    (hs : KnownAfter md5 calculateDigest c P T expected eof i s)
    (hP : 0 < P.toNat) (hL' : c.length < 2 ^ 62) (hN : ceilPieces c.length P.toNat < 2 ^ 31)
    (hi : i < ceilPieces c.length P.toNat) (hrounds : ceilPieces c.length P.toNat - i ≤ rounds) :
    ∃ s' k, KnownAfter md5 calculateDigest c P T expected eof (ceilPieces c.length P.toNat - 1) s' ∧
      knownLengthLoop md5 sha256 calculateDigest (Int64.ofNat c.length) P
          (Int32.ofNat (ceilPieces c.length P.toNat)) rounds (Int32.ofNat i) s =
        knownLengthLoop md5 sha256 calculateDigest (Int64.ofNat c.length) P
          (Int32.ofNat (ceilPieces c.length P.toNat)) (k + 1)
          (Int32.ofNat (ceilPieces c.length P.toNat - 1)) s' := by
  -- induction on the rounds left, each round moving from piece `i` to piece `i + 1`
  induction rounds generalizing i s with
  | zero => omega
  | succ rounds ih =>
    by_cases hlast : i + 1 = ceilPieces c.length P.toNat
    · have hi' : ceilPieces c.length P.toNat - 1 = i := by omega
      rw [hi']
      exact ⟨s, rounds, hs, rfl⟩
    · obtain ⟨s', hround, hs'⟩ := knownLengthLoop_step sha256 rounds hs hP hL' hN (by omega)
      rw [hround]
      exact ih hs' (by omega) (by omega)

/-- From any piece `i` before the end, with rounds for the pieces left, the loop finishes
when the last read passes the digest check. -/
theorem knownLengthLoop_finishes {i : ℕ} {s : Run α} (rounds : ℕ)
    (hs : KnownAfter md5 calculateDigest c P T expected eof i s)
    (hP : 0 < P.toNat) (hL' : c.length < 2 ^ 62) (hN : ceilPieces c.length P.toNat < 2 ^ 31)
    (hi : i < ceilPieces c.length P.toNat) (hrounds : ceilPieces c.length P.toNat - i ≤ rounds)
    (hT : ¬ 0 < T) (hsha : calculateDigest = true → ∀ values, values ≠ [] → sha256 values ≠ [])
    (hcheck : eof = true → expected ≠ [] → md5 c = expected) :
    ∃ s', knownLengthLoop md5 sha256 calculateDigest (Int64.ofNat c.length) P
        (Int32.ofNat (ceilPieces c.length P.toNat)) rounds (Int32.ofNat i) s = (s', .ok ()) ∧
      KnownFinished md5 sha256 calculateDigest c P T s'.pt s'.store := by
  obtain ⟨s', k, hs', hloop⟩ := knownLengthLoop_to_last sha256 rounds hs hP hL' hN hi hrounds
  rw [hloop]
  exact knownLengthLoop_last sha256 k hs' hP hL' hN (by omega) hT hsha hcheck

/-- From any piece `i` before the end, the loop fails with `ErrDigestNotMatch` at the last
piece when the body sends `io.EOF` with its last bytes and their MD5 is not the expected
digest; the conductor stays as the last round found it. -/
theorem knownLengthLoop_rejects {i : ℕ} {s : Run α} (rounds : ℕ)
    (hs : KnownAfter md5 calculateDigest c P T expected true i s)
    (hP : 0 < P.toNat) (hL' : c.length < 2 ^ 62) (hN : ceilPieces c.length P.toNat < 2 ^ 31)
    (hi : i < ceilPieces c.length P.toNat) (hrounds : ceilPieces c.length P.toNat - i ≤ rounds)
    (hexp : expected ≠ []) (hmd5 : md5 c ≠ expected) :
    ∃ s', knownLengthLoop md5 sha256 calculateDigest (Int64.ofNat c.length) P
        (Int32.ofNat (ceilPieces c.length P.toNat)) rounds (Int32.ofNat i) s =
        (s', .error (.store .digestNotMatch)) ∧
      s'.pt.status = none ∧ s'.pt.contentLength = Int64.ofNat c.length ∧ s'.pt.totalPiece = T := by
  obtain ⟨s', k, hs', hloop⟩ := knownLengthLoop_to_last sha256 rounds hs hP hL' hN hi hrounds
  rw [hloop, knownLengthLoop_last_digestNotMatch sha256 k hs' hP hL' hN (by omega) hexp hmd5]
  exact ⟨_, rfl, hs'.status, hs'.contentLength, hs'.totalPiece⟩

end Loop

/-! ### The whole back-to-source run -/

section Run

variable (md5 : List α → List Char) (sha256 : List (List Char) → List Char)
  (calculateDigest : Bool)

/-- The run as `downloadKnownLengthSource` starts its loop over a body of `L ≥ 0` bytes whose
length the source reports, from a fresh conductor. -/
theorem backSource_knownLength_start (peerID : List Char) (c : List α) (eof : Bool)
    (expected : List Char) :
    KnownAfter md5 calculateDigest c (computePieceSize (Int64.ofNat c.length)) (-1)
      (if calculateDigest then expected else []) eof 0
      ⟨{ Conductor.new peerID with contentLength := Int64.ofNat c.length },
        (TaskStore.createTask peerID (-1) (-1) []).updateTask (Int64.ofNat c.length) 0 [],
        newDigestReader ⟨c, eof⟩ (if calculateDigest then expected else [])⟩ where
  contentLength := rfl
  completed := by rw [Nat.zero_mul]; rfl
  ready := rfl
  status := rfl
  totalPiece := rfl
  digest := rfl
  rest := by rw [Nat.zero_mul, List.drop_zero]; rfl
  eofWithLast := rfl
  expected := rfl
  hashed := by rw [Nat.zero_mul, List.take_zero]; rfl
  pieces := fun j _ => by simp [TaskStore.createTask, TaskStore.updateTask]
  sign := rfl

/-- `backSource` of a body of known length `L` from a fresh conductor is the piece loop
over `ceil(L / P)` pieces from that start, followed by `Done` or a cancel. -/
theorem backSource_knownLength_eq (peerID : List Char) (c : List α) (eof : Bool)
    (expected : List Char) (hL' : c.length < 2 ^ 63)
    (hN : ceilPieces c.length (computePieceSize (Int64.ofNat c.length)).toNat < 2 ^ 31) :
    backSource md5 sha256 calculateDigest (Conductor.new peerID) none ⟨c, eof⟩
        (Int64.ofNat c.length) expected =
      match knownLengthLoop md5 sha256 calculateDigest (Int64.ofNat c.length)
          (computePieceSize (Int64.ofNat c.length))
          (Int32.ofNat (ceilPieces c.length (computePieceSize (Int64.ofNat c.length)).toNat))
          (ceilPieces c.length (computePieceSize (Int64.ofNat c.length)).toNat) (Int32.ofNat 0)
          ⟨{ Conductor.new peerID with contentLength := Int64.ofNat c.length },
            (TaskStore.createTask peerID (-1) (-1) []).updateTask (Int64.ofNat c.length) 0 [],
            newDigestReader ⟨c, eof⟩ (if calculateDigest then expected else [])⟩ with
      | (s, .error _) => (s.pt.cancel .clientError, s.store)
      | (s, .ok ()) => s.pt.doneOnce calculateDigest sha256 s.store := by
  have hnotneg : ¬ Int64.ofNat c.length < 0 := by
    rw [show (0 : Int64) = Int64.ofNat 0 from rfl, Int64.ofNat_lt_ofNat_iff hL' (by decide)]
    omega
  unfold backSource downloadSource downloadKnownLengthSource
  dsimp only
  rw [if_neg hnotneg, if_neg hnotneg, pieceCount_ofNat hL', Int32.toInt_ofNat_of_lt hN,
    Int.toNat_natCast]
  rfl

/-- A fresh conductor goes back to source for a body of `L > 0` bytes whose length the source
reports, in pieces of the computed size, and the last read passes the digest check: the run
finishes as `KnownFinished` says, with the conductor's total piece count `-1`. -/
theorem backSource_knownLength_finished (peerID : List Char) (c : List α) (eof : Bool)
    (expected : List Char) (hL : 0 < c.length) (hL' : c.length < 2 ^ 50)
    (hsha : calculateDigest = true → ∀ values, values ≠ [] → sha256 values ≠ [])
    (hcheck : calculateDigest = true → eof = true → expected ≠ [] → md5 c = expected) :
    KnownFinished md5 sha256 calculateDigest c (computePieceSize (Int64.ofNat c.length)) (-1)
        (backSource md5 sha256 calculateDigest (Conductor.new peerID) none ⟨c, eof⟩
          (Int64.ofNat c.length) expected).1
        (backSource md5 sha256 calculateDigest (Conductor.new peerID) none ⟨c, eof⟩
          (Int64.ofNat c.length) expected).2 := by
  have hstart := backSource_knownLength_start md5 calculateDigest peerID c eof expected
  have hrun := backSource_knownLength_eq md5 sha256 calculateDigest peerID c eof expected
  set P := computePieceSize (Int64.ofNat c.length) with hPdef
  have hP : 4 * 1024 * 1024 ≤ P.toNat := computePieceSize_ge (by omega)
  have hN : ceilPieces c.length P.toNat < 2 ^ 31 := by
    rw [ceilPieces, Nat.div_lt_iff_lt_mul (by omega)]
    omega
  have hpos : 0 < ceilPieces c.length P.toNat := (lt_ceilPieces_iff (by omega)).mpr (by omega)
  -- the reader expects a digest only when the piece manager calculates one
  have hcheck' : eof = true → (if calculateDigest then expected else []) ≠ [] →
      md5 c = if calculateDigest then expected else [] := by
    intro heof hexp
    cases calculateDigest with
    | false => exact absurd rfl hexp
    | true => exact hcheck rfl heof hexp
  obtain ⟨s', hloop, hfin⟩ := knownLengthLoop_finishes sha256 (ceilPieces c.length P.toNat) hstart
    (by omega) (by omega) hN hpos (by omega) (by decide) hsha hcheck'
  rw [hrun (by omega) hN, hloop]
  dsimp only
  rw [Conductor.doneOnce_of_status calculateDigest sha256 hfin.status]
  exact hfin

/-- A fresh conductor goes back to source for a body of `L > 0` bytes whose length the source
reports, with no expected digest, in pieces of the computed size: `successCh` is closed,
the store counts `ceil(L / P) > 0` pieces and signs their digests, and the `PeerResult`
reports success with the content length, but with the conductor's total piece count `-1`,
which this path never sets. -/
theorem backSource_knownLength_totalPieceCount_unset (peerID : List Char) (c : List α)
    (eof : Bool) (hL : 0 < c.length) (hL' : c.length < 2 ^ 50)
    (hsha : calculateDigest = true → ∀ values, values ≠ [] → sha256 values ≠ []) :
    KnownFinished md5 sha256 calculateDigest c (computePieceSize (Int64.ofNat c.length)) (-1)
        (backSource md5 sha256 calculateDigest (Conductor.new peerID) none ⟨c, eof⟩
          (Int64.ofNat c.length) []).1
        (backSource md5 sha256 calculateDigest (Conductor.new peerID) none ⟨c, eof⟩
          (Int64.ofNat c.length) []).2 ∧
      0 < ceilPieces c.length (computePieceSize (Int64.ofNat c.length)).toNat := by
  have hP : 4 * 1024 * 1024 ≤ (computePieceSize (Int64.ofNat c.length)).toNat :=
    computePieceSize_ge (by omega)
  refine ⟨backSource_knownLength_finished md5 sha256 calculateDigest peerID c eof [] hL hL' hsha
    (fun _ _ hexp => absurd rfl hexp), ?_⟩
  exact (lt_ceilPieces_iff (by omega)).mpr (by omega)

theorem backSource_knownLength_totalPieceCount_unset_ten :
    KnownFinished (fun _ => "m".toList) (fun _ => "s".toList) true (List.replicate 10 (0 : UInt8))
        (computePieceSize (Int64.ofNat (List.replicate 10 (0 : UInt8)).length)) (-1)
        (backSource (fun _ => "m".toList) (fun _ => "s".toList) true (Conductor.new []) none
          ⟨List.replicate 10 (0 : UInt8), true⟩ (Int64.ofNat (List.replicate 10 (0 : UInt8)).length) []).1
        (backSource (fun _ => "m".toList) (fun _ => "s".toList) true (Conductor.new []) none
          ⟨List.replicate 10 (0 : UInt8), true⟩ (Int64.ofNat (List.replicate 10 (0 : UInt8)).length) []).2 ∧
      0 < ceilPieces (List.replicate 10 (0 : UInt8)).length
        (computePieceSize (Int64.ofNat (List.replicate 10 (0 : UInt8)).length)).toNat :=
  backSource_knownLength_totalPieceCount_unset _ _ true [] (List.replicate 10 0) true (by decide)
    (by decide) (fun _ _ _ => by simp)

/-- With digests on, a body of known length `L > 0` that sends `io.EOF` only on a read after
its last bytes is never checked against the expected digest: the run finishes as
`KnownFinished` says, whatever digest the request expects. -/
theorem backSource_knownLength_eof_apart_ignores_digest (peerID : List Char) (c : List α)
    (expected : List Char) (hL : 0 < c.length) (hL' : c.length < 2 ^ 50)
    (hsha : ∀ values, values ≠ [] → sha256 values ≠ []) :
    KnownFinished md5 sha256 true c (computePieceSize (Int64.ofNat c.length)) (-1)
        (backSource md5 sha256 true (Conductor.new peerID) none ⟨c, false⟩
          (Int64.ofNat c.length) expected).1
        (backSource md5 sha256 true (Conductor.new peerID) none ⟨c, false⟩
          (Int64.ofNat c.length) expected).2 :=
  backSource_knownLength_finished md5 sha256 true peerID c false expected hL hL'
    (fun _ => hsha) (fun _ heof => absurd heof (by decide))

theorem backSource_knownLength_eof_apart_ignores_digest_three :
    KnownFinished (fun _ => "00".toList) (fun _ => "s".toList) true (List.replicate 3 (0 : UInt8))
        (computePieceSize (Int64.ofNat (List.replicate 3 (0 : UInt8)).length)) (-1)
        (backSource (fun _ => "00".toList) (fun _ => "s".toList) true (Conductor.new []) none
          ⟨List.replicate 3 (0 : UInt8), false⟩ (Int64.ofNat (List.replicate 3 (0 : UInt8)).length)
          "md5:ff".toList).1
        (backSource (fun _ => "00".toList) (fun _ => "s".toList) true (Conductor.new []) none
          ⟨List.replicate 3 (0 : UInt8), false⟩ (Int64.ofNat (List.replicate 3 (0 : UInt8)).length)
          "md5:ff".toList).2 :=
  backSource_knownLength_eof_apart_ignores_digest _ _ [] (List.replicate 3 0) "md5:ff".toList
    (by decide) (by decide) (fun _ _ => by simp)

/-- With digests on, a fresh conductor goes back to source for a body of `L > 0` bytes whose
length the source reports and which sends `io.EOF` with its last bytes, expecting a digest
that is not the MD5 of the body: the last read fails, the task is cancelled, `failCh` is
closed and the `PeerResult` reports the client error. -/
theorem backSource_knownLength_digestNotMatch (peerID : List Char) (c : List α)
    (expected : List Char) (hL : 0 < c.length) (hL' : c.length < 2 ^ 50) (hexp : expected ≠ [])
    (hmd5 : md5 c ≠ expected) :
    (backSource md5 sha256 true (Conductor.new peerID) none ⟨c, true⟩
        (Int64.ofNat c.length) expected).1.status = some .failed ∧
      (backSource md5 sha256 true (Conductor.new peerID) none ⟨c, true⟩
        (Int64.ofNat c.length) expected).1.peerResult =
        some ⟨Int64.ofNat c.length, -1, false, .clientError⟩ := by
  have hstart := backSource_knownLength_start md5 true peerID c true expected
  have hrun := backSource_knownLength_eq md5 sha256 true peerID c true expected
  set P := computePieceSize (Int64.ofNat c.length) with hPdef
  have hP : 4 * 1024 * 1024 ≤ P.toNat := computePieceSize_ge (by omega)
  have hN : ceilPieces c.length P.toNat < 2 ^ 31 := by
    rw [ceilPieces, Nat.div_lt_iff_lt_mul (by omega)]
    omega
  have hpos : 0 < ceilPieces c.length P.toNat := (lt_ceilPieces_iff (by omega)).mpr (by omega)
  obtain ⟨s', hloop, hstatus, hlength, htotal⟩ := knownLengthLoop_rejects sha256
    (ceilPieces c.length P.toNat) hstart (by omega) (by omega) hN hpos (by omega) hexp hmd5
  rw [hrun (by omega) hN, hloop]
  simp [Conductor.cancel, Conductor.fail, hstatus, hlength, htotal]

/-- With digests on, for a body of known length `L > 0` that sends `io.EOF` with its last
bytes, the back-to-source run succeeds exactly when the request expects no digest or the bare
MD5 hex of the body; under any other expected digest it fails. -/
theorem backSource_knownLength_succeeded_iff (peerID : List Char) (c : List α)
    (expected : List Char) (hL : 0 < c.length) (hL' : c.length < 2 ^ 50)
    (hsha : ∀ values, values ≠ [] → sha256 values ≠ []) :
    (backSource md5 sha256 true (Conductor.new peerID) none ⟨c, true⟩
        (Int64.ofNat c.length) expected).1.status = some .succeeded ↔
      expected = [] ∨ md5 c = expected := by
  by_cases hok : expected = [] ∨ md5 c = expected
  · -- the last read passes its check, and the run finishes
    have hfin := backSource_knownLength_finished md5 sha256 true peerID c true expected hL hL'
      (fun _ => hsha) (fun _ _ hexp => hok.resolve_left hexp)
    exact iff_of_true hfin.status hok
  · -- the last read fails its check, and the run is cancelled
    obtain ⟨hexp, hmd5⟩ := not_or.mp hok
    rw [(backSource_knownLength_digestNotMatch md5 sha256 peerID c expected hL hL' hexp hmd5).1]
    exact iff_of_false (by simp) hok

theorem backSource_knownLength_succeeded_iff_bare :
    (backSource (fun _ => "00".toList) (fun _ => "s".toList) true (Conductor.new []) none
        ⟨[(0 : UInt8)], true⟩ (Int64.ofNat [(0 : UInt8)].length) "00".toList).1.status =
        some .succeeded ↔
      "00".toList = [] ∨ (fun _ => "00".toList) [(0 : UInt8)] = "00".toList :=
  backSource_knownLength_succeeded_iff _ _ [] [0] "00".toList (by decide) (by decide)
    (fun _ _ => by simp)

end Run

end Dragonfly.Daemon
