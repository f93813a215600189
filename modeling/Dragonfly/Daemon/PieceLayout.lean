import Dragonfly.Daemon.KnownLength

/-!
# The piece layout of both back-to-source loops

`downloadKnownLengthSource` (`piece_manager.go:309`) cuts a body of `L` bytes, whose length
the source reports, into `ceil(L / P)` pieces by arithmetic; `downloadUnknownLengthSource`
(`piece_manager.go:377`) reads `P` bytes at a time until a short or empty read, and computes
the length and the piece count from it afterwards. Both store piece `j` at offset `j * P` with
`min P (L - j * P)` bytes (`pieceLayout`), and the pieces tile `[0, L)` (`pieceRange_tiles`).
`LaidOut i` says what a run of either loop holds after its first `i` pieces; each round keeps
it, and the runs end with the same store pieces and the same ready pieces.

The piece count is an `int32`: from `2^31` pieces on the known-length loop runs no round at all.
-/

namespace Dragonfly.Daemon

open Dragonfly.Digest Dragonfly.Base.GoText

variable {α : Type}

/-- Piece `j` of `c` in pieces of `p` bytes as the store records it: its number, the MD5 of its
bytes when the piece manager hashes them, its offset `j * p`, and the range of
`min p (L - j * p)` bytes from there. -/
def pieceLayout (md5 : List α → List Char) (calculateDigest : Bool) (c : List α) (p j : ℕ) :
    PieceMetadata :=
  ⟨Int32.ofNat j, storedMd5 md5 calculateDigest (pieceBytes c p j), UInt64.ofNat (j * p),
    ⟨Int64.ofNat (j * p), Int64.ofNat (min p (c.length - j * p))⟩, 0⟩

/-- The pieces of a store that holds exactly pieces `0, ..., i - 1` of `c`, each under its
number. -/
def layoutPieces (md5 : List α → List Char) (calculateDigest : Bool) (c : List α) (p i : ℕ) :
    Int32 → Option PieceMetadata :=
  fun k => if 0 ≤ k.toInt ∧ k.toInt < i then some (pieceLayout md5 calculateDigest c p k.toInt.toNat)
    else none

/-- The pieces tile the body: each of the `ceil(L / p)` pieces is non-empty and ends where the
next one starts, or at `L` for the last. -/
theorem pieceRange_tiles {L p j : ℕ} (hp : 0 < p) (hj : j < ceilPieces L p) :
    0 < min p (L - j * p) ∧ j * p + min p (L - j * p) = min ((j + 1) * p) L := by
  have hjp := (lt_ceilPieces_iff hp).mp hj
  rw [Nat.add_mul, Nat.one_mul]
  constructor <;> omega

section Store

variable {md5 : List α → List Char} {calculateDigest : Bool} {c : List α} {p i : ℕ}

@[simp] theorem layoutPieces_zero : layoutPieces md5 calculateDigest c p 0 = fun _ => none := by
  funext k
  simp [layoutPieces]

/-- Piece `i` is not among the first `i`. -/
theorem layoutPieces_self (hi : i < 2 ^ 31) :
    layoutPieces md5 calculateDigest c p i (Int32.ofNat i) = none := by
  simp [layoutPieces, Int32.toInt_ofNat_of_lt hi]

/-- Storing piece `i`, as laid out, after the first `i` gives the first `i + 1`. -/
theorem layoutPieces_setPiece {t : TaskStore} {piece : PieceMetadata}
    (ht : t.pieces = layoutPieces md5 calculateDigest c p i) (hi : i < 2 ^ 31)
    (hpiece : piece = pieceLayout md5 calculateDigest c p i) :
    (t.setPiece (Int32.ofNat i) piece).pieces = layoutPieces md5 calculateDigest c p (i + 1) := by
  have hki : ∀ k : Int32, k = Int32.ofNat i ↔ k.toInt = i := fun k => by
    rw [← Int32.toInt_inj, Int32.toInt_ofNat_of_lt hi]
  funext k
  by_cases hk : k = Int32.ofNat i
  · subst hk
    rw [TaskStore.pieces_setPiece_self, hpiece]
    simp only [layoutPieces, Int32.toInt_ofNat_of_lt hi, Int.toNat_natCast]
    rw [if_pos (by omega)]
  · rw [TaskStore.pieces_setPiece_of_ne piece hk, ht]
    have hne : k.toInt ≠ i := fun h => hk ((hki k).mpr h)
    simp only [layoutPieces]
    congr 1
    apply propext
    push_cast
    omega

end Store

/-- A body of `i * p` bytes has `i` pieces. -/
theorem ceilPieces_mul {p : ℕ} (hp : 0 < p) (i : ℕ) : ceilPieces (i * p) p = i := by
  rw [ceilPieces, show i * p + p - 1 = p - 1 + p * i by rw [Nat.mul_comm]; omega,
    Nat.add_mul_div_left _ _ hp, Nat.div_eq_of_lt (by omega), Nat.zero_add]

/-- The pieces reach the end of the body. -/
theorem le_ceilPieces_mul {L p : ℕ} (hp : 0 < p) : L ≤ ceilPieces L p * p :=
  Nat.le_of_not_lt (mt (lt_ceilPieces_iff hp).mpr (Nat.lt_irrefl _))

/-! ### After the first `i` pieces -/

section Loops

variable (md5 : List α → List Char) (sha256 : List (List Char) → List Char)
  (calculateDigest : Bool) (c : List α) (P : UInt32) (expected : List Char)

/-- What a run of either loop over the body `c` in pieces of `P` bytes holds after its first `i`
pieces: the reader, expecting `expected`, is past them and has hashed them, the store holds
exactly them as laid out, and the conductor has published them in order and counted their
bytes. -/
structure LaidOut (i : ℕ) (s : Run α) : Prop where
  rest : s.reader.body.rest = c.drop (i * P.toNat)
  hashed : s.reader.hashed = c.take (i * P.toNat)
  expected : s.reader.digest = expected
  pieces : s.store.pieces = layoutPieces md5 calculateDigest c P.toNat i
  ready : s.pt.readyPieces = (List.range i).map Int32.ofNat
  completed : s.pt.completedLength = Int64.ofNat (min (i * P.toNat) c.length)

variable {md5 calculateDigest c P expected}

/-- A run starts after no piece: a fresh digest reader over the body, a conductor that has
published nothing and a store that holds no piece. -/
theorem laidOut_start {pt : Conductor} {t : TaskStore} (eof : Bool)
    (hready : pt.readyPieces = []) (hcompleted : pt.completedLength = 0)
    (hstore : t.pieces = fun _ => none) :
    LaidOut md5 calculateDigest c P expected 0 ⟨pt, t, newDigestReader ⟨c, eof⟩ expected⟩ where
  rest := by rw [Nat.zero_mul, List.drop_zero]; rfl
  hashed := by rw [Nat.zero_mul, List.take_zero]; rfl
  expected := rfl
  pieces := by rw [layoutPieces_zero]; exact hstore
  ready := hready
  completed := by rw [hcompleted, Nat.zero_mul, Nat.zero_min]; rfl

/-- No read of a run fails when the body passes its check. -/
theorem LaidOut.read_good {i : ℕ} {s : Run α} (hs : LaidOut md5 calculateDigest c P expected i s)
    (hcheck : expected = [] ∨ md5 c = expected) (k : ℕ) : (s.reader.read md5 k).2.2 = false := by
  apply DigestReader.read_of_check md5
  rw [hs.expected, hs.hashed, hs.rest, List.take_append_drop]
  exact hcheck

/-- A read of `k` bytes moves the reader to byte `n` when it ends there, or when both are past
the end of the body. -/
theorem LaidOut.read_to {i n k : ℕ} {s : Run α} (hs : LaidOut md5 calculateDigest c P expected i s)
    (hk : i * P.toNat + k = n ∨ (c.length ≤ i * P.toNat + k ∧ c.length ≤ n)) :
    (s.reader.read md5 k).2.1.body.rest = c.drop n ∧ (s.reader.read md5 k).2.1.hashed = c.take n := by
  rw [DigestReader.rest_read, DigestReader.hashed_read, hs.rest, hs.hashed, List.drop_drop,
    ← List.take_add]
  rcases hk with hk | ⟨hk, hn⟩
  · rw [hk]
    exact ⟨rfl, rfl⟩
  · rw [List.drop_eq_nil_of_le hk, List.drop_eq_nil_of_le hn, List.take_of_length_le hk,
      List.take_of_length_le hn]
    exact ⟨rfl, rfl⟩

/-- Writing piece `i` of the known-length loop after the first `i`: the read of its
`min P (L - i * P)` bytes passes, and the store takes the piece as laid out. -/
theorem LaidOut.write_known {i : ℕ} {s : Run α} (hs : LaidOut md5 calculateDigest c P expected i s)
    (hcheck : expected = [] ∨ md5 c = expected) (hP : 0 < P.toNat) (hL : c.length < 2 ^ 62)
    (hi : i < 2 ^ 31) (hip : i * P.toNat < c.length) (gen : Int64 → Int32 × Bool) :
    ∃ t, processPieceFromSource md5 sha256 calculateDigest s.store s.reader (Int64.ofNat c.length)
        (Int32.ofNat i) (pieceOffset (Int32.ofNat i) P)
        (knownPieceSize (Int64.ofNat c.length) (pieceOffset (Int32.ofNat i) P) P) gen =
      ((t, (s.reader.read md5 (min P.toNat (c.length - i * P.toNat))).2.1),
        .ok (Int64.ofNat (min P.toNat (c.length - i * P.toNat)))) ∧
      t.pieces = layoutPieces md5 calculateDigest c P.toNat (i + 1) := by
  have hP32 := P.toNat_lt
  have hrest : min P.toNat (c.length - i * P.toNat) ≤ s.reader.body.rest.length := by
    rw [hs.rest, List.length_drop]
    omega
  rw [knownPieceSize_at (by omega) hL hi hip]
  unfold processPieceFromSource
  rw [TaskStore.writePiece_fresh md5 sha256 calculateDigest
    (by rw [hs.pieces]; exact layoutPieces_self hi) (hs.read_good hcheck _)
    (UInt32.toUInt64_toInt64_ofNat (by omega)) (by omega) (by omega) hrest]
  refine ⟨_, rfl, ?_⟩
  rw [TaskStore.pieces_genDigest]
  apply layoutPieces_setPiece hs.pieces hi
  rw [hs.rest, take_drop_eq_pieceBytes, pieceOffset_ofNat hi]
  simp [pieceLayout, storedMd5, UInt32.toUInt64_toInt64_eq]

/-- Writing piece `i` of the unknown-length loop after the first `i`, before the end of the
body: the read of `P` bytes takes the piece's `min P (L - i * P)` bytes and passes, and the
store takes the piece as laid out. -/
theorem LaidOut.write_unknown {i : ℕ} {s : Run α} (hs : LaidOut md5 calculateDigest c P expected i s)
    (hcheck : expected = [] ∨ md5 c = expected) (hP : 0 < P.toNat) (hi : i < 2 ^ 31)
    (hip : i * P.toNat < c.length) :
    ∃ t, processPieceFromSource md5 sha256 calculateDigest s.store s.reader (-1) (Int32.ofNat i)
        (pieceOffset (Int32.ofNat i) P) P (unknownLastPiece P (Int32.ofNat i)) =
      ((t, (s.reader.read md5 P.toNat).2.1),
        .ok (Int64.ofNat (min P.toNat (c.length - i * P.toNat)))) ∧
      t.pieces = layoutPieces md5 calculateDigest c P.toNat (i + 1) := by
  have hP32 := P.toNat_lt
  have hlen : s.reader.body.rest.length = c.length - i * P.toNat := by
    rw [hs.rest, List.length_drop]
  unfold processPieceFromSource
  rw [TaskStore.writePiece_unknownLength_of_pos md5 sha256 calculateDigest
    (by rw [hs.pieces]; exact layoutPieces_self hi) rfl (hs.read_good hcheck _)
    (UInt32.toUInt64_toInt64_eq P) (by omega) hP (by omega), hlen]
  refine ⟨_, rfl, ?_⟩
  rw [TaskStore.pieces_genDigest]
  apply layoutPieces_setPiece hs.pieces hi
  rw [hs.rest, pieceOffset_ofNat hi]
  simp [pieceLayout, storedMd5, pieceBytes, UInt32.toUInt64_toInt64_eq]

/-- Writing piece `i` of the unknown-length loop at the end of the body: the read is empty and
the store takes no piece. -/
theorem LaidOut.write_unknown_empty {i : ℕ} {s : Run α}
    (hs : LaidOut md5 calculateDigest c P expected i s) (hcheck : expected = [] ∨ md5 c = expected)
    (hi : i < 2 ^ 31) (hend : c.length ≤ i * P.toNat) :
    ∃ t, processPieceFromSource md5 sha256 calculateDigest s.store s.reader (-1) (Int32.ofNat i)
        (pieceOffset (Int32.ofNat i) P) P (unknownLastPiece P (Int32.ofNat i)) =
      ((t, (s.reader.read md5 P.toNat).2.1), .ok 0) ∧ t.pieces = s.store.pieces := by
  have hP32 := P.toNat_lt
  unfold processPieceFromSource
  rw [TaskStore.writePiece_unknownLength_empty md5 sha256 calculateDigest
    (by rw [hs.pieces]; exact layoutPieces_self hi) rfl (hs.read_good hcheck _)
    (UInt32.toUInt64_toInt64_eq P) (by omega) (by rw [hs.rest]; exact List.drop_eq_nil_of_le hend)]
  exact ⟨_, rfl, TaskStore.pieces_genDigest sha256 _ _⟩

/-- Publishing piece `i` with its `min P (L - i * P)` bytes, once the store holds it and the
reader is past it, moves a run from after `i` pieces to after `i + 1`. -/
theorem laidOut_publish {i : ℕ} {pt : Conductor} {t : TaskStore} {r : DigestReader α}
    (hready : pt.readyPieces = (List.range i).map Int32.ofNat)
    (hcompleted : pt.completedLength = Int64.ofNat (min (i * P.toNat) c.length))
    (hi : i < 2 ^ 31) (hip : i * P.toNat < c.length)
    (ht : t.pieces = layoutPieces md5 calculateDigest c P.toNat (i + 1))
    (hrest : r.body.rest = c.drop ((i + 1) * P.toNat))
    (hhashed : r.hashed = c.take ((i + 1) * P.toNat)) (hexpected : r.digest = expected) :
    LaidOut md5 calculateDigest c P expected (i + 1)
      ⟨(pt.publishPieceInfo calculateDigest sha256 t (Int32.ofNat i)
          (UInt32.ofNat (min P.toNat (c.length - i * P.toNat)))).1,
        (pt.publishPieceInfo calculateDigest sha256 t (Int32.ofNat i)
          (UInt32.ofNat (min P.toNat (c.length - i * P.toNat)))).2, r⟩ := by
  have hP32 := P.toNat_lt
  have hnew : Int32.ofNat i ∉ pt.readyPieces := by
    rw [hready, List.mem_map]
    rintro ⟨j, hj, hji⟩
    rw [List.mem_range] at hj
    exact absurd ((Int32.ofNat_eq_ofNat_iff (by omega) hi).mp hji) (by omega)
  have hacc := @Conductor.publishPieceInfo_accounting calculateDigest sha256 pt t (Int32.ofNat i)
    (UInt32.ofNat (min P.toNat (c.length - i * P.toNat))) hnew
  constructor
  · exact hrest
  · exact hhashed
  · exact hexpected
  · rw [Conductor.pieces_publishPieceInfo]
    exact ht
  · rw [hacc.1, hready, List.range_succ, List.map_append]
    rfl
  · rw [hacc.2.1, hcompleted, UInt32.toUInt64_toInt64_ofNat (by omega), ← Int64.ofNat_add]
    congr 1
    rw [Nat.add_mul, Nat.one_mul]
    omega

/-- The content length the unknown-length loop computes at piece `i` after a read of `n`
bytes, in `int64` arithmetic. -/
theorem unknownContentLength_eq {i : ℕ} (hi : i < 2 ^ 31) (n : ℕ) :
    P.toUInt64.toInt64 * (Int32.ofNat i).toInt64 + Int64.ofNat n =
      Int64.ofNat (i * P.toNat + n) := by
  have hi64 : (Int32.ofNat i).toInt64 = Int64.ofNat i := by
    rw [← Int64.toInt_inj, Int32.toInt_toInt64, Int32.toInt_ofNat_of_lt hi,
      Int64.toInt_ofNat_of_lt (by omega)]
  rw [UInt32.toUInt64_toInt64_eq, hi64, ← Int64.ofNat_mul, ← Int64.ofNat_add, Nat.mul_comm]

/-- A read shorter than the piece size is, in `int64`, neither a whole piece nor too large. -/
theorem short_count {m : ℕ} (hm : m < P.toNat) :
    Int64.ofNat m ≠ P.toUInt64.toInt64 ∧ ¬ Int64.ofNat m > P.toUInt64.toInt64 := by
  have hP32 := P.toNat_lt
  rw [UInt32.toUInt64_toInt64_eq, Ne, gt_iff_lt, Int64.ofNat_eq_ofNat_iff (by omega) (by omega),
    Int64.ofNat_lt_ofNat_iff (by omega) (by omega)]
  omega

/-- A round of the known-length loop before the end writes piece `i` as laid out, publishes
it, and goes on with piece `i + 1`; the content length stays. -/
theorem LaidOut.knownRound {i : ℕ} {s : Run α} (rounds : ℕ)
    (hs : LaidOut md5 calculateDigest c P expected i s) (hcheck : expected = [] ∨ md5 c = expected)
    (hP : 0 < P.toNat) (hL : c.length < 2 ^ 62) (hN : ceilPieces c.length P.toNat < 2 ^ 31)
    (hi : i < ceilPieces c.length P.toNat) :
    ∃ s', knownLengthLoop md5 sha256 calculateDigest (Int64.ofNat c.length) P
        (Int32.ofNat (ceilPieces c.length P.toNat)) (rounds + 1) (Int32.ofNat i) s =
      knownLengthLoop md5 sha256 calculateDigest (Int64.ofNat c.length) P
        (Int32.ofNat (ceilPieces c.length P.toNat)) rounds (Int32.ofNat (i + 1)) s' ∧
      LaidOut md5 calculateDigest c P expected (i + 1) s' ∧
      s'.pt.contentLength = s.pt.contentLength := by
  have hip := (lt_ceilPieces_iff hP).mp hi
  have hi31 : i < 2 ^ 31 := by omega
  have hP32 := P.toNat_lt
  obtain ⟨t, hwrite, hpieces⟩ := hs.write_known sha256 hcheck hP hL hi31 hip
    (fun _ => (Int32.ofNat (ceilPieces c.length P.toNat),
      decide (Int32.ofNat i = Int32.ofNat (ceilPieces c.length P.toNat) - 1)))
  have hlt : Int32.ofNat i < Int32.ofNat (ceilPieces c.length P.toNat) :=
    (Int32.ofNat_lt_ofNat_iff hi31 hN).mpr hi
  -- for the last piece the store records the length and the count first, which keeps its pieces
  set t' := if Int32.ofNat i = Int32.ofNat (ceilPieces c.length P.toNat) - 1 then
    t.updateTask (Int64.ofNat c.length) (Int32.ofNat (ceilPieces c.length P.toNat)) [] else t
    with ht'
  have ht'pieces : t'.pieces = layoutPieces md5 calculateDigest c P.toNat (i + 1) := by
    rw [ht']
    split <;> exact hpieces
  have hr := hs.read_to (n := (i + 1) * P.toNat) (k := min P.toNat (c.length - i * P.toNat))
    (by rw [Nat.add_mul, Nat.one_mul]; omega)
  refine ⟨_, ?_,
    laidOut_publish sha256 hs.ready hs.completed hi31 hip ht'pieces hr.1 hr.2 hs.expected,
    Conductor.contentLength_publishPieceInfo calculateDigest sha256⟩
  rw [knownLengthLoop_round sha256 rounds hlt hwrite (by
    rw [knownPieceSize_at (by omega) hL hi31 hip, UInt32.toUInt64_toInt64_ofNat (by omega)])]
  rw [Int64.toUInt64_toUInt32_ofNat, Int32.ofNat_add_one]

/-- A round of the unknown-length loop that reads a whole piece publishes it as laid out and
goes on with piece `i + 1`. -/
theorem LaidOut.unknownFull {i : ℕ} {s : Run α} (rounds : ℕ)
    (hs : LaidOut md5 calculateDigest c P expected i s) (hcheck : expected = [] ∨ md5 c = expected)
    (hP : 0 < P.toNat) (hi : i < 2 ^ 31) (hfull : (i + 1) * P.toNat ≤ c.length) :
    ∃ s', unknownLengthLoop md5 sha256 calculateDigest P (rounds + 1) (Int32.ofNat i) s =
        unknownLengthLoop md5 sha256 calculateDigest P rounds (Int32.ofNat (i + 1)) s' ∧
      LaidOut md5 calculateDigest c P expected (i + 1) s' := by
  have hr := hs.read_to (n := (i + 1) * P.toNat) (k := P.toNat)
    (by rw [Nat.add_mul, Nat.one_mul]; omega)
  rw [Nat.add_mul, Nat.one_mul] at hfull
  have hm : min P.toNat (c.length - i * P.toNat) = P.toNat := by omega
  obtain ⟨t, hwrite, hpieces⟩ := hs.write_unknown sha256 hcheck hP hi (by omega)
  have hpub := laidOut_publish sha256 hs.ready hs.completed hi (by omega) hpieces hr.1 hr.2
    hs.expected
  rw [hm] at hwrite hpub
  refine ⟨_, ?_, hpub⟩
  rw [unknownLengthLoop]
  dsimp only
  rw [hwrite]
  dsimp only
  rw [if_pos (UInt32.toUInt64_toInt64_eq P).symm, Int64.toUInt64_toUInt32_ofNat,
    Int32.ofNat_add_one]

/-- The round of the unknown-length loop that reads the short last piece `i` fixes the content
length `L` and the piece count in the conductor, publishes the piece as laid out, and ends the
loop with `L`. -/
theorem LaidOut.unknownShort {i : ℕ} {s : Run α} (rounds : ℕ)
    (hs : LaidOut md5 calculateDigest c P expected i s) (hcheck : expected = [] ∨ md5 c = expected)
    (hP : 0 < P.toNat) (hL : c.length < 2 ^ 62) (hi : i < 2 ^ 31) (hip : i * P.toNat < c.length)
    (hshort : c.length < (i + 1) * P.toNat) :
    ∃ s', unknownLengthLoop md5 sha256 calculateDigest P (rounds + 1) (Int32.ofNat i) s =
        (s', .ok (Int64.ofNat c.length)) ∧
      LaidOut md5 calculateDigest c P expected (i + 1) s' ∧
      s'.pt.totalPiece = Int32.ofNat (ceilPieces c.length P.toNat) := by
  have hP32 := P.toNat_lt
  have hr := hs.read_to (n := (i + 1) * P.toNat) (k := P.toNat)
    (by rw [Nat.add_mul, Nat.one_mul]; omega)
  rw [Nat.add_mul, Nat.one_mul] at hshort
  obtain ⟨t, hwrite, hpieces⟩ := hs.write_unknown sha256 hcheck hP hi hip
  -- the conductor takes the piece count, and the store the length, before the piece is published
  have hready : ({ s.pt with totalPiece := Int32.ofNat (ceilPieces c.length P.toNat) } :
      Conductor).readyPieces = (List.range i).map Int32.ofNat := hs.ready
  have hcompleted : ({ s.pt with totalPiece := Int32.ofNat (ceilPieces c.length P.toNat) } :
      Conductor).completedLength = Int64.ofNat (min (i * P.toNat) c.length) := hs.completed
  have hstored : (t.updateTask (Int64.ofNat c.length) (Int32.ofNat (ceilPieces c.length P.toNat))
      []).pieces = layoutPieces md5 calculateDigest c P.toNat (i + 1) := hpieces
  have hpub := laidOut_publish sha256 hready hcompleted hi hip hstored hr.1 hr.2 hs.expected
  have hm : min P.toNat (c.length - i * P.toNat) = c.length - i * P.toNat := by omega
  rw [hm] at hwrite hpub
  obtain ⟨hshortRead, hnotLarge⟩ := short_count (show c.length - i * P.toNat < P.toNat by omega)
  have hnotEmpty : Int64.ofNat (c.length - i * P.toNat) ≠ 0 := by
    rw [show (0 : Int64) = Int64.ofNat 0 from rfl, Ne,
      Int64.ofNat_eq_ofNat_iff (by omega) (by decide)]
    omega
  have hlength : P.toUInt64.toInt64 * (Int32.ofNat i).toInt64 +
      Int64.ofNat (c.length - i * P.toNat) = Int64.ofNat c.length := by
    rw [unknownContentLength_eq hi, Nat.add_sub_cancel' hip.le]
  refine ⟨_, ?_, hpub, Conductor.totalPiece_publishPieceInfo calculateDigest sha256⟩
  rw [unknownLengthLoop]
  dsimp only
  rw [hwrite]
  dsimp only
  rw [if_neg hshortRead, if_neg hnotLarge, hlength, pieceCount_ofNat (by omega), if_neg hnotEmpty,
    Int64.toUInt64_toUInt32_ofNat]

/-- The round of the unknown-length loop at the end of a body of `i` whole pieces reads nothing,
fixes the content length `L` and the piece count `i` in the conductor, and ends the loop with
`L`. -/
theorem LaidOut.unknownEmpty {i : ℕ} {s : Run α} (rounds : ℕ)
    (hs : LaidOut md5 calculateDigest c P expected i s) (hcheck : expected = [] ∨ md5 c = expected)
    (hP : 0 < P.toNat) (hL : c.length < 2 ^ 62) (hi : i < 2 ^ 31) (hend : i * P.toNat = c.length) :
    ∃ s', unknownLengthLoop md5 sha256 calculateDigest P (rounds + 1) (Int32.ofNat i) s =
        (s', .ok (Int64.ofNat c.length)) ∧
      LaidOut md5 calculateDigest c P expected i s' ∧
      s'.pt.totalPiece = Int32.ofNat (ceilPieces c.length P.toNat) := by
  have hP32 := P.toNat_lt
  have hr := hs.read_to (n := i * P.toNat) (k := P.toNat) (by omega)
  obtain ⟨t, hwrite, hpieces⟩ := hs.write_unknown_empty sha256 hcheck hi hend.ge
  -- the empty read is a short one
  obtain ⟨hfull, hnotLarge⟩ : (0 : Int64) ≠ P.toUInt64.toInt64 ∧ ¬ (0 : Int64) > P.toUInt64.toInt64 :=
    short_count hP
  have hlength : P.toUInt64.toInt64 * (Int32.ofNat i).toInt64 + 0 = Int64.ofNat c.length := by
    rw [show (0 : Int64) = Int64.ofNat 0 from rfl, unknownContentLength_eq hi, Nat.add_zero, hend]
  refine ⟨⟨{ s.pt with totalPiece := Int32.ofNat (ceilPieces c.length P.toNat) },
    t.updateTask (Int64.ofNat c.length) (Int32.ofNat (ceilPieces c.length P.toNat)) [],
    (s.reader.read md5 P.toNat).2.1⟩, ?_,
    ⟨hr.1, hr.2, hs.expected, hpieces.trans hs.pieces, hs.ready, hs.completed⟩, rfl⟩
  rw [unknownLengthLoop]
  dsimp only
  rw [hwrite]
  dsimp only
  rw [if_neg hfull, if_neg hnotLarge, hlength, pieceCount_ofNat (by omega), if_pos rfl]

/-- From piece `i`, with rounds for the pieces left, the known-length loop stores and publishes
every piece as laid out and ends without error; the content length stays. The induction is on
the rounds, each one moving from piece `i` to piece `i + 1`. -/
theorem LaidOut.knownRun {i : ℕ} {s : Run α} (rounds : ℕ)
    (hs : LaidOut md5 calculateDigest c P expected i s) (hcheck : expected = [] ∨ md5 c = expected)
    (hP : 0 < P.toNat) (hL : c.length < 2 ^ 62) (hN : ceilPieces c.length P.toNat < 2 ^ 31)
    (hi : i ≤ ceilPieces c.length P.toNat) (hrounds : ceilPieces c.length P.toNat - i ≤ rounds) :
    ∃ s', knownLengthLoop md5 sha256 calculateDigest (Int64.ofNat c.length) P
        (Int32.ofNat (ceilPieces c.length P.toNat)) rounds (Int32.ofNat i) s = (s', .ok ()) ∧
      LaidOut md5 calculateDigest c P expected (ceilPieces c.length P.toNat) s' ∧
      s'.pt.contentLength = s.pt.contentLength := by
  induction rounds generalizing i s with
  | zero =>
    have hiN : i = ceilPieces c.length P.toNat := by omega
    subst hiN
    exact ⟨s, rfl, hs, rfl⟩
  | succ rounds ih =>
    by_cases hiN : i = ceilPieces c.length P.toNat
    · subst hiN
      exact ⟨s, knownLengthLoop_of_not_lt sha256 _ Int32.lt_irrefl, hs, rfl⟩
    · obtain ⟨s', hround, hs', hlength⟩ := hs.knownRound sha256 rounds hcheck hP hL hN (by omega)
      obtain ⟨s'', hloop, hs'', hlength'⟩ := ih hs' (by omega) (by omega)
      exact ⟨s'', hround.trans hloop, hs'', hlength'.trans hlength⟩

/-- From piece `i` at or before the end, with a round more than the whole pieces left, the
unknown-length loop stores and publishes every piece as laid out and ends with the content
length `L` and the piece count `ceil(L / P)`. The induction is on the rounds: a whole piece goes
on, a short or empty read ends the loop. -/
theorem LaidOut.unknownRun {i : ℕ} {s : Run α} (rounds : ℕ)
    (hs : LaidOut md5 calculateDigest c P expected i s) (hcheck : expected = [] ∨ md5 c = expected)
    (hP : 0 < P.toNat) (hL : c.length < 2 ^ 62) (hN : ceilPieces c.length P.toNat < 2 ^ 31)
    (hi : i * P.toNat ≤ c.length) (hrounds : c.length / P.toNat - i < rounds) :
    ∃ s', unknownLengthLoop md5 sha256 calculateDigest P rounds (Int32.ofNat i) s =
        (s', .ok (Int64.ofNat c.length)) ∧
      LaidOut md5 calculateDigest c P expected (ceilPieces c.length P.toNat) s' ∧
      s'.pt.totalPiece = Int32.ofNat (ceilPieces c.length P.toNat) := by
  induction rounds generalizing i s with
  | zero => omega
  | succ rounds ih =>
    have hiN : i ≤ ceilPieces c.length P.toNat := by
      rw [← ceilPieces_mul hP i]
      exact Nat.div_le_div_right (by omega)
    have hi31 : i < 2 ^ 31 := by omega
    rcases Nat.lt_or_ge (i * P.toNat) c.length with hip | hend
    · by_cases hfull : (i + 1) * P.toNat ≤ c.length
      · have hdiv : i + 1 ≤ c.length / P.toNat := (Nat.le_div_iff_mul_le hP).mpr hfull
        obtain ⟨s', hround, hs'⟩ := hs.unknownFull sha256 rounds hcheck hP hi31 hfull
        obtain ⟨s'', hloop, hs'', htotal⟩ := ih hs' hfull (by omega)
        exact ⟨s'', hround.trans hloop, hs'', htotal⟩
      · -- the short read is of the last piece
        have hlast : i + 1 = ceilPieces c.length P.toNat := by
          have hnext : ¬ i + 1 < ceilPieces c.length P.toNat := fun h =>
            hfull ((lt_ceilPieces_iff hP).mp h).le
          have := (lt_ceilPieces_iff hP).mpr hip
          omega
        obtain ⟨s', hloop, hs', htotal⟩ := hs.unknownShort sha256 rounds hcheck hP hL hi31 hip
          (by omega)
        refine ⟨s', hloop, ?_, htotal⟩
        rw [← hlast]
        exact hs'
    · -- the empty read ends a body of `i` whole pieces
      have hend' : i * P.toNat = c.length := by omega
      obtain ⟨s', hloop, hs', htotal⟩ := hs.unknownEmpty sha256 rounds hcheck hP hL hi31 hend'
      refine ⟨s', hloop, ?_, htotal⟩
      rw [← hend', ceilPieces_mul hP]
      exact hs'

end Loops

/-! ### Both loops from the start -/

section Download

variable (md5 : List α → List Char) (sha256 : List (List Char) → List Char)
  (calculateDigest : Bool) {c : List α} {P : UInt32} {expected : List Char}
  {pt : Conductor} {t : TaskStore}

/-- `downloadKnownLengthSource` over a body of `L` bytes, from a conductor that has published
nothing and a store that holds no piece, stores and publishes the `ceil(L / P)` pieces as laid
out, with the content length `L`. -/
theorem downloadKnownLengthSource_laidOut (eof : Bool) (hready : pt.readyPieces = [])
    (hcompleted : pt.completedLength = 0) (hstore : t.pieces = fun _ => none)
    (hcheck : expected = [] ∨ md5 c = expected) (hP : 0 < P.toNat) (hL : c.length < 2 ^ 62)
    (hN : ceilPieces c.length P.toNat < 2 ^ 31) :
    ∃ s', downloadKnownLengthSource md5 sha256 calculateDigest
        ⟨pt, t, newDigestReader ⟨c, eof⟩ expected⟩ (Int64.ofNat c.length) P = (s', .ok ()) ∧
      LaidOut md5 calculateDigest c P expected (ceilPieces c.length P.toNat) s' ∧
      s'.pt.contentLength = Int64.ofNat c.length := by
  have hstart : LaidOut md5 calculateDigest c P expected 0
      ⟨{ pt with contentLength := Int64.ofNat c.length }, t, newDigestReader ⟨c, eof⟩ expected⟩ :=
    laidOut_start eof hready hcompleted hstore
  obtain ⟨s', hloop, hs', hlength⟩ := hstart.knownRun sha256 (ceilPieces c.length P.toNat) hcheck
    hP hL hN (Nat.zero_le _) (by omega)
  refine ⟨s', ?_, hs', hlength⟩
  unfold downloadKnownLengthSource
  dsimp only
  rw [pieceCount_ofNat (by omega), Int32.toInt_ofNat_of_lt hN, Int.toNat_natCast]
  exact hloop

/-- `downloadUnknownLengthSource` over a body of `L` bytes, from a conductor that has published
nothing and a store that holds no piece, stores and publishes the `ceil(L / P)` pieces as laid
out, and ends with the content length `L` and the piece count `ceil(L / P)`. -/
theorem downloadUnknownLengthSource_laidOut (eof : Bool) (hready : pt.readyPieces = [])
    (hcompleted : pt.completedLength = 0) (hstore : t.pieces = fun _ => none)
    (hcheck : expected = [] ∨ md5 c = expected) (hP : 0 < P.toNat) (hL : c.length < 2 ^ 62)
    (hN : ceilPieces c.length P.toNat < 2 ^ 31) :
    ∃ s', downloadUnknownLengthSource md5 sha256 calculateDigest
        ⟨pt, t, newDigestReader ⟨c, eof⟩ expected⟩ P = (s', .ok ()) ∧
      LaidOut md5 calculateDigest c P expected (ceilPieces c.length P.toNat) s' ∧
      s'.pt.contentLength = Int64.ofNat c.length ∧
      s'.pt.totalPiece = Int32.ofNat (ceilPieces c.length P.toNat) := by
  have hstart : LaidOut md5 calculateDigest c P expected 0
      ⟨pt, t, newDigestReader ⟨c, eof⟩ expected⟩ :=
    laidOut_start eof hready hcompleted hstore
  have hdiv := Nat.div_le_self c.length P.toNat
  obtain ⟨s', hloop, hs', htotal⟩ := hstart.unknownRun sha256 (c.length + 1) hcheck hP hL hN
    (by omega) (by omega)
  refine ⟨{ s' with pt := { s'.pt with contentLength := Int64.ofNat c.length } }, ?_,
    ⟨hs'.rest, hs'.hashed, hs'.expected, hs'.pieces, hs'.ready, hs'.completed⟩, rfl, htotal⟩
  unfold downloadUnknownLengthSource
  rw [show (newDigestReader ⟨c, eof⟩ expected).body.rest.length = c.length from rfl,
    show (0 : Int32) = Int32.ofNat 0 from rfl, hloop]

/-- Both back-to-source loops lay a body out in the same pieces. For a body of `L` bytes, below
`2^53` where the code's float quotient `L / P` is exact, in pieces of `P > 0` bytes whose count
`N = ceil(L / P)` fits the `int32` it is cast to, whose digest check passes, from a conductor
that has published nothing and a store that holds no piece: the pieces, piece `j` from `j * P`
over `min P (L - j * P)` bytes, are non-empty and each ends where the next starts, the last at
`L`; the known-length loop stores exactly pieces `0, ..., N - 1` as `pieceLayout` says,
publishes them in order and counts `L` bytes; and the unknown-length loop stores and publishes
the same pieces and ends with the content length `L` and the total piece count `N`. -/
theorem downloadSource_piece_layout (c : List α) (eof : Bool) (expected : List Char) (P : UInt32)
    (pt : Conductor) (t : TaskStore) (hP : 0 < P.toNat) (hL : c.length < 2 ^ 53)
    (hN : ceilPieces c.length P.toNat < 2 ^ 31) (hcheck : expected = [] ∨ md5 c = expected)
    (hready : pt.readyPieces = []) (hcompleted : pt.completedLength = 0)
    (hstore : t.pieces = fun _ => none) :
    (∀ j < ceilPieces c.length P.toNat, 0 < min P.toNat (c.length - j * P.toNat) ∧
      j * P.toNat + min P.toNat (c.length - j * P.toNat) = min ((j + 1) * P.toNat) c.length) ∧
    (let known := downloadKnownLengthSource md5 sha256 calculateDigest
        ⟨pt, t, newDigestReader ⟨c, eof⟩ expected⟩ (Int64.ofNat c.length) P
     known.2 = .ok () ∧
       known.1.store.pieces =
         layoutPieces md5 calculateDigest c P.toNat (ceilPieces c.length P.toNat) ∧
       known.1.pt.readyPieces = (List.range (ceilPieces c.length P.toNat)).map Int32.ofNat ∧
       known.1.pt.completedLength = Int64.ofNat c.length ∧
       known.1.pt.contentLength = Int64.ofNat c.length) ∧
    (let unknown := downloadUnknownLengthSource md5 sha256 calculateDigest
        ⟨pt, t, newDigestReader ⟨c, eof⟩ expected⟩ P
     unknown.2 = .ok () ∧
       unknown.1.store.pieces =
         layoutPieces md5 calculateDigest c P.toNat (ceilPieces c.length P.toNat) ∧
       unknown.1.pt.readyPieces = (List.range (ceilPieces c.length P.toNat)).map Int32.ofNat ∧
       unknown.1.pt.completedLength = Int64.ofNat c.length ∧
       unknown.1.pt.contentLength = Int64.ofNat c.length ∧
       unknown.1.pt.totalPiece = Int32.ofNat (ceilPieces c.length P.toNat)) := by
  have hend : min (ceilPieces c.length P.toNat * P.toNat) c.length = c.length :=
    Nat.min_eq_right (le_ceilPieces_mul hP)
  obtain ⟨k, hk, hks, hkl⟩ := downloadKnownLengthSource_laidOut md5 sha256 calculateDigest eof
    hready hcompleted hstore hcheck hP (by omega) hN
  obtain ⟨u, hu, hus, hul, hut⟩ := downloadUnknownLengthSource_laidOut md5 sha256
    calculateDigest eof hready hcompleted hstore hcheck hP (by omega) hN
  refine ⟨fun j hj => pieceRange_tiles hP hj, ?_, ?_⟩
  · dsimp only
    rw [hk]
    exact ⟨rfl, hks.pieces, hks.ready, by rw [hks.completed, hend], hkl⟩
  · dsimp only
    rw [hu]
    exact ⟨rfl, hus.pieces, hus.ready, by rw [hus.completed, hend], hul, hut⟩

theorem downloadSource_piece_layout_five :
    (∀ j < ceilPieces [1, 2, 3, 4, 5].length (2 : UInt32).toNat,
      0 < min (2 : UInt32).toNat ([1, 2, 3, 4, 5].length - j * (2 : UInt32).toNat) ∧
        j * (2 : UInt32).toNat + min (2 : UInt32).toNat ([1, 2, 3, 4, 5].length - j * (2 : UInt32).toNat) =
          min ((j + 1) * (2 : UInt32).toNat) [1, 2, 3, 4, 5].length) ∧
    (let known := downloadKnownLengthSource (fun _ => []) (fun _ => []) false
        ⟨Conductor.new [], TaskStore.createTask [] (-1) (-1) [],
          newDigestReader ⟨[(1 : ℕ), 2, 3, 4, 5], true⟩ []⟩ (Int64.ofNat [1, 2, 3, 4, 5].length) 2
     known.2 = .ok () ∧
       known.1.store.pieces = layoutPieces (fun _ => []) false [1, 2, 3, 4, 5] (2 : UInt32).toNat
         (ceilPieces [1, 2, 3, 4, 5].length (2 : UInt32).toNat) ∧
       known.1.pt.readyPieces =
         (List.range (ceilPieces [1, 2, 3, 4, 5].length (2 : UInt32).toNat)).map Int32.ofNat ∧
       known.1.pt.completedLength = Int64.ofNat [1, 2, 3, 4, 5].length ∧
       known.1.pt.contentLength = Int64.ofNat [1, 2, 3, 4, 5].length) ∧
    (let unknown := downloadUnknownLengthSource (fun _ => []) (fun _ => []) false
        ⟨Conductor.new [], TaskStore.createTask [] (-1) (-1) [],
          newDigestReader ⟨[(1 : ℕ), 2, 3, 4, 5], true⟩ []⟩ 2
     unknown.2 = .ok () ∧
       unknown.1.store.pieces = layoutPieces (fun _ => []) false [1, 2, 3, 4, 5] (2 : UInt32).toNat
         (ceilPieces [1, 2, 3, 4, 5].length (2 : UInt32).toNat) ∧
       unknown.1.pt.readyPieces =
         (List.range (ceilPieces [1, 2, 3, 4, 5].length (2 : UInt32).toNat)).map Int32.ofNat ∧
       unknown.1.pt.completedLength = Int64.ofNat [1, 2, 3, 4, 5].length ∧
       unknown.1.pt.contentLength = Int64.ofNat [1, 2, 3, 4, 5].length ∧
       unknown.1.pt.totalPiece = Int32.ofNat (ceilPieces [1, 2, 3, 4, 5].length (2 : UInt32).toNat)) :=
  downloadSource_piece_layout (fun _ => []) (fun _ => []) false [1, 2, 3, 4, 5] true [] 2
    (Conductor.new []) (TaskStore.createTask [] (-1) (-1) []) (by decide) (by decide) (by decide)
    (Or.inl rfl) rfl rfl rfl

/-- In pieces of one byte, a body of `2^31` bytes has `2^31` pieces, a count that `int32` wraps
to `-2^31`: the known-length loop runs no round and ends without error, having stored and
published no piece. -/
theorem downloadKnownLengthSource_piece_count_wraps :
    ceilPieces (List.replicate (2 ^ 31) ()).length (1 : UInt32).toNat = 2 ^ 31 ∧
      let known := downloadKnownLengthSource (fun _ => []) (fun _ => []) false
        ⟨Conductor.new [], TaskStore.createTask [] (-1) (-1) [],
          newDigestReader ⟨List.replicate (2 ^ 31) (), true⟩ []⟩
        (Int64.ofNat (List.replicate (2 ^ 31) ()).length) 1
      known.2 = .ok () ∧ known.1.pt.readyPieces = [] ∧ known.1.store.pieces = fun _ => none := by
  have hcount : (pieceCount (Int64.ofNat (2 ^ 31)) 1).toInt.toNat = 0 := by decide
  rw [List.length_replicate]
  refine ⟨by decide, ?_⟩
  unfold downloadKnownLengthSource
  dsimp only
  rw [hcount]
  exact ⟨rfl, rfl, rfl⟩

end Download

end Dragonfly.Daemon
