import Mathlib.Data.Finset.Card
import Dragonfly.Base.ByteBits
import Dragonfly.Daemon.Conductor

/-!
# The ready-pieces bitmap

`peerTaskConductor.readyPieces` is a `Bitmap` (`client/daemon/peer/peertask_bitmap.go`): bytes
whose bits mark the pieces published so far, a capacity of eight bits a byte, and a `settled`
count of the pieces set. `PublishPieceInfo` (`peertask_conductor.go:1319`) skips a piece whose bit
is set, and otherwise sets it, counts its bytes, and runs `Done` once all bytes are in. The
conductor of `Daemon.Conductor` keeps the ready pieces as a list; this module puts the bitmap in
its place.

`Set` grows the bitmap at most once a call, doubling it, so a piece at or past twice the capacity
indexes past the bytes and panics (`publishPieceInfo_panics_past_twice_cap`); a fresh bitmap holds
64 pieces, so any piece from 128 up panics when it comes first. Below that the bitmap stands for
the conductor's list at every step (`Simulates.publishPieceInfo`) and over whole runs
(`publishRun_simulates`).

The same holds of a bitmap from `NewBitmapWithCap(c)`: a first `Set` from `16 c` up panics, and
`Set` counts every call in `settled`, so `Sets(i, i)` counts two pieces where one bit is set
(`newWithCap_sets_break_invariant`). `PublishPieceInfo` and `dispatchPieceRequest` only call `Set`
when `IsSet` is false, which keeps the count right there.

Go's `int32` arithmetic and index panics are kept: `none` is a panic. The broker and the lock are
left out.
-/

namespace Dragonfly.Daemon

open Dragonfly.Base Dragonfly.Base.GoText

/-- `peer.Bitmap` (`peertask_bitmap.go:23`). -/
structure Bitmap where
  bits : List UInt8
  cap : Int32
  settled : Int32
  deriving DecidableEq, Repr

namespace Bitmap

/-- `NewBitmap` (`peertask_bitmap.go:29`): eight zero bytes, room for 64 pieces. -/
def new : Bitmap := ⟨List.replicate 8 0, 8 * 8, 0⟩

/-- `1 << uint(s)` as a byte: a count from 8 up, or a negative one read as a huge unsigned count,
shifts the bit out. -/
def byteBit (s : Int32) : UInt8 := if 0 ≤ s ∧ s < 8 then ByteBits.bit s.toNatClampNeg else 0

/-- `bits[k]`; `none` where the index panics. -/
def byteAt (bits : List UInt8) (k : Int32) : Option UInt8 :=
  if 0 ≤ k then bits[k.toNatClampNeg]? else none

/-- `IsSet` (`peertask_bitmap.go:43`); `none` where the index panics. -/
def isSet (b : Bitmap) (i : Int32) : Option Bool :=
  if i ≥ b.cap then some false
  else (byteAt b.bits (i / 8)).map fun byte => byte &&& byteBit (7 - i % 8) != 0

/-- The growth step of `Set` (`peertask_bitmap.go:51–54`): `cap / 8` zero bytes appended and the
capacity doubled in `int32`; `make` panics on a negative length. -/
def grow (b : Bitmap) : Option Bitmap :=
  if b.cap / 8 < 0 then none
  else
    some { b with
      bits := b.bits ++ List.replicate (b.cap / 8).toNatClampNeg 0
      cap := b.cap * 2 }

/-- `Set` (`peertask_bitmap.go:50`): an index at or past the capacity grows the bitmap once, then
`settled` counts the call and the bit is set; `none` where it panics. -/
def set (b : Bitmap) (i : Int32) : Option Bitmap :=
  match (if i ≥ b.cap then b.grow else some b) with
  | none => none
  | some b =>
    (byteAt b.bits (i / 8)).map fun byte =>
      { b with
        bits := b.bits.set (i / 8).toNatClampNeg (byte ||| byteBit (7 - i % 8))
        settled := b.settled + 1 }

/-- `NewBitmapWithCap` (`peertask_bitmap.go:36`): `c` zero bytes and a capacity of `c * 8` in
`int32`; `make` panics on a negative length. -/
def newWithCap (c : Int32) : Option Bitmap :=
  if c < 0 then none else some ⟨List.replicate c.toNatClampNeg 0, c * 8, 0⟩

/-- `Sets` (`peertask_bitmap.go:64`): `Set` of each index in turn; `none` once one panics. -/
def sets (b : Bitmap) : List Int32 → Option Bitmap
  | [] => some b
  | x :: xs => (b.set x).bind fun b => b.sets xs

end Bitmap

/-- The fields `PublishPieceInfo` reads and writes, with the ready pieces as the source's bitmap;
`doneRun` is whether `statusOnce` has run `done`. -/
structure PublishState where
  readyPieces : Bitmap
  completedLength : Int64
  contentLength : Int64
  doneRun : Bool
  deriving DecidableEq, Repr

/-- `PublishPieceInfo` (`peertask_conductor.go:1319`): a piece already set is skipped; a new one
is set and its size counted, and `Done` runs `done` once all bytes are in, unless `statusOnce`
has run. The flag is whether this call ran `done`; `none` where the bitmap panics. -/
def PublishState.publishPieceInfo (s : PublishState) (pieceNum : Int32) (size : UInt32) :
    Option (PublishState × Bool) :=
  match s.readyPieces.isSet pieceNum with
  | none => none
  | some true => some (s, false)
  | some false =>
    match s.readyPieces.set pieceNum with
    | none => none
    | some ready =>
      let s' := { s with
        readyPieces := ready
        completedLength := s.completedLength + size.toUInt64.toInt64 }
      if s'.completedLength = s'.contentLength ∧ s.doneRun = false then
        some ({ s' with doneRun := true }, true)
      else some (s', false)

/-! ### Piece numbers as indices -/

section Indices

variable {n : ℕ}

theorem ofNat_div_eight (hn : n < 2 ^ 31) : Int32.ofNat n / 8 = Int32.ofNat (n / 8) := by
  apply Int32.toInt_inj.mp
  rw [Int32.toInt_div_of_ne_right _ _ (by decide), Int32.toInt_ofNat_of_lt hn,
    Int32.toInt_ofNat_of_lt (by omega), Int.tdiv_eq_ediv_of_nonneg (by omega)]
  rfl

theorem ofNat_mod_eight (hn : n < 2 ^ 31) : Int32.ofNat n % 8 = Int32.ofNat (n % 8) := by
  apply Int32.toInt_inj.mp
  rw [Int32.toInt_mod, Int32.toInt_ofNat_of_lt hn, Int32.toInt_ofNat_of_lt (by omega),
    Int.tmod_eq_emod_of_nonneg (by omega)]
  rfl

/-- The mask of bit `7 - n % 8` is `ByteBits.bit` of it. -/
theorem byteBit_seven_sub (hn : n < 2 ^ 31) :
    Bitmap.byteBit (7 - Int32.ofNat n % 8) = ByteBits.bit (7 - n % 8) := by
  have hsub : 7 - Int32.ofNat n % 8 = Int32.ofNat (7 - n % 8) := by
    rw [ofNat_mod_eight hn]
    apply Int32.toInt_inj.mp
    have h7 : (7 : Int32).toInt = 7 := rfl
    rw [Int32.toInt_sub, Int32.toInt_ofNat_of_lt (by omega), Int32.toInt_ofNat_of_lt (by omega), h7,
      Int.bmod_eq_of_le (by omega) (by omega)]
    omega
  have hlt : Int32.ofNat (7 - n % 8) < 8 := by
    rw [Int32.lt_iff_toInt_lt, Int32.toInt_ofNat_of_lt (by omega)]
    have h8 : (8 : Int32).toInt = 8 := rfl
    omega
  have hnonneg : 0 ≤ Int32.ofNat (7 - n % 8) := by
    rw [Int32.le_iff_toInt_le, Int32.toInt_ofNat_of_lt (by omega)]
    simp
  rw [hsub, Bitmap.byteBit, if_pos ⟨hnonneg, hlt⟩, Int32.toNatClampNeg_ofNat_of_lt (by omega)]

theorem byteAt_ofNat (bits : List UInt8) (hn : n < 2 ^ 31) :
    Bitmap.byteAt bits (Int32.ofNat n) = bits[n]? := by
  have hnonneg : 0 ≤ Int32.ofNat n := by
    rw [Int32.le_iff_toInt_le, Int32.toInt_ofNat_of_lt hn]
    simp
  rw [Bitmap.byteAt, if_pos hnonneg, Int32.toNatClampNeg_ofNat_of_lt hn]

end Indices

/-! ### What the bitmap stands for -/

/-- The capacity `64 * 2 ^ k` of a bitmap grown from `NewBitmap` stays below `2^31` up to
`k = 24`. -/
theorem cap_le {k : ℕ} (hk : k ≤ 24) : 64 * 2 ^ k ≤ 2 ^ 30 := by
  have : 2 ^ k ≤ 2 ^ 24 := Nat.pow_le_pow_right (by decide) hk
  omega

/-- A list without duplicates of piece numbers below `2^30` has at most `2^30` of them. -/
theorem length_le_of_range {ready : List Int32} (hnodup : ready.Nodup)
    (hrange : ∀ i ∈ ready, ∃ n < 2 ^ 30, i = Int32.ofNat n) : ready.length ≤ 2 ^ 30 := by
  have hsub : ready.toFinset ⊆ (Finset.range (2 ^ 30)).image Int32.ofNat := by
    intro i hi
    obtain ⟨n, hn, rfl⟩ := hrange i (List.mem_toFinset.mp hi)
    exact Finset.mem_image_of_mem _ (Finset.mem_range.mpr hn)
  calc ready.length = ready.toFinset.card := (List.toFinset_card_of_nodup hnodup).symm
    _ ≤ ((Finset.range (2 ^ 30)).image Int32.ofNat).card := Finset.card_le_card hsub
    _ ≤ (Finset.range (2 ^ 30)).card := Finset.card_image_le
    _ = 2 ^ 30 := Finset.card_range _

namespace Bitmap

/-- The bitmap stands for a list of ready pieces below `2^30`: its capacity is `64 * 2 ^ k` with
a byte for every eight pieces, its bits are the pieces of the list, and `settled` counts them. -/
structure Holds (b : Bitmap) (ready : List Int32) : Prop where
  shape : ∃ k ≤ 24, b.cap = Int32.ofNat (64 * 2 ^ k) ∧ b.bits.length = 8 * 2 ^ k
  mem_iff : ∀ n < 2 ^ 31, ByteBits.testBit b.bits n = true ↔ Int32.ofNat n ∈ ready
  range : ∀ i ∈ ready, ∃ n < 2 ^ 30, i = Int32.ofNat n
  nodup : ready.Nodup
  settled_eq : b.settled.toInt = ready.length

theorem holds_new : Bitmap.new.Holds [] where
  shape := ⟨0, Nat.zero_le _, rfl, rfl⟩
  mem_iff n _ := by
    rw [show Bitmap.new.bits = List.replicate 8 0 from rfl, ByteBits.testBit_replicate_zero]
    simp
  range := by simp
  nodup := List.nodup_nil
  settled_eq := rfl

variable {b : Bitmap} {ready : List Int32} {n m : ℕ}

/-- A capacity of `64 * 2 ^ k` is eight bits for each of `8 * 2 ^ k` bytes. -/
theorem cap_eq_bytes {k : ℕ} (hcap : b.cap = Int32.ofNat (64 * 2 ^ k)) :
    b.cap = Int32.ofNat (8 * (8 * 2 ^ k)) := by
  rw [hcap, ← Nat.mul_assoc]

/-- The shape of a bitmap that stands for ready pieces, counted in bytes. -/
theorem Holds.bytes (h : b.Holds ready) :
    ∃ k ≤ 24, b.cap = Int32.ofNat (8 * (8 * 2 ^ k)) ∧ b.bits.length = 8 * 2 ^ k ∧
      8 * (8 * 2 ^ k) ≤ 2 ^ 30 := by
  obtain ⟨k, hk, hcap, hlen⟩ := h.shape
  have hle := cap_le hk
  exact ⟨k, hk, cap_eq_bytes hcap, hlen, by omega⟩

/-- A bitmap of `m` bytes below `2^28` has room for `8 m` pieces, and a piece number is at or past
that capacity exactly as a natural. -/
theorem ofNat_ge_cap_iff (hcap : b.cap = Int32.ofNat (8 * m)) (hm : 8 * m < 2 ^ 31)
    (hn : n < 2 ^ 31) : Int32.ofNat n ≥ b.cap ↔ 8 * m ≤ n := by
  rw [hcap, ge_iff_le, ← Int32.not_lt, Int32.ofNat_lt_ofNat_iff hn hm, Nat.not_lt]

/-- While twice the capacity stays below `2^31`, growing appends a zero byte for each byte and
doubles the capacity without wrapping. -/
theorem grow_of_bytes (hcap : b.cap = Int32.ofNat (8 * m)) (hm : 16 * m < 2 ^ 31) :
    b.grow = some ⟨b.bits ++ List.replicate m 0, Int32.ofNat (16 * m), b.settled⟩ := by
  have hdiv : b.cap / 8 = Int32.ofNat m := by
    rw [hcap, ofNat_div_eight (by omega)]
    congr 1
    omega
  have hnonneg : ¬ b.cap / 8 < 0 := by
    rw [hdiv, Int32.not_lt, Int32.le_iff_toInt_le, Int32.toInt_ofNat_of_lt (by omega)]
    exact Int.natCast_nonneg _
  have hdouble : b.cap * 2 = Int32.ofNat (16 * m) := by
    apply Int32.toInt_inj.mp
    have h2 : (2 : Int32).toInt = 2 := rfl
    rw [hcap, Int32.toInt_mul, Int32.toInt_ofNat_of_lt (by omega), h2,
      Int32.toInt_ofNat_of_lt (by omega), Int.bmod_eq_of_le (by omega) (by omega)]
    push_cast
    omega
  rw [grow, if_neg hnonneg, hdiv, Int32.toNatClampNeg_ofNat_of_lt (by omega), hdouble]

/-- `Set` of an index at or past the capacity, once the bitmap has grown. -/
theorem set_of_grow {i : Int32} (hge : i ≥ b.cap) {b' : Bitmap} (hgrow : b.grow = some b') :
    b.set i = (byteAt b'.bits (i / 8)).map fun byte =>
      { b' with
        bits := b'.bits.set (i / 8).toNatClampNeg (byte ||| byteBit (7 - i % 8))
        settled := b'.settled + 1 } := by
  unfold set
  rw [if_pos hge, hgrow]

/-- The byte of a piece number, where it is in the slice. -/
theorem byteAt_div_eight {bits : List UInt8} (hn : n < 2 ^ 31) (hbyte : n / 8 < bits.length) :
    byteAt bits (Int32.ofNat n / 8) = some (bits.getD (n / 8) 0) := by
  rw [ofNat_div_eight hn, byteAt_ofNat _ (by omega), List.getD_eq_getElem?_getD,
    List.getElem?_eq_getElem hbyte, Option.getD_some]

theorem toNatClampNeg_div_eight (hn : n < 2 ^ 31) :
    (Int32.ofNat n / 8).toNatClampNeg = n / 8 := by
  rw [ofNat_div_eight hn, Int32.toNatClampNeg_ofNat_of_lt (by omega)]

/-- `IsSet` of a piece number reads its bit, past the capacity too. -/
theorem isSet_ofNat (hcap : b.cap = Int32.ofNat (8 * m)) (hlen : b.bits.length = m)
    (hm : 8 * m < 2 ^ 31) (hn : n < 2 ^ 31) :
    b.isSet (Int32.ofNat n) = some (ByteBits.testBit b.bits n) := by
  unfold isSet
  by_cases hlt : n < 8 * m
  · -- inside the capacity: the byte of `n` is read through its mask
    rw [if_neg (by rw [ofNat_ge_cap_iff hcap hm hn]; omega), byteAt_div_eight hn (by omega),
      Option.map_some, byteBit_seven_sub hn, ByteBits.and_bit_ne_zero _ (by omega)]
    rfl
  · -- at or past the capacity: no bit is set there
    rw [if_pos ((ofNat_ge_cap_iff hcap hm hn).mpr (by omega)),
      ByteBits.testBit_of_length_le (by omega)]

/-- `Set` inside the capacity sets the bit in place. -/
theorem set_ofNat_of_lt (hcap : b.cap = Int32.ofNat (8 * m)) (hlen : b.bits.length = m)
    (hm : 8 * m < 2 ^ 31) (hlt : n < 8 * m) :
    b.set (Int32.ofNat n) = some ⟨ByteBits.setBit b.bits n, b.cap, b.settled + 1⟩ := by
  have hn : n < 2 ^ 31 := by omega
  unfold set
  rw [if_neg (by rw [ofNat_ge_cap_iff hcap hm hn]; omega)]
  dsimp only
  rw [byteAt_div_eight hn (by omega), Option.map_some, toNatClampNeg_div_eight hn,
    byteBit_seven_sub hn]
  rfl

/-- `Set` between the capacity and twice it doubles the bitmap once, then sets the bit. -/
theorem set_ofNat_of_grow (hcap : b.cap = Int32.ofNat (8 * m)) (hlen : b.bits.length = m)
    (hm : 16 * m < 2 ^ 31) (hge : 8 * m ≤ n) (hlt : n < 16 * m) :
    b.set (Int32.ofNat n) = some ⟨ByteBits.setBit (b.bits ++ List.replicate m 0) n,
      Int32.ofNat (16 * m), b.settled + 1⟩ := by
  have hn : n < 2 ^ 31 := by omega
  have hbyte : n / 8 < (b.bits ++ List.replicate m 0).length := by
    rw [List.length_append, List.length_replicate]
    omega
  rw [set_of_grow ((ofNat_ge_cap_iff hcap (by omega) hn).mpr hge) (grow_of_bytes hcap hm)]
  dsimp only
  rw [byteAt_div_eight hn hbyte, Option.map_some, toNatClampNeg_div_eight hn, byteBit_seven_sub hn]
  rfl

/-- `Set` at or past twice the capacity grows the bitmap once, which is not enough: the index
panics. -/
theorem set_ofNat_of_two_mul_le (hcap : b.cap = Int32.ofNat (8 * m)) (hlen : b.bits.length = m)
    (hge : 16 * m ≤ n) (hn : n < 2 ^ 31) : b.set (Int32.ofNat n) = none := by
  -- the grown bitmap has `2 m` bytes, and `n / 8` is past them
  have hbyte : (b.bits ++ List.replicate m 0).length ≤ n / 8 := by
    rw [List.length_append, List.length_replicate]
    omega
  rw [set_of_grow ((ofNat_ge_cap_iff hcap (by omega) hn).mpr (by omega))
    (grow_of_bytes hcap (by omega))]
  dsimp only
  rw [ofNat_div_eight hn, byteAt_ofNat _ (by omega), List.getElem?_eq_none hbyte, Option.map_none]

end Bitmap

namespace Bitmap

variable {b : Bitmap} {ready : List Int32} {n : ℕ}

/-- Setting the bit of a new piece in bytes that read as the bitmap's, with the capacity they
give, adds the piece to the list the bitmap stands for. -/
theorem Holds.setBit (h : b.Holds ready) (hn : n < 2 ^ 30) (hnew : Int32.ofNat n ∉ ready)
    {bits : List UInt8} {k : ℕ} (hk : k ≤ 24) (hlen : bits.length = 8 * 2 ^ k)
    (hbyte : n / 8 < bits.length) (hbits : ∀ m, ByteBits.testBit bits m = ByteBits.testBit b.bits m) :
    (⟨ByteBits.setBit bits n, Int32.ofNat (64 * 2 ^ k), b.settled + 1⟩ : Bitmap).Holds
      (ready ++ [Int32.ofNat n]) where
  shape := ⟨k, hk, rfl, by rw [ByteBits.length_setBit, hlen]⟩
  mem_iff m hm := by
    rw [ByteBits.testBit_setBit hbyte, hbits, Bool.or_eq_true, h.mem_iff m hm, decide_eq_true_iff,
      List.mem_append, List.mem_singleton, Int32.ofNat_eq_ofNat_iff hm (by omega)]
  range i hi := by
    rcases List.mem_append.mp hi with hi | hi
    · exact h.range i hi
    · exact ⟨n, hn, List.mem_singleton.mp hi⟩
  nodup := List.nodup_append_comm.mp (List.nodup_cons.mpr ⟨hnew, h.nodup⟩)
  settled_eq := by
    -- at most `2^30` pieces are ready, so the count does not wrap
    have hle := length_le_of_range h.nodup h.range
    have h1 : (1 : Int32).toInt = 1 := rfl
    rw [Int32.toInt_add, h.settled_eq, h1, List.length_append, List.length_singleton,
      Int.bmod_eq_of_le (by omega) (by omega)]
    push_cast
    rfl

/-- `Set` of a new piece below `2^30` that does not panic keeps the bitmap standing for the list
with the piece added. -/
theorem Holds.set (h : b.Holds ready) (hn : n < 2 ^ 30) (hnew : Int32.ofNat n ∉ ready)
    {b' : Bitmap} (hset : b.set (Int32.ofNat n) = some b') : b'.Holds (ready ++ [Int32.ofNat n]) := by
  obtain ⟨k, hk, hcap, hlen⟩ := h.shape
  have hcap8 := cap_eq_bytes hcap
  have hle := cap_le hk
  by_cases hlt : n < 64 * 2 ^ k
  · -- inside the capacity
    rw [set_ofNat_of_lt hcap8 hlen (by omega) (by omega), Option.some.injEq] at hset
    subst hset
    rw [hcap]
    exact h.setBit hn hnew hk hlen (by omega) fun _ => rfl
  · by_cases hlt2 : n < 2 * (64 * 2 ^ k)
    · -- between the capacity and twice it: one doubling makes room
      have hk' : k < 24 := by
        by_contra hk'
        have : 2 ^ 24 ≤ 2 ^ k := Nat.pow_le_pow_right (by decide) (by omega)
        omega
      rw [set_ofNat_of_grow hcap8 hlen (by omega) (by omega) (by omega), Option.some.injEq] at hset
      subst hset
      have hlen' : (b.bits ++ List.replicate (8 * 2 ^ k) 0).length = 8 * 2 ^ (k + 1) := by
        rw [List.length_append, List.length_replicate, hlen, Nat.pow_succ]
        omega
      have hcap' : Int32.ofNat (16 * (8 * 2 ^ k)) = Int32.ofNat (64 * 2 ^ (k + 1)) := by
        rw [Nat.pow_succ]
        congr 1
        omega
      rw [hcap']
      exact h.setBit hn hnew (by omega) hlen' (by omega) fun m => ByteBits.testBit_append_zeros _ _ m
    · rw [set_ofNat_of_two_mul_le hcap8 hlen (by omega) (by omega)] at hset
      cases hset

end Bitmap

/-! ### Bitmaps made with a capacity -/

namespace Bitmap

/-- `NewBitmapWithCap(c)` for `8 c` below `2^31`: `c` zero bytes and room for `8 c` pieces. -/
theorem newWithCap_ofNat {c : ℕ} (hc : 8 * c < 2 ^ 31) :
    newWithCap (Int32.ofNat c) = some ⟨List.replicate c 0, Int32.ofNat (8 * c), 0⟩ := by
  have hnonneg : ¬ Int32.ofNat c < 0 := by
    rw [Int32.not_lt, Int32.le_iff_toInt_le, Int32.toInt_ofNat_of_lt (by omega)]
    exact Int.natCast_nonneg _
  have hmul : Int32.ofNat c * 8 = Int32.ofNat (8 * c) := by
    rw [Nat.mul_comm, Int32.ofNat_mul]
    rfl
  rw [newWithCap, if_neg hnonneg, Int32.toNatClampNeg_ofNat_of_lt (by omega), hmul]

/-- `NewBitmap()` is `NewBitmapWithCap(8)`. -/
theorem newWithCap_eight : newWithCap (Int32.ofNat 8) = some new := newWithCap_ofNat (by decide)

end Bitmap

/-- From `NewBitmapWithCap(c)`, a first `Set` of any index from `16 c` up panics, since one
doubling leaves it past the bytes; and `Sets(i, i)` of an index inside the capacity sets one bit
but counts two settled indices. -/
theorem newWithCap_sets_break_invariant {c : ℕ} (hc : 16 * c < 2 ^ 31) :
    (∀ n, 16 * c ≤ n → n < 2 ^ 31 →
      (Bitmap.newWithCap (Int32.ofNat c)).bind (fun b => b.sets [Int32.ofNat n]) = none) ∧
    ∀ n < 8 * c, ∃ b, (Bitmap.newWithCap (Int32.ofNat c)).bind
        (fun b => b.sets [Int32.ofNat n, Int32.ofNat n]) = some b ∧
      b.settled = 2 ∧ ∀ j < 2 ^ 31, b.isSet (Int32.ofNat j) = some (decide (j = n)) := by
  rw [Bitmap.newWithCap_ofNat (by omega)]
  simp only [Option.bind_some]
  constructor
  · intro n hge hn
    rw [Bitmap.sets, Bitmap.set_ofNat_of_two_mul_le rfl List.length_replicate hge hn]
    rfl
  · intro n hn
    -- both calls set the bit in place, and each counts itself
    have hbyte : n / 8 < (List.replicate c (0 : UInt8)).length := by
      rw [List.length_replicate]
      omega
    have hfirst := Bitmap.set_ofNat_of_lt (b := ⟨List.replicate c 0, Int32.ofNat (8 * c), 0⟩)
      rfl List.length_replicate (by omega) hn
    have hsecond := Bitmap.set_ofNat_of_lt
      (b := ⟨ByteBits.setBit (List.replicate c 0) n, Int32.ofNat (8 * c), 0 + 1⟩)
      rfl (by rw [ByteBits.length_setBit, List.length_replicate]) (by omega) hn
    refine ⟨⟨ByteBits.setBit (ByteBits.setBit (List.replicate c 0) n) n, Int32.ofNat (8 * c),
      0 + 1 + 1⟩, ?_, rfl, fun j hj => ?_⟩
    · rw [Bitmap.sets, hfirst, Option.bind_some, Bitmap.sets, hsecond, Option.bind_some, Bitmap.sets]
    · rw [Bitmap.isSet_ofNat rfl (by rw [ByteBits.length_setBit, ByteBits.length_setBit,
          List.length_replicate]) (by omega) hj,
        ByteBits.testBit_setBit (by rw [ByteBits.length_setBit]; exact hbyte),
        ByteBits.testBit_setBit hbyte, ByteBits.testBit_replicate_zero]
      simp

theorem newWithCap_sets_break_invariant_eight :
    (Bitmap.newWithCap (Int32.ofNat 8)).bind (fun b => b.sets [Int32.ofNat 128]) = none ∧
      ∃ b, (Bitmap.newWithCap (Int32.ofNat 8)).bind
          (fun b => b.sets [Int32.ofNat 3, Int32.ofNat 3]) = some b ∧
        b.settled = 2 ∧ ∀ j < 2 ^ 31, b.isSet (Int32.ofNat j) = some (decide (j = 3)) :=
  ⟨(newWithCap_sets_break_invariant (c := 8) (by decide)).1 128 (by decide) (by decide),
    (newWithCap_sets_break_invariant (c := 8) (by decide)).2 3 (by decide)⟩

/-! ### The bitmap conductor refines the list conductor -/

/-- The bitmap state stands for the conductor: its bits are the conductor's ready pieces,
`settled` counts them, and the lengths and `statusOnce` agree. -/
structure Simulates (s : PublishState) (pt : Conductor) : Prop where
  holds : s.readyPieces.Holds pt.readyPieces
  completedLength_eq : s.completedLength = pt.completedLength
  contentLength_eq : s.contentLength = pt.contentLength
  doneRun_eq : s.doneRun = pt.status.isSome

theorem simulates_new (peerID : List Char) :
    Simulates ⟨Bitmap.new, 0, -1, false⟩ (Conductor.new peerID) :=
  ⟨Bitmap.holds_new, rfl, rfl, rfl⟩

section Publish

variable (calculateDigest : Bool) (sha256 : List (List Char) → List Char)
variable {s : PublishState} {pt : Conductor} {t : TaskStore} {n : ℕ} {size : UInt32}

/-- One publication of a piece below `2^30` that does not panic keeps the bitmap state standing
for the conductor, and runs `done` exactly when the conductor's `statusOnce` runs it. -/
theorem Simulates.publishPieceInfo (h : Simulates s pt) (hn : n < 2 ^ 30) {s' : PublishState}
    {ran : Bool} (hpub : s.publishPieceInfo (Int32.ofNat n) size = some (s', ran)) :
    Simulates s' (pt.publishPieceInfo calculateDigest sha256 t (Int32.ofNat n) size).1 ∧
      ran = (!pt.status.isSome &&
        (pt.publishPieceInfo calculateDigest sha256 t (Int32.ofNat n) size).1.status.isSome) := by
  obtain ⟨k, -, hcap, hlen, hle⟩ := h.holds.bytes
  have hisSet := Bitmap.isSet_ofNat hcap hlen (by omega) (n := n) (by omega)
  by_cases hready : Int32.ofNat n ∈ pt.readyPieces
  · -- a ready piece is skipped on both sides
    have hbit : ByteBits.testBit s.readyPieces.bits n = true :=
      (h.holds.mem_iff n (by omega)).mpr hready
    rw [PublishState.publishPieceInfo, hisSet, hbit, Option.some.injEq, Prod.mk.injEq] at hpub
    obtain ⟨rfl, rfl⟩ := hpub
    rw [Conductor.publishPieceInfo_of_ready calculateDigest sha256 hready]
    exact ⟨h, by simp⟩
  · -- a new piece: the bitmap sets it, the conductor appends it
    have hbit : ByteBits.testBit s.readyPieces.bits n = false := by
      cases hb : ByteBits.testBit s.readyPieces.bits n with
      | false => rfl
      | true => exact absurd ((h.holds.mem_iff n (by omega)).mp hb) hready
    obtain ⟨hr, hcl, hcn, hst⟩ :=
      @Conductor.publishPieceInfo_accounting calculateDigest sha256 pt t _ size hready
    rw [PublishState.publishPieceInfo, hisSet, hbit] at hpub
    dsimp only at hpub
    cases hset : s.readyPieces.set (Int32.ofNat n) with
    | none => rw [hset] at hpub; cases hpub
    | some ready =>
      rw [hset] at hpub
      dsimp only at hpub
      have hholds : ready.Holds (pt.readyPieces ++ [Int32.ofNat n]) := h.holds.set hn hready hset
      rw [h.completedLength_eq, h.contentLength_eq, h.doneRun_eq] at hpub
      split at hpub
      · next hdone =>
        rw [Option.some.injEq, Prod.mk.injEq] at hpub
        obtain ⟨rfl, rfl⟩ := hpub
        refine ⟨⟨hr ▸ hholds, hcl.symm, hcn.symm, ?_⟩, ?_⟩
        · rw [hst]
          simp [hdone.1]
        · rw [hst]
          simp [hdone.1, hdone.2]
      · next hdone =>
        rw [Option.some.injEq, Prod.mk.injEq] at hpub
        obtain ⟨rfl, rfl⟩ := hpub
        refine ⟨⟨hr ▸ hholds, hcl.symm, hcn.symm, ?_⟩, ?_⟩
        · -- `statusOnce` had run before, or the task is not complete now
          rw [hst]
          cases hs : pt.status.isSome <;> simp_all
        · rw [hst]
          cases hs : pt.status.isSome <;> simp_all

/-- `PublishPieceInfo` of a piece at or past twice the capacity of the bitmap panics, whatever
the pieces published before; the conductor's list of ready pieces would take it. -/
theorem publishPieceInfo_panics_past_twice_cap (h : Simulates s pt) (hn : n < 2 ^ 31)
    (hcap : 2 * s.readyPieces.cap.toNatClampNeg ≤ n) (t : TaskStore) (size : UInt32) :
    s.publishPieceInfo (Int32.ofNat n) size = none ∧
      (pt.publishPieceInfo calculateDigest sha256 t (Int32.ofNat n) size).1.readyPieces =
        pt.readyPieces ++ [Int32.ofNat n] := by
  obtain ⟨k, -, hcap', hlen, hle⟩ := h.holds.bytes
  rw [hcap', Int32.toNatClampNeg_ofNat_of_lt (by omega)] at hcap
  -- the piece is past the bytes, so it is not ready
  have hbit : ByteBits.testBit s.readyPieces.bits n = false :=
    ByteBits.testBit_of_length_le (by omega)
  have hnew : Int32.ofNat n ∉ pt.readyPieces := fun hmem => by
    rw [← h.holds.mem_iff n hn, hbit] at hmem
    cases hmem
  refine ⟨?_, (Conductor.publishPieceInfo_accounting calculateDigest sha256 hnew).1⟩
  rw [PublishState.publishPieceInfo, Bitmap.isSet_ofNat hcap' hlen (by omega) hn, hbit]
  dsimp only
  rw [Bitmap.set_ofNat_of_two_mul_le hcap' hlen (by omega) hn]

theorem publishPieceInfo_panics_past_twice_cap_fresh :
    Simulates ⟨Bitmap.new, 0, -1, false⟩ (Conductor.new []) ∧ 128 < 2 ^ 31 ∧
      2 * Bitmap.new.cap.toNatClampNeg ≤ 128 ∧
      (PublishState.publishPieceInfo ⟨Bitmap.new, 0, -1, false⟩ (Int32.ofNat 128) 1 = none ∧
        ((Conductor.new []).publishPieceInfo false (fun _ => []) ⟨[], -1, -1, fun _ => none, [], false⟩
          (Int32.ofNat 128) 1).1.readyPieces = (Conductor.new []).readyPieces ++ [Int32.ofNat 128]) :=
  ⟨simulates_new [], by decide, by decide,
    publishPieceInfo_panics_past_twice_cap false (fun _ => []) (simulates_new []) (by decide)
      (by decide) _ _⟩

/-! ### Runs -/

/-- A sequence of `PublishPieceInfo` calls on the bitmap state; `none` once one panics. -/
def PublishState.publishRun (s : PublishState) : List (Int32 × UInt32) → Option PublishState
  | [] => some s
  | (pieceNum, size) :: rest =>
    match s.publishPieceInfo pieceNum size with
    | none => none
    | some (s', _) => s'.publishRun rest

/-- The same sequence of calls on the conductor and its store. -/
def Conductor.publishRun (pt : Conductor) (t : TaskStore) :
    List (Int32 × UInt32) → Conductor × TaskStore
  | [] => (pt, t)
  | (pieceNum, size) :: rest =>
    let r := pt.publishPieceInfo calculateDigest sha256 t pieceNum size
    Conductor.publishRun r.1 r.2 rest

/-- A run of publications of pieces below `2^30` that does not panic leaves the bitmap state
standing for the conductor after the same run: the bits are the pieces published, `settled`
counts them, and the lengths and `statusOnce` are the conductor's. -/
theorem publishRun_simulates (h : Simulates s pt) (t : TaskStore) {ps : List (ℕ × UInt32)}
    (hps : ∀ p ∈ ps, p.1 < 2 ^ 30) {s' : PublishState}
    (hrun : s.publishRun (ps.map fun p => (Int32.ofNat p.1, p.2)) = some s') :
    Simulates s'
      (Conductor.publishRun calculateDigest sha256 pt t (ps.map fun p => (Int32.ofNat p.1, p.2))).1 := by
  -- induction on the calls, the simulation carried from each state to the next
  induction ps generalizing s pt t with
  | nil =>
    rw [List.map_nil, PublishState.publishRun, Option.some.injEq] at hrun
    subst hrun
    exact h
  | cons p ps ih =>
    rw [List.map_cons, PublishState.publishRun] at hrun
    cases hpub : s.publishPieceInfo (Int32.ofNat p.1) p.2 with
    | none => rw [hpub] at hrun; cases hrun
    | some r =>
      obtain ⟨s₁, ran⟩ := r
      rw [hpub] at hrun
      have hstep := (h.publishPieceInfo calculateDigest sha256 (t := t)
        (hps p (List.mem_cons_self ..)) hpub).1
      exact ih hstep _ (fun q hq => hps q (List.mem_cons_of_mem _ hq)) hrun

theorem publishRun_simulates_two :
    Simulates ⟨Bitmap.new, 0, -1, false⟩ (Conductor.new []) ∧
      (∀ p ∈ [((0 : ℕ), (10 : UInt32)), (1, 20)], p.1 < 2 ^ 30) ∧
      PublishState.publishRun ⟨Bitmap.new, 0, -1, false⟩
          ([((0 : ℕ), (10 : UInt32)), (1, 20)].map fun p => (Int32.ofNat p.1, p.2)) =
        some ⟨⟨[192, 0, 0, 0, 0, 0, 0, 0], 8 * 8, 2⟩, 30, -1, false⟩ ∧
      Simulates ⟨⟨[192, 0, 0, 0, 0, 0, 0, 0], 8 * 8, 2⟩, 30, -1, false⟩
        (Conductor.publishRun false (fun _ => []) (Conductor.new []) ⟨[], -1, -1, fun _ => none, [], false⟩
          ([((0 : ℕ), (10 : UInt32)), (1, 20)].map fun p => (Int32.ofNat p.1, p.2))).1 :=
  ⟨simulates_new [], by simp, by decide,
    publishRun_simulates false (fun _ => []) (simulates_new []) _ (by simp) (by decide)⟩

end Publish

end Dragonfly.Daemon
