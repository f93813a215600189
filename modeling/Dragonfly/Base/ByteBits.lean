import Mathlib.Data.Nat.Bitwise

/-!
# Bits in a byte array

A bitmap kept in bytes, the bits of each byte numbered from its high end: bit `n` is bit
`7 - n % 8` of byte `n / 8`, and the bits past the last byte are clear (`testBit`). `setBit`
sets one bit of the bytes and no other (`testBit_setBit`); appending zero bytes sets none
(`testBit_append_zeros`).

A bit of a byte is read and set through the mask `bit s` (`and_bit_ne_zero`,
`testBit_or_bit`).
-/

namespace Dragonfly.Base.ByteBits

/-- The byte with only bit `s` set, `1 << s`. -/
def bit (s : ℕ) : UInt8 := UInt8.ofNat (2 ^ s)

/-- Bit `n` of the bytes. -/
def testBit (bytes : List UInt8) (n : ℕ) : Bool :=
  (bytes.getD (n / 8) 0).toNat.testBit (7 - n % 8)

/-- Set bit `n` of the bytes. -/
def setBit (bytes : List UInt8) (n : ℕ) : List UInt8 :=
  bytes.set (n / 8) (bytes.getD (n / 8) 0 ||| bit (7 - n % 8))

theorem toNat_bit {s : ℕ} (hs : s < 8) : (bit s).toNat = 2 ^ s := by
  have hlt : 2 ^ s < 2 ^ 8 := Nat.pow_lt_pow_right (by decide) hs
  rw [bit, UInt8.toNat_ofNat', Nat.mod_eq_of_lt hlt]

/-- A one-bit mask reads the bit. -/
theorem and_bit_ne_zero (x : UInt8) {s : ℕ} (hs : s < 8) :
    (x &&& bit s != 0) = x.toNat.testBit s := by
  have hand : (x &&& bit s).toNat = (x.toNat.testBit s).toNat * 2 ^ s := by
    rw [UInt8.toNat_and, toNat_bit hs, Nat.and_two_pow]
  cases h : x.toNat.testBit s with
  | false =>
    rw [h, Bool.toNat_false, Nat.zero_mul, ← UInt8.toNat_zero, UInt8.toNat_inj] at hand
    simp [hand]
  | true =>
    have hne : x &&& bit s ≠ 0 := by
      intro h0
      rw [h0, h, UInt8.toNat_zero, Bool.toNat_true, Nat.one_mul] at hand
      exact absurd hand.symm (Nat.two_pow_pos s).ne'
    simp [hne]

/-- Setting a bit of a byte leaves the others. -/
theorem testBit_or_bit (x : UInt8) {s : ℕ} (hs : s < 8) (t : ℕ) :
    (x ||| bit s).toNat.testBit t = (x.toNat.testBit t || decide (s = t)) := by
  rw [UInt8.toNat_or, Nat.testBit_or, toNat_bit hs, Nat.testBit_two_pow]

@[simp] theorem length_setBit (bytes : List UInt8) (n : ℕ) :
    (setBit bytes n).length = bytes.length :=
  List.length_set

/-- Setting bit `n` sets it and no other. -/
theorem testBit_setBit {bytes : List UInt8} {n : ℕ} (hn : n / 8 < bytes.length) (m : ℕ) :
    testBit (setBit bytes n) m = (testBit bytes m || decide (m = n)) := by
  unfold testBit setBit
  by_cases hk : n / 8 = m / 8
  · -- the same byte: the bit positions agree exactly when the indices do
    rw [← hk, List.getD_eq_getElem?_getD, List.getElem?_set_self hn, Option.getD_some,
      testBit_or_bit _ (by omega)]
    have hpos : (7 - n % 8 = 7 - m % 8) ↔ m = n := by omega
    simp only [hpos]
  · -- another byte is left as it is
    have hne : m ≠ n := fun h => hk (h ▸ rfl)
    rw [List.getD_eq_getElem?_getD, List.getElem?_set_ne hk, ← List.getD_eq_getElem?_getD]
    simp [hne]

/-- The bits past the last byte are clear. -/
theorem testBit_of_length_le {bytes : List UInt8} {n : ℕ} (h : bytes.length ≤ n / 8) :
    testBit bytes n = false := by
  rw [testBit, List.getD_eq_getElem?_getD, List.getElem?_eq_none h]
  simp

/-- Zero bytes appended set no bit. -/
theorem testBit_append_zeros (bytes : List UInt8) (k n : ℕ) :
    testBit (bytes ++ List.replicate k 0) n = testBit bytes n := by
  by_cases h : n / 8 < bytes.length
  · rw [testBit, testBit, List.getD_eq_getElem?_getD, List.getElem?_append_left h,
      ← List.getD_eq_getElem?_getD]
  · rw [testBit_of_length_le (Nat.le_of_not_lt h), testBit, List.getD_eq_getElem?_getD,
      List.getElem?_append_right (Nat.le_of_not_lt h), List.getElem?_replicate]
    split <;> simp

theorem testBit_replicate_zero (k n : ℕ) : testBit (List.replicate k 0) n = false := by
  simpa [testBit_of_length_le] using testBit_append_zeros [] k n

end Dragonfly.Base.ByteBits
