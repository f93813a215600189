import Dragonfly.Base.GoText

/-!
# Byte ranges

`pkg/util/rangeutils/range.go`. A range is a pair of `uint64` indices printed as
`start-end`; `GetRange` reads that form back, and `ParseRange` reads the three forms of an
HTTP range against a file length: `-n` for the last `n` bytes, `s-` from `s` to the end, and
`s-e` with `e` cut down to the last byte. Every error is a constructor named after its
message, carrying the text it prints.
-/

namespace Dragonfly.Util

open Dragonfly.Base.GoText

/-- `rangeutils.Range` (`range.go:31`). -/
structure Range where
  startIndex : UInt64
  endIndex : UInt64
  deriving DecidableEq, Repr

/-- `separator` (`range.go:28`). -/
def separator : Char := '-'

namespace Range

/-- `Range.String` (`range.go:36`): `fmt.Sprintf("%d%s%d", ..)`. -/
def toString (r : Range) : List Char :=
  formatUint r.startIndex.toNat ++ separator :: formatUint r.endIndex.toNat

/-- `Range.Length` (`range.go:40`), in `uint64` arithmetic. -/
def length (r : Range) : UInt64 := r.endIndex - r.startIndex + 1

end Range

/-- The errors of `GetRange` (`range.go:46–62`), with the range text they print. -/
inductive GetRangeError where
  /-- `"range value(%s) is illegal which should be like 0-45535"` -/
  | illegal (rangeStr : List Char)
  /-- `"range(%s) start is not a non-negative number"` -/
  | startNotNumber (rangeStr : List Char)
  /-- `"range(%s) end is not a non-negative number"` -/
  | endNotNumber (rangeStr : List Char)
  /-- `"range(%s) start is larger than end"` -/
  | startLargerThanEnd (rangeStr : List Char)
  deriving DecidableEq, Repr

/-- `GetRange` (`range.go:44`): split at the separator into exactly two unsigned numbers,
the start no larger than the end. -/
def getRange (rangeStr : List Char) : Except GetRangeError Range :=
  match rangeStr.splitOn separator with
  | [startStr, endStr] =>
    match parseUint 64 startStr with
    | .error _ => .error (.startNotNumber rangeStr)
    | .ok startIndex =>
      match parseUint 64 endStr with
      | .error _ => .error (.endNotNumber rangeStr)
      | .ok endIndex =>
        if endIndex < startIndex then .error (.startLargerThanEnd rangeStr)
        else .ok ⟨UInt64.ofNat startIndex, UInt64.ofNat endIndex⟩
  | _ => .error (.illegal rangeStr)

/-- The errors of `ParseRange` and its handlers (`range.go:66–147`). -/
inductive ParseRangeError where
  /-- `"invalid range: %s, should be like 0-1023"` -/
  | invalid (rangeStr : List Char)
  /-- `"failed to parse range: %s to int: %v"` -/
  | parseInt (rangeStr : List Char) (err : NumError)
  /-- `"failed to parse range: %s to uint: %v"` -/
  | parseUint (rangeStr : List Char) (err : NumError)
  /-- `"range: %s, the downLength is larger than length"` -/
  | downLengthLarger (rangeStr : List Char)
  /-- `"range: %s, the startIndex is larger than length"` -/
  | startIndexLarger (rangeStr : List Char)
  /-- `"range: %s, the start is larger the end"` -/
  | startLargerThanEnd (rangeStr : List Char)
  deriving DecidableEq, Repr

/-- `handlePrefixRange` (`range.go:98`): the last `downLength` bytes. -/
def handlePrefixRange (rangeStr : List Char) (length : UInt64) : Except ParseRangeError Range :=
  match parseUint 64 (trimPrefix rangeStr separator) with
  | .error e => .error (.parseInt rangeStr e)
  | .ok downLength =>
    if length < UInt64.ofNat downLength then .error (.downLengthLarger rangeStr)
    else .ok ⟨length - UInt64.ofNat downLength, length - 1⟩

/-- `handleSuffixRange` (`range.go:114`): from `startIndex` to the last byte. -/
def handleSuffixRange (rangeStr : List Char) (length : UInt64) : Except ParseRangeError Range :=
  match parseUint 64 (trimSuffix rangeStr separator) with
  | .error e => .error (.parseUint rangeStr e)
  | .ok startIndex =>
    if length < UInt64.ofNat startIndex then .error (.startIndexLarger rangeStr)
    else .ok ⟨UInt64.ofNat startIndex, length - 1⟩

/-- `handlePairRange` (`range.go:130`): both ends given, the end cut down to the last byte. -/
def handlePairRange (rangeStr : List Char) (length : UInt64) : Except ParseRangeError Range :=
  match rangeStr.splitOn separator with
  | startStr :: endStr :: _ =>
    match parseUint 64 startStr with
    | .error e => .error (.parseUint rangeStr e)
    | .ok startIndex =>
      if length < UInt64.ofNat startIndex then .error (.startIndexLarger rangeStr)
      else
        match parseUint 64 endStr with
        | .error e => .error (.parseUint rangeStr e)
        | .ok endIndex =>
          let endIndex := if length ≤ UInt64.ofNat endIndex then length - 1
            else UInt64.ofNat endIndex
          if endIndex < UInt64.ofNat startIndex then .error (.startLargerThanEnd rangeStr)
          else .ok ⟨UInt64.ofNat startIndex, endIndex⟩
  -- `rangePair[1]` panics here; `ParseRange` only calls with one separator, so two parts
  | _ => .error (.invalid rangeStr)

/-- `ParseRange` (`range.go:66`): exactly one separator, then by where it stands. -/
def parseRange (rangeStr : List Char) (length : UInt64) : Except ParseRangeError Range :=
  if rangeStr.count separator ≠ 1 then .error (.invalid rangeStr)
  else if hasPrefix rangeStr separator then handlePrefixRange rangeStr length
  else if hasSuffix rangeStr separator then handleSuffixRange rangeStr length
  else handlePairRange rangeStr length

/-! ### Printing and reading back -/

theorem separator_not_mem_formatUint (n : ℕ) : separator ∉ formatUint n :=
  not_mem_formatUint (by decide)

/-- A printed range splits at its separator into its two printed indices. -/
theorem splitOn_toString (r : Range) :
    r.toString.splitOn separator = [formatUint r.startIndex.toNat, formatUint r.endIndex.toNat] := by
  rw [Range.toString, List.splitOn_append_cons_self_of_not_mem (separator_not_mem_formatUint _),
    List.splitOn_eq_singleton (separator_not_mem_formatUint _)]

/-- `GetRange` reads back every printed range whose start is no larger than its end. -/
theorem getRange_toString {r : Range} (h : r.startIndex ≤ r.endIndex) :
    getRange r.toString = .ok r := by
  have hle : r.startIndex.toNat ≤ r.endIndex.toNat := UInt64.le_iff_toNat_le.mp h
  rw [getRange, splitOn_toString]
  simp only [parseUint_formatUint (UInt64.toNat_lt r.startIndex),
    parseUint_formatUint (UInt64.toNat_lt r.endIndex), UInt64.ofNat_toNat, Nat.not_lt.mpr hle,
    if_false]

/-- The characters of a printed range are digits and its separator. -/
theorem isDigit_of_mem_toString {r : Range} {c : Char} (h : c ∈ r.toString) :
    c.isDigit ∨ c = separator := by
  simp only [Range.toString, List.mem_append, List.mem_cons] at h
  rcases h with h | h | h
  · exact .inl (isDigit_of_mem_formatUint h)
  · exact .inr h
  · exact .inl (isDigit_of_mem_formatUint h)

/-! ### What `ParseRange` returns -/

/-- A range that ends before the length `n` and starts at most one past its end, one past
only when it starts at `n`. -/
def Range.Within (n : UInt64) (r : Range) : Prop :=
  r.endIndex < n ∧ (r.startIndex ≤ r.endIndex ∨ r.startIndex = n)

section Within

variable {rangeStr : List Char} {n : UInt64} {r : Range}

private theorem sub_one_lt_self (hn : 0 < n) : n - 1 < n := by
  have := n.toNat_lt
  simp only [UInt64.lt_iff_toNat_lt, UInt64.toNat_sub, UInt64.toNat_zero, UInt64.toNat_one] at *
  omega

private theorem le_sub_one_of_ne {s : UInt64} (h : s ≤ n) (hne : s ≠ n) : s ≤ n - 1 := by
  have := n.toNat_lt
  have := s.toNat_lt
  simp only [UInt64.le_iff_toNat_le, ne_eq, ← UInt64.toNat_inj, UInt64.toNat_sub,
    UInt64.toNat_one] at *
  omega

/-- The last `k ≤ n` bytes start at `n - k`: inside the content, or at its end for `k = 0`. -/
private theorem sub_le_sub_one_or {k : UInt64} (hn : 0 < n) (h : ¬ n < k) :
    n - k ≤ n - 1 ∨ n - k = n := by
  have := n.toNat_lt
  have := k.toNat_lt
  simp only [UInt64.lt_iff_toNat_lt, UInt64.le_iff_toNat_le, ← UInt64.toNat_inj, UInt64.toNat_sub,
    UInt64.toNat_zero, UInt64.toNat_one] at *
  omega

theorem handlePrefixRange_within (hn : 0 < n) (h : handlePrefixRange rangeStr n = .ok r) :
    r.Within n := by
  unfold handlePrefixRange at h
  split at h
  · cases h
  · split at h
    · cases h
    · next hle =>
      cases h
      exact ⟨sub_one_lt_self hn, sub_le_sub_one_or hn hle⟩

theorem handleSuffixRange_within (hn : 0 < n) (h : handleSuffixRange rangeStr n = .ok r) :
    r.Within n := by
  unfold handleSuffixRange at h
  split at h
  · cases h
  · split at h
    · cases h
    · next startIndex _ hle =>
      cases h
      refine ⟨sub_one_lt_self hn, ?_⟩
      -- a start at the length itself is the empty range `n-`
      by_cases hs : UInt64.ofNat startIndex = n
      · exact .inr hs
      · exact .inl (le_sub_one_of_ne (UInt64.not_lt.mp hle) hs)

theorem handlePairRange_within (hn : 0 < n) (h : handlePairRange rangeStr n = .ok r) :
    r.Within n := by
  unfold handlePairRange at h
  split at h
  · split at h
    · cases h
    · split at h
      · cases h
      · split at h
        · cases h
        · next endIndex _ =>
          -- the end is cut down to the last byte
          by_cases hcut : n ≤ UInt64.ofNat endIndex
          · simp only [if_pos hcut] at h
            split at h
            · cases h
            · next hend =>
              cases h
              exact ⟨sub_one_lt_self hn, .inl (UInt64.not_lt.mp hend)⟩
          · simp only [if_neg hcut] at h
            split at h
            · cases h
            · next hend =>
              cases h
              exact ⟨UInt64.not_le.mp hcut, .inl (UInt64.not_lt.mp hend)⟩
  · cases h

end Within

/-- For every length `n > 0`, a range that `ParseRange` accepts ends before `n`; it starts no
later than its end, or at `n` itself. -/
theorem parseRange_within {rangeStr : List Char} {n : UInt64} {r : Range} (hn : 0 < n)
    (h : parseRange rangeStr n = .ok r) : r.Within n := by
  unfold parseRange at h
  split at h
  · cases h
  · split at h
    · exact handlePrefixRange_within hn h
    · split at h
      · exact handleSuffixRange_within hn h
      · exact handlePairRange_within hn h

theorem parseRange_within_pair :
    parseRange ['2', '-', '5'] 10 = .ok ⟨2, 5⟩ ∧ Range.Within 10 ⟨2, 5⟩ :=
  have h : parseRange ['2', '-', '5'] 10 = .ok ⟨2, 5⟩ := by decide
  ⟨h, parseRange_within (by decide) h⟩

/-- For every length `n`, `ParseRange` accepts the empty ranges `-0` and `n-` and returns the
range from `n` to `n - 1`: inverted for `n > 0`, and for `n = 0` ending at `2 ^ 64 - 1`. -/
theorem parseRange_accepts_empty_ranges (n : UInt64) :
    parseRange ['-', '0'] n = .ok ⟨n, n - 1⟩ ∧
      parseRange (formatUint n.toNat ++ [separator]) n = .ok ⟨n, n - 1⟩ := by
  have hsep := separator_not_mem_formatUint n.toNat
  obtain ⟨c, cs, hcs, hc⟩ := formatUint_eq_cons n.toNat
  have hcount : (formatUint n.toNat ++ [separator]).count separator = 1 := by
    rw [List.count_append, List.count_eq_zero.mpr hsep]
    rfl
  have hhead : hasPrefix (formatUint n.toNat ++ [separator]) separator = false := by
    have hne : c ≠ separator := fun h => hsep (by rw [hcs, h]; exact List.mem_cons_self ..)
    simp [hasPrefix, hcs, hne]
  constructor
  · simp [parseRange, handlePrefixRange, separator, hasPrefix, trimPrefix, parseUint, parseDigits]
  · rw [parseRange, if_neg (by rw [hcount]; decide), hhead, if_neg Bool.false_ne_true,
      if_pos (by simp [hasSuffix]), handleSuffixRange, trimSuffix, if_pos (by simp [hasSuffix]),
      List.dropLast_concat, parseUint_formatUint n.toNat_lt]
    dsimp only
    rw [UInt64.ofNat_toNat, if_neg (UInt64.lt_irrefl n)]

theorem parseRange_accepts_empty_ranges_five :
    parseRange ['-', '0'] 5 = .ok ⟨5, 4⟩ ∧ parseRange ['5', '-'] 5 = .ok ⟨5, 4⟩ ∧
      parseRange ['-', '0'] 0 = .ok ⟨0, 18446744073709551615⟩ :=
  ⟨(parseRange_accepts_empty_ranges 5).1, (parseRange_accepts_empty_ranges 5).2,
    (parseRange_accepts_empty_ranges 0).1⟩

end Dragonfly.Util
