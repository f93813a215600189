import Dragonfly.Base.FloatFormat
import Mathlib.Data.Rat.Init

/-!
# Byte sizes

`unit.Bytes` (`pkg/unit/byte.go`) is an `int64` count of bytes that configuration files and
command flags spell as sizes such as `10KB` or `1.0GB`. `parseSize` (`byte.go:98`) matches a
size against `sizeRegexp` (`byte.go:96`), reads its digits with `strconv.ParseInt(d, 0, 64)`
and multiplies them by the unit in `int64`; `Bytes.String` (`byte.go:67`) prints a size in the
largest unit not above it with one decimal, and `MarshalYAML` writes that text.

`ParseInt` in base `0` reads digits after a leading `0` in base 8, and the product by the unit
wraps (`parseSize_misreads`). `String` rounds to one decimal and the regular expression only
accepts the decimal `0`, so the YAML round trip gives a size back exactly when its display
unit divides it (`unmarshalYAML_marshalYAML_iff`).

The decoders behind `UnmarshalYAML` and `UnmarshalJSON` are a parameter: what `yaml.Unmarshal`
or `json.Unmarshal` decodes a text into (`Decoded`), `none` when it fails.
-/

namespace Dragonfly.Unit

open Dragonfly.Base.GoText Dragonfly.Base.FloatFormat

/-- `unit.Bytes`: a signed 64-bit count of bytes. -/
abbrev Bytes := Int64

/-! ### The units and `String` -/

/-- `B` … `EB` (`byte.go:34–42`). -/
def B : Bytes := 1
def KB : Bytes := 1024 * B
def MB : Bytes := 1024 * KB
def GB : Bytes := 1024 * MB
def TB : Bytes := 1024 * GB
def PB : Bytes := 1024 * TB
def EB : Bytes := 1024 * PB

/-- The symbol and the unit `Bytes.String` picks (`byte.go:73–91`): the largest unit not above
the size, `B` for anything below `KB`, negative sizes included. -/
def displayUnit (f : Bytes) : List Char × Bytes :=
  if f ≥ PB then (['P', 'B'], PB)
  else if f ≥ TB then (['T', 'B'], TB)
  else if f ≥ GB then (['G', 'B'], GB)
  else if f ≥ MB then (['M', 'B'], MB)
  else if f ≥ KB then (['K', 'B'], KB)
  else (['B'], B)

/-- `Bytes.String` (`byte.go:67`): `fmt.Sprintf("%.1f%s", float64(f)/float64(unit), symbol)`.
The unit is a power of two, so the float quotient is `float64(f)` scaled exactly. -/
def Bytes.string (f : Bytes) : List Char :=
  formatFixed1 (decide (f < 0)) (toFloat64 f.toInt.natAbs) (displayUnit f).2.toInt.toNat ++
    (displayUnit f).1

/-! ### `sizeRegexp` and `parseSize` -/

/-- The unit letters of `sizeRegexp`'s third group. -/
def unitLetters : List Char := ['M', 'm', 'K', 'k', 'G', 'g', 'T', 't', 'P', 'p', 'E', 'e']

/-- `(\.0*)?`: a point and the zeros after it. -/
def dropPointZeros : List Char → List Char
  | '.' :: rest => rest.dropWhile (· == '0')
  | rest => rest

/-- `([MmKkGgTtPpEe])?`: the unit letter, when one comes next. -/
def takeUnitLetter : List Char → Option Char × List Char
  | c :: rest => if c ∈ unitLetters then (some c, rest) else (none, c :: rest)
  | [] => (none, [])

/-- `[xX]?` for the letters `lower` and `upper`. -/
def dropOptional (lower upper : Char) : List Char → List Char
  | c :: rest => if c = lower ∨ c = upper then rest else c :: rest
  | [] => []

/-- What follows the digits, read by `(\.0*)?([MmKkGgTtPpEe])?[iI]?[bB]?$`: the letter of the
third group (`none` when it is empty), or `none` overall when the rest does not match. No part
can start where the one before it may go on, so the greedy reading is the match. -/
def suffixMatch (rest : List Char) : Option (Option Char) :=
  let (letter, rest) := takeUnitLetter (dropPointZeros rest)
  if dropOptional 'b' 'B' (dropOptional 'i' 'I' rest) = [] then some letter else none

/-- `sizeRegexp.FindStringSubmatch` (`byte.go:96,104`): the digits of the first group and the
letter of the third, `none` when the size does not match. `[0-9]+` takes every leading digit,
since nothing after it starts with one. -/
def sizeMatch (s : List Char) : Option (List Char × Option Char) :=
  let digits := s.takeWhile Char.isDigit
  if digits = [] then none
  else (suffixMatch (s.dropWhile Char.isDigit)).map fun letter => (digits, letter)

/-- The `switch matches[3]` of `parseSize` (`byte.go:110–125`). -/
def unitOf : Option Char → Bytes
  | some 'k' | some 'K' => KB
  | some 'm' | some 'M' => MB
  | some 'g' | some 'G' => GB
  | some 't' | some 'T' => TB
  | some 'p' | some 'P' => PB
  | some 'e' | some 'E' => EB
  | _ => B

/-- The errors of `parseSize`, with the trimmed size their messages name. -/
inductive SizeError where
  /-- `parse size %s: invalid format` -/
  | invalidFormat (fsize : List Char)
  /-- `failed to parse size: %s`, wrapping the error of `strconv.ParseInt`. -/
  | parseInt (fsize : List Char) (err : NumError)
  deriving DecidableEq, Repr

/-- `parseSize` (`byte.go:98`): a blank size is `0`; otherwise the digits, read by
`strconv.ParseInt(matches[1], 0, 64)`, times the unit, multiplied in `int64`. -/
def parseSize (fsize : List Char) : Except SizeError Bytes :=
  let fsize := trimSpace fsize
  if isBlank fsize then .ok 0
  else
    match sizeMatch fsize with
    | none => .error (.invalidFormat fsize)
    | some (digits, letter) =>
      match parseIntBase0 64 digits with
      | .error e => .error (.parseInt fsize e)
      | .ok num => .ok (Int64.ofInt num * unitOf letter)

/-- `Bytes.Set` (`byte.go:53`), the flag setter: the new value and the error. A failed parse
sets `0`, as `*f, err = parseSize(s)` does. -/
def Bytes.set (s : List Char) : Bytes × Option SizeError :=
  if isBlank s then (0, none)
  else
    match parseSize s with
    | .ok size => (size, none)
    | .error e => (0, some e)

/-! ### Marshalling -/

/-- What a decoder leaves in `unmarshal`'s `interface{}`, as far as its type switch tells the
cases apart. A float is the rational it denotes; Go's `int` is 64 bits wide. -/
inductive Decoded where
  | float64 (value : ℚ)
  | int (value : Int64)
  | int64 (value : Int64)
  | string (value : List Char)
  | other
  deriving DecidableEq

/-- The errors of `unmarshal`. -/
inductive UnmarshalError where
  /-- the decoder's own error, returned as it is -/
  | decode
  /-- `invalid byte size`, with the error of `parseSize` it wraps, if any -/
  | invalidByteSize (cause : Option SizeError)
  deriving DecidableEq, Repr

/-- `Bytes.unmarshal` (`byte.go:148`) of what the decoder returned. `int64(value)` of a float
truncates toward zero; beyond the `int64` range Go leaves the result to the platform, and the
model wraps it. On an error the caller keeps its old value. -/
def Bytes.unmarshal (decoded : Option Decoded) : Except UnmarshalError Bytes :=
  match decoded with
  | none => .error .decode
  | some (.float64 value) => .ok (Int64.ofInt (value.num.tdiv value.den))
  | some (.int value) => .ok value
  | some (.int64 value) => .ok value
  | some (.string value) =>
    match parseSize value with
    | .error e => .error (.invalidByteSize (some e))
    | .ok size => .ok size
  | some .other => .error (.invalidByteSize none)

/-- `Bytes.MarshalYAML` (`byte.go:135`): the text of `String`. -/
def Bytes.marshalYAML (f : Bytes) : List Char := f.string

/-- `Bytes.UnmarshalYAML` (`byte.go:144`): `unmarshal(yaml.Unmarshal, []byte(node.Value))`. -/
def Bytes.unmarshalYAML (yamlDecode : List Char → Option Decoded) (value : List Char) :
    Except UnmarshalError Bytes :=
  Bytes.unmarshal (yamlDecode value)

/-- `Bytes.UnmarshalJSON` (`byte.go:140`): `unmarshal(json.Unmarshal, b)`. -/
def Bytes.unmarshalJSON (jsonDecode : List Char → Option Decoded) (b : List Char) :
    Except UnmarshalError Bytes :=
  Bytes.unmarshal (jsonDecode b)

/-! ### What the regular expression reads -/

/-- A digit is none of the unit letters. -/
theorem not_mem_unitLetters {d : Char} (hd : d.isDigit) : d ∉ unitLetters := by
  intro h
  have hall : unitLetters.all (fun c => !c.isDigit) = true := by decide
  simpa [hd] using List.all_eq_true.mp hall d h

theorem dropPointZeros_cons {c : Char} (hc : c ≠ '.') (rest : List Char) :
    dropPointZeros (c :: rest) = c :: rest := by
  unfold dropPointZeros
  split
  · simp_all
  · rfl

/-- A unit letter alone is the whole suffix. -/
theorem suffixMatch_unitLetter {letter : Char} (hl : letter ∈ unitLetters) :
    suffixMatch [letter] = some (some letter) := by
  have hdot : letter ≠ '.' := by rintro rfl; exact absurd hl (by decide)
  simp [suffixMatch, dropPointZeros_cons hdot, takeUnitLetter, hl, dropOptional]

/-- A point followed by a digit other than `0` does not match: only zeros may follow the
point. -/
theorem suffixMatch_point_digit {d : Char} (hd : d.isDigit) (hd0 : d ≠ '0') (rest : List Char) :
    suffixMatch ('.' :: d :: rest) = none := by
  have hi : ¬(d = 'i' ∨ d = 'I') := by rintro (rfl | rfl) <;> exact absurd hd (by decide)
  have hb : ¬(d = 'b' ∨ d = 'B') := by rintro (rfl | rfl) <;> exact absurd hd (by decide)
  simp [suffixMatch, dropPointZeros, takeUnitLetter, dropOptional, hd0, not_mem_unitLetters hd,
    hi, hb]

/-- The regular expression reads a run of digits followed by a rest that does not start with a
digit as those digits and the letter the rest's match gives. -/
theorem sizeMatch_digits_append {ds t : List Char} (hds : ds ≠ []) (hdig : ∀ c ∈ ds, c.isDigit)
    (ht : ∀ c ∈ t.head?, c.isDigit = false) :
    sizeMatch (ds ++ t) = (suffixMatch t).map fun letter => (ds, letter) := by
  -- `[0-9]+` stops where the rest starts
  have htake : t.takeWhile Char.isDigit = [] := by
    cases t with
    | nil => rfl
    | cons c t => simp [ht c rfl]
  have hdrop : t.dropWhile Char.isDigit = t := by
    cases t with
    | nil => rfl
    | cons c t => simp [ht c rfl]
  simp only [sizeMatch, List.takeWhile_append_of_pos hdig, htake, List.append_nil,
    List.dropWhile_append_of_pos hdig, hdrop, if_neg hds]

/-- `parseSize` of a run of digits followed by a rest that does not start with a digit and does
not end in white space: the rest's match picks the unit, `ParseInt` in base `0` reads the
number. -/
theorem parseSize_digits_append {ds t : List Char} (hds : ds ≠ []) (hdig : ∀ c ∈ ds, c.isDigit)
    (ht : ∀ c ∈ t.head?, c.isDigit = false) (hlast : ∀ c ∈ (ds ++ t).getLast?, isSpace c = false) :
    parseSize (ds ++ t) =
      match suffixMatch t with
      | none => .error (.invalidFormat (ds ++ t))
      | some letter =>
        match parseIntBase0 64 ds with
        | .error e => .error (.parseInt (ds ++ t) e)
        | .ok num => .ok (Int64.ofInt num * unitOf letter) := by
  obtain ⟨c, cs, rfl⟩ := List.exists_cons_of_ne_nil hds
  have hc : isSpace c = false := isSpace_of_isDigit (hdig c (List.mem_cons_self ..))
  -- the size is already trimmed, and it is not blank
  have htrim : trimSpace (c :: cs ++ t) = c :: cs ++ t := by
    have hne : c :: cs ++ t ≠ [] := by simp
    have hl := List.getLast?_eq_some_getLast hne
    exact trimSpace_of_trimmed ⟨⟨c, rfl, hc⟩, ⟨_, hl, hlast _ hl⟩⟩
  have hblank : isBlank (c :: cs ++ t) = false := isBlank_cons hc _
  simp only [parseSize, htrim, hblank, Bool.false_eq_true, if_false,
    sizeMatch_digits_append hds hdig ht]
  cases suffixMatch t <;> rfl

/-! ### Sizes that `parseSize` misreads -/

/-- A numeral without leading zeros followed by a unit letter reads as the number times the
unit, multiplied in `int64`. -/
theorem parseSize_formatUint_unitLetter {n : ℕ} (hn : n < 2 ^ 63) {letter : Char}
    (hl : letter ∈ unitLetters) :
    parseSize (formatUint n ++ [letter]) = .ok (Int64.ofInt n * unitOf (some letter)) := by
  have hletter : letter.isDigit = false := by
    cases hd : letter.isDigit
    · rfl
    · exact absurd hl (not_mem_unitLetters hd)
  have hspace : isSpace letter = false := by
    simp only [unitLetters, List.mem_cons, List.not_mem_nil, or_false] at hl
    rcases hl with rfl | rfl | rfl | rfl | rfl | rfl | rfl | rfl | rfl | rfl | rfl | rfl <;> decide
  rw [parseSize_digits_append (formatUint_ne_nil n) (fun _ => isDigit_of_mem_formatUint)
    (by simpa using hletter) (by simpa using hspace), suffixMatch_unitLetter hl,
    parseIntBase0_formatUint hn]

/-- Every unit is at least one byte. -/
theorem one_le_unitOf (letter : Option Char) : 1 ≤ (unitOf letter).toInt := by
  unfold unitOf
  split <;> decide

/-- A numeral without leading zeros followed by a unit letter reads as the exact product whenever
it is below `2^63`. -/
theorem parseSize_formatUint_exact {n : ℕ} {letter : Char} (hl : letter ∈ unitLetters)
    (hlt : n * (unitOf (some letter)).toInt < 2 ^ 63) :
    ∃ r, parseSize (formatUint n ++ [letter]) = .ok r ∧ r.toInt = n * (unitOf (some letter)).toInt := by
  have hunit := one_le_unitOf (some letter)
  have hn : (n : ℤ) * 1 ≤ n * (unitOf (some letter)).toInt :=
    Int.mul_le_mul_of_nonneg_left hunit (Int.natCast_nonneg n)
  have hprod : 0 ≤ (n : ℤ) * (unitOf (some letter)).toInt := by omega
  exact ⟨_, parseSize_formatUint_unitLetter (by omega) hl,
    Int64.toInt_ofInt_mul (by omega) hlt⟩

theorem parseSize_formatUint_exact_ten_kib :
    'K' ∈ unitLetters ∧ (10 : ℕ) * (unitOf (some 'K')).toInt < 2 ^ 63 ∧
      ∃ r, parseSize (formatUint 10 ++ ['K']) = .ok r ∧ r.toInt = (10 : ℕ) * (unitOf (some 'K')).toInt :=
  ⟨by decide, by decide, parseSize_formatUint_exact (by decide) (by decide)⟩

/-- A size of digits with a leading `0` reads the digits after it in base 8, in bytes. -/
theorem parseSize_zero_digits {d : Char} {ds : List Char} (hdig : ∀ c ∈ d :: ds, c.isDigit) :
    parseSize ('0' :: d :: ds) =
      match parseDigitsIn 8 64 (d :: ds) 0 with
      | .error e => .error (.parseInt ('0' :: d :: ds) e)
      | .ok un =>
        if un < 2 ^ 63 then .ok (Int64.ofInt un * B)
        else .error (.parseInt ('0' :: d :: ds) .outOfRange) := by
  have hdig' : ∀ c ∈ '0' :: d :: ds, c.isDigit := by
    intro c hc
    rcases List.mem_cons.mp hc with rfl | hc
    · rfl
    · exact hdig c hc
  have hlast : ∀ c ∈ ('0' :: d :: ds ++ []).getLast?, isSpace c = false := by
    intro c hc
    rw [List.append_nil] at hc
    exact isSpace_of_isDigit (hdig' c (List.mem_of_getLast? hc))
  rw [← List.append_nil ('0' :: d :: ds), parseSize_digits_append (List.cons_ne_nil _ _) hdig'
    (by simp) hlast]
  rw [show suffixMatch [] = some none from rfl, List.append_nil, parseIntBase0_of_isDigit rfl,
    parseUintBase0_zero_cons (hdig d (List.mem_cons_self ..))]
  cases parseDigitsIn 8 64 (d :: ds) 0 with
  | error e => rfl
  | ok un =>
    dsimp only
    by_cases hun : un < 2 ^ 63
    · rw [if_pos (show un < 2 ^ (64 - 1) from hun), if_pos hun]
      rfl
    · rw [if_neg (show ¬un < 2 ^ (64 - 1) from hun), if_neg hun]

/-- Digits after a leading `0` are read in base 8 when they are octal digits. -/
theorem parseSize_zero_octal {d : Char} {ds : List Char}
    (hoct : ∀ c ∈ d :: ds, c.isDigit ∧ c.toNat - '0'.toNat < 8)
    (hlt : Nat.ofDigitChars 8 (d :: ds) 0 < 2 ^ 63) :
    parseSize ('0' :: d :: ds) = .ok (Int64.ofNat (Nat.ofDigitChars 8 (d :: ds) 0)) := by
  rw [parseSize_zero_digits (fun c hc => (hoct c hc).1),
    parseDigitsIn_of_digits hoct (by omega)]
  simp only [if_pos hlt, B, Int64.mul_one, Int64.ofInt_eq_ofNat]

/-- A leading `0` followed by digits that include `8` or `9` is an error of `ParseInt`. -/
theorem parseSize_zero_eight_nine {ds : List Char} (hdig : ∀ c ∈ ds, c.isDigit)
    (h89 : '8' ∈ ds ∨ '9' ∈ ds) :
    ∃ e, parseSize ('0' :: ds) = .error (.parseInt ('0' :: ds) e) := by
  obtain ⟨c, hc, hcd, hcb⟩ : ∃ c ∈ ds, c.isDigit ∧ 8 ≤ c.toNat - '0'.toNat := by
    rcases h89 with h | h
    · exact ⟨'8', h, rfl, by decide⟩
    · exact ⟨'9', h, rfl, by decide⟩
  obtain ⟨d, rest, rfl⟩ := List.exists_cons_of_ne_nil (List.ne_nil_of_mem hc)
  obtain ⟨e, he⟩ : ∃ e, parseDigitsIn 8 64 (d :: rest) 0 = .error e :=
    parseDigitsIn_error_of_mem hc hcd hcb 0
  exact ⟨e, by rw [parseSize_zero_digits hdig, he]⟩

/-- For every `n` from `8` up, `nE` reads as `n * 2^60` wrapped to `int64`. -/
theorem parseSize_exa_wraps {n : ℕ} (h8 : 8 ≤ n) (hn : n < 2 ^ 63) :
    parseSize (formatUint n ++ ['E']) = .ok (Int64.ofInt (n * 2 ^ 60)) ∧
      (Int64.ofInt (n * 2 ^ 60)).toInt ≠ n * 2 ^ 60 := by
  have hEB : EB.toInt = 2 ^ 60 := by decide
  refine ⟨?_, ?_⟩
  · rw [parseSize_formatUint_unitLetter hn (by decide)]
    apply congrArg Except.ok
    apply Int64.toInt_inj.mp
    have hsize : Int64.size = 2 ^ 64 := rfl
    have hbmod : (n : ℤ).bmod Int64.size = n := by
      rw [hsize]
      exact Int.bmod_eq_of_le (by omega) (by omega)
    rw [Int64.toInt_mul, Int64.toInt_ofInt, Int64.toInt_ofInt, hbmod, hsize,
      show unitOf (some 'E') = EB from rfl, hEB]
  · -- the product is at least `2^63`, above every `int64`
    have hlt := Int64.toInt_lt (Int64.ofInt (n * 2 ^ 60))
    intro heq
    rw [heq] at hlt
    omega

/-- `parseSize` is not the decimal reading its sizes suggest: digits after a leading `0` are read
in base 8, a leading `0` followed by an `8` or a `9` is an error, and `nE` wraps for every `n`
from `8` up. -/
theorem parseSize_misreads :
    (∀ d ds, (∀ c ∈ d :: ds, c.isDigit ∧ c.toNat - '0'.toNat < 8) →
      Nat.ofDigitChars 8 (d :: ds) 0 < 2 ^ 63 →
      parseSize ('0' :: d :: ds) = .ok (Int64.ofNat (Nat.ofDigitChars 8 (d :: ds) 0))) ∧
    (∀ ds, (∀ c ∈ ds, c.isDigit) → ('8' ∈ ds ∨ '9' ∈ ds) →
      ∃ e, parseSize ('0' :: ds) = .error (.parseInt ('0' :: ds) e)) ∧
    (∀ n : ℕ, 8 ≤ n → n < 2 ^ 63 →
      parseSize (formatUint n ++ ['E']) = .ok (Int64.ofInt (n * 2 ^ 60)) ∧
        (Int64.ofInt (n * 2 ^ 60)).toInt ≠ n * 2 ^ 60) :=
  ⟨fun _ _ hoct hlt => parseSize_zero_octal hoct hlt,
    fun _ hdig h89 => parseSize_zero_eight_nine hdig h89,
    fun _ h8 hn => parseSize_exa_wraps h8 hn⟩

theorem parseSize_misreads_octal_exa :
    parseSize ['0', '1', '0'] = .ok 8 ∧
      (∃ e, parseSize ['0', '8'] = .error (.parseInt ['0', '8'] e)) ∧
      parseSize (formatUint 8 ++ ['E']) = .ok (Int64.ofInt (8 * 2 ^ 60)) :=
  ⟨parseSize_misreads.1 '1' ['0'] (by
      intro c hc
      simp only [List.mem_cons, List.not_mem_nil, or_false] at hc
      rcases hc with rfl | rfl <;> decide) (by decide),
    parseSize_misreads.2.1 ['8'] (by simp) (by simp),
    (parseSize_misreads.2.2 8 le_rfl (by decide)).1⟩

/-! ### The YAML round trip -/

/-- The display units with their symbols, largest first. -/
def displayUnits : List (List Char × Bytes) :=
  [(['P', 'B'], PB), (['T', 'B'], TB), (['G', 'B'], GB), (['M', 'B'], MB), (['K', 'B'], KB),
    (['B'], B)]

theorem displayUnit_mem (f : Bytes) : displayUnit f ∈ displayUnits := by
  unfold displayUnit
  split_ifs <;> simp [displayUnits]

/-- Each display unit is `2 ^ (10 * j)` for some `j ≤ 5`, and its symbol after `.0` reads back
as that unit. -/
theorem displayUnits_spec {p : List Char × Bytes} (hp : p ∈ displayUnits) :
    (∃ j ≤ 5, p.2.toInt = 2 ^ (10 * j)) ∧
      (suffixMatch ('.' :: '0' :: p.1)).map unitOf = some p.2 ∧ p.1.getLast? = some 'B' := by
  simp only [displayUnits, List.mem_cons, List.not_mem_nil, or_false] at hp
  rcases hp with rfl | rfl | rfl | rfl | rfl | rfl
  · exact ⟨⟨5, by decide, by decide⟩, by decide, rfl⟩
  · exact ⟨⟨4, by decide, by decide⟩, by decide, rfl⟩
  · exact ⟨⟨3, by decide, by decide⟩, by decide, rfl⟩
  · exact ⟨⟨2, by decide, by decide⟩, by decide, rfl⟩
  · exact ⟨⟨1, by decide, by decide⟩, by decide, rfl⟩
  · exact ⟨⟨0, by decide, by decide⟩, by decide, rfl⟩

/-- A text that ends in a display symbol does not end in white space. -/
theorem not_isSpace_getLast_symbol {sym : List Char} (hsym : sym.getLast? = some 'B')
    (ds : List Char) (d : Char) : ∀ c ∈ (ds ++ '.' :: d :: sym).getLast?, isSpace c = false := by
  have hB : (ds ++ '.' :: d :: sym).getLast? = some 'B' := by
    rw [show ds ++ '.' :: d :: sym = (ds ++ ['.', d]) ++ sym by simp, List.getLast?_append, hsym,
      Option.some_or]
  intro c hc
  rw [hB, Option.mem_def, Option.some.injEq] at hc
  rw [← hc]
  rfl

/-- Only sizes below `KB` are shown in bytes. -/
theorem toInt_lt_of_displayUnit_one {f : Bytes} (h : (displayUnit f).2.toInt = 1) :
    f.toInt < 1024 := by
  unfold displayUnit at h
  split_ifs at h with h₁ h₂ h₃ h₄ h₅
  · exact absurd h (by decide)
  · exact absurd h (by decide)
  · exact absurd h (by decide)
  · exact absurd h (by decide)
  · exact absurd h (by decide)
  · have hKB : KB.toInt = 1024 := by decide
    rw [ge_iff_le, Int64.le_iff_toInt_le, hKB] at h₅
    omega

/-- `String` of a size that is not negative, in terms of its magnitude. -/
theorem Bytes.string_of_nonneg {f : Bytes} (hf : 0 ≤ f) :
    f.string = formatFixed1 false (toFloat64 f.toInt.natAbs) (displayUnit f).2.toInt.toNat ++
      (displayUnit f).1 := by
  have hpos : ¬ f < 0 := by
    rw [Int64.le_iff_toInt_le, Int64.toInt_zero] at hf
    rw [Int64.lt_iff_toInt_lt, Int64.toInt_zero]
    omega
  rw [Bytes.string, decide_eq_false hpos]

/-- A size read back from the text `String` prints is a multiple of the display unit: the text
matches only with the decimal `0`, and the `int64` product by a power of two below `2^64` stays a
multiple of it. -/
theorem dvd_of_parseSize_string {f r : Bytes} (hf : 0 ≤ f) (h : parseSize f.string = .ok r) :
    (displayUnit f).2.toInt ∣ r.toInt := by
  obtain ⟨⟨j, hj, hunit⟩, hsuffix, hsym⟩ := displayUnits_spec (displayUnit_mem f)
  rw [Bytes.string_of_nonneg hf, formatFixed1_eq, List.append_assoc, List.cons_append,
    List.cons_append, List.nil_append] at h
  generalize roundHalfEven (10 * toFloat64 f.toInt.natAbs) (displayUnit f).2.toInt.toNat = R at h
  rw [parseSize_digits_append (formatUint_ne_nil _) (fun _ => isDigit_of_mem_formatUint) (by simp)
    (not_isSpace_getLast_symbol hsym _ _)] at h
  by_cases hr : R % 10 = 0
  · -- the decimal is `0`: the unit is the display unit
    rw [hr, show Nat.digitChar 0 = '0' from rfl] at h
    obtain ⟨letter, hletter, hof⟩ := Option.map_eq_some_iff.mp hsuffix
    rw [hletter] at h
    cases hnum : parseIntBase0 64 (formatUint (R / 10)) with
    | error e => simp [hnum] at h
    | ok num =>
      simp only [hnum, Except.ok.injEq] at h
      rw [← h, hof]
      exact Int64.dvd_toInt_mul (by rw [hunit]; exact_mod_cast Nat.pow_dvd_pow 2 (by omega)) _
  · -- any other decimal does not match
    have hd := digitChar_ne_zero (Nat.mod_lt R (by decide)) (Nat.pos_of_ne_zero hr)
    rw [suffixMatch_point_digit hd.2 hd.1] at h
    simp at h

/-- A size that is a multiple of its display unit prints as its quotient, `.0` and the symbol,
and reads back as itself. -/
theorem parseSize_string_of_dvd {f : Bytes} (hf : 0 ≤ f) (hdvd : (displayUnit f).2.toInt ∣ f.toInt) :
    parseSize f.string = .ok f := by
  obtain ⟨⟨j, hj, hunit⟩, hsuffix, hsym⟩ := displayUnits_spec (displayUnit_mem f)
  have hNf : (f.toInt.natAbs : ℤ) = f.toInt :=
    Int.natAbs_of_nonneg (by rwa [Int64.le_iff_toInt_le, Int64.toInt_zero] at hf)
  have hlt := Int64.toInt_lt f
  -- the quotient by the unit, which has at most 53 bits
  obtain ⟨X, hsplit⟩ : ∃ X, f.toInt.natAbs = X * 2 ^ (10 * j) := by
    have hdvd' := Int.natAbs_dvd_natAbs.mpr hdvd
    rw [hunit, Int.natAbs_pow] at hdvd'
    obtain ⟨X, hX⟩ := hdvd'
    exact ⟨X, by rw [hX, Nat.mul_comm]; rfl⟩
  have hX53 : X < 2 ^ 53 := by
    rcases Nat.eq_zero_or_pos j with rfl | hj0
    · have := toInt_lt_of_displayUnit_one (by rw [hunit]; rfl)
      omega
    · have h1024 : 2 ^ 10 ≤ 2 ^ (10 * j) := Nat.pow_le_pow_right (by decide) (by omega)
      have : X * 2 ^ 10 ≤ f.toInt.natAbs := hsplit ▸ Nat.mul_le_mul_left X h1024
      omega
  have hunitNat : (displayUnit f).2.toInt.toNat = 2 ^ (10 * j) := by
    rw [hunit]
    exact_mod_cast Int.toNat_natCast (2 ^ (10 * j))
  -- `String` prints the quotient and the decimal `0`
  have htext : f.string = formatUint X ++ '.' :: '0' :: (displayUnit f).1 := by
    rw [Bytes.string_of_nonneg hf, hsplit, toFloat64_mul_two_pow hX53, hunitNat,
      formatFixed1_mul (Nat.two_pow_pos _)]
    simp
  obtain ⟨letter, hletter, hof⟩ := Option.map_eq_some_iff.mp hsuffix
  rw [htext, parseSize_digits_append (formatUint_ne_nil _) (fun _ => isDigit_of_mem_formatUint)
    (by simp) (not_isSpace_getLast_symbol hsym _ _), hletter, parseIntBase0_formatUint (by omega)]
  dsimp only
  rw [hof]
  -- the product is the size itself, so it does not wrap
  have hprod : (X : ℤ) * (displayUnit f).2.toInt = f.toInt := by
    rw [hunit, ← hNf, hsplit, Int.natCast_mul, Int.natCast_pow]
    rfl
  apply congrArg Except.ok
  apply Int64.toInt_inj.mp
  rw [Int64.toInt_ofInt_mul (by omega) (by omega), hprod]

/-- The YAML round trip of a size that is not negative gives it back exactly when its display
unit divides it. The decoder is assumed to read the text `MarshalYAML` wrote as that string, as
`yaml.Unmarshal` does with a plain scalar ending in `B`. -/
theorem unmarshalYAML_marshalYAML_iff (yamlDecode : List Char → Option Decoded) {b : Bytes}
    (hdecode : yamlDecode b.marshalYAML = some (.string b.marshalYAML)) (hb : 0 ≤ b) :
    Bytes.unmarshalYAML yamlDecode b.marshalYAML = .ok b ↔ (displayUnit b).2.toInt ∣ b.toInt := by
  have hread : Bytes.unmarshalYAML yamlDecode b.marshalYAML = .ok b ↔ parseSize b.string = .ok b := by
    rw [Bytes.unmarshalYAML, hdecode, Bytes.unmarshal, Bytes.marshalYAML]
    cases parseSize b.string <;> simp
  rw [hread]
  exact ⟨dvd_of_parseSize_string hb, parseSize_string_of_dvd hb⟩

theorem unmarshalYAML_marshalYAML_iff_kib :
    Bytes.unmarshalYAML (fun s => some (.string s)) (1536 : Bytes).marshalYAML ≠ .ok 1536 ∧
      Bytes.unmarshalYAML (fun s => some (.string s)) (2048 : Bytes).marshalYAML = .ok 2048 :=
  ⟨fun h => absurd ((unmarshalYAML_marshalYAML_iff _ rfl (by decide)).mp h) (by decide),
    (unmarshalYAML_marshalYAML_iff _ rfl (by decide)).mpr (by decide)⟩

end Dragonfly.Unit
