import Mathlib

/-!
# Go text primitives

The functions of Go's `strings`, `strconv`, `unicode` and `fmt` packages that the modelled
code calls, over text as a list of characters. `strings.Split` with a one-character
separator is `List.splitOn` and `strings.Join` is `List.intercalate`; this module adds
`TrimSpace`, `TrimLeft`, `textproto.TrimString` and `Compare`, the decimal verbs of `fmt` on integers
and `ParseUint`/`ParseInt` in base 10, with the laws the round trips of the callers rest on:
what a formatted number parses back to, which characters it contains, and what trimming
keeps. Last, the conversions between Go's fixed-width integers that keep a value in range.
-/

namespace Dragonfly.Base.GoText

/-! ### White space -/

/-- `unicode.IsSpace`: the eight Latin-1 spaces, and beyond Latin-1 the characters of the
Unicode `White_Space` property. -/
def isSpace (c : Char) : Bool :=
  let n := c.toNat
  if n ≤ 0xff then
    n = 0x09 || n = 0x0a || n = 0x0b || n = 0x0c || n = 0x0d || n = 0x20 || n = 0x85 ||
      n = 0xa0
  else
    n = 0x1680 || (0x2000 ≤ n && n ≤ 0x200a) || n = 0x2028 || n = 0x2029 || n = 0x202f ||
      n = 0x205f || n = 0x3000

/-- `strings.TrimSpace`: drop the leading and the trailing white space. -/
def trimSpace (s : List Char) : List Char :=
  (s.dropWhile isSpace).rdropWhile isSpace

/-- `isASCIISpace` of `net/textproto`: space, tab, newline and carriage return. -/
def isASCIISpace (c : Char) : Bool := c = ' ' || c = '\t' || c = '\n' || c = '\r'

/-- `textproto.TrimString`: drop the leading and the trailing ASCII white space. -/
def trimString (s : List Char) : List Char :=
  (s.dropWhile isASCIISpace).rdropWhile isASCIISpace

/-- `strings.TrimLeft(s, cutset)`: drop the leading characters that are in `cutset`. -/
def trimLeft (s cutset : List Char) : List Char := s.dropWhile fun c => cutset.contains c

/-- A text without ASCII white space is its own `TrimString`. -/
theorem trimString_of_forall {s : List Char} (h : ∀ c ∈ s, isASCIISpace c = false) :
    trimString s = s := by
  have hdrop : s.dropWhile isASCIISpace = s :=
    List.dropWhile_eq_self_iff.mpr fun hl => by simp [h _ (List.getElem_mem hl)]
  rw [trimString, hdrop, List.rdropWhile_eq_self_iff]
  intro hl
  simp [h _ (List.getLast_mem hl)]

/-- A decimal digit is not ASCII white space. -/
theorem isASCIISpace_of_isDigit {c : Char} (h : c.isDigit) : isASCIISpace c = false := by
  simp only [Char.isDigit, Bool.and_eq_true, decide_eq_true_eq] at h
  have h₁ : 48 ≤ c.toNat := h.1
  simp only [isASCIISpace, Bool.or_eq_false_iff, decide_eq_false_iff_not]
  refine ⟨⟨⟨?_, ?_⟩, ?_⟩, ?_⟩ <;> rintro rfl <;> simp at h₁

/-- A decimal digit is not white space. -/
theorem isSpace_of_isDigit {c : Char} (h : c.isDigit) : isSpace c = false := by
  simp only [Char.isDigit, Bool.and_eq_true, decide_eq_true_eq] at h
  have h₁ : 48 ≤ c.toNat := h.1
  have h₂ : c.toNat ≤ 57 := h.2
  simp only [isSpace]
  split <;> simp <;> omega

/-- A text that starts and ends with a character other than white space: what
`TrimSpace` keeps. -/
def Trimmed (s : List Char) : Prop :=
  (∃ c, s.head? = some c ∧ isSpace c = false) ∧ ∃ c, s.getLast? = some c ∧ isSpace c = false

/-- Trimming a trimmed text followed by white space only gives the text back. -/
theorem trimSpace_append_of_forall_isSpace {s t : List Char} (hs : Trimmed s)
    (ht : ∀ c ∈ t, isSpace c) : trimSpace (s ++ t) = s := by
  obtain ⟨⟨c, hc, hcs⟩, ⟨d, hd, hds⟩⟩ := hs
  have hdrop : (s ++ t).dropWhile isSpace = s ++ t := by
    obtain ⟨cs, rfl⟩ := List.head?_eq_some_iff.mp hc
    rw [List.cons_append, List.dropWhile_cons_of_neg (by simpa using hcs)]
  have hself : s.rdropWhile isSpace = s := by
    rw [List.rdropWhile_eq_self_iff]
    intro hl
    have hlast : s.getLast hl = d := Option.some.inj ((List.getLast?_eq_some_getLast hl).symm.trans hd)
    simp [hlast, hds]
  rw [trimSpace, hdrop, List.rdropWhile, List.reverse_append,
    List.dropWhile_append_of_pos (fun c hc => ht c (List.mem_reverse.mp hc)), ← List.rdropWhile,
    hself]

/-- Trimming a trimmed text changes nothing. -/
theorem trimSpace_of_trimmed {s : List Char} (hs : Trimmed s) : trimSpace s = s := by
  calc trimSpace s = trimSpace (s ++ []) := by rw [List.append_nil]
    _ = s := trimSpace_append_of_forall_isSpace hs (by simp)

/-- The empty text trims to itself. -/
@[simp] theorem trimSpace_nil : trimSpace [] = [] := rfl

/-- A text is trimmed when it starts as a trimmed text `l` does and ends as a trimmed text
`l'` does. -/
theorem Trimmed.append {l m l' : List Char} (hl : Trimmed l) (hl' : Trimmed l') :
    Trimmed (l ++ m ++ l') := by
  obtain ⟨⟨c, hc, hcs⟩, -⟩ := hl
  obtain ⟨-, ⟨d, hd, hds⟩⟩ := hl'
  refine ⟨⟨c, ?_, hcs⟩, ⟨d, ?_, hds⟩⟩
  · simp [List.head?_append, hc]
  · simp [List.getLast?_append, hd]

/-- Joining trimmed texts gives a trimmed text, whatever the separator. -/
theorem trimmed_intercalate (sep : List Char) {ls : List (List Char)} (hls : ls ≠ [])
    (h : ∀ l ∈ ls, Trimmed l) : Trimmed (sep.intercalate ls) := by
  induction ls with
  | nil => exact absurd rfl hls
  | cons l rest ih =>
    cases rest with
    | nil => simpa using h l (List.mem_singleton_self l)
    | cons l' rest =>
      rw [List.intercalate_cons_cons]
      exact (h l (List.mem_cons_self ..)).append
        (ih (List.cons_ne_nil _ _) (fun x hx => h x (List.mem_cons_of_mem _ hx)))

/-- `stringutils.IsBlank` (`string_utils.go:37`): every character is white space. -/
def isBlank (s : List Char) : Bool := s.all isSpace

/-- A text that starts with a character other than white space is not blank. -/
theorem isBlank_cons {c : Char} (hc : isSpace c = false) (s : List Char) :
    isBlank (c :: s) = false := by
  simp [isBlank, hc]

/-- Dropping trailing characters stops at the last one that is kept, whatever stands before
it. -/
theorem rdropWhile_append_cons {p : Char → Bool} {c : Char} (hc : p c = false)
    (l m : List Char) : (l ++ c :: m).rdropWhile p = l ++ c :: m.rdropWhile p := by
  have hne : ¬ (m.reverse.dropWhile p ++ [c]).isEmpty := by simp
  have hkeep : (m.reverse ++ [c]).dropWhile p = m.reverse.dropWhile p ++ [c] := by
    rw [List.dropWhile_append]
    by_cases hm : (m.reverse.dropWhile p).isEmpty
    · rw [if_pos hm, List.isEmpty_iff.mp hm, List.nil_append, List.dropWhile_cons_of_neg (by simp [hc])]
    · rw [if_neg hm]
  have hfront : (m.reverse ++ [c] ++ l.reverse).dropWhile p =
      m.reverse.dropWhile p ++ [c] ++ l.reverse := by
    rw [List.dropWhile_append, hkeep, if_neg hne]
  rw [List.rdropWhile, List.reverse_append, List.reverse_cons, hfront]
  simp [List.rdropWhile]

/-! ### Lines -/

/-- A character that is not the separator and in none of the texts is not in their join. -/
theorem not_mem_intercalate {c : Char} {sep : List Char} (hsep : c ∉ sep)
    {ls : List (List Char)} (h : ∀ l ∈ ls, c ∉ l) : c ∉ sep.intercalate ls := by
  induction ls with
  | nil => simp
  | cons l rest ih =>
    cases rest with
    | nil => simpa using h l (List.mem_singleton_self l)
    | cons l' rest =>
      rw [List.intercalate_cons_cons]
      simp only [List.mem_append, not_or]
      exact ⟨⟨h l (List.mem_cons_self ..), hsep⟩,
        ih (fun x hx => h x (List.mem_cons_of_mem _ hx))⟩

/-- Appending each line with its terminator `c` to `acc`. -/
theorem foldl_append_terminated (c : Char) (ls : List (List Char)) (acc : List Char) :
    ls.foldl (fun f l => f ++ (l ++ [c])) acc = acc ++ ls.flatMap (· ++ [c]) := by
  induction ls generalizing acc with
  | nil => simp
  | cons l ls ih =>
    rw [List.foldl_cons, ih, List.flatMap_cons, List.append_assoc]

/-- Terminated lines are the joined lines and one more terminator. -/
theorem flatMap_terminated (c : Char) {ls : List (List Char)} (hls : ls ≠ []) :
    ls.flatMap (· ++ [c]) = [c].intercalate ls ++ [c] := by
  induction ls with
  | nil => exact absurd rfl hls
  | cons l rest ih =>
    cases rest with
    | nil => simp
    | cons l' rest =>
      rw [List.flatMap_cons, ih (List.cons_ne_nil _ _), List.intercalate_cons_cons]
      simp

/-! ### One-character affixes -/

/-- `strings.HasPrefix(s, string(c))`. -/
def hasPrefix (s : List Char) (c : Char) : Bool := s.head? = some c

/-- `strings.HasSuffix(s, string(c))`. -/
def hasSuffix (s : List Char) (c : Char) : Bool := s.getLast? = some c

/-- `strings.TrimPrefix(s, string(c))`. -/
def trimPrefix (s : List Char) (c : Char) : List Char := if hasPrefix s c then s.tail else s

/-- `strings.TrimSuffix(s, string(c))`. -/
def trimSuffix (s : List Char) (c : Char) : List Char := if hasSuffix s c then s.dropLast else s

/-! ### Comparison -/

/-- `strings.Compare(a, b)`: `0` for equal texts, `-1` when `a` sorts first, `+1` otherwise.
Go compares the UTF-8 bytes, which sort as the characters do. -/
def stringsCompare (a b : List Char) : ℤ := if a = b then 0 else if a < b then -1 else 1

/-- `strings.Compare` is zero exactly on equal texts. -/
@[simp] theorem stringsCompare_eq_zero_iff {a b : List Char} : stringsCompare a b = 0 ↔ a = b := by
  unfold stringsCompare
  split_ifs <;> simp_all

/-! ### Cutsets and text prefixes -/

/-- `strings.Trim(s, cutset)`: drop the leading and the trailing characters in `cutset`. -/
def trim (s cutset : List Char) : List Char :=
  (trimLeft s cutset).rdropWhile fun c => cutset.contains c

/-- `strings.TrimPrefix(s, prefix)` for a whole text `pre`. -/
def trimPrefixString (s pre : List Char) : List Char :=
  if pre.isPrefixOf s then s.drop pre.length else s

/-- `TrimLeft` strips the whole of a text made of characters of the cutset, and goes on. -/
theorem trimLeft_append_of_forall {l : List Char} (cutset r : List Char) (h : ∀ c ∈ l, c ∈ cutset) :
    trimLeft (l ++ r) cutset = trimLeft r cutset :=
  List.dropWhile_append_of_pos fun c hc => List.elem_iff.mpr (h c hc)

/-- `TrimLeft` stops at the first character outside the cutset. -/
theorem trimLeft_cons_of_not_mem {c : Char} {cutset : List Char} (hc : c ∉ cutset) (r : List Char) :
    trimLeft (c :: r) cutset = c :: r :=
  List.dropWhile_cons_of_neg fun h => hc (List.elem_iff.mp h)

/-- A text that ends outside the cutset loses only its leading cutset characters to `Trim`. -/
theorem trim_of_getLast_not_mem {s cutset : List Char}
    (h : ∀ hs : trimLeft s cutset ≠ [], (trimLeft s cutset).getLast hs ∉ cutset) :
    trim s cutset = trimLeft s cutset :=
  List.rdropWhile_eq_self_iff.mpr fun hs hc => h hs (List.elem_iff.mp hc)

@[simp] theorem trimPrefixString_append (pre r : List Char) :
    trimPrefixString (pre ++ r) pre = r := by
  simp [trimPrefixString, List.isPrefixOf_iff_prefix]

/-! ### Decimal formatting -/

/-- `%d` and `%v` of an unsigned integer (`strconv.FormatUint(n, 10)`). -/
def formatUint (n : ℕ) : List Char := Nat.toDigits 10 n

/-- `%d` and `%v` of a signed integer (`strconv.FormatInt(i, 10)`). -/
def formatInt (i : ℤ) : List Char :=
  if i < 0 then '-' :: formatUint i.natAbs else formatUint i.toNat

theorem isDigit_of_mem_formatUint {n : ℕ} {c : Char} (h : c ∈ formatUint n) : c.isDigit :=
  Nat.isDigit_of_mem_toDigits (by decide) (by decide) h

theorem formatUint_ne_nil (n : ℕ) : formatUint n ≠ [] := Nat.toDigits_ne_nil

/-- A character of a formatted signed integer is a digit or the leading minus sign. -/
theorem isDigit_of_mem_formatInt {i : ℤ} {c : Char} (h : c ∈ formatInt i) :
    c.isDigit ∨ c = '-' := by
  unfold formatInt at h
  split at h
  · rcases List.mem_cons.mp h with rfl | h
    · exact .inr rfl
    · exact .inl (isDigit_of_mem_formatUint h)
  · exact .inl (isDigit_of_mem_formatUint h)

theorem formatInt_ne_nil (i : ℤ) : formatInt i ≠ [] := by
  unfold formatInt
  split
  · simp
  · exact formatUint_ne_nil _

/-- A formatted unsigned integer is not `c` unless `c` is a digit. -/
theorem not_mem_formatUint {n : ℕ} {c : Char} (hc : c.isDigit = false) : c ∉ formatUint n :=
  fun h => by simp [isDigit_of_mem_formatUint h] at hc

/-- A formatted signed integer holds no character but digits and `-`. -/
theorem not_mem_formatInt {i : ℤ} {c : Char} (hc : c.isDigit = false) (hm : c ≠ '-') :
    c ∉ formatInt i := fun h => by
  rcases isDigit_of_mem_formatInt h with h | h
  · simp [h] at hc
  · exact hm h

/-- A formatted signed integer ends with a digit. -/
theorem isDigit_getLast_formatInt (i : ℤ) :
    ((formatInt i).getLast (formatInt_ne_nil i)).isDigit := by
  unfold formatInt
  split
  · rw [List.getLast_cons (formatUint_ne_nil _)]
    exact isDigit_of_mem_formatUint (List.getLast_mem _)
  · exact isDigit_of_mem_formatUint (List.getLast_mem _)

/-! ### Decimal parsing -/

/-- The `strconv.NumError` kinds: `ErrSyntax` and `ErrRange`. -/
inductive NumError where
  | invalid
  | outOfRange
  deriving DecidableEq, Repr

/-- The digit loop of `strconv.ParseUint` in base 10: a non-digit is a syntax error and a
value past `2 ^ bitSize - 1` a range error, whichever comes first from the left. -/
def parseDigits (bitSize : ℕ) : List Char → ℕ → Except NumError ℕ
  | [], n => .ok n
  | c :: cs, n =>
    if c.isDigit then
      if 10 * n + (c.toNat - '0'.toNat) < 2 ^ bitSize then
        parseDigits bitSize cs (10 * n + (c.toNat - '0'.toNat))
      else .error .outOfRange
    else .error .invalid

/-- `strconv.ParseUint(s, 10, bitSize)`. -/
def parseUint (bitSize : ℕ) (s : List Char) : Except NumError ℕ :=
  if s = [] then .error .invalid else parseDigits bitSize s 0

/-- `strconv.ParseInt(s, 10, bitSize)` for `1 ≤ bitSize ≤ 64`: an optional sign, then the
digits of `ParseUint`, then the signed range check. -/
def parseInt (bitSize : ℕ) : List Char → Except NumError ℤ
  | [] => .error .invalid
  | c :: cs =>
    let (neg, digits) := if c = '+' then (false, cs) else if c = '-' then (true, cs)
      else (false, c :: cs)
    match parseUint bitSize digits with
    | .error e => .error e
    | .ok un =>
      if neg then (if un ≤ 2 ^ (bitSize - 1) then .ok (-(un : ℤ)) else .error .outOfRange)
      else if un < 2 ^ (bitSize - 1) then .ok un else .error .outOfRange

/-- Appending digits never lowers the value read so far. -/
theorem le_ofDigitChars (l : List Char) (n : ℕ) : n ≤ Nat.ofDigitChars 10 l n := by
  rw [Nat.ofDigitChars_eq_ofDigitChars_zero]
  have : n ≤ 10 ^ l.length * n := Nat.le_mul_of_pos_left n (Nat.pow_pos (by decide))
  omega

/-- The digit loop reads a digit string whose value fits, through every prefix. -/
theorem parseDigits_of_isDigit {bitSize : ℕ} {l : List Char} (hl : ∀ c ∈ l, c.isDigit)
    {n : ℕ} (hlt : Nat.ofDigitChars 10 l n < 2 ^ bitSize) :
    parseDigits bitSize l n = .ok (Nat.ofDigitChars 10 l n) := by
  induction l generalizing n with
  | nil => rfl
  | cons c cs ih =>
    rw [Nat.ofDigitChars_cons] at hlt ⊢
    have hc : c.isDigit := hl c (List.mem_cons_self ..)
    have hstep : 10 * n + (c.toNat - '0'.toNat) < 2 ^ bitSize :=
      lt_of_le_of_lt (le_ofDigitChars cs _) hlt
    rw [parseDigits, if_pos hc, if_pos hstep]
    exact ih (fun c' hc' => hl c' (List.mem_cons_of_mem _ hc')) hlt

/-- `ParseUint` reads back every formatted value that fits in `bitSize` bits. -/
theorem parseUint_formatUint {bitSize n : ℕ} (h : n < 2 ^ bitSize) :
    parseUint bitSize (formatUint n) = .ok n := by
  have hval : Nat.ofDigitChars 10 (formatUint n) 0 = n := Nat.ofDigitChars_ten_toDigits
  rw [parseUint, if_neg (formatUint_ne_nil n),
    parseDigits_of_isDigit (fun c hc => isDigit_of_mem_formatUint hc) (by rw [hval]; exact h),
    hval]

/-- A formatted unsigned integer starts with a digit. -/
theorem formatUint_eq_cons (n : ℕ) : ∃ c cs, formatUint n = c :: cs ∧ c.isDigit := by
  obtain ⟨c, cs, h⟩ := List.exists_cons_of_ne_nil (formatUint_ne_nil n)
  exact ⟨c, cs, h, isDigit_of_mem_formatUint (by rw [h]; exact List.mem_cons_self ..)⟩

/-- `ParseInt` reads back every formatted value in the signed range of `bitSize` bits. -/
theorem parseInt_formatInt {bitSize : ℕ} (hb : 0 < bitSize) {i : ℤ}
    (hlo : -(2 ^ (bitSize - 1) : ℤ) ≤ i) (hhi : i < 2 ^ (bitSize - 1)) :
    parseInt bitSize (formatInt i) = .ok i := by
  have hpow : (2 : ℕ) ^ (bitSize - 1) < 2 ^ bitSize := Nat.pow_lt_pow_right (by decide) (by omega)
  have hcast : ((2 ^ (bitSize - 1) : ℕ) : ℤ) = 2 ^ (bitSize - 1) := by push_cast; rfl
  unfold formatInt
  split
  · next hneg =>
    have habs : i.natAbs ≤ 2 ^ (bitSize - 1) := by omega
    simp only [parseInt, if_neg (show ('-' : Char) ≠ '+' by decide), if_true,
      parseUint_formatUint (lt_of_le_of_lt habs hpow), if_pos habs]
    congr 1
    omega
  · next hnn =>
    have hnat : i.toNat < 2 ^ (bitSize - 1) := by omega
    obtain ⟨c, cs, hcs, hc⟩ := formatUint_eq_cons i.toNat
    have hplus : c ≠ '+' := fun h => by simp [h] at hc
    have hminus : c ≠ '-' := fun h => by simp [h] at hc
    simp only [hcs, parseInt, if_neg hplus, if_neg hminus]
    rw [← hcs, parseUint_formatUint (lt_trans hnat hpow)]
    simp only [Bool.false_eq_true, if_false, if_pos hnat]
    congr 1
    omega

/-! ### Parsing in other bases -/

/-- The value of a character as a digit of `strconv`, for the bases up to 36: `0`–`9`, then
the letters in either case from `10`. -/
def digitValue (c : Char) : Option ℕ :=
  if c.isDigit then some (c.toNat - '0'.toNat)
  else if 'a' ≤ c.toLower ∧ c.toLower ≤ 'z' then some (c.toLower.toNat - 'a'.toNat + 10)
  else none

/-- The digit loop of `strconv.ParseUint` in base `base`: a character that is no digit of the
base is a syntax error and a value past `2 ^ bitSize - 1` a range error, whichever comes first
from the left. -/
def parseDigitsIn (base bitSize : ℕ) : List Char → ℕ → Except NumError ℕ
  | [], n => .ok n
  | c :: cs, n =>
    match digitValue c with
    | some d =>
      if d < base then
        if base * n + d < 2 ^ bitSize then parseDigitsIn base bitSize cs (base * n + d)
        else .error .outOfRange
      else .error .invalid
    | none => .error .invalid

/-- `strconv.ParseUint(s, 0, bitSize)` without underscores: a leading `0b`, `0o` or `0x`
selects base 2, 8 or 16, another leading `0` base 8, and base 10 otherwise. -/
def parseUintBase0 (bitSize : ℕ) : List Char → Except NumError ℕ
  | [] => .error .invalid
  | '0' :: c :: d :: rest =>
    if c.toLower = 'b' then parseDigitsIn 2 bitSize (d :: rest) 0
    else if c.toLower = 'o' then parseDigitsIn 8 bitSize (d :: rest) 0
    else if c.toLower = 'x' then parseDigitsIn 16 bitSize (d :: rest) 0
    else parseDigitsIn 8 bitSize (c :: d :: rest) 0
  | '0' :: rest => parseDigitsIn 8 bitSize rest 0
  | s => parseDigitsIn 10 bitSize s 0

/-- `strconv.ParseInt(s, 0, bitSize)` for `1 ≤ bitSize ≤ 64`, without underscores: an optional
sign, then `ParseUint` in base `0`, then the signed range check. -/
def parseIntBase0 (bitSize : ℕ) : List Char → Except NumError ℤ
  | [] => .error .invalid
  | c :: cs =>
    let (neg, digits) := if c = '+' then (false, cs) else if c = '-' then (true, cs)
      else (false, c :: cs)
    match parseUintBase0 bitSize digits with
    | .error e => .error e
    | .ok un =>
      if neg then (if un ≤ 2 ^ (bitSize - 1) then .ok (-(un : ℤ)) else .error .outOfRange)
      else if un < 2 ^ (bitSize - 1) then .ok un else .error .outOfRange

theorem digitValue_of_isDigit {c : Char} (h : c.isDigit) :
    digitValue c = some (c.toNat - '0'.toNat) := by
  simp [digitValue, h]

/-- In a positive base, appending digits never lowers the value read so far. -/
theorem le_ofDigitChars_of_pos {b : ℕ} (hb : 0 < b) (l : List Char) (n : ℕ) :
    n ≤ Nat.ofDigitChars b l n := by
  induction l generalizing n with
  | nil => exact le_refl n
  | cons c cs ih =>
    rw [Nat.ofDigitChars_cons]
    exact (Nat.le_mul_of_pos_left n hb).trans ((Nat.le_add_right _ _).trans (ih _))

/-- The digit loop reads a string of digits of the base whose value fits, through every
prefix. -/
theorem parseDigitsIn_of_digits {base bitSize : ℕ} {l : List Char}
    (hl : ∀ c ∈ l, c.isDigit ∧ c.toNat - '0'.toNat < base) {n : ℕ}
    (hlt : Nat.ofDigitChars base l n < 2 ^ bitSize) :
    parseDigitsIn base bitSize l n = .ok (Nat.ofDigitChars base l n) := by
  induction l generalizing n with
  | nil => rfl
  | cons c cs ih =>
    rw [Nat.ofDigitChars_cons] at hlt ⊢
    obtain ⟨hc, hcb⟩ := hl c (List.mem_cons_self ..)
    have hmono := le_ofDigitChars_of_pos (show 0 < base by omega) cs
      (base * n + (c.toNat - '0'.toNat))
    rw [parseDigitsIn, digitValue_of_isDigit hc]
    dsimp only
    rw [if_pos hcb, if_pos (lt_of_le_of_lt hmono hlt)]
    exact ih (fun c' hc' => hl c' (List.mem_cons_of_mem _ hc')) hlt

/-- A digit at or above the base fails the digit loop, with a syntax error or a range error
met on the way. -/
theorem parseDigitsIn_error_of_mem {base bitSize : ℕ} {l : List Char} {c : Char} (hc : c ∈ l)
    (hcd : c.isDigit) (hcb : base ≤ c.toNat - '0'.toNat) (n : ℕ) :
    ∃ e, parseDigitsIn base bitSize l n = .error e := by
  induction l generalizing n with
  | nil => simp at hc
  | cons c' cs ih =>
    rw [parseDigitsIn]
    rcases List.mem_cons.mp hc with rfl | hc
    · rw [digitValue_of_isDigit hcd]
      dsimp only
      rw [if_neg (by omega)]
      exact ⟨_, rfl⟩
    · split
      · split
        · split
          · exact ih hc _
          · exact ⟨_, rfl⟩
        · exact ⟨_, rfl⟩
      · exact ⟨_, rfl⟩

/-- The decimal digits from `1` to `9` are digits other than `0`. -/
theorem digitChar_ne_zero {r : ℕ} (hr : r < 10) (hpos : 0 < r) :
    Nat.digitChar r ≠ '0' ∧ (Nat.digitChar r).isDigit := by
  have hdigit : ∀ m < 10, 0 < m → Nat.digitChar m ≠ '0' ∧ (Nat.digitChar m).isDigit := by
    decide
  exact hdigit r hr hpos

/-- A formatted positive integer starts with a digit other than `0`. -/
theorem formatUint_eq_cons_ne_zero {n : ℕ} (hn : 0 < n) :
    ∃ c cs, formatUint n = c :: cs ∧ c ≠ '0' ∧ c.isDigit := by
  -- induction on the number, dropping its last digit
  induction n using Nat.strong_induction_on with
  | _ n ih =>
    by_cases hsmall : n < 10
    · exact ⟨Nat.digitChar n, [], Nat.toDigits_of_lt_base hsmall, digitChar_ne_zero hsmall hn⟩
    · obtain ⟨c, cs, hcs, hc, hdig⟩ := ih (n / 10) (by omega) (by omega)
      refine ⟨c, cs ++ [Nat.digitChar (n % 10)], ?_, hc, hdig⟩
      rw [formatUint, Nat.toDigits_of_base_le (by decide) (by omega)]
      rw [formatUint] at hcs
      rw [hcs, List.cons_append]

/-- Base `0` reads a text that does not start with `0` in base `10`. -/
theorem parseUintBase0_of_ne_zero {c : Char} (hc : c ≠ '0') (bitSize : ℕ) (cs : List Char) :
    parseUintBase0 bitSize (c :: cs) = parseDigitsIn 10 bitSize (c :: cs) 0 := by
  unfold parseUintBase0
  split
  · contradiction
  · simp_all
  · simp_all
  · rfl

/-- Base `0` reads the digits after a leading `0` in base `8` when the next character is a
digit. -/
theorem parseUintBase0_zero_cons {d : Char} (hd : d.isDigit) (bitSize : ℕ) (rest : List Char) :
    parseUintBase0 bitSize ('0' :: d :: rest) = parseDigitsIn 8 bitSize (d :: rest) 0 := by
  -- a digit is none of the letters of the `0b`, `0o` and `0x` prefixes
  have hlower : d.toLower = d := by
    rw [Char.isDigit_iff_toNat] at hd
    unfold Char.toLower
    rw [dif_neg]
    simp only [ge_iff_le, UInt32.le_iff_toNat_le, not_and, not_le]
    intro _
    have hA : ('A'.val).toNat = 65 := rfl
    have h0 : '0'.toNat = 48 := rfl
    have h9 : '9'.toNat = 57 := rfl
    simp only [Char.toNat] at hd h0 h9
    omega
  cases rest with
  | nil => rfl
  | cons e rest =>
    have hb : d ≠ 'b' := by rintro rfl; exact absurd hd (by decide)
    have ho : d ≠ 'o' := by rintro rfl; exact absurd hd (by decide)
    have hx : d ≠ 'x' := by rintro rfl; exact absurd hd (by decide)
    simp only [parseUintBase0, hlower, if_neg hb, if_neg ho, if_neg hx]

/-- A text that starts with a digit has no sign: `ParseInt` in base `0` is `ParseUint` in base
`0` followed by the signed range check. -/
theorem parseIntBase0_of_isDigit {c : Char} (hc : c.isDigit) (bitSize : ℕ) (cs : List Char) :
    parseIntBase0 bitSize (c :: cs) =
      match parseUintBase0 bitSize (c :: cs) with
      | .error e => .error e
      | .ok un => if un < 2 ^ (bitSize - 1) then .ok un else .error .outOfRange := by
  have hplus : c ≠ '+' := by rintro rfl; exact absurd hc (by decide)
  have hminus : c ≠ '-' := by rintro rfl; exact absurd hc (by decide)
  simp only [parseIntBase0, if_neg hplus, if_neg hminus]
  cases parseUintBase0 bitSize (c :: cs) <;> rfl

/-- `ParseInt` in base `0` reads back every formatted value in the signed range. -/
theorem parseIntBase0_formatUint {n : ℕ} (hn : n < 2 ^ 63) :
    parseIntBase0 64 (formatUint n) = .ok n := by
  have hdigits : ∀ c ∈ formatUint n, c.isDigit ∧ c.toNat - '0'.toNat < 10 := by
    intro c hc
    have hd := isDigit_of_mem_formatUint hc
    refine ⟨hd, ?_⟩
    have h0 : '0'.toNat = 48 := rfl
    have h9 : '9'.toNat = 57 := rfl
    rw [Char.isDigit_iff_toNat] at hd
    omega
  have hread : parseDigitsIn 10 64 (formatUint n) 0 = .ok n := by
    rw [parseDigitsIn_of_digits hdigits (by rw [formatUint, Nat.ofDigitChars_ten_toDigits]; omega),
      formatUint, Nat.ofDigitChars_ten_toDigits]
  rcases Nat.eq_zero_or_pos n with rfl | hpos
  · rfl
  · obtain ⟨c, cs, hcs, hc, hdig⟩ := formatUint_eq_cons_ne_zero hpos
    rw [hcs] at hread ⊢
    rw [parseIntBase0_of_isDigit hdig, parseUintBase0_of_ne_zero hc, hread]
    exact if_pos hn

/-! ### Integer conversions -/

theorem toInt32_eq_ofNat (x : UInt32) : x.toInt32 = Int32.ofNat x.toNat := by
  rw [← UInt32.toInt32_ofNat', UInt32.ofNat_toNat]

/-- `int32(x)` of a `uint32` below `2^31` keeps its value. -/
theorem toInt_toInt32_of_lt {x : UInt32} (h : x.toNat < 2 ^ 31) : x.toInt32.toInt = x.toNat := by
  rw [toInt32_eq_ofNat, Int32.toInt_ofNat_of_lt h]

/-- `int32(x) + int32(i)` does not wrap while the sum stays below `2^31`. -/
theorem toInt_toInt32_add_ofNat {x : UInt32} {i : ℕ} (h : x.toNat + i < 2 ^ 31) :
    (x.toInt32 + Int32.ofNat i).toInt = (x.toNat + i : ℕ) := by
  rw [toInt32_eq_ofNat, ← Int32.ofNat_add, Int32.toInt_ofNat_of_lt h]

/-- `int64` comparison of naturals below `2^63` is the comparison of the naturals. -/
theorem Int64.ofNat_lt_ofNat_iff {a b : ℕ} (ha : a < 2 ^ 63) (hb : b < 2 ^ 63) :
    Int64.ofNat a < Int64.ofNat b ↔ a < b := by
  rw [Int64.lt_iff_toInt_lt, Int64.toInt_ofNat_of_lt ha, Int64.toInt_ofNat_of_lt hb]
  exact Int.ofNat_lt

theorem Int64.ofNat_eq_ofNat_iff {a b : ℕ} (ha : a < 2 ^ 63) (hb : b < 2 ^ 63) :
    Int64.ofNat a = Int64.ofNat b ↔ a = b := by
  rw [← Int64.toInt_inj, Int64.toInt_ofNat_of_lt ha, Int64.toInt_ofNat_of_lt hb]
  exact Int.ofNat_inj

/-- `int32` comparison of naturals below `2^31` is the comparison of the naturals. -/
theorem Int32.ofNat_lt_ofNat_iff {a b : ℕ} (ha : a < 2 ^ 31) (hb : b < 2 ^ 31) :
    Int32.ofNat a < Int32.ofNat b ↔ a < b := by
  rw [Int32.lt_iff_toInt_lt, Int32.toInt_ofNat_of_lt ha, Int32.toInt_ofNat_of_lt hb]
  exact Int.ofNat_lt

theorem Int32.ofNat_eq_ofNat_iff {a b : ℕ} (ha : a < 2 ^ 31) (hb : b < 2 ^ 31) :
    Int32.ofNat a = Int32.ofNat b ↔ a = b := by
  rw [← Int32.toInt_inj, Int32.toInt_ofNat_of_lt ha, Int32.toInt_ofNat_of_lt hb]
  exact Int.ofNat_inj

/-- `uint64(x)` of a `uint32`. -/
theorem UInt32.toUInt64_eq (x : UInt32) : x.toUInt64 = UInt64.ofNat x.toNat :=
  (UInt64.ofNat_uInt32ToNat x).symm

/-- `int64(x)` of a `uint32`. -/
theorem UInt32.toUInt64_toInt64_eq (x : UInt32) : x.toUInt64.toInt64 = Int64.ofNat x.toNat := by
  rw [UInt32.toUInt64_eq]
  rfl

theorem Int32.ofNat_eq_ofNat_sub_one_iff {a b : ℕ} (ha : a < 2 ^ 31) (hb : b < 2 ^ 31)
    (hpos : 0 < b) : Int32.ofNat a = Int32.ofNat b - 1 ↔ a + 1 = b := by
  rw [show (1 : Int32) = Int32.ofNat 1 from rfl, ← Int32.ofNat_sub _ _ hpos,
    Int32.ofNat_eq_ofNat_iff ha (by omega)]
  omega

/-- An `int32` counter of a natural steps by one, wrapping as Go's arithmetic does. -/
theorem Int32.ofNat_add_one (n : ℕ) : Int32.ofNat n + 1 = Int32.ofNat (n + 1) := by
  rw [Int32.ofNat_add]
  rfl

theorem Int32.ofNat_succ_sub_one (n : ℕ) : Int32.ofNat (n + 1) - 1 = Int32.ofNat n := by
  rw [show (1 : Int32) = Int32.ofNat 1 from rfl, ← Int32.ofNat_sub _ _ (by omega)]
  rfl

/-- Below `2^31`, an `int32` counter of a natural is not positive only at zero. -/
theorem Int32.ofNat_le_zero_iff {n : ℕ} (h : n < 2 ^ 31) : Int32.ofNat n ≤ 0 ↔ n = 0 := by
  rw [Int32.le_iff_toInt_le, Int32.toInt_ofNat_of_lt h]
  simp

/-- `int64(uint32(s))` of a natural that fits in 32 bits. -/
theorem UInt32.toUInt64_toInt64_ofNat {s : ℕ} (hs : s < 2 ^ 32) :
    (UInt32.ofNat s).toUInt64.toInt64 = Int64.ofNat s := by
  rw [UInt32.toUInt64_toInt64_eq, UInt32.toNat_ofNat', Nat.mod_eq_of_lt hs]

/-- `uint64(i)` of an `int32` that is not negative. -/
theorem Int32.toInt64_toUInt64_ofNat {i : ℕ} (h : i < 2 ^ 31) :
    (Int32.ofNat i).toInt64.toUInt64 = UInt64.ofNat i := by
  rw [Int32.toInt64_ofNat' (by simp [Int32.maxValue]; omega), Int64.toUInt64_ofNat']

/-- `uint32(n)` of an `int64`: the low 32 bits. -/
theorem Int64.toUInt64_toUInt32_ofNat (n : ℕ) : (Int64.ofNat n).toUInt64.toUInt32 = UInt32.ofNat n := by
  rw [Int64.toUInt64_ofNat', UInt64.toUInt32_ofNat']

/-- A `uint32` counter below its maximum steps by one. -/
theorem toNat_add_one_of_lt {x : UInt32} (h : x.toNat + 1 < 2 ^ 32) :
    (x + 1).toNat = x.toNat + 1 := by
  rw [UInt32.toNat_add, UInt32.toNat_one, Nat.mod_eq_of_lt h]

/-- Go's `int64` product by a divisor of `2^64` stays a multiple of it, wrapped or not. -/
theorem Int64.dvd_toInt_mul {u : Int64} (hu : u.toInt ∣ 2 ^ 64) (a : Int64) :
    u.toInt ∣ (a * u).toInt := by
  rw [Int64.toInt_mul, Int.bmod_eq_self_sub_mul_bdiv]
  have hsize : u.toInt ∣ ((2 ^ 64 : ℕ) : ℤ) := by exact_mod_cast hu
  exact Int.dvd_sub (Int.dvd_mul_left _ _) (Int.dvd_trans hsize (Int.dvd_mul_right _ _))

/-- Go's `int64` product of an integer by an `int64` is the product of the integers while it
stays in range. -/
theorem Int64.toInt_ofInt_mul {x : ℤ} {u : Int64} (h₁ : -2 ^ 63 ≤ x * u.toInt)
    (h₂ : x * u.toInt < 2 ^ 63) : (Int64.ofInt x * u).toInt = x * u.toInt := by
  rw [Int64.toInt_mul, Int64.toInt_ofInt, show Int64.size = 2 ^ 64 from rfl, Int.bmod_mul_bmod]
  exact Int.bmod_eq_of_le (by omega) (by omega)

end Dragonfly.Base.GoText
