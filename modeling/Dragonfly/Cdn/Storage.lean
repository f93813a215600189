import Dragonfly.Util.Range

/-!
# The CDN piece-meta file

`cdn/supervisor/cdn/storage/storage.go:100–159` and the disk storage manager
(`storage/disk/disk.go:108–167`). A piece record is one line `num:len:md5:range:origin:style`;
the disk manager appends one line per piece as the writer pool finishes it, rewrites the
whole file with the lines joined by newlines, and reads it back by trimming the file,
splitting it into lines and parsing each. The file is its bytes: `PutBytes` with `Append`
appends to them and with `Trunc` replaces them.
-/

namespace Dragonfly.Cdn

open Dragonfly.Base.GoText Dragonfly.Util

/-- `storage.PieceMetaRecord` (`storage.go:101`); the two ranges are pointers, `none` when
nil. -/
structure PieceMetaRecord where
  pieceNum : UInt32
  pieceLen : UInt32
  md5 : List Char
  range : Option Range
  originRange : Option Range
  pieceStyle : Int32
  deriving DecidableEq, Repr

/-- `fieldSeparator` (`storage.go:116`). -/
def fieldSeparator : Char := ':'

/-- `%v` of a `*rangeutils.Range`: its `String`, and `<nil>` for a nil pointer. -/
def rangeText : Option Range → List Char
  | some r => r.toString
  | none => "<nil>".toList

@[simp] theorem rangeText_some (r : Range) : rangeText (some r) = r.toString := rfl

namespace PieceMetaRecord

/-- The six fields of `PieceMetaRecord.String` (`storage.go:118`), as `%v` prints them. -/
def fields (r : PieceMetaRecord) : List (List Char) :=
  [formatUint r.pieceNum.toNat, formatUint r.pieceLen.toNat, r.md5, rangeText r.range,
    rangeText r.originRange, formatInt r.pieceStyle.toInt]

/-- `PieceMetaRecord.String` (`storage.go:118`): `fmt.Sprint` of the fields with the
separator between them; `Sprint` adds no spaces, since every other operand is a string. -/
def toString (r : PieceMetaRecord) : List Char := [fieldSeparator].intercalate r.fields

end PieceMetaRecord

/-- The errors of `ParsePieceMetaRecord` (`storage.go:123–158`), with the field they print. -/
inductive ParseRecordError where
  /-- The recovered index panic, `"%v"` of `index out of range [index] with length`. -/
  | indexOutOfRange (index length : ℕ)
  /-- `"invalid pieceNum: %s"` -/
  | pieceNum (field : List Char) (err : NumError)
  /-- `"invalid pieceLen: %s"` -/
  | pieceLen (field : List Char) (err : NumError)
  /-- `"invalid piece range: %s"` -/
  | range (field : List Char) (err : GetRangeError)
  /-- `"invalid origin range: %s"` -/
  | originRange (field : List Char) (err : GetRangeError)
  /-- `"invalid pieceStyle: %s"` -/
  | pieceStyle (field : List Char) (err : NumError)
  deriving DecidableEq, Repr

/-- `fields[index]`, or the panic of a missing field. -/
def fieldAt (fields : List (List Char)) (index : ℕ) : Except ParseRecordError (List Char) :=
  match fields[index]? with
  | some field => .ok field
  | none => .error (.indexOutOfRange index fields.length)

/-- `ParsePieceMetaRecord` (`storage.go:123`): split at the separator and read the fields in
order; fields past the sixth are ignored. -/
def parsePieceMetaRecord (value : List Char) : Except ParseRecordError PieceMetaRecord := do
  let fields := value.splitOn fieldSeparator
  let f0 ← fieldAt fields 0
  let pieceNum ← (parseUint 32 f0).mapError (.pieceNum f0)
  let f1 ← fieldAt fields 1
  let pieceLen ← (parseUint 32 f1).mapError (.pieceLen f1)
  let md5 ← fieldAt fields 2
  let f3 ← fieldAt fields 3
  let pieceRange ← (getRange f3).mapError (.range f3)
  let f4 ← fieldAt fields 4
  let originRange ← (getRange f4).mapError (.originRange f4)
  let f5 ← fieldAt fields 5
  let pieceStyle ← (parseInt 8 f5).mapError (.pieceStyle f5)
  return ⟨UInt32.ofNat pieceNum, UInt32.ofNat pieceLen, md5, some pieceRange, some originRange,
    Int32.ofInt pieceStyle⟩

/-- `AppendPieceMetadata` (`disk.go:108`): the record's line and a newline appended. -/
def appendPieceMetadata (file : List Char) (r : PieceMetaRecord) : List Char :=
  file ++ (r.toString ++ ['\n'])

/-- `WritePieceMetaRecords` (`disk.go:158`): the file replaced by the lines joined with
newlines. -/
def writePieceMetaRecords (records : List PieceMetaRecord) : List Char :=
  ['\n'].intercalate (records.map PieceMetaRecord.toString)

/-- The error of `ReadPieceMetaRecords`: `"get piece meta record: %v"` around the parse
error of the line. -/
inductive ReadRecordsError where
  | record (pieceStr : List Char) (err : ParseRecordError)
  deriving DecidableEq, Repr

/-- `ReadPieceMetaRecords` (`disk.go:113`) on the file's bytes: trim, split at newlines,
parse every line, and stop at the first line that fails. -/
def readPieceMetaRecords (file : List Char) : Except ReadRecordsError (List PieceMetaRecord) :=
  ((trimSpace file).splitOn '\n').mapM fun pieceStr =>
    (parsePieceMetaRecord pieceStr).mapError (.record pieceStr)

/-! ### Records that survive the file -/

/-- What a record needs for its line to read back: an `Md5` without the separator or a
newline, both ranges present and ordered, and a style that `ParseInt(.., 8)` accepts. -/
structure PieceMetaRecord.Storable (r : PieceMetaRecord) : Prop where
  md5_separator : fieldSeparator ∉ r.md5
  md5_newline : '\n' ∉ r.md5
  range : ∃ rg, r.range = some rg ∧ rg.startIndex ≤ rg.endIndex
  originRange : ∃ rg, r.originRange = some rg ∧ rg.startIndex ≤ rg.endIndex
  pieceStyle_ge : -128 ≤ r.pieceStyle.toInt
  pieceStyle_lt : r.pieceStyle.toInt < 128

theorem not_mem_rangeText {c : Char} (hc : c.isDigit = false) (hsep : c ≠ separator)
    (rg : Range) : c ∉ rangeText (some rg) := fun h => by
  rcases isDigit_of_mem_toString h with h | h
  · simp [h] at hc
  · exact hsep h

/-- A character that is neither a digit, the range separator nor in the `Md5` is in no field
of a storable record. -/
theorem not_mem_fields {r : PieceMetaRecord} (h : r.Storable) {c : Char} (hc : c.isDigit = false)
    (hsep : c ≠ separator) (hmd5 : c ∉ r.md5) : ∀ l ∈ r.fields, c ∉ l := by
  obtain ⟨rg, hrg, -⟩ := h.range
  obtain ⟨og, hog, -⟩ := h.originRange
  intro l hl
  simp only [PieceMetaRecord.fields, List.mem_cons, List.not_mem_nil, or_false] at hl
  rcases hl with rfl | rfl | rfl | rfl | rfl | rfl
  · exact not_mem_formatUint hc
  · exact not_mem_formatUint hc
  · exact hmd5
  · rw [hrg]; exact not_mem_rangeText hc hsep rg
  · rw [hog]; exact not_mem_rangeText hc hsep og
  · exact not_mem_formatInt hc hsep

/-- A storable record's line splits back into its six fields. -/
theorem splitOn_toString {r : PieceMetaRecord} (h : r.Storable) :
    r.toString.splitOn fieldSeparator = r.fields :=
  List.splitOn_intercalate fieldSeparator
    (not_mem_fields h (by decide) (by decide) h.md5_separator) (by simp [PieceMetaRecord.fields])

/-- `ParsePieceMetaRecord` reads back the line of every storable record. -/
theorem parsePieceMetaRecord_toString {r : PieceMetaRecord} (h : r.Storable) :
    parsePieceMetaRecord r.toString = .ok r := by
  obtain ⟨rg, hrg, hrgle⟩ := h.range
  obtain ⟨og, hog, hogle⟩ := h.originRange
  have hstyle : parseInt 8 (formatInt r.pieceStyle.toInt) = .ok r.pieceStyle.toInt :=
    parseInt_formatInt (by decide) (by simpa using h.pieceStyle_ge) (by simpa using h.pieceStyle_lt)
  simp only [parsePieceMetaRecord, splitOn_toString h, PieceMetaRecord.fields, hrg, hog, fieldAt,
    rangeText_some, List.getElem?_cons_zero, List.getElem?_cons_succ,
    parseUint_formatUint (UInt32.toNat_lt _), getRange_toString hrgle, getRange_toString hogle,
    hstyle, Except.mapError, bind, Except.bind, pure, Except.pure, UInt32.ofNat_toNat,
    Int32.ofInt_toInt]
  cases r
  simp_all

/-- A record's line starts and ends with a digit. -/
theorem trimmed_toString (r : PieceMetaRecord) : Trimmed r.toString := by
  obtain ⟨c, cs, hcs, hc⟩ := formatUint_eq_cons r.pieceNum.toNat
  have hlast := List.getLast?_eq_some_getLast (formatInt_ne_nil r.pieceStyle.toInt)
  refine ⟨⟨c, ?_, isSpace_of_isDigit hc⟩, ⟨_, ?_,
    isSpace_of_isDigit (isDigit_getLast_formatInt r.pieceStyle.toInt)⟩⟩
  · simp [PieceMetaRecord.toString, PieceMetaRecord.fields, hcs]
  · simp [PieceMetaRecord.toString, PieceMetaRecord.fields, List.getLast?_append,
      List.getLast?_cons, hlast]

/-- No line of a storable record holds a newline. -/
theorem newline_not_mem_toString {r : PieceMetaRecord} (h : r.Storable) : '\n' ∉ r.toString :=
  not_mem_intercalate (by decide) (not_mem_fields h (by decide) (by decide) h.md5_newline)

/-- The joined lines of storable records split back into the lines. -/
theorem splitOn_lines {rs : List PieceMetaRecord} (hrs : ∀ r ∈ rs, r.Storable) (hne : rs ≠ []) :
    (['\n'].intercalate (rs.map PieceMetaRecord.toString)).splitOn '\n' =
      rs.map PieceMetaRecord.toString := by
  apply List.splitOn_intercalate
  · intro l hl
    obtain ⟨r, hr, rfl⟩ := List.mem_map.mp hl
    exact newline_not_mem_toString (hrs r hr)
  · simpa using hne

/-- The joined lines of records are trimmed. -/
theorem trimmed_lines {rs : List PieceMetaRecord} (hne : rs ≠ []) :
    Trimmed (['\n'].intercalate (rs.map PieceMetaRecord.toString)) := by
  apply trimmed_intercalate _ (by simpa using hne)
  intro l hl
  obtain ⟨r, -, rfl⟩ := List.mem_map.mp hl
  exact trimmed_toString r

/-- Parsing the lines of storable records gives the records. -/
theorem mapM_parse_lines {rs : List PieceMetaRecord} (hrs : ∀ r ∈ rs, r.Storable) :
    (rs.map PieceMetaRecord.toString).mapM (fun pieceStr =>
      (parsePieceMetaRecord pieceStr).mapError (ReadRecordsError.record pieceStr)) = .ok rs := by
  induction rs with
  | nil => rfl
  | cons r rs ih =>
    have hr := parsePieceMetaRecord_toString (hrs r (List.mem_cons_self ..))
    rw [List.map_cons, List.mapM_cons, hr, ih (fun x hx => hrs x (List.mem_cons_of_mem _ hx))]
    rfl

/-- Appending the records one by one leaves their joined lines and a last newline. -/
theorem foldl_appendPieceMetadata {rs : List PieceMetaRecord} (hne : rs ≠ []) :
    rs.foldl appendPieceMetadata [] =
      ['\n'].intercalate (rs.map PieceMetaRecord.toString) ++ ['\n'] := by
  calc rs.foldl appendPieceMetadata []
      = (rs.map PieceMetaRecord.toString).foldl (fun f l => f ++ (l ++ ['\n'])) [] := by
        rw [List.foldl_map]
        rfl
    _ = (rs.map PieceMetaRecord.toString).flatMap (· ++ ['\n']) := by
        rw [foldl_append_terminated, List.nil_append]
    _ = ['\n'].intercalate (rs.map PieceMetaRecord.toString) ++ ['\n'] :=
        flatMap_terminated _ (by simpa using hne)

/-- The piece-meta file reads back every nonempty list of storable records, whether it was
written at once or appended to line by line from an empty file. -/
theorem pieceMetaFile_round_trip {rs : List PieceMetaRecord} (hrs : ∀ r ∈ rs, r.Storable)
    (hne : rs ≠ []) :
    (∀ r ∈ rs, parsePieceMetaRecord r.toString = .ok r) ∧
      readPieceMetaRecords (writePieceMetaRecords rs) = .ok rs ∧
      readPieceMetaRecords (rs.foldl appendPieceMetadata []) = .ok rs := by
  refine ⟨fun r hr => parsePieceMetaRecord_toString (hrs r hr), ?_, ?_⟩
  · rw [readPieceMetaRecords, writePieceMetaRecords, trimSpace_of_trimmed (trimmed_lines hne),
      splitOn_lines hrs hne, mapM_parse_lines hrs]
  · rw [readPieceMetaRecords, foldl_appendPieceMetadata hne,
      trimSpace_append_of_forall_isSpace (trimmed_lines hne) (by simp [isSpace]),
      splitOn_lines hrs hne, mapM_parse_lines hrs]

/-- Piece 0 of a 4-byte file, as the writer pool records it. -/
def firstPieceRecord : PieceMetaRecord :=
  ⟨0, 4, "d41d8cd98f00b204e9800998ecf8427e".toList, some ⟨0, 3⟩, some ⟨0, 3⟩, 0⟩

theorem firstPieceRecord_storable : firstPieceRecord.Storable where
  md5_separator := by decide
  md5_newline := by decide
  range := ⟨⟨0, 3⟩, rfl, by decide⟩
  originRange := ⟨⟨0, 3⟩, rfl, by decide⟩
  pieceStyle_ge := by decide
  pieceStyle_lt := by decide

theorem pieceMetaFile_round_trip_first :
    ((∀ r ∈ [firstPieceRecord], r.Storable) ∧ [firstPieceRecord] ≠ []) ∧
      ((∀ r ∈ [firstPieceRecord], parsePieceMetaRecord r.toString = .ok r) ∧
        readPieceMetaRecords (writePieceMetaRecords [firstPieceRecord]) = .ok [firstPieceRecord] ∧
        readPieceMetaRecords ([firstPieceRecord].foldl appendPieceMetadata []) =
          .ok [firstPieceRecord]) :=
  have hrs : ∀ r ∈ [firstPieceRecord], r.Storable := by
    simpa using firstPieceRecord_storable
  ⟨⟨hrs, List.cons_ne_nil _ _⟩, pieceMetaFile_round_trip hrs (List.cons_ne_nil _ _)⟩

/-- The empty list does not survive the file: both writers leave an empty file, which trims
to one empty line, and its piece number does not parse. -/
theorem pieceMetaFile_empty_fails :
    readPieceMetaRecords (writePieceMetaRecords []) = .error (.record [] (.pieceNum [] .invalid)) ∧
      readPieceMetaRecords (([] : List PieceMetaRecord).foldl appendPieceMetadata []) =
        .error (.record [] (.pieceNum [] .invalid)) :=
  ⟨rfl, rfl⟩

end Dragonfly.Cdn
