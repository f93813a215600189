import Dragonfly.Base.GoText
import Dragonfly.Pkg.Idgen

/-!
# Ranged requests through the proxy

`transport.download` (`client/daemon/transport/transport.go:201`) parses the `Range` header of
a proxied request with `clientutil.ParseRange` (`clientutil/range.go:49`, the parser of
`net/http`) against `math.MaxInt`, since it does not know the length of the content yet. It
keeps the header without its leading `bytes=` characters as the range of the request's
`UrlMeta` and starts a stream task. With multiplexing on, `StartStreamTask`
(`peertask_manager.go:267`) first tries `tryReuseStreamPeerTask` (`peertask_reuse.go:173`): a
completed task of the request's ID is read whole, and otherwise a completed parent task
(`ParentTaskID`) is read through the parsed range by `ReadAllPieces` (`local_storage.go:251`),
with `Content-Range` and `Content-Length` taken from that range.

A Go `int64` is `Int64`, with its wrapping arithmetic; text is a list of characters. The task
IDs hash with `sum` and filter queries with `filterQuery`, as in `Dragonfly.Idgen`. The stream
task that starts when nothing is reused is the function `newStreamTask`.

A range relative to `MaxInt` is the wrong range of the content: for a suffix `-n` the reused
parent is read from `MaxInt - n`, past its end, and the answer has no body
(`download_suffix_range_reads_nothing`).
-/

namespace Dragonfly.Clientutil

open Dragonfly.Base.GoText

/-- `math.MaxInt` on a 64-bit platform. -/
def maxInt : Int64 := Int64.ofInt (2 ^ 63 - 1)

/-- `clientutil.Range` (`range.go:28`). -/
structure Range where
  start : Int64
  length : Int64
  deriving DecidableEq, Repr

/-- The errors of `ParseRange`: `"invalid range"` and `ErrNoOverlap`. -/
inductive RangeError where
  | invalid
  | noOverlap
  deriving DecidableEq, Repr

/-- The text of a `ParseRange` error. -/
def RangeError.text : RangeError → List Char
  | .invalid => "invalid range".toList
  | .noOverlap => "invalid range: failed to overlap".toList

/-- `strconv.ParseInt(s, 10, 64)`, `none` for an error. -/
def parseInt64 (s : List Char) : Option Int64 :=
  match parseInt 64 s with
  | .ok i => some (Int64.ofInt i)
  | .error _ => none

/-- What one comma-separated spec of the header gives. -/
inductive Spec where
  /-- An empty spec, skipped. -/
  | empty
  /-- A spec that starts at or past `size`: skipped, and remembered. -/
  | noOverlap
  | range (r : Range)
  deriving DecidableEq, Repr

/-- One spec of the loop of `ParseRange` (`range.go:59–103`) against `size`. -/
def parseSpec (size : Int64) (spec : List Char) : Except RangeError Spec :=
  let ra := trimString spec
  if ra = [] then .ok .empty
  else
    let i := ra.idxOf '-'
    if i = ra.length then .error .invalid
    else
      let start := trimString (ra.take i)
      let finish := trimString (ra.drop (i + 1))
      if start = [] then
        -- a suffix: the last `n` bytes, all of them when there are fewer
        match parseInt64 finish with
        | none => .error .invalid
        | some n =>
          let n := if n > size then size else n
          .ok (.range ⟨size - n, size - (size - n)⟩)
      else
        match parseInt64 start with
        | none => .error .invalid
        | some a =>
          if a < 0 then .error .invalid
          else if a ≥ size then .ok .noOverlap
          else if finish = [] then .ok (.range ⟨a, size - a⟩)
          else
            match parseInt64 finish with
            | none => .error .invalid
            | some b =>
              if a > b then .error .invalid
              else
                let b := if b ≥ size then size - 1 else b
                .ok (.range ⟨a, b - a + 1⟩)

/-- The loop of `ParseRange` over the specs: the ranges in order and whether some spec did not
overlap, or the first error. -/
def parseSpecs (size : Int64) : List (List Char) → Except RangeError (List Range × Bool)
  | [] => .ok ([], false)
  | spec :: specs =>
    match parseSpec size spec with
    | .error e => .error e
    | .ok r =>
      match parseSpecs size specs with
      | .error e => .error e
      | .ok (ranges, noOverlap) =>
        match r with
        | .empty => .ok (ranges, noOverlap)
        | .noOverlap => .ok (ranges, true)
        | .range r => .ok (r :: ranges, noOverlap)

/-- `clientutil.ParseRange` (`range.go:49`). -/
def parseRange (s : List Char) (size : Int64) : Except RangeError (List Range) :=
  if s = [] then .ok []
  else if !"bytes=".toList.isPrefixOf s then .error .invalid
  else
    match parseSpecs size ((s.drop 6).splitOn ',') with
    | .error e => .error e
    | .ok (ranges, noOverlap) =>
      if noOverlap ∧ ranges = [] then .error .noOverlap else .ok ranges

/-! ### A suffix range -/

section Suffix

variable {n : ℕ}

/-- `math.MaxInt` as an integer. -/
theorem toInt_maxInt : maxInt.toInt = 2 ^ 63 - 1 := by decide

/-- `MaxInt - n` does not wrap for `n` in the `int64` range. -/
theorem maxInt_sub_ofNat (hn : n < 2 ^ 63) :
    maxInt - Int64.ofNat n = Int64.ofNat (2 ^ 63 - 1 - n) := by
  apply Int64.toInt_inj.mp
  rw [Int64.toInt_sub, Int64.toInt_ofNat_of_lt hn, Int64.toInt_ofNat_of_lt (by omega),
    toInt_maxInt, Int.bmod_eq_of_le (by omega) (by omega)]
  omega

/-- Every value in the `int64` range is at most `MaxInt`. -/
theorem not_ofNat_gt_maxInt (hn : n < 2 ^ 63) : ¬ Int64.ofNat n > maxInt := by
  rw [gt_iff_lt, Int64.lt_iff_toInt_lt, Int64.toInt_ofNat_of_lt hn, toInt_maxInt]
  omega

/-- `ParseInt` reads a formatted natural of the `int64` range back. -/
theorem parseInt64_formatUint (hn : n < 2 ^ 63) :
    parseInt64 (formatUint n) = some (Int64.ofNat n) := by
  have hfmt : formatInt (n : ℤ) = formatUint n := by simp [formatInt]
  rw [parseInt64, ← hfmt,
    parseInt_formatInt (show 0 < 64 by decide) (by push_cast; omega) (by push_cast; omega)]
  simp [Int64.ofInt_eq_ofNat]

/-- `%d` of an `int64` that holds a natural prints the natural. -/
theorem formatInt_toInt_ofNat (hn : n < 2 ^ 63) :
    formatInt (Int64.ofNat n).toInt = formatUint n := by
  rw [Int64.toInt_ofNat_of_lt hn]
  simp [formatInt]

/-- The characters of `-n` are no ASCII white space. -/
theorem isASCIISpace_of_mem_suffix {c : Char} (hc : c ∈ '-' :: formatUint n) :
    isASCIISpace c = false := by
  rcases List.mem_cons.mp hc with rfl | hc
  · rfl
  · exact isASCIISpace_of_isDigit (isDigit_of_mem_formatUint hc)

/-- A suffix spec `-n` is the last `n` of `size` bytes, all of them when there are fewer. -/
theorem parseSpec_suffix (hn : n < 2 ^ 63) (size : Int64) :
    parseSpec size ('-' :: formatUint n) =
      let m := if Int64.ofNat n > size then size else Int64.ofNat n
      .ok (.range ⟨size - m, size - (size - m)⟩) := by
  have htrim : trimString ('-' :: formatUint n) = '-' :: formatUint n :=
    trimString_of_forall fun c hc => isASCIISpace_of_mem_suffix hc
  have hdigits : trimString (formatUint n) = formatUint n :=
    trimString_of_forall fun c hc => isASCIISpace_of_isDigit (isDigit_of_mem_formatUint hc)
  have hnil : trimString [] = [] := rfl
  simp [parseSpec, htrim, hdigits, hnil, parseInt64_formatUint hn]

/-- The header `bytes=-n` parses to the one suffix range. -/
theorem parseRange_suffix (hn : n < 2 ^ 63) (size : Int64) :
    parseRange ("bytes=-".toList ++ formatUint n) size =
      let m := if Int64.ofNat n > size then size else Int64.ofNat n
      .ok [⟨size - m, size - (size - m)⟩] := by
  have hsplit : ('-' :: formatUint n).splitOn ',' = ['-' :: formatUint n] :=
    List.splitOn_eq_singleton fun h => by
      rcases List.mem_cons.mp h with h | h
      · cases h
      · exact not_mem_formatUint (by decide) h
  have hdrop : ("bytes=-".toList ++ formatUint n).drop 6 = '-' :: formatUint n := rfl
  have hprefix : "bytes=".toList.isPrefixOf ("bytes=-".toList ++ formatUint n) = true := rfl
  rw [parseRange, if_neg (by simp), hprefix, hdrop, hsplit]
  simp [parseSpecs, parseSpec_suffix hn]

/-- Against `MaxInt` the suffix `-n` starts at `MaxInt - n`. -/
theorem parseRange_suffix_maxInt (hn : n < 2 ^ 63) :
    parseRange ("bytes=-".toList ++ formatUint n) maxInt =
      .ok [⟨maxInt - Int64.ofNat n, Int64.ofNat n⟩] := by
  have hcancel : ∀ a b : Int64, a - (a - b) = b := fun a b => by grind
  simp only [parseRange_suffix hn, if_neg (not_ofNat_gt_maxInt hn), hcancel]

end Suffix

/-! ### A closed range -/

section Closed

variable {a b : ℕ}

/-- The characters of `a-b` are no ASCII white space. -/
theorem isASCIISpace_of_mem_closed {c : Char} (hc : c ∈ formatUint a ++ '-' :: formatUint b) :
    isASCIISpace c = false := by
  rcases List.mem_append.mp hc with hc | hc
  · exact isASCIISpace_of_isDigit (isDigit_of_mem_formatUint hc)
  · exact isASCIISpace_of_mem_suffix hc

/-- The length `b - a + 1` of `ParseRange` does not wrap for naturals. -/
theorem ofNat_sub_add_one (hab : a ≤ b) :
    Int64.ofNat b - Int64.ofNat a + 1 = Int64.ofNat (b - a + 1) := by
  obtain ⟨k, rfl⟩ := Nat.exists_eq_add_of_le hab
  rw [Nat.add_sub_cancel_left, Int64.ofNat_add, Int64.ofNat_add]
  grind

/-- The last byte `start + length - 1` of the range from `a` to `b` is `b`. -/
theorem ofNat_add_sub_one (hab : a ≤ b) :
    Int64.ofNat a + Int64.ofNat (b - a + 1) - 1 = Int64.ofNat b := by
  obtain ⟨k, rfl⟩ := Nat.exists_eq_add_of_le hab
  rw [Nat.add_sub_cancel_left, Int64.ofNat_add, Int64.ofNat_add]
  grind

/-- A closed spec `a-b` that ends below `size` is the range from `a` to `b`. -/
theorem parseSpec_closed (hab : a ≤ b) (hb : b < 2 ^ 63) {size : Int64}
    (hsize : Int64.ofNat b < size) :
    parseSpec size (formatUint a ++ '-' :: formatUint b) =
      .ok (.range ⟨Int64.ofNat a, Int64.ofNat b - Int64.ofNat a + 1⟩) := by
  have htrim : trimString (formatUint a ++ '-' :: formatUint b) =
      formatUint a ++ '-' :: formatUint b :=
    trimString_of_forall fun c hc => isASCIISpace_of_mem_closed hc
  have hdigits : ∀ m, trimString (formatUint m) = formatUint m := fun m =>
    trimString_of_forall fun c hc => isASCIISpace_of_isDigit (isDigit_of_mem_formatUint hc)
  have hidx : (formatUint a ++ '-' :: formatUint b).idxOf '-' = (formatUint a).length := by
    rw [List.idxOf_append_of_notMem (not_mem_formatUint (by decide)), List.idxOf_cons_self,
      Nat.add_zero]
  -- the four guards of the `a-b` branch, read on the integers
  have ha := Int64.toInt_ofNat_of_lt (show a < 2 ^ 63 by omega)
  have hb' := Int64.toInt_ofNat_of_lt hb
  have hsize' := Int64.lt_iff_toInt_lt.mp hsize
  have hneg : ¬ Int64.ofNat a < 0 := by
    rw [Int64.lt_iff_toInt_lt, ha]
    simp
  have hstart : ¬ size ≤ Int64.ofNat a := by
    rw [Int64.le_iff_toInt_le, ha]
    omega
  have horder : ¬ Int64.ofNat b < Int64.ofNat a := by
    rw [Int64.lt_iff_toInt_lt, ha, hb']
    omega
  have hend : ¬ size ≤ Int64.ofNat b := by
    rw [Int64.le_iff_toInt_le, hb']
    omega
  simp [parseSpec, htrim, hidx, hdigits, formatUint_ne_nil, parseInt64_formatUint hb,
    parseInt64_formatUint (show a < 2 ^ 63 by omega), hneg, hstart, horder, hend]

/-- The header `bytes=a-b` with `b` below `size` parses to the one range from `a` to `b`. -/
theorem parseRange_closed (hab : a ≤ b) (hb : b < 2 ^ 63) {size : Int64}
    (hsize : Int64.ofNat b < size) :
    parseRange ("bytes=".toList ++ (formatUint a ++ '-' :: formatUint b)) size =
      .ok [⟨Int64.ofNat a, Int64.ofNat b - Int64.ofNat a + 1⟩] := by
  have hsplit : (formatUint a ++ '-' :: formatUint b).splitOn ',' =
      [formatUint a ++ '-' :: formatUint b] :=
    List.splitOn_eq_singleton fun h => by
      rcases List.mem_append.mp h with h | h
      · exact not_mem_formatUint (by decide) h
      · rcases List.mem_cons.mp h with h | h
        · cases h
        · exact not_mem_formatUint (by decide) h
  have hdrop : ("bytes=".toList ++ (formatUint a ++ '-' :: formatUint b)).drop 6 =
      formatUint a ++ '-' :: formatUint b := by
    simp
  have hprefix :
      "bytes=".toList.isPrefixOf ("bytes=".toList ++ (formatUint a ++ '-' :: formatUint b)) =
        true := by
    simp
  rw [parseRange, if_neg (by simp), hprefix, hdrop, hsplit]
  simp [parseSpecs, parseSpec_closed hab hb hsize]

end Closed

end Dragonfly.Clientutil

namespace Dragonfly.Daemon

open Dragonfly.Base.GoText Dragonfly.Clientutil Dragonfly.Idgen

/-- A completed task the storage manager finds (`storage.ReusePeerTask`), with its local
store: the data file and the store's `invalid` flag, set when its digest did not match. -/
structure CompletedTask where
  peerID : List Char
  contentLength : Int64
  data : List UInt8
  invalid : Bool
  deriving DecidableEq, Repr

/-- `peer.StreamTaskRequest` (`peertask_manager.go`). -/
structure StreamTaskRequest where
  url : List Char
  urlMeta : UrlMeta
  range : Option Range
  peerID : List Char
  deriving DecidableEq, Repr

/-- The attributes a stream task answers with, by the header each one is for. -/
structure StreamAttrs where
  /-- `X-Dragonfly-Task`. -/
  task : List Char
  /-- `X-Dragonfly-Peer`. -/
  peer : List Char
  /-- `X-Dragonfly-Range`. -/
  range : Option (List Char)
  /-- `Content-Range`. -/
  contentRange : Option (List Char)
  /-- `Content-Length`. -/
  contentLength : Option (List Char)
  deriving DecidableEq, Repr

/-- `localTaskStore.ReadAllPieces` (`local_storage.go:251`): the whole data file, or at most
the range's length bytes from its start; a seek before the file's start fails, one past its
end reads nothing. -/
def readAllPieces (task : CompletedTask) (rg : Option Range) : Option (List UInt8) :=
  if task.invalid then none
  else
    match rg with
    | none => some task.data
    | some r =>
      if r.start < 0 then none
      else some ((task.data.drop r.start.toInt.toNat).take r.length.toInt.toNat)

/-- `fmt.Sprintf("bytes %d-%d/%d", ...)` of a range of content of length `total`
(`peertask_reuse.go:229`). -/
def contentRangeText (rg : Range) (total : Int64) : List Char :=
  "bytes ".toList ++ formatInt rg.start.toInt ++ '-' :: formatInt (rg.start + rg.length - 1).toInt ++
    '/' :: formatInt total.toInt

section

variable (sum : List Char → List Char) (filterQuery : List Char → List (List Char) → List Char)
  (find : List Char → Option CompletedTask)

/-- `peerTaskManager.tryReuseStreamPeerTask` (`peertask_reuse.go:173`) with
`FindCompletedTask` as `find`: the body and the attributes, `none` when nothing is reused. -/
def tryReuseStreamPeerTask (req : StreamTaskRequest) : Option (List UInt8 × StreamAttrs) :=
  let id := taskID sum filterQuery req.url (some req.urlMeta)
  let found : Option (List Char × CompletedTask × Option Range) :=
    match find id with
    | some task => some (id, task, none)
    | none =>
      -- a ranged request reads the range of its parent task
      match req.range with
      | none => none
      | some rg =>
        let parentID := parentTaskID sum filterQuery req.url (some req.urlMeta)
        (find parentID).map fun task => (parentID, task, some rg)
  found.bind fun (id, task, rg) =>
    (readAllPieces task rg).map fun body =>
      match rg with
      | some rg =>
        (body, ⟨id, req.peerID, some req.urlMeta.range, some (contentRangeText rg task.contentLength),
          some (formatInt rg.length.toInt)⟩)
      | none => (body, ⟨id, req.peerID, none, none, some (formatInt task.contentLength.toInt)⟩)

/-- The range part of `transport.download` (`transport.go:212–226`): the parsed range and the
`UrlMeta` range, or the status and the text of the refusal. -/
def requestRange (rangeHeader : List Char) : Except (ℕ × List Char) (Option Range × List Char) :=
  if rangeHeader = [] then .ok (none, [])
  else
    match parseRange rangeHeader maxInt with
    | .error e => .error (400, e.text)
    | .ok [r] => .ok (some r, trimLeft rangeHeader "bytes=".toList)
    | .ok [] => .error (416, "zero range is not supported".toList)
    | .ok _ => .error (501, "multiple range is not supported".toList)

/-- The response of the proxy for a stream task (`transport.go:265–283`). -/
structure Response where
  statusCode : ℕ
  body : List UInt8
  header : StreamAttrs
  contentLength : Int64
  deriving DecidableEq, Repr

/-- What `transport.download` answers: a refusal with its status and text, the error of the
stream task, or the response. -/
inductive DownloadAnswer (ε : Type) where
  | refused (status : ℕ) (text : List Char)
  | failed (err : ε)
  | ok (resp : Response)
  deriving DecidableEq, Repr

/-- The `Content-Length` of the response: the attribute when it parses, else `-1`
(`transport.go:259–264`). -/
def responseContentLength (attr : StreamAttrs) : Int64 :=
  ((attr.contentLength.bind parseInt64).getD (-1))

/-- `transport.download` (`transport.go:201`) with multiplexing on or off: a request for `url`
with the given `Range` header (empty when absent), filter and tag. -/
def download {ε : Type} (newStreamTask : StreamTaskRequest → Except ε (List UInt8 × StreamAttrs))
    (enableMultiplex : Bool) (url rangeHeader filter tag peerID : List Char) :
    DownloadAnswer ε :=
  match requestRange rangeHeader with
  | .error (status, text) => .refused status text
  | .ok (rg, metaRange) =>
    let req : StreamTaskRequest :=
      ⟨url, { range := metaRange, tag := tag, filter := filter }, rg, peerID⟩
    let started : Except ε (List UInt8 × StreamAttrs) :=
      match enableMultiplex, tryReuseStreamPeerTask sum filterQuery find req with
      | true, some reused => .ok reused
      | _, _ => newStreamTask req
    match started with
    | .error err => .failed err
    | .ok (body, attr) =>
      .ok ⟨if metaRange = [] then 200 else 206, body, attr, responseContentLength attr⟩

end

/-! ### A suffix range served from a parent task -/

section Suffix

variable (sum : List Char → List Char) (filterQuery : List Char → List (List Char) → List Char)
  (find : List Char → Option CompletedTask)
variable {n : ℕ}

/-- `strings.TrimLeft` by the characters of `bytes=` keeps what follows `bytes=` when it starts
with another character. -/
theorem trimLeft_bytes {c : Char} (cs : List Char) (hc : c ∉ "bytes=".toList) :
    trimLeft ("bytes=".toList ++ c :: cs) "bytes=".toList = c :: cs := by
  simp at hc
  simp [trimLeft]
  simpa using hc

/-- A digit is none of the characters of `bytes=`. -/
theorem not_mem_bytes_of_isDigit {c : Char} (hc : c.isDigit) : c ∉ "bytes=".toList := by
  intro h
  simp at h
  rcases h with rfl | rfl | rfl | rfl | rfl | rfl <;> simp at hc

/-- `strings.TrimLeft` of `bytes=-n` by the characters of `bytes=` keeps `-n`. -/
theorem trimLeft_suffix :
    trimLeft ("bytes=-".toList ++ formatUint n) "bytes=".toList = '-' :: formatUint n :=
  trimLeft_bytes _ (by decide)

/-- `transport.download` takes the header `bytes=-n` as the range of length `n` from
`MaxInt - n`. -/
theorem requestRange_suffix (hn : n < 2 ^ 63) :
    requestRange ("bytes=-".toList ++ formatUint n) =
      .ok (some ⟨maxInt - Int64.ofNat n, Int64.ofNat n⟩, '-' :: formatUint n) := by
  rw [requestRange, if_neg (by simp), parseRange_suffix_maxInt hn, trimLeft_suffix]

/-- Read from `MaxInt - n`, content shorter than `2 ^ 62` bytes gives nothing. -/
theorem readAllPieces_suffix {task : CompletedTask} (hvalid : task.invalid = false)
    (hn : n < 2 ^ 62) (hL : task.data.length < 2 ^ 62) :
    readAllPieces task (some ⟨maxInt - Int64.ofNat n, Int64.ofNat n⟩) = some [] := by
  have hstart : (maxInt - Int64.ofNat n).toInt = ((2 ^ 63 - 1 - n : ℕ) : ℤ) := by
    rw [maxInt_sub_ofNat (by omega), Int64.toInt_ofNat_of_lt (by omega)]
  have hnonneg : ¬ maxInt - Int64.ofNat n < 0 := by
    rw [Int64.lt_iff_toInt_lt, hstart]
    simp
  rw [readAllPieces, if_neg (by simp [hvalid]), if_neg hnonneg, hstart, Int.toNat_natCast,
    List.drop_eq_nil_of_le (by omega), List.take_nil]

/-- A ranged request that finds no completed task of its own ID reads its parent's data
through the range, and answers with the range's `Content-Range` and `Content-Length`. -/
theorem tryReuseStreamPeerTask_parent {req : StreamTaskRequest} {rg : Range}
    {task : CompletedTask} (hrange : req.range = some rg)
    (hown : find (taskID sum filterQuery req.url (some req.urlMeta)) = none)
    (hparent : find (parentTaskID sum filterQuery req.url (some req.urlMeta)) = some task) :
    tryReuseStreamPeerTask sum filterQuery find req = (readAllPieces task (some rg)).map
      fun body => (body, ⟨parentTaskID sum filterQuery req.url (some req.urlMeta), req.peerID,
        some req.urlMeta.range, some (contentRangeText rg task.contentLength),
        some (formatInt rg.length.toInt)⟩) := by
  simp [tryReuseStreamPeerTask, hown, hrange, hparent]

/-- A satisfiable suffix range `bytes=-n` of a completed parent task answers `206` with no
body: the range is read from `MaxInt - n`, past the end of the content, while the last `n`
bytes of the content are there; the `Content-Range` starts at `MaxInt - n` as well. -/
theorem download_suffix_range_reads_nothing {ε : Type}
    (newStreamTask : StreamTaskRequest → Except ε (List UInt8 × StreamAttrs))
    (url filter tag peerID : List Char) (task : CompletedTask) (hn : 0 < n)
    (hsat : n ≤ task.data.length) (hL : task.data.length < 2 ^ 62)
    (hvalid : task.invalid = false)
    (hown : find (taskID sum filterQuery url
      (some { range := '-' :: formatUint n, tag := tag, filter := filter })) = none)
    (hparent : find (parentTaskID sum filterQuery url
      (some { range := '-' :: formatUint n, tag := tag, filter := filter })) = some task) :
    (∃ attrs : StreamAttrs,
      download sum filterQuery find newStreamTask true url ("bytes=-".toList ++ formatUint n)
          filter tag peerID = .ok ⟨206, [], attrs, Int64.ofNat n⟩ ∧
        attrs.contentRange =
          some (contentRangeText ⟨maxInt - Int64.ofNat n, Int64.ofNat n⟩ task.contentLength)) ∧
      task.data.drop (task.data.length - n) ≠ [] := by
  have hlen : formatInt (Int64.ofNat n).toInt = formatUint n := formatInt_toInt_ofNat (by omega)
  have hreuse := tryReuseStreamPeerTask_parent sum filterQuery find
    (show (⟨url, { range := '-' :: formatUint n, tag := tag, filter := filter },
      some ⟨maxInt - Int64.ofNat n, Int64.ofNat n⟩, peerID⟩ : StreamTaskRequest).range =
        some ⟨maxInt - Int64.ofNat n, Int64.ofNat n⟩ from rfl) hown hparent
  rw [readAllPieces_suffix hvalid (by omega) hL, Option.map_some] at hreuse
  -- the attributes of the parent branch, with `Content-Length` the formatted `n`
  refine ⟨⟨⟨parentTaskID sum filterQuery url
      (some { range := '-' :: formatUint n, tag := tag, filter := filter }), peerID,
      some ('-' :: formatUint n),
      some (contentRangeText ⟨maxInt - Int64.ofNat n, Int64.ofNat n⟩ task.contentLength),
      some (formatUint n)⟩, ?_, rfl⟩, ?_⟩
  · simp only [download, requestRange_suffix (show n < 2 ^ 63 by omega), hreuse,
      responseContentLength, Option.bind_some, hlen,
      parseInt64_formatUint (show n < 2 ^ 63 by omega)]
    simp
  · simp
    omega

end Suffix

/-! ### A closed range served from a parent task -/

section Closed

variable (sum : List Char → List Char) (filterQuery : List Char → List (List Char) → List Char)
  (find : List Char → Option CompletedTask)
variable {a b : ℕ}

/-- `transport.download` takes the header `bytes=a-b` with `b` below `MaxInt` as the range from
`a` to `b`. -/
theorem requestRange_closed (hab : a ≤ b) (hb : b < 2 ^ 63 - 1) :
    requestRange ("bytes=".toList ++ (formatUint a ++ '-' :: formatUint b)) =
      .ok (some ⟨Int64.ofNat a, Int64.ofNat (b - a + 1)⟩, formatUint a ++ '-' :: formatUint b) := by
  have hmax : Int64.ofNat b < maxInt := by
    rw [Int64.lt_iff_toInt_lt, Int64.toInt_ofNat_of_lt (by omega), toInt_maxInt]
    omega
  have htrim : trimLeft ("bytes=".toList ++ (formatUint a ++ '-' :: formatUint b))
      "bytes=".toList = formatUint a ++ '-' :: formatUint b := by
    obtain ⟨c, cs, hcs, hc⟩ := formatUint_eq_cons a
    rw [hcs]
    exact trimLeft_bytes _ (not_mem_bytes_of_isDigit hc)
  rw [requestRange, if_neg (by simp), parseRange_closed hab (by omega) hmax, htrim,
    ofNat_sub_add_one hab]

/-- The `Content-Range` of the range from `a` to `b` of `L` bytes is `bytes a-b/L`. -/
theorem contentRangeText_ofNat {L : ℕ} (hab : a ≤ b) (hb : b < 2 ^ 63) (hL : L < 2 ^ 63) :
    contentRangeText ⟨Int64.ofNat a, Int64.ofNat (b - a + 1)⟩ (Int64.ofNat L) =
      "bytes ".toList ++ formatUint a ++ '-' :: formatUint b ++ '/' :: formatUint L := by
  -- unfolded by hand: `simp` would try to close the goal by evaluating the `Int64` terms
  unfold contentRangeText
  dsimp only
  rw [ofNat_add_sub_one hab, formatInt_toInt_ofNat (show a < 2 ^ 63 by omega),
    formatInt_toInt_ofNat hb, formatInt_toInt_ofNat hL]

/-- Read through the range from `a` to `b`, a valid store gives its bytes `a` to `b`. -/
theorem readAllPieces_closed {task : CompletedTask} (hvalid : task.invalid = false)
    (hab : a ≤ b) (hb : b < 2 ^ 63 - 1) :
    readAllPieces task (some ⟨Int64.ofNat a, Int64.ofNat (b - a + 1)⟩) =
      some ((task.data.drop a).take (b - a + 1)) := by
  have ha := Int64.toInt_ofNat_of_lt (show a < 2 ^ 63 by omega)
  have hlen := Int64.toInt_ofNat_of_lt (show b - a + 1 < 2 ^ 63 by omega)
  have hnonneg : ¬ Int64.ofNat a < 0 := by
    rw [Int64.lt_iff_toInt_lt, ha]
    simp
  rw [readAllPieces, if_neg (by simp [hvalid]), if_neg hnonneg, ha, hlen, Int.toNat_natCast,
    Int.toNat_natCast]

/-- A closed range `bytes=a-b` that ends inside a completed parent task of length `L` is
served exactly: status `206`, the bytes `a` to `b`, `Content-Length` `b - a + 1` and
`Content-Range` `bytes a-b/L`. -/
theorem download_closed_range_exact {ε : Type}
    (newStreamTask : StreamTaskRequest → Except ε (List UInt8 × StreamAttrs))
    (url filter tag peerID : List Char) (task : CompletedTask) (hab : a ≤ b)
    (hb : b < task.data.length) (hL : task.data.length < 2 ^ 62)
    (hvalid : task.invalid = false) (hlength : task.contentLength = Int64.ofNat task.data.length)
    (hown : find (taskID sum filterQuery url
      (some { range := formatUint a ++ '-' :: formatUint b, tag := tag, filter := filter })) = none)
    (hparent : find (parentTaskID sum filterQuery url
      (some { range := formatUint a ++ '-' :: formatUint b, tag := tag, filter := filter })) =
        some task) :
    download sum filterQuery find newStreamTask true url
        ("bytes=".toList ++ (formatUint a ++ '-' :: formatUint b)) filter tag peerID =
      .ok ⟨206, (task.data.drop a).take (b - a + 1),
        ⟨parentTaskID sum filterQuery url
            (some { range := formatUint a ++ '-' :: formatUint b, tag := tag, filter := filter }),
          peerID, some (formatUint a ++ '-' :: formatUint b),
          some ("bytes ".toList ++ formatUint a ++ '-' :: formatUint b ++
            '/' :: formatUint task.data.length),
          some (formatUint (b - a + 1))⟩,
        Int64.ofNat (b - a + 1)⟩ := by
  have hrange := contentRangeText_ofNat hab (show b < 2 ^ 63 by omega)
    (show task.data.length < 2 ^ 63 by omega)
  rw [← hlength] at hrange
  have hreuse := tryReuseStreamPeerTask_parent sum filterQuery find
    (show (⟨url, { range := formatUint a ++ '-' :: formatUint b, tag := tag, filter := filter },
      some ⟨Int64.ofNat a, Int64.ofNat (b - a + 1)⟩, peerID⟩ : StreamTaskRequest).range =
        some ⟨Int64.ofNat a, Int64.ofNat (b - a + 1)⟩ from rfl) hown hparent
  rw [readAllPieces_closed hvalid hab (by omega), Option.map_some, hrange,
    formatInt_toInt_ofNat (show b - a + 1 < 2 ^ 63 by omega)] at hreuse
  simp only [download, requestRange_closed hab (show b < 2 ^ 63 - 1 by omega), hreuse,
    responseContentLength, Option.bind_some, parseInt64_formatUint (show b - a + 1 < 2 ^ 63 by omega)]
  simp

end Closed

/-- A parent task of ten bytes, completed by peer `p`. -/
def tenByteTask : CompletedTask := ⟨"p".toList, 10, List.replicate 10 0, false⟩

/-- `bytes=-3` of the ten-byte parent of `u` answers `206` with no body. -/
theorem download_suffix_range_reads_nothing_three :
    (∃ attrs : StreamAttrs,
      download id (fun s _ => s) (fun id => if id = "u".toList then some tenByteTask else none)
          (fun _ => (.error () : Except Unit (List UInt8 × StreamAttrs))) true "u".toList
          ("bytes=-".toList ++ formatUint 3) [] [] "q".toList =
        .ok ⟨206, [], attrs, Int64.ofNat 3⟩ ∧
        attrs.contentRange =
          some (contentRangeText ⟨maxInt - Int64.ofNat 3, Int64.ofNat 3⟩ tenByteTask.contentLength)) ∧
      tenByteTask.data.drop (tenByteTask.data.length - 3) ≠ [] :=
  download_suffix_range_reads_nothing id (fun s _ => s) _ _ "u".toList [] [] "q".toList tenByteTask
    (by decide) (by decide) (by decide) rfl (by decide) (by decide)

/-- `bytes=2-4` of the ten-byte parent of `u` answers its bytes `2` to `4`. -/
theorem download_closed_range_exact_two_four :
    download id (fun s _ => s) (fun id => if id = "u".toList then some tenByteTask else none)
        (fun _ => (.error () : Except Unit (List UInt8 × StreamAttrs))) true "u".toList
        ("bytes=".toList ++ (formatUint 2 ++ '-' :: formatUint 4)) [] [] "q".toList =
      .ok ⟨206, (tenByteTask.data.drop 2).take (4 - 2 + 1),
        ⟨parentTaskID id (fun s _ => s) "u".toList
            (some { range := formatUint 2 ++ '-' :: formatUint 4, tag := [], filter := [] }),
          "q".toList, some (formatUint 2 ++ '-' :: formatUint 4),
          some ("bytes ".toList ++ formatUint 2 ++ '-' :: formatUint 4 ++
            '/' :: formatUint tenByteTask.data.length),
          some (formatUint (4 - 2 + 1))⟩,
        Int64.ofNat (4 - 2 + 1)⟩ :=
  download_closed_range_exact id (fun s _ => s) _ _ "u".toList [] [] "q".toList tenByteTask
    (by decide) (by decide) (by decide) rfl (by decide) (by decide) (by decide)

end Dragonfly.Daemon
