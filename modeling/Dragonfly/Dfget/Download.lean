import Dragonfly.Pkg.Digest

/-!
# dfget's download from the source

`downloadFromSource` (`client/dfget/dfget.go:137`): copy the source body into a temporary
file and, for a non-blank `--digest`, hash the file with the algorithm named before the
first colon of `Parse(digest)` and compare the hex with the part after it. `HashFile` gives
`""` for an algorithm it does not know, and the comparison is then skipped. Requests to the
source, the file system, `Chown` and `Rename` do not fail here, and the result is the content
of the output file.
-/

namespace Dragonfly.Dfget

open Dragonfly.Digest Dragonfly.Base.GoText

/-- The errors `downloadFromSource` returns. -/
inductive SourceError where
  /-- `"try to download from source but back source is disabled"` -/
  | backSourceDisabled
  /-- `"%s digest is not matched: real[%s] expected[%s]"` -/
  | digestNotMatched (algo real expected : List Char)
  /-- The run-time panic of `parsedHash[1]` on a digest without a colon. -/
  | indexOutOfRange
  deriving DecidableEq, Repr

variable {α : Type} (md5 sha256 : List α → List Char)

/-- `digestutils.HashFile` (`digest.go:82`) of a regular file holding `content`: its hex hash
under `hashType`, `""` for any other algorithm. -/
def hashFile (content : List α) (hashType : Option Algorithm) : List Char :=
  match hashType with
  | some algo => hashOf md5 sha256 algo content
  | none => []

/-- `downloadFromSource` (`dfget.go:137`) of a source serving `body`: the content of the output
file, or the error. -/
def downloadFromSource (disableBackSource : Bool) (digest : List Char) (body : List α) :
    Except SourceError (List α) :=
  if disableBackSource then .error .backSourceDisabled
  else
    -- `io.Copy` has written the whole body to the target file
    let target := body
    if !isBlank digest then
      let parsedHash := parse digest
      let realHash := hashFile md5 sha256 target (algorithms (parsedHash.headD []))
      if realHash ≠ [] then
        match parsedHash[1]? with
        | none => .error .indexOutOfRange
        | some expected =>
          if realHash ≠ expected then
            .error (.digestNotMatched (parsedHash.headD []) realHash expected)
          else .ok target
      else .ok target
    else .ok target

/-! ### What the check accepts -/

/-- Under `<algo>:<hex>` for a supported algorithm whose hash of the content is not empty, the
content is accepted exactly when the hex is that hash. -/
theorem downloadFromSource_algorithm_iff (a : Algorithm) {h : List Char} (hh : isLowerHex h)
    (body : List α) (hne : hashOf md5 sha256 a body ≠ []) :
    downloadFromSource md5 sha256 false (a.toString ++ ':' :: h) body = .ok body ↔
      h = hashOf md5 sha256 a body := by
  unfold downloadFromSource
  simp only [Bool.false_eq_true, if_false, isBlank_algorithm, Bool.not_false, if_true,
    parse_algorithm_hex a hh, List.headD_cons, algorithms_toString, hashFile, ne_eq, hne,
    not_false_eq_true, List.getElem?_cons_succ, List.getElem?_cons_zero]
  by_cases heq : hashOf md5 sha256 a body = h
  · simp [heq]
  · simp [heq, Ne.symm heq]

/-- The content is accepted under `<algo>:<hex>` of its own hash, when the hash is lowercase
hex. -/
theorem downloadFromSource_hashOf (a : Algorithm) (body : List α)
    (hh : isLowerHex (hashOf md5 sha256 a body)) :
    downloadFromSource md5 sha256 false (a.toString ++ ':' :: hashOf md5 sha256 a body) body =
      .ok body := by
  by_cases hne : hashOf md5 sha256 a body = []
  · unfold downloadFromSource
    dsimp only
    rw [parse_algorithm_hex a hh]
    simp [isBlank_algorithm, hashFile, hne]
  · exact (downloadFromSource_algorithm_iff md5 sha256 a hh body hne).mpr rfl

end Dragonfly.Dfget
