import Dragonfly.Base.GoText

/-!
# Digests and digest readers

`pkg/util/digestutils`: the supported algorithms, `Parse` of an expected digest
`<algo>:<hex>`, `Sha256` of a list of strings, and the `digestReader` that hashes what it
reads and checks an expected MD5 when its body returns `io.EOF`. The hash functions are
parameters: `md5` and `sha256` give the lowercase hex of the hash of their input.

A response body is modelled by the bytes still to come and by whether the read that returns
the last bytes also returns `io.EOF` (a body may as well return them alone and `io.EOF` on
the next read). `io.Copy` from `io.LimitReader(r, k)` then reads `min(k, rest)` bytes, and
sees `io.EOF` from the body exactly when fewer than `k` bytes were left, or exactly `k` and
the body sends `io.EOF` with them: `LimitReader` stops calling the body once `k` bytes came.
-/

namespace Dragonfly.Digest

open Dragonfly.Base.GoText

/-! ### Algorithms and expected digests -/

/-- The algorithms of `digestutils.Algorithms` (`digest.go:44–47`). -/
inductive Algorithm where
  | sha256 | md5
  deriving DecidableEq, Repr

/-- `digest.Algorithm.String`. -/
def Algorithm.toString : Algorithm → List Char
  | .sha256 => "sha256".toList
  | .md5 => "md5".toList

/-- `digestutils.Algorithms[algo]`, `none` for the empty algorithm of an unsupported name. -/
def algorithms (algo : List Char) : Option Algorithm :=
  if algo = "sha256".toList then some .sha256
  else if algo = "md5".toList then some .md5
  else none

/-- `strings.Trim(s, " ")`. -/
def trimBlank (s : List Char) : List Char := (s.dropWhile (· = ' ')).rdropWhile (· = ' ')

/-- `digestutils.Parse` (`digest.go:117`): the parts of the trimmed digest between colons. -/
def parse (digest : List Char) : List (List Char) := (trimBlank digest).splitOn ':'

/-- `digestutils.CreateHash` (`digest.go:122`): the hash of `Algorithms[hashType]`, `none`
for the nil `hash.Hash` of an unsupported name. -/
def createHash (hashType : List Char) : Option Algorithm := algorithms hashType

/-- `digestutils.Algorithms[algo].String()`: a supported name, `""` for any other. -/
def algorithmName (algo : List Char) : List Char := ((algorithms algo).map Algorithm.toString).getD []

/-- Lowercase hex, the text `ToHashString` returns. -/
def isLowerHex (s : List Char) : Bool := s.all fun x => x.isDigit || ('a' ≤ x && x ≤ 'f')

@[simp] theorem algorithms_toString (a : Algorithm) : algorithms a.toString = some a := by
  cases a <;> rfl

/-- Lowercase hex holds no separator and no blank. -/
theorem isLowerHex_ne {s : List Char} (hs : isLowerHex s) {x : Char} (hx : x ∈ s) :
    x ≠ ':' ∧ x ≠ ' ' := by
  have h := List.all_eq_true.mp hs x hx
  constructor <;> rintro rfl <;> exact absurd h (by decide)

/-- An expected digest that starts with an algorithm's name is not blank. -/
theorem isBlank_algorithm (a : Algorithm) (h : List Char) :
    isBlank (a.toString ++ ':' :: h) = false := by
  cases a <;> exact isBlank_cons (by decide) _

/-- `Parse` of `<algo>:<h>` puts the algorithm's name first, and splits the rest, trimmed
at its end, at its colons. -/
theorem parse_algorithm (a : Algorithm) (h : List Char) :
    parse (a.toString ++ ':' :: h) = a.toString :: (h.rdropWhile (· = ' ')).splitOn ':' := by
  have hdrop : (a.toString ++ ':' :: h).dropWhile (· = ' ') = a.toString ++ ':' :: h := by
    cases a <;> rfl
  -- no name holds a colon; checked on the names as computed lists
  have hall : a.toString.all (fun x => x != ':') = true := by cases a <;> rfl
  have hname : ∀ x ∈ a.toString, (x == ':') = false := fun x hx => by
    simpa using List.all_eq_true.mp hall x hx
  rw [parse, trimBlank, hdrop, rdropWhile_append_cons (by decide)]
  exact List.splitOnP_append_cons_of_forall_mem hname ':' (by decide) _

/-- `Parse` of `<algo>:<hex>` gives the name and the hex. -/
theorem parse_algorithm_hex (a : Algorithm) {h : List Char} (hh : isLowerHex h) :
    parse (a.toString ++ ':' :: h) = [a.toString, h] := by
  have htrim : h.rdropWhile (· = ' ') = h := by
    rw [List.rdropWhile_eq_self_iff]
    intro hl
    simpa using (isLowerHex_ne hh (List.getLast_mem hl)).2
  have hsplit : h.splitOn ':' = [h] :=
    List.splitOnP_eq_singleton (fun x hx => by simpa using (isLowerHex_ne hh hx).1)
  rw [parse_algorithm, htrim, hsplit]

/-- The hex digest of `content` under `algo`. -/
def hashOf {α : Type} (md5 sha256 : List α → List Char) : Algorithm → List α → List Char
  | .md5 => md5
  | .sha256 => sha256

/-- `digestutils.Sha256` (`digest.go:50`) with `hash` the hex SHA-256 of a string: the hash of
the values written one after another, and `""` for no values. -/
def sha256Values (hash : List Char → List Char) (values : List (List Char)) : List Char :=
  if values = [] then [] else hash values.flatten

/-- With a hash whose hex is never empty, `Sha256` of some values is never empty. -/
theorem sha256Values_ne_nil {hash : List Char → List Char} (hhash : ∀ s, hash s ≠ [])
    {values : List (List Char)} (hv : values ≠ []) : sha256Values hash values ≠ [] := by
  rw [sha256Values, if_neg hv]
  exact hhash _

/-! ### Bodies and the digest reader -/

/-- A response body: the bytes still to come, and whether the read that returns the last
bytes also returns `io.EOF`. -/
structure Body (α : Type) where
  rest : List α
  eofWithLast : Bool
  deriving DecidableEq, Repr

variable {α : Type}

/-- `io.Copy` from `io.LimitReader(body, k)`: the bytes read, whether the body returned
`io.EOF` on the way, and the body after. -/
def Body.readAtMost (b : Body α) (k : ℕ) : List α × Bool × Body α :=
  (b.rest.take k,
    decide (b.rest.length < k) || (decide (b.rest.length = k) && decide (0 < k) && b.eofWithLast),
    ⟨b.rest.drop k, b.eofWithLast⟩)

/-- A `digestReader` (`digest_reader.go:35`) over a body: the MD5 hash has been fed `hashed`,
and `digest` is the expected digest, `""` for none. -/
structure DigestReader (α : Type) where
  body : Body α
  digest : List Char
  hashed : List α
  deriving DecidableEq, Repr

/-- `NewDigestReader(log, body, digest)` (`digest_reader.go:49`). -/
def newDigestReader (body : Body α) (digest : List Char) : DigestReader α := ⟨body, digest, []⟩

/-- `digestReader.Digest` (`digest_reader.go:83`): the hex MD5 of all bytes read. -/
def DigestReader.digestOf (md5 : List α → List Char) (r : DigestReader α) : List Char :=
  md5 r.hashed

/-- `io.Copy` from `io.LimitReader(r, k)` over a digest reader (`digest_reader.go:63–80`):
the bytes read, the reader after, and whether a read returned `ErrDigestNotMatch`, which the
reader does when its body returns `io.EOF`, an expected digest is set and the MD5 of all
bytes read differs from it. -/
def DigestReader.read (md5 : List α → List Char) (r : DigestReader α) (k : ℕ) :
    List α × DigestReader α × Bool :=
  let (chunk, eof, body) := r.body.readAtMost k
  let r' : DigestReader α := ⟨body, r.digest, r.hashed ++ chunk⟩
  (chunk, r', eof && decide (r.digest ≠ []) && decide (r'.digestOf md5 ≠ r.digest))

/-- A read through a digest reader without an expected digest never fails. -/
theorem DigestReader.read_no_digest (md5 : List α → List Char) {r : DigestReader α}
    (hd : r.digest = []) (k : ℕ) : (r.read md5 k).2.2 = false := by
  simp [DigestReader.read, hd]

/-- Reading keeps the expected digest. -/
@[simp] theorem DigestReader.digest_read (md5 : List α → List Char) (r : DigestReader α) (k : ℕ) :
    (r.read md5 k).2.1.digest = r.digest := rfl

/-- Reading takes the next `k` bytes of the body. -/
@[simp] theorem DigestReader.chunk_read (md5 : List α → List Char) (r : DigestReader α) (k : ℕ) :
    (r.read md5 k).1 = r.body.rest.take k := rfl

@[simp] theorem DigestReader.rest_read (md5 : List α → List Char) (r : DigestReader α) (k : ℕ) :
    (r.read md5 k).2.1.body.rest = r.body.rest.drop k := rfl

@[simp] theorem DigestReader.eofWithLast_read (md5 : List α → List Char) (r : DigestReader α)
    (k : ℕ) : (r.read md5 k).2.1.body.eofWithLast = r.body.eofWithLast := rfl

/-- Reading feeds the bytes read to the hash. -/
@[simp] theorem DigestReader.hashed_read (md5 : List α → List Char) (r : DigestReader α) (k : ℕ) :
    (r.read md5 k).2.1.hashed = r.hashed ++ r.body.rest.take k := rfl

/-- A read that stops before the end of the body does not see `io.EOF`, so it does not
check. -/
theorem DigestReader.read_before_end (md5 : List α → List Char) {r : DigestReader α} {k : ℕ}
    (hk : k < r.body.rest.length) : (r.read md5 k).2.2 = false := by
  have hlt : decide (r.body.rest.length < k) = false := decide_eq_false (by omega)
  have hne : decide (r.body.rest.length = k) = false := decide_eq_false (by omega)
  simp [DigestReader.read, Body.readAtMost, hlt, hne]

/-- A read of the last `k > 0` bytes of a body that sends `io.EOF` with them checks the MD5
of everything read against the expected digest. -/
theorem DigestReader.read_at_end (md5 : List α → List Char) {r : DigestReader α} {k : ℕ}
    (hk : r.body.rest.length = k) (hpos : 0 < k) (heof : r.body.eofWithLast = true) :
    (r.read md5 k).2.2 =
      (decide (r.digest ≠ []) && decide (md5 (r.hashed ++ r.body.rest) ≠ r.digest)) := by
  have htake : r.body.rest.take k = r.body.rest := List.take_of_length_le (by omega)
  simp [DigestReader.read, DigestReader.digestOf, Body.readAtMost, hk, hpos, heof, htake]

/-- No read fails when the bytes hashed and the bytes to come make up a body that passes the
check: a read that sees `io.EOF` has read to the end, so it checks all of them. -/
theorem DigestReader.read_of_check (md5 : List α → List Char) {r : DigestReader α}
    (hcheck : r.digest = [] ∨ md5 (r.hashed ++ r.body.rest) = r.digest) (k : ℕ) :
    (r.read md5 k).2.2 = false := by
  rcases Nat.lt_or_ge k r.body.rest.length with hk | hk
  · exact DigestReader.read_before_end md5 hk
  · rcases hcheck with hd | hmd5
    · exact DigestReader.read_no_digest md5 hd k
    · have htake : r.body.rest.take k = r.body.rest := List.take_of_length_le hk
      simp [DigestReader.read, DigestReader.digestOf, Body.readAtMost, htake, hmd5]

end Dragonfly.Digest
