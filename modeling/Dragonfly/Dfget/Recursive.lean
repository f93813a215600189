import Dragonfly.Base.GoText

/-!
# dfget's recursive download

`recursiveDownload` (`client/dfget/dfget.go:294`) lists a directory URL and downloads each
entry it accepts to `path.Join(Output, strings.TrimPrefix(u.Path, dirURL.Path))`. `accept`
(`dfget.go:256`) checks the entry's depth below the directory with `checkDirectoryLevel` and its
URL against the accept and reject expressions.

The depth check strips the directory path with `strings.TrimLeft`, which reads its second
argument as a set of characters: it strips the directory path and then every further leading
character that occurs in it. An entry whose first directory names are spelled with the
letters of the directory path is counted too shallow (`recursiveDownloads_too_deep`). When the
part below the directory starts with a character outside the directory path, the check
measures the path the entry is written under (`checkDirectoryLevel_agrees`).

The regular expressions are a parameter `regexMatch re u`, for
`regexp.MustCompile(re).Match(u)`. Listing mode, `Validate` and the downloads themselves are
left out: the result is the list of entries downloaded, each with the path under `Output`
that `path.Join` then cleans.
-/

namespace Dragonfly.Dfget

open Dragonfly.Base.GoText

/-- The `/`-separated segments of a path with its leading and trailing slashes trimmed: the
directories and the file name of a relative path. -/
def pathSegments (rel : List Char) : List (List Char) := (trim rel ['/']).splitOn '/'

/-- `checkDirectoryLevel` (`dfget.go:272`): a level of `0` accepts everything, otherwise the
entry may lie at most `level` segments below the parent. -/
def checkDirectoryLevel (parent sub : List Char) (level : ℕ) : Bool :=
  if level = 0 then true
  else decide (((trim (trimLeft sub parent) ['/']).splitOn '/').length ≤ level)

/-- `accept` (`dfget.go:256`) with `acceptRegex` and `rejectRegex` (`dfget.go:280–292`): an
empty accept expression accepts every URL, an empty reject expression rejects none. -/
def accept (regexMatch : List Char → List Char → Bool) (u parent sub : List Char) (level : ℕ)
    (acceptRe rejectRe : List Char) : Bool :=
  checkDirectoryLevel parent sub level && (acceptRe.isEmpty || regexMatch acceptRe u) &&
    !(!rejectRe.isEmpty && regexMatch rejectRe u)

/-- An entry of `source.List`: its URL and its path. -/
structure Entry where
  url : List Char
  path : List Char
  deriving DecidableEq, Repr

/-- The loop of `recursiveDownload` (`dfget.go:309–334`) over the listing of the directory at
`dirPath`: the URL of each accepted entry and the path below `Output` it is written to. -/
def recursiveDownloads (regexMatch : List Char → List Char → Bool) (dirPath : List Char)
    (level : ℕ) (acceptRe rejectRe : List Char) (entries : List Entry) :
    List (List Char × List Char) :=
  entries.filterMap fun u =>
    if accept regexMatch u.url dirPath u.path level acceptRe rejectRe then
      some (u.url, trimPrefixString u.path dirPath)
    else none

/-! ### What the depth check measures -/

/-- Below level `0`, the depth check counts the segments of what `TrimLeft` leaves of the
entry path. -/
theorem checkDirectoryLevel_pos {level : ℕ} (hlevel : 0 < level) (parent sub : List Char) :
    checkDirectoryLevel parent sub level =
      decide ((pathSegments (trimLeft sub parent)).length ≤ level) := by
  rw [checkDirectoryLevel, if_neg (Nat.pos_iff_ne_zero.mp hlevel)]
  rfl

/-- `TrimLeft` of an entry below the parent strips the parent and then the leading characters
of the rest that occur in the parent. -/
theorem trimLeft_append_self (parent rest : List Char) :
    trimLeft (parent ++ rest) parent = trimLeft rest parent :=
  trimLeft_append_of_forall parent rest fun _ hc => hc

/-- A path that starts and ends with a character other than `/` has its own segments. -/
theorem pathSegments_of_ends {c : Char} {rest : List Char} (hc : c ≠ '/')
    (hlast : (c :: rest).getLast (List.cons_ne_nil c rest) ≠ '/') :
    pathSegments (c :: rest) = (c :: rest).splitOn '/' := by
  have hleft : trimLeft (c :: rest) ['/'] = c :: rest :=
    trimLeft_cons_of_not_mem (by simpa using hc) rest
  rw [pathSegments, trim_of_getLast_not_mem (by rw [hleft]; simpa using hlast), hleft]

/-- Leading slashes are trimmed away. -/
theorem pathSegments_slashes_append {slashes : List Char} (hs : ∀ x ∈ slashes, x = '/')
    (rest : List Char) : pathSegments (slashes ++ rest) = pathSegments rest := by
  rw [pathSegments, pathSegments, trim, trim,
    trimLeft_append_of_forall ['/'] rest (fun x hx => by simp [hs x hx])]

/-- When the part of the entry below the parent starts, after its slashes, with a character
outside the parent path, the depth check measures the path the entry is written under. -/
theorem checkDirectoryLevel_agrees {parent slashes rest : List Char} {c : Char}
    (hslash : '/' ∈ parent) (hs : ∀ x ∈ slashes, x = '/') (hc : c ∉ parent) {level : ℕ}
    (hlevel : 0 < level) :
    checkDirectoryLevel parent (parent ++ (slashes ++ c :: rest)) level =
      decide ((pathSegments (trimPrefixString (parent ++ (slashes ++ c :: rest)) parent)).length ≤
        level) := by
  -- `TrimLeft` strips the parent and the slashes, and stops at `c`
  have hleft : trimLeft (parent ++ (slashes ++ c :: rest)) parent = c :: rest := by
    rw [trimLeft_append_self, trimLeft_append_of_forall parent (c :: rest)
      (fun x hx => hs x hx ▸ hslash), trimLeft_cons_of_not_mem hc]
  rw [checkDirectoryLevel_pos hlevel, hleft, trimPrefixString_append,
    pathSegments_slashes_append hs]

theorem checkDirectoryLevel_agrees_file :
    '/' ∈ ['/', 'd', 'a', 't', 'a'] ∧ (∀ x ∈ ['/'], x = '/') ∧ 'x' ∉ ['/', 'd', 'a', 't', 'a'] ∧ 0 < 1 ∧
      checkDirectoryLevel ['/', 'd', 'a', 't', 'a'] (['/', 'd', 'a', 't', 'a'] ++ (['/'] ++ 'x' :: ['/', 'y'])) 1 =
        decide ((pathSegments (trimPrefixString (['/', 'd', 'a', 't', 'a'] ++ (['/'] ++ 'x' :: ['/', 'y']))
          ['/', 'd', 'a', 't', 'a'])).length ≤ 1) :=
  ⟨by decide, by simp, by decide, by decide,
    checkDirectoryLevel_agrees (by decide) (by simp) (by decide) (by decide)⟩

/-- With no expressions and level `1`, an entry `parent/d/c…` whose directory name `d` is spelled
with letters of the parent path, and whose file name starts outside them, passes the depth
check and is written two segments below `Output`, at `/d/c…`: `TrimLeft` strips `/d/` with the
parent, `TrimPrefix` only the parent. -/
theorem recursiveDownloads_too_deep (regexMatch : List Char → List Char → Bool)
    {parent d f : List Char} {c : Char} (hslash : '/' ∈ parent) (hd : d ≠ [])
    (hdp : ∀ x ∈ d, x ∈ parent) (hd' : '/' ∉ d) (hc : c ∉ parent) (hf : '/' ∉ f)
    (url : List Char) :
    recursiveDownloads regexMatch parent 1 [] [] [⟨url, parent ++ ('/' :: d ++ '/' :: c :: f)⟩] =
        [(url, '/' :: d ++ '/' :: c :: f)] ∧
      (pathSegments ('/' :: d ++ '/' :: c :: f)).length = 2 := by
  have hc' : c ≠ '/' := fun h => hc (h ▸ hslash)
  have hcf : '/' ∉ c :: f := by simpa [Ne.symm hc'] using hf
  have hlast : ∀ hne : c :: f ≠ [], (c :: f).getLast hne ≠ '/' := fun hne h =>
    hcf (h ▸ List.getLast_mem hne)
  -- the depth check sees the file name alone
  have hleft : trimLeft (parent ++ ('/' :: d ++ '/' :: c :: f)) parent = c :: f := by
    rw [trimLeft_append_self, show '/' :: d ++ '/' :: c :: f = ('/' :: d ++ ['/']) ++ c :: f by simp,
      trimLeft_append_of_forall parent (c :: f) (fun x hx => by
        simp only [List.mem_append, List.mem_cons, List.not_mem_nil, or_false] at hx
        rcases hx with (rfl | hx) | rfl
        · exact hslash
        · exact hdp x hx
        · exact hslash), trimLeft_cons_of_not_mem hc]
  have hcheck : checkDirectoryLevel parent (parent ++ ('/' :: d ++ '/' :: c :: f)) 1 = true := by
    rw [checkDirectoryLevel_pos Nat.one_pos, hleft, pathSegments_of_ends hc' (hlast _),
      List.splitOn_eq_singleton hcf]
    rfl
  -- the output path keeps the directory `d`
  obtain ⟨x, xs, hx⟩ := List.exists_cons_of_ne_nil hd
  have hx' : x ≠ '/' := fun h => hd' (by rw [hx, h]; exact List.mem_cons_self ..)
  have hsegments : pathSegments (d ++ '/' :: c :: f) = [d, c :: f] := by
    have hends : (x :: (xs ++ '/' :: c :: f)).getLast (List.cons_ne_nil _ _) ≠ '/' := by
      simpa [List.getLast_cons, List.getLast_append] using hlast (List.cons_ne_nil c f)
    rw [hx, List.cons_append, pathSegments_of_ends hx' hends, ← List.cons_append, ← hx,
      List.splitOn_append_cons_self_of_not_mem hd', List.splitOn_eq_singleton hcf]
  refine ⟨?_, by rw [show '/' :: d = ['/'] ++ d from rfl, List.append_assoc,
    pathSegments_slashes_append (by simp), hsegments]; rfl⟩
  simp only [recursiveDownloads, accept, hcheck, List.filterMap_cons, List.filterMap_nil,
    List.isEmpty_nil, Bool.true_or, Bool.and_true, Bool.not_true, Bool.false_and, Bool.not_false,
    if_true, trimPrefixString_append]

theorem recursiveDownloads_too_deep_data :
    recursiveDownloads (fun _ _ => false) ['/', 'd', 'a', 't', 'a'] 1 [] []
        [⟨['u'], ['/', 'd', 'a', 't', 'a'] ++ ('/' :: ['a'] ++ '/' :: 'x' :: [])⟩] =
        [(['u'], '/' :: ['a'] ++ '/' :: 'x' :: [])] ∧
      (pathSegments ('/' :: ['a'] ++ '/' :: 'x' :: [])).length = 2 :=
  recursiveDownloads_too_deep _ (by decide) (by simp) (by simp) (by decide) (by decide)
    (by decide) _

end Dragonfly.Dfget
