import Mathlib.Data.List.Basic

/-!
# Task IDs

`pkg/idgen/task_id.go`. A task ID is `digestutils.Sha256` (`digest.go:50`) of the filtered URL
followed by the digest, the range and the tag of the `UrlMeta`, each when it is not empty.
`Sha256` writes its values into one hash one after the other, so it hashes their
concatenation; `sum` is the hex SHA-256 of a text's bytes. `FilterURLParam` (`url_utils.go:26`)
returns its text unchanged without filters or for the empty text; what it does otherwise
(`url.Parse`, dropping the filtered query keys, re-encoding, `""` for a text that does not
parse) is the function `filterQuery`.

Nothing separates the components, so an ID determines only their concatenation
(`taskID_eq_taskID_iff`), and a range or a tag can move into the URL without changing it
(`taskID_range_collides`).
-/

namespace Dragonfly.Idgen

/-- The fields of `base.UrlMeta` the task IDs read (`base.pb.go:322–337`). -/
structure UrlMeta where
  digest : List Char := []
  tag : List Char := []
  range : List Char := []
  filter : List Char := []
  deriving DecidableEq, Repr

section

variable (sum : List Char → List Char) (filterQuery : List Char → List (List Char) → List Char)

/-- `digestutils.Sha256` (`digest.go:50–63`); a write to a SHA-256 hash never fails. -/
def sha256 (values : List (List Char)) : List Char :=
  if values = [] then [] else sum values.flatten

/-- `urlutils.FilterURLParam` (`url_utils.go:26`). -/
def filterURLParam (str : List Char) (filters : List (List Char)) : List Char :=
  if filters = [] ∨ str = [] then str else filterQuery str filters

/-- The filters of a request (`task_id.go:28–31`): its `Filter` split at `&`, when there is
one. -/
def filtersOf : Option UrlMeta → List (List Char)
  | some urlMeta => if urlMeta.filter ≠ [] then urlMeta.filter.splitOn '&' else []
  | none => []

/-- The components after the URL (`task_id.go:35–47`): the digest, the range unless it is
ignored, and the tag, each when it is not empty. -/
def metaComponents (ignoreRange : Bool) : Option UrlMeta → List (List Char)
  | some urlMeta =>
    (if urlMeta.digest ≠ [] then [urlMeta.digest] else []) ++
      (if !ignoreRange ∧ urlMeta.range ≠ [] then [urlMeta.range] else []) ++
      (if urlMeta.tag ≠ [] then [urlMeta.tag] else [])
  | none => []

/-- `idgen.taskID` (`task_id.go:27`), the unexported function both IDs call. -/
def rawTaskID (url : List Char) (urlMeta : Option UrlMeta) (ignoreRange : Bool) : List Char :=
  sha256 sum
    (filterURLParam filterQuery url (filtersOf urlMeta) :: metaComponents ignoreRange urlMeta)

/-- `idgen.TaskID` (`task_id.go:54`). -/
def taskID (url : List Char) (urlMeta : Option UrlMeta) : List Char :=
  rawTaskID sum filterQuery url urlMeta false

/-- `idgen.ParentTaskID` (`task_id.go:60`): the ID without the range, which a ranged request
looks up its parent task by. -/
def parentTaskID (url : List Char) (urlMeta : Option UrlMeta) : List Char :=
  rawTaskID sum filterQuery url urlMeta true

/-- The text an ID hashes: the filtered URL and the components, joined. -/
def idText (url : List Char) (urlMeta : Option UrlMeta) (ignoreRange : Bool) : List Char :=
  filterURLParam filterQuery url (filtersOf urlMeta) ++
    (metaComponents ignoreRange urlMeta).flatten

variable {sum filterQuery}

/-- `Sha256` of a nonempty list is the hash of the joined values. -/
@[simp] theorem sha256_cons (v : List Char) (vs : List (List Char)) :
    sha256 sum (v :: vs) = sum (v ++ vs.flatten) := by
  simp [sha256]

/-- Without filters the URL is kept as it is. -/
@[simp] theorem filterURLParam_nil (str : List Char) :
    filterURLParam filterQuery str [] = str := by
  simp [filterURLParam]

/-- An ID is the hash of its text: the URL always stands first, so `Sha256` never sees an
empty list. -/
theorem rawTaskID_eq (url : List Char) (urlMeta : Option UrlMeta) (ignoreRange : Bool) :
    rawTaskID sum filterQuery url urlMeta ignoreRange =
      sum (idText filterQuery url urlMeta ignoreRange) := by
  simp [rawTaskID, idText]

/-- The parent ID of a request is the ID of the same request without its range. -/
theorem parentTaskID_eq_taskID (url : List Char) (urlMeta : Option UrlMeta) :
    parentTaskID sum filterQuery url urlMeta =
      taskID sum filterQuery url (urlMeta.map fun m => { m with range := [] }) := by
  cases urlMeta with
  | none => rfl
  | some m => simp [parentTaskID, taskID, rawTaskID, filtersOf, metaComponents]

/-- For an injective hash, two requests have the same ID exactly when their texts are equal:
the ID determines the joined components and nothing finer. -/
theorem taskID_eq_taskID_iff (hsum : Function.Injective sum) {u₁ u₂ : List Char}
    {m₁ m₂ : Option UrlMeta} :
    taskID sum filterQuery u₁ m₁ = taskID sum filterQuery u₂ m₂ ↔
      idText filterQuery u₁ m₁ false = idText filterQuery u₂ m₂ false := by
  rw [taskID, taskID, rawTaskID_eq, rawTaskID_eq]
  exact hsum.eq_iff

/-- A ranged request has the ID of the request for its URL with the range appended, and a
tagged request the parent ID of the URL with the tag appended, whatever the hash and the
query filter: the two requests differ in their `Range` or `Tag` and in their URL. -/
theorem taskID_range_collides (u r : List Char) :
    taskID sum filterQuery u (some { range := r }) = taskID sum filterQuery (u ++ r) none ∧
      parentTaskID sum filterQuery u (some { tag := r }) =
        parentTaskID sum filterQuery (u ++ r) none := by
  constructor
  · by_cases hr : r = [] <;>
      simp [taskID, rawTaskID_eq, idText, filtersOf, metaComponents, hr]
  · by_cases hr : r = [] <;>
      simp [parentTaskID, rawTaskID_eq, idText, filtersOf, metaComponents, hr]

end

end Dragonfly.Idgen
