import Dragonfly.Base.GoMap

/-!
# `SeedTask.Clone` and the CDN manager's task updates

`SeedTask.Clone` (`cdn/supervisor/task/task.go:129`) copies the struct with
`*cloneTask = *task`, which copies the references of its two maps, `Header` and `Pieces`, and
then writes every entry of each map into the clone's map, which is the same table. The loops
change nothing: the clone is the task, sharing both tables with it (`clone_eq`), and every
insertion, update or deletion made through the clone's maps is made to the task's
(`clone_shares_maps`). The CDN manager publishes such clones, with new lengths, status and
digests (`getUpdateTaskInfo`, `getUpdateTaskInfoWithStatusOnly`,
`cdn/supervisor/cdn/manager.go:257–273`), while it keeps the stored task.

The task keeps the fields those callers set and its maps as references into two heaps, one of
headers and one of pieces; a `*PieceInfo` is the address of its object. `Cdn.Task` models the same
struct with its header as a value, which is all the task manager reads of it.
-/

namespace Dragonfly.Cdn.Clone

open Dragonfly.Base

/-- The fields of `task.SeedTask` (`task.go:32`) that the callers of `Clone` set, and its two
maps. -/
structure SeedTask where
  sourceFileLength : Int64
  cdnFileLength : Int64
  cdnStatus : List Char
  totalPieceCount : Int32
  sourceRealDigest : List Char
  pieceMd5Sign : List Char
  header : Option ℕ
  pieces : Option ℕ
  deriving DecidableEq, Repr

/-- The tables of the two kinds of map. -/
structure World where
  headers : GoMap.Heap (List Char) (List Char)
  pieces : GoMap.Heap UInt32 ℕ

/-- The task's maps are `nil` or tables of the heaps. -/
def World.Allocated (w : World) (task : SeedTask) : Prop :=
  (∀ r, task.header = some r → r < w.headers.length) ∧
    ∀ r, task.pieces = some r → r < w.pieces.length

/-- `SeedTask.Clone` (`task.go:129`); `none` where a write panics. -/
def clone (w : World) (task : SeedTask) : Option (World × SeedTask) := do
  -- `*cloneTask = *task` copies the struct, and with it the references of the maps
  let cloneTask := task
  let headers ← if task.header ≠ none then
      (GoMap.table w.headers task.header).bind fun t =>
        GoMap.copyEntries w.headers cloneTask.header t.entries
    else pure w.headers
  let pieces ← if GoMap.len w.pieces task.pieces > 0 then
      (GoMap.table w.pieces task.pieces).bind fun t =>
        GoMap.copyEntries w.pieces cloneTask.pieces t.entries
    else pure w.pieces
  pure (⟨headers, pieces⟩, cloneTask)

/-- `getUpdateTaskInfoWithStatusOnly` (`manager.go:257`). -/
def getUpdateTaskInfoWithStatusOnly (w : World) (seedTask : SeedTask) (cdnStatus : List Char) :
    Option (World × SeedTask) :=
  (clone w seedTask).map fun (w', cloneTask) => (w', { cloneTask with cdnStatus := cdnStatus })

/-- `getUpdateTaskInfo` (`manager.go:263`). -/
def getUpdateTaskInfo (w : World) (seedTask : SeedTask) (cdnStatus realMD5 pieceMd5Sign : List Char)
    (sourceFileLength cdnFileLength : Int64) (totalPieceCount : Int32) :
    Option (World × SeedTask) :=
  (clone w seedTask).map fun (w', cloneTask) =>
    (w', { cloneTask with
      sourceFileLength := sourceFileLength
      cdnFileLength := cdnFileLength
      cdnStatus := cdnStatus
      totalPieceCount := totalPieceCount
      sourceRealDigest := realMD5
      pieceMd5Sign := pieceMd5Sign })

variable {w : World} {task : SeedTask}

/-- With its maps allocated, `Clone` returns the task itself and leaves the heaps as they were:
each loop writes a map's entries back into the same map. -/
theorem clone_eq (h : w.Allocated task) : clone w task = some (w, task) := by
  obtain ⟨th, hth⟩ := GoMap.exists_table h.1
  obtain ⟨tp, htp⟩ := GoMap.exists_table h.2
  have hheaders := GoMap.copyEntries_table hth
  have hpieces := GoMap.copyEntries_table htp
  unfold clone
  simp only [hth, htp, Option.bind_some, hheaders, hpieces]
  split_ifs <;> rfl

/-- The manager's status update is the task with the new status, on the task's maps. -/
theorem getUpdateTaskInfoWithStatusOnly_eq (h : w.Allocated task) (cdnStatus : List Char) :
    getUpdateTaskInfoWithStatusOnly w task cdnStatus = some (w, { task with cdnStatus := cdnStatus }) := by
  rw [getUpdateTaskInfoWithStatusOnly, clone_eq h, Option.map_some]

/-- The manager's full update is the task with the new fields, on the task's maps. -/
theorem getUpdateTaskInfo_eq (h : w.Allocated task) (cdnStatus realMD5 pieceMd5Sign : List Char)
    (sourceFileLength cdnFileLength : Int64) (totalPieceCount : Int32) :
    getUpdateTaskInfo w task cdnStatus realMD5 pieceMd5Sign sourceFileLength cdnFileLength
        totalPieceCount =
      some (w, { task with
        sourceFileLength := sourceFileLength
        cdnFileLength := cdnFileLength
        cdnStatus := cdnStatus
        totalPieceCount := totalPieceCount
        sourceRealDigest := realMD5
        pieceMd5Sign := pieceMd5Sign }) := by
  rw [getUpdateTaskInfo, clone_eq h, Option.map_some]

/-- `Clone` shares the task's maps. With the task's maps allocated, it returns a copy with the same
map references and leaves the heaps as they were, and so do the manager's two updates; every run
of assignments and deletions through the clone's `Header` or `Pieces` acts on the task's map,
which afterwards reads as the operations made of it. -/
theorem clone_shares_maps (w : World) (t : SeedTask) (h : w.Allocated t) :
    ∃ c, clone w t = some (w, c) ∧ c.header = t.header ∧ c.pieces = t.pieces ∧
      (∀ cdnStatus, ∃ c', getUpdateTaskInfoWithStatusOnly w t cdnStatus = some (w, c') ∧
        c'.header = t.header ∧ c'.pieces = t.pieces) ∧
      (∀ cdnStatus realMD5 pieceMd5Sign sourceFileLength cdnFileLength totalPieceCount,
        ∃ c', getUpdateTaskInfo w t cdnStatus realMD5 pieceMd5Sign sourceFileLength cdnFileLength
            totalPieceCount = some (w, c') ∧ c'.header = t.header ∧ c'.pieces = t.pieces) ∧
      (∀ ops headers', GoMap.run w.headers c.header ops = some headers' →
        GoMap.lookup headers' t.header = ops.foldl GoMap.Op.applyFn (GoMap.lookup w.headers t.header)) ∧
      ∀ ops pieces', GoMap.run w.pieces c.pieces ops = some pieces' →
        GoMap.lookup pieces' t.pieces = ops.foldl GoMap.Op.applyFn (GoMap.lookup w.pieces t.pieces) := by
  refine ⟨t, clone_eq h, rfl, rfl, fun cdnStatus => ⟨_, getUpdateTaskInfoWithStatusOnly_eq h cdnStatus,
    rfl, rfl⟩, fun cdnStatus realMD5 pieceMd5Sign sourceFileLength cdnFileLength totalPieceCount =>
    ⟨_, getUpdateTaskInfo_eq h cdnStatus realMD5 pieceMd5Sign sourceFileLength cdnFileLength
      totalPieceCount, rfl, rfl⟩, ?_, ?_⟩
  · -- the clone's header is the task's: a run through it is a run through the task's
    intro ops headers' hrun
    exact GoMap.run_lookup ops hrun
  · intro ops pieces' hrun
    exact GoMap.run_lookup ops hrun

theorem clone_shares_maps_header_write :
    let w : World := ⟨[∅], [∅]⟩
    let t : SeedTask := ⟨0, 0, [], -1, [], [], some 0, some 0⟩
    w.Allocated t ∧ GoMap.lookup w.headers t.header ['a'] = none ∧
      ∃ c, clone w t = some (w, c) ∧ ∃ headers',
        GoMap.run w.headers c.header [.assign ['a'] ['b']] = some headers' ∧
        GoMap.lookup headers' t.header ['a'] = some ['b'] := by
  intro w t
  have hall : w.Allocated t := by
    constructor
    · rintro r ⟨⟩
      decide
    · rintro r ⟨⟩
      decide
  obtain ⟨c, hc, hheader, -, -, -, hrun, -⟩ := clone_shares_maps w t hall
  have hwrite : GoMap.run w.headers c.header [.assign ['a'] ['b']] =
      some [GoMap.assign ∅ ['a'] ['b']] := by
    rw [hheader]
    rfl
  refine ⟨hall, rfl, c, hc, _, hwrite, ?_⟩
  rw [hrun _ _ hwrite]
  simp [GoMap.Op.applyFn]

end Dragonfly.Cdn.Clone
