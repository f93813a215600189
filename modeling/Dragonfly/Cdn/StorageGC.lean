import Dragonfly.Base.OrderedMap
import Mathlib.Data.Int.Order.Basic

/-!
# The CDN storage cleaner

`cdn/supervisor/cdn/storage/storage_gc.go`. `cleaner.GC` reads the free space of the storage
driver and, below the young threshold, walks the stored files. A file whose task the task
manager does not know is collected at once by a full collection and by a young one when its
metadata cannot be read; otherwise `sortInert` files its task under its access gap (the
milliseconds since its last access) or, for a task accessed periodically and on time, under
the size of its download file. A young collection then takes `getGCTasks`: the gap tasks in
ascending gap, then the periodic ones in ascending size, cut to `⌈n · CleanRatio / 10⌉`.

Both maps are `treemap`s with `Int64Comparator`, which orders the keys as the integers they
are; a key is kept here as its `toInt`. Ascending gap puts the most recently accessed tasks
first: a young collection that takes a task of some gap takes every task of a smaller gap,
the warmest first (`youngGC_evicts_warmest_first`). The count and the periodic tasks after
the gap tasks are as `getGCTasks` intends.

`timeutils.CurrentTimeMillis()` is read by `sortInert` once per file; each walked file carries
the clock it reads. `len(gcTasks) * CleanRatio` is taken in `ℤ`: it does not wrap for any
number of files a walk lists.
-/

namespace Dragonfly.Cdn.Cleaner

open Dragonfly.Base

/-- The fields of `storage.FileMetadata` (`storage.go:80`) the cleaner reads. -/
structure FileMetadata where
  taskID : List Char
  accessTime : Int64
  interval : Int64
  deriving DecidableEq, Repr

/-- `storage.DriverGCConfig` (`config.go:92`); `intervalThresholdSeconds` is
`int64(IntervalThreshold.Seconds())`. -/
structure DriverGCConfig where
  youngGCThreshold : Int64
  fullGCThreshold : Int64
  cleanRatio : ℤ
  intervalThresholdSeconds : Int64

/-- A path that the walk of the storage visits, with the clock `sortInert` reads for it. -/
structure WalkEntry where
  name : List Char
  isDir : Bool
  /-- `filepath.Walk` passes an error for the path. -/
  accessError : Bool
  now : Int64

/-- The errors of `GetFreeSpace`: `os.IsNotExist`, or another. -/
inductive SpaceError where
  | notExist
  | other
  deriving DecidableEq, Repr

/-- What the storage driver answers: the free space, the creation of the base directory
and the free space after it, and the paths of the walk. -/
structure Driver where
  getFreeSpace : Except SpaceError Int64
  createBaseDir : Bool
  getFreeSpaceAfterCreate : Except SpaceError Int64
  walk : List WalkEntry

/-- What the task and the storage managers answer: `taskManager.Exist`,
`storageManager.ReadFileMetadata` (`none` for an error or `nil`) and the size of
`storageManager.StatDownloadFile` (`none` for an error). -/
structure Managers where
  exist : List Char → Bool
  readFileMetadata : List Char → Option FileMetadata
  statDownloadFile : List Char → Option Int64

/-- The errors `GC` returns. -/
inductive GCError where
  /-- The error of `CreateBaseDir`. -/
  | createBaseDir
  /-- `"get free space: %v"` -/
  | getFreeSpace
  /-- The error a walked path carries, which `walkFn` returns. -/
  | walk
  /-- `gcLen` outside `len(gcTasks)`: the slice then reads past the tasks or panics; a ratio
  in `0..10` never gets here. -/
  | sliceBounds
  deriving DecidableEq, Repr

/-- The state of the walk: the two treemaps, `walkTaskIds` and `gcTaskIDs`. -/
structure WalkState where
  gapTasks : OrderedMap ℤ (List (List Char))
  intervalTasks : OrderedMap ℤ (List (List Char))
  walkTaskIds : List (List Char)
  gcTaskIDs : List (List Char)

/-- The walk before its first path. -/
def WalkState.initial : WalkState := ⟨.empty, .empty, [], []⟩

/-- `walkTaskIds[taskID] = true`. -/
def WalkState.markWalked (st : WalkState) (taskID : List Char) : WalkState :=
  { st with walkTaskIds := taskID :: st.walkTaskIds }

/-- `gcTaskIDs = append(gcTaskIDs, taskID)`. -/
def WalkState.collect (st : WalkState) (taskID : List Char) : WalkState :=
  { st with gcTaskIDs := st.gcTaskIDs ++ [taskID] }

/-- `strings.Split(info.Name(), ".")[0]`: the file name up to its first dot. -/
def WalkEntry.taskID (entry : WalkEntry) : List Char := (entry.name.splitOn '.').headD []

/-- The classified task IDs, in the order `getGCTasks` lists them: the gap tasks by ascending
gap, then the periodic ones by ascending size. -/
def WalkState.classified (st : WalkState) : List (List Char) :=
  st.gapTasks.values.flatten ++ st.intervalTasks.values.flatten

variable (cfg : DriverGCConfig) (mgr : Managers)

/-- `cleaner.sortInert` (`storage_gc.go:144`) at clock `now`: `none` when
`StatDownloadFile` fails. -/
def sortInert (now : Int64) (st : WalkState) (metadata : FileMetadata) : Option WalkState :=
  let gap := now - metadata.accessTime
  if metadata.interval > 0 ∧
      gap ≤ metadata.interval + cfg.intervalThresholdSeconds * 1000000 then
    match mgr.statDownloadFile metadata.taskID with
    | none => none
    | some size =>
      let tasks := (st.intervalTasks.get size.toInt).getD [] ++ [metadata.taskID]
      some { st with intervalTasks := st.intervalTasks.put size.toInt tasks }
  else
    let tasks := (st.gapTasks.get gap.toInt).getD [] ++ [metadata.taskID]
    some { st with gapTasks := st.gapTasks.put gap.toInt tasks }

/-- The `walkFn` of `GC` (`storage_gc.go:88–129`): `none` when the path carries an error,
which stops the walk. -/
def walkFn (fullGC : Bool) (st : WalkState) (entry : WalkEntry) : Option WalkState :=
  if entry.accessError then none
  else if entry.isDir then some st
  else if entry.taskID ∈ st.walkTaskIds then some st
  else
    let st := st.markWalked entry.taskID
    if mgr.exist entry.taskID then some st
    else if fullGC then some (st.collect entry.taskID)
    else
      match mgr.readFileMetadata entry.taskID with
      | none => some (st.collect entry.taskID)
      -- an error of `sortInert` is logged and the walk goes on
      | some metadata => some ((sortInert cfg mgr entry.now st metadata).getD st)

/-- `driver.Walk` with `walkFn` over the visited paths. -/
def walk (fullGC : Bool) (entries : List WalkEntry) : Option WalkState :=
  entries.foldlM (walkFn cfg mgr fullGC) WalkState.initial

/-- `cleaner.getGCTasks` (`storage_gc.go:176`). -/
def getGCTasks (gapTasks intervalTasks : OrderedMap ℤ (List (List Char))) :
    Option (List (List Char)) :=
  let gcTasks := gapTasks.values.flatten ++ intervalTasks.values.flatten
  let gcLen := ((gcTasks.length : ℤ) * cfg.cleanRatio + 9).tdiv 10
  if 0 ≤ gcLen ∧ gcLen ≤ gcTasks.length then some (gcTasks.take gcLen.toNat) else none

/-- The free space `GC` reads (`storage_gc.go:55–69`), creating the base directory first
when it does not exist. -/
def freeSpace (drv : Driver) : Except GCError Int64 :=
  match drv.getFreeSpace with
  | .ok space => .ok space
  | .error .notExist =>
    if drv.createBaseDir then
      match drv.getFreeSpaceAfterCreate with
      | .ok space => .ok space
      | .error _ => .error .getFreeSpace
    else .error .createBaseDir
  | .error .other => .error .getFreeSpace

/-- `cleaner.GC` (`storage_gc.go:54`). -/
def gc (drv : Driver) (force : Bool) : Except GCError (List (List Char)) := do
  let space ← freeSpace drv
  if !force ∧ space > cfg.youngGCThreshold then return []
  let fullGC := force || space ≤ cfg.fullGCThreshold
  match walk cfg mgr fullGC drv.walk with
  | none => throw .walk
  | some st =>
    if fullGC then return st.gcTaskIDs
    match getGCTasks cfg st.gapTasks st.intervalTasks with
    | none => throw .sliceBounds
    | some tasks => return st.gcTaskIDs ++ tasks

/-! ### The walk -/

section Walk

variable {cfg mgr}

@[simp] theorem markWalked_classified (st : WalkState) (taskID : List Char) :
    (st.markWalked taskID).classified = st.classified := rfl

@[simp] theorem collect_classified (st : WalkState) (taskID : List Char) :
    (st.collect taskID).classified = st.classified := rfl

@[simp] theorem collect_walkTaskIds (st : WalkState) (taskID : List Char) :
    (st.collect taskID).walkTaskIds = st.walkTaskIds := rfl

/-- `sortInert` files the task of its metadata under one key of one map and changes nothing
else. -/
theorem sortInert_classified {now : Int64} {st st' : WalkState} {metadata : FileMetadata}
    (h : sortInert cfg mgr now st metadata = some st') :
    st'.classified.Perm (st.classified ++ [metadata.taskID]) ∧
      st'.walkTaskIds = st.walkTaskIds := by
  unfold sortInert at h
  dsimp only at h
  split_ifs at h
  · cases hsize : mgr.statDownloadFile metadata.taskID with
    | none => simp [hsize] at h
    | some size =>
      simp only [hsize, Option.some.injEq] at h
      subst h
      refine ⟨?_, rfl⟩
      rw [WalkState.classified, WalkState.classified, List.append_assoc]
      exact (OrderedMap.values_flatten_put_append _ _ _).append_left _
  · simp only [Option.some.injEq] at h
    subst h
    refine ⟨?_, rfl⟩
    rw [WalkState.classified, WalkState.classified]
    refine ((OrderedMap.values_flatten_put_append _ _ _).append_right _).trans ?_
    rw [List.append_assoc, List.append_assoc]
    exact List.perm_append_comm.append_left _

/-- What one path can do: nothing, or, for an ID not walked yet, mark it walked and then
collect it, or file its metadata (or keep it unfiled when `sortInert` fails). -/
theorem walkFn_cases {fullGC : Bool} {st st' : WalkState} {entry : WalkEntry}
    (h : walkFn cfg mgr fullGC st entry = some st') :
    st' = st ∨ (entry.taskID ∉ st.walkTaskIds ∧
      (st' = st.markWalked entry.taskID ∨ st' = (st.markWalked entry.taskID).collect entry.taskID ∨
        ∃ metadata, mgr.readFileMetadata entry.taskID = some metadata ∧
          (sortInert cfg mgr entry.now (st.markWalked entry.taskID) metadata = some st' ∨
            st' = st.markWalked entry.taskID))) := by
  unfold walkFn at h
  dsimp only at h
  split_ifs at h with herr hdir hwalked hexist hfull
  · exact .inl (Option.some.inj h).symm
  · exact .inl (Option.some.inj h).symm
  · exact .inr ⟨hwalked, .inl (Option.some.inj h).symm⟩
  · exact .inr ⟨hwalked, .inr (.inl (Option.some.inj h).symm)⟩
  · refine .inr ⟨hwalked, ?_⟩
    cases hmeta : mgr.readFileMetadata entry.taskID with
    | none =>
      rw [hmeta] at h
      exact .inr (.inl (Option.some.inj h).symm)
    | some metadata =>
      rw [hmeta] at h
      dsimp only at h
      refine .inr (.inr ⟨metadata, rfl, ?_⟩)
      cases hsort : sortInert cfg mgr entry.now (st.markWalked entry.taskID) metadata with
      | none =>
        rw [hsort] at h
        exact .inr (Option.some.inj h).symm
      | some st₂ =>
        rw [hsort] at h
        exact .inl (congrArg some (Option.some.inj h))

/-- The classified tasks are distinct and each was walked. -/
def WalkInv (st : WalkState) : Prop :=
  st.classified.Nodup ∧ ∀ taskID ∈ st.classified, taskID ∈ st.walkTaskIds

/-- Every metadata that the storage manager reads belongs to the task it is read for. -/
def MetadataOwned (mgr : Managers) : Prop :=
  ∀ taskID metadata, mgr.readFileMetadata taskID = some metadata → metadata.taskID = taskID

theorem WalkInv.markWalked {st : WalkState} (hinv : WalkInv st) (taskID : List Char) :
    WalkInv (st.markWalked taskID) :=
  ⟨hinv.1, fun x hx => List.mem_cons_of_mem _ (hinv.2 x hx)⟩

/-- One path keeps the invariant: a task is classified only the first time its ID is walked,
under its own ID. -/
theorem walkFn_inv (hown : MetadataOwned mgr) {fullGC : Bool} {st st' : WalkState}
    {entry : WalkEntry} (hinv : WalkInv st) (h : walkFn cfg mgr fullGC st entry = some st') :
    WalkInv st' := by
  rcases walkFn_cases h with rfl | ⟨hwalked, rfl | rfl | ⟨metadata, hmeta, hsort | rfl⟩⟩
  · exact hinv
  · exact hinv.markWalked _
  · exact hinv.markWalked _
  · have hinv₁ := hinv.markWalked entry.taskID
    obtain ⟨hperm, hids⟩ := sortInert_classified hsort
    rw [hown _ _ hmeta] at hperm
    -- the new ID was not walked before, so it is in no map
    have hfresh : entry.taskID ∉ (st.markWalked entry.taskID).classified :=
      fun hx => hwalked (hinv.2 _ hx)
    constructor
    · rw [hperm.nodup_iff, List.nodup_append]
      exact ⟨hinv₁.1, List.nodup_singleton _, fun x hx y hy hxy => by
        rw [List.mem_singleton.mp hy] at hxy
        exact hfresh (hxy ▸ hx)⟩
    · intro x hx
      rw [hids]
      rcases List.mem_append.mp (hperm.mem_iff.mp hx) with hx | hx
      · exact hinv₁.2 x hx
      · rw [List.mem_singleton.mp hx]
        exact List.mem_cons_self
  · exact hinv.markWalked _

/-- Every walk keeps the invariant. -/
theorem walk_inv (hown : MetadataOwned mgr) {fullGC : Bool} {entries : List WalkEntry}
    {st : WalkState} (h : walk cfg mgr fullGC entries = some st) : WalkInv st := by
  unfold walk at h
  have h₀ : WalkInv WalkState.initial :=
    ⟨List.nodup_nil, fun _ hx => by simp [WalkState.classified, WalkState.initial] at hx⟩
  generalize WalkState.initial = st₀ at h h₀
  -- induction on the paths, from any state that satisfies the invariant
  induction entries generalizing st₀ with
  | nil =>
    cases h
    exact h₀
  | cons entry entries ih =>
    rw [List.foldlM_cons] at h
    cases hstep : walkFn cfg mgr fullGC st₀ entry with
    | none => simp [hstep] at h
    | some st₁ =>
      rw [hstep] at h
      exact ih st₁ h (walkFn_inv hown h₀ hstep)

end Walk

/-! ### The young collection -/

section Young

variable {cfg mgr}

/-- With a ratio in `0..10`, `getGCTasks` takes `⌈n · CleanRatio / 10⌉` of the `n`
classified tasks, from the front. -/
theorem getGCTasks_take (hratio : 0 ≤ cfg.cleanRatio ∧ cfg.cleanRatio ≤ 10)
    (gapTasks intervalTasks : OrderedMap ℤ (List (List Char))) :
    ∃ k, getGCTasks cfg gapTasks intervalTasks =
        some ((gapTasks.values.flatten ++ intervalTasks.values.flatten).take k) ∧
      k ≤ (gapTasks.values.flatten ++ intervalTasks.values.flatten).length ∧
      ((gapTasks.values.flatten ++ intervalTasks.values.flatten).length : ℤ) * cfg.cleanRatio ≤
        10 * k ∧
      10 * (k : ℤ) <
        (gapTasks.values.flatten ++ intervalTasks.values.flatten).length * cfg.cleanRatio + 10 := by
  set n := (gapTasks.values.flatten ++ intervalTasks.values.flatten).length
  have hnr₀ : 0 ≤ (n : ℤ) * cfg.cleanRatio := Int.mul_nonneg (Int.natCast_nonneg n) hratio.1
  have hnr : (n : ℤ) * cfg.cleanRatio ≤ n * 10 :=
    Int.mul_le_mul_of_nonneg_left hratio.2 (Int.natCast_nonneg n)
  -- `gcLen` is not negative, so Go's truncating division is the floor
  have hq : ((n : ℤ) * cfg.cleanRatio + 9).tdiv 10 = ((n : ℤ) * cfg.cleanRatio + 9) / 10 :=
    Int.tdiv_eq_ediv_of_nonneg (by omega)
  refine ⟨(((n : ℤ) * cfg.cleanRatio + 9) / 10).toNat, ?_, by omega, by omega, by omega⟩
  unfold getGCTasks
  dsimp only
  rw [hq, if_pos ⟨by omega, by omega⟩]

/-- A young collection returns the tasks collected during the walk and what `getGCTasks`
takes. -/
theorem gc_young {drv : Driver} {space : Int64} {st : WalkState}
    {tasks : List (List Char)} (hspace : freeSpace drv = .ok space)
    (hyoung : cfg.fullGCThreshold < space ∧ space ≤ cfg.youngGCThreshold)
    (hwalk : walk cfg mgr false drv.walk = some st)
    (hget : getGCTasks cfg st.gapTasks st.intervalTasks = some tasks) :
    gc cfg mgr drv false = .ok (st.gcTaskIDs ++ tasks) := by
  have hfull : ¬ space ≤ cfg.fullGCThreshold := by
    have := Int64.lt_iff_toInt_lt.mp hyoung.1
    rw [Int64.le_iff_toInt_le]
    omega
  have hbelow : ¬ space > cfg.youngGCThreshold := by
    have := Int64.le_iff_toInt_le.mp hyoung.2
    rw [gt_iff_lt, Int64.lt_iff_toInt_lt]
    omega
  simp [gc, hspace, hfull, hbelow, hwalk, hget, bind, Except.bind, pure, Except.pure]

/-- A young collection of a walk whose metadata belong to their tasks, with a ratio in
`0..10`, takes the tasks it collected during the walk and `⌈n · CleanRatio / 10⌉` of the `n`
classified tasks, from the front of their order: every task of a smaller access gap, the more
recently accessed, before any task of a larger one, and every gap task before a periodic one.
The coldest tasks are the last to go. -/
theorem youngGC_evicts_warmest_first {drv : Driver} {space : Int64} {st : WalkState}
    (hown : MetadataOwned mgr) (hspace : freeSpace drv = .ok space)
    (hyoung : cfg.fullGCThreshold < space ∧ space ≤ cfg.youngGCThreshold)
    (hratio : 0 ≤ cfg.cleanRatio ∧ cfg.cleanRatio ≤ 10)
    (hwalk : walk cfg mgr false drv.walk = some st) :
    ∃ selected, gc cfg mgr drv false = .ok (st.gcTaskIDs ++ selected) ∧
      selected <+: st.classified ∧
      (st.classified.length : ℤ) * cfg.cleanRatio ≤ 10 * selected.length ∧
      10 * (selected.length : ℤ) < st.classified.length * cfg.cleanRatio + 10 ∧
      (∀ a b ga gb, a ∈ (st.gapTasks.get ga).getD [] → b ∈ (st.gapTasks.get gb).getD [] →
        ga < gb → b ∈ selected → a ∈ selected) ∧
      (∀ a b g s, a ∈ (st.gapTasks.get g).getD [] → b ∈ (st.intervalTasks.get s).getD [] →
        b ∈ selected → a ∈ selected) := by
  obtain ⟨k, hget, hk, hlow, hhigh⟩ := getGCTasks_take hratio st.gapTasks st.intervalTasks
  have hinv := walk_inv hown hwalk
  have hlen : (st.classified.take k).length = k := by
    rw [List.length_take]
    exact Nat.min_eq_left hk
  refine ⟨st.classified.take k, gc_young hspace hyoung hwalk hget, List.take_prefix _ _,
    by rw [hlen]; exact hlow, by rw [hlen]; exact hhigh, ?_, ?_⟩
  · intro a b ga gb ha hb hlt hsel
    exact OrderedMap.mem_take_values_flatten _ hinv.1 ha hb hlt hsel
  · intro a b g s ha hb hsel
    exact OrderedMap.mem_take_of_mem_take_right hinv.1 (OrderedMap.mem_values_flatten_of_get ha)
      (OrderedMap.mem_values_flatten_of_get hb) hsel

/-- Three cached tasks `a`, `b` and `c`, last accessed 1, 2 and 3 ms before the walk reaches
them; none is known to the task manager or accessed periodically. -/
def coldManagers : Managers where
  exist _ := false
  readFileMetadata taskID :=
    some ⟨taskID, if taskID = "a".toList then 9 else if taskID = "b".toList then 8 else 7, 0⟩
  statDownloadFile _ := none

/-- A driver with 50 bytes free whose walk lists the three files at clock `10`. -/
def coldDriver : Driver where
  getFreeSpace := .ok 50
  createBaseDir := true
  getFreeSpaceAfterCreate := .ok 50
  walk := [⟨"a".toList, false, false, 10⟩, ⟨"b".toList, false, false, 10⟩,
    ⟨"c".toList, false, false, 10⟩]

/-- Young below 100 bytes, full below none, half of the tasks. -/
def halfConfig : DriverGCConfig := ⟨100, 0, 5, 0⟩

theorem coldManagers_owned : MetadataOwned coldManagers := by
  intro taskID metadata h
  cases h
  rfl

/-- The young collection of the three tasks takes two of them: `a` and `b`, the two most
recently accessed, and keeps `c`, the coldest. -/
theorem youngGC_evicts_warmest_first_three :
    gc halfConfig coldManagers coldDriver false = .ok ["a".toList, "b".toList] ∧
      ∃ st, walk halfConfig coldManagers false coldDriver.walk = some st ∧
        ∃ selected, gc halfConfig coldManagers coldDriver false = .ok (st.gcTaskIDs ++ selected) ∧
          selected <+: st.classified ∧
          (st.classified.length : ℤ) * halfConfig.cleanRatio ≤ 10 * selected.length ∧
          10 * (selected.length : ℤ) < st.classified.length * halfConfig.cleanRatio + 10 ∧
          (∀ a b ga gb, a ∈ (st.gapTasks.get ga).getD [] → b ∈ (st.gapTasks.get gb).getD [] →
            ga < gb → b ∈ selected → a ∈ selected) ∧
          (∀ a b g s, a ∈ (st.gapTasks.get g).getD [] → b ∈ (st.intervalTasks.get s).getD [] →
            b ∈ selected → a ∈ selected) := by
  obtain ⟨st, hst⟩ : ∃ st, walk halfConfig coldManagers false coldDriver.walk = some st :=
    ⟨_, rfl⟩
  exact ⟨rfl, st, hst, youngGC_evicts_warmest_first coldManagers_owned rfl
    ⟨by decide, by decide⟩ ⟨by decide, by decide⟩ hst⟩

end Young

end Dragonfly.Cdn.Cleaner
