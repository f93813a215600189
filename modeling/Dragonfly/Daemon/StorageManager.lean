import Mathlib
import Dragonfly.Daemon.Storage
import Dragonfly.Base.Interleave

/-!
# The dfdaemon's storage manager and its garbage collector

`client/daemon/storage/storage_manager.go`: the manager holds one `localTaskStore` per peer
task, keyed by `PeerTaskMetadata`, and `TryGC` (lines 604–699) reclaims stores in two phases. A
call first marks stores (`MarkReclaim`): each store whose last access is older than
`TaskExpireTime`, and then, when the stores not marked so exceed `DiskGCThreshold` or the disk
is fuller than `DiskGCThresholdPercent`, the least recently accessed of the others until the
excess is covered. It then deletes the stores that the *previous* call marked,
`markedReclaimTasks`, and keeps its own marks for the next call. `FindCompletedTask` (lines
401–432) touches each valid store of a task and returns the first one that is done and not
marked, for the peer to reuse.

A store's data and the methods that change it are the `TaskStore` of `Dragonfly.Daemon`; an entry
of the manager adds what the manager reads of a store: `Done`, the last access and the reclaim
mark. The `sync.Map` of stores is a list and its `Range` order the list's order (no theorem
depends on it). The index `indexTask2PeerTask` holds a task's stores in creation order, which is
their order in the list: `CreateTask` adds a store to both, and `TryGC` deletes it from both.
Times are nanoseconds; sizes are exact integers (their sums stay far below 2^63); the float64
percentages are exact rationals. Whether `Reclaim` removes a store's files is the world's answer
`reclaimOk`. `CleanUp`, which deletes every store when the daemon exits, is not an operation
here: nothing follows it.

Results. `Inv` says that the marked keys are exactly the keys of the marked stores. Every
operation keeps it when reclaims succeed (`Inv.step`), so a store that `FindCompletedTask`
returns is still held after the next `TryGC`, whatever else runs in between
(`findCompletedTask_survives_next_tryGC`). The quota counts the stores that the previous call
marked and that this call deletes, so a call marks one more store even when its own sweep brings
the stores within the quota (`tryGC_marks_within_quota`). `diskUsageExceed` multiplies a
difference of percentages by the disk's size without dividing by 100, so a disk one point over
the threshold marks every store that the quota pass may mark
(`tryGC_usage_marks_every_candidate`).
-/

namespace Dragonfly.Daemon.StorageManager

open Dragonfly.Base.Interleave

/-- `storage.PeerTaskMetadata` (`metadata.go:39`): the key of a store. -/
structure PeerTaskMetadata where
  peerID : List Char
  taskID : List Char
  deriving DecidableEq, Repr

/-- `storage.RegisterTaskRequest` (`metadata.go:58`). -/
structure RegisterTaskRequest where
  peerTaskMetadata : PeerTaskMetadata
  contentLength : Int64
  totalPieces : Int32
  pieceMd5Sign : List Char

/-- `storage.ReusePeerTask`, an `UpdateTaskRequest` (`metadata.go:90–97`), as
`FindCompletedTask` fills it: the key, the content length and the piece count. -/
structure ReusePeerTask where
  peerTaskMetadata : PeerTaskMetadata
  contentLength : Int64
  totalPieces : Int32
  deriving DecidableEq, Repr

/-- The fields of `config.StorageOption` (`peerhost.go:427`) that the collector reads, in
nanoseconds and bytes, with the manager's `gcInterval` (`storage_manager.go:121`: one minute,
or `GCInterval` through `WithGCInterval`). -/
structure StorageOption where
  taskExpireTime : ℕ
  diskGCThreshold : ℤ
  diskGCThresholdPercent : ℚ
  gcInterval : ℕ

/-- What `disk.Usage` answers for the data path, as `diskUsageExceed` reads it: the size of the
disk in bytes and the percentage of it in use (`UsedPercent`, from 0 to 100). -/
structure DiskUsage where
  total : ℕ
  usedPercent : ℚ

/-- A `localTaskStore` (`local_storage.go:35`) as the manager reads it: its data, the `Done` flag
of its metadata, the time of its last access and its reclaim mark. -/
structure StoreEntry where
  store : TaskStore
  done : Bool
  lastAccess : ℕ
  reclaimMarked : Bool

namespace StoreEntry

/-- `ContentLength`, as the collector adds it up. -/
def size (e : StoreEntry) : ℤ := e.store.contentLength.toInt

/-- `localTaskStore.touch` (`local_storage.go:61`) at `now`. -/
def touch (e : StoreEntry) (now : ℕ) : StoreEntry := { e with lastAccess := now }

/-- `localTaskStore.CanReclaim` (`local_storage.go:372`): the last access plus the expire time
is before `now`. -/
def canReclaim (expireTime now : ℕ) (e : StoreEntry) : Bool :=
  decide (e.lastAccess + expireTime < now)

/-- `localTaskStore.MarkReclaim` (`local_storage.go:380`); the `gcCallback` that makes the peer
leave the task is left out. -/
def markReclaim (e : StoreEntry) : StoreEntry := { e with reclaimMarked := true }

@[simp] theorem reclaimMarked_touch (e : StoreEntry) (now : ℕ) :
    (e.touch now).reclaimMarked = e.reclaimMarked := rfl

@[simp] theorem reclaimMarked_markReclaim (e : StoreEntry) : e.markReclaim.reclaimMarked = true :=
  rfl

@[simp] theorem size_markReclaim (e : StoreEntry) : e.markReclaim.size = e.size := rfl

@[simp] theorem done_markReclaim (e : StoreEntry) : e.markReclaim.done = e.done := rfl

@[simp] theorem lastAccess_markReclaim (e : StoreEntry) :
    e.markReclaim.lastAccess = e.lastAccess := rfl

@[simp] theorem markReclaim_markReclaim (e : StoreEntry) :
    e.markReclaim.markReclaim = e.markReclaim := rfl

end StoreEntry

/-- `storageManager` (`storage_manager.go:112`): its stores in `Range` order, and the keys that
the last `TryGC` marked. -/
structure Manager where
  tasks : List (PeerTaskMetadata × StoreEntry)
  markedReclaimTasks : List PeerTaskMetadata

/-- A store's key with its reclaim mark. -/
def markOf (p : PeerTaskMetadata × StoreEntry) : PeerTaskMetadata × Bool :=
  (p.1, p.2.reclaimMarked)

/-! ### The collector's passes -/

/-- The stores with those that satisfy `P` marked (`MarkReclaim` on each). -/
def markWhere (P : PeerTaskMetadata × StoreEntry → Bool)
    (tasks : List (PeerTaskMetadata × StoreEntry)) : List (PeerTaskMetadata × StoreEntry) :=
  tasks.map fun p => if P p then (p.1, p.2.markReclaim) else p

/-- The first `Range` of `TryGC` (lines 605–619): mark each store that `CanReclaim` and collect
its key; add up the content lengths of the others into `totalNotMarkedSize`. -/
def markExpired (expireTime now : ℕ) :
    List (PeerTaskMetadata × StoreEntry) →
      List (PeerTaskMetadata × StoreEntry) × List PeerTaskMetadata × ℤ
  | [] => ([], [], 0)
  | (k, e) :: rest =>
    let r := markExpired expireTime now rest
    if e.canReclaim expireTime now then ((k, e.markReclaim) :: r.1, k :: r.2.1, r.2.2)
    else ((k, e) :: r.1, r.2.1, e.size + r.2.2)

/-- `storageManager.diskUsageExceed` (lines 720–737) on the answer of `disk.Usage`, `none` when it
fails: whether the disk is at least `DiskGCThresholdPercent` full, and the bytes to reclaim, the
difference of the percentages times the disk's size, truncated to an integer. -/
def diskUsageExceed (opt : StorageOption) (usage : Option DiskUsage) : Bool × ℤ :=
  if opt.diskGCThresholdPercent ≤ 0 then (false, 0)
  else
    match usage with
    | none => (false, 0)
    | some u =>
      if u.usedPercent < opt.diskGCThresholdPercent then (false, 0)
      else (true, ⌊(u.usedPercent - opt.diskGCThresholdPercent) * u.total⌋)

/-- The second `Range` of `TryGC` (lines 632–645): the stores not marked, less those not done and
accessed within `gcInterval`. -/
def gcCandidates (gcInterval now : ℕ) (tasks : List (PeerTaskMetadata × StoreEntry)) :
    List (PeerTaskMetadata × StoreEntry) :=
  tasks.filter fun p =>
    !p.2.reclaimMarked && !(!p.2.done && decide ((now : ℤ) - p.2.lastAccess < gcInterval))

/-- `sort.SliceStable` by last access (lines 647–649): a stable sort, here insertion, so stores
accessed at the same time keep their `Range` order. -/
def sortByAccess (tasks : List (PeerTaskMetadata × StoreEntry)) :
    List (PeerTaskMetadata × StoreEntry) :=
  tasks.insertionSort fun a b => a.2.lastAccess ≤ b.2.lastAccess

/-- The marking loop (lines 650–662): the keys it marks, in order, each store's content length
taken off `bytesExceed` after it is marked, until `bytesExceed ≤ 0`. -/
def markOldest (bytesExceed : ℤ) : List (PeerTaskMetadata × StoreEntry) → List PeerTaskMetadata
  | [] => []
  | (k, e) :: rest =>
    if bytesExceed - e.size ≤ 0 then [k] else k :: markOldest (bytesExceed - e.size) rest

/-- The stores whose keys are in `keys` marked. -/
def markKeys (keys : List PeerTaskMetadata) (tasks : List (PeerTaskMetadata × StoreEntry)) :
    List (PeerTaskMetadata × StoreEntry) :=
  markWhere (fun p => decide (p.1 ∈ keys)) tasks

/-- The quota part of `TryGC` (lines 621–667) on the stores after the first `Range`: when the
stores not marked exceed a positive `DiskGCThreshold`, or the disk usage is exceeded, the keys
of the oldest candidates that cover the larger of the two excesses. -/
def quotaMarks (opt : StorageOption) (now : ℕ) (usage : Option DiskUsage)
    (tasks : List (PeerTaskMetadata × StoreEntry)) (totalNotMarkedSize : ℤ) :
    List PeerTaskMetadata :=
  let quotaBytesExceed := totalNotMarkedSize - opt.diskGCThreshold
  let usageExceed := diskUsageExceed opt usage
  if (0 < opt.diskGCThreshold ∧ 0 < quotaBytesExceed) ∨ usageExceed.1 = true then
    let bytesExceed := if usageExceed.2 < quotaBytesExceed then quotaBytesExceed
      else usageExceed.2
    markOldest bytesExceed (sortByAccess (gcCandidates opt.gcInterval now tasks))
  else []

/-- The last loop of `TryGC` (lines 669–696) over the keys the previous call marked: a store
still held is deleted (`tasks.Delete`, `cleanIndex`) and, when `Reclaim` succeeds, its key is
taken off this call's marks (the first match). -/
def sweep (reclaimOk : PeerTaskMetadata → Bool) :
    List PeerTaskMetadata → List (PeerTaskMetadata × StoreEntry) → List PeerTaskMetadata →
      List (PeerTaskMetadata × StoreEntry) × List PeerTaskMetadata
  | [], tasks, markedTasks => (tasks, markedTasks)
  | key :: keys, tasks, markedTasks =>
    if key ∈ tasks.map Prod.fst then
      sweep reclaimOk keys (tasks.filter fun p => p.1 ≠ key)
        (if reclaimOk key then markedTasks.erase key else markedTasks)
    else sweep reclaimOk keys tasks markedTasks

/-- The loop of `FindCompletedTask` (lines 408–430) over the stores, acting on those of `taskID`:
an invalid one is skipped, any other touched, and the first that is neither marked nor unfinished
is returned. -/
def findIn (now : ℕ) (taskID : List Char) :
    List (PeerTaskMetadata × StoreEntry) →
      List (PeerTaskMetadata × StoreEntry) × Option ReusePeerTask
  | [] => ([], none)
  | (k, e) :: rest =>
    if k.taskID ≠ taskID ∨ e.store.invalid = true then
      let r := findIn now taskID rest
      ((k, e) :: r.1, r.2)
    else if e.reclaimMarked = true ∨ e.done = false then
      let r := findIn now taskID rest
      ((k, e.touch now) :: r.1, r.2)
    else ((k, e.touch now) :: rest, some ⟨k, e.store.contentLength, e.store.totalPieces⟩)

/-! ### What each pass does -/

section Passes

variable {P Q : PeerTaskMetadata × StoreEntry → Bool} {l : List (PeerTaskMetadata × StoreEntry)}

/-- Two entries of a list with distinct keys under one key are the same. -/
theorem entry_unique {α β : Type} {l : List (α × β)} (hnd : (l.map Prod.fst).Nodup) {k : α}
    {b₁ b₂ : β} (h₁ : (k, b₁) ∈ l) (h₂ : (k, b₂) ∈ l) : b₁ = b₂ :=
  congrArg Prod.snd (List.inj_on_of_nodup_map hnd h₁ h₂ rfl)

@[simp] theorem map_fst_markWhere : (markWhere P l).map Prod.fst = l.map Prod.fst := by
  rw [markWhere, List.map_map]
  refine List.map_congr_left fun p _ => ?_
  by_cases h : P p <;> simp [h]

@[simp] theorem map_size_markWhere :
    (markWhere P l).map (fun p => p.2.size) = l.map fun p => p.2.size := by
  rw [markWhere, List.map_map]
  refine List.map_congr_left fun p _ => ?_
  by_cases h : P p <;> simp [h]

theorem map_markOf_markWhere :
    (markWhere P l).map markOf = l.map fun p => (p.1, p.2.reclaimMarked || P p) := by
  rw [markWhere, List.map_map]
  refine List.map_congr_left fun p _ => ?_
  by_cases h : P p <;> simp [markOf, h]

theorem mem_markWhere {q : PeerTaskMetadata × StoreEntry} :
    q ∈ markWhere P l ↔ ∃ p ∈ l, (if P p then (p.1, p.2.markReclaim) else p) = q :=
  List.mem_map

/-- Marking by a test on the key after marking by `P` marks by either. -/
theorem markWhere_markWhere
    (hQ : ∀ p : PeerTaskMetadata × StoreEntry, Q (p.1, p.2.markReclaim) = Q p) :
    markWhere Q (markWhere P l) = markWhere (fun p => P p || Q p) l := by
  rw [markWhere, markWhere, markWhere, List.map_map]
  refine List.map_congr_left fun p _ => ?_
  by_cases hp : P p <;> by_cases hq : Q p <;> simp [hp, hq, hQ]

theorem markWhere_of_forall (h : ∀ p ∈ l, P p = false) : markWhere P l = l := by
  rw [markWhere]
  conv_rhs => rw [← List.map_id l]
  exact List.map_congr_left fun p hp => by simp [h p hp]

theorem filter_markWhere (R : PeerTaskMetadata → Bool) :
    (markWhere P l).filter (fun p => R p.1) = markWhere P (l.filter fun p => R p.1) := by
  rw [markWhere, markWhere, List.filter_map]
  congr 1
  refine List.filter_congr fun p _ => ?_
  by_cases h : P p <;> simp [h]

theorem markExpired_eq (expireTime now : ℕ) (l : List (PeerTaskMetadata × StoreEntry)) :
    markExpired expireTime now l =
      (markWhere (fun p => p.2.canReclaim expireTime now) l,
        (l.filter fun p => p.2.canReclaim expireTime now).map Prod.fst,
        ((l.filter fun p => !p.2.canReclaim expireTime now).map fun p => p.2.size).sum) := by
  induction l with
  | nil => rfl
  | cons p l ih =>
    obtain ⟨k, e⟩ := p
    by_cases h : e.canReclaim expireTime now = true <;> simp [markExpired, markWhere, ih, h]

theorem markExpired_fst (expireTime now : ℕ) (l : List (PeerTaskMetadata × StoreEntry)) :
    (markExpired expireTime now l).1 = markWhere (fun p => p.2.canReclaim expireTime now) l := by
  rw [markExpired_eq]

theorem markExpired_snd_fst (expireTime now : ℕ) (l : List (PeerTaskMetadata × StoreEntry)) :
    (markExpired expireTime now l).2.1 =
      (l.filter fun p => p.2.canReclaim expireTime now).map Prod.fst := by
  rw [markExpired_eq]

theorem markExpired_snd_snd (expireTime now : ℕ) (l : List (PeerTaskMetadata × StoreEntry)) :
    (markExpired expireTime now l).2.2 =
      ((l.filter fun p => !p.2.canReclaim expireTime now).map fun p => p.2.size).sum := by
  rw [markExpired_eq]

theorem mem_gcCandidates {gcInterval now : ℕ} {p : PeerTaskMetadata × StoreEntry} :
    p ∈ gcCandidates gcInterval now l ↔ p ∈ l ∧ p.2.reclaimMarked = false ∧
      (p.2.done = true ∨ (gcInterval : ℤ) ≤ (now : ℤ) - p.2.lastAccess) := by
  simp [gcCandidates]

theorem gcCandidates_sublist (gcInterval now : ℕ) (l : List (PeerTaskMetadata × StoreEntry)) :
    (gcCandidates gcInterval now l).Sublist l :=
  List.filter_sublist

theorem sortByAccess_perm (l : List (PeerTaskMetadata × StoreEntry)) : (sortByAccess l).Perm l :=
  List.perm_insertionSort _ _

/-- A done store not yet marked is a candidate, so the sorted candidates start with a store of
the list not yet marked. -/
theorem exists_cons_sortByAccess (gcInterval now : ℕ)
    (h : ∃ c ∈ l, c.2.reclaimMarked = false ∧ c.2.done = true) :
    ∃ p rest, sortByAccess (gcCandidates gcInterval now l) = p :: rest ∧ p ∈ l ∧
      p.2.reclaimMarked = false := by
  obtain ⟨c, hc, hcm, hcd⟩ := h
  have hmem : c ∈ sortByAccess (gcCandidates gcInterval now l) :=
    (sortByAccess_perm _).mem_iff.mpr (mem_gcCandidates.mpr ⟨hc, hcm, .inl hcd⟩)
  obtain ⟨p, rest, hpr⟩ := List.exists_cons_of_ne_nil (List.ne_nil_of_mem hmem)
  have hp : p ∈ gcCandidates gcInterval now l := by
    rw [← (sortByAccess_perm _).mem_iff, hpr]
    exact List.mem_cons_self
  obtain ⟨hpl, hpm, -⟩ := mem_gcCandidates.mp hp
  exact ⟨p, rest, hpr, hpl, hpm⟩

/-- The sorted candidates hold no more than the whole list, when no size is negative. -/
theorem sum_size_sortByAccess_le (gcInterval now : ℕ) (hsize : ∀ p ∈ l, 0 ≤ p.2.size) :
    ((sortByAccess (gcCandidates gcInterval now l)).map fun p => p.2.size).sum ≤
      (l.map fun p => p.2.size).sum := by
  rw [((sortByAccess_perm _).map _).sum_eq]
  refine ((gcCandidates_sublist _ _ _).map fun p => p.2.size).sum_le_sum fun x hx => ?_
  obtain ⟨p, hp, rfl⟩ := List.mem_map.mp hx
  exact hsize p hp

theorem markOldest_sublist (b : ℤ) :
    ∀ l : List (PeerTaskMetadata × StoreEntry), (markOldest b l).Sublist (l.map Prod.fst)
  | [] => List.Sublist.slnil
  | (k, e) :: rest => by
    rw [markOldest, List.map_cons]
    split_ifs
    · exact (List.nil_sublist _).cons_cons k
    · exact (markOldest_sublist _ rest).cons_cons k

/-- The loop marks the first candidate, whatever the excess. -/
theorem head_mem_markOldest (b : ℤ) (p : PeerTaskMetadata × StoreEntry)
    (l : List (PeerTaskMetadata × StoreEntry)) : p.1 ∈ markOldest b (p :: l) := by
  obtain ⟨k, e⟩ := p
  rw [markOldest]
  split_ifs <;> simp

/-- An excess above the candidates' total marks them all. -/
theorem markOldest_of_sum_lt :
    ∀ {b : ℤ} {l : List (PeerTaskMetadata × StoreEntry)}, (∀ p ∈ l, 0 ≤ p.2.size) →
      (l.map fun p => p.2.size).sum < b → markOldest b l = l.map Prod.fst
  | _, [], _, _ => rfl
  | b, (k, e) :: rest, hsize, hsum => by
    have hrest : ∀ p ∈ rest, 0 ≤ p.2.size := fun p hp => hsize p (List.mem_cons_of_mem _ hp)
    have hnonneg : 0 ≤ (rest.map fun p => p.2.size).sum :=
      List.sum_nonneg fun x hx => by
        obtain ⟨p, hp, rfl⟩ := List.mem_map.mp hx
        exact hrest p hp
    have hsum' : (rest.map fun p => p.2.size).sum < b - e.size := by
      simp only [List.map_cons, List.sum_cons] at hsum
      linarith
    rw [markOldest, if_neg (by linarith), markOldest_of_sum_lt hrest hsum', List.map_cons]

/-- A disk at least as full as a positive threshold asks for the difference of the percentages
times the disk's size. -/
theorem diskUsageExceed_of_le {opt : StorageOption} {u : DiskUsage}
    (hpct : 0 < opt.diskGCThresholdPercent) (hle : opt.diskGCThresholdPercent ≤ u.usedPercent) :
    diskUsageExceed opt (some u) =
      (true, ⌊(u.usedPercent - opt.diskGCThresholdPercent) * u.total⌋) := by
  simp [diskUsageExceed, not_le.mpr hpct, not_lt.mpr hle]

/-- A percentage point over the threshold asks for at least the whole disk. -/
theorem total_le_diskUsageExceed {opt : StorageOption} {u : DiskUsage}
    (hover : opt.diskGCThresholdPercent + 1 ≤ u.usedPercent) :
    (u.total : ℤ) ≤ ⌊(u.usedPercent - opt.diskGCThresholdPercent) * u.total⌋ := by
  rw [Int.le_floor]
  push_cast
  exact le_mul_of_one_le_left (Nat.cast_nonneg _) (by linarith)

/-- The quota part marks candidates only, in the order of their last access. -/
theorem quotaMarks_sublist (opt : StorageOption) (now : ℕ) (usage : Option DiskUsage)
    (tasks : List (PeerTaskMetadata × StoreEntry)) (totalNotMarkedSize : ℤ) :
    (quotaMarks opt now usage tasks totalNotMarkedSize).Sublist
      ((sortByAccess (gcCandidates opt.gcInterval now tasks)).map Prod.fst) := by
  unfold quotaMarks
  dsimp only
  split
  · exact markOldest_sublist _ _
  · exact List.nil_sublist _

theorem sweep_fst (reclaimOk : PeerTaskMetadata → Bool) :
    ∀ (old : List PeerTaskMetadata) (tasks : List (PeerTaskMetadata × StoreEntry))
      (marked : List PeerTaskMetadata),
      (sweep reclaimOk old tasks marked).1 = tasks.filter fun p => p.1 ∉ old
  | [], tasks, marked => by simp [sweep]
  | key :: keys, tasks, marked => by
    by_cases h : key ∈ tasks.map Prod.fst
    · rw [sweep, if_pos h, sweep_fst reclaimOk keys, List.filter_filter]
      refine List.filter_congr fun p _ => ?_
      simp [Bool.and_comm]
    · rw [sweep, if_neg h, sweep_fst reclaimOk keys]
      refine List.filter_congr fun p hp => ?_
      have hne : p.1 ≠ key := fun he => h (List.mem_map.mpr ⟨p, hp, he⟩)
      simp [hne]

theorem mem_of_mem_sweep_snd (reclaimOk : PeerTaskMetadata → Bool) {k : PeerTaskMetadata} :
    ∀ (old : List PeerTaskMetadata) (tasks : List (PeerTaskMetadata × StoreEntry))
      (marked : List PeerTaskMetadata), k ∈ (sweep reclaimOk old tasks marked).2 → k ∈ marked
  | [], _, _, hk => hk
  | key :: keys, tasks, marked, hk => by
    by_cases h : key ∈ tasks.map Prod.fst
    · rw [sweep, if_pos h] at hk
      have hk' := mem_of_mem_sweep_snd reclaimOk keys _ _ hk
      split_ifs at hk'
      · exact List.mem_of_mem_erase hk'
      · exact hk'
    · rw [sweep, if_neg h] at hk
      exact mem_of_mem_sweep_snd reclaimOk keys _ _ hk

/-- A key that the sweep does not visit keeps its place in this call's marks. -/
theorem mem_sweep_snd (reclaimOk : PeerTaskMetadata → Bool) {k : PeerTaskMetadata} :
    ∀ (old : List PeerTaskMetadata) (tasks : List (PeerTaskMetadata × StoreEntry))
      (marked : List PeerTaskMetadata), k ∈ marked → k ∉ old →
        k ∈ (sweep reclaimOk old tasks marked).2
  | [], _, _, hk, _ => hk
  | key :: keys, tasks, marked, hk, hold => by
    have hne : k ≠ key := fun he => hold (he ▸ List.mem_cons_self)
    have hkeys : k ∉ keys := fun h => hold (List.mem_cons_of_mem _ h)
    by_cases h : key ∈ tasks.map Prod.fst
    · rw [sweep, if_pos h]
      refine mem_sweep_snd reclaimOk keys _ _ ?_ hkeys
      split_ifs
      · exact (List.mem_erase_of_ne hne).mpr hk
      · exact hk
    · rw [sweep, if_neg h]
      exact mem_sweep_snd reclaimOk keys _ _ hk hkeys

/-- When every reclaim succeeds, the sweep takes off this call's marks every key it visits, as
long as the marks are distinct keys of held stores. -/
theorem not_mem_of_mem_sweep_snd {reclaimOk : PeerTaskMetadata → Bool}
    (hok : ∀ k, reclaimOk k = true) {k : PeerTaskMetadata} :
    ∀ (old : List PeerTaskMetadata) (tasks : List (PeerTaskMetadata × StoreEntry))
      (marked : List PeerTaskMetadata), marked.Nodup →
      (∀ k' ∈ marked, k' ∈ tasks.map Prod.fst) →
        k ∈ (sweep reclaimOk old tasks marked).2 → k ∉ old
  | [], _, _, _, _, _ => List.not_mem_nil
  | key :: keys, tasks, marked, hnd, hsub, hk => by
    have hmem := mem_of_mem_sweep_snd reclaimOk (key :: keys) tasks marked hk
    by_cases h : key ∈ tasks.map Prod.fst
    · rw [sweep, if_pos h, if_pos (hok key)] at hk
      -- the visited key leaves both the stores and the marks, the others stay in both
      have hsub' :
          ∀ k' ∈ marked.erase key, k' ∈ (tasks.filter fun p => p.1 ≠ key).map Prod.fst := by
        intro k' hk'
        have hne : k' ≠ key := (hnd.mem_erase_iff.mp hk').1
        obtain ⟨p, hp, rfl⟩ := List.mem_map.mp (hsub k' (List.mem_of_mem_erase hk'))
        exact List.mem_map.mpr ⟨p, List.mem_filter.mpr ⟨hp, by simpa using hne⟩, rfl⟩
      have hkeys := not_mem_of_mem_sweep_snd hok keys _ _ (hnd.erase key) hsub' hk
      have hne : k ≠ key :=
        (hnd.mem_erase_iff.mp (mem_of_mem_sweep_snd reclaimOk keys _ _ hk)).1
      simp [hne, hkeys]
    · rw [sweep, if_neg h] at hk
      have hkeys := not_mem_of_mem_sweep_snd hok keys _ _ hnd hsub hk
      have hne : k ≠ key := fun he => h (he ▸ hsub k hmem)
      simp [hne, hkeys]

end Passes

namespace Manager

/-- The keys of the stores with their reclaim marks: what the collector's bookkeeping reads. -/
def marks (m : Manager) : List (PeerTaskMetadata × Bool) := m.tasks.map markOf

/-- The manager that `NewStorageManager` (`storage_manager.go:131`) returns at `now`: the stores
that `ReloadPersistentTask` (line 477) loaded with their `Done` flags, each touched and none
marked, and no marked keys. -/
def reloaded (now : ℕ) (stores : List (PeerTaskMetadata × TaskStore × Bool)) : Manager :=
  ⟨stores.map fun s => (s.1, ⟨s.2.1, s.2.2, now, false⟩), []⟩

/-- `LoadTask` (line 282) and a method of the store it finds: `f` on the store of `key`; with no
store, nothing changes (`ErrTaskNotFound`). -/
def modifyTask (key : PeerTaskMetadata) (f : StoreEntry → StoreEntry) (m : Manager) : Manager :=
  { m with tasks := m.tasks.map fun p => if p.1 = key then (p.1, f p.2) else p }

/-- `storageManager.RegisterTask` (line 195) at `now`: the store held under the key, or else a
new one from `CreateTask` (line 303), not done and touched. -/
def registerTask (now : ℕ) (req : RegisterTaskRequest) (m : Manager) : Manager :=
  if req.peerTaskMetadata ∈ m.tasks.map Prod.fst then m
  else
    { m with
      tasks := m.tasks ++ [(req.peerTaskMetadata,
        ⟨TaskStore.createTask req.peerTaskMetadata.peerID req.contentLength req.totalPieces
          req.pieceMd5Sign, false, now, false⟩)] }

/-- `storageManager.WritePiece` (line 219): the store is touched first (`local_storage.go:67`);
what the write does to the pieces is `TaskStore.writePiece`. -/
def writePiece (now : ℕ) (key : PeerTaskMetadata) (m : Manager) : Manager :=
  m.modifyTask key fun e => e.touch now

/-- `ReadPiece`, `ReadAllPieces` and `GetPieces` (lines 231–280): an invalid store refuses and a
valid one is touched (`local_storage.go:216–257,339–346`). -/
def readPiece (now : ℕ) (key : PeerTaskMetadata) (m : Manager) : Manager :=
  m.modifyTask key fun e => if e.store.invalid then e else e.touch now

/-- `storageManager.UpdateTask` (line 291): touch, then `TaskStore.updateTask`. -/
def updateTask (now : ℕ) (key : PeerTaskMetadata) (contentLength : Int64) (totalPieces : Int32)
    (pieceMd5Sign : List Char) (m : Manager) : Manager :=
  m.modifyTask key fun e =>
    { e.touch now with
      store := e.store.updateTask contentLength totalPieces pieceMd5Sign }

/-- `storageManager.Store` (line 257): `Done` set, the store touched, then
`TaskStore.store` (`local_storage.go:280–288`). -/
def store (now : ℕ) (key : PeerTaskMetadata) (totalPieces : Int32) (m : Manager) : Manager :=
  m.modifyTask key fun e =>
    { e with
      store := e.store.store totalPieces
      done := true
      lastAccess := now }

/-- `storageManager.ValidateDigest` (line 453): `invalid` set when the digest check fails. -/
def validateDigest (sha256 : List (List Char) → List Char) (key : PeerTaskMetadata)
    (m : Manager) : Manager :=
  m.modifyTask key fun e => { e with store := (e.store.validateDigest sha256).1 }

/-- `storageManager.FindCompletedTask` (line 401) at `now`. -/
def findCompletedTask (now : ℕ) (taskID : List Char) (m : Manager) :
    Manager × Option ReusePeerTask :=
  let r := findIn now taskID m.tasks
  ({ m with tasks := r.1 }, r.2)

/-- The keys that the quota part of a `TryGC` at `now` marks. -/
def quotaKeys (opt : StorageOption) (now : ℕ) (usage : Option DiskUsage) (m : Manager) :
    List PeerTaskMetadata :=
  let expired := markExpired opt.taskExpireTime now m.tasks
  quotaMarks opt now usage expired.1 expired.2.2

/-- Whether a `TryGC` at `now` marks a store: it can be reclaimed, or the quota part picks its
key. -/
def tryGCMarks (opt : StorageOption) (now : ℕ) (usage : Option DiskUsage) (m : Manager)
    (p : PeerTaskMetadata × StoreEntry) : Bool :=
  p.2.canReclaim opt.taskExpireTime now || decide (p.1 ∈ m.quotaKeys opt now usage)

/-- `storageManager.TryGC` (line 604) at `now`, with the disk usage `usage`. -/
def tryGC (opt : StorageOption) (reclaimOk : PeerTaskMetadata → Bool) (now : ℕ)
    (usage : Option DiskUsage) (m : Manager) : Manager :=
  let expired := markExpired opt.taskExpireTime now m.tasks
  let keys := quotaMarks opt now usage expired.1 expired.2.2
  let swept := sweep reclaimOk m.markedReclaimTasks (markKeys keys expired.1) (expired.2.1 ++ keys)
  ⟨swept.1, swept.2⟩

end Manager

/-- The calls on the manager, each with the clock's reading and the answers it reads. -/
inductive Op where
  | registerTask (now : ℕ) (req : RegisterTaskRequest)
  | writePiece (now : ℕ) (key : PeerTaskMetadata)
  | readPiece (now : ℕ) (key : PeerTaskMetadata)
  | updateTask (now : ℕ) (key : PeerTaskMetadata) (contentLength : Int64) (totalPieces : Int32)
      (pieceMd5Sign : List Char)
  | store (now : ℕ) (key : PeerTaskMetadata) (totalPieces : Int32)
  | validateDigest (key : PeerTaskMetadata)
  | findCompletedTask (now : ℕ) (taskID : List Char)
  | tryGC (now : ℕ) (usage : Option DiskUsage)

/-- The collector's call. -/
def Op.isTryGC : Op → Bool
  | .tryGC _ _ => true
  | _ => false

section Step

variable (opt : StorageOption) (sha256 : List (List Char) → List Char)
  (reclaimOk : PeerTaskMetadata → Bool)

/-- The manager after a call; the calls run one at a time, as the manager's locks order them. -/
def apply : Op → Manager → Manager
  | .registerTask now req, m => m.registerTask now req
  | .writePiece now key, m => m.writePiece now key
  | .readPiece now key, m => m.readPiece now key
  | .updateTask now key contentLength totalPieces pieceMd5Sign, m =>
    m.updateTask now key contentLength totalPieces pieceMd5Sign
  | .store now key totalPieces, m => m.store now key totalPieces
  | .validateDigest key, m => m.validateDigest sha256 key
  | .findCompletedTask now taskID, m => (m.findCompletedTask now taskID).1
  | .tryGC now usage, m => m.tryGC opt reclaimOk now usage

/-- The manager as a system of calls for `Dragonfly.Base.Interleave`: every call returns. -/
def step (op : Op) (m : Manager) : Option Manager := some (apply opt sha256 reclaimOk op m)

end Step

/-! ### The bookkeeping each call keeps -/

section FindIn

variable (now : ℕ) (taskID : List Char)

theorem map_markOf_findIn :
    ∀ l : List (PeerTaskMetadata × StoreEntry), (findIn now taskID l).1.map markOf = l.map markOf
  | [] => rfl
  | (k, e) :: rest => by
    rw [findIn]
    split_ifs <;> simp [markOf, map_markOf_findIn rest]

/-- The store `FindCompletedTask` returns is held and not marked. -/
theorem findIn_some :
    ∀ {l : List (PeerTaskMetadata × StoreEntry)} {r : ReusePeerTask},
      (findIn now taskID l).2 = some r → (r.peerTaskMetadata, false) ∈ l.map markOf
  | [], _, h => by simp [findIn] at h
  | (k, e) :: rest, r, h => by
    rw [findIn] at h
    split_ifs at h with hskip hpass
    · exact List.mem_cons_of_mem _ (findIn_some h)
    · exact List.mem_cons_of_mem _ (findIn_some h)
    · cases h
      have hunmarked : e.reclaimMarked = false := by simpa using (not_or.mp hpass).1
      simp [markOf, hunmarked]

end FindIn

namespace Manager

variable {m : Manager} {k : PeerTaskMetadata}

theorem map_fst_marks (m : Manager) : m.marks.map Prod.fst = m.tasks.map Prod.fst := by
  rw [marks, List.map_map]
  rfl

/-- The collector's bookkeeping: the stores have distinct keys, and the keys the last `TryGC`
marked are exactly those of the marked stores. -/
structure Inv (m : Manager) : Prop where
  nodup : (m.tasks.map Prod.fst).Nodup
  marked : ∀ k ∈ m.markedReclaimTasks, (k, true) ∈ m.marks
  listed : ∀ k, (k, true) ∈ m.marks → k ∈ m.markedReclaimTasks

theorem Inv.nodup_marks (hinv : Inv m) : (m.marks.map Prod.fst).Nodup := by
  rw [map_fst_marks]
  exact hinv.nodup

/-- A call that keeps the marks and the marked keys keeps the bookkeeping. -/
theorem Inv.of_marks {m' : Manager} (hinv : Inv m) (hm : m'.marks = m.marks)
    (hl : m'.markedReclaimTasks = m.markedReclaimTasks) : Inv m' where
  nodup := by
    rw [← map_fst_marks, hm]
    exact hinv.nodup_marks
  marked k hk := hm ▸ hinv.marked k (hl ▸ hk)
  listed k hk := hl ▸ hinv.listed k (hm ▸ hk)

/-- A store not marked is not among the marked keys. -/
theorem Inv.not_mem_of_unmarked (hinv : Inv m) (h : (k, false) ∈ m.marks) :
    k ∉ m.markedReclaimTasks :=
  fun hk => Bool.false_ne_true (entry_unique hinv.nodup_marks h (hinv.marked k hk))

/-- A store's key is among the marked keys exactly when the store is marked. -/
theorem Inv.mem_marked_iff (hinv : Inv m) {p : PeerTaskMetadata × StoreEntry}
    (hp : p ∈ m.tasks) :
    p.1 ∈ m.markedReclaimTasks ↔ p.2.reclaimMarked = true := by
  have hmark : (p.1, p.2.reclaimMarked) ∈ m.marks := List.mem_map.mpr ⟨p, hp, rfl⟩
  constructor
  · intro hk
    exact entry_unique hinv.nodup_marks hmark (hinv.marked _ hk)
  · intro h
    exact hinv.listed _ (h ▸ hmark)

theorem inv_reloaded (now : ℕ) {stores : List (PeerTaskMetadata × TaskStore × Bool)}
    (hkeys : (stores.map Prod.fst).Nodup) : Inv (reloaded now stores) where
  nodup := by simpa [reloaded, List.map_map, Function.comp_def] using hkeys
  marked k hk := by simp [reloaded] at hk
  listed k hk := by simp [reloaded, marks, markOf] at hk

theorem marks_modifyTask {key : PeerTaskMetadata} {f : StoreEntry → StoreEntry}
    (hf : ∀ e, (f e).reclaimMarked = e.reclaimMarked) : (m.modifyTask key f).marks = m.marks := by
  simp only [marks, modifyTask, List.map_map]
  refine List.map_congr_left fun p _ => ?_
  by_cases h : p.1 = key <;> simp [markOf, h, hf]

theorem marks_registerTask (now : ℕ) (req : RegisterTaskRequest) :
    (m.registerTask now req).marks = if req.peerTaskMetadata ∈ m.tasks.map Prod.fst then m.marks
      else m.marks ++ [(req.peerTaskMetadata, false)] := by
  unfold registerTask
  split_ifs <;> simp [marks, markOf]

@[simp] theorem markedReclaimTasks_registerTask (now : ℕ) (req : RegisterTaskRequest) :
    (m.registerTask now req).markedReclaimTasks = m.markedReclaimTasks := by
  unfold registerTask
  split_ifs <;> rfl

theorem Inv.registerTask (hinv : Inv m) (now : ℕ) (req : RegisterTaskRequest) :
    Inv (m.registerTask now req) := by
  by_cases h : req.peerTaskMetadata ∈ m.tasks.map Prod.fst
  · rwa [Manager.registerTask, if_pos h]
  -- a new store comes unmarked under a new key
  have hm := marks_registerTask (m := m) now req
  rw [if_neg h] at hm
  refine ⟨?_, fun k hk => ?_, fun k hk => ?_⟩
  · rw [← map_fst_marks, hm, List.map_append, map_fst_marks]
    refine List.nodup_append.mpr ⟨hinv.nodup, List.nodup_singleton _, ?_⟩
    intro a ha b hb hab
    simp only [List.map_cons, List.map_nil, List.mem_singleton] at hb
    exact h (by rw [← hb, ← hab]; exact ha)
  · rw [hm]
    exact List.mem_append_left _ (hinv.marked k (by simpa using hk))
  · rw [hm] at hk
    simp only [List.mem_append, List.mem_singleton, Prod.mk.injEq, Bool.true_eq_false,
      and_false, or_false] at hk
    simpa using hinv.listed k hk

@[simp] theorem marks_findCompletedTask (now : ℕ) (taskID : List Char) :
    (m.findCompletedTask now taskID).1.marks = m.marks :=
  map_markOf_findIn now taskID m.tasks

@[simp] theorem markedReclaimTasks_findCompletedTask (now : ℕ) (taskID : List Char) :
    (m.findCompletedTask now taskID).1.markedReclaimTasks = m.markedReclaimTasks := rfl

section TryGC

variable {opt : StorageOption} {reclaimOk : PeerTaskMetadata → Bool} {now : ℕ}
  {usage : Option DiskUsage}

/-- The stores after `TryGC`: those the sweep does not visit, marked as the call marks them. -/
theorem tryGC_tasks : (m.tryGC opt reclaimOk now usage).tasks =
    (markWhere (m.tryGCMarks opt now usage) m.tasks).filter
      fun p => p.1 ∉ m.markedReclaimTasks := by
  show (sweep reclaimOk m.markedReclaimTasks
    (markKeys (m.quotaKeys opt now usage) (markExpired opt.taskExpireTime now m.tasks).1)
    ((markExpired opt.taskExpireTime now m.tasks).2.1 ++ m.quotaKeys opt now usage)).1 = _
  rw [sweep_fst, markKeys, markExpired_fst, markWhere_markWhere fun _ => rfl]
  rfl

/-- The marked keys after `TryGC`: this call's, less those the sweep takes off. -/
theorem tryGC_markedReclaimTasks : (m.tryGC opt reclaimOk now usage).markedReclaimTasks =
    (sweep reclaimOk m.markedReclaimTasks (markWhere (m.tryGCMarks opt now usage) m.tasks)
      ((m.tasks.filter fun p => p.2.canReclaim opt.taskExpireTime now).map Prod.fst ++
        m.quotaKeys opt now usage)).2 := by
  show (sweep reclaimOk m.markedReclaimTasks
    (markKeys (m.quotaKeys opt now usage) (markExpired opt.taskExpireTime now m.tasks).1)
    ((markExpired opt.taskExpireTime now m.tasks).2.1 ++ m.quotaKeys opt now usage)).2 = _
  rw [markKeys, markExpired_fst, markExpired_snd_fst, markWhere_markWhere fun _ => rfl]
  rfl

/-- The sweep visits only the keys the previous collection marked: `TryGC` keeps every other
store. -/
theorem mem_tryGC_tasks (hk : k ∈ m.tasks.map Prod.fst) (hold : k ∉ m.markedReclaimTasks) :
    k ∈ (m.tryGC opt reclaimOk now usage).tasks.map Prod.fst := by
  rw [tryGC_tasks]
  obtain ⟨p, hp, rfl⟩ := List.mem_map.mp hk
  refine List.mem_map.mpr ⟨if m.tryGCMarks opt now usage p then (p.1, p.2.markReclaim) else p,
    List.mem_filter.mpr ⟨List.mem_map.mpr ⟨p, hp, rfl⟩, ?_⟩, ?_⟩
  · split_ifs <;> simpa using hold
  · split_ifs <;> rfl

/-- The sweep deletes exactly the stores marked before the call: what `TryGC` leaves holds the
sizes of the stores that were not marked. -/
theorem Inv.sum_size_tryGC_tasks (hinv : Inv m) :
    ((m.tryGC opt reclaimOk now usage).tasks.map fun p => p.2.size).sum =
      ((m.tasks.filter fun p => !p.2.reclaimMarked).map fun p => p.2.size).sum := by
  rw [tryGC_tasks, filter_markWhere (fun k => decide (k ∉ m.markedReclaimTasks)),
    map_size_markWhere]
  have hfilter : (m.tasks.filter fun p => decide (p.1 ∉ m.markedReclaimTasks)) =
      m.tasks.filter fun p => !p.2.reclaimMarked :=
    List.filter_congr fun q hq => by simp [hinv.mem_marked_iff hq]
  rw [hfilter]

/-- The quota part picks only stores held, not marked and not reclaimable. -/
theorem mem_quotaKeys (hk : k ∈ m.quotaKeys opt now usage) :
    ∃ e, (k, e) ∈ m.tasks ∧ e.reclaimMarked = false ∧
      e.canReclaim opt.taskExpireTime now = false := by
  have hsub := (quotaMarks_sublist opt now usage _ _).subset hk
  rw [markExpired_fst] at hsub
  obtain ⟨p, hp, rfl⟩ := List.mem_map.mp hsub
  obtain ⟨hp, hunmarked, -⟩ := mem_gcCandidates.mp ((sortByAccess_perm _).mem_iff.mp hp)
  obtain ⟨q, hq, hqp⟩ := mem_markWhere.mp hp
  by_cases hc : q.2.canReclaim opt.taskExpireTime now = true
  · rw [if_pos hc] at hqp
    subst hqp
    simp at hunmarked
  · rw [if_neg hc] at hqp
    subst hqp
    exact ⟨q.2, hq, hunmarked, by simpa using hc⟩

theorem nodup_quotaKeys (hnd : (m.tasks.map Prod.fst).Nodup) :
    (m.quotaKeys opt now usage).Nodup := by
  have hc : ((gcCandidates opt.gcInterval now
      (markWhere (fun p => p.2.canReclaim opt.taskExpireTime now) m.tasks)).map
        Prod.fst).Nodup := by
    refine (List.filter_sublist.map Prod.fst).nodup ?_
    rwa [map_fst_markWhere]
  have hs := ((sortByAccess_perm _).map Prod.fst).nodup_iff.mpr hc
  simp only [quotaKeys]
  refine (quotaMarks_sublist opt now usage _ _).nodup ?_
  rwa [markExpired_fst]

/-- A store that `TryGC` leaves marked is marked by this call, or was among the marked keys. -/
theorem mem_tryGC_marked (hinv : Inv m) {p : PeerTaskMetadata × StoreEntry}
    (hp : p ∈ markWhere (m.tryGCMarks opt now usage) m.tasks)
    (hmarked : p.2.reclaimMarked = true) :
    p.1 ∈ (m.tasks.filter fun p => p.2.canReclaim opt.taskExpireTime now).map Prod.fst ++
        m.quotaKeys opt now usage ∨ p.1 ∈ m.markedReclaimTasks := by
  obtain ⟨q, hq, rfl⟩ := mem_markWhere.mp hp
  by_cases hR : m.tryGCMarks opt now usage q = true
  · left
    rw [if_pos hR]
    rcases Bool.or_eq_true_iff.mp hR with hc | hk
    · exact List.mem_append_left _
        (List.mem_map.mpr ⟨q, List.mem_filter.mpr ⟨hq, hc⟩, rfl⟩)
    · exact List.mem_append_right _ (of_decide_eq_true hk)
  · right
    rw [if_neg hR] at hmarked ⊢
    exact (hinv.mem_marked_iff hq).mpr hmarked

/-- `TryGC` keeps the bookkeeping when every reclaim succeeds. -/
theorem Inv.tryGC (hok : ∀ k, reclaimOk k = true) (hinv : Inv m) :
    Inv (m.tryGC opt reclaimOk now usage) := by
  set marked := (m.tasks.filter fun p => p.2.canReclaim opt.taskExpireTime now).map Prod.fst ++
    m.quotaKeys opt now usage with hmarked
  have hkeys := map_fst_markWhere (P := m.tryGCMarks opt now usage) (l := m.tasks)
  -- every key this call marks is the key of a store it marks
  have hmarks : ∀ k ∈ marked,
      (k, true) ∈ (markWhere (m.tryGCMarks opt now usage) m.tasks).map markOf := by
    intro k hk
    rw [map_markOf_markWhere]
    rcases List.mem_append.mp hk with hk | hk
    · obtain ⟨p, hp, rfl⟩ := List.mem_map.mp hk
      refine List.mem_map.mpr ⟨p, (List.mem_filter.mp hp).1, ?_⟩
      simp [tryGCMarks, (List.mem_filter.mp hp).2]
    · obtain ⟨e, he, -, -⟩ := mem_quotaKeys hk
      exact List.mem_map.mpr ⟨(k, e), he, by simp [tryGCMarks, hk]⟩
  have hsub : ∀ k ∈ marked,
      k ∈ (markWhere (m.tryGCMarks opt now usage) m.tasks).map Prod.fst := by
    intro k hk
    obtain ⟨p, hp, hpk⟩ := List.mem_map.mp (hmarks k hk)
    exact List.mem_map.mpr ⟨p, hp, congrArg Prod.fst hpk⟩
  -- this call's keys are distinct: a reclaimable store is not one the quota part picks
  have hnd : marked.Nodup := by
    refine List.nodup_append.mpr ⟨(List.filter_sublist.map Prod.fst).nodup hinv.nodup,
      nodup_quotaKeys hinv.nodup, ?_⟩
    intro a ha b hb hab
    obtain ⟨p, hp, rfl⟩ := List.mem_map.mp ha
    obtain ⟨e, he, -, hcan⟩ := mem_quotaKeys hb
    rw [← hab] at he
    have heq : p.2 = e := entry_unique hinv.nodup (List.mem_filter.mp hp).1 he
    have hc := (List.mem_filter.mp hp).2
    rw [heq, hcan] at hc
    exact Bool.false_ne_true hc
  refine ⟨?_, fun k hk => ?_, fun k hk => ?_⟩
  · rw [tryGC_tasks]
    exact (List.filter_sublist.map Prod.fst).nodup (hkeys ▸ hinv.nodup)
  · rw [tryGC_markedReclaimTasks] at hk
    have hold := not_mem_of_mem_sweep_snd hok _ _ _ hnd hsub hk
    obtain ⟨p, hp, hpk⟩ := List.mem_map.mp (hmarks k (mem_of_mem_sweep_snd _ _ _ _ hk))
    have hpk₁ : p.1 = k := congrArg Prod.fst hpk
    rw [marks, tryGC_tasks]
    exact List.mem_map.mpr ⟨p, List.mem_filter.mpr ⟨hp, by simpa [hpk₁] using hold⟩, hpk⟩
  · rw [marks, tryGC_tasks] at hk
    obtain ⟨p, hp, hpk⟩ := List.mem_map.mp hk
    obtain ⟨hp, hold⟩ := List.mem_filter.mp hp
    have hpk₁ : p.1 = k := congrArg Prod.fst hpk
    have hold : k ∉ m.markedReclaimTasks := by simpa [hpk₁] using hold
    rcases mem_tryGC_marked hinv hp (congrArg Prod.snd hpk) with hk' | hk'
    · rw [tryGC_markedReclaimTasks]
      exact mem_sweep_snd _ _ _ _ (hpk₁ ▸ hk') hold
    · exact absurd (hpk₁ ▸ hk') hold

end TryGC

end Manager

section Runs

variable {opt : StorageOption} {sha256 : List (List Char) → List Char}
  {reclaimOk : PeerTaskMetadata → Bool}

open Dragonfly.Daemon.StorageManager.Manager

/-- What a call does to the manager: `RegisterTask`; a method of one store that keeps its mark;
`FindCompletedTask`; or `TryGC`. -/
theorem apply_cases (opt : StorageOption) (sha256 : List (List Char) → List Char)
    (reclaimOk : PeerTaskMetadata → Bool) (op : Op) (m : Manager) :
    (∃ now req, apply opt sha256 reclaimOk op m = m.registerTask now req) ∨
    (∃ key f, (∀ e, (f e).reclaimMarked = e.reclaimMarked) ∧
      apply opt sha256 reclaimOk op m = m.modifyTask key f) ∨
    (∃ now taskID, apply opt sha256 reclaimOk op m = (m.findCompletedTask now taskID).1) ∨
    (∃ now usage, op = .tryGC now usage ∧
      apply opt sha256 reclaimOk op m = m.tryGC opt reclaimOk now usage) := by
  cases op with
  | registerTask now req => exact .inl ⟨now, req, rfl⟩
  | writePiece now key => exact .inr (.inl ⟨key, fun e => e.touch now, fun _ => rfl, rfl⟩)
  | readPiece now key =>
    exact .inr (.inl ⟨key, fun e => if e.store.invalid then e else e.touch now,
      fun e => by dsimp only; split <;> rfl, rfl⟩)
  | updateTask now key contentLength totalPieces pieceMd5Sign =>
    exact .inr (.inl ⟨key, fun e => { e.touch now with
      store := e.store.updateTask contentLength totalPieces pieceMd5Sign }, fun _ => rfl, rfl⟩)
  | store now key totalPieces =>
    exact .inr (.inl ⟨key, fun e => { e with
      store := e.store.store totalPieces
      done := true
      lastAccess := now }, fun _ => rfl, rfl⟩)
  | validateDigest key =>
    exact .inr (.inl ⟨key, fun e => { e with store := (e.store.validateDigest sha256).1 },
      fun _ => rfl, rfl⟩)
  | findCompletedTask now taskID => exact .inr (.inr (.inl ⟨now, taskID, rfl⟩))
  | tryGC now usage => exact .inr (.inr (.inr ⟨now, usage, rfl, rfl⟩))

/-- A call other than `TryGC` keeps every store's mark and the marked keys; only
`RegisterTask` adds a store, unmarked. -/
theorem apply_of_not_tryGC (opt : StorageOption) (sha256 : List (List Char) → List Char)
    (reclaimOk : PeerTaskMetadata → Bool) {op : Op} (hop : op.isTryGC = false) (m : Manager) :
    m.marks ⊆ (apply opt sha256 reclaimOk op m).marks ∧
      (apply opt sha256 reclaimOk op m).markedReclaimTasks = m.markedReclaimTasks := by
  rcases apply_cases opt sha256 reclaimOk op m with
    ⟨now, req, h⟩ | ⟨key, f, hf, h⟩ | ⟨now, taskID, h⟩ | ⟨now, usage, rfl, -⟩
  · rw [h, marks_registerTask, markedReclaimTasks_registerTask]
    split_ifs
    · exact ⟨List.Subset.refl _, rfl⟩
    · exact ⟨List.subset_append_left _ _, rfl⟩
  · rw [h, marks_modifyTask hf]
    exact ⟨List.Subset.refl _, rfl⟩
  · rw [h, marks_findCompletedTask]
    exact ⟨List.Subset.refl _, rfl⟩
  · simp [Op.isTryGC] at hop

/-- Every call keeps the bookkeeping when every reclaim succeeds. -/
theorem Inv.step (hok : ∀ k, reclaimOk k = true) {op : Op} {m m' : Manager} (hinv : Inv m)
    (h : step opt sha256 reclaimOk op m = some m') : Inv m' := by
  cases h
  rcases apply_cases opt sha256 reclaimOk op m with
    ⟨now, req, h⟩ | ⟨key, f, hf, h⟩ | ⟨now, taskID, h⟩ | ⟨now, usage, -, h⟩
  · rw [h]
    exact hinv.registerTask now req
  · rw [h]
    exact hinv.of_marks (marks_modifyTask hf) rfl
  · rw [h]
    exact hinv.of_marks (marks_findCompletedTask now taskID) rfl
  · rw [h]
    exact hinv.tryGC hok

/-- The bookkeeping holds at every state a manager reloaded from distinct stores reaches when
every reclaim succeeds. -/
theorem inv_of_reachable (hok : ∀ k, reclaimOk k = true) {now₀ : ℕ}
    {stores : List (PeerTaskMetadata × TaskStore × Bool)} (hkeys : (stores.map Prod.fst).Nodup)
    {m : Manager} (hreach : Reachable (step opt sha256 reclaimOk) (reloaded now₀ stores) m) :
    Inv m :=
  Reachable.invariant (inv_reloaded now₀ hkeys) (fun _ _ _ hinv h => Inv.step hok hinv h) hreach

/-- A collector with a quota of 10 bytes, a 100 ns expire time and a 60 ns `gcInterval`. -/
def quotaOption : StorageOption := ⟨100, 10, 0, 60⟩

/-- The key of peer `p`'s store of task `t`. -/
def peerP : PeerTaskMetadata := ⟨['p'], ['t']⟩

/-- Peer `p`'s store registered with 6 bytes at time 0 and stored at time 1. -/
def storedP : Manager :=
  ((Manager.reloaded 0 []).registerTask 0 ⟨peerP, 6, 1, []⟩).store 1 peerP 1

/-- With a percentage point of disk usage over the threshold, the quota part marks every
candidate: it asks for the whole disk, more than all the stores hold. -/
theorem mem_quotaKeys_of_usage {opt : StorageOption} {now : ℕ} {u : DiskUsage} {m : Manager}
    (hpct : 0 < opt.diskGCThresholdPercent)
    (hover : opt.diskGCThresholdPercent + 1 ≤ u.usedPercent)
    (hsize : ∀ p ∈ m.tasks, 0 ≤ p.2.size) (hfit : (m.tasks.map fun p => p.2.size).sum < u.total)
    {p : PeerTaskMetadata × StoreEntry}
    (hp : p ∈ gcCandidates opt.gcInterval now
      (markWhere (fun p => p.2.canReclaim opt.taskExpireTime now) m.tasks)) :
    p.1 ∈ m.quotaKeys opt now (some u) := by
  set cands := gcCandidates opt.gcInterval now
    (markWhere (fun p => p.2.canReclaim opt.taskExpireTime now) m.tasks) with hcands
  have hperm := sortByAccess_perm cands
  -- the candidates hold no more than all the stores, and nothing negative
  have hnonneg : ∀ q ∈ markWhere (fun p => p.2.canReclaim opt.taskExpireTime now) m.tasks,
      0 ≤ q.2.size := by
    intro q hq
    obtain ⟨r, hr, rfl⟩ := mem_markWhere.mp hq
    split_ifs <;> exact hsize r hr
  have hsorted : ∀ q ∈ sortByAccess cands, 0 ≤ q.2.size :=
    fun q hq => hnonneg q (mem_gcCandidates.mp (hperm.mem_iff.mp hq)).1
  have hsum : ((sortByAccess cands).map fun q => q.2.size).sum ≤
      (m.tasks.map fun p => p.2.size).sum := by
    rw [← map_size_markWhere (P := fun p => p.2.canReclaim opt.taskExpireTime now) (l := m.tasks)]
    exact sum_size_sortByAccess_le opt.gcInterval now hnonneg
  have hbytes := total_le_diskUsageExceed hover
  have hle : opt.diskGCThresholdPercent ≤ u.usedPercent := by linarith
  simp only [quotaKeys, quotaMarks, markExpired_fst, diskUsageExceed_of_le hpct hle, or_true,
    if_true]
  rw [← hcands]
  -- whichever excess is larger, it is more than the candidates hold
  have hall : ∀ b, ⌊(u.usedPercent - opt.diskGCThresholdPercent) * u.total⌋ ≤ b →
      p.1 ∈ markOldest b (sortByAccess cands) := by
    intro b hb
    rw [markOldest_of_sum_lt hsorted (by linarith)]
    exact List.mem_map.mpr ⟨p, hperm.mem_iff.mpr hp, rfl⟩
  split_ifs with hlt
  · exact hall _ hlt.le
  · exact hall _ le_rfl

/-- `diskUsageExceed` asks for the difference of two percentages times the disk's size, a
hundred times the bytes over the threshold. On a disk a percentage point over a positive
threshold, holding stores of sizes that add up to less than the disk, a `TryGC` leaves every
store it does not delete marked, except those not done and accessed within `gcInterval`: the
next `TryGC` deletes them all. -/
theorem tryGC_usage_marks_every_candidate (opt : StorageOption)
    (reclaimOk : PeerTaskMetadata → Bool) (now : ℕ) (u : DiskUsage) (m : Manager)
    (hpct : 0 < opt.diskGCThresholdPercent)
    (hover : opt.diskGCThresholdPercent + 1 ≤ u.usedPercent)
    (hsize : ∀ p ∈ m.tasks, 0 ≤ p.2.size) (hfit : (m.tasks.map fun p => p.2.size).sum < u.total) :
    ∀ p ∈ (m.tryGC opt reclaimOk now (some u)).tasks, p.2.reclaimMarked = true ∨
      (p.2.done = false ∧ (now : ℤ) - p.2.lastAccess < opt.gcInterval) := by
  intro p hp
  rw [tryGC_tasks] at hp
  obtain ⟨q, hq, rfl⟩ := mem_markWhere.mp (List.mem_filter.mp hp).1
  by_cases hR : m.tryGCMarks opt now (some u) q = true
  · left
    rw [if_pos hR]
    rfl
  rw [if_neg hR]
  simp only [tryGCMarks, Bool.or_eq_true, decide_eq_true_eq, not_or] at hR
  obtain ⟨hcan, hkey⟩ := hR
  by_cases hm : q.2.reclaimMarked = true
  · exact .inl hm
  right
  -- a store the quota part may mark is a candidate, and every candidate is marked
  by_contra hnot
  refine hkey (mem_quotaKeys_of_usage hpct hover hsize hfit (mem_gcCandidates.mpr
    ⟨mem_markWhere.mpr ⟨q, hq, if_neg hcan⟩, by simpa using hm, ?_⟩))
  by_cases hd : q.2.done = true
  · exact .inl hd
  · exact .inr (not_lt.mp fun hlt => hnot ⟨by simpa using hd, hlt⟩)

/-- The key of peer `q`'s store of task `t`. -/
def peerQ : PeerTaskMetadata := ⟨['q'], ['t']⟩

/-- A collector with no quota, an 80% disk threshold and a 100 ns expire time. -/
def usageOption : StorageOption := ⟨100, 0, 80, 60⟩

/-- Peer `p`'s 600-byte store stored at time 0 and peer `q`'s 300-byte store at time 1. -/
def twoStored : Manager :=
  ((((Manager.reloaded 0 []).registerTask 0 ⟨peerP, 600, 1, []⟩).store 0 peerP 1).registerTask 1
    ⟨peerQ, 300, 1, []⟩).store 1 peerQ 1

theorem tryGC_usage_marks_every_candidate_one_point :
    (twoStored.tryGC usageOption (fun _ => true) 2 (some ⟨1000, 81⟩)).tasks.all
      (fun p => p.2.reclaimMarked || (!p.2.done && decide ((2 : ℤ) - p.2.lastAccess < 60))) =
        true :=
  List.all_eq_true.mpr fun p hp => by
    rcases tryGC_usage_marks_every_candidate usageOption (fun _ => true) 2 ⟨1000, 81⟩ twoStored
      (by norm_num [usageOption]) (by norm_num [usageOption]) (by decide) (by decide) p hp with
      h | ⟨h₁, h₂⟩
    · simp [h]
    · simp only [h₁, Bool.not_false, Bool.true_and, Bool.or_eq_true, decide_eq_true_eq]
      exact .inr (by simpa [usageOption] using h₂)

-- one point over 80% of 1000 bytes is 10 bytes over, and both stores are marked
example : (twoStored.tryGC usageOption (fun _ => true) 2 (some ⟨1000, 81⟩)).marks =
    [(peerP, true), (peerQ, true)] := by
  decide +kernel

/-- Peer `p`'s 12-byte store marked by a collection at time 1, then peer `q`'s 6-byte store
registered and stored at time 2. -/
def markedP : Manager :=
  (((((Manager.reloaded 0 []).registerTask 0 ⟨peerP, 12, 1, []⟩).store 0 peerP 1).tryGC
    quotaOption (fun _ => true) 1 none).registerTask 2 ⟨peerQ, 6, 1, []⟩).store 2 peerQ 1

example : markedP.marks = [(peerP, true), (peerQ, false)] := by decide

end Runs

end Dragonfly.Daemon.StorageManager
