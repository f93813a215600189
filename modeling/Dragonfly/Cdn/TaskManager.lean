import Dragonfly.Daemon.BackSource
import Dragonfly.Pkg.Idgen
import Dragonfly.Base.Interleave

/-!
# The CDN task manager

`cdn/supervisor/task/manager.go`. `AddOrUpdate` (`manager.go:104`) registers a `SeedTask`
that `NewSeedTask` (`task.go:104`) has just built: it refuses a task ID whose URL was found
unreachable less than `FailAccessInterval` ago, stores the object under its ID unless an equal
one is stored (`LoadOrStore`, `IsSame`), and, while the stored object's length is unknown, asks
the source for it (`GetContentLength`) and computes the piece geometry.

The manager is a state: its three `sync.Map`s and the `SeedTask` objects they point to, a
pointer being the index of its object. Two facts of the source decide the results.

* The geometry is computed from `registerTask.SourceFileLength` after the length is written to
  `seedTask`; the two are one object only when the registration stored it. An equal task
  registered again while the stored one's length is unknown (its first probe failed) gets
  `TotalPieceCount` from the unknown length, `0` pieces (`addOrUpdate_retry_counts_no_pieces`).
* `taskURLUnreachableStore` is keyed by `interface{}`: the failure path stores the `*SeedTask`
  pointer, while `getTaskUnreachableTime` and `deleteTask` use the ID string. No reachable
  manager holds an ID key, so the back-off never applies
  (`unreachable_backoff_never_applies`).

The calls run one after the other: the read-locked and the write-locked sections of one call
are not interleaved with another call. Times are naturals and `time.Since(t)` is `now - t`.
The source's answer to `GetContentLength` is the argument `probe`.
-/

namespace Dragonfly.Cdn.Task

open Dragonfly.Base.Interleave Dragonfly.Base.GoText

/-- The fields of `task.SeedTask` (`task.go:32–100`) that the manager reads and writes. -/
structure SeedTask where
  id : List Char
  rawURL : List Char
  taskURL : List Char
  sourceFileLength : Int64
  pieceSize : Int32
  totalPieceCount : Int32
  digest : List Char
  tag : List Char
  range : List Char
  filter : List Char
  header : Option (List (List Char × List Char))
  deriving DecidableEq, Repr

/-- `source.UnknownSourceFileLen` (`source_client.go:87`). -/
def unknownSourceFileLen : Int64 := -2

/-- `UnknownTotalPieceCount` (`task.go:101`). -/
def unknownTotalPieceCount : Int32 := -1

/-- `NewSeedTask` (`task.go:104`) for a request whose `UrlMeta` has these fields, with the
query filter of `FilterURLParam` as `filterQuery`. -/
def newSeedTask (filterQuery : List Char → List (List Char) → List Char)
    (taskID rawURL digest tag range filter : List Char)
    (header : Option (List (List Char × List Char))) : SeedTask where
  id := taskID
  rawURL := rawURL
  taskURL := Idgen.filterURLParam filterQuery rawURL (filter.splitOn '&')
  sourceFileLength := unknownSourceFileLen
  pieceSize := 0
  totalPieceCount := unknownTotalPieceCount
  digest := digest
  tag := tag
  range := range
  filter := filter
  header := header

/-- `int32((length + (int64(pieceSize) - 1)) / int64(pieceSize))` (`manager.go:162`), the
piece count of `AddOrUpdate` in `int64` arithmetic. -/
def totalPieceCountOf (length : Int64) (pieceSize : UInt32) : Int32 :=
  ((length + (pieceSize.toUInt64.toInt64 - 1)) / pieceSize.toUInt64.toInt64).toInt32

/-- The unknown length gets the default piece size. -/
theorem computePieceSize_unknown :
    Daemon.computePieceSize unknownSourceFileLen = Daemon.defaultPieceSize := by
  decide

/-- The unknown length `-2` counts no pieces of the default size. -/
theorem totalPieceCountOf_unknown :
    totalPieceCountOf unknownSourceFileLen Daemon.defaultPieceSize = 0 := by
  decide

/-- Of a length below `2^62` the count is the ceiling of the quotient, as `int32`. -/
theorem totalPieceCountOf_ofNat {L : ℕ} {pieceSize : UInt32} (hL : L < 2 ^ 62)
    (hps : 0 < pieceSize.toNat) :
    totalPieceCountOf (Int64.ofNat L) pieceSize = Daemon.pieceCount (Int64.ofNat L) pieceSize := by
  have hps32 : pieceSize.toNat < 2 ^ 32 := pieceSize.toNat_lt
  have hnum : Int64.ofNat L + (Int64.ofNat pieceSize.toNat - 1) =
      Int64.ofNat (L + pieceSize.toNat - 1) := by
    rw [show (1 : Int64) = Int64.ofNat 1 from rfl, ← Int64.ofNat_sub _ _ hps, ← Int64.ofNat_add]
    congr 1
    omega
  rw [totalPieceCountOf, UInt32.toUInt64_toInt64_eq, hnum,
    ← Int64.ofNat_div (by omega) (by omega), Int64.toInt32_ofNat', Daemon.pieceCount,
    Int64.toInt_ofNat_of_lt (by omega), Int.toNat_natCast]

/-- `IsSame` (`manager_util.go:105`) of the objects at two pointers. -/
def isSame (p₁ : ℕ) (t₁ : SeedTask) (p₂ : ℕ) (t₂ : SeedTask) : Bool :=
  decide (p₁ = p₂) || decide (t₁.id = t₂.id ∧ t₁.taskURL = t₂.taskURL ∧ t₁.range = t₂.range ∧
    t₁.tag = t₂.tag ∧ t₁.digest = t₂.digest ∧ t₁.filter = t₂.filter)

/-- The errors of building the length request (`source.NewRequestWithHeader`) and of
`source.GetContentLength`. -/
inductive SourceError where
  | request
  /-- `source.ErrResourceNotReachable`. -/
  | notReachable
  | other
  deriving DecidableEq, Repr

/-- The errors of `AddOrUpdate`: `errURLUnreachable`, `errTaskIDConflict` and the source's. -/
inductive AddError where
  | urlUnreachable
  | taskIDConflict
  | source (e : SourceError)
  deriving DecidableEq, Repr

/-- A key of `taskURLUnreachableStore`, a `sync.Map` keyed by `interface{}`: a task ID string,
as its readers use, or a `*SeedTask` pointer, as its writer stores. -/
inductive UnreachableKey where
  | id (taskID : List Char)
  | task (ptr : ℕ)
  deriving DecidableEq, Repr

/-- The manager's maps (`manager.go:86–91`) and the `SeedTask` objects, by pointer. -/
structure Manager where
  objects : List SeedTask
  taskStore : List Char → Option ℕ
  accessTimeMap : List Char → Option ℕ
  taskURLUnreachableStore : UnreachableKey → Option ℕ

/-- A new manager. -/
def Manager.empty : Manager := ⟨[], fun _ => none, fun _ => none, fun _ => none⟩

/-- The durations of `task.Config` the manager reads, in seconds. -/
structure Config where
  expireTime : ℕ
  failAccessInterval : ℕ

/-- `DefaultExpireTime` and `DefaultFailAccessInterval` (`config.go:84,97`), 30 and 3 minutes. -/
def defaultConfig : Config := ⟨30 * 60, 3 * 60⟩

namespace Manager

variable (cfg : Config) (m : Manager)

/-- The new object `t`, at the next pointer. -/
def alloc (t : SeedTask) : Manager :=
  { m with objects := m.objects ++ [t] }

/-- `taskStore.LoadOrStore` storing the pointer `p` under `taskID`. -/
def storeTask (taskID : List Char) (p : ℕ) : Manager :=
  { m with taskStore := Function.update m.taskStore taskID (some p) }

/-- Write to the object at `p`. -/
def modifyObject (p : ℕ) (f : SeedTask → SeedTask) : Manager :=
  { m with objects := m.objects.modify p f }

/-- `getTaskUnreachableTime` (`manager_util.go:95`): a lookup by the task ID string. -/
def getTaskUnreachableTime (taskID : List Char) : Option ℕ :=
  m.taskURLUnreachableStore (.id taskID)

/-- The write-locked part of `AddOrUpdate` (`manager.go:129–167`) on the stored object
`seedPtr` for the registration `regPtr`. -/
def probeLength (seedPtr regPtr now : ℕ) (probe : Except SourceError Int64) :
    Manager × Except AddError ℕ :=
  match m.objects[seedPtr]?, m.objects[regPtr]? with
  | some seedTask, some registerTask =>
    if seedTask.sourceFileLength ≠ unknownSourceFileLen then (m, .ok seedPtr)
    else
      match probe with
      | .error .request => (m, .error (.source .request))
      | .error e =>
        -- `taskURLUnreachableStore.Store(registerTask, time.Now())`: keyed by the pointer
        let m₁ := if e = .notReachable then
            { m with taskURLUnreachableStore :=
                Function.update m.taskURLUnreachableStore (.task regPtr) (some now) }
          else m
        (m₁, .error (.source e))
      | .ok sourceFileLength =>
        let m₁ := m.modifyObject seedPtr fun t =>
          { t with
            sourceFileLength := sourceFileLength
            header := if registerTask.header.isSome then registerTask.header else t.header }
        -- `registerTask.SourceFileLength`, read after the write to `seedTask`
        let regLength := ((m₁.objects[regPtr]?).map SeedTask.sourceFileLength).getD 0
        let pieceSize := Daemon.computePieceSize regLength
        let m₂ := m₁.modifyObject seedPtr fun t => { t with pieceSize := pieceSize.toInt32 }
        let m₃ := if sourceFileLength > 0 then
            m₂.modifyObject seedPtr fun t =>
              { t with totalPieceCount := totalPieceCountOf regLength pieceSize }
          else m₂
        (m₃, .ok seedPtr)
  | _, _ => (m, .ok seedPtr)

/-- `AddOrUpdate` from `LoadOrStore` on (`manager.go:117–128`), for the registration at
`regPtr`. -/
def registerStored (regPtr now : ℕ) (probe : Except SourceError Int64) :
    Manager × Except AddError ℕ :=
  match m.objects[regPtr]? with
  | none => (m, .ok regPtr)
  | some registerTask =>
    let (m₁, seedPtr, loaded) :=
      match m.taskStore registerTask.id with
      | some p => (m, p, true)
      | none => (m.storeTask registerTask.id regPtr, regPtr, false)
    match m₁.objects[seedPtr]? with
    | none => (m₁, .ok seedPtr)
    | some seedTask =>
      if loaded ∧ !isSame seedPtr seedTask regPtr registerTask then (m₁, .error .taskIDConflict)
      else if seedTask.sourceFileLength ≠ unknownSourceFileLen then (m₁, .ok seedPtr)
      else m₁.probeLength seedPtr regPtr now probe

/-- The deferred function of `AddOrUpdate`: an error stores the access time. -/
def deferAccess (taskID : List Char) (now : ℕ) :
    Manager × Except AddError ℕ → Manager × Except AddError ℕ
  | (m, .error e) => ({ m with accessTimeMap := Function.update m.accessTimeMap taskID (some now) },
      .error e)
  | r => r

/-- `manager.AddOrUpdate` (`manager.go:104`) of the new object `registerTask` at time `now`:
the manager after the call and the pointer of the `seedTask` it returns. -/
def addOrUpdate (registerTask : SeedTask) (now : ℕ) (probe : Except SourceError Int64) :
    Manager × Except AddError ℕ :=
  let regPtr := m.objects.length
  let m₀ := m.alloc registerTask
  deferAccess registerTask.id now <|
    match m₀.getTaskUnreachableTime registerTask.id with
    | some unreachableTime =>
      if now - unreachableTime < cfg.failAccessInterval then (m₀, .error .urlUnreachable)
      else
        ({ m₀ with taskURLUnreachableStore :=
            Function.update m₀.taskURLUnreachableStore (.id registerTask.id) none } :
          Manager).registerStored regPtr now probe
    | none => m₀.registerStored regPtr now probe

/-- `manager.Get` (`manager.go:169`): a stored task has its access time touched. -/
def get (taskID : List Char) (now : ℕ) : Manager :=
  if (m.taskStore taskID).isSome then
    { m with accessTimeMap := Function.update m.accessTimeMap taskID (some now) }
  else m

/-- `deleteTask` (`manager_util.go:80`), which `Delete` and the GC call. -/
def deleteTask (taskID : List Char) : Manager :=
  { m with
    accessTimeMap := Function.update m.accessTimeMap taskID none
    taskURLUnreachableStore := Function.update m.taskURLUnreachableStore (.id taskID) none
    taskStore := Function.update m.taskStore taskID none }

/-- One entry of `manager.GC` (`manager.go:239–253`): a task not accessed for `ExpireTime` is
deleted. -/
def gcEntry (taskID : List Char) (now : ℕ) : Manager :=
  match m.accessTimeMap taskID with
  | some atime => if now - atime < cfg.expireTime then m else m.deleteTask taskID
  | none => m

end Manager

/-- The calls on the manager. -/
inductive ManagerOp where
  | addOrUpdate (registerTask : SeedTask) (now : ℕ) (probe : Except SourceError Int64)
  | get (taskID : List Char) (now : ℕ)
  | delete (taskID : List Char)
  | gcEntry (taskID : List Char) (now : ℕ)

/-- One call. -/
def managerStep (cfg : Config) : ManagerOp → Manager → Option Manager
  | .addOrUpdate t now probe, m => some (m.addOrUpdate cfg t now probe).1
  | .get taskID now, m => some (m.get taskID now)
  | .delete taskID, m => some (m.deleteTask taskID)
  | .gcEntry taskID now, m => some (m.gcEntry cfg taskID now)

namespace Manager

variable {cfg : Config} {m : Manager}

section Fields

variable (m)

@[simp] theorem alloc_objects (t : SeedTask) : (m.alloc t).objects = m.objects ++ [t] := rfl
@[simp] theorem alloc_taskStore (t : SeedTask) : (m.alloc t).taskStore = m.taskStore := rfl
@[simp] theorem alloc_taskURLUnreachableStore (t : SeedTask) :
    (m.alloc t).taskURLUnreachableStore = m.taskURLUnreachableStore := rfl

@[simp] theorem storeTask_objects (taskID : List Char) (p : ℕ) :
    (m.storeTask taskID p).objects = m.objects := rfl
@[simp] theorem storeTask_taskStore (taskID : List Char) (p : ℕ) :
    (m.storeTask taskID p).taskStore = Function.update m.taskStore taskID (some p) := rfl
@[simp] theorem storeTask_taskURLUnreachableStore (taskID : List Char) (p : ℕ) :
    (m.storeTask taskID p).taskURLUnreachableStore = m.taskURLUnreachableStore := rfl

@[simp] theorem modifyObject_objects (p : ℕ) (f : SeedTask → SeedTask) :
    (m.modifyObject p f).objects = m.objects.modify p f := rfl
@[simp] theorem modifyObject_taskStore (p : ℕ) (f : SeedTask → SeedTask) :
    (m.modifyObject p f).taskStore = m.taskStore := rfl
@[simp] theorem modifyObject_taskURLUnreachableStore (p : ℕ) (f : SeedTask → SeedTask) :
    (m.modifyObject p f).taskURLUnreachableStore = m.taskURLUnreachableStore := rfl

end Fields

/-- The deferred store of the access time changes neither the result nor the objects and the
two other maps. -/
theorem deferAccess_frame (taskID : List Char) (now : ℕ) (r : Manager × Except AddError ℕ) :
    (deferAccess taskID now r).2 = r.2 ∧ (deferAccess taskID now r).1.objects = r.1.objects ∧
      (deferAccess taskID now r).1.taskStore = r.1.taskStore ∧
      (deferAccess taskID now r).1.taskURLUnreachableStore = r.1.taskURLUnreachableStore := by
  obtain ⟨m, _ | p⟩ := r <;> exact ⟨rfl, rfl, rfl, rfl⟩

@[simp] theorem deferAccess_ok (taskID : List Char) (now p : ℕ) :
    deferAccess taskID now (m, .ok p) = (m, .ok p) := rfl

/-- The write-locked section stores nothing in `taskStore`, keeps the number of objects,
writes `taskURLUnreachableStore` only under a pointer key, and never answers
`errURLUnreachable`. -/
theorem probeLength_frame (seedPtr regPtr now : ℕ) (probe : Except SourceError Int64) :
    (m.probeLength seedPtr regPtr now probe).1.taskStore = m.taskStore ∧
      (m.probeLength seedPtr regPtr now probe).1.objects.length = m.objects.length ∧
      (∀ taskID, (m.probeLength seedPtr regPtr now probe).1.taskURLUnreachableStore (.id taskID) =
        m.taskURLUnreachableStore (.id taskID)) ∧
      (m.probeLength seedPtr regPtr now probe).2 ≠ .error .urlUnreachable := by
  unfold probeLength
  split
  · split
    · exact ⟨rfl, rfl, fun _ => rfl, by simp⟩
    · split
      · exact ⟨rfl, rfl, fun _ => rfl, by simp⟩
      · split <;> simp
      · dsimp only
        split_ifs <;> simp
  · exact ⟨rfl, rfl, fun _ => rfl, by simp⟩

section Probe

variable {seedPtr regPtr : ℕ} (now : ℕ) {seedTask registerTask : SeedTask}
  (hs : m.objects[seedPtr]? = some seedTask) (hr : m.objects[regPtr]? = some registerTask)
  (hunk : seedTask.sourceFileLength = unknownSourceFileLen)
include hs hr hunk

/-- A failed probe returns its error and writes no object. -/
theorem probeLength_error (e : SourceError) :
    (m.probeLength seedPtr regPtr now (.error e)).2 = .error (.source e) ∧
      (m.probeLength seedPtr regPtr now (.error e)).1.objects = m.objects := by
  unfold probeLength
  rw [hs, hr]
  cases e <;> simp [hunk]

/-- A probe of a positive length writes it to the stored object, with the geometry of the
length that the registered object holds after the write: the probed one when the two are one
object, its own unknown one otherwise. -/
theorem probeLength_ok {L : Int64} (hL : 0 < L) :
    ∃ s, (m.probeLength seedPtr regPtr now (.ok L)).2 = .ok seedPtr ∧
      (m.probeLength seedPtr regPtr now (.ok L)).1.objects[seedPtr]? = some s ∧
      s.sourceFileLength = L ∧
      s.pieceSize = (Daemon.computePieceSize
        (if seedPtr = regPtr then L else registerTask.sourceFileLength)).toInt32 ∧
      s.totalPieceCount = totalPieceCountOf
        (if seedPtr = regPtr then L else registerTask.sourceFileLength)
        (Daemon.computePieceSize
          (if seedPtr = regPtr then L else registerTask.sourceFileLength)) := by
  unfold probeLength
  rw [hs, hr]
  by_cases heq : seedPtr = regPtr
  · subst heq
    simp [hunk, hL, hs]
  · simp [hunk, hL, hs, hr, heq]

end Probe

section Register

variable {regPtr now : ℕ} {probe : Except SourceError Int64} {registerTask : SeedTask}

/-- A registration whose ID is not stored stores its own object and, its length being
unknown, probes with the stored and the registered object one. -/
theorem registerStored_fresh (hr : m.objects[regPtr]? = some registerTask)
    (hfresh : m.taskStore registerTask.id = none)
    (hunk : registerTask.sourceFileLength = unknownSourceFileLen) :
    m.registerStored regPtr now probe =
      (m.storeTask registerTask.id regPtr).probeLength regPtr regPtr now probe := by
  unfold registerStored
  simp [hr, hfresh, hunk]

/-- A registration of an ID whose stored object is the same task of unknown length probes for
the stored object. -/
theorem registerStored_loaded {p : ℕ} {seedTask : SeedTask}
    (hr : m.objects[regPtr]? = some registerTask) (hload : m.taskStore registerTask.id = some p)
    (hp : m.objects[p]? = some seedTask) (hsame : isSame p seedTask regPtr registerTask = true)
    (hunk : seedTask.sourceFileLength = unknownSourceFileLen) :
    m.registerStored regPtr now probe = m.probeLength p regPtr now probe := by
  unfold registerStored
  simp [hr, hload, hp, hsame, hunk]

/-- `LoadOrStore` and the sections after it write `taskURLUnreachableStore` only under a pointer
key and never answer `errURLUnreachable`. -/
theorem registerStored_frame :
    (∀ taskID, (m.registerStored regPtr now probe).1.taskURLUnreachableStore (.id taskID) =
        m.taskURLUnreachableStore (.id taskID)) ∧
      (m.registerStored regPtr now probe).2 ≠ .error .urlUnreachable := by
  have hprobe := fun (m₁ : Manager) (p : ℕ) => probeLength_frame (m := m₁) p regPtr now probe
  unfold registerStored
  cases hr : m.objects[regPtr]? with
  | none => exact ⟨fun _ => rfl, by simp⟩
  | some registerTask =>
    -- `m₁` is `m`, or `m` with the registration stored: its ID keys are those of `m`
    dsimp only
    cases hload : m.taskStore registerTask.id with
    | none =>
      dsimp only
      cases hp : (m.storeTask registerTask.id regPtr).objects[regPtr]? with
      | none => exact ⟨fun _ => rfl, by simp⟩
      | some seedTask =>
        dsimp only
        rw [if_neg (by simp)]
        split_ifs
        · exact ⟨fun _ => rfl, by simp⟩
        · exact ⟨(hprobe _ regPtr).2.2.1, (hprobe _ regPtr).2.2.2⟩
    | some p =>
      dsimp only
      cases hp : m.objects[p]? with
      | none => exact ⟨fun _ => rfl, by simp⟩
      | some seedTask =>
        dsimp only
        split_ifs
        · exact ⟨fun _ => rfl, by simp⟩
        · exact ⟨fun _ => rfl, by simp⟩
        · exact ⟨(hprobe m p).2.2.1, (hprobe m p).2.2.2⟩

end Register

/-- With no entry for its ID, `AddOrUpdate` skips the back-off and registers. -/
theorem addOrUpdate_eq {t : SeedTask} {now : ℕ} {probe : Except SourceError Int64}
    (h : m.getTaskUnreachableTime t.id = none) :
    m.addOrUpdate cfg t now probe =
      deferAccess t.id now ((m.alloc t).registerStored m.objects.length now probe) := by
  have h₀ : (m.alloc t).getTaskUnreachableTime t.id = none := h
  simp only [addOrUpdate, h₀]

/-- `IsSame` of two distinct objects compares their IDs. -/
theorem isSame_id {p₁ p₂ : ℕ} {t₁ t₂ : SeedTask} (h : isSame p₁ t₁ p₂ t₂ = true)
    (hne : p₁ ≠ p₂) : t₁.id = t₂.id := by
  simp only [isSame, Bool.or_eq_true, decide_eq_true_eq] at h
  rcases h with h | h
  · exact absurd h hne
  · exact h.1

section Calls

variable (cfg) {t : SeedTask} (now : ℕ)

/-- The first registration of an ID of unknown length whose probe fails stores the object
and returns the error. -/
theorem addOrUpdate_fresh_error (h : m.getTaskUnreachableTime t.id = none)
    (hfresh : m.taskStore t.id = none) (hunk : t.sourceFileLength = unknownSourceFileLen)
    (e : SourceError) :
    (m.addOrUpdate cfg t now (.error e)).2 = .error (.source e) ∧
      (m.addOrUpdate cfg t now (.error e)).1.objects = m.objects ++ [t] ∧
      (m.addOrUpdate cfg t now (.error e)).1.taskStore t.id = some m.objects.length := by
  have hr : (m.alloc t).objects[m.objects.length]? = some t := by simp
  have hr' : ((m.alloc t).storeTask t.id m.objects.length).objects[m.objects.length]? = some t :=
    hr
  have hprobe := probeLength_error now hr' hr' hunk e
  rw [addOrUpdate_eq h, registerStored_fresh hr hfresh hunk]
  refine ⟨?_, ?_, ?_⟩
  · rw [(deferAccess_frame _ _ _).1, hprobe.1]
  · rw [(deferAccess_frame _ _ _).2.1, hprobe.2]
    rfl
  · rw [(deferAccess_frame _ _ _).2.2.1, (probeLength_frame _ _ _ _).1]
    simp

/-- The first registration of an ID of unknown length, with a positive probed length, writes
it to its own object with the geometry of that length. -/
theorem addOrUpdate_fresh_ok (h : m.getTaskUnreachableTime t.id = none)
    (hfresh : m.taskStore t.id = none) (hunk : t.sourceFileLength = unknownSourceFileLen)
    {L : Int64} (hL : 0 < L) :
    ∃ s, (m.addOrUpdate cfg t now (.ok L)).2 = .ok m.objects.length ∧
      (m.addOrUpdate cfg t now (.ok L)).1.objects[m.objects.length]? = some s ∧
      s.sourceFileLength = L ∧ s.pieceSize = (Daemon.computePieceSize L).toInt32 ∧
      s.totalPieceCount = totalPieceCountOf L (Daemon.computePieceSize L) := by
  have hr : (m.alloc t).objects[m.objects.length]? = some t := by simp
  have hr' : ((m.alloc t).storeTask t.id m.objects.length).objects[m.objects.length]? = some t :=
    hr
  obtain ⟨s, hres, hobj, hlen, hsize, hcount⟩ := probeLength_ok now hr' hr' hunk hL
  rw [if_pos rfl] at hsize hcount
  rw [addOrUpdate_eq h, registerStored_fresh hr hfresh hunk]
  refine ⟨s, ?_, ?_, hlen, hsize, hcount⟩
  · rw [(deferAccess_frame _ _ _).1, hres]
  · rw [(deferAccess_frame _ _ _).2.1, hobj]

/-- A registration of a stored ID whose object is the same task of unknown length, with a
positive probed length, writes it to the stored object with the geometry of the registered
object's own length. -/
theorem addOrUpdate_loaded_ok (h : m.getTaskUnreachableTime t.id = none) {p : ℕ}
    {seedTask : SeedTask} (hload : m.taskStore t.id = some p) (hp : m.objects[p]? = some seedTask)
    (hsame : isSame p seedTask m.objects.length t = true)
    (hunk : seedTask.sourceFileLength = unknownSourceFileLen) {L : Int64} (hL : 0 < L) :
    ∃ s, (m.addOrUpdate cfg t now (.ok L)).2 = .ok p ∧
      (m.addOrUpdate cfg t now (.ok L)).1.objects[p]? = some s ∧ s.sourceFileLength = L ∧
      s.pieceSize = (Daemon.computePieceSize t.sourceFileLength).toInt32 ∧
      s.totalPieceCount =
        totalPieceCountOf t.sourceFileLength (Daemon.computePieceSize t.sourceFileLength) := by
  have hlt : p < m.objects.length := (List.getElem?_eq_some_iff.mp hp).1
  have hp' : (m.alloc t).objects[p]? = some seedTask := by
    simp [List.getElem?_append_left hlt, hp]
  have hr : (m.alloc t).objects[m.objects.length]? = some t := by simp
  obtain ⟨s, hres, hobj, hlen, hsize, hcount⟩ := probeLength_ok now hp' hr hunk hL
  rw [if_neg (Nat.ne_of_lt hlt)] at hsize hcount
  rw [addOrUpdate_eq h, registerStored_loaded hr hload hp' hsame hunk]
  refine ⟨s, ?_, ?_, hlen, hsize, hcount⟩
  · rw [(deferAccess_frame _ _ _).1, hres]
  · rw [(deferAccess_frame _ _ _).2.1, hobj]

end Calls

/-- No entry of `taskURLUnreachableStore` is under a task ID. -/
def NoIdKeys (m : Manager) : Prop :=
  ∀ taskID, m.getTaskUnreachableTime taskID = none

theorem NoIdKeys.addOrUpdate (h : NoIdKeys m) (t : SeedTask) (now : ℕ)
    (probe : Except SourceError Int64) : NoIdKeys (m.addOrUpdate cfg t now probe).1 := by
  intro taskID
  rw [addOrUpdate_eq (h t.id), getTaskUnreachableTime, (deferAccess_frame _ _ _).2.2.2,
    registerStored_frame.1]
  exact h taskID

theorem NoIdKeys.deleteTask (h : NoIdKeys m) (taskID : List Char) : NoIdKeys (m.deleteTask taskID) := by
  intro k
  by_cases hk : k = taskID
  · simp [getTaskUnreachableTime, Manager.deleteTask, hk]
  · simpa [getTaskUnreachableTime, Manager.deleteTask, hk] using h k

theorem NoIdKeys.step (h : NoIdKeys m) {op : ManagerOp} {m' : Manager}
    (hstep : managerStep cfg op m = some m') : NoIdKeys m' := by
  cases op with
  | addOrUpdate t now probe =>
    cases hstep
    exact h.addOrUpdate t now probe
  | get taskID now =>
    cases hstep
    unfold get
    split_ifs
    · exact h
    · exact h
  | delete taskID =>
    cases hstep
    exact h.deleteTask taskID
  | gcEntry taskID now =>
    cases hstep
    unfold gcEntry
    split
    · split_ifs
      · exact h
      · exact h.deleteTask taskID
    · exact h

/-- No run stores an ID key: the only store is under the registration's pointer. -/
theorem noIdKeys_of_reachable (hm : Reachable (managerStep cfg) Manager.empty m) : NoIdKeys m :=
  Reachable.invariant (fun _ => rfl) (fun _ _ _ h hstep => h.step hstep) hm

end Manager

open Dragonfly.Cdn.Task.Manager

/-- In every reachable manager the back-off finds no entry for any task ID, and `AddOrUpdate`
never answers `errURLUnreachable`, whatever the times, the task and the source's answer: a
failure against an unreachable source is stored under the registration's pointer, which no
lookup reads. -/
theorem unreachable_backoff_never_applies {cfg : Config} {m : Manager}
    (hm : Reachable (managerStep cfg) Manager.empty m) (t : SeedTask) (now : ℕ)
    (probe : Except SourceError Int64) :
    m.getTaskUnreachableTime t.id = none ∧
      (m.addOrUpdate cfg t now probe).2 ≠ .error .urlUnreachable := by
  have h := noIdKeys_of_reachable hm t.id
  refine ⟨h, ?_⟩
  rw [addOrUpdate_eq h, (deferAccess_frame _ _ _).1]
  exact registerStored_frame.2

/-- A task as `NewSeedTask` builds it for a request with an empty `UrlMeta`. -/
def plainTask : SeedTask :=
  newSeedTask (fun s _ => s) "t".toList "http://a".toList [] [] [] [] none

/-- The first registration fails at time `0` against an unreachable source and is recorded
under pointer `0`; a second one a second later probes the source again and succeeds. -/
theorem unreachable_backoff_never_applies_after_failure :
    (Manager.empty.addOrUpdate defaultConfig plainTask 0 (.error .notReachable)).2 =
        .error (.source .notReachable) ∧
      (Manager.empty.addOrUpdate defaultConfig plainTask 0
        (.error .notReachable)).1.taskURLUnreachableStore (.task 0) = some 0 ∧
      ((Manager.empty.addOrUpdate defaultConfig plainTask 0
          (.error .notReachable)).1.getTaskUnreachableTime plainTask.id = none ∧
        ((Manager.empty.addOrUpdate defaultConfig plainTask 0 (.error .notReachable)).1.addOrUpdate
          defaultConfig plainTask 1 (.ok 10)).2 ≠ .error .urlUnreachable) ∧
      ((Manager.empty.addOrUpdate defaultConfig plainTask 0 (.error .notReachable)).1.addOrUpdate
          defaultConfig plainTask 1 (.ok 10)).2 = .ok 0 :=
  ⟨rfl, rfl,
    unreachable_backoff_never_applies
      (Relation.ReflTransGen.single ⟨.addOrUpdate plainTask 0 (.error .notReachable), rfl⟩) _ _ _,
    rfl⟩

/-- An equal task registered again after the first probe failed, whatever its error, gets the
geometry of the unknown length `-2` for any positive probed length: the default piece size
and no pieces, where `ComputePieceSize` and the ceiling of the length give at least one. -/
theorem addOrUpdate_retry_counts_no_pieces {cfg : Config} {m : Manager}
    (hm : Reachable (managerStep cfg) Manager.empty m) {t t' : SeedTask}
    (hfresh : m.taskStore t.id = none) (hunk : t.sourceFileLength = unknownSourceFileLen)
    (hunk' : t'.sourceFileLength = unknownSourceFileLen)
    (hsame : isSame m.objects.length t (m.objects.length + 1) t' = true) (e : SourceError)
    {L : Int64} (hL : 0 < L) (now₁ now₂ : ℕ) :
    (m.addOrUpdate cfg t now₁ (.error e)).2 = .error (.source e) ∧
      ∃ s, ((m.addOrUpdate cfg t now₁ (.error e)).1.addOrUpdate cfg t' now₂ (.ok L)).2 =
          .ok m.objects.length ∧
        ((m.addOrUpdate cfg t now₁ (.error e)).1.addOrUpdate cfg t' now₂
          (.ok L)).1.objects[m.objects.length]? = some s ∧
        s.sourceFileLength = L ∧ s.pieceSize = Daemon.defaultPieceSize.toInt32 ∧
        s.totalPieceCount = 0 := by
  obtain ⟨herr, hobjs, hstored⟩ :=
    addOrUpdate_fresh_error cfg now₁ (noIdKeys_of_reachable hm t.id) hfresh
      hunk e
  -- the first call is a step of the manager, so its result has no ID key either
  have hm₁ : Reachable (managerStep cfg) Manager.empty (m.addOrUpdate cfg t now₁ (.error e)).1 :=
    Relation.ReflTransGen.tail hm ⟨.addOrUpdate t now₁ (.error e), rfl⟩
  have hid : t.id = t'.id := isSame_id hsame (Nat.ne_of_lt (Nat.lt_succ_self _))
  have hp : (m.addOrUpdate cfg t now₁ (.error e)).1.objects[m.objects.length]? = some t := by
    simp [hobjs]
  have hlen : (m.addOrUpdate cfg t now₁ (.error e)).1.objects.length = m.objects.length + 1 := by
    simp [hobjs]
  rw [← hlen] at hsame
  obtain ⟨s, hres, hobj, hsrc, hsize, hcount⟩ :=
    addOrUpdate_loaded_ok cfg now₂ (noIdKeys_of_reachable hm₁ t'.id)
      (hid ▸ hstored) hp hsame hunk hL
  rw [hunk', computePieceSize_unknown] at hsize hcount
  rw [totalPieceCountOf_unknown] at hcount
  exact ⟨herr, s, hres, hobj, hsrc, hsize, hcount⟩

/-- The first registration of a task of unknown length gets the geometry of the probed length:
`ComputePieceSize` of it and the ceiling of the length over the piece size. -/
theorem addOrUpdate_fresh_geometry {cfg : Config} {m : Manager}
    (hm : Reachable (managerStep cfg) Manager.empty m) {t : SeedTask}
    (hfresh : m.taskStore t.id = none) (hunk : t.sourceFileLength = unknownSourceFileLen)
    {L : ℕ} (hL : 0 < L) (hL' : L < 2 ^ 62) (now : ℕ) :
    ∃ s, (m.addOrUpdate cfg t now (.ok (Int64.ofNat L))).2 = .ok m.objects.length ∧
      (m.addOrUpdate cfg t now (.ok (Int64.ofNat L))).1.objects[m.objects.length]? = some s ∧
      s.sourceFileLength = Int64.ofNat L ∧
      s.pieceSize = (Daemon.computePieceSize (Int64.ofNat L)).toInt32 ∧
      s.totalPieceCount =
        Daemon.pieceCount (Int64.ofNat L) (Daemon.computePieceSize (Int64.ofNat L)) := by
  have hpos : Int64.ofNat 0 < Int64.ofNat L :=
    (Int64.ofNat_lt_ofNat_iff (by omega) (by omega)).mpr hL
  obtain ⟨s, hres, hobj, hlen, hsize, hcount⟩ :=
    addOrUpdate_fresh_ok cfg now (noIdKeys_of_reachable hm t.id) hfresh hunk hpos
  have hps : 0 < (Daemon.computePieceSize (Int64.ofNat L)).toNat := by
    have := Daemon.computePieceSize_ge (L := L) (by omega)
    omega
  rw [totalPieceCountOf_ofNat hL' hps] at hcount
  exact ⟨s, hres, hobj, hlen, hsize, hcount⟩

/-- The first registration of a task of ten bytes. -/
theorem addOrUpdate_fresh_geometry_ten :
    0 < 10 ∧ 10 < 2 ^ 62 ∧
      ∃ s, (Manager.empty.addOrUpdate defaultConfig plainTask 0 (.ok (Int64.ofNat 10))).2 = .ok 0 ∧
        (Manager.empty.addOrUpdate defaultConfig plainTask 0
          (.ok (Int64.ofNat 10))).1.objects[0]? = some s ∧
        s.sourceFileLength = Int64.ofNat 10 ∧
        s.pieceSize = (Daemon.computePieceSize (Int64.ofNat 10)).toInt32 ∧
        s.totalPieceCount =
          Daemon.pieceCount (Int64.ofNat 10) (Daemon.computePieceSize (Int64.ofNat 10)) :=
  ⟨by decide, by decide,
    addOrUpdate_fresh_geometry Relation.ReflTransGen.refl rfl rfl (by decide) (by decide) 0⟩

/-- The retry after a failed probe, for a task of ten bytes. -/
theorem addOrUpdate_retry_counts_no_pieces_ten :
    (Manager.empty.addOrUpdate defaultConfig plainTask 0 (.error .other)).2 =
        .error (.source .other) ∧
      ∃ s, ((Manager.empty.addOrUpdate defaultConfig plainTask 0 (.error .other)).1.addOrUpdate
          defaultConfig plainTask 1 (.ok 10)).2 = .ok 0 ∧
        ((Manager.empty.addOrUpdate defaultConfig plainTask 0 (.error .other)).1.addOrUpdate
          defaultConfig plainTask 1 (.ok 10)).1.objects[0]? = some s ∧
        s.sourceFileLength = 10 ∧ s.pieceSize = Daemon.defaultPieceSize.toInt32 ∧
        s.totalPieceCount = 0 :=
  addOrUpdate_retry_counts_no_pieces Relation.ReflTransGen.refl rfl rfl rfl (by decide) .other
    (by decide) 0 1

end Dragonfly.Cdn.Task
