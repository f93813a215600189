import Dragonfly.Base.RWLock
import Dragonfly.Base.Interleave
import Dragonfly.Base.GoText

/-!
# The keyed lock pool

`LockerPool` (`pkg/synclock/key_locker.go`) gives every key its own reader/writer lock, a
`countRWMutex` (`count_rwmutex.go`) found in `lockerMap` under the pool's mutex. `Lock` takes
the key's object, or one from the `sync.Pool` that it stores under the key, raises its count,
and only then, with the pool mutex released, blocks in the object's lock. `UnLock` releases
the lock and lowers the count, and when the count drops to zero resets the object, puts it
back into the `sync.Pool` and deletes the key, all under the pool mutex.

Each section under the pool mutex is one atomic step of the thread that runs it, and so is
the return of a blocked `lock` once the lock lets the thread in. A thread's place in its
bracket of a key is its `Phase` for that key: a thread calls `Lock(key, rLock)` outside a
bracket of `key` and `UnLock(key, rLock)` on a key it holds for `rLock`. The objects live on a
heap of addresses, and `sync.Pool.Get` may return any cached object or a new one.

`Inv` says that every thread inside a bracket of a key uses the key's object, that the
object's count is the number of such threads and its lock is held by those past their
`Lock`, and that a cached object is reset and belongs to no key. Every step keeps it as long
as there are fewer than `2 ^ 31` threads, the range of the `atomic.Int32` count
(`lockerPool_safe`). With `2 ^ 31 + 2` threads the count wraps to zero while threads still
wait for the lock, the object is recycled under them, and a new writer takes a fresh object
while another writer holds the old one (`lockerPool_two_writers`).
-/

namespace Dragonfly.Pkg.Synclock

open Dragonfly.Base Dragonfly.Base.Interleave Dragonfly.Base.GoText

/-- A `countRWMutex` (`count_rwmutex.go:25`): its `sync.RWMutex` and its `atomic.Int32`
count. -/
structure CountRWMutex where
  rw : RWLock
  count : Int32
  deriving DecidableEq, Repr

/-- `newCountRWMutex` (`count_rwmutex.go:30`). -/
def newCountRWMutex : CountRWMutex := ⟨RWLock.free, 0⟩

namespace CountRWMutex

/-- `inc` (`count_rwmutex.go:40`). -/
def inc (cm : CountRWMutex) : CountRWMutex := { cm with count := cm.count + 1 }

/-- `dec` (`count_rwmutex.go:44`). -/
def dec (cm : CountRWMutex) : CountRWMutex := { cm with count := cm.count - 1 }

/-- `reset` (`count_rwmutex.go:36`): its compare-and-swap from the value just loaded always
succeeds, every write of the count being made under the pool mutex. -/
def reset (cm : CountRWMutex) : CountRWMutex := { cm with count := 0 }

/-- `lock` (`count_rwmutex.go:48`) once the lock lets the caller in; `none` while it blocks. -/
def lock (cm : CountRWMutex) (rLock : Bool) : Option CountRWMutex :=
  if cm.rw.canLock rLock then some { cm with rw := cm.rw.lock rLock } else none

/-- `unlock` (`count_rwmutex.go:56`); `none` for Go's fatal error on a lock not held. -/
def unlock (cm : CountRWMutex) (rLock : Bool) : Option CountRWMutex :=
  (cm.rw.unlock rLock).map fun rw => { cm with rw }

@[simp] theorem inc_rw (cm : CountRWMutex) : cm.inc.rw = cm.rw := rfl
@[simp] theorem inc_count (cm : CountRWMutex) : cm.inc.count = cm.count + 1 := rfl
@[simp] theorem dec_rw (cm : CountRWMutex) : cm.dec.rw = cm.rw := rfl
@[simp] theorem dec_count (cm : CountRWMutex) : cm.dec.count = cm.count - 1 := rfl
@[simp] theorem reset_rw (cm : CountRWMutex) : cm.reset.rw = cm.rw := rfl
@[simp] theorem reset_count (cm : CountRWMutex) : cm.reset.count = 0 := rfl

theorem lock_eq_some {cm cm' : CountRWMutex} {rLock : Bool} (h : cm.lock rLock = some cm') :
    cm.rw.canLock rLock = true ∧ cm' = { cm with rw := cm.rw.lock rLock } := by
  unfold lock at h
  split_ifs at h with hc
  exact ⟨hc, (Option.some.inj h).symm⟩

theorem unlock_of {cm : CountRWMutex} {rLock : Bool} {rw : RWLock}
    (h : cm.rw.unlock rLock = some rw) : cm.unlock rLock = some { cm with rw } := by
  simp [unlock, h]

end CountRWMutex

/-- Where a thread is in its bracket of one key. -/
inductive Phase where
  /-- Outside a bracket. -/
  | idle
  /-- Past the pool-mutex section of `Lock` with the object at `locker`, blocked in its
  `lock`. -/
  | waiting (rLock : Bool) (locker : ℕ)
  /-- Back from `Lock`: the thread holds the key, for reading if `rLock`. -/
  | holding (rLock : Bool) (locker : ℕ)
  deriving DecidableEq, Repr

namespace Phase

/-- The object a thread inside a bracket got from `Lock`. -/
def locker : Phase → Option ℕ
  | idle => none
  | waiting _ p => some p
  | holding _ p => some p

/-- What a thread holds the key for: reading (`some true`), writing, or nothing. -/
def held : Phase → Option Bool
  | holding rLock _ => some rLock
  | _ => none

@[simp] theorem locker_idle : idle.locker = none := rfl
@[simp] theorem locker_waiting (rLock : Bool) (p : ℕ) : (waiting rLock p).locker = some p := rfl
@[simp] theorem locker_holding (rLock : Bool) (p : ℕ) : (holding rLock p).locker = some p := rfl
@[simp] theorem held_idle : idle.held = none := rfl
@[simp] theorem held_waiting (rLock : Bool) (p : ℕ) : (waiting rLock p).held = none := rfl
@[simp] theorem held_holding (rLock : Bool) (p : ℕ) : (holding rLock p).held = some rLock := rfl

theorem locker_eq_none_iff {ph : Phase} : ph.locker = none ↔ ph = idle := by
  cases ph <;> simp

end Phase

/-- A `LockerPool` and its threads: `lockerMap`, the objects cached in the `syncPool`, the
heap of `countRWMutex` objects with `next` the first address never handed out, and each
thread's phase for each key. -/
structure State (κ τ : Type) where
  lockerMap : κ → Option ℕ
  syncPool : List ℕ
  heap : ℕ → CountRWMutex
  next : ℕ
  phase : κ → τ → Phase

/-- What `sync.Pool.Get` returns: a cached object, or a new one from `New`, which it may call
even with objects cached. -/
inductive PoolGet where
  | cached (p : ℕ)
  | new
  deriving DecidableEq, Repr

variable {κ τ : Type}

/-- `NewLockerPool` (`key_locker.go:35`), before any thread has called it. -/
def initial : State κ τ := ⟨fun _ => none, [], fun _ => newCountRWMutex, 0, fun _ _ => .idle⟩

namespace State

variable {s : State κ τ} {p : ℕ} {cm : CountRWMutex}

/-- A write of the object at `p`. -/
def write (s : State κ τ) (p : ℕ) (cm : CountRWMutex) : State κ τ :=
  { s with heap := Function.update s.heap p cm }

/-- `l.syncPool.Get()`: the object and the pool after it. -/
def poolGet (s : State κ τ) : PoolGet → Option (ℕ × State κ τ)
  | .cached p =>
    if p ∈ s.syncPool then some (p, { s with syncPool := s.syncPool.erase p }) else none
  | .new =>
    some (s.next,
      { s with heap := Function.update s.heap s.next newCountRWMutex, next := s.next + 1 })

@[simp] theorem write_lockerMap : (s.write p cm).lockerMap = s.lockerMap := rfl
@[simp] theorem write_syncPool : (s.write p cm).syncPool = s.syncPool := rfl
@[simp] theorem write_heap : (s.write p cm).heap = Function.update s.heap p cm := rfl
@[simp] theorem write_next : (s.write p cm).next = s.next := rfl
@[simp] theorem write_phase : (s.write p cm).phase = s.phase := rfl

section Keys

variable [DecidableEq κ] {key : κ}

/-- `l.lockerMap[key] = locker`. -/
def store (s : State κ τ) (key : κ) (locker : ℕ) : State κ τ :=
  { s with lockerMap := Function.update s.lockerMap key (some locker) }

/-- `locker.reset()`, `l.syncPool.Put(locker)` and `delete(l.lockerMap, key)`, with `cm` the
object as `dec` left it. -/
def recycle (s : State κ τ) (key : κ) (locker : ℕ) (cm : CountRWMutex) : State κ τ :=
  { s.write locker cm.reset with
    syncPool := locker :: s.syncPool
    lockerMap := Function.update s.lockerMap key none }

@[simp] theorem store_lockerMap :
    (s.store key p).lockerMap = Function.update s.lockerMap key (some p) := rfl
@[simp] theorem store_syncPool : (s.store key p).syncPool = s.syncPool := rfl
@[simp] theorem store_heap : (s.store key p).heap = s.heap := rfl
@[simp] theorem store_next : (s.store key p).next = s.next := rfl
@[simp] theorem store_phase : (s.store key p).phase = s.phase := rfl

@[simp] theorem recycle_lockerMap :
    (s.recycle key p cm).lockerMap = Function.update s.lockerMap key none := rfl
@[simp] theorem recycle_syncPool : (s.recycle key p cm).syncPool = p :: s.syncPool := rfl
@[simp] theorem recycle_heap : (s.recycle key p cm).heap = Function.update s.heap p cm.reset := rfl
@[simp] theorem recycle_next : (s.recycle key p cm).next = s.next := rfl
@[simp] theorem recycle_phase : (s.recycle key p cm).phase = s.phase := rfl

variable [DecidableEq τ] {key' : κ} {t : τ} {ph : Phase}

/-- Thread `t` moves to `ph` in its bracket of `key`. -/
def setPhase (s : State κ τ) (key : κ) (t : τ) (ph : Phase) : State κ τ :=
  { s with phase := Function.update s.phase key (Function.update (s.phase key) t ph) }

/-- `locker.inc()` for thread `t`, which goes on to `locker.lock(rLock)`. -/
def enter (s : State κ τ) (key : κ) (t : τ) (rLock : Bool) (locker : ℕ) : State κ τ :=
  (s.write locker (s.heap locker).inc).setPhase key t (.waiting rLock locker)

@[simp] theorem setPhase_lockerMap : (s.setPhase key t ph).lockerMap = s.lockerMap := rfl
@[simp] theorem setPhase_syncPool : (s.setPhase key t ph).syncPool = s.syncPool := rfl
@[simp] theorem setPhase_heap : (s.setPhase key t ph).heap = s.heap := rfl
@[simp] theorem setPhase_next : (s.setPhase key t ph).next = s.next := rfl

@[simp] theorem setPhase_phase_self :
    (s.setPhase key t ph).phase key = Function.update (s.phase key) t ph := by
  simp [setPhase]

@[simp] theorem setPhase_phase_of_ne (h : key' ≠ key) :
    (s.setPhase key t ph).phase key' = s.phase key' := by
  simp [setPhase, h]

end Keys

end State

section Model

variable [DecidableEq κ] [DecidableEq τ]

/-- The section of `Lock(key, rLock)` (`key_locker.go:55-62`) under the pool mutex, by a thread
`t` outside a bracket of `key`; `get` is what the `sync.Pool` returns if it is asked. -/
def lockEnter (s : State κ τ) (t : τ) (key : κ) (rLock : Bool) (get : PoolGet) :
    Option (State κ τ) :=
  if s.phase key t = .idle then
    match s.lockerMap key with
    | some locker => some (s.enter key t rLock locker)
    | none =>
      match s.poolGet get with
      | some (locker, s₁) => some ((s₁.store key locker).enter key t rLock locker)
      | none => none
  else none

/-- `locker.lock(rLock)` (`key_locker.go:64`) returning to thread `t` once the lock lets it
in. -/
def lockAcquire (s : State κ τ) (t : τ) (key : κ) : Option (State κ τ) :=
  match s.phase key t with
  | .waiting rLock locker =>
    match (s.heap locker).lock rLock with
    | some cm => some ((s.write locker cm).setPhase key t (.holding rLock locker))
    | none => none
  | _ => none

/-- `UnLock(key, rLock)` (`key_locker.go:67-83`), all under the pool mutex, by a thread `t`
that holds `key` for `rLock`; `none` on Go's fatal error for a lock that is not held. -/
def unLock (s : State κ τ) (t : τ) (key : κ) : Option (State κ τ) :=
  match s.phase key t with
  | .holding rLock _ =>
    match s.lockerMap key with
    | none => some (s.setPhase key t .idle)
    | some locker =>
      match (s.heap locker).unlock rLock with
      | none => none
      | some cm =>
        if cm.dec.count ≤ 0 then some ((s.recycle key locker cm.dec).setPhase key t .idle)
        else some ((s.write locker cm.dec).setPhase key t .idle)
  | _ => none

/-- A thread's next step. -/
inductive Action (κ : Type) where
  /-- `Lock(key, rLock)` up to its `locker.lock`. -/
  | lock (key : κ) (rLock : Bool) (get : PoolGet)
  /-- The return of its `locker.lock`. -/
  | acquire (key : κ)
  /-- `UnLock(key, rLock)`, with the `rLock` of its `Lock`. -/
  | unlock (key : κ)

/-- Thread `t` takes the step `a`. -/
def poolStep : τ × Action κ → State κ τ → Option (State κ τ)
  | (t, .lock key rLock get), s => lockEnter s t key rLock get
  | (t, .acquire key), s => lockAcquire s t key
  | (t, .unlock key), s => unLock s t key

section Steps

variable {s s' s₁ : State κ τ} {t : τ} {key : κ} {rLock : Bool} {g : PoolGet} {p p₀ : ℕ}
  {cm : CountRWMutex}

theorem lockEnter_cases (h : lockEnter s t key rLock g = some s') :
    s.phase key t = .idle ∧
      ((∃ p, s.lockerMap key = some p ∧ s' = s.enter key t rLock p) ∨
        (s.lockerMap key = none ∧ ∃ p s₁, s.poolGet g = some (p, s₁) ∧
          s' = (s₁.store key p).enter key t rLock p)) := by
  unfold lockEnter at h
  split_ifs at h with hidle
  refine ⟨hidle, ?_⟩
  cases hmap : s.lockerMap key with
  | some p =>
    simp only [hmap, Option.some.injEq] at h
    exact .inl ⟨p, rfl, h.symm⟩
  | none =>
    simp only [hmap] at h
    cases hget : s.poolGet g with
    | none => simp [hget] at h
    | some r =>
      obtain ⟨p, s₁⟩ := r
      simp only [hget, Option.some.injEq] at h
      exact .inr ⟨rfl, p, s₁, rfl, h.symm⟩

theorem lockAcquire_cases (h : lockAcquire s t key = some s') :
    ∃ rLock p cm, s.phase key t = .waiting rLock p ∧ (s.heap p).lock rLock = some cm ∧
      s' = (s.write p cm).setPhase key t (.holding rLock p) := by
  cases hph : s.phase key t with
  | idle => simp [lockAcquire, hph] at h
  | holding _ _ => simp [lockAcquire, hph] at h
  | waiting rLock p =>
    cases hl : (s.heap p).lock rLock with
    | none => simp [lockAcquire, hph, hl] at h
    | some cm =>
      simp only [lockAcquire, hph, hl, Option.some.injEq] at h
      exact ⟨rLock, p, cm, rfl, hl, h.symm⟩

/-- `Lock` on a key with an object counts the thread in at it. -/
theorem lockEnter_of_mapped (hidle : s.phase key t = .idle) (hmap : s.lockerMap key = some p)
    (g : PoolGet) : lockEnter s t key rLock g = some (s.enter key t rLock p) := by
  simp only [lockEnter, hidle, hmap, if_true]

/-- `Lock` on a key without an object stores a new one under it when the pool calls `New`. -/
theorem lockEnter_new (hidle : s.phase key t = .idle) (hmap : s.lockerMap key = none) :
    lockEnter s t key rLock .new = some (({ s with
      heap := Function.update s.heap s.next newCountRWMutex
      next := s.next + 1 }.store key s.next).enter key t rLock s.next) := by
  simp only [lockEnter, hidle, hmap, State.poolGet, if_true]

/-- A waiting thread takes the lock once it lets the thread in. -/
theorem lockAcquire_of (hph : s.phase key t = .waiting rLock p)
    (hc : (s.heap p).rw.canLock rLock = true) :
    lockAcquire s t key = some ((s.write p { s.heap p with rw := (s.heap p).rw.lock rLock }).setPhase
      key t (.holding rLock p)) := by
  simp only [lockAcquire, hph, CountRWMutex.lock, hc, if_true]

/-- `UnLock` by a holder of `key`, once the key's object is found and its lock released. -/
theorem unLock_eq (hph : s.phase key t = .holding rLock p₀) (hmap : s.lockerMap key = some p)
    (hcm : (s.heap p).unlock rLock = some cm) :
    unLock s t key =
      if cm.dec.count ≤ 0 then some ((s.recycle key p cm.dec).setPhase key t .idle)
      else some ((s.write p cm.dec).setPhase key t .idle) := by
  simp only [unLock, hph, hmap, hcm]

end Steps

end Model

/-! ### The invariant -/

section Invariant

variable {s s' s₁ : State κ τ} {t : τ} {key key' : κ} {rLock : Bool} {g : PoolGet} {p : ℕ}
  {cm : CountRWMutex} {ph : Phase}

/-- The invariant of the objects: no two keys share one, a cached object is reset, free and
belongs to no key, the pool holds each once, and `next` lies above every address in use. -/
structure PoolInv (s : State κ τ) : Prop where
  map_injective : ∀ k₁ k₂ p, s.lockerMap k₁ = some p → s.lockerMap k₂ = some p → k₁ = k₂
  cached_new : ∀ p ∈ s.syncPool, s.heap p = newCountRWMutex
  cached_unmapped : ∀ p ∈ s.syncPool, ∀ key, s.lockerMap key ≠ some p
  nodup : s.syncPool.Nodup
  mapped_lt : ∀ key p, s.lockerMap key = some p → p < s.next
  cached_lt : ∀ p ∈ s.syncPool, p < s.next

/-- An object that `Lock` may store under a key without one: new, reset and unused. -/
structure Fresh (s : State κ τ) (p : ℕ) : Prop where
  unmapped : ∀ key, s.lockerMap key ≠ some p
  not_cached : p ∉ s.syncPool
  heap_eq : s.heap p = newCountRWMutex
  lt_next : p < s.next

/-- The key's object is the one it maps to. -/
theorem eq_of_mapped (hmap : s.lockerMap key = some p) {q : ℕ} (hq : s.lockerMap key = some q) :
    q = p := by
  rw [hmap] at hq
  exact (Option.some.inj hq).symm

theorem PoolInv.ne_of_mapped (hp : PoolInv s) (hmap : s.lockerMap key = some p) (hne : key' ≠ key) :
    ∀ p', s.lockerMap key' = some p' → p' ≠ p := by
  intro p' hp' heq
  subst heq
  exact hne (hp.map_injective key' key p' hp' hmap)

theorem PoolInv.not_cached (hp : PoolInv s) (hmap : s.lockerMap key = some p) :
    p ∉ s.syncPool :=
  fun hc => hp.cached_unmapped p hc key hmap

/-- Writing a key's object keeps the cached ones. -/
theorem PoolInv.write_mapped (hp : PoolInv s) (hmap : s.lockerMap key = some p)
    (cm : CountRWMutex) : PoolInv (s.write p cm) where
  map_injective := hp.map_injective
  cached_new q hq := by
    have hne : q ≠ p := fun h => hp.not_cached hmap (h ▸ hq)
    simp [Function.update_of_ne hne, hp.cached_new q hq]
  cached_unmapped := hp.cached_unmapped
  nodup := hp.nodup
  mapped_lt := hp.mapped_lt
  cached_lt := hp.cached_lt

/-- What each thread holds `key` for. -/
def State.holders (s : State κ τ) (key : κ) : τ → Option Bool := Phase.held ∘ s.phase key

theorem holders_congr (h : s'.phase key = s.phase key) : s'.holders key = s.holders key := by
  simp only [State.holders, h]

@[simp] theorem holders_write : (s.write p cm).holders key = s.holders key := rfl

section Keys

variable [DecidableEq κ]

@[simp] theorem holders_store : (s.store key' p).holders key = s.holders key := rfl

/-- An entry of a map that lost `key` was there before, under another key. -/
theorem eq_some_of_update_none {m : κ → Option ℕ} {k : κ} {q : ℕ}
    (h : Function.update m key none k = some q) : k ≠ key ∧ m k = some q := by
  by_cases e : k = key
  · simp [e] at h
  · rw [Function.update_of_ne e] at h
    exact ⟨e, h⟩

/-- Storing a fresh object under a key keeps the objects apart. -/
theorem PoolInv.store_fresh (hp : PoolInv s) (hf : Fresh s p) (cm : CountRWMutex) :
    PoolInv ((s.store key p).write p cm) := by
  have hlook : ∀ k q, ((s.store key p).write p cm).lockerMap k = some q →
      (k = key ∧ q = p) ∨ (k ≠ key ∧ s.lockerMap k = some q) := by
    intro k q hq
    by_cases hk : k = key
    · subst hk
      simp only [State.write_lockerMap, State.store_lockerMap, Function.update_self,
        Option.some.injEq] at hq
      exact .inl ⟨rfl, hq.symm⟩
    · simp only [State.write_lockerMap, State.store_lockerMap, Function.update_of_ne hk] at hq
      exact .inr ⟨hk, hq⟩
  refine ⟨fun k₁ k₂ q h₁ h₂ => ?_, fun q hq => ?_, fun q hq k hk => ?_, hp.nodup,
    fun k q hk => ?_, hp.cached_lt⟩
  · rcases hlook k₁ q h₁ with ⟨e₁, hq₁⟩ | ⟨_, h₁⟩ <;>
      rcases hlook k₂ q h₂ with ⟨e₂, hq₂⟩ | ⟨_, h₂⟩
    · rw [e₁, e₂]
    · exact absurd (hq₁ ▸ h₂) (hf.unmapped k₂)
    · exact absurd (hq₂ ▸ h₁) (hf.unmapped k₁)
    · exact hp.map_injective k₁ k₂ q h₁ h₂
  · have hne : q ≠ p := fun h => hf.not_cached (h ▸ hq)
    simp [Function.update_of_ne hne, hp.cached_new q hq]
  · rcases hlook k q hk with ⟨_, rfl⟩ | ⟨_, hk⟩
    · exact hf.not_cached hq
    · exact hp.cached_unmapped q hq k hk
  · rcases hlook k q hk with ⟨_, rfl⟩ | ⟨_, hk⟩
    · exact hf.lt_next
    · exact hp.mapped_lt k q hk

variable [DecidableEq τ]

@[simp] theorem holders_setPhase_self :
    (s.setPhase key t ph).holders key = Function.update (s.holders key) t ph.held := by
  simp only [State.holders, State.setPhase_phase_self, Function.comp_update]

theorem PoolInv.setPhase (hp : PoolInv s) (key : κ) (t : τ) (ph : Phase) :
    PoolInv (s.setPhase key t ph) :=
  ⟨hp.map_injective, hp.cached_new, hp.cached_unmapped, hp.nodup, hp.mapped_lt, hp.cached_lt⟩

/-- Moving thread `t` to a phase whose object, if it has one, is the key's keeps every thread
inside on the key's object. -/
theorem locker_mapped_setPhase
    (hmapped : ∀ t' q, (s.phase key t').locker = some q → s.lockerMap key = some q)
    (hph : ∀ q, ph.locker = some q → s.lockerMap key = some q) :
    ∀ t' q, ((s.setPhase key t ph).phase key t').locker = some q →
      (s.setPhase key t ph).lockerMap key = some q := by
  intro t' q hq
  by_cases ht : t' = t
  · subst ht
    rw [State.setPhase_phase_self, Function.update_self] at hq
    exact hph q hq
  · rw [State.setPhase_phase_self, Function.update_of_ne ht] at hq
    exact hmapped t' q hq

/-- A thread that leaves a key has no object, and the others keep theirs. -/
theorem locker_mapped_leave
    (hmapped : ∀ t' q, (s.phase key t').locker = some q → s.lockerMap key = some q) :
    ∀ t' q, ((s.setPhase key t .idle).phase key t').locker = some q →
      (s.setPhase key t .idle).lockerMap key = some q :=
  locker_mapped_setPhase hmapped fun q hq => by simp at hq

end Keys

variable [Fintype τ]

/-- The threads between their `Lock(key)` increment and their `UnLock(key)` decrement. -/
def State.inside (s : State κ τ) (key : κ) : Finset τ := among (· ≠ Phase.idle) (s.phase key)

/-- The invariant of one key: the threads inside its brackets use its object, and while it
has one, the object counts them and its lock is held by those past their `Lock`. -/
structure KeyInv (s : State κ τ) (key : κ) : Prop where
  locker_mapped : ∀ t p, (s.phase key t).locker = some p → s.lockerMap key = some p
  inside_pos : ∀ p, s.lockerMap key = some p → 0 < (s.inside key).card
  count_eq : ∀ p, s.lockerMap key = some p → (s.heap p).count = Int32.ofNat (s.inside key).card
  holds : ∀ p, s.lockerMap key = some p → (s.heap p).rw.Holds (s.holders key)

/-- The invariant of the pool: that of every key, and that of the objects. -/
structure Inv (s : State κ τ) : Prop where
  key : ∀ key, KeyInv s key
  pool : PoolInv s

theorem inside_congr (h : s'.phase key = s.phase key) : s'.inside key = s.inside key := by
  simp only [State.inside, h]

@[simp] theorem inside_write : (s.write p cm).inside key = s.inside key := rfl

theorem inside_eq_empty_iff : s.inside key = ∅ ↔ ∀ t, s.phase key t = .idle := by
  simp [State.inside, Finset.eq_empty_iff_forall_notMem]

theorem KeyInv.frame (hk : KeyInv s key) (hmap : s'.lockerMap key = s.lockerMap key)
    (hphase : s'.phase key = s.phase key)
    (hheap : ∀ p, s.lockerMap key = some p → s'.heap p = s.heap p) : KeyInv s' key := by
  have hin := inside_congr hphase
  have hho := holders_congr hphase
  refine ⟨fun t p hp => ?_, fun p hp => ?_, fun p hp => ?_, fun p hp => ?_⟩
  · rw [hphase] at hp
    rw [hmap]
    exact hk.locker_mapped t p hp
  · rw [hmap] at hp
    rw [hin]
    exact hk.inside_pos p hp
  · rw [hmap] at hp
    rw [hheap p hp, hin]
    exact hk.count_eq p hp
  · rw [hmap] at hp
    rw [hheap p hp, hho]
    exact hk.holds p hp

theorem KeyInv.phase_eq_idle (hk : KeyInv s key) (hmap : s.lockerMap key = none) (t : τ) :
    s.phase key t = .idle := by
  rw [← Phase.locker_eq_none_iff]
  cases hp : (s.phase key t).locker with
  | none => rfl
  | some p => simpa [hmap] using hk.locker_mapped t p hp

/-- A key without an object and without threads inside its brackets. -/
theorem KeyInv.of_idle (hmap : s.lockerMap key = none) (hidle : ∀ t, s.phase key t = .idle) :
    KeyInv s key where
  locker_mapped t p hp := by simp [hidle t] at hp
  inside_pos p hp := by simp [hmap] at hp
  count_eq p hp := by simp [hmap] at hp
  holds p hp := by simp [hmap] at hp

theorem inv_initial : Inv (initial : State κ τ) where
  key _ := KeyInv.of_idle rfl fun _ => rfl
  pool := ⟨by simp [initial], by simp [initial], by simp [initial], List.nodup_nil,
    by simp [initial], by simp [initial]⟩

/-- `sync.Pool.Get` returns a fresh object and keeps the invariant. -/
theorem poolGet_spec (hi : Inv s) (h : s.poolGet g = some (p, s₁)) :
    Inv s₁ ∧ Fresh s₁ p ∧ s₁.lockerMap = s.lockerMap ∧ s₁.phase = s.phase := by
  cases g with
  | cached q =>
    simp only [State.poolGet] at h
    split_ifs at h with hq
    simp only [Option.some.injEq, Prod.mk.injEq] at h
    obtain ⟨rfl, rfl⟩ := h
    have hmem : ∀ r ∈ s.syncPool.erase q, r ∈ s.syncPool := fun r hr => List.mem_of_mem_erase hr
    refine ⟨⟨fun key => (hi.key key).frame rfl rfl fun _ _ => rfl, ?_⟩, ?_, rfl, rfl⟩
    · exact ⟨hi.pool.map_injective, fun r hr => hi.pool.cached_new r (hmem r hr),
        fun r hr => hi.pool.cached_unmapped r (hmem r hr), hi.pool.nodup.erase q,
        hi.pool.mapped_lt, fun r hr => hi.pool.cached_lt r (hmem r hr)⟩
    · exact ⟨hi.pool.cached_unmapped q hq, by simp [hi.pool.nodup.mem_erase_iff],
        hi.pool.cached_new q hq, hi.pool.cached_lt q hq⟩
  | new =>
    simp only [State.poolGet, Option.some.injEq, Prod.mk.injEq] at h
    obtain ⟨rfl, rfl⟩ := h
    -- every address in use lies below `next`, so the write to `next` touches none of them
    have hne : ∀ q, q < s.next → q ≠ s.next := fun q hq => Nat.ne_of_lt hq
    refine ⟨⟨fun key => (hi.key key).frame rfl rfl fun q hq => ?_, ?_⟩, ?_, rfl, rfl⟩
    · simp [Function.update_of_ne (hne q (hi.pool.mapped_lt key q hq))]
    · refine ⟨hi.pool.map_injective, fun q hq => ?_, hi.pool.cached_unmapped, hi.pool.nodup,
        fun key q hq => Nat.lt_succ_of_lt (hi.pool.mapped_lt key q hq),
        fun q hq => Nat.lt_succ_of_lt (hi.pool.cached_lt q hq)⟩
      simp [Function.update_of_ne (hne q (hi.pool.cached_lt q hq)), hi.pool.cached_new q hq]
    · exact ⟨fun key hk => hne _ (hi.pool.mapped_lt key _ hk) rfl,
        fun hc => hne _ (hi.pool.cached_lt _ hc) rfl, by simp, Nat.lt_succ_self _⟩

/-- Two threads hold a key at once only as readers. -/
theorem KeyInv.readers_only (hk : KeyInv s key) {t₁ t₂ : τ} {r₁ r₂ : Bool} {p₁ p₂ : ℕ}
    (hne : t₁ ≠ t₂) (h₁ : s.phase key t₁ = .holding r₁ p₁) (h₂ : s.phase key t₂ = .holding r₂ p₂) :
    r₁ = true ∧ r₂ = true := by
  have hmap : s.lockerMap key = some p₁ := hk.locker_mapped t₁ p₁ (by simp [h₁])
  have hholds := hk.holds p₁ hmap
  have hh₁ : s.holders key t₁ = some r₁ := by simp [State.holders, h₁]
  have hh₂ : s.holders key t₂ = some r₂ := by simp [State.holders, h₂]
  constructor
  · cases r₁ with
    | true => rfl
    | false => exact absurd (hholds.writer_alone t₁ t₂ hh₁ (by simp [hh₂])) (Ne.symm hne)
  · cases r₂ with
    | true => rfl
    | false => exact absurd (hholds.writer_alone t₂ t₁ hh₂ (by simp [hh₁])) hne

/-- A key has an object exactly while some thread is inside a bracket of it. -/
theorem KeyInv.isSome_iff (hk : KeyInv s key) :
    (s.lockerMap key).isSome ↔ (s.inside key).Nonempty := by
  constructor
  · intro h
    obtain ⟨p, hp⟩ := Option.isSome_iff_exists.mp h
    exact Finset.card_pos.mp (hk.inside_pos p hp)
  · rintro ⟨t, ht⟩
    have ht' : s.phase key t ≠ .idle := by simpa [State.inside] using ht
    cases hp : (s.phase key t).locker with
    | none => exact absurd (Phase.locker_eq_none_iff.mp hp) ht'
    | some p => simp [hk.locker_mapped t p hp]

variable [DecidableEq κ]

@[simp] theorem inside_store : (s.store key' p).inside key = s.inside key := rfl

variable [DecidableEq τ]

@[simp] theorem inside_setPhase_self :
    (s.setPhase key t ph).inside key =
      among (· ≠ Phase.idle) (Function.update (s.phase key) t ph) := by
  simp only [State.inside, State.setPhase_phase_self]

/-- Another key's object is untouched by a write to `p` and a move of a thread in `key`. -/
theorem KeyInv.write_setPhase (hk : KeyInv s key') (hne : key' ≠ key)
    (hp : ∀ p', s.lockerMap key' = some p' → p' ≠ p) (cm : CountRWMutex) (t : τ) (ph : Phase) :
    KeyInv ((s.write p cm).setPhase key t ph) key' :=
  hk.frame rfl (by simp [hne]) fun p' hp' => by simp [Function.update_of_ne (hp p' hp')]

/-- A step that writes the key's object and moves a thread in the key keeps the invariant once
it keeps that of the key: the other keys and the cached objects are untouched. -/
theorem Inv.write_setPhase (hi : Inv s) (hmap : s.lockerMap key = some p)
    (hkey : KeyInv ((s.write p cm).setPhase key t ph) key) :
    Inv ((s.write p cm).setPhase key t ph) := by
  refine ⟨fun key' => ?_, (hi.pool.write_mapped hmap cm).setPhase key t ph⟩
  by_cases hne : key' = key
  · subst hne
    exact hkey
  · exact (hi.key key').write_setPhase hne (hi.pool.ne_of_mapped hmap hne) _ _ _

/-! #### `Lock` -/

/-- `Lock` counts thread `t` in at the key's object `p`, given that `p` counts the threads
inside and is held by those past their `Lock`. -/
theorem KeyInv.enter (hmapped : ∀ t' q, (s.phase key t').locker = some q → s.lockerMap key = some q)
    (hmap : s.lockerMap key = some p) (hidle : s.phase key t = .idle)
    (hcount : (s.heap p).count = Int32.ofNat (s.inside key).card)
    (hholds : (s.heap p).rw.Holds (s.holders key)) (rLock : Bool) :
    KeyInv (s.enter key t rLock p) key := by
  have hcard : ((s.enter key t rLock p).inside key).card = (s.inside key).card + 1 := by
    rw [State.enter, inside_setPhase_self, State.write_phase]
    exact card_among_update_of_not (by simp [hidle]) (by simp)
  -- a waiting thread holds nothing, so the holders are as before
  have hho : (s.enter key t rLock p).holders key = s.holders key := by
    rw [State.enter, holders_setPhase_self, holders_write, Phase.held_waiting]
    exact Function.update_eq_self_iff.mpr (by simp [State.holders, hidle])
  refine ⟨fun t' q hq => ?_, fun q _ => by omega, fun q hq => ?_, fun q hq => ?_⟩
  · exact locker_mapped_setPhase (s := s.write p _) hmapped
      (fun q hq => by simpa [← Option.some.inj hq] using hmap) t' q hq
  · obtain rfl := eq_of_mapped hmap hq
    rw [hcard, ← Int32.ofNat_add_one, ← hcount]
    simp [State.enter]
  · obtain rfl := eq_of_mapped hmap hq
    rw [hho]
    simpa [State.enter] using hholds

theorem Inv.lockEnter_step (hi : Inv s) (h : lockEnter s t key rLock g = some s') : Inv s' := by
  obtain ⟨hidle, ⟨p, hmap, rfl⟩ | ⟨hmap, p, s₁, hget, rfl⟩⟩ := lockEnter_cases h
  · -- the key has its object: count the thread in
    have hk := hi.key key
    exact hi.write_setPhase hmap
      (KeyInv.enter hk.locker_mapped hmap hidle (hk.count_eq p hmap) (hk.holds p hmap) rLock)
  · -- the key gets a fresh object from the pool
    obtain ⟨hi₁, hf, hmap₁, hphase₁⟩ := poolGet_spec hi hget
    rw [← hmap₁] at hmap
    have hidle₁ := (hi₁.key key).phase_eq_idle hmap
    refine ⟨fun key' => ?_, (hi₁.pool.store_fresh hf _).setPhase key t _⟩
    by_cases hne : key' = key
    · subst hne
      have hempty : s₁.inside key' = ∅ := inside_eq_empty_iff.mpr hidle₁
      have hnone : s₁.holders key' = fun _ => none := funext fun t' => by
        show Phase.held (s₁.phase key' t') = none
        rw [hidle₁ t']
        rfl
      refine KeyInv.enter (s := s₁.store key' p) (fun t' q hq => by simp [hidle₁ t'] at hq)
        (by simp) (hidle₁ t)
        ?_ ?_ rLock
      · rw [inside_store, hempty, Finset.card_empty, State.store_heap, hf.heap_eq]
        rfl
      · rw [holders_store, hnone, State.store_heap, hf.heap_eq]
        exact RWLock.holds_free
    · have hk' : KeyInv (s₁.store key p) key' :=
        (hi₁.key key').frame (by simp [Function.update_of_ne hne]) rfl fun _ _ => rfl
      refine hk'.write_setPhase hne (fun p' hp' heq => ?_) _ _ _
      subst heq
      simp only [State.store_lockerMap, Function.update_of_ne hne] at hp'
      exact hf.unmapped key' hp'

/-! #### The return of `lock` -/

/-- Thread `t` takes the lock of its key's object. -/
theorem KeyInv.acquire (hk : KeyInv s key) (hmap : s.lockerMap key = some p)
    (hph : s.phase key t = .waiting rLock p) (hc : (s.heap p).rw.canLock rLock = true) :
    KeyInv ((s.write p { s.heap p with rw := (s.heap p).rw.lock rLock }).setPhase key t
      (.holding rLock p)) key := by
  have hin : ((s.write p { s.heap p with rw := (s.heap p).rw.lock rLock }).setPhase key t
      (.holding rLock p)).inside key = s.inside key := by
    rw [inside_setPhase_self, State.write_phase]
    exact among_update_of_iff (by simp [hph])
  have hholds := (hk.holds p hmap).lock (t := t) (by simp [State.holders, hph]) hc
  refine ⟨fun t' q hq => ?_, fun q hq => ?_, fun q hq => ?_, fun q hq => ?_⟩
  · exact locker_mapped_setPhase (s := s.write p _) hk.locker_mapped
      (fun q hq => by simpa [← Option.some.inj hq] using hmap) t' q hq
  · rw [hin]
    exact hk.inside_pos q hq
  · obtain rfl := eq_of_mapped hmap hq
    rw [hin]
    simpa using hk.count_eq q hmap
  · obtain rfl := eq_of_mapped hmap hq
    rw [holders_setPhase_self, holders_write, Phase.held_holding]
    simpa using hholds

theorem Inv.lockAcquire_step (hi : Inv s) (h : lockAcquire s t key = some s') : Inv s' := by
  obtain ⟨rLock, p, cm, hph, hlock, rfl⟩ := lockAcquire_cases h
  obtain ⟨hc, rfl⟩ := CountRWMutex.lock_eq_some hlock
  have hmap : s.lockerMap key = some p := (hi.key key).locker_mapped t p (by simp [hph])
  exact hi.write_setPhase hmap ((hi.key key).acquire hmap hph hc)

/-! #### `UnLock` -/

section UnLock

variable {rw : RWLock} {p₀ : ℕ}

/-- The threads inside the key after its holder `t` leaves: one fewer. -/
theorem card_inside_leave (hph : s.phase key t = .holding rLock p₀) :
    ((s.setPhase key t .idle).inside key).card + 1 = (s.inside key).card := by
  rw [inside_setPhase_self]
  exact card_among_update_of (by simp [hph]) (by simp)

/-- The count `dec` leaves is that of the threads inside once the holder has left. -/
theorem KeyInv.dec_count (hk : KeyInv s key) (hmap : s.lockerMap key = some p)
    (hph : s.phase key t = .holding rLock p₀) (rw : RWLock) :
    { s.heap p with rw }.dec.count = Int32.ofNat ((s.setPhase key t .idle).inside key).card := by
  show (s.heap p).count - 1 = _
  rw [hk.count_eq p hmap, ← card_inside_leave hph, Int32.ofNat_succ_sub_one]

/-- `UnLock` keeps the key's object while other threads are inside. -/
theorem Inv.unLock_keep (hi : Inv s) (hmap : s.lockerMap key = some p)
    (hph : s.phase key t = .holding rLock p₀)
    (hholds : rw.Holds (Function.update (s.holders key) t none))
    (hpos : ¬ ({ s.heap p with rw }.dec.count ≤ 0)) :
    Inv ((s.write p { s.heap p with rw }.dec).setPhase key t .idle) := by
  have hk := hi.key key
  have hcount := hk.dec_count hmap hph rw
  refine hi.write_setPhase hmap ⟨fun t' q hq => ?_, fun q _ => ?_, fun q hq => ?_, fun q hq => ?_⟩
  · exact locker_mapped_leave (s := s.write p _) hk.locker_mapped t' q hq
  · -- the count stays positive, so some thread is still inside
    rw [inside_congr (s := s.setPhase key t .idle) (by simp)]
    refine Nat.pos_of_ne_zero fun h0 => hpos ?_
    rw [hcount, h0]
    decide
  · obtain rfl := eq_of_mapped hmap hq
    rw [inside_congr (s := s.setPhase key t .idle) (by simp)]
    simpa using hcount
  · obtain rfl := eq_of_mapped hmap hq
    rw [holders_setPhase_self, holders_write, Phase.held_idle]
    simpa using hholds

variable (hcard : Fintype.card τ < 2 ^ 31)
include hcard

/-- `UnLock` recycles the key's object once the last thread inside leaves: fewer than `2 ^ 31`
threads keep the count from wrapping, so it reaches zero exactly then. -/
theorem Inv.unLock_recycle (hi : Inv s) (hmap : s.lockerMap key = some p)
    (hph : s.phase key t = .holding rLock p₀)
    (hholds : rw.Holds (Function.update (s.holders key) t none))
    (hle : { s.heap p with rw }.dec.count ≤ 0) :
    Inv ((s.recycle key p { s.heap p with rw }.dec).setPhase key t .idle) := by
  have hp := hi.pool
  have hbound : ((s.setPhase key t .idle).inside key).card < 2 ^ 31 :=
    lt_of_le_of_lt (Finset.card_le_univ _) hcard
  have hleft : ∀ t', (s.setPhase key t .idle).phase key t' = .idle := by
    rw [(hi.key key).dec_count hmap hph rw, Int32.ofNat_le_zero_iff hbound] at hle
    exact inside_eq_empty_iff.mp (Finset.card_eq_zero.mp hle)
  -- nobody is left to hold the lock, so `UnLock` puts back a free object
  have hfree : rw = RWLock.free := hholds.eq_free fun t' => by
    have h : (s.setPhase key t .idle).holders key t' = none := by
      show Phase.held ((s.setPhase key t .idle).phase key t') = none
      rw [hleft t']
      rfl
    rwa [holders_setPhase_self, Phase.held_idle] at h
  have hne_p : ∀ key', key' ≠ key → ∀ p', s.lockerMap key' = some p' → p' ≠ p :=
    fun key' hne => hp.ne_of_mapped hmap hne
  refine ⟨fun key' => ?_, ⟨fun k₁ k₂ q h₁ h₂ => ?_, fun q hq => ?_, fun q hq k hk => ?_, ?_,
    fun k q hk => ?_, fun q hq => ?_⟩⟩
  · by_cases hne : key' = key
    · subst hne
      exact KeyInv.of_idle (by simp) fun t' => by simpa using hleft t'
    · exact (hi.key key').frame (by simp [Function.update_of_ne hne]) (by simp [hne])
        fun p' hp' => by simp [Function.update_of_ne (hne_p key' hne p' hp')]
  · -- the map only lost `key`
    simp only [State.setPhase_lockerMap, State.recycle_lockerMap] at h₁ h₂
    exact hp.map_injective k₁ k₂ q (eq_some_of_update_none h₁).2 (eq_some_of_update_none h₂).2
  · simp only [State.setPhase_syncPool, State.recycle_syncPool, List.mem_cons] at hq
    rcases hq with rfl | hq
    · simp only [State.setPhase_heap, State.recycle_heap, Function.update_self, hfree]
      rfl
    · have hne : q ≠ p := fun h => hp.not_cached hmap (h ▸ hq)
      simp [Function.update_of_ne hne, hp.cached_new q hq]
  · simp only [State.setPhase_lockerMap, State.recycle_lockerMap] at hk
    obtain ⟨e, hk⟩ := eq_some_of_update_none hk
    simp only [State.setPhase_syncPool, State.recycle_syncPool, List.mem_cons] at hq
    rcases hq with rfl | hq
    · exact hne_p k e q hk rfl
    · exact hp.cached_unmapped q hq k hk
  · exact List.nodup_cons.mpr ⟨hp.not_cached hmap, hp.nodup⟩
  · simp only [State.setPhase_lockerMap, State.recycle_lockerMap] at hk
    exact hp.mapped_lt k q (eq_some_of_update_none hk).2
  · simp only [State.setPhase_syncPool, State.recycle_syncPool, List.mem_cons] at hq
    rcases hq with rfl | hq
    · exact hp.mapped_lt key q hmap
    · exact hp.cached_lt q hq

theorem Inv.unLock_step (hi : Inv s) (h : unLock s t key = some s') : Inv s' := by
  cases hph : s.phase key t with
  | idle => simp [unLock, hph] at h
  | waiting _ _ => simp [unLock, hph] at h
  | holding rLock p =>
    have hmap : s.lockerMap key = some p := (hi.key key).locker_mapped t p (by simp [hph])
    obtain ⟨rw, hrw, hholds⟩ := ((hi.key key).holds p hmap).unlock
      (show s.holders key t = some rLock by simp [State.holders, hph])
    rw [unLock_eq hph hmap (CountRWMutex.unlock_of hrw)] at h
    split_ifs at h with hle
    · cases h
      exact hi.unLock_recycle hcard hmap hph hholds hle
    · cases h
      exact hi.unLock_keep hmap hph hholds hle

theorem Inv.step (hi : Inv s) {a : τ × Action κ} (h : poolStep a s = some s') : Inv s' := by
  obtain ⟨t, a⟩ := a
  cases a with
  | lock key rLock g => exact hi.lockEnter_step h
  | acquire key => exact hi.lockAcquire_step h
  | unlock key => exact hi.unLock_step hcard h

theorem inv_of_reachable (hs : Reachable poolStep initial s) : Inv s :=
  Reachable.invariant inv_initial (fun _ _ _ hi h => hi.step hcard h) hs

end UnLock

end Invariant

/-! ### The pool below `2 ^ 31` threads -/

section Safety

variable [DecidableEq κ] [DecidableEq τ] [Fintype τ]

theorem lockerPool_safe (hcard : Fintype.card τ < 2 ^ 31) {s : State κ τ}
    (hs : Reachable poolStep initial s) :
    (∀ key t₁ t₂ r₁ r₂ p₁ p₂, t₁ ≠ t₂ → s.phase key t₁ = .holding r₁ p₁ →
      s.phase key t₂ = .holding r₂ p₂ → r₁ = true ∧ r₂ = true) ∧
    (∀ key, (s.lockerMap key).isSome ↔ (s.inside key).Nonempty) ∧
    (∀ key p, s.lockerMap key = some p → (s.heap p).count.toInt = (s.inside key).card) ∧
    (∀ p ∈ s.syncPool, s.heap p = newCountRWMutex ∧ ∀ key t, (s.phase key t).locker ≠ some p) := by
  have hi := inv_of_reachable hcard hs
  refine ⟨fun key t₁ t₂ r₁ r₂ p₁ p₂ hne h₁ h₂ => (hi.key key).readers_only hne h₁ h₂,
    fun key => (hi.key key).isSome_iff, fun key p hp => ?_, fun p hp => ?_⟩
  · have hlt : (s.inside key).card < 2 ^ 31 := lt_of_le_of_lt (Finset.card_le_univ _) hcard
    rw [(hi.key key).count_eq p hp, Int32.toInt_ofNat_of_lt hlt]
  · refine ⟨hi.pool.cached_new p hp, fun key t ht => ?_⟩
    exact hi.pool.cached_unmapped p hp key ((hi.key key).locker_mapped t p ht)

/-- `UnLock` by a thread that holds a key finds the object its `Lock` took under the key, and
releases it without Go's fatal error: the `!ok` return is never taken. -/
theorem unLock_finds_locker (hcard : Fintype.card τ < 2 ^ 31) {s : State κ τ}
    (hs : Reachable poolStep initial s) {t : τ} {key : κ} {rLock : Bool} {p : ℕ}
    (hph : s.phase key t = .holding rLock p) :
    s.lockerMap key = some p ∧ ∃ s', unLock s t key = some s' := by
  have hi := inv_of_reachable hcard hs
  have hmap : s.lockerMap key = some p := (hi.key key).locker_mapped t p (by simp [hph])
  obtain ⟨rw, hrw, -⟩ := ((hi.key key).holds p hmap).unlock
    (show s.holders key t = some rLock by simp [State.holders, hph])
  refine ⟨hmap, ?_⟩
  rw [unLock_eq hph hmap (CountRWMutex.unlock_of hrw)]
  split_ifs
  · exact ⟨_, rfl⟩
  · exact ⟨_, rfl⟩

end Safety

/-- The one thread of a pool has locked its one key for writing, with a new object. -/
def oneWriter : State Unit (Fin 1) :=
  let s₁ := ({ (initial : State Unit (Fin 1)) with
    heap := Function.update (initial : State Unit (Fin 1)).heap 0 newCountRWMutex
    next := 1 }.store () 0).enter () 0 false 0
  (s₁.write 0 { s₁.heap 0 with rw := (s₁.heap 0).rw.lock false }).setPhase () 0 (.holding false 0)

theorem oneWriter_reachable : Reachable poolStep initial oneWriter := by
  let s₁ : State Unit (Fin 1) := ({ (initial : State Unit (Fin 1)) with
    heap := Function.update (initial : State Unit (Fin 1)).heap 0 newCountRWMutex
    next := 1 }.store () 0).enter () 0 false 0
  have h₁ : lockEnter initial 0 () false .new = some s₁ := lockEnter_new rfl rfl
  have h₂ : lockAcquire s₁ 0 () = some oneWriter :=
    lockAcquire_of (show s₁.phase () 0 = .waiting false 0 by simp [s₁, State.enter])
      (by simp [s₁, State.enter, newCountRWMutex, RWLock.free, RWLock.canLock])
  exact (Relation.ReflTransGen.single (show Step poolStep initial s₁ from ⟨(0, .lock () false .new), h₁⟩)).tail
    (show Step poolStep s₁ oneWriter from ⟨(0, .acquire ()), h₂⟩)

theorem lockerPool_safe_oneWriter :
    Fintype.card (Fin 1) < 2 ^ 31 ∧ Reachable poolStep initial oneWriter ∧
    ((∀ key t₁ t₂ r₁ r₂ p₁ p₂, t₁ ≠ t₂ → oneWriter.phase key t₁ = .holding r₁ p₁ →
      oneWriter.phase key t₂ = .holding r₂ p₂ → r₁ = true ∧ r₂ = true) ∧
    (∀ key, (oneWriter.lockerMap key).isSome ↔ (oneWriter.inside key).Nonempty) ∧
    (∀ key p, oneWriter.lockerMap key = some p →
      (oneWriter.heap p).count.toInt = (oneWriter.inside key).card) ∧
    (∀ p ∈ oneWriter.syncPool, oneWriter.heap p = newCountRWMutex ∧
      ∀ key t, (oneWriter.phase key t).locker ≠ some p)) :=
  ⟨by simp, oneWriter_reachable, lockerPool_safe (by simp) oneWriter_reachable⟩

theorem unLock_finds_locker_oneWriter :
    Fintype.card (Fin 1) < 2 ^ 31 ∧ Reachable poolStep initial oneWriter ∧
      oneWriter.phase () 0 = .holding false 0 ∧
      (oneWriter.lockerMap () = some 0 ∧ ∃ s', unLock oneWriter 0 () = some s') :=
  ⟨by simp, oneWriter_reachable, by simp [oneWriter],
    unLock_finds_locker (by simp) oneWriter_reachable
      (show oneWriter.phase () 0 = .holding false 0 by simp [oneWriter])⟩

/-! ### Past `2 ^ 31` threads the count wraps -/

section Wrap

/-- Thread `0` holds the one key for writing with the object at `0`, and threads `1` to `n`
wait for it. -/
structure Queued (n : ℕ) (s : State Unit (Fin (2 ^ 31 + 2))) : Prop where
  map : s.lockerMap () = some 0
  next : s.next = 1
  heap : s.heap 0 = ⟨⟨0, true⟩, Int32.ofNat (n + 1)⟩
  phase : ∀ t : Fin (2 ^ 31 + 2), s.phase () t =
    if t.val = 0 then .holding false 0 else if t.val ≤ n then .waiting false 0 else .idle

theorem queued_zero : ∃ s, Reachable poolStep initial s ∧ Queued 0 s := by
  let t₀ : Fin (2 ^ 31 + 2) := ⟨0, by omega⟩
  let s₁ : State Unit (Fin (2 ^ 31 + 2)) := ({ (initial : State Unit (Fin (2 ^ 31 + 2))) with
    heap := Function.update (initial : State Unit (Fin (2 ^ 31 + 2))).heap 0 newCountRWMutex
    next := 1 }.store () 0).enter () t₀ false 0
  have h₁ : lockEnter initial t₀ () false .new = some s₁ := lockEnter_new rfl rfl
  have h₂ := lockAcquire_of (show s₁.phase () t₀ = .waiting false 0 by simp [s₁, State.enter])
    (by simp [s₁, State.enter, newCountRWMutex, RWLock.free, RWLock.canLock])
  have r₁ : Reachable poolStep initial s₁ := .single ⟨(t₀, .lock () false .new), h₁⟩
  refine ⟨_, r₁.tail ⟨(t₀, .acquire ()), h₂⟩, ⟨by simp [s₁, State.enter],
    by simp [s₁, State.enter], ?_, ?_⟩⟩
  · simp [s₁, State.enter, newCountRWMutex, CountRWMutex.inc, RWLock.lock, RWLock.free]
  · intro t
    by_cases ht : t = t₀
    · subst ht
      simp [t₀]
    · have hv : t.val ≠ 0 := fun h => ht (Fin.ext h)
      simp [s₁, State.enter, initial, ht, hv]

/-- One more thread calls `Lock` for writing and waits behind the others. -/
theorem Queued.succ {n : ℕ} {s : State Unit (Fin (2 ^ 31 + 2))} (hq : Queued n s)
    (hn : n + 1 < 2 ^ 31 + 2) :
    lockEnter s ⟨n + 1, hn⟩ () false .new = some (s.enter () ⟨n + 1, hn⟩ false 0) ∧
      Queued (n + 1) (s.enter () ⟨n + 1, hn⟩ false 0) := by
  have hidle : s.phase () ⟨n + 1, hn⟩ = .idle := by
    rw [hq.phase]
    simp
  refine ⟨lockEnter_of_mapped hidle hq.map _, ⟨by simp [State.enter, hq.map],
    by simp [State.enter, hq.next], ?_, ?_⟩⟩
  · simp only [State.enter, State.setPhase_heap, State.write_heap, Function.update_self,
      CountRWMutex.inc, hq.heap, Int32.ofNat_add_one]
  · intro t
    by_cases ht : t = ⟨n + 1, hn⟩
    · subst ht
      simp [State.enter]
    · have hv : t.val ≠ n + 1 := fun h => ht (Fin.ext h)
      simp only [State.enter, State.setPhase_phase_self, Function.update_of_ne ht,
        State.write_phase, hq.phase]
      split_ifs <;> first | rfl | omega

theorem queued_reachable (n : ℕ) (hn : n ≤ 2 ^ 31) :
    ∃ s, Reachable poolStep initial s ∧ Queued n s := by
  induction n with
  | zero => exact queued_zero
  | succ n ih =>
    obtain ⟨s, hs, hq⟩ := ih (by omega)
    obtain ⟨hstep, hq'⟩ := hq.succ (by omega)
    exact ⟨_, hs.tail ⟨(_, .lock () false .new), hstep⟩, hq'⟩

theorem lockerPool_two_writers :
    ∃ s : State Unit (Fin (2 ^ 31 + 2)), Reachable poolStep initial s ∧
      s.phase () ⟨1, by omega⟩ = .holding false 0 ∧
      s.phase () ⟨2 ^ 31 + 1, by omega⟩ = .holding false 1 ∧ 0 ∈ s.syncPool := by
  obtain ⟨s, hs, hq⟩ := queued_reachable (2 ^ 31) le_rfl
  let t₀ : Fin (2 ^ 31 + 2) := ⟨0, by omega⟩
  let t₁ : Fin (2 ^ 31 + 2) := ⟨1, by omega⟩
  let tₗ : Fin (2 ^ 31 + 2) := ⟨2 ^ 31 + 1, by omega⟩
  have h₁₀ : t₁ ≠ t₀ := by simp [t₀, t₁]
  have hₗ₀ : tₗ ≠ t₀ := by simp [t₀, tₗ]
  have hₗ₁ : tₗ ≠ t₁ := by simp [t₁, tₗ]
  -- thread `0` unlocks: the count of `2 ^ 31 + 1` threads drops to a wrapped `-2 ^ 31`
  let cm : CountRWMutex := { s.heap 0 with rw := ⟨0, false⟩ }
  let sA := (s.recycle () 0 cm.dec).setPhase () t₀ .idle
  have hA : unLock s t₀ () = some sA := by
    have hph : s.phase () t₀ = .holding false 0 := by
      rw [hq.phase]
      rfl
    have hcm : (s.heap 0).unlock false = some cm := by
      rw [CountRWMutex.unlock_of (by rw [hq.heap]; rfl)]
    have hle : cm.dec.count ≤ 0 := by
      simp only [cm, CountRWMutex.dec_count, hq.heap]
      decide
    rw [unLock_eq hph hq.map hcm, if_pos hle]
  -- thread `1`, still waiting, takes the recycled object
  have hwait₁ : sA.phase () t₁ = .waiting false 0 := by
    simp only [sA, State.setPhase_phase_self, Function.update_of_ne h₁₀, State.recycle_phase,
      hq.phase]
    rfl
  let sB := (sA.write 0 { sA.heap 0 with rw := (sA.heap 0).rw.lock false }).setPhase () t₁
    (.holding false 0)
  have hB : lockAcquire sA t₁ () = some sB :=
    lockAcquire_of hwait₁ (by simp [sA, cm, RWLock.canLock])
  -- the last thread finds the key gone, and the pool hands it a new object
  have hidleₗ : sB.phase () tₗ = .idle := by
    simp only [sB, sA, State.setPhase_phase_self, Function.update_of_ne hₗ₁,
      Function.update_of_ne hₗ₀, State.write_phase, State.recycle_phase, hq.phase]
    simp [tₗ]
  have hgone : sB.lockerMap () = none := by simp [sB, sA]
  let sC := ({ sB with
    heap := Function.update sB.heap sB.next newCountRWMutex
    next := sB.next + 1 }.store () sB.next).enter () tₗ false sB.next
  have hC : lockEnter sB tₗ () false .new = some sC := lockEnter_new hidleₗ hgone
  have hwaitₗ : sC.phase () tₗ = .waiting false sB.next := by simp [sC, State.enter]
  let sD := (sC.write sB.next { sC.heap sB.next with rw := (sC.heap sB.next).rw.lock false }).setPhase
    () tₗ (.holding false sB.next)
  have hD : lockAcquire sC tₗ () = some sD := lockAcquire_of hwaitₗ
    (by simp [sC, State.enter, newCountRWMutex, RWLock.free, RWLock.canLock])
  have rC : Reachable poolStep initial sC :=
    ((hs.tail (show Step poolStep s sA from ⟨(t₀, .unlock ()), hA⟩)).tail
      (show Step poolStep sA sB from ⟨(t₁, .acquire ()), hB⟩)).tail
      (show Step poolStep sB sC from ⟨(tₗ, .lock () false .new), hC⟩)
  -- thread `1` holds the old object and the last thread the new one, both for writing
  have hD₁ : sD.phase () t₁ = .holding false 0 := by
    simp only [sD, sC, sB, State.enter, State.setPhase_phase_self, State.write_phase,
      State.store_phase, Function.update_of_ne hₗ₁.symm, Function.update_self]
  have hnext : sB.next = 1 := by simp [sB, sA, hq.next]
  have hDₗ : sD.phase () tₗ = .holding false 1 := by
    simp only [sD, State.setPhase_phase_self, Function.update_self, hnext]
  have hpool : 0 ∈ sD.syncPool := by simp [sD, sC, sB, sA, State.enter]
  exact ⟨sD, rC.tail ⟨(tₗ, .acquire ()), hD⟩, hD₁, hDₗ, hpool⟩

end Wrap

end Dragonfly.Pkg.Synclock
