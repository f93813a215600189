import Dragonfly.Pkg.Cache

/-!
# Dynamic configuration from the manager

`dynconfigManager` (`internal/dynconfig/dynconfig_manager.go`) keeps the configuration it fetches
from the manager in an expiring cache under `defaultCacheKey`, saved to a file. At start
(`newDynconfigManager`, `:35`) it loads that file, and fetches when the file does not load. `get`
(`:53`) returns the cached value while its expiration has not passed; otherwise it fetches again,
only logging a failure, and returns whatever the cache then holds, expired or not.

The client answers each call arbitrarily: its `n`-th call meets `client n`, the answer and what
the `SaveFile` after a successful one returns. Over every run of gets the cache holds the value of
the most recent successful call, or the file's value while none has succeeded (`lastGood`,
`Holds`), so a get returns that value, fails only when there is none, and calls the client only
once the cached value has expired (`get_falls_back_to_last_good`).

A get reads the clock once; `Set` stamps the fetched value with the same reading.
-/

namespace Dragonfly.Dynconfig

open Dragonfly.Pkg

variable {ε α : Type}

/-- `defaultCacheKey` (`dynconfig.go:37`). -/
def defaultCacheKey : String := "dynconfig"

/-- What a call of `client.Get` meets: its answer, and what the `SaveFile` that follows a
successful one returns. -/
structure Fetch (ε α : Type) where
  response : Except ε α
  saveFile : Except ε Unit

/-- `dynconfigManager` (`dynconfig_manager.go:27`); the cache path and the client are the
environment. -/
structure DynconfigManager (α : Type) where
  cache : Cache α
  expire : Int64

namespace DynconfigManager

/-- `load` (`dynconfig_manager.go:86`) at `now`: a fetched value is set in the cache before
`SaveFile`, whose error is returned. -/
def load (d : DynconfigManager α) (fetch : Fetch ε α) (now : Int64) :
    DynconfigManager α × Except ε Unit :=
  match fetch.response with
  | .error err => (d, .error err)
  | .ok dynconfig =>
    ({ d with cache := d.cache.set defaultCacheKey dynconfig d.expire now }, fetch.saveFile)

/-- `get` (`dynconfig_manager.go:53`) at `now`, the client having been called `n` times: the
manager, the result and the number of calls after it. -/
def get (d : DynconfigManager α) (client : ℕ → Fetch ε α) (n : ℕ) (now : Int64) :
    DynconfigManager α × Except String α × ℕ :=
  match d.cache.getWithExpiration defaultCacheKey now with
  | some dynconfig => (d, .ok dynconfig, n)
  | none =>
    -- a failed reload is only logged
    let d := (d.load (client n) now).1
    match d.cache.get defaultCacheKey with
    | none => (d, .error "can't find the cached data", n + 1)
    | some dynconfig => (d, .ok dynconfig, n + 1)

/-- Gets at the clock readings `times`, one after another: the manager and the number of client
calls after them. -/
def runGets (d : DynconfigManager α) (client : ℕ → Fetch ε α) (n : ℕ) :
    List Int64 → DynconfigManager α × ℕ
  | [] => (d, n)
  | now :: times =>
    let r := d.get client n now
    r.1.runGets client r.2.2 times

end DynconfigManager

/-- `newDynconfigManager` (`dynconfig_manager.go:35`) at `now`, with what `LoadFile` decodes and
what the first call of the client meets. -/
def newDynconfigManager (expire : Int64) (file : Except ε (String → Option (Cache.Item α)))
    (fetch : Fetch ε α) (now : Int64) : Except ε (DynconfigManager α) :=
  let d : DynconfigManager α := ⟨Cache.new expire, expire⟩
  match d.cache.loadFile file now with
  | .ok cache => .ok { d with cache := cache }
  | .error _ =>
    match d.load fetch now with
    | (_, .error err) => .error err
    | (d, .ok ()) => .ok d

/-! ### The last good value -/

/-- The value of the most recent successful call among the first `n` calls of the client, or
`initial` when none of them succeeded. -/
def lastGood (client : ℕ → Fetch ε α) (initial : Option α) : ℕ → Option α
  | 0 => initial
  | n + 1 =>
    match (client n).response with
    | .ok v => some v
    | .error _ => lastGood client initial n

/-- The configuration in a cache file that loads. -/
def fileValue (file : Except ε (String → Option (Cache.Item α))) : Option α :=
  match file with
  | .error _ => none
  | .ok items => (items defaultCacheKey).map Cache.Item.object

/-- The calls of the client at start: one when the file does not load. -/
def startCalls (file : Except ε (String → Option (Cache.Item α))) : ℕ :=
  match file with
  | .error _ => 1
  | .ok _ => 0

/-- What `get` returns when the cache holds `v` under `defaultCacheKey`. -/
def cached (v : Option α) : Except String α :=
  match v with
  | none => .error "can't find the cached data"
  | some x => .ok x

/-- The manager's cache holds the last good value after `n` calls of the client. -/
def Holds (client : ℕ → Fetch ε α) (initial : Option α) (n : ℕ) (d : DynconfigManager α) : Prop :=
  d.cache.get defaultCacheKey = lastGood client initial n

variable {client : ℕ → Fetch ε α} {initial : Option α} {n : ℕ} {d : DynconfigManager α}

/-- A call of the client keeps the invariant: the cache takes a successful answer, and
`lastGood` moves to it; a failure changes neither. -/
theorem Holds.load (h : Holds client initial n d) (now : Int64) :
    Holds client initial (n + 1) (d.load (client n) now).1 := by
  unfold Holds DynconfigManager.load lastGood
  cases (client n).response with
  | error err => exact h
  | ok v => exact Cache.get_set_self _ _ _ _ _

/-- A get keeps the invariant and returns what the cache holds, the last good value. -/
theorem Holds.get (h : Holds client initial n d) (now : Int64) :
    Holds client initial (d.get client n now).2.2 (d.get client n now).1 ∧
      (d.get client n now).2.1 = cached (lastGood client initial (d.get client n now).2.2) := by
  unfold DynconfigManager.get
  split
  · -- the cached value has not expired: no call
    next x hx =>
    refine ⟨h, ?_⟩
    show Except.ok x = cached (lastGood client initial n)
    rw [← h, Cache.get_of_getWithExpiration hx]
    rfl
  · -- one call, and then what the cache holds
    have h' := h.load now
    dsimp only
    split
    · next hnone => exact ⟨h', by rw [← h', hnone]; rfl⟩
    · next x hx => exact ⟨h', by rw [← h', hx]; rfl⟩

/-- A get whose cached item has not expired returns it without calling the client. -/
theorem get_of_unexpired {item : Cache.Item α} (hitem : d.cache.items defaultCacheKey = some item)
    {now : Int64} (hnow : item.expiration > 0 → now ≤ item.expiration) :
    d.get client n now = (d, .ok item.object, n) := by
  rw [DynconfigManager.get, Cache.getWithExpiration_of_unexpired hitem hnow]

/-- Every run of gets keeps the invariant. The induction is on the readings. -/
theorem Holds.runGets (h : Holds client initial n d) (times : List Int64) :
    Holds client initial (d.runGets client n times).2 (d.runGets client n times).1 := by
  induction times generalizing n d with
  | nil => exact h
  | cons now times ih => exact ih (h.get now).1

/-- A manager that starts holds the file's value, or the answer of the first call when the file
does not load. -/
theorem holds_newDynconfigManager {expire now : Int64}
    {file : Except ε (String → Option (Cache.Item α))}
    (hnew : newDynconfigManager expire file (client 0) now = .ok d) :
    Holds client (fileValue file) (startCalls file) d := by
  unfold newDynconfigManager at hnew
  cases file with
  | ok items =>
    -- the file's items fill the empty cache
    simp only [Cache.loadFile, Except.ok.injEq] at hnew
    subst hnew
    simp only [Holds, Cache.get, Cache.new, Cache.items_load_newCache]
    rfl
  | error err =>
    -- the first call must succeed, and the cache takes its answer
    simp only [Cache.loadFile] at hnew
    unfold Holds startCalls lastGood
    cases hresp : (client 0).response with
    | error e => simp [DynconfigManager.load, hresp] at hnew
    | ok v =>
      cases hsave : (client 0).saveFile with
      | error e => simp [DynconfigManager.load, hresp, hsave] at hnew
      | ok u =>
        simp only [DynconfigManager.load, hresp, hsave, Except.ok.injEq] at hnew
        subst hnew
        exact Cache.get_set_self _ _ _ _ _

/-- The manager falls back to the last good value: after any run of gets from a manager that
started, the next get returns the value of the most recent successful call of the client, or of
the cache file when none has succeeded, and fails only when there is neither; and while the
cached item's expiration has not passed it returns that item without calling the client. -/
theorem get_falls_back_to_last_good (client : ℕ → Fetch ε α) (expire t0 : Int64)
    (file : Except ε (String → Option (Cache.Item α))) {d : DynconfigManager α}
    (hnew : newDynconfigManager expire file (client 0) t0 = .ok d) (times : List Int64)
    (now : Int64) :
    let s := d.runGets client (startCalls file) times
    let r := s.1.get client s.2 now
    r.2.1 = cached (lastGood client (fileValue file) r.2.2) ∧
      ∀ item, s.1.cache.items defaultCacheKey = some item →
        (item.expiration > 0 → now ≤ item.expiration) → r.2.2 = s.2 ∧ r.2.1 = .ok item.object := by
  intro s r
  have hs : Holds client (fileValue file) s.2 s.1 := (holds_newDynconfigManager hnew).runGets times
  refine ⟨(hs.get now).2, fun item hitem hnow => ?_⟩
  have hr : r = (s.1, .ok item.object, s.2) := get_of_unexpired hitem hnow
  rw [hr]
  exact ⟨rfl, rfl⟩

theorem get_falls_back_to_last_good_file :
    newDynconfigManager 10 (.ok fun _ => some ⟨7, 20⟩)
        ((fun _ => ⟨.error (), .ok ()⟩ : ℕ → Fetch Unit ℕ) 0) 0 =
      .ok ⟨(Cache.new 10).load (fun _ => some ⟨7, 20⟩) 0, 10⟩ ∧
    (let s := (⟨(Cache.new 10).load (fun _ => some ⟨7, 20⟩) 0, 10⟩ : DynconfigManager ℕ).runGets
        (fun _ => ⟨.error (), .ok ()⟩ : ℕ → Fetch Unit ℕ)
        (startCalls (.ok fun _ => some ⟨7, 20⟩ : Except Unit (String → Option (Cache.Item ℕ))))
        [5, 30]
      let r := s.1.get (fun _ => ⟨.error (), .ok ()⟩ : ℕ → Fetch Unit ℕ) s.2 40
      r.2.1 = cached (lastGood (fun _ => ⟨.error (), .ok ()⟩ : ℕ → Fetch Unit ℕ)
          (fileValue (.ok fun _ => some ⟨7, 20⟩ : Except Unit (String → Option (Cache.Item ℕ))))
          r.2.2) ∧
        ∀ item, s.1.cache.items defaultCacheKey = some item →
          (item.expiration > 0 → 40 ≤ item.expiration) → r.2.2 = s.2 ∧ r.2.1 = .ok item.object) :=
  ⟨rfl, get_falls_back_to_last_good _ 10 0 _ rfl [5, 30] 40⟩

/- Past its expiration at `20`, with the client failing, a get calls the client once and returns
the expired value. -/
example :
    ((⟨(Cache.new 10).load (fun _ => some ⟨7, 20⟩) 0, 10⟩ : DynconfigManager ℕ).get
      (fun _ => ⟨.error (), .ok ()⟩ : ℕ → Fetch Unit ℕ) 0 30).2 = (.ok 7, 1) := by
  decide

end Dragonfly.Dynconfig
