import Mathlib.Data.List.MinMax
import Dragonfly.Base.WordArith

/-!
# The token bucket of `ratelimiter`

`RateLimiter` (`pkg/ratelimiter/ratelimiter/ratelimiter.go`) grants tokens from a bucket that it
refills in whole windows: `createTokens` mints `ratePerWindow` tokens for each whole window of
`window` milliseconds since the last successful acquire, once at least a millisecond has passed.
`acquire` caps the bucket at `max(capacity, token)` for the call and takes the tokens when the
bucket holds enough; otherwise `AcquireNonBlocking` gives up with `-1` and `AcquireBlocking`
sleeps and tries again. The limiter's mutex is held across the sleeps, so the calls of concurrent
goroutines run one after the other (`RateLimiter.run`).

The clock is an argument: each pass of `process` reads the next of a list of non-decreasing
readings, and a blocking call still waiting when they run out has not completed. `blocking` only
chooses how long to sleep, which the readings already stand for, so it leaves no trace in the
model; nor does `SetRate`, which no call of a run makes.

Over every run of a limiter made by `NewRateLimiter` with a positive rate at `t0`, the tokens
granted and the tokens left in the bucket are at most `ratePerWindow` for each whole window from
`t0` to the last successful acquire, and the bucket stays within
`[0, max(capacity, largest token)]` (`Bounded`, `run_bounded`). The word arithmetic may wrap, on
the difference of far apart readings or the product of many windows by a large `ratePerWindow`,
but it then only lowers what is minted (`createTokens_le`).
-/

namespace Dragonfly.Ratelimiter

open Dragonfly.Base.WordArith

/-- `mathutils.MaxInt64`. -/
def maxInt64 (a b : Int64) : Int64 := if a > b then a else b

/-- `mathutils.MinInt64`. -/
def minInt64 (a b : Int64) : Int64 := if a < b then a else b

/-- `time.Millisecond.Nanoseconds()`. -/
def millisecond : Int64 := 1000000

/-- The fields of a `RateLimiter`, its mutex apart. -/
structure RateLimiter where
  capacity : Int64
  bucket : Int64
  rate : Int64
  ratePerWindow : Int64
  window : Int64
  last : Int64
  deriving DecidableEq, Repr

namespace RateLimiter

/-- `setWindow`: the window in milliseconds, clamped to `[1, 1000]`. -/
def setWindow (rl : RateLimiter) (window : Int64) : RateLimiter :=
  if window ≥ 1 ∧ window ≤ 1000 then { rl with window := window }
  else if window < 1 then { rl with window := 1 }
  else { rl with window := 1000 }

/-- `computeRatePerWindow`: the tokens per window; below one, one token a window of
`1000 / rate` milliseconds. -/
def computeRatePerWindow (rl : RateLimiter) : RateLimiter :=
  if rl.rate ≤ 0 then rl
  else
    let ratePerWindow := rl.rate * rl.window / 1000
    if ratePerWindow > 0 then { rl with ratePerWindow := ratePerWindow }
    else
      let rl := { rl with ratePerWindow := 1 }
      rl.setWindow (rl.ratePerWindow * 1000 / rl.rate)

end RateLimiter

/-- `NewRateLimiter`, with the clock reading `now`. -/
def newRateLimiter (rate window now : Int64) : RateLimiter :=
  let rl : RateLimiter := ⟨rate, 0, rate, 0, 0, 0⟩
  { (rl.setWindow window).computeRatePerWindow with last := now }

namespace RateLimiter

/-- `createTokens`: `ratePerWindow` tokens for each whole window since `last`, none before a
millisecond has passed. -/
def createTokens (rl : RateLimiter) (timeNano : Int64) : Int64 :=
  let diff := timeNano - rl.last
  if diff < millisecond then 0
  else diff / (rl.window * millisecond) * rl.ratePerWindow

/-- The closure `process` of `acquire`, each pass reading the clock from `readings`: the limiter,
the result and the readings left, or `none` when a blocking call still waits as they run out. -/
def process (rl : RateLimiter) (token tmpCapacity : Int64) (blocking : Bool) :
    List Int64 → Option (RateLimiter × Int64 × List Int64)
  | [] => none
  | now :: readings =>
    let newTokens := rl.createTokens now
    let curTotal := minInt64 (newTokens + rl.bucket) tmpCapacity
    if curTotal ≥ token then
      some ({ rl with bucket := curTotal - token, last := now }, token, readings)
    -- `rl.blocking` sleeps before the next pass
    else if blocking then rl.process token tmpCapacity blocking readings
    else some (rl, -1, readings)

/-- `acquire`: a limiter without capacity, or a call for no token, grants at once. -/
def acquire (rl : RateLimiter) (token : Int64) (blocking : Bool) (readings : List Int64) :
    Option (RateLimiter × Int64 × List Int64) :=
  if rl.capacity ≤ 0 ∨ token < 1 then some (rl, token, readings)
  else rl.process token (maxInt64 rl.capacity token) blocking readings

end RateLimiter

/-- A call of `AcquireBlocking` (`blocking`) or of `AcquireNonBlocking` for `token` tokens. -/
structure Call where
  token : Int64
  blocking : Bool
  deriving DecidableEq, Repr

/-- The calls one after another, in the order the mutex lets them in, on the clock readings: the
limiter and the results of the calls that completed before the readings ran out. -/
def RateLimiter.run (rl : RateLimiter) : List Call → List Int64 → RateLimiter × List Int64
  | [], _ => (rl, [])
  | c :: calls, readings =>
    match rl.acquire c.token c.blocking readings with
    | none => (rl, [])
    | some (rl', r, rest) =>
      let next := rl'.run calls rest
      (next.1, r :: next.2)

/-- The tokens a call's result grants: `-1` refuses. -/
def granted (r : Int64) : ℤ := if r = -1 then 0 else r.toInt

/-! ### Word arithmetic of the model -/

@[simp] theorem toInt_minInt64 (a b : Int64) : (minInt64 a b).toInt = min a.toInt b.toInt := by
  unfold minInt64
  split_ifs with h
  · rw [Int64.lt_iff_toInt_lt] at h
    omega
  · rw [Int64.lt_iff_toInt_lt] at h
    omega

@[simp] theorem toInt_maxInt64 (a b : Int64) : (maxInt64 a b).toInt = max a.toInt b.toInt := by
  unfold maxInt64
  split_ifs with h
  · rw [gt_iff_lt, Int64.lt_iff_toInt_lt] at h
    omega
  · rw [gt_iff_lt, Int64.lt_iff_toInt_lt] at h
    omega

@[simp] theorem toInt_millisecond : millisecond.toInt = 1000000 := rfl

theorem granted_of_pos {r : Int64} (hr : 1 ≤ r.toInt) : granted r = r.toInt := by
  have hne : r ≠ -1 := fun h => by rw [h] at hr; exact absurd hr (by decide)
  simp [granted, hne]

/-! ### The limiter `NewRateLimiter` makes -/

namespace RateLimiter

/-- `setWindow` sets a window of `[1, 1000]` milliseconds and nothing else. -/
theorem setWindow_spec (rl : RateLimiter) (window : Int64) :
    ∃ w : Int64, rl.setWindow window = { rl with window := w } ∧ 1 ≤ w.toInt ∧ w.toInt ≤ 1000 := by
  unfold setWindow
  split_ifs with hin hlt
  · rw [ge_iff_le, Int64.le_iff_toInt_le, Int64.le_iff_toInt_le] at hin
    exact ⟨window, rfl, hin.1, hin.2⟩
  · exact ⟨1, rfl, by decide, by decide⟩
  · exact ⟨1000, rfl, by decide, by decide⟩

/-- For a positive rate, `computeRatePerWindow` sets at least one token a window and keeps the
window within `[1, 1000]`. -/
theorem computeRatePerWindow_spec {rl : RateLimiter} (hrate : 0 < rl.rate)
    (hw₁ : 1 ≤ rl.window.toInt) (hw₂ : rl.window.toInt ≤ 1000) :
    ∃ rpw w : Int64, rl.computeRatePerWindow = { rl with ratePerWindow := rpw, window := w } ∧
      1 ≤ rpw.toInt ∧ 1 ≤ w.toInt ∧ w.toInt ≤ 1000 := by
  unfold computeRatePerWindow
  rw [if_neg (Int64.not_le.mpr hrate)]
  dsimp only
  split_ifs with hpos
  · rw [gt_iff_lt, Int64.lt_iff_toInt_lt] at hpos
    exact ⟨_, rl.window, rfl, hpos, hw₁, hw₂⟩
  · -- one token a window, and the window stretched by `setWindow`
    obtain ⟨w, hw, h₁, h₂⟩ := setWindow_spec { rl with ratePerWindow := 1 } (1 * 1000 / rl.rate)
    exact ⟨1, w, hw, by decide, h₁, h₂⟩

end RateLimiter

/-- `NewRateLimiter` with a positive rate: capacity the rate, an empty bucket, at least one token
a window of `[1, 1000]` milliseconds, last refilled now. -/
theorem newRateLimiter_eq {rate : Int64} (hrate : 0 < rate) (window now : Int64) :
    ∃ rpw w : Int64, newRateLimiter rate window now = ⟨rate, 0, rate, rpw, w, now⟩ ∧
      1 ≤ rpw.toInt ∧ 1 ≤ w.toInt ∧ w.toInt ≤ 1000 := by
  obtain ⟨w₀, hw₀, h₁, h₂⟩ := RateLimiter.setWindow_spec ⟨rate, 0, rate, 0, 0, 0⟩ window
  unfold newRateLimiter
  dsimp only
  rw [hw₀]
  obtain ⟨rpw, w, hc, hrpw, hw₁, hw₂⟩ :=
    @RateLimiter.computeRatePerWindow_spec { (⟨rate, 0, rate, 0, 0, 0⟩ : RateLimiter) with window := w₀ }
      hrate h₁ h₂
  rw [hc]
  exact ⟨rpw, w, rfl, hrpw, hw₁, hw₂⟩

/-! ### Tokens minted -/

namespace RateLimiter

/-- The parameters `acquire` counts on: a positive capacity, a window of `[1, 1000]`
milliseconds and at least one token a window. -/
structure Wf (rl : RateLimiter) : Prop where
  capacity_pos : 0 < rl.capacity.toInt
  window_pos : 1 ≤ rl.window.toInt
  window_le : rl.window.toInt ≤ 1000
  ratePerWindow_pos : 1 ≤ rl.ratePerWindow.toInt

/-- The tokens `ratePerWindow` mints in the whole windows from `t0` to `t`. -/
def minted (rl : RateLimiter) (t0 t : Int64) : ℤ :=
  rl.ratePerWindow.toInt * ((t.toInt - t0.toInt) / (rl.window.toInt * 1000000))

variable {rl : RateLimiter}

theorem minted_self (rl : RateLimiter) (t : Int64) : rl.minted t t = 0 := by
  simp [minted]

theorem Wf.window_nanos_pos (h : rl.Wf) : 0 < rl.window.toInt * 1000000 := by
  have := h.window_pos
  omega

/-- Whole windows from `t0` to `t1` and from `t1` to `t2` are at most those from `t0` to `t2`. -/
theorem Wf.minted_add_le (h : rl.Wf) (t0 t1 t2 : Int64) :
    rl.minted t0 t1 + rl.minted t1 t2 ≤ rl.minted t0 t2 := by
  have hsplit : t1.toInt - t0.toInt + (t2.toInt - t1.toInt) = t2.toInt - t0.toInt := by omega
  have hwindows := ediv_add_ediv_le (t1.toInt - t0.toInt) (t2.toInt - t1.toInt) h.window_nanos_pos
  rw [hsplit] at hwindows
  unfold minted
  rw [← Int.mul_add]
  exact Int.mul_le_mul_of_nonneg_left hwindows (by have := h.ratePerWindow_pos; omega)

theorem Wf.minted_mono (h : rl.Wf) (t0 : Int64) {t1 t2 : Int64} (ht : t1.toInt ≤ t2.toInt) :
    rl.minted t0 t1 ≤ rl.minted t0 t2 := by
  unfold minted
  apply Int.mul_le_mul_of_nonneg_left _ (by have := h.ratePerWindow_pos; omega)
  exact Int.ediv_le_ediv h.window_nanos_pos (by omega)

theorem Wf.minted_nonneg (h : rl.Wf) {t0 t : Int64} (ht : t0.toInt ≤ t.toInt) :
    0 ≤ rl.minted t0 t := by
  have := h.minted_mono t0 ht
  rwa [minted_self] at this

/-- A refill changes none of the parameters. -/
theorem Wf.refill (h : rl.Wf) (bucket last : Int64) :
    ({ rl with bucket := bucket, last := last } : RateLimiter).Wf :=
  ⟨h.capacity_pos, h.window_pos, h.window_le, h.ratePerWindow_pos⟩

theorem Wf.toInt_window_mul_millisecond (h : rl.Wf) :
    (rl.window * millisecond).toInt = rl.window.toInt * 1000000 := by
  have h₁ := h.window_pos
  have h₂ := h.window_le
  rw [Int64.toInt_mul_of_bounds] <;> rw [toInt_millisecond] <;> omega

/-- What `createTokens` mints is at most `ratePerWindow` a whole window since `last`: wrapping,
of the difference of the readings or of the product, only lowers it. -/
theorem Wf.createTokens_le (h : rl.Wf) {now : Int64} (hnow : rl.last.toInt ≤ now.toInt) :
    (rl.createTokens now).toInt ≤ rl.minted rl.last now := by
  have hW := h.window_nanos_pos
  have hdiff : (now - rl.last).toInt ≤ now.toInt - rl.last.toInt :=
    Int64.toInt_sub_le _ _ (by have := Int64.le_toInt rl.last; omega)
  unfold createTokens
  dsimp only
  split_ifs with hsmall
  · -- under a millisecond nothing is minted
    exact h.minted_nonneg hnow
  · rw [Int64.lt_iff_toInt_lt, toInt_millisecond] at hsmall
    have hne : rl.window * millisecond ≠ -1 := fun he => by
      have hm := h.toInt_window_mul_millisecond
      rw [he] at hm
      have : (-1 : Int64).toInt = -1 := rfl
      omega
    have hquot : ((now - rl.last) / (rl.window * millisecond)).toInt =
        (now - rl.last).toInt / (rl.window.toInt * 1000000) := by
      rw [Int64.toInt_div_of_ne_right _ _ hne, h.toInt_window_mul_millisecond,
        Int.tdiv_eq_ediv_of_nonneg (by omega)]
    have hq : 0 ≤ (now - rl.last).toInt / (rl.window.toInt * 1000000) :=
      Int.ediv_nonneg (by omega) (by omega)
    have hrpw := h.ratePerWindow_pos
    -- whole windows of the word difference, times `ratePerWindow`
    calc ((now - rl.last) / (rl.window * millisecond) * rl.ratePerWindow).toInt
        ≤ (now - rl.last).toInt / (rl.window.toInt * 1000000) * rl.ratePerWindow.toInt := by
          rw [← hquot]
          apply Int64.toInt_mul_le
          rw [hquot]
          have := Int.mul_nonneg hq (show (0 : ℤ) ≤ rl.ratePerWindow.toInt by omega)
          omega
      _ ≤ (now.toInt - rl.last.toInt) / (rl.window.toInt * 1000000) * rl.ratePerWindow.toInt :=
          Int.mul_le_mul_of_nonneg_right (Int.ediv_le_ediv hW hdiff) (by omega)
      _ = rl.minted rl.last now := Int.mul_comm _ _

/-! ### A run only refills -/

/-- `rl'` is `rl` refilled: only the bucket and the last refill differ. -/
def Refills (rl rl' : RateLimiter) : Prop :=
  ∃ bucket last : Int64, rl' = { rl with bucket := bucket, last := last }

theorem Refills.refl (rl : RateLimiter) : rl.Refills rl := ⟨rl.bucket, rl.last, rfl⟩

theorem Refills.trans {rl' rl'' : RateLimiter} (h : rl.Refills rl') (h' : rl'.Refills rl'') :
    rl.Refills rl'' := by
  obtain ⟨_, _, rfl⟩ := h
  obtain ⟨bucket, last, rfl⟩ := h'
  exact ⟨bucket, last, rfl⟩

theorem Refills.minted_eq {rl' : RateLimiter} (h : rl.Refills rl') : rl'.minted = rl.minted := by
  obtain ⟨_, _, rfl⟩ := h
  rfl

theorem process_refills {token tmpCapacity : Int64} {blocking : Bool} {readings : List Int64}
    {rl' : RateLimiter} {r : Int64} {rest : List Int64}
    (hrun : rl.process token tmpCapacity blocking readings = some (rl', r, rest)) :
    rl.Refills rl' := by
  induction readings with
  | nil => simp [RateLimiter.process] at hrun
  | cons now readings ih =>
    unfold RateLimiter.process at hrun
    dsimp only at hrun
    split_ifs at hrun
    · simp only [Option.some.injEq, Prod.mk.injEq] at hrun
      obtain ⟨rfl, -, -⟩ := hrun
      exact ⟨_, _, rfl⟩
    · exact ih hrun
    · simp only [Option.some.injEq, Prod.mk.injEq] at hrun
      obtain ⟨rfl, -, -⟩ := hrun
      exact Refills.refl rl

theorem acquire_refills {token : Int64} {blocking : Bool} {readings : List Int64}
    {rl' : RateLimiter} {r : Int64} {rest : List Int64}
    (hacq : rl.acquire token blocking readings = some (rl', r, rest)) : rl.Refills rl' := by
  unfold RateLimiter.acquire at hacq
  split_ifs at hacq
  · simp only [Option.some.injEq, Prod.mk.injEq] at hacq
    obtain ⟨rfl, -, -⟩ := hacq
    exact Refills.refl rl
  · exact process_refills hacq

/-- A run changes neither the capacity, the rate nor the window: it only refills. -/
theorem run_refills (rl : RateLimiter) (calls : List Call) (readings : List Int64) :
    rl.Refills (rl.run calls readings).1 := by
  induction calls generalizing rl readings with
  | nil => exact Refills.refl rl
  | cons c calls ih =>
    unfold RateLimiter.run
    split
    · exact Refills.refl rl
    · next rl' r rest hacq => exact (acquire_refills hacq).trans (ih rl' rest)

/-! ### What every run keeps -/

/-- What a run keeps of a limiter made at `t0`, at clock readings up to `t`, with `cap` at least
its capacity and every token asked, once it has granted `total` tokens: the bucket within
`[0, cap]`, and the tokens granted and left in the bucket at most those minted from `t0` to the
last successful acquire. -/
structure Bounded (t0 t : Int64) (cap total : ℤ) (rl : RateLimiter) : Prop where
  wf : rl.Wf
  capacity_le : rl.capacity.toInt ≤ cap
  last_le : rl.last.toInt ≤ t.toInt
  bucket_nonneg : 0 ≤ rl.bucket.toInt
  bucket_le : rl.bucket.toInt ≤ cap
  total_le : total + rl.bucket.toInt ≤ rl.minted t0 rl.last

variable {t0 t : Int64} {cap total : ℤ}

/-- A pass of `process` that takes `token` tokens at `now` keeps the bound: the bucket it takes
them from holds at most the tokens minted since `last` and those left before. -/
theorem Bounded.take (h : Bounded t0 t cap total rl) {token now : Int64} (htoken : 1 ≤ token.toInt)
    (hcap : token.toInt ≤ cap) (hlast : rl.last.toInt ≤ now.toInt) (hnow : now.toInt ≤ t.toInt)
    (hge : minInt64 (rl.createTokens now + rl.bucket) (maxInt64 rl.capacity token) ≥ token) :
    Bounded t0 t cap (total + token.toInt)
      { rl with
        bucket := minInt64 (rl.createTokens now + rl.bucket) (maxInt64 rl.capacity token) - token
        last := now } := by
  set curTotal := minInt64 (rl.createTokens now + rl.bucket) (maxInt64 rl.capacity token)
    with hcurTotal
  rw [ge_iff_le, Int64.le_iff_toInt_le] at hge
  have hnew := h.wf.createTokens_le hlast
  have hsum : (rl.createTokens now + rl.bucket).toInt ≤
      (rl.createTokens now).toInt + rl.bucket.toInt :=
    Int64.toInt_add_le _ _ (by have := Int64.le_toInt (rl.createTokens now); have := h.bucket_nonneg; omega)
  have hcur : curTotal.toInt ≤ (rl.createTokens now + rl.bucket).toInt ∧ curTotal.toInt ≤ cap := by
    rw [hcurTotal, toInt_minInt64, toInt_maxInt64]
    have := h.capacity_le
    omega
  have hbucket : (curTotal - token).toInt = curTotal.toInt - token.toInt :=
    Int64.toInt_sub_of_bounds (by omega) (by have := Int64.toInt_lt curTotal; omega)
  refine ⟨h.wf.refill _ _, h.capacity_le, hnow, by simp only [hbucket]; omega,
    by simp only [hbucket]; omega, ?_⟩
  show total + token.toInt + (curTotal - token).toInt ≤ rl.minted t0 now
  calc total + token.toInt + (curTotal - token).toInt
      = total + curTotal.toInt := by rw [hbucket]; omega
    _ ≤ total + rl.bucket.toInt + (rl.createTokens now).toInt := by omega
    _ ≤ rl.minted t0 rl.last + rl.minted rl.last now := Int.add_le_add h.total_le hnew
    _ ≤ rl.minted t0 now := h.wf.minted_add_le t0 rl.last now

/-- The readings still to come: non-decreasing, none before the last refill or past `t`. -/
def Ahead (t : Int64) (rl : RateLimiter) (readings : List Int64) : Prop :=
  readings.Pairwise (· ≤ ·) ∧ ∀ r ∈ readings, rl.last ≤ r ∧ r ≤ t

theorem Ahead.tail {rl : RateLimiter} {now : Int64} {readings : List Int64}
    (h : Ahead t rl (now :: readings)) : Ahead t rl readings :=
  ⟨h.1.of_cons, fun r hr => h.2 r (List.mem_cons_of_mem now hr)⟩

/-- After a refill at `now`, the readings that follow it are still to come. -/
theorem Ahead.refill {rl rl' : RateLimiter} {now : Int64} {readings : List Int64}
    (h : Ahead t rl (now :: readings)) (hlast : rl'.last = now) : Ahead t rl' readings := by
  refine ⟨h.1.of_cons, fun r hr => ⟨?_, (h.2 r (List.mem_cons_of_mem now hr)).2⟩⟩
  rw [hlast]
  exact List.rel_of_pairwise_cons h.1 hr

/-- `process` keeps the bound, granting its result, and leaves readings still to come. -/
theorem Bounded.process (h : Bounded t0 t cap total rl) {token : Int64} (htoken : 1 ≤ token.toInt)
    (hcap : token.toInt ≤ cap) (blocking : Bool) {readings : List Int64} (hahead : Ahead t rl readings)
    {rl' : RateLimiter} {r : Int64} {rest : List Int64}
    (hrun : rl.process token (maxInt64 rl.capacity token) blocking readings = some (rl', r, rest)) :
    Bounded t0 t cap (total + granted r) rl' ∧ Ahead t rl' rest := by
  induction readings with
  | nil => simp [RateLimiter.process] at hrun
  | cons now readings ih =>
    have hnow := hahead.2 now List.mem_cons_self
    rw [Int64.le_iff_toInt_le, Int64.le_iff_toInt_le] at hnow
    unfold RateLimiter.process at hrun
    dsimp only at hrun
    split_ifs at hrun with hge hblocking
    · -- the tokens are taken at `now`
      simp only [Option.some.injEq, Prod.mk.injEq] at hrun
      obtain ⟨rfl, rfl, rfl⟩ := hrun
      rw [granted_of_pos htoken]
      exact ⟨h.take htoken hcap hnow.1 hnow.2 hge, hahead.refill rfl⟩
    · -- a blocking call sleeps and reads the clock again
      exact ih hahead.tail hrun
    · -- a non-blocking call gives up
      obtain ⟨rfl, rfl, rfl⟩ : rl = rl' ∧ -1 = r ∧ readings = rest := by simpa using hrun
      refine ⟨?_, hahead.tail⟩
      simpa [granted] using h

/-- With a positive capacity, `acquire` of a positive token count is `process` under the cap
`max(capacity, token)`, and keeps the bound. -/
theorem Bounded.acquire (h : Bounded t0 t cap total rl) {token : Int64} (htoken : 1 ≤ token.toInt)
    (hcap : token.toInt ≤ cap) (blocking : Bool) {readings : List Int64} (hahead : Ahead t rl readings)
    {rl' : RateLimiter} {r : Int64} {rest : List Int64}
    (hacq : rl.acquire token blocking readings = some (rl', r, rest)) :
    Bounded t0 t cap (total + granted r) rl' ∧ Ahead t rl' rest := by
  have hlimit : ¬(rl.capacity ≤ 0 ∨ token < 1) := by
    rw [Int64.le_iff_toInt_le, Int64.lt_iff_toInt_lt]
    have := h.wf.capacity_pos
    have : (0 : Int64).toInt = 0 := rfl
    have : (1 : Int64).toInt = 1 := rfl
    omega
  rw [RateLimiter.acquire, if_neg hlimit] at hacq
  exact h.process htoken hcap blocking hahead hacq

/-- Over a run of calls, each for a positive token count at most `cap`, the limiter keeps the
bound with the tokens of every completed call granted. The induction is on the calls. -/
theorem Bounded.run (h : Bounded t0 t cap total rl) {calls : List Call}
    (hcalls : ∀ c ∈ calls, 1 ≤ c.token.toInt ∧ c.token.toInt ≤ cap) {readings : List Int64}
    (hahead : Ahead t rl readings) :
    Bounded t0 t cap (total + ((rl.run calls readings).2.map granted).sum) (rl.run calls readings).1 := by
  induction calls generalizing rl total readings with
  | nil => simpa [RateLimiter.run] using h
  | cons c calls ih =>
    have hc := hcalls c List.mem_cons_self
    have hrest : ∀ c ∈ calls, 1 ≤ c.token.toInt ∧ c.token.toInt ≤ cap :=
      fun c' hc' => hcalls c' (List.mem_cons_of_mem c hc')
    unfold RateLimiter.run
    split
    · -- the call still waits as the readings run out
      simpa using h
    · -- the call completes, and the rest run after it
      next rl' r rest hacq =>
        obtain ⟨h', hahead'⟩ := h.acquire hc.1 hc.2 c.blocking hahead hacq
        have := ih h' hrest hahead'
        simpa [Int.add_assoc] using this

end RateLimiter

/-- A fresh limiter of positive rate, at its creation reading `t0`, is bounded by any cap of at
least its rate. -/
theorem bounded_newRateLimiter {rate : Int64} (hrate : 0 < rate) (window : Int64) {t0 t : Int64}
    (ht : t0 ≤ t) {cap : ℤ} (hcap : rate.toInt ≤ cap) :
    (newRateLimiter rate window t0).Bounded t0 t cap 0 := by
  obtain ⟨rpw, w, heq, hrpw, hw₁, hw₂⟩ := newRateLimiter_eq hrate window t0
  rw [Int64.lt_iff_toInt_lt] at hrate
  rw [Int64.le_iff_toInt_le] at ht
  have h0 : (0 : Int64).toInt = 0 := rfl
  rw [heq]
  exact ⟨⟨hrate, hw₁, hw₂, hrpw⟩, hcap, ht, by simp [h0], by simp [h0]; omega,
    by simp [h0, RateLimiter.minted_self]⟩

/-- The token-bucket bound: over every run of `AcquireBlocking` and `AcquireNonBlocking` calls
for positive token counts on a limiter that `NewRateLimiter` made with a positive rate at `t0`,
on non-decreasing clock readings up to `t`, the calls completed grant at most `ratePerWindow`
tokens for each whole window from `t0` to `t`, and the bucket lies within
`[0, max(capacity, largest token)]`. -/
theorem run_granted_le_minted {rate : Int64} (hrate : 0 < rate) (window t0 : Int64)
    {calls : List Call} (hcalls : ∀ c ∈ calls, 0 < c.token) {readings : List Int64}
    (hmono : (t0 :: readings).Pairwise (· ≤ ·)) {t : Int64} (ht : ∀ r ∈ t0 :: readings, r ≤ t) :
    (((newRateLimiter rate window t0).run calls readings).2.map granted).sum ≤
        (newRateLimiter rate window t0).ratePerWindow.toInt *
          ((t.toInt - t0.toInt) / ((newRateLimiter rate window t0).window.toInt * 1000000)) ∧
      0 ≤ ((newRateLimiter rate window t0).run calls readings).1.bucket.toInt ∧
      ((newRateLimiter rate window t0).run calls readings).1.bucket.toInt ≤
        max (newRateLimiter rate window t0).capacity.toInt ((calls.map fun c => c.token.toInt).foldr max 0) := by
  set rl0 := newRateLimiter rate window t0 with hrl0
  set cap := max rl0.capacity.toInt ((calls.map fun c => c.token.toInt).foldr max 0) with hcap
  obtain ⟨rpw, w, heq, -, -, -⟩ := newRateLimiter_eq hrate window t0
  have hcapacity : rl0.capacity.toInt ≤ cap := le_max_left _ _
  have hcalls' : ∀ c ∈ calls, 1 ≤ c.token.toInt ∧ c.token.toInt ≤ cap := by
    intro c hc
    have hpos := hcalls c hc
    rw [Int64.lt_iff_toInt_lt, show (0 : Int64).toInt = 0 from rfl] at hpos
    exact ⟨hpos, le_max_of_le_right (List.le_max_of_le' 0 (List.mem_map_of_mem hc) le_rfl)⟩
  -- the readings follow the creation reading `t0`, which is the limiter's last refill
  have hahead : RateLimiter.Ahead t rl0 readings := by
    refine ⟨hmono.of_cons, fun r hr => ⟨?_, ht r (List.mem_cons_of_mem t0 hr)⟩⟩
    rw [show rl0.last = t0 by rw [hrl0, heq]]
    exact List.rel_of_pairwise_cons hmono hr
  have hinit : rl0.Bounded t0 t cap 0 :=
    bounded_newRateLimiter hrate window (ht t0 List.mem_cons_self)
      (show rate.toInt ≤ cap by rw [show rate = rl0.capacity by rw [hrl0, heq]]; exact hcapacity)
  have hrun := hinit.run hcalls' hahead
  rw [Int.zero_add] at hrun
  refine ⟨?_, hrun.bucket_nonneg, hrun.bucket_le⟩
  -- the tokens granted and left are minted by the last refill, before `t`
  calc ((rl0.run calls readings).2.map granted).sum
      ≤ ((rl0.run calls readings).2.map granted).sum + (rl0.run calls readings).1.bucket.toInt :=
        Int.le_add_of_nonneg_right hrun.bucket_nonneg
    _ ≤ (rl0.run calls readings).1.minted t0 (rl0.run calls readings).1.last := hrun.total_le
    _ ≤ (rl0.run calls readings).1.minted t0 t := hrun.wf.minted_mono t0 hrun.last_le
    _ = rl0.minted t0 t := by rw [(RateLimiter.run_refills rl0 calls readings).minted_eq]

theorem run_granted_le_minted_two_calls :
    (0 : Int64) < 1000 ∧ (∀ c ∈ [(⟨1, false⟩ : Call), ⟨2, true⟩], 0 < c.token) ∧
      ([0, 1000000, 3000000] : List Int64).Pairwise (· ≤ ·) ∧
      (∀ r ∈ ([0, 1000000, 3000000] : List Int64), r ≤ 5000000) ∧
      ((((newRateLimiter 1000 1 0).run [⟨1, false⟩, ⟨2, true⟩] [1000000, 3000000]).2.map granted).sum ≤
          (newRateLimiter 1000 1 0).ratePerWindow.toInt *
            (((5000000 : Int64).toInt - (0 : Int64).toInt) / ((newRateLimiter 1000 1 0).window.toInt * 1000000)) ∧
        0 ≤ ((newRateLimiter 1000 1 0).run [⟨1, false⟩, ⟨2, true⟩] [1000000, 3000000]).1.bucket.toInt ∧
        ((newRateLimiter 1000 1 0).run [⟨1, false⟩, ⟨2, true⟩] [1000000, 3000000]).1.bucket.toInt ≤
          max (newRateLimiter 1000 1 0).capacity.toInt
            (([(⟨1, false⟩ : Call), ⟨2, true⟩].map fun c => c.token.toInt).foldr max 0)) :=
  ⟨by decide, by simp, by decide, by simp,
    run_granted_le_minted (by decide) 1 0 (by simp) (by decide) (by simp)⟩

end Dragonfly.Ratelimiter
