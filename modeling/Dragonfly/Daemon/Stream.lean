import Mathlib.Data.Finset.Card
import Dragonfly.Base.GoText
import Dragonfly.Base.WordArith

/-!
# Streaming a task's pieces to the pipe

`streamTask.writeToPipe` (`client/daemon/peer/peertask_stream.go:162`) writes the pieces of a
task to a pipe in order while they come in. It keeps `desired`, the next piece to write, and a
cache of pieces that came in early. A piece that is `desired` is written, and so is each next
piece already cached (`drain`); any other is cached (`receive`). When `successCh` closes, the
pieces left are written one by one until `desired` reaches `readyPieces.Settled()` (`catchUp`),
whatever notifications the subscriber channel dropped or repeated.

The channels are a list of events, in the order the `select` takes them, and storage is
`readPiece`, the bytes `writeOnePiece` (`:141`) copies for a piece or its error. For a task whose
pieces `0..N-1` are all ready when `successCh` closes, every order of notifications of its pieces
writes the bytes of pieces `0, 1, …, N-1` once each, in order, and closes the pipe without error
(`InOrder`, `writeToPipe_writes_in_order`). The bytes `io.Copy` writes before an error are left
out, as are the trace spans and the log lines.
-/

namespace Dragonfly.Daemon

open Dragonfly.Base.GoText Dragonfly.Base.WordArith

/-- What the `select` of `writeToPipe` (`peertask_stream.go:207`) takes. -/
inductive StreamEvent
  /-- `cur = <-s.pieceCh`. -/
  | piece (num : Int32)
  /-- `<-s.ctx.Done()`. -/
  | contextDone
  /-- `<-s.peerTaskConductor.failCh`. -/
  | peerTaskFailed
  /-- `<-s.peerTaskConductor.successCh`. -/
  | success
  deriving DecidableEq, Repr

/-- Why `writeToPipe` closes the pipe with an error. -/
inductive StreamError (ε : Type)
  | contextDone
  | peerTaskFailed
  | write (err : ε)
  deriving DecidableEq, Repr

/-- How `writeToPipe` closes the pipe: `pw.Close()` or `pw.CloseWithError`. -/
inductive PipeEnd (ε : Type)
  | close
  | closeWithError (err : StreamError ε)
  deriving DecidableEq, Repr

/-- The locals of `writeToPipe`, and the bytes written to the pipe. -/
structure WriteState where
  desired : Int32
  cache : Finset Int32
  written : List UInt8

variable {ε : Type} (readPiece : Int32 → Except ε (List UInt8))

/-- The inner loop of `writeToPipe` (`peertask_stream.go:178–198`): write `desired`, already out
of the cache, and go on while the next piece is cached, deleting it. -/
def drain (s : WriteState) : WriteState × Option (PipeEnd ε) :=
  match readPiece s.desired with
  | .error err => (s, some (.closeWithError (.write err)))
  | .ok bytes =>
    let desired := s.desired + 1
    if desired ∈ s.cache then drain ⟨desired, s.cache.erase desired, s.written ++ bytes⟩
    else (⟨desired, s.cache, s.written ++ bytes⟩, none)
termination_by s.cache.card
decreasing_by exact Finset.card_erase_lt_of_mem ‹_›

/-- The body of the loop for the piece `cur` that came in (`peertask_stream.go:177–205`): the
desired piece is written with those cached after it, any other is cached. -/
def receive (s : WriteState) (cur : Int32) : WriteState × Option (PipeEnd ε) :=
  if s.desired = cur then drain readPiece { s with cache := s.cache.erase s.desired }
  -- a stale piece, below `desired`, is cached too, with a warning
  else ({ s with cache := insert cur s.cache }, none)

/-- After `successCh` (`peertask_stream.go:227–251`): write `desired` on until it reaches
`settled`. `desired` meets every `int32` within `2 ^ 32` increments, so the loop has that fuel. -/
def catchUp (settled : Int32) (s : WriteState) : ℕ → WriteState × Option (PipeEnd ε)
  | 0 => (s, none)
  | fuel + 1 =>
    if settled = s.desired then (s, some .close)
    else
      match readPiece s.desired with
      | .error err => (s, some (.closeWithError (.write err)))
      | .ok bytes => catchUp settled ⟨s.desired + 1, s.cache, s.written ++ bytes⟩ fuel

/-- The `select` of `writeToPipe` (`peertask_stream.go:207–252`) over the events it takes: the
state and how the pipe was closed, `none` while it still waits. -/
def selectLoop (settled : Int32) (s : WriteState) : List StreamEvent → WriteState × Option (PipeEnd ε)
  | [] => (s, none)
  | .contextDone :: _ => (s, some (.closeWithError .contextDone))
  | .peerTaskFailed :: _ => (s, some (.closeWithError .peerTaskFailed))
  | .success :: _ => catchUp readPiece settled s (2 ^ 32)
  | .piece cur :: events =>
    match receive readPiece s cur with
    | (s, some e) => (s, some e)
    | (s, none) => selectLoop settled s events

/-- `writeToPipe` (`peertask_stream.go:162`) from the first piece, `settled` being what
`readyPieces.Settled()` reads after success. -/
def writeToPipe (settled firstPiece : Int32) (events : List StreamEvent) :
    WriteState × Option (PipeEnd ε) :=
  let s : WriteState := ⟨0, {firstPiece}, []⟩
  match receive readPiece s firstPiece with
  | (s, some e) => (s, some e)
  | (s, none) => selectLoop readPiece settled s events

/-! ### What each loop does -/

section Loops

variable {readPiece} {s : WriteState} {b : List UInt8}

theorem drain_of_mem (hb : readPiece s.desired = .ok b) (hmem : s.desired + 1 ∈ s.cache) :
    drain readPiece s = drain readPiece ⟨s.desired + 1, s.cache.erase (s.desired + 1), s.written ++ b⟩ := by
  rw [drain, hb]
  exact if_pos hmem

theorem drain_of_not_mem (hb : readPiece s.desired = .ok b) (hmem : s.desired + 1 ∉ s.cache) :
    drain readPiece s = (⟨s.desired + 1, s.cache, s.written ++ b⟩, none) := by
  rw [drain, hb]
  exact if_neg hmem

theorem catchUp_of_eq {settled : Int32} (h : settled = s.desired) (fuel : ℕ) :
    catchUp readPiece settled s (fuel + 1) = (s, some .close) := by
  rw [catchUp, if_pos h]

theorem catchUp_of_ne {settled : Int32} (h : settled ≠ s.desired) (hb : readPiece s.desired = .ok b)
    (fuel : ℕ) :
    catchUp readPiece settled s (fuel + 1) =
      catchUp readPiece settled ⟨s.desired + 1, s.cache, s.written ++ b⟩ fuel := by
  rw [catchUp, if_neg h, hb]

end Loops

/-! ### Pieces written in order -/

/-- A piece of a task of `N` pieces. -/
def IsPiece (N : ℕ) (c : Int32) : Prop := ∃ i < N, c = Int32.ofNat i

/-- What `writeToPipe` keeps while the pieces of a task of `N` pieces come in: `desired` is
`d ≤ N`, the bytes of pieces `0, …, d-1` are written in order, and the cache holds only pieces of
the task. -/
structure InOrder (bytes : ℕ → List UInt8) (N d : ℕ) (s : WriteState) : Prop where
  le : d ≤ N
  desired_eq : s.desired = Int32.ofNat d
  written_eq : s.written = (List.range d).flatMap bytes
  cache_pieces : ∀ c ∈ s.cache, IsPiece N c

section InOrder

variable {readPiece} {bytes : ℕ → List UInt8} {N : ℕ}

/-- A piece number that is `desired` is the count `d`: below `2 ^ 32` the words are distinct. -/
theorem IsPiece.lt_of_eq_ofNat (hN : N ≤ 2 ^ 31) {c : Int32} (hc : IsPiece N c) {d : ℕ} (hd : d ≤ N)
    (hcd : c = Int32.ofNat d) : d < N := by
  obtain ⟨i, hi, rfl⟩ := hc
  have hid : i = d := (Int32.ofNat_inj_of_lt (by omega) (by omega)).mp hcd
  omega

/-- Writing piece `d` moves the order on to `d + 1`. -/
theorem InOrder.advance {d : ℕ} {s : WriteState} (h : InOrder bytes N d s) (hd : d < N)
    {cache : Finset Int32} (hcache : ∀ c ∈ cache, IsPiece N c) :
    InOrder bytes N (d + 1) ⟨s.desired + 1, cache, s.written ++ bytes d⟩ where
  le := hd
  desired_eq := by rw [h.desired_eq, Int32.ofNat_add_one]
  written_eq := by rw [h.written_eq, List.range_succ, List.flatMap_append, List.flatMap_singleton]
  cache_pieces := hcache

theorem InOrder.with_cache {d : ℕ} {s : WriteState} (h : InOrder bytes N d s) {cache : Finset Int32}
    (hcache : ∀ c ∈ cache, IsPiece N c) : InOrder bytes N d { s with cache := cache } :=
  ⟨h.le, h.desired_eq, h.written_eq, hcache⟩

variable (hread : ∀ i < N, readPiece (Int32.ofNat i) = .ok (bytes i))
include hread

/-- The inner loop writes the desired piece and those cached after it, in order, without error. -/
theorem drain_inOrder (hN : N ≤ 2 ^ 31) {d : ℕ} {s : WriteState} (h : InOrder bytes N d s)
    (hd : d < N) : ∃ d', (drain readPiece s).2 = none ∧ InOrder bytes N d' (drain readPiece s).1 := by
  have hb : readPiece s.desired = .ok (bytes d) := by rw [h.desired_eq, hread d hd]
  have hnext : s.desired + 1 = Int32.ofNat (d + 1) := by rw [h.desired_eq, Int32.ofNat_add_one]
  by_cases hmem : s.desired + 1 ∈ s.cache
  · -- the next piece is cached: it is taken out and written next
    have hcache : ∀ c ∈ s.cache.erase (s.desired + 1), IsPiece N c :=
      fun c hc => h.cache_pieces c (Finset.mem_of_mem_erase hc)
    have hd' : d + 1 < N := (h.cache_pieces _ hmem).lt_of_eq_ofNat hN hd hnext
    rw [drain_of_mem hb hmem]
    exact drain_inOrder hN (h.advance hd hcache) hd'
  · rw [drain_of_not_mem hb hmem]
    exact ⟨d + 1, rfl, h.advance hd h.cache_pieces⟩
termination_by s.cache.card
decreasing_by exact Finset.card_erase_lt_of_mem hmem

/-- A piece of the task that comes in is written, with those cached after it, or cached. -/
theorem receive_inOrder (hN : N ≤ 2 ^ 31) {d : ℕ} {s : WriteState} (h : InOrder bytes N d s)
    {cur : Int32} (hcur : IsPiece N cur) :
    ∃ d', (receive readPiece s cur).2 = none ∧ InOrder bytes N d' (receive readPiece s cur).1 := by
  unfold receive
  split_ifs with hdes
  · -- the desired piece, so a piece below `N`
    have hd : d < N := hcur.lt_of_eq_ofNat hN h.le (hdes ▸ h.desired_eq)
    exact drain_inOrder hread hN
      (h.with_cache fun c hc => h.cache_pieces c (Finset.mem_of_mem_erase hc)) hd
  · refine ⟨d, rfl, h.with_cache fun c hc => ?_⟩
    rcases Finset.mem_insert.mp hc with rfl | hc
    · exact hcur
    · exact h.cache_pieces c hc

/-- Pieces of the task come in, in any order and any number of times, and then success: the loop
reaches the catch-up, still in order. The induction is on the pieces that come in. -/
theorem selectLoop_success (hN : N ≤ 2 ^ 31) {d : ℕ} {s : WriteState} (h : InOrder bytes N d s)
    {arrivals : List Int32} (harrivals : ∀ c ∈ arrivals, IsPiece N c) (settled : Int32)
    (rest : List StreamEvent) :
    ∃ d' s', InOrder bytes N d' s' ∧
      selectLoop readPiece settled s (arrivals.map .piece ++ .success :: rest) =
        catchUp readPiece settled s' (2 ^ 32) := by
  induction arrivals generalizing d s with
  | nil => exact ⟨d, s, h, rfl⟩
  | cons cur arrivals ih =>
    obtain ⟨d', hnone, h'⟩ := receive_inOrder hread hN h (harrivals cur List.mem_cons_self)
    obtain ⟨d'', s'', h'', hloop⟩ := ih h' fun c hc => harrivals c (List.mem_cons_of_mem cur hc)
    refine ⟨d'', s'', h'', ?_⟩
    have hreceive : receive readPiece s cur = ((receive readPiece s cur).1, none) :=
      Prod.ext rfl hnone
    rw [List.map_cons, List.cons_append, selectLoop, hreceive]
    exact hloop

/-- After success, with `settled` the count `N`, the catch-up writes the pieces left and closes
the pipe. The induction is on the fuel, which outlasts the pieces left. -/
theorem catchUp_close (hN : N ≤ 2 ^ 31) {d : ℕ} {s : WriteState} (h : InOrder bytes N d s)
    {fuel : ℕ} (hfuel : N - d < fuel) :
    (catchUp readPiece (Int32.ofNat N) s fuel).2 = some .close ∧
      (catchUp readPiece (Int32.ofNat N) s fuel).1.written = (List.range N).flatMap bytes := by
  induction fuel generalizing d s with
  | zero => omega
  | succ fuel ih =>
    by_cases hdN : d = N
    · -- every piece is written
      subst hdN
      rw [catchUp_of_eq h.desired_eq.symm]
      exact ⟨rfl, h.written_eq⟩
    · have hd : d < N := Nat.lt_of_le_of_ne h.le hdN
      have hne : Int32.ofNat N ≠ s.desired := by
        rw [h.desired_eq]
        intro heq
        exact hdN ((Int32.ofNat_inj_of_lt (by omega) (by omega)).mp heq).symm
      have hb : readPiece s.desired = .ok (bytes d) := by rw [h.desired_eq, hread d hd]
      rw [catchUp_of_ne hne hb]
      exact ih (h.advance hd h.cache_pieces) (by omega)

/-- Stream reassembly: for a task of `N` pieces, all in storage and all ready when `successCh`
closes, whatever order the notifications of its pieces come in, with any of them dropped or
repeated, `writeToPipe` writes the bytes of pieces `0, 1, …, N-1` once each and in order, and
closes the pipe without error. -/
theorem writeToPipe_writes_in_order (hN : N ≤ 2 ^ 31) {firstPiece : Int32} {arrivals : List Int32}
    (hpieces : ∀ c ∈ firstPiece :: arrivals, ∃ i < N, c = Int32.ofNat i) (rest : List StreamEvent) :
    (writeToPipe readPiece (Int32.ofNat N) firstPiece (arrivals.map .piece ++ .success :: rest)).2 =
        some .close ∧
      (writeToPipe readPiece (Int32.ofNat N) firstPiece
        (arrivals.map .piece ++ .success :: rest)).1.written = (List.range N).flatMap bytes := by
  have hfirst : IsPiece N firstPiece := hpieces firstPiece List.mem_cons_self
  have h0 : InOrder bytes N 0 ⟨0, {firstPiece}, []⟩ :=
    ⟨Nat.zero_le N, rfl, rfl, fun c hc => by rw [Finset.mem_singleton.mp hc]; exact hfirst⟩
  obtain ⟨d, hnone, h1⟩ := receive_inOrder hread hN h0 hfirst
  obtain ⟨d', s', h2, hloop⟩ := selectLoop_success hread hN h1
    (fun c hc => hpieces c (List.mem_cons_of_mem firstPiece hc)) (Int32.ofNat N) rest
  have hreceive : receive readPiece ⟨0, {firstPiece}, []⟩ firstPiece =
      ((receive readPiece ⟨0, {firstPiece}, []⟩ firstPiece).1, none) := Prod.ext rfl hnone
  have hstart : writeToPipe readPiece (Int32.ofNat N) firstPiece
      (arrivals.map .piece ++ .success :: rest) = catchUp readPiece (Int32.ofNat N) s' (2 ^ 32) := by
    rw [writeToPipe, hreceive]
    exact hloop
  rw [hstart]
  exact catchUp_close hread hN h2 (by have := h2.le; omega)

end InOrder

theorem writeToPipe_writes_in_order_repeated :
    (∀ i < 3, (fun p : Int32 => (.ok [UInt8.ofNat p.toNatClampNeg] : Except Unit (List UInt8)))
        (Int32.ofNat i) = .ok [UInt8.ofNat i]) ∧
      3 ≤ 2 ^ 31 ∧ (∀ c ∈ [(2 : Int32), 2, 0], ∃ i < 3, c = Int32.ofNat i) ∧
      (writeToPipe (fun p : Int32 => (.ok [UInt8.ofNat p.toNatClampNeg] : Except Unit (List UInt8)))
          (Int32.ofNat 3) 2 ([(2 : Int32), 0].map .piece ++ .success :: [])).2 = some .close ∧
      (writeToPipe (fun p : Int32 => (.ok [UInt8.ofNat p.toNatClampNeg] : Except Unit (List UInt8)))
          (Int32.ofNat 3) 2 ([(2 : Int32), 0].map .piece ++ .success :: [])).1.written =
        (List.range 3).flatMap fun i => [UInt8.ofNat i] := by
  have hread : ∀ i < 3, (fun p : Int32 => (.ok [UInt8.ofNat p.toNatClampNeg] : Except Unit (List UInt8)))
      (Int32.ofNat i) = .ok [UInt8.ofNat i] := by decide
  have hpieces : ∀ c ∈ [(2 : Int32), 2, 0], ∃ i < 3, c = Int32.ofNat i := by
    intro c hc
    simp only [List.mem_cons, List.not_mem_nil, or_false] at hc
    rcases hc with rfl | rfl | rfl
    · exact ⟨2, by decide, rfl⟩
    · exact ⟨2, by decide, rfl⟩
    · exact ⟨0, by decide, rfl⟩
  exact ⟨hread, by decide, hpieces, writeToPipe_writes_in_order hread (by decide) hpieces []⟩

end Dragonfly.Daemon
