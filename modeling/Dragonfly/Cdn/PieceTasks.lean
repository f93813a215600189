import Dragonfly.Daemon.Storage
import Dragonfly.Util.Range
import Dragonfly.Base.SortedWindow
import Mathlib.Data.Finset.Sort

/-!
# The two piece-task servers

The CDN's `Server.GetPieceTasks` (`cdn/rpcserver/rpcserver.go:160`) with
`cdnService.GetSeedPieces` (`cdn/supervisor/service.go:131`), and the dfdaemon's
`localTaskStore.GetPieces`. The CDN walks the task's pieces in increasing order and returns
the first `Limit` from `StartNum` on; the dfdaemon looks up the piece numbers of the window
`[StartNum, StartNum + Limit)`. The two agree only up to the window: the dfdaemon's list is
the CDN's cut below `StartNum + Limit`.
-/

namespace Dragonfly.Cdn

open Dragonfly.Base Dragonfly.Base.GoText Dragonfly.Util Dragonfly.Rpc Dragonfly.Daemon

/-- `task.PieceInfo` (`cdn/supervisor/task/task.go:91`); the ranges are pointers. -/
structure SeedPiece where
  pieceNum : UInt32
  pieceMd5 : List Char
  pieceRange : Option Range
  originRange : Option Range
  pieceLen : UInt32
  pieceStyle : Int32
  deriving DecidableEq, Repr

/-- `CdnStatus` (`task.go:196–211`). -/
inductive CdnStatus where
  | waiting | running | failed | success | sourceError
  deriving DecidableEq, Repr

/-- The fields of a `task.SeedTask` (`task.go:32`) that `GetPieceTasks` reads. `pieces` are
the values of the `Pieces` map, keyed by their piece numbers. -/
structure SeedTask where
  id : List Char
  sourceFileLength : Int64
  cdnStatus : CdnStatus
  totalPieceCount : Int32
  pieceMd5Sign : List Char
  pieces : List SeedPiece
  deriving DecidableEq, Repr

namespace SeedTask

/-- `SeedTask.IsError` (`task.go:163`). -/
def isError (t : SeedTask) : Bool := t.cdnStatus = .failed || t.cdnStatus = .sourceError

/-- `Pieces[n]`, the piece numbered `n`. -/
def piece (t : SeedTask) (n : UInt32) : Option SeedPiece := t.pieces.find? (·.pieceNum = n)

end SeedTask

/-- `cdnService.GetSeedPieces` (`service.go:131`): the task's pieces sorted by number;
`sort.Slice` is an insertion sort here, one of the orders it may give. -/
def getSeedPieces (t : SeedTask) : List SeedPiece :=
  t.pieces.insertionSort fun a b => a.pieceNum ≤ b.pieceNum

/-- The `base.PieceInfo` of a CDN piece (`rpcserver.go:204–211`), `none` where a range
pointer is nil and the copy panics. -/
def SeedPiece.pieceInfo (p : SeedPiece) : Option PieceInfo :=
  match p.pieceRange, p.originRange with
  | some r, some o => some ⟨p.pieceNum.toInt32, r.startIndex, p.pieceLen, p.pieceMd5, o.startIndex,
      p.pieceStyle⟩
  | _, _ => none

/-- The loop of `GetPieceTasks` (`rpcserver.go:201–215`) with `count` pieces taken so far:
take a piece from `StartNum` on while fewer than `Limit` are taken, or always when
`Limit = 0`. -/
def selectPieces (startNum limit : UInt32) : UInt32 → List SeedPiece → Option (List PieceInfo)
  | _, [] => some []
  | count, p :: ps =>
    if startNum ≤ p.pieceNum ∧ (count < limit ∨ limit ≤ 0) then
      p.pieceInfo.bind fun info =>
        (selectPieces startNum limit (count + 1) ps).map (info :: ·)
    else selectPieces startNum limit count ps

/-- The errors of `GetPieceTasks` (`rpcserver.go:168–199`), by `dferrors` code. -/
inductive PieceTasksError where
  /-- `Code_CDNTaskNotFound`, `"failed to get task(%s): %v"` -/
  | taskNotFound (taskId : List Char)
  /-- `Code_CDNTaskDownloadFail`, `"task(%s) status is FAIL, cdnStatus: %s"` -/
  | taskDownloadFail (taskId : List Char) (cdnStatus : CdnStatus)
  /-- `Code_UnknownError`, `"get task(%s) piece tasks encounter an panic: %v"` -/
  | panic (taskId : List Char)
  deriving DecidableEq, Repr

/-- The digests of pieces `0, ..., len(Pieces) - 1` (`rpcserver.go:217–223`), `none` where a
number is missing and the lookup panics. -/
def pieceMd5s (t : SeedTask) : Option (List (List Char)) :=
  (List.range t.pieces.length).mapM fun i => (t.piece (UInt32.ofNat i)).map (·.pieceMd5)

/-- `Server.GetPieceTasks` (`rpcserver.go:160`) for the task the manager holds under
`req.TaskId` (`none` when it holds none); `dstAddr` is the advertised `ip:port` and `sha256`
is `digestutils.Sha256` of the piece digests. -/
def getPieceTasks (dstAddr : List Char) (sha256 : List (List Char) → List Char)
    (task : Option SeedTask) (req : PieceTaskRequest) : Except PieceTasksError PiecePacket :=
  match task with
  | none => .error (.taskNotFound req.taskId)
  | some t =>
    if t.isError then .error (.taskDownloadFail t.id t.cdnStatus)
    else
      match selectPieces req.startNum req.limit 0 (getSeedPieces t) with
      | none => .error (.panic req.taskId)
      | some pieceInfos =>
        let sign :=
          if (t.pieces.length : ℤ) = t.totalPieceCount.toInt ∧ t.pieceMd5Sign = [] then
            (pieceMd5s t).map sha256
          else some t.pieceMd5Sign
        match sign with
        | none => .error (.panic req.taskId)
        | some pieceMd5Sign =>
          .ok ⟨req.taskId, req.dstPid, dstAddr, pieceInfos, t.totalPieceCount,
            t.sourceFileLength, pieceMd5Sign⟩

/-! ### The two servers on a gap -/

/-- A stored piece with number `n` and no content to speak of. -/
def gapPiece (n : UInt32) : SeedPiece := ⟨n, [], some ⟨0, 0⟩, some ⟨0, 0⟩, 1, 0⟩

/-- A seeding task whose writer pool has finished pieces 0 and 2 but not yet piece 1. -/
def gapTask : SeedTask := ⟨[], 12, .running, 3, [], [gapPiece 2, gapPiece 0]⟩

/-- The dfdaemon's store of the same two pieces. -/
def gapStore : TaskStore where
  peerID := []
  contentLength := 12
  totalPieces := 3
  pieces := fun k =>
    if k = 0 ∨ k = 2 then some ⟨k, [], 0, ⟨0, 1⟩, 0⟩ else none
  pieceMd5Sign := []
  invalid := false

/-- Asked for two pieces from piece 0, the CDN answers pieces 0 and 2, the dfdaemon only
piece 0. -/
theorem getPieceTasks_gap_differs :
    ((getPieceTasks [] (fun _ => []) (some gapTask) ⟨[], [], [], 0, 2⟩).map
        fun pp => pp.pieceInfos.map (·.pieceNum)) = .ok [0, 2] ∧
      ((gapStore.getPieces ⟨[], [], [], 0, 2⟩).map
        fun pp => pp.pieceInfos.map (·.pieceNum)) = .ok [0] := ⟨rfl, rfl⟩

/-! ### The CDN answers the first pieces from `StartNum` on -/

theorem pieceNum_of_pieceInfo {p : SeedPiece} {info : PieceInfo} (h : p.pieceInfo = some info) :
    info.pieceNum = p.pieceNum.toInt32 := by
  unfold SeedPiece.pieceInfo at h
  split at h
  · cases h
    rfl
  · cases h

/-- With `Limit > 0` and `count ≤ Limit` pieces taken, the loop answers the numbers of the
next `Limit - count` pieces from `StartNum` on. -/
theorem selectPieces_pieceNums {startNum limit : UInt32} (hlim : 0 < limit)
    {ps : List SeedPiece} {count : UInt32} {infos : List PieceInfo} (hc : count ≤ limit)
    (h : selectPieces startNum limit count ps = some infos) :
    infos.map (·.pieceNum) = ((ps.filter (startNum ≤ ·.pieceNum)).take
      (limit.toNat - count.toNat)).map (·.pieceNum.toInt32) := by
  induction ps generalizing count infos with
  | nil =>
    cases h
    simp
  | cons p ps ih =>
    have hlimit : ¬ limit ≤ 0 := by
      rw [UInt32.lt_iff_toNat_lt] at hlim
      rw [UInt32.le_iff_toNat_le]
      exact Nat.not_le_of_lt hlim
    rw [selectPieces] at h
    by_cases hs : startNum ≤ p.pieceNum
    · rw [List.filter_cons, if_pos (decide_eq_true hs)]
      by_cases hlt : count < limit
      -- a piece is taken: the rest of the loop runs from `count + 1`
      · rw [if_pos ⟨hs, .inl hlt⟩, Option.bind_eq_some_iff] at h
        obtain ⟨info, hinfo, hrest⟩ := h
        rw [Option.map_eq_some_iff] at hrest
        obtain ⟨rest, hrest, rfl⟩ := hrest
        have hlt' := UInt32.lt_iff_toNat_lt.mp hlt
        have hnext : (count + 1).toNat = count.toNat + 1 :=
          toNat_add_one_of_lt (by have := limit.toNat_lt; omega)
        have hle : count + 1 ≤ limit := by
          rw [UInt32.le_iff_toNat_le, hnext]
          exact hlt'
        have hsucc : limit.toNat - count.toNat = limit.toNat - (count + 1).toNat + 1 := by
          omega
        rw [List.map_cons, pieceNum_of_pieceInfo hinfo, ih hle hrest, hsucc, List.take_succ_cons,
          List.map_cons]
      -- `Limit` pieces are taken: the loop skips the rest
      · have hzero : limit.toNat - count.toNat = 0 := by
          have := UInt32.le_iff_toNat_le.mp hc
          rw [UInt32.lt_iff_toNat_lt] at hlt
          omega
        rw [if_neg (fun h => h.2.elim hlt hlimit)] at h
        have := ih hc h
        rw [hzero, List.take_zero, List.map_nil] at this ⊢
        exact this
    · rw [if_neg (fun h => hs h.1)] at h
      rw [List.filter_cons, if_neg (by simpa using hs)]
      exact ih hc h

/-- The seed pieces sorted by number are strictly increasing when the numbers are distinct. -/
theorem pairwise_lt_getSeedPieces {t : SeedTask} (hnodup : (t.pieces.map (·.pieceNum.toNat)).Nodup) :
    ((getSeedPieces t).map (·.pieceNum.toNat)).Pairwise (· < ·) := by
  have htotal : Std.Total fun a b : SeedPiece => a.pieceNum ≤ b.pieceNum :=
    ⟨fun a b => UInt32.le_total a.pieceNum b.pieceNum⟩
  have htrans : IsTrans SeedPiece fun a b => a.pieceNum ≤ b.pieceNum :=
    ⟨fun _ _ _ => UInt32.le_trans⟩
  have hle : ((getSeedPieces t).map (·.pieceNum.toNat)).Pairwise (· ≤ ·) := by
    rw [List.pairwise_map]
    exact (List.pairwise_insertionSort _ t.pieces).imp UInt32.le_iff_toNat_le.mp
  have hperm : ((getSeedPieces t).map (·.pieceNum.toNat)).Perm (t.pieces.map (·.pieceNum.toNat)) :=
    (List.perm_insertionSort _ t.pieces).map _
  exact (hle.and (hperm.nodup_iff.mpr hnodup)).imp fun h => Nat.lt_of_le_of_ne h.1 h.2

theorem mem_getSeedPieces {t : SeedTask} {p : SeedPiece} : p ∈ getSeedPieces t ↔ p ∈ t.pieces :=
  (List.perm_insertionSort _ t.pieces).mem_iff

/-- A packet of `GetPieceTasks` carries what the loop selected over the sorted pieces. -/
theorem selectPieces_of_getPieceTasks {dstAddr : List Char} {sha256 : List (List Char) → List Char}
    {t : SeedTask} {req : PieceTaskRequest} {pc : PiecePacket}
    (hc : getPieceTasks dstAddr sha256 (some t) req = .ok pc) :
    selectPieces req.startNum req.limit 0 (getSeedPieces t) = some pc.pieceInfos := by
  simp only [getPieceTasks] at hc
  split at hc
  · cases hc
  · split at hc
    · cases hc
    · next infos hsel =>
      -- the piece signature decides only between a panic and this packet
      generalize (if (t.pieces.length : ℤ) = t.totalPieceCount.toInt ∧ t.pieceMd5Sign = [] then
        (pieceMd5s t).map sha256 else some t.pieceMd5Sign) = sign at hc
      cases sign with
      | none => cases hc
      | some sign =>
        cases hc
        exact hsel

section Window

variable {S : Finset ℕ} {req : PieceTaskRequest}

/-- The numbers the CDN answers, as integers: the first `Limit` of the sorted numbers from
`StartNum` on, when every number is below `2^31`. -/
theorem getPieceTasks_pieceNums {dstAddr : List Char} {sha256 : List (List Char) → List Char}
    {t : SeedTask} {pc : PiecePacket} (hS : ∀ n ∈ S, n < 2 ^ 31)
    (hcdn : ∀ n, n ∈ t.pieces.map (·.pieceNum.toNat) ↔ n ∈ S) (hlim : 0 < req.limit)
    (hc : getPieceTasks dstAddr sha256 (some t) req = .ok pc) :
    pc.pieceInfos.map (·.pieceNum.toInt) =
      ((((getSeedPieces t).map (·.pieceNum.toNat)).filter (req.startNum.toNat ≤ ·)).take
        req.limit.toNat).map (↑) := by
  have hnums := selectPieces_pieceNums hlim UInt32.zero_le (selectPieces_of_getPieceTasks hc)
  have hsmall : ∀ p ∈ getSeedPieces t, p.pieceNum.toInt32.toInt = p.pieceNum.toNat := by
    intro p hp
    apply toInt_toInt32_of_lt
    apply hS
    rw [← hcdn]
    exact List.mem_map_of_mem (mem_getSeedPieces.mp hp)
  have hfilter : (getSeedPieces t).filter (req.startNum ≤ ·.pieceNum) =
      (getSeedPieces t).filter ((req.startNum.toNat ≤ ·) ∘ (·.pieceNum.toNat)) := by
    apply List.filter_congr
    intro p _
    simp [UInt32.le_iff_toNat_le]
  calc pc.pieceInfos.map (·.pieceNum.toInt)
      = (pc.pieceInfos.map (·.pieceNum)).map Int32.toInt := by rw [List.map_map]; rfl
    _ = (((getSeedPieces t).filter (req.startNum ≤ ·.pieceNum)).take req.limit.toNat).map
          fun p => p.pieceNum.toInt32.toInt := by
        rw [hnums, UInt32.toNat_zero, Nat.sub_zero, List.map_map]
        rfl
    _ = (((getSeedPieces t).filter (req.startNum ≤ ·.pieceNum)).take req.limit.toNat).map
          fun p => (p.pieceNum.toNat : ℤ) := by
        apply List.map_congr_left
        intro p hp
        exact hsmall p (List.mem_of_mem_filter (List.mem_of_mem_take hp))
    _ = _ := by
        rw [hfilter, List.filter_map, ← List.map_take, List.map_map]
        rfl

/-- The window key `int32(StartNum) + int32(i)` of the dfdaemon's store holds a piece
exactly when `StartNum + i` is a stored number. -/
theorem windowPieceNum {store : TaskStore}
    (hstore : ∀ k : Int32, (store.pieces k).map (·.num) =
      if 0 ≤ k.toInt ∧ k.toInt.toNat ∈ S then some k else none)
    {i : ℕ} (hi : req.startNum.toNat + i < 2 ^ 31) :
    ((store.pieces (req.startNum.toInt32 + Int32.ofNat i)).map TaskStore.pieceInfo).map
        (·.pieceNum.toInt) =
      if req.startNum.toNat + i ∈ S then some ((req.startNum.toNat + i : ℕ) : ℤ) else none := by
  have hkey := toInt_toInt32_add_ofNat hi
  have h := congrArg (Option.map Int32.toInt) (hstore (req.startNum.toInt32 + Int32.ofNat i))
  rw [Option.map_map] at h ⊢
  change Option.map (Int32.toInt ∘ PieceMetadata.num) _ = _
  have hcond : (0 ≤ ((req.startNum.toNat + i : ℕ) : ℤ) ∧
      ((req.startNum.toNat + i : ℕ) : ℤ).toNat ∈ S) ↔ req.startNum.toNat + i ∈ S := by
    rw [Int.toNat_natCast]
    exact ⟨fun h => h.2, fun h => ⟨by omega, h⟩⟩
  rw [h, hkey]
  by_cases hmem : req.startNum.toNat + i ∈ S
  · rw [if_pos (hcond.mpr hmem), if_pos hmem, Option.map_some, hkey]
  · rw [if_neg (mt hcond.mp hmem), if_neg hmem, Option.map_none]

/-- The numbers the dfdaemon answers, as integers: the stored numbers of the window
`[StartNum, StartNum + Limit)`, in increasing order. -/
theorem windowPieces_pieceNums {store : TaskStore}
    (hstore : ∀ k : Int32, (store.pieces k).map (·.num) =
      if 0 ≤ k.toInt ∧ k.toInt.toNat ∈ S then some k else none)
    (hwin : req.startNum.toNat + req.limit.toNat < 2 ^ 31) {L : List ℕ}
    (hL : L.Pairwise (· < ·)) (hLS : ∀ n, n ∈ L ↔ n ∈ S) :
    (store.windowPieces req).map (·.pieceNum.toInt) =
      (L.filter fun n => req.startNum.toNat ≤ n ∧ n < req.startNum.toNat + req.limit.toNat).map
        (↑) := by
  have hlimit : req.limit.toInt32.toInt.toNat = req.limit.toNat := by
    rw [toInt_toInt32_of_lt (by omega), Int.toNat_natCast]
  have hnums : (store.windowPieces req).map (·.pieceNum.toInt) =
      (List.range req.limit.toNat).filterMap fun i =>
        if req.startNum.toNat + i ∈ S then some ((req.startNum.toNat + i : ℕ) : ℤ) else none := by
    rw [TaskStore.windowPieces, hlimit, List.map_filterMap]
    apply List.filterMap_congr
    intro i hi
    exact windowPieceNum hstore (by rw [List.mem_range] at hi; omega)
  rw [hnums]
  refine List.Pairwise.eq_of_mem_iff (?_ : List.Pairwise (· < ·) _) ?_ ?_
  -- the window keys increase with `i`
  · apply List.Pairwise.filterMap _ _ List.pairwise_lt_range
    intro a a' hlt b hb b' hb'
    rw [Option.ite_none_right_eq_some, Option.some.injEq] at hb hb'
    omega
  · rw [List.pairwise_map]
    exact (hL.filter _).imp Int.ofNat_lt.mpr
  · intro b
    simp only [List.mem_filterMap, List.mem_range, Option.ite_none_right_eq_some,
      Option.some.injEq, List.mem_map, List.mem_filter, hLS, decide_eq_true_eq]
    constructor
    · rintro ⟨i, hi, hmem, rfl⟩
      exact ⟨req.startNum.toNat + i, ⟨hmem, by omega, by omega⟩, rfl⟩
    · rintro ⟨n, ⟨hmem, hlo, hhi⟩, rfl⟩
      have hn : req.startNum.toNat + (n - req.startNum.toNat) = n := by omega
      exact ⟨n - req.startNum.toNat, by omega, by rw [hn]; exact hmem, by rw [hn]⟩

/-- Over the same stored numbers `S`, below `2^31`, with `Limit > 0` and the window below
`2^31`: the CDN's numbers increase, and the dfdaemon answers the CDN's list cut below
`StartNum + Limit`. -/
theorem getPieces_eq_getPieceTasks_below_window (dstAddr : List Char)
    (sha256 : List (List Char) → List Char) {t : SeedTask} {store : TaskStore} {pc pd : PiecePacket}
    (hS : ∀ n ∈ S, n < 2 ^ 31) (hnodup : (t.pieces.map (·.pieceNum.toNat)).Nodup)
    (hcdn : ∀ n, n ∈ t.pieces.map (·.pieceNum.toNat) ↔ n ∈ S)
    (hstore : ∀ k : Int32, (store.pieces k).map (·.num) =
      if 0 ≤ k.toInt ∧ k.toInt.toNat ∈ S then some k else none)
    (hlim : 0 < req.limit) (hwin : req.startNum.toNat + req.limit.toNat < 2 ^ 31)
    (hc : getPieceTasks dstAddr sha256 (some t) req = .ok pc) (hd : store.getPieces req = .ok pd) :
    (pc.pieceInfos.map (·.pieceNum.toInt)).Pairwise (· < ·) ∧
      pd.pieceInfos.map (·.pieceNum.toInt) = (pc.pieceInfos.map (·.pieceNum.toInt)).filter
        (· < ((req.startNum.toNat + req.limit.toNat : ℕ) : ℤ)) := by
  have hL := pairwise_lt_getSeedPieces hnodup
  have hLS : ∀ n, n ∈ (getSeedPieces t).map (·.pieceNum.toNat) ↔ n ∈ S := by
    intro n
    rw [← hcdn]
    exact ((List.perm_insertionSort _ t.pieces).map _).mem_iff
  have hcdnNums := getPieceTasks_pieceNums hS hcdn hlim hc
  -- cutting below `StartNum + Limit` commutes with reading the numbers as integers
  have hcut : ∀ l : List ℕ, (l.map (↑)).filter (· < ((req.startNum.toNat + req.limit.toNat : ℕ) : ℤ)) =
      (l.filter (· < req.startNum.toNat + req.limit.toNat)).map (↑) := by
    intro l
    rw [List.filter_map]
    congr 1
    apply List.filter_congr
    intro n _
    simp only [Function.comp_apply, decide_eq_decide]
    omega
  constructor
  · rw [hcdnNums, List.pairwise_map]
    exact ((hL.filter _).sublist (List.take_sublist _ _)).imp Int.ofNat_lt.mpr
  · rw [(TaskStore.getPieces_ok hd).2, windowPieces_pieceNums hstore hwin hL hLS, hcdnNums, hcut,
      filter_window hL]

end Window

/-- The store of `gapStore` holds a piece exactly at the numbers 0 and 2. -/
theorem gapStore_pieces (k : Int32) : (gapStore.pieces k).map (·.num) =
    if 0 ≤ k.toInt ∧ k.toInt.toNat ∈ ({0, 2} : Finset ℕ) then some k else none := by
  have hkeys : (k = 0 ∨ k = 2) ↔ 0 ≤ k.toInt ∧ k.toInt.toNat ∈ ({0, 2} : Finset ℕ) := by
    rw [← Int32.toInt_inj, ← Int32.toInt_inj]
    simp only [Int32.toInt_zero, Finset.mem_insert, Finset.mem_singleton]
    have h2 : (2 : Int32).toInt = 2 := rfl
    omega
  by_cases hk : k = 0 ∨ k = 2
  · simp only [gapStore, if_pos hk, if_pos (hkeys.mp hk), Option.map_some]
  · simp only [gapStore, if_neg hk, if_neg (mt hkeys.mpr hk), Option.map_none]

theorem getPieces_eq_getPieceTasks_below_window_gap :
    ∃ pc pd, getPieceTasks [] (fun _ => []) (some gapTask) ⟨[], [], [], 0, 2⟩ = .ok pc ∧
      gapStore.getPieces ⟨[], [], [], 0, 2⟩ = .ok pd ∧
      (pc.pieceInfos.map (·.pieceNum.toInt)).Pairwise (· < ·) ∧
      pd.pieceInfos.map (·.pieceNum.toInt) =
        (pc.pieceInfos.map (·.pieceNum.toInt)).filter (· < ((0 + 2 : ℕ) : ℤ)) :=
  ⟨_, _, rfl, rfl, getPieces_eq_getPieceTasks_below_window [] (fun _ => [])
    (show ∀ n ∈ ({0, 2} : Finset ℕ), n < 2 ^ 31 by decide)
    (show (gapTask.pieces.map (·.pieceNum.toNat)).Nodup by decide)
    (fun n => by simp [gapTask, gapPiece, or_comm]) gapStore_pieces (by decide) (by decide) rfl rfl⟩

end Dragonfly.Cdn
