import Dragonfly.Base.Stats
import Dragonfly.Scheduler.Affinity
import Dragonfly.Scheduler.Schedule

/-!
# The base evaluator

`evaluatorBase` (`scheduler/scheduler/evaluator/evaluator_base.go`) scores a candidate parent
for a child and tells bad nodes. `Evaluate` gives `minScore` to two hosts whose security domains
are set and differ, and otherwise a weighted sum of six scores: finished pieces, free upload
load, host type, IDC, network topology and location, with weights that add up to one.
`IsBadNode` marks a peer that has failed, left or not started, and otherwise compares its last
piece cost with the mean of the earlier ones: against twenty times the mean while it has fewer
than ten costs, against the mean plus three standard deviations after.

The float64 arithmetic is kept as exact rationals and the standard deviation as the real square
root of the population variance, so the comparison with it is decided on squares
(`isBadNode_iff_sqrt`). Both functions read a peer through `PeerInfo`, the fields of the peer
and its host that they use. The scheduler calls them on the IDs of its peers
(`Resources.evaluatePeers`), and the record of a peer is read from the resources
(`Resources.peerInfo`): its state, and its host's upload load limit, peer count and CDN flag;
the host's place in the network and the peer's finished pieces and piece costs, which the
resources do not keep, come from two tables. So a candidate of `filterParents`, whose host has
free upload load, is a host below its limit to the evaluator too.

Once the task's `TotalPieceCount` is known, such a candidate of the peer's security domain
scores above `minScore`, and `NotifyAndFindParent` keeps to the peer's domain whenever it can
(`notifyAndFindParent_keeps_securityDomain`). Until then, and it stays `0` until the task
succeeds (`service.go:592`), the piece score is a difference of finished pieces that can be
negative, so a parent of another security domain, scored `minScore`, outranks one of the peer's
own domain that is three pieces behind the peer, and `NotifyAndFindParent` sends and stores a
parent across security domains, which the comment on `Evaluate` rules out
(`notifyAndFindParent_crosses_securityDomain`). The three-sigma rule is the stricter of the two
from ten up to forty-two costs: a last cost above twenty times the mean is bad under it too
(`isBadNode_of_twenty_times_mean`), and at forty-three costs it need not be.
-/

namespace Dragonfly.Scheduler.Evaluator

open Dragonfly.Base

/-- `finishedPieceWeight` (`evaluator_base.go:32`). -/
def finishedPieceWeight : ℚ := 0.3

/-- `freeLoadWeight` (`evaluator_base.go:35`). -/
def freeLoadWeight : ℚ := 0.2

/-- `hostTypeAffinityWeight` (`evaluator_base.go:38`). -/
def hostTypeAffinityWeight : ℚ := 0.2

/-- `idcAffinityWeight` (`evaluator_base.go:41`). -/
def idcAffinityWeight : ℚ := 0.15

/-- `netTopologyAffinityWeight` (`evaluator_base.go:44`). -/
def netTopologyAffinityWeight : ℚ := 0.1

/-- `locationAffinityWeight` (`evaluator_base.go:47`). -/
def locationAffinityWeight : ℚ := 0.05

/-- `normalDistributionLen` (`evaluator_base.go:61`). -/
def normalDistributionLen : ℕ := 10

/-- `minAvailableCostLen` (`evaluator_base.go:65`). -/
def minAvailableCostLen : ℕ := 2

/-- The fields of a host that the evaluator reads (`scheduler/resource/host.go`). -/
structure HostInfo where
  securityDomain : List Char
  idc : List Char
  netTopology : List Char
  location : List Char
  isCDN : Bool
  uploadLoadLimit : ℤ
  /-- `LenPeers()`. -/
  lenPeers : ℕ
  deriving DecidableEq, Repr

/-- The fields of a peer that the evaluator reads. -/
structure PeerInfo where
  host : HostInfo
  state : PeerState
  /-- `Pieces.Count()`. -/
  finishedPieceCount : ℕ
  /-- `PieceCosts()`, appended by each successful piece (`service.go:463`). -/
  pieceCosts : List ℤ
  deriving DecidableEq, Repr

/-- `calculatePieceScore` (`evaluator_base.go:96–109`). -/
def calculatePieceScore (parent child : PeerInfo) (totalPieceCount : ℤ) : ℚ :=
  if totalPieceCount > 0 then (parent.finishedPieceCount : ℚ) / totalPieceCount
  else (parent.finishedPieceCount : ℚ) - child.finishedPieceCount

/-- `calculateFreeLoadScore` (`evaluator_base.go:112–116`). -/
def calculateFreeLoadScore (host : HostInfo) : ℚ :=
  ((host.uploadLoadLimit - host.lenPeers : ℤ) : ℚ) / host.uploadLoadLimit

/-- `calculateHostTypeAffinityScore` (`evaluator_base.go:119–133`). -/
def calculateHostTypeAffinityScore (peer : PeerInfo) : ℚ :=
  if peer.host.isCDN then
    if peer.state = .receivedNormal ∨ peer.state = .running then maxScore else minScore
  else maxScore * 0.5

/-- `Evaluate` (`evaluator_base.go:78–93`). `calculateMultiElementAffinityScore` always returns
(`Affinity.calculateMultiElementAffinityScore_spec`); its `none`, an index past a slice, is
never read. -/
def evaluate (parent child : PeerInfo) (totalPieceCount : ℤ) : ℚ :=
  if parent.host.securityDomain ≠ [] ∧ child.host.securityDomain ≠ [] ∧
      parent.host.securityDomain ≠ child.host.securityDomain then minScore
  else
    finishedPieceWeight * calculatePieceScore parent child totalPieceCount +
      freeLoadWeight * calculateFreeLoadScore parent.host +
      hostTypeAffinityWeight * calculateHostTypeAffinityScore parent +
      idcAffinityWeight * calculateIDCAffinityScore parent.host.idc child.host.idc +
      netTopologyAffinityWeight *
        (calculateMultiElementAffinityScore parent.host.netTopology child.host.netTopology).getD
          minScore +
      locationAffinityWeight *
        (calculateMultiElementAffinityScore parent.host.location child.host.location).getD minScore

/-- `stats.LoadRawData` of the piece costs (`evaluator_base.go:174`). -/
def loadRawData (costs : List ℤ) : List ℚ := costs.map fun c : ℤ => (c : ℚ)

/-- `IsBadNode` (`evaluator_base.go:168–209`). `costs[len-1]` is the last cost and
`costs[:len-1]` the earlier ones; `lastCost > mean + 3 * stdev`, with `stdev` the square root of
the population variance, is decided on squares (`isBadNode_iff_sqrt`). -/
def isBadNode (peer : PeerInfo) : Bool :=
  if peer.state = .failed ∨ peer.state = .leave ∨ peer.state = .pending then true
  else
    let costs := loadRawData peer.pieceCosts
    if costs.length < minAvailableCostLen then false
    else
      let lastCost := costs.getLastD 0
      let mean := Stats.mean costs.dropLast
      if costs.length < normalDistributionLen then decide (lastCost > mean * 20)
      else decide (mean < lastCost ∧ 3 ^ 2 * Stats.populationVariance costs.dropLast <
        (lastCost - mean) ^ 2)

/-- The fields of a host that the evaluator reads and the scheduler's resources do not keep:
where it stands in the network, as it announced itself. -/
structure HostMeta where
  securityDomain : List Char
  idc : List Char
  netTopology : List Char
  location : List Char
  deriving DecidableEq, Repr

/-- The fields of a peer that the evaluator reads and the scheduler's resources do not keep: its
finished pieces and their costs. -/
structure PeerMeta where
  finishedPieceCount : ℕ
  pieceCosts : List ℤ
  deriving DecidableEq, Repr

/-- A host as the evaluator reads it: the upload load limit, the number of peers and the CDN flag
from its record, when there is one, as `freeUploadLoadOf` and `isCDNPeer` read them. -/
def hostInfo {ι : Type} (place : HostMeta) (host : Option (Host ι)) : HostInfo where
  securityDomain := place.securityDomain
  idc := place.idc
  netTopology := place.netTopology
  location := place.location
  isCDN := (host.map Host.isCDN).getD false
  uploadLoadLimit := (host.map Host.uploadLoadLimit).getD 0
  lenPeers := (host.map fun host => host.peers.card).getD 0

end Evaluator

namespace Resources

open Evaluator

variable {ι τ η : Type} (s : Resources ι τ η) (hostMeta : η → HostMeta) (peerMeta : ι → PeerMeta)

/-- Peer `p` as the evaluator reads it: its state from its record and its host from the host
manager. An ID without a record reads as `NewPeer` on an unknown host; the scheduler never
evaluates one, as `filterParents` keeps only peers whose host has free upload load. -/
def peerInfo (p : ι) : PeerInfo :=
  match s.peers p with
  | some pr =>
    ⟨hostInfo (hostMeta pr.host) (s.hosts pr.host), pr.state, (peerMeta p).finishedPieceCount,
      (peerMeta p).pieceCosts⟩
  | none => ⟨hostInfo ⟨[], [], [], []⟩ (none : Option (Host ι)), .pending,
      (peerMeta p).finishedPieceCount, (peerMeta p).pieceCosts⟩

/-- `evaluator.Evaluate` on the peers of the resources, by their IDs. -/
def evaluatePeers (parent child : ι) (totalPieceCount : ℤ) : ℚ :=
  evaluate (s.peerInfo hostMeta peerMeta parent) (s.peerInfo hostMeta peerMeta child)
    totalPieceCount

/-- `evaluator.IsBadNode` on a peer of the resources, by its ID. -/
def isBadPeer (p : ι) : Bool := isBadNode (s.peerInfo hostMeta peerMeta p)

variable {s hostMeta peerMeta}

@[simp] theorem finishedPieceCount_peerInfo (p : ι) :
    (s.peerInfo hostMeta peerMeta p).finishedPieceCount = (peerMeta p).finishedPieceCount := by
  unfold peerInfo
  cases s.peers p <;> rfl

variable (hostMeta peerMeta) in
/-- A peer with free upload load has a host below its upload load limit. -/
theorem lenPeers_lt_of_freeUploadLoadOf {c : ι} (h : 0 < s.freeUploadLoadOf c) :
    ((s.peerInfo hostMeta peerMeta c).host.lenPeers : ℤ) <
      (s.peerInfo hostMeta peerMeta c).host.uploadLoadLimit := by
  unfold freeUploadLoadOf at h
  unfold peerInfo
  cases hc : s.peers c with
  | none => simp [hc] at h
  | some cr =>
    cases hh : s.hosts cr.host with
    | none => simp [hc, hh] at h
    | some host =>
      simp only [hc, hh, Option.bind_some, Option.map_some, Option.getD_some,
        Host.freeUploadLoad] at h
      simp only [hh, hostInfo, Option.map_some, Option.getD_some]
      omega

end Resources

namespace Evaluator

open Dragonfly.Base

/-- Two hosts whose security domains are both set and differ. -/
def SecurityDomainsDiffer (parent child : HostInfo) : Prop :=
  parent.securityDomain ≠ [] ∧ child.securityDomain ≠ [] ∧
    parent.securityDomain ≠ child.securityDomain

instance (parent child : HostInfo) : Decidable (SecurityDomainsDiffer parent child) :=
  inferInstanceAs (Decidable (_ ∧ _ ∧ _))

/-! ### Each score in its range -/

section Scores

variable {parent child : PeerInfo} {totalPieceCount : ℤ}

theorem evaluate_of_differ (h : SecurityDomainsDiffer parent.host child.host) :
    evaluate parent child totalPieceCount = minScore := by
  rw [evaluate]
  exact if_pos h

theorem calculatePieceScore_nonneg (htotal : 0 < totalPieceCount) :
    0 ≤ calculatePieceScore parent child totalPieceCount := by
  have hpos : (0 : ℚ) < totalPieceCount := by exact_mod_cast htotal
  rw [calculatePieceScore, if_pos htotal]
  exact div_nonneg (Nat.cast_nonneg _) hpos.le

theorem calculatePieceScore_mem_unit (htotal : 0 < totalPieceCount)
    (hfin : (parent.finishedPieceCount : ℤ) ≤ totalPieceCount) :
    0 ≤ calculatePieceScore parent child totalPieceCount ∧
      calculatePieceScore parent child totalPieceCount ≤ 1 := by
  have hpos : (0 : ℚ) < totalPieceCount := by exact_mod_cast htotal
  have hle : (parent.finishedPieceCount : ℚ) ≤ totalPieceCount := by exact_mod_cast hfin
  refine ⟨calculatePieceScore_nonneg htotal, ?_⟩
  rw [calculatePieceScore, if_pos htotal]
  exact (div_le_one hpos).mpr hle

/-- A host below its upload load limit has a free load score above nothing. -/
theorem calculateFreeLoadScore_pos {host : HostInfo}
    (h : (host.lenPeers : ℤ) < host.uploadLoadLimit) : 0 < calculateFreeLoadScore host := by
  have hlimit : (0 : ℚ) < host.uploadLoadLimit := by
    exact_mod_cast (Nat.cast_nonneg _).trans_lt h
  have hfree : (0 : ℚ) < ((host.uploadLoadLimit - host.lenPeers : ℤ) : ℚ) := by
    exact_mod_cast sub_pos.mpr h
  exact div_pos hfree hlimit

theorem calculateFreeLoadScore_nonneg {host : HostInfo}
    (h : (host.lenPeers : ℤ) ≤ host.uploadLoadLimit) : 0 ≤ calculateFreeLoadScore host := by
  have hlimit : (0 : ℚ) ≤ host.uploadLoadLimit := by
    exact_mod_cast (Nat.cast_nonneg _).trans h
  have hfree : (0 : ℚ) ≤ ((host.uploadLoadLimit - host.lenPeers : ℤ) : ℚ) := by
    exact_mod_cast sub_nonneg.mpr h
  exact div_nonneg hfree hlimit

theorem calculateFreeLoadScore_le_one {host : HostInfo} (h : 0 ≤ host.uploadLoadLimit) :
    calculateFreeLoadScore host ≤ 1 := by
  rcases h.eq_or_lt with h0 | hpos
  · simp [calculateFreeLoadScore, ← h0]
  · have hpos' : (0 : ℚ) < host.uploadLoadLimit := by exact_mod_cast hpos
    rw [calculateFreeLoadScore, div_le_one hpos']
    push_cast
    linarith [(Nat.cast_nonneg host.lenPeers : (0 : ℚ) ≤ host.lenPeers)]

theorem calculateHostTypeAffinityScore_mem_unit (peer : PeerInfo) :
    0 ≤ calculateHostTypeAffinityScore peer ∧ calculateHostTypeAffinityScore peer ≤ 1 := by
  unfold calculateHostTypeAffinityScore maxScore minScore
  split_ifs <;> norm_num

theorem calculateIDCAffinityScore_mem_unit (dst src : List Char) :
    0 ≤ calculateIDCAffinityScore dst src ∧ calculateIDCAffinityScore dst src ≤ 1 := by
  unfold calculateIDCAffinityScore maxScore minScore
  split_ifs <;> norm_num

/-- The multi-element score is a count of at most `maxElementLen` over `maxElementLen`. -/
theorem multiElementScore_mem_unit (dst src : List Char) :
    0 ≤ (calculateMultiElementAffinityScore dst src).getD minScore ∧
      (calculateMultiElementAffinityScore dst src).getD minScore ≤ 1 := by
  obtain ⟨⟨r, hr, hr5⟩, -⟩ := Affinity.calculateMultiElementAffinityScore_spec dst src
  rw [hr, Option.getD_some]
  have hcount : ∀ n : ℕ, n ≤ 5 → r * maxElementLen = n → 0 ≤ r ∧ r ≤ 1 := by
    intro n hn h
    have hn' : (n : ℚ) ≤ 5 := by exact_mod_cast hn
    simp only [maxElementLen, Int.cast_ofNat] at h
    constructor <;> nlinarith [(Nat.cast_nonneg n : (0 : ℚ) ≤ n)]
  -- the count of the spec is `0`, `5` or a `min 5 _`
  refine hcount _ ?_ hr5
  split_ifs <;> simp

theorem evaluate_of_not_differ (h : ¬ SecurityDomainsDiffer parent.host child.host) :
    evaluate parent child totalPieceCount =
      finishedPieceWeight * calculatePieceScore parent child totalPieceCount +
        freeLoadWeight * calculateFreeLoadScore parent.host +
        hostTypeAffinityWeight * calculateHostTypeAffinityScore parent +
        idcAffinityWeight * calculateIDCAffinityScore parent.host.idc child.host.idc +
        netTopologyAffinityWeight *
          (calculateMultiElementAffinityScore parent.host.netTopology child.host.netTopology).getD
            minScore +
        locationAffinityWeight *
          (calculateMultiElementAffinityScore parent.host.location child.host.location).getD
            minScore := by
  rw [evaluate]
  exact if_neg h

/-- The five scores after the piece score weigh at most `0.7` together. -/
theorem evaluate_le (hdom : ¬ SecurityDomainsDiffer parent.host child.host)
    (hlimit : 0 ≤ parent.host.uploadLoadLimit) :
    evaluate parent child totalPieceCount ≤
      finishedPieceWeight * calculatePieceScore parent child totalPieceCount + 0.7 := by
  have hload := calculateFreeLoadScore_le_one hlimit
  have hhost := (calculateHostTypeAffinityScore_mem_unit parent).2
  have hidc := (calculateIDCAffinityScore_mem_unit parent.host.idc child.host.idc).2
  have hnet := (multiElementScore_mem_unit parent.host.netTopology child.host.netTopology).2
  have hloc := (multiElementScore_mem_unit parent.host.location child.host.location).2
  rw [evaluate_of_not_differ hdom]
  unfold freeLoadWeight hostTypeAffinityWeight idcAffinityWeight netTopologyAffinityWeight
    locationAffinityWeight
  norm_num
  linarith

/-- The same five scores weigh at least nothing for a host within its upload load limit. -/
theorem le_evaluate (hdom : ¬ SecurityDomainsDiffer parent.host child.host)
    (hload : (parent.host.lenPeers : ℤ) ≤ parent.host.uploadLoadLimit) :
    finishedPieceWeight * calculatePieceScore parent child totalPieceCount ≤
      evaluate parent child totalPieceCount := by
  have hfree := calculateFreeLoadScore_nonneg hload
  have hhost := (calculateHostTypeAffinityScore_mem_unit parent).1
  have hidc := (calculateIDCAffinityScore_mem_unit parent.host.idc child.host.idc).1
  have hnet := (multiElementScore_mem_unit parent.host.netTopology child.host.netTopology).1
  have hloc := (multiElementScore_mem_unit parent.host.location child.host.location).1
  rw [evaluate_of_not_differ hdom]
  unfold freeLoadWeight hostTypeAffinityWeight idcAffinityWeight netTopologyAffinityWeight
    locationAffinityWeight
  norm_num
  linarith

end Scores

/-! ### Where the scores lead the choice -/

section Choice

variable {parent child : PeerInfo} {totalPieceCount : ℤ}

/-- Once the total piece count is known, a parent with free upload load and no more finished
pieces than the task has scores between `minScore` and `maxScore`. -/
theorem evaluate_mem_unit (htotal : 0 < totalPieceCount)
    (hfin : (parent.finishedPieceCount : ℤ) ≤ totalPieceCount)
    (hload : (parent.host.lenPeers : ℤ) < parent.host.uploadLoadLimit) :
    minScore ≤ evaluate parent child totalPieceCount ∧
      evaluate parent child totalPieceCount ≤ maxScore := by
  by_cases hdom : SecurityDomainsDiffer parent.host child.host
  · rw [evaluate_of_differ hdom]
    exact ⟨le_rfl, by norm_num [minScore, maxScore]⟩
  · have hpiece : 0 ≤ calculatePieceScore parent child totalPieceCount ∧
        calculatePieceScore parent child totalPieceCount ≤ 1 :=
      calculatePieceScore_mem_unit htotal hfin
    have hlow : finishedPieceWeight * calculatePieceScore parent child totalPieceCount ≤
        evaluate parent child totalPieceCount :=
      le_evaluate hdom hload.le
    have hhigh : evaluate parent child totalPieceCount ≤
        finishedPieceWeight * calculatePieceScore parent child totalPieceCount + 0.7 :=
      evaluate_le hdom ((Nat.cast_nonneg _).trans hload.le)
    unfold finishedPieceWeight at hlow hhigh
    unfold minScore maxScore
    constructor <;> linarith [hpiece.1, hpiece.2]

/-- While the total piece count is unknown, a parent of the child's security domain, or with
none set, that is three pieces behind the child scores below `minScore`. -/
theorem evaluate_lt_minScore (htotal : totalPieceCount ≤ 0)
    (hdom : ¬ SecurityDomainsDiffer parent.host child.host)
    (hlimit : 0 ≤ parent.host.uploadLoadLimit)
    (hbehind : parent.finishedPieceCount + 3 ≤ child.finishedPieceCount) :
    evaluate parent child totalPieceCount < minScore := by
  have hpiece : calculatePieceScore parent child totalPieceCount ≤ -3 := by
    have hcount : (parent.finishedPieceCount : ℚ) + 3 ≤ child.finishedPieceCount := by
      exact_mod_cast hbehind
    rw [calculatePieceScore, if_neg (not_lt.mpr htotal)]
    linarith
  calc evaluate parent child totalPieceCount
      ≤ finishedPieceWeight * calculatePieceScore parent child totalPieceCount + 0.7 :=
        evaluate_le hdom hlimit
    _ < minScore := by
        unfold finishedPieceWeight minScore
        norm_num
        linarith

/-- Once the total piece count is known, a parent of the child's security domain, or with none
set, whose host is below its upload load limit scores above `minScore`. -/
theorem minScore_lt_evaluate (hdom : ¬ SecurityDomainsDiffer parent.host child.host)
    (htotal : 0 < totalPieceCount)
    (hload : (parent.host.lenPeers : ℤ) < parent.host.uploadLoadLimit) :
    minScore < evaluate parent child totalPieceCount := by
  have hpiece : 0 ≤ calculatePieceScore parent child totalPieceCount :=
    calculatePieceScore_nonneg htotal
  have hfree := calculateFreeLoadScore_pos hload
  have hhost := (calculateHostTypeAffinityScore_mem_unit parent).1
  have hidc := (calculateIDCAffinityScore_mem_unit parent.host.idc child.host.idc).1
  have hnet := (multiElementScore_mem_unit parent.host.netTopology child.host.netTopology).1
  have hloc := (multiElementScore_mem_unit parent.host.location child.host.location).1
  rw [evaluate_of_not_differ hdom]
  calc minScore = (0 : ℚ) := rfl
    _ < _ := by
      unfold finishedPieceWeight freeLoadWeight hostTypeAffinityWeight idcAffinityWeight
        netTopologyAffinityWeight locationAffinityWeight
      norm_num
      linarith

end Choice

/-! ### Bad nodes -/

section BadNode

variable {peer : PeerInfo}

/-- The earlier costs of a peer whose costs are not negative are not negative. -/
theorem dropLast_loadRawData_nonneg (hcosts : ∀ c ∈ peer.pieceCosts, 0 ≤ c) :
    ∀ x ∈ (loadRawData peer.pieceCosts).dropLast, 0 ≤ x := by
  intro x hx
  have hx' : x ∈ peer.pieceCosts.map fun c : ℤ => (c : ℚ) := List.mem_of_mem_dropLast hx
  obtain ⟨c, hc, rfl⟩ := List.mem_map.mp hx'
  exact_mod_cast hcosts c hc

/-- From `normalDistributionLen` costs on, a peer that passes the state check is bad exactly
when its last cost exceeds, in real arithmetic, the mean of the earlier ones plus three times
the square root of their population variance. -/
theorem isBadNode_iff_sqrt
    (hstate : ¬ (peer.state = .failed ∨ peer.state = .leave ∨ peer.state = .pending))
    (hlen : normalDistributionLen ≤ peer.pieceCosts.length) :
    isBadNode peer = true ↔
      ((Stats.mean (loadRawData peer.pieceCosts).dropLast : ℚ) : ℝ) +
          3 * Real.sqrt
            ((Stats.populationVariance (loadRawData peer.pieceCosts).dropLast : ℚ) : ℝ) <
        (((loadRawData peer.pieceCosts).getLastD 0 : ℚ) : ℝ) := by
  have hlen' : normalDistributionLen ≤ (loadRawData peer.pieceCosts).length := by
    simpa [loadRawData] using hlen
  have hmin : ¬ (loadRawData peer.pieceCosts).length < minAvailableCostLen := by
    unfold normalDistributionLen minAvailableCostLen at *
    omega
  rw [Stats.add_mul_sqrt_lt_iff (by norm_num)]
  simp only [isBadNode, if_neg hstate, if_neg hmin, if_neg (not_lt.mpr hlen'),
    decide_eq_true_eq]
  norm_cast

/-- From ten up to forty-two costs, a peer whose last cost is more than twenty times the mean of
the earlier ones, the test of the first nine, is bad under the three-sigma test as well: the
variance of `n` samples that are not negative is at most `n − 1` times their squared mean, and
`1 + 3 √40 < 20`. -/
theorem isBadNode_of_twenty_times_mean
    (hstate : ¬ (peer.state = .failed ∨ peer.state = .leave ∨ peer.state = .pending))
    (hcosts : ∀ c ∈ peer.pieceCosts, 0 ≤ c)
    (hlen : normalDistributionLen ≤ peer.pieceCosts.length) (hlen' : peer.pieceCosts.length ≤ 42)
    (hlast : Stats.mean (loadRawData peer.pieceCosts).dropLast * 20 <
      (loadRawData peer.pieceCosts).getLastD 0) :
    isBadNode peer = true := by
  have hprev := dropLast_loadRawData_nonneg hcosts
  have hlenR : (loadRawData peer.pieceCosts).length = peer.pieceCosts.length := by
    simp [loadRawData]
  have hmin : ¬ (loadRawData peer.pieceCosts).length < minAvailableCostLen := by
    unfold normalDistributionLen minAvailableCostLen at *
    omega
  have hnormal : ¬ (loadRawData peer.pieceCosts).length < normalDistributionLen := by
    omega
  simp only [isBadNode, if_neg hstate, if_neg hmin, if_neg hnormal, decide_eq_true_eq]
  -- name the mean, the last cost and the number of earlier costs
  generalize hm : Stats.mean (loadRawData peer.pieceCosts).dropLast = m at hlast ⊢
  generalize hl : (loadRawData peer.pieceCosts).getLastD 0 = last at hlast ⊢
  have hm0 : 0 ≤ m := by
    rw [← hm, Stats.mean]
    exact div_nonneg (List.sum_nonneg hprev) (Nat.cast_nonneg _)
  have hvar := Stats.populationVariance_le hprev
  rw [hm] at hvar
  have hn : ((loadRawData peer.pieceCosts).dropLast.length : ℚ) - 1 ≤ 40 := by
    have hn' : (loadRawData peer.pieceCosts).dropLast.length ≤ 41 := by
      rw [List.length_dropLast]
      omega
    have : ((loadRawData peer.pieceCosts).dropLast.length : ℚ) ≤ 41 := by exact_mod_cast hn'
    linarith
  -- `9 σ² ≤ 9 m² (n − 1) ≤ 360 m² < (19 m)² < (last − m)²`
  have h19 : 19 * m < last - m := by linarith
  have hsq : (19 * m) ^ 2 < (last - m) ^ 2 := by nlinarith
  have hvar' : 3 ^ 2 * Stats.populationVariance (loadRawData peer.pieceCosts).dropLast ≤
      360 * m ^ 2 := by
    nlinarith [sq_nonneg m]
  exact ⟨by linarith, by nlinarith [sq_nonneg m]⟩

/-- Ten costs, the last twenty-one times the others; and forty-three costs where a last cost
over twenty times the mean passes the three-sigma test. -/
theorem isBadNode_of_twenty_times_mean_ten :
    let peer : PeerInfo :=
      ⟨⟨[], [], [], [], false, 4, 0⟩, .running, 10, List.replicate 9 1 ++ [21]⟩
    let wide : PeerInfo :=
      ⟨⟨[], [], [], [], false, 4, 0⟩, .running, 43, 4200 :: List.replicate 41 0 ++ [2010]⟩
    isBadNode peer = true ∧
      Stats.mean (loadRawData wide.pieceCosts).dropLast * 20 <
        (loadRawData wide.pieceCosts).getLastD 0 ∧ isBadNode wide = false := by
  intro peer wide
  refine ⟨isBadNode_of_twenty_times_mean (by decide) (by decide) (by decide) (by decide)
    (by decide +kernel), by decide +kernel, by decide +kernel⟩

end BadNode

section Scheduling

variable {ι τ η : Type} [DecidableEq ι] {s s' : Resources ι τ η} {fuel : ℕ}
  {hostMeta : η → HostMeta} {peerMeta : ι → PeerMeta} {isBadNode blocklist : ι → Bool}
  {send : Packet ι → Bool}
  {p : ι} {pr : Peer τ η} {packets : List (Packet ι)} {parents : List ι}

open Resources

/-- Every candidate `filterParents` keeps has free upload load, so the evaluator reads its host
below its upload load limit. -/
theorem lenPeers_lt_of_mem_filterParents {peers : List ι}
    (hparents : s.graph.filterParents fuel blocklist isBadNode s.freeUploadLoadOf p peers =
      some parents) {c : ι} (hc : c ∈ parents) :
    ((s.peerInfo hostMeta peerMeta c).host.lenPeers : ℤ) <
      (s.peerInfo hostMeta peerMeta c).host.uploadLoadLimit :=
  lenPeers_lt_of_freeUploadLoadOf hostMeta peerMeta
    ((PeerGraph.mem_filterParents hparents c).mp hc).2.free_upload

/-- A successful `NotifyAndFindParent` under the base evaluator sends and stores a candidate that
scores at least as high as every other candidate. -/
theorem notifyAndFindParent_evaluatePeers
    (h : s.notifyAndFindParent fuel (s.evaluatePeers hostMeta peerMeta) isBadNode send blocklist
      p pr = some (s', packets, true))
    (hparents : s.graph.filterParents fuel blocklist isBadNode s.freeUploadLoadOf p
      (((s.tasks pr.task).map Task.peers).getD []) = some parents) :
    ∃ best ∈ parents, packets = [.success best] ∧
      s' = { s with graph := s.graph.replaceParent p best } ∧
      ∀ c ∈ parents, evaluate (s.peerInfo hostMeta peerMeta c) (s.peerInfo hostMeta peerMeta p)
          (((s.tasks pr.task).map Task.totalPieceCount).getD 0) ≤
        evaluate (s.peerInfo hostMeta peerMeta best) (s.peerInfo hostMeta peerMeta p)
          (((s.tasks pr.task).map Task.totalPieceCount).getD 0) := by
  obtain ⟨parents', best, hparents', hbest, hmax, hpackets, hs'⟩ := notifyAndFindParent_best h
  rw [hparents, Option.some.injEq] at hparents'
  subst hparents'
  exact ⟨best, hbest, hpackets, hs', hmax⟩

/-- While the task's total piece count is unknown, a successful `NotifyAndFindParent` under the
base evaluator sends and stores a parent of another security domain than the peer's whenever one
is a candidate and every candidate of the peer's own domain, or with none set, is three pieces
behind the peer. -/
theorem notifyAndFindParent_crosses_securityDomain {m : ι}
    (h : s.notifyAndFindParent fuel (s.evaluatePeers hostMeta peerMeta) isBadNode send blocklist
      p pr = some (s', packets, true))
    (hparents : s.graph.filterParents fuel blocklist isBadNode s.freeUploadLoadOf p
      (((s.tasks pr.task).map Task.peers).getD []) = some parents)
    (htotal : ((s.tasks pr.task).map Task.totalPieceCount).getD 0 ≤ 0) (hm : m ∈ parents)
    (hcross : SecurityDomainsDiffer (s.peerInfo hostMeta peerMeta m).host
      (s.peerInfo hostMeta peerMeta p).host)
    (hbehind : ∀ c ∈ parents, ¬ SecurityDomainsDiffer (s.peerInfo hostMeta peerMeta c).host
      (s.peerInfo hostMeta peerMeta p).host →
        (peerMeta c).finishedPieceCount + 3 ≤ (peerMeta p).finishedPieceCount) :
    ∃ best, packets = [.success best] ∧ s' = { s with graph := s.graph.replaceParent p best } ∧
      SecurityDomainsDiffer (s.peerInfo hostMeta peerMeta best).host
        (s.peerInfo hostMeta peerMeta p).host := by
  obtain ⟨best, hbest, hpackets, hs', hmax⟩ := notifyAndFindParent_evaluatePeers h hparents
  refine ⟨best, hpackets, hs', ?_⟩
  -- a parent of the peer's own domain would score below the other domain's `minScore`
  by_contra hsame
  have hfew : (s.peerInfo hostMeta peerMeta best).finishedPieceCount + 3 ≤
      (s.peerInfo hostMeta peerMeta p).finishedPieceCount := by
    simpa using hbehind best hbest hsame
  have hlow := evaluate_lt_minScore htotal hsame
    ((Nat.cast_nonneg _).trans (lenPeers_lt_of_mem_filterParents hparents hbest).le) hfew
  have hge := hmax m hm
  rw [evaluate_of_differ hcross] at hge
  exact absurd hge (not_le.mpr hlow)

/-- A fresh task of three peers, each on its own host: peer `0` has three pieces, peer `1` of its
domain none, and peer `2` of another domain none either. -/
theorem notifyAndFindParent_crosses_securityDomain_fresh :
    let s : Resources ℕ ℕ ℕ :=
      ⟨fun q => if q < 3 then some ⟨0, q, .running, true, true⟩ else none,
        fun _ => some ⟨.running, 0, 0, 1, ∅, fun _ => none, [0, 1, 2], []⟩,
        fun _ => some ⟨4, ∅, false⟩, PeerGraph.empty⟩
    let hostMeta : ℕ → HostMeta := fun h => ⟨if h = 2 then ['b'] else ['a'], [], [], []⟩
    let peerMeta : ℕ → PeerMeta := fun q => ⟨if q = 0 then 3 else 0, []⟩
    ∃ s' best, s.notifyAndFindParent 10 (s.evaluatePeers hostMeta peerMeta) (fun _ => false)
        (fun _ => true) (fun _ => false) 0 ⟨0, 0, .running, true, true⟩ =
          some (s', [.success best], true) ∧
      s' = { s with graph := s.graph.replaceParent 0 best } ∧
      SecurityDomainsDiffer (s.peerInfo hostMeta peerMeta best).host
        (s.peerInfo hostMeta peerMeta 0).host := by
  intro s hostMeta peerMeta
  have hrun : (s.notifyAndFindParent 10 (s.evaluatePeers hostMeta peerMeta) (fun _ => false)
      (fun _ => true) (fun _ => false) 0 ⟨0, 0, .running, true, true⟩).map (fun r => r.2) =
        some ([.success 2], true) := by
    decide +kernel
  obtain ⟨⟨s', packets, found⟩, h, hr⟩ := Option.map_eq_some_iff.mp hrun
  cases hr
  obtain ⟨best, hbest, hs', hdiff⟩ := notifyAndFindParent_crosses_securityDomain (m := 2) h rfl
    le_rfl (by decide) (by decide +kernel) (by decide +kernel)
  exact ⟨s', best, hbest ▸ h, hs', hdiff⟩

/-- Once the task's total piece count is known, a successful `NotifyAndFindParent` under the
base evaluator sends and stores a parent of the peer's own security domain, or with none set,
whenever `filterParents` has such a candidate: its host has free upload load, so it scores above
the `minScore` of every candidate of another domain. -/
theorem notifyAndFindParent_keeps_securityDomain
    (h : s.notifyAndFindParent fuel (s.evaluatePeers hostMeta peerMeta) isBadNode send blocklist
      p pr = some (s', packets, true))
    (hparents : s.graph.filterParents fuel blocklist isBadNode s.freeUploadLoadOf p
      (((s.tasks pr.task).map Task.peers).getD []) = some parents)
    (htotal : 0 < ((s.tasks pr.task).map Task.totalPieceCount).getD 0)
    (hsame : ∃ c ∈ parents, ¬ SecurityDomainsDiffer (s.peerInfo hostMeta peerMeta c).host
      (s.peerInfo hostMeta peerMeta p).host) :
    ∃ best, packets = [.success best] ∧ s' = { s with graph := s.graph.replaceParent p best } ∧
      ¬ SecurityDomainsDiffer (s.peerInfo hostMeta peerMeta best).host
        (s.peerInfo hostMeta peerMeta p).host := by
  obtain ⟨best, hbest, hpackets, hs', hmax⟩ := notifyAndFindParent_evaluatePeers h hparents
  refine ⟨best, hpackets, hs', fun hcross => ?_⟩
  obtain ⟨c, hc, hsame⟩ := hsame
  -- the candidate of the peer's domain scores above the `minScore` of the best one
  have hhigh := minScore_lt_evaluate hsame htotal (lenPeers_lt_of_mem_filterParents hparents hc)
  have hle := hmax c hc
  rw [evaluate_of_differ hcross] at hle
  exact absurd hle (not_le.mpr hhigh)

/-- The task of `notifyAndFindParent_crosses_securityDomain_fresh` once it has succeeded with four
pieces: peer `1`, of the peer's domain, is chosen over peer `2`. -/
theorem notifyAndFindParent_keeps_securityDomain_succeeded :
    let s : Resources ℕ ℕ ℕ :=
      ⟨fun q => if q < 3 then some ⟨0, q, .running, true, true⟩ else none,
        fun _ => some ⟨.succeeded, 4096, 4, 1, ∅, fun _ => none, [0, 1, 2], []⟩,
        fun _ => some ⟨4, ∅, false⟩, PeerGraph.empty⟩
    let hostMeta : ℕ → HostMeta := fun h => ⟨if h = 2 then ['b'] else ['a'], [], [], []⟩
    let peerMeta : ℕ → PeerMeta := fun q => ⟨if q = 0 then 3 else 0, []⟩
    ∃ s' best, s.notifyAndFindParent 10 (s.evaluatePeers hostMeta peerMeta) (fun _ => false)
        (fun _ => true) (fun _ => false) 0 ⟨0, 0, .running, true, true⟩ =
          some (s', [.success best], true) ∧
      s' = { s with graph := s.graph.replaceParent 0 best } ∧
      ¬ SecurityDomainsDiffer (s.peerInfo hostMeta peerMeta best).host
        (s.peerInfo hostMeta peerMeta 0).host := by
  intro s hostMeta peerMeta
  have hrun : (s.notifyAndFindParent 10 (s.evaluatePeers hostMeta peerMeta) (fun _ => false)
      (fun _ => true) (fun _ => false) 0 ⟨0, 0, .running, true, true⟩).map (fun r => r.2) =
        some ([.success 1], true) := by
    decide +kernel
  obtain ⟨⟨s', packets, found⟩, h, hr⟩ := Option.map_eq_some_iff.mp hrun
  cases hr
  obtain ⟨best, hbest, hs', hsame⟩ := notifyAndFindParent_keeps_securityDomain h rfl
    (by decide) ⟨1, by decide, by decide +kernel⟩
  exact ⟨s', best, hbest ▸ h, hs', hsame⟩

end Scheduling

end Dragonfly.Scheduler.Evaluator
