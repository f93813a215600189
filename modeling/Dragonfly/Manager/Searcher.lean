import Dragonfly.Base.GoMap
import Dragonfly.Base.GoText

/-!
# The manager's choice of a scheduler cluster

`FindSchedulerCluster` (`manager/searcher/searcher.go:94–155`) answers a daemon's request for
schedulers with one scheduler cluster. It fails on a request without conditions or on an empty
list of clusters. Otherwise it keeps each cluster that has schedulers: once when the request names
no security domain, and else once for each of its security rules of that domain. None kept is an
error, one kept is the answer, and among more it scores each one whose scopes decode and answers
with the first that scores highest above zero, or with the first kept when none scores above zero.

The score is `Evaluate`, a float64 weighted sum of the affinity scores of `Dragonfly.Affinity`.
The loop only compares scores, and float64 rounding decides which of two close sums is the larger,
so the score is a parameter over any linear order and the theorems hold for the float64 one.

`findSchedulerCluster_best` says what an answer is: a cluster of the list that matches the
request, which no matching cluster outscores unless every score is at most zero.
`findSchedulerCluster_error_iff` says when the search fails and with which error.
-/

namespace Dragonfly.Manager.Searcher

open Dragonfly.Base.GoText Dragonfly.Base.GoMap

/-- `ConditionSecurityDomain` (`searcher.go:35`), the key of the request's security domain. -/
def conditionSecurityDomain : List Char := "security_domain".toList

/-- `Scopes` (`searcher.go:71–75`). -/
structure Scopes where
  idc : List Char
  location : List Char
  netTopology : List Char
  deriving DecidableEq, Repr

/-- The fields of `model.SchedulerCluster` that `FindSchedulerCluster` reads: how many schedulers
it has, the domains of the rules of its security group, and its scopes as `mapstructure.Decode`
reads them, `none` where decoding fails. -/
structure SchedulerCluster where
  schedulers : ℕ
  securityRules : List (List Char)
  scopes : Option Scopes
  deriving DecidableEq, Repr

/-- The errors `FindSchedulerCluster` returns. -/
inductive SearchError where
  | emptyConditions
  | emptySchedulerClusters
  | securityDomainMismatch (securityDomain : List Char)
  deriving DecidableEq, Repr

/-- The texts of the errors (`searcher.go:97, 101, 130`). -/
def SearchError.message : SearchError → List Char
  | .emptyConditions => "empty conditions".toList
  | .emptySchedulerClusters => "empty scheduler clusters".toList
  | .securityDomainMismatch securityDomain =>
    "security domain ".toList ++ securityDomain ++ " does not match".toList

/-- The loop at `searcher.go:113–125`: a cluster with schedulers is appended once when the
security domain is empty, and else once for each of its security rules of that domain. -/
def matchingClusters (securityDomain : List Char) (schedulerClusters : List SchedulerCluster) :
    List SchedulerCluster :=
  schedulerClusters.flatMap fun schedulerCluster =>
    if schedulerCluster.schedulers > 0 then
      if securityDomain = [] then [schedulerCluster]
      else schedulerCluster.securityRules.flatMap fun domain =>
        if stringsCompare domain securityDomain = 0 then [schedulerCluster] else []
    else []

section Search

variable {σ : Type} [LinearOrder σ] [Zero σ]

/-- The scoring loop at `searcher.go:139–152`, from the best score and the result so far: a
cluster whose scopes do not decode is skipped, and one that scores above the best becomes the
result. -/
def selectMax (evaluate : Scopes → σ) :
    List SchedulerCluster → σ → SchedulerCluster → σ × SchedulerCluster
  | [], maxScore, result => (maxScore, result)
  | cluster :: clusters, maxScore, result =>
    match cluster.scopes with
    | none => selectMax evaluate clusters maxScore result
    | some scopes =>
      if evaluate scopes > maxScore then selectMax evaluate clusters (evaluate scopes) cluster
      else selectMax evaluate clusters maxScore result

/-- `FindSchedulerCluster` (`searcher.go:94–155`), with the request's `HostInfo` as `conditions`
and `Evaluate` as `evaluate`. -/
def findSchedulerCluster (evaluate : Table (List Char) (List Char) → Scopes → σ)
    (schedulerClusters : List SchedulerCluster) (conditions : Table (List Char) (List Char)) :
    Except SearchError SchedulerCluster :=
  if conditions.entries.length ≤ 0 then .error .emptyConditions
  else if schedulerClusters.length ≤ 0 then .error .emptySchedulerClusters
  else
    let securityDomain := (conditions.lookup conditionSecurityDomain).getD []
    match matchingClusters securityDomain schedulerClusters with
    | [] => .error (.securityDomainMismatch securityDomain)
    | [cluster] => .ok cluster
    | clusters@(first :: _) => .ok (selectMax (evaluate conditions) clusters 0 first).2

end Search

/-! ### What the search keeps and what its loop picks -/

/-- A cluster that `FindSchedulerCluster` keeps for the security domain `securityDomain`: it has
schedulers, and the domain is empty or the domain of one of its security rules. -/
def Matches (securityDomain : List Char) (c : SchedulerCluster) : Prop :=
  0 < c.schedulers ∧ (securityDomain = [] ∨ securityDomain ∈ c.securityRules)

instance (securityDomain : List Char) : DecidablePred (Matches securityDomain) :=
  fun _ => inferInstanceAs (Decidable (_ ∧ _))

/-- The loop at `searcher.go:113–125` keeps exactly the matching clusters. -/
theorem mem_matchingClusters {securityDomain : List Char}
    {schedulerClusters : List SchedulerCluster} {c : SchedulerCluster} :
    c ∈ matchingClusters securityDomain schedulerClusters ↔
      c ∈ schedulerClusters ∧ Matches securityDomain c := by
  simp only [matchingClusters, List.mem_flatMap]
  constructor
  · rintro ⟨c', hc', hmem⟩
    split_ifs at hmem with hs hd
    · obtain rfl := List.mem_singleton.mp hmem
      exact ⟨hc', hs, .inl hd⟩
    · -- the cluster is appended once for each of its rules of the domain
      obtain ⟨hrule, rfl⟩ : securityDomain ∈ c'.securityRules ∧ c = c' := by
        simpa using hmem
      exact ⟨hc', hs, .inr hrule⟩
    · cases hmem
  · rintro ⟨hc, hs, hd⟩
    refine ⟨c, hc, ?_⟩
    rw [if_pos hs]
    split_ifs with hnil
    · exact List.mem_singleton_self c
    · simpa using hd.resolve_left hnil

section Loop

variable {σ : Type} [LinearOrder σ] (evaluate : Scopes → σ) (clusters : List SchedulerCluster)
  (maxScore : σ) (result : SchedulerCluster)

/-- The loop's best score only grows. -/
theorem le_selectMax :
    maxScore ≤ (selectMax evaluate clusters maxScore result).1 := by
  fun_induction selectMax evaluate clusters maxScore result with
  | case1 maxScore result => exact le_rfl
  | case2 cluster clusters maxScore result _ ih => exact ih
  | case3 cluster clusters maxScore result scopes _ hgt ih => exact le_trans (le_of_lt hgt) ih
  | case4 cluster clusters maxScore result scopes _ _ ih => exact ih

/-- The loop's result is the one it started from or a cluster it scored. -/
theorem selectMax_mem :
    (selectMax evaluate clusters maxScore result).2 = result ∨
      (selectMax evaluate clusters maxScore result).2 ∈ clusters := by
  fun_induction selectMax evaluate clusters maxScore result with
  | case1 maxScore result => exact .inl rfl
  | case2 cluster clusters maxScore result _ ih => exact ih.imp_right (List.mem_cons_of_mem _)
  | case3 cluster clusters maxScore result scopes _ _ ih =>
    rcases ih with h | h
    · rw [h]
      exact .inr (List.mem_cons_self ..)
    · exact .inr (List.mem_cons_of_mem _ h)
  | case4 cluster clusters maxScore result scopes _ _ ih =>
    exact ih.imp_right (List.mem_cons_of_mem _)

/-- No cluster the loop scores beats its best score. -/
theorem selectMax_max :
    ∀ c ∈ clusters, ∀ s, c.scopes = some s →
      evaluate s ≤ (selectMax evaluate clusters maxScore result).1 := by
  fun_induction selectMax evaluate clusters maxScore result with
  | case1 maxScore result => intro c hc; cases hc
  | case2 cluster clusters maxScore result hnone ih =>
    intro c hc s hs
    rcases List.mem_cons.mp hc with rfl | hc
    · rw [hnone] at hs; cases hs
    · exact ih c hc s hs
  | case3 cluster clusters maxScore result scopes hsome _ ih =>
    intro c hc s hs
    rcases List.mem_cons.mp hc with rfl | hc
    · rw [hsome, Option.some.injEq] at hs
      subst hs
      exact le_selectMax evaluate clusters _ _
    · exact ih c hc s hs
  | case4 cluster clusters maxScore result scopes hsome hle ih =>
    intro c hc s hs
    rcases List.mem_cons.mp hc with rfl | hc
    · rw [hsome, Option.some.injEq] at hs
      subst hs
      exact le_trans (not_lt.mp hle) (le_selectMax evaluate clusters _ _)
    · exact ih c hc s hs

/-- The loop's best score is the one it started from, with its result, or its result's score. -/
theorem selectMax_score :
    selectMax evaluate clusters maxScore result = (maxScore, result) ∨
      ∃ s, (selectMax evaluate clusters maxScore result).2.scopes = some s ∧
        evaluate s = (selectMax evaluate clusters maxScore result).1 := by
  fun_induction selectMax evaluate clusters maxScore result with
  | case1 maxScore result => exact .inl rfl
  | case2 cluster clusters maxScore result _ ih => exact ih
  | case3 cluster clusters maxScore result scopes hsome _ ih =>
    rcases ih with h | h
    · rw [h]
      exact .inr ⟨scopes, hsome, rfl⟩
    · exact .inr h
  | case4 cluster clusters maxScore result scopes _ _ ih => exact ih

end Loop

section Search

variable {σ : Type} [LinearOrder σ] [Zero σ]
  {evaluate : Table (List Char) (List Char) → Scopes → σ}
  {schedulerClusters : List SchedulerCluster} {conditions : Table (List Char) (List Char)}

/-- An answer is the only cluster kept, or what the scoring loop picks among those kept. -/
theorem findSchedulerCluster_ok_cases {cluster : SchedulerCluster}
    (h : findSchedulerCluster evaluate schedulerClusters conditions = .ok cluster) :
    let securityDomain := (conditions.lookup conditionSecurityDomain).getD []
    matchingClusters securityDomain schedulerClusters = [cluster] ∨
      ∃ first rest, matchingClusters securityDomain schedulerClusters = first :: rest ∧
        cluster = (selectMax (evaluate conditions) (first :: rest) 0 first).2 := by
  unfold findSchedulerCluster at h
  split_ifs at h
  dsimp only at h ⊢
  generalize (conditions.lookup conditionSecurityDomain).getD [] = securityDomain at h ⊢
  split at h
  · cases h
  · rename_i hkept
    cases h
    exact .inl hkept
  · rename_i first rest _ hkept
    cases h
    exact .inr ⟨first, rest, hkept, rfl⟩

/-- The search fails on a request without conditions, on an empty list of clusters, and when no
cluster matches the request's security domain, each with its own error. -/
theorem findSchedulerCluster_error_iff (e : SearchError) :
    let securityDomain := (conditions.lookup conditionSecurityDomain).getD []
    findSchedulerCluster evaluate schedulerClusters conditions = .error e ↔
      conditions.entries = [] ∧ e = .emptyConditions ∨
      conditions.entries ≠ [] ∧ schedulerClusters = [] ∧ e = .emptySchedulerClusters ∨
      conditions.entries ≠ [] ∧ schedulerClusters ≠ [] ∧
        (∀ c ∈ schedulerClusters, ¬Matches securityDomain c) ∧
        e = .securityDomainMismatch securityDomain := by
  unfold findSchedulerCluster
  by_cases hc : conditions.entries = []
  · simp [hc, eq_comm]
  have hc' : ¬conditions.entries.length ≤ 0 := by simpa using hc
  rw [if_neg hc']
  by_cases hs : schedulerClusters = []
  · simp [hc, hs, eq_comm]
  have hs' : ¬schedulerClusters.length ≤ 0 := by simpa using hs
  rw [if_neg hs']
  dsimp only
  generalize (conditions.lookup conditionSecurityDomain).getD [] = securityDomain
  -- no cluster matches exactly when the loop keeps none
  have hnone : matchingClusters securityDomain schedulerClusters = [] ↔
      ∀ c ∈ schedulerClusters, ¬Matches securityDomain c := by
    simp only [List.eq_nil_iff_forall_not_mem, mem_matchingClusters, not_and]
  rw [← hnone]
  split
  · rename_i hkept
    simp [hc, hs, hkept, eq_comm]
  · rename_i hkept
    simp [hc, hs, hkept]
  · rename_i hkept
    simp [hc, hs, hkept]

/-- An answer is a cluster of the list that matches the request, and no matching cluster whose
scopes decode outscores it, unless that cluster scores at most zero. -/
theorem findSchedulerCluster_best {cluster : SchedulerCluster}
    (h : findSchedulerCluster evaluate schedulerClusters conditions = .ok cluster) :
    let securityDomain := (conditions.lookup conditionSecurityDomain).getD []
    cluster ∈ schedulerClusters ∧ Matches securityDomain cluster ∧
      ∀ c ∈ schedulerClusters, Matches securityDomain c → ∀ s, c.scopes = some s →
        evaluate conditions s ≤ 0 ∨
          ∃ s', cluster.scopes = some s' ∧
            evaluate conditions s ≤ evaluate conditions s' := by
  intro securityDomain
  rcases findSchedulerCluster_ok_cases h with hkept | ⟨first, rest, hkept, rfl⟩
  · -- the only cluster kept: every matching cluster is the answer itself
    have hmem : cluster ∈ matchingClusters securityDomain schedulerClusters := by
      rw [hkept]
      exact List.mem_singleton_self _
    obtain ⟨hc, hm⟩ := mem_matchingClusters.mp hmem
    refine ⟨hc, hm, fun c hc' hm' s hs => .inr ⟨s, ?_, le_rfl⟩⟩
    have hc'' : c ∈ matchingClusters securityDomain schedulerClusters :=
      mem_matchingClusters.mpr ⟨hc', hm'⟩
    rw [hkept, List.mem_singleton] at hc''
    rw [← hc'']
    exact hs
  · -- two or more kept: the scoring loop's pick, started from score zero and the first kept
    have hpick : (selectMax (evaluate conditions) (first :: rest) 0 first).2 ∈
        matchingClusters securityDomain schedulerClusters := by
      rw [hkept]
      rcases selectMax_mem (evaluate conditions) (first :: rest) 0 first with hfirst | hscored
      · rw [hfirst]
        exact List.mem_cons_self ..
      · exact hscored
    obtain ⟨hc, hm⟩ := mem_matchingClusters.mp hpick
    refine ⟨hc, hm, fun c hc' hm' s hs => ?_⟩
    have hscored : c ∈ first :: rest := hkept ▸ mem_matchingClusters.mpr ⟨hc', hm'⟩
    have hle := selectMax_max (evaluate conditions) (first :: rest) 0 first c hscored s hs
    rcases selectMax_score (evaluate conditions) (first :: rest) 0 first with
      hstart | ⟨s', hs', hbest⟩
    · rw [hstart] at hle
      exact .inl hle
    · exact .inr ⟨s', hs', hbest ▸ hle⟩

end Search

theorem findSchedulerCluster_best_by_idc :
    let conditions : Table (List Char) (List Char) :=
      ⟨[⟨['i', 'd', 'c'], ['a']⟩], List.nodupKeys_singleton _⟩
    let low : SchedulerCluster := ⟨1, [], some ⟨[], [], []⟩⟩
    let high : SchedulerCluster := ⟨1, [], some ⟨['a'], [], []⟩⟩
    findSchedulerCluster (fun _ s => s.idc.length) [low, high] conditions = .ok high ∧
      high ∈ [low, high] ∧ Matches [] high ∧
      ∀ c ∈ [low, high], Matches [] c → ∀ s, c.scopes = some s →
        s.idc.length ≤ 0 ∨
          ∃ s', high.scopes = some s' ∧ s.idc.length ≤ s'.idc.length := by
  intro conditions low high
  have h : findSchedulerCluster (fun _ s => s.idc.length) [low, high] conditions = .ok high := rfl
  exact ⟨h, findSchedulerCluster_best h⟩

end Dragonfly.Manager.Searcher
