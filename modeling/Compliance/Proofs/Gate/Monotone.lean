import Mathlib.Data.List.Perm.Basic
import Compliance.Proofs.Gate.Order
import Compliance.Proofs.Evaluation.Hits

/-!
# More findings

Over exact numbers every check of the gate is monotone: a run with more findings scores
lower in each category and in the aggregate, and it fails wherever the first run fails.
-/

namespace Compliance

def weighed (scores : List (CategoryScore ℚ)) : List (CategoryScore ℚ) :=
  scores.filter fun entry => 0 < entry.weight

def weightedTotal (scores : List (CategoryScore ℚ)) : ℚ :=
  ((weighed scores).map fun entry => entry.score * entry.weight).sum

def totalWeight (scores : List (CategoryScore ℚ)) : ℚ :=
  ((weighed scores).map (·.weight)).sum

theorem weightedSums_eq (scores : List (CategoryScore ℚ)) :
    weightedSums scores =
      ((scores.map fun entry => entry.score * entry.weight).sum, (scores.map (·.weight)).sum) := by
  have sums (weighted total : ℚ) :
      scores.foldl (fun (sums : ℚ × ℚ) entry =>
        (sums.1 + entry.score * entry.weight, sums.2 + entry.weight)) (weighted, total) =
        (weighted + (scores.map fun entry => entry.score * entry.weight).sum,
          total + (scores.map (·.weight)).sum) := by
    induction scores generalizing weighted total with
    | nil => simp
    | cons entry scores ih =>
        rw [List.foldl_cons, ih]
        simp only [List.map_cons, List.sum_cons, add_assoc]
  have folded := sums 0 0
  rw [zero_add, zero_add] at folded
  exact folded

theorem aggregateScore_eq (scores : List (CategoryScore ℚ)) :
    aggregateScore scores =
      if 0 < totalWeight scores then Scalar.clampUnit (weightedTotal scores / totalWeight scores)
      else 1 := by
  have perm : ((scores.mergeSort fun a b => (a.order b).isLE).filter
      fun entry => Scalar.lt (0 : ℚ) entry.weight).Perm (weighed scores) :=
    (List.mergeSort_perm ..).filter _
  have sums : weightedSums ((scores.mergeSort fun a b => (a.order b).isLE).filter
      fun entry => Scalar.lt (0 : ℚ) entry.weight) =
        (weightedTotal scores, totalWeight scores) := by
    rw [weightedSums_eq, (perm.map _).sum_eq, (perm.map _).sum_eq]
    rfl
  change (match weightedSums ((scores.mergeSort fun a b => (a.order b).isLE).filter
      fun entry => Scalar.lt (0 : ℚ) entry.weight) with
    | (weighted, total) =>
        if decide (0 < total) = true then Scalar.clampUnit (weighted / total) else 1) = _
  rw [sums]
  simp only [decide_eq_true_eq]

theorem aggregateScore_mem (scores : List (CategoryScore ℚ)) :
    0 ≤ aggregateScore scores ∧ aggregateScore scores ≤ 1 := by
  rw [aggregateScore_eq]
  split
  · exact Scalar.clampUnit_mem _
  · exact ⟨zero_le_one, le_rfl⟩

structure CategoryScore.Lowered (entry lower : CategoryScore ℚ) : Prop where
  weight : lower.weight = entry.weight
  blockOnFail : lower.blockOnFail = entry.blockOnFail
  failThreshold : lower.failThreshold = entry.failThreshold
  score : lower.score ≤ entry.score

theorem lowered_weighed {scores lower : List (CategoryScore ℚ)}
    (lowered : List.Forall₂ CategoryScore.Lowered scores lower) :
    List.Forall₂ (fun entry low => 0 < entry.weight ∧ entry.Lowered low)
      (weighed scores) (weighed lower) := by
  induction lowered with
  | nil => exact .nil
  | @cons entry low scores lower here _ ih =>
      rw [weighed, weighed, List.filter_cons, List.filter_cons, here.weight]
      split
      · next positive => exact .cons ⟨of_decide_eq_true positive, here⟩ ih
      · exact ih

theorem totalWeight_eq {scores lower : List (CategoryScore ℚ)}
    (lowered : List.Forall₂ CategoryScore.Lowered scores lower) :
    totalWeight lower = totalWeight scores := by
  have weights : List.Forall₂ (· = ·) ((weighed lower).map (·.weight))
      ((weighed scores).map (·.weight)) := by
    rw [List.forall₂_map_left_iff, List.forall₂_map_right_iff]
    exact (lowered_weighed lowered).flip.imp fun _ _ pair => pair.2.weight
  rw [List.forall₂_eq_eq_eq] at weights
  rw [totalWeight, totalWeight, weights]

theorem weightedTotal_le {scores lower : List (CategoryScore ℚ)}
    (lowered : List.Forall₂ CategoryScore.Lowered scores lower) :
    weightedTotal lower ≤ weightedTotal scores := by
  refine List.Forall₂.sum_le_sum ?_
  rw [List.forall₂_map_left_iff, List.forall₂_map_right_iff]
  refine (lowered_weighed lowered).flip.imp fun low entry pair => ?_
  rw [pair.2.weight]
  exact mul_le_mul_of_nonneg_right pair.2.score pair.1.le

theorem aggregateScore_le {scores lower : List (CategoryScore ℚ)}
    (lowered : List.Forall₂ CategoryScore.Lowered scores lower) :
    aggregateScore lower ≤ aggregateScore scores := by
  rw [aggregateScore_eq, aggregateScore_eq, totalWeight_eq lowered]
  split
  · next positive =>
      exact Scalar.clampUnit_mono
        (div_le_div_of_nonneg_right (weightedTotal_le lowered) positive.le)
  · exact le_rfl

theorem any_isBlocking {scores lower : List (CategoryScore ℚ)}
    (lowered : List.Forall₂ CategoryScore.Lowered scores lower)
    (blocks : scores.any (·.isBlocking) = true) : lower.any (·.isBlocking) = true := by
  induction lowered with
  | nil => cases blocks
  | @cons entry low scores lower here _ ih =>
      rw [List.any_cons, Bool.or_eq_true] at blocks ⊢
      refine blocks.imp (fun blocking => ?_) ih
      obtain ⟨blocked, below⟩ := Bool.and_eq_true_iff.mp blocking
      refine Bool.and_eq_true_iff.mpr ⟨here.blockOnFail ▸ blocked, decide_eq_true ?_⟩
      rw [here.failThreshold]
      exact here.score.trans_lt (of_decide_eq_true below)

/-- None of the four checks is passed with more findings and lower scores, if it is failed
without. -/
theorem passed_decide_anti (config : GateConfig ℚ)
    {blockers moreBlockers warnings moreWarnings : Nat}
    (counted : blockers ≤ moreBlockers) (warned : warnings ≤ moreWarnings)
    {scores lower : List (CategoryScore ℚ)}
    (lowered : List.Forall₂ CategoryScore.Lowered scores lower)
    (fails : (config.decide blockers warnings scores).passed = false) :
    (config.decide moreBlockers moreWarnings lower).passed = false := by
  simp only [GateConfig.passed_decide, Bool.not_eq_false', Bool.or_eq_true, Bool.and_eq_true,
    decide_eq_true_eq] at fails ⊢
  rcases fails with ((⟨guarded, many⟩ | ⟨guarded, many⟩) | blocks) | below
  · exact .inl (.inl (.inl ⟨guarded, many.trans_le counted⟩))
  · exact .inl (.inl (.inr ⟨guarded, many.trans_le warned⟩))
  · exact .inl (.inr (any_isBlocking lowered blocks))
  · exact .inr (decide_eq_true ((aggregateScore_le lowered).trans_lt (of_decide_eq_true below)))

/-! ## Runs -/

namespace Run

variable {α : Type}

def ScoredBy [Scalar α] (run : Run α) (scoring : ScoringModel α) : Prop :=
  ∀ result ∈ run.results, result.score = (scoring.schedule result.category).score
    (result.violations.map (·.severity)) result.warnings.length

/-- The runs have the same categories, each of them once, and in each category the first run has
the findings of the second. -/
structure Includes (more fewer : Run α) : Prop where
  distinct : (fewer.results.map (·.category)).Nodup
  categories : (fewer.results.map (·.category)).Perm (more.results.map (·.category))
  violations : ∀ one ∈ fewer.results, ∀ other ∈ more.results, one.category = other.category →
    one.violations.Subperm other.violations
  warnings : ∀ one ∈ fewer.results, ∀ other ∈ more.results, one.category = other.category →
    one.warnings.Subperm other.warnings

theorem exists_matched {β γ : Type} {read : β → γ} {items other : List β}
    (same : (items.map read).Perm (other.map read)) :
    ∃ matched, matched.Perm other ∧
      List.Forall₂ (fun a b => a ∈ items ∧ b ∈ other ∧ read a = read b) items matched := by
  have named : List.Forall₂ (fun name b => name = read b) (other.map read) other := by
    rw [List.forall₂_map_left_iff, List.forall₂_same]
    exact fun _ _ => rfl
  obtain ⟨matched, pairs, perm⟩ := List.perm_comp_forall₂ same named
  rw [List.forall₂_map_left_iff, List.forall₂_iff_zip] at pairs
  refine ⟨matched, perm, List.forall₂_iff_zip.mpr ⟨pairs.1, fun {a b} listed => ?_⟩⟩
  obtain ⟨here, there⟩ := List.of_mem_zip listed
  exact ⟨here, perm.mem_iff.mp there, pairs.2 listed⟩

theorem length_flatMap_le {β γ : Type} {related : β → β → Prop} {read : β → List γ}
    (grows : ∀ a b, related a b → (read a).length ≤ (read b).length) {items other : List β}
    (pairs : List.Forall₂ related items other) :
    (items.flatMap read).length ≤ (other.flatMap read).length := by
  induction pairs with
  | nil => exact le_rfl
  | cons here _ ih =>
      simp only [List.flatMap_cons, List.length_append]
      exact Nat.add_le_add (grows _ _ here) ih

variable {more fewer : Run α}

theorem Includes.length_violations_le (included : more.Includes fewer) :
    fewer.violations.length ≤ more.violations.length := by
  obtain ⟨matched, perm, pairs⟩ := exists_matched included.categories
  have lengths : (matched.flatMap (·.violations)).length = more.violations.length :=
    (perm.flatMap_right _).length_eq
  rw [← lengths]
  exact length_flatMap_le (fun one other both =>
    (included.violations one both.1 other both.2.1 both.2.2).length_le) pairs

theorem Includes.length_warnings_le (included : more.Includes fewer) :
    fewer.warnings.length ≤ more.warnings.length := by
  obtain ⟨matched, perm, pairs⟩ := exists_matched included.categories
  have lengths : (matched.flatMap (·.warnings)).length = more.warnings.length :=
    (perm.flatMap_right _).length_eq
  rw [← lengths]
  exact length_flatMap_le (fun one other both =>
    (included.warnings one both.1 other both.2.1 both.2.2).length_le) pairs

end Run

namespace Engine

variable {α : Type} [Scalar α]

theorem scoredBy_runPlan (engine : Engine α) (plan : Plan) (files : List SourceFile) :
    (engine.runPlan plan files).ScoredBy engine.scoring := by
  intro result here
  obtain ⟨evaluated, listed, rfl⟩ := List.mem_map.mp here
  obtain ⟨entry, -, rfl⟩ := List.mem_map.mp listed
  rfl

theorem includes_runPlan_append (engine : Engine α) {plan : Plan}
    (distinct : (plan.map (·.1)).Nodup) (first second : List SourceFile) :
    (engine.runPlan plan (first ++ second)).Includes (engine.runPlan plan first) := by
  have each : ∀ one ∈ (engine.runPlan plan first).results,
      ∀ other ∈ (engine.runPlan plan (first ++ second)).results, one.category = other.category →
        one.violations.Sublist other.violations ∧ one.warnings.Sublist other.warnings := by
    intro one here other there same
    simp only [runPlan, List.map_map, List.mem_map] at here there
    obtain ⟨entry, planned, rfl⟩ := here
    obtain ⟨entry', planned', rfl⟩ := there
    obtain rfl : entry = entry' := List.inj_on_of_nodup_map distinct planned planned' same
    have hits := (inspect_append engine.window entry.2 first second).symm ▸
      List.sublist_append_left (inspect engine.window entry.2 first) _
    exact ⟨hits.filterMap _, hits.filterMap _⟩
  refine ⟨?_, ?_, fun one here other there same => ?_, fun one here other there same => ?_⟩
  · rwa [categories_runPlan]
  · rw [categories_runPlan, categories_runPlan]
  · exact (each one here other there same).1.subperm
  · exact (each one here other there same).2.subperm

end Engine

variable {scoring : ScoringModel ℚ} {fewer more : Run ℚ}

theorem Run.Includes.score_le (included : more.Includes fewer) (valid : scoring.validate = .ok ())
    (scored : fewer.ScoredBy scoring) (scoredMore : more.ScoredBy scoring)
    {one other : CategoryResult ℚ} (here : one ∈ fewer.results) (there : other ∈ more.results)
    (same : one.category = other.category) : other.score ≤ one.score := by
  rw [scored one here, scoredMore other there, ← same]
  obtain ⟨violations, perm, sublist⟩ := included.violations one here other there same
  exact (Schedule.nonneg_schedule valid one.category).score_anti
    ⟨_, perm.map _, sublist.map _⟩ (included.warnings one here other there same).length_le

/-- A run with more findings scores no higher, and fails the gate if the other run fails it. -/
theorem GateConfig.evaluate_includes (valid : scoring.validate = .ok ()) (config : GateConfig ℚ)
    (scored : fewer.ScoredBy scoring) (scoredMore : more.ScoredBy scoring)
    (included : more.Includes fewer) :
    (∀ one ∈ fewer.results, ∀ other ∈ more.results, one.category = other.category →
      0 ≤ other.score ∧ other.score ≤ one.score ∧ one.score ≤ 1) ∧
    (0 ≤ (config.evaluate more scoring).aggregateScore ∧
      (config.evaluate more scoring).aggregateScore ≤
        (config.evaluate fewer scoring).aggregateScore ∧
      (config.evaluate fewer scoring).aggregateScore ≤ 1) ∧
    ((config.evaluate fewer scoring).passed = false →
      (config.evaluate more scoring).passed = false) := by
  obtain ⟨matched, perm, pairs⟩ := Run.exists_matched included.categories
  have lowered : List.Forall₂ CategoryScore.Lowered
      (fewer.results.map (categoryScore scoring)) (matched.map (categoryScore scoring)) := by
    rw [List.forall₂_map_left_iff, List.forall₂_map_right_iff]
    refine pairs.imp fun one other ⟨here, there, same⟩ => ?_
    have score := included.score_le valid scored scoredMore here there same
    constructor <;> simp only [categoryScore, same]
    exact score
  have reordered := perm.map (categoryScore scoring)
  refine ⟨fun one here other there same => ⟨?_, ?_, ?_⟩, ⟨?_, ?_, ?_⟩, fun fails => ?_⟩
  · rw [scoredMore other there]
    exact (Schedule.score_mem ..).1
  · exact included.score_le valid scored scoredMore here there same
  · rw [scored one here]
    exact (Schedule.score_mem ..).2
  · exact (aggregateScore_mem _).1
  · exact (aggregateScore_perm reordered.symm).le.trans (aggregateScore_le lowered)
  · exact (aggregateScore_mem _).2
  · rw [evaluate, passed_perm reordered.symm]
    exact passed_decide_anti config included.length_violations_le included.length_warnings_le
      lowered fails

def exactEngine : Engine ℚ := { catalog := .standard }

def thrownOnce : SourceFile := ⟨"a.ts", "throw 'no';".toList⟩

def evaluated : SourceFile := ⟨"b.ts", "eval(x);".toList⟩

def twoCategories : Plan :=
  [Category.security, Category.errorHandling].map fun category =>
    (category, Catalog.standard.byCategory category)

theorem GateConfig.evaluate_includes_of_second_file :
    let fewer := exactEngine.runPlan twoCategories [thrownOnce]
    let more := exactEngine.runPlan twoCategories ([thrownOnce] ++ [evaluated])
    exactEngine.scoring.validate = .ok () ∧ fewer.ScoredBy exactEngine.scoring ∧
      more.ScoredBy exactEngine.scoring ∧ more.Includes fewer ∧
      (default.evaluate more exactEngine.scoring).aggregateScore ≤
        (default.evaluate fewer exactEngine.scoring).aggregateScore ∧
      (default.evaluate more exactEngine.scoring).passed = false := by
  intro fewer more
  have valid : exactEngine.scoring.validate = .ok () := rfl
  have scored : fewer.ScoredBy exactEngine.scoring :=
    exactEngine.scoredBy_runPlan twoCategories [thrownOnce]
  have scoredMore : more.ScoredBy exactEngine.scoring :=
    exactEngine.scoredBy_runPlan twoCategories ([thrownOnce] ++ [evaluated])
  have included : more.Includes fewer :=
    exactEngine.includes_runPlan_append (by decide) [thrownOnce] [evaluated]
  have blocked : 0 < fewer.violations.length := by decide +kernel
  have fails : (default.evaluate fewer exactEngine.scoring).passed = false := by
    rw [evaluate, passed_decide]
    simp [default, blocked]
  obtain ⟨-, ⟨-, lower, -⟩, failing⟩ := evaluate_includes valid default scored scoredMore included
  exact ⟨valid, scored, scoredMore, included, lower, failing fails⟩

end Compliance
