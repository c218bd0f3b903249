import Mathlib
import Compliance.Proofs.Score.Exact

/-!
# The order of category scores

Scores are sorted before they are summed, and two scores at one place of the sorting
order bring the same score and the same weight.  So the order in which the scores come
plays no part, whatever the arithmetic is.
-/

namespace Compliance

variable {α : Type} [Scalar α]

theorem transCmp_on {β γ : Type} (order : γ → γ → Ordering) [Std.TransCmp order] (read : β → γ) :
    Std.TransCmp fun a b => order (read a) (read b) where
  eq_swap := Std.OrientedCmp.eq_swap
  isLE_trans := Std.TransCmp.isLE_trans

theorem mergeSort_eq_of_perm {β : Type} (order : β → β → Ordering) [Std.TransCmp order]
    {items other : List β} (perm : items.Perm other)
    (apart : ∀ a ∈ items, ∀ b ∈ items, order a b = .eq → a = b) :
    items.mergeSort (fun a b => (order a b).isLE) =
      other.mergeSort fun a b => (order a b).isLE := by
  have sorted (list : List β) :
      (list.mergeSort fun a b => (order a b).isLE).Pairwise fun a b => (order a b).isLE = true := by
    refine List.pairwise_mergeSort (fun _ _ _ => Std.TransCmp.isLE_trans) (fun a b => ?_) list
    have swapped : order b a = (order a b).swap := Std.OrientedCmp.eq_swap
    rw [swapped]
    cases order a b <;> rfl
  have same : (items.mergeSort fun a b => (order a b).isLE).Perm
      (other.mergeSort fun a b => (order a b).isLE) :=
    (List.mergeSort_perm ..).trans (perm.trans (List.mergeSort_perm ..).symm)
  refine same.eq_of_pairwise (fun a b here there before after => ?_) (sorted items) (sorted other)
  exact apart a (List.mem_mergeSort.mp here) b (perm.mem_iff.mpr (List.mem_mergeSort.mp there))
    (Std.OrientedCmp.isLE_antisymm before after)

namespace CategoryScore

def bare (score : CategoryScore α) : CategoryScore α :=
  ⟨score.category, "", score.score, score.weight, false, score.score⟩

instance [Std.TransCmp (Scalar.order : α → α → Ordering)] :
    Std.TransCmp (order : CategoryScore α → CategoryScore α → Ordering) :=
  have := transCmp_on compare fun score : CategoryScore α => score.category.rank
  have := transCmp_on Scalar.order fun score : CategoryScore α => score.score
  have := transCmp_on Scalar.order fun score : CategoryScore α => score.weight
  inferInstanceAs (Std.TransCmp (compareLex
    (fun a b : CategoryScore α => compare a.category.rank b.category.rank)
    (compareLex (fun a b => Scalar.order a.score b.score)
      fun a b => Scalar.order a.weight b.weight)))

theorem bare_eq_of_order [Std.LawfulEqCmp (Scalar.order : α → α → Ordering)]
    {a b : CategoryScore α} (same : a.order b = .eq) : a.bare = b.bare := by
  obtain ⟨rank, score, weight⟩ : compare a.category.rank b.category.rank = .eq ∧
      Scalar.order a.score b.score = .eq ∧ Scalar.order a.weight b.weight = .eq := by
    simpa only [order, Ordering.then_eq_eq] using same
  rw [bare, bare, Category.rank_injective (Nat.compare_eq_eq.mp rank),
    Std.LawfulEqCmp.eq_of_compare score, Std.LawfulEqCmp.eq_of_compare weight]

end CategoryScore

theorem weightedSums_bare (scores : List (CategoryScore α)) :
    weightedSums (scores.map (·.bare)) = weightedSums scores := by
  rw [weightedSums, List.foldl_map]
  rfl

theorem aggregateScore_bare (scores : List (CategoryScore α)) :
    aggregateScore (scores.map (·.bare)) = aggregateScore scores := by
  have sorted : (scores.map (·.bare)).mergeSort (fun a b => (a.order b).isLE) =
      (scores.mergeSort fun a b => (a.order b).isLE).map (·.bare) :=
    (List.map_mergeSort (f := CategoryScore.bare) fun _ _ _ _ => rfl).symm
  rw [aggregateScore, sorted, List.filter_map]
  simp only [weightedSums_bare]
  rfl

variable [Std.TransCmp (Scalar.order : α → α → Ordering)]
  [Std.LawfulEqCmp (Scalar.order : α → α → Ordering)]

theorem aggregateScore_perm {scores other : List (CategoryScore α)} (perm : scores.Perm other) :
    aggregateScore scores = aggregateScore other := by
  -- scores at the same place may differ in what is not summed, so they are made bare first
  have sorted := mergeSort_eq_of_perm CategoryScore.order (perm.map (·.bare)) <| by
    intro a here b there same
    obtain ⟨a, -, rfl⟩ := List.mem_map.mp here
    obtain ⟨b, -, rfl⟩ := List.mem_map.mp there
    exact CategoryScore.bare_eq_of_order (a := a.bare) (b := b.bare) same
  rw [← aggregateScore_bare scores, ← aggregateScore_bare other]
  simp only [aggregateScore, sorted]

namespace GateConfig

omit [Scalar α] [Std.TransCmp (Scalar.order : α → α → Ordering)]
  [Std.LawfulEqCmp (Scalar.order : α → α → Ordering)] in
theorem eq_of_rank {scores : List (CategoryScore α)} (distinct : (scores.map (·.category)).Nodup)
    {a b : CategoryScore α} (here : a ∈ scores) (there : b ∈ scores)
    (same : compare a.category.rank b.category.rank = .eq) : a = b :=
  List.inj_on_of_nodup_map distinct here there
    (Category.rank_injective (Nat.compare_eq_eq.mp same))

omit [Std.TransCmp (Scalar.order : α → α → Ordering)]
  [Std.LawfulEqCmp (Scalar.order : α → α → Ordering)]

theorem lowCategory?_perm {scores other : List (CategoryScore α)} (perm : scores.Perm other)
    (distinct : (scores.map (·.category)).Nodup) : lowCategory? scores = lowCategory? other := by
  have := transCmp_on compare fun score : CategoryScore α => score.category.rank
  have sorted := mergeSort_eq_of_perm
    (fun a b : CategoryScore α => compare a.category.rank b.category.rank) perm
    fun a here b there same => eq_of_rank distinct here there same
  have places : (fun a b : CategoryScore α =>
      Decidable.decide (a.category.rank ≤ b.category.rank)) =
      fun a b => (compare a.category.rank b.category.rank).isLE := by
    funext a b
    rw [Bool.eq_iff_iff, decide_eq_true_eq, Nat.isLE_compare]
  rw [lowCategory?, lowCategory?, places, sorted]

theorem lowCategory?_isSome (scores : List (CategoryScore α)) :
    (lowCategory? scores).isSome = scores.any (·.isBlocking) := by
  rw [lowCategory?, Bool.eq_iff_iff, List.find?_isSome, List.any_eq_true]
  simp only [List.mem_mergeSort]

theorem passed_decide (config : GateConfig α) (blockers warnings : Nat)
    (scores : List (CategoryScore α)) :
    (config.decide blockers warnings scores).passed =
      !(config.blockOnBlockers && config.maxBlockers < blockers ||
        config.failOnWarnings && config.maxWarnings < warnings ||
        scores.any (·.isBlocking) ||
        Scalar.lt (Compliance.aggregateScore scores) config.minimumScore) := by
  rw [← lowCategory?_isSome]
  simp only [decide, firstFailure]
  split
  · next blocked => simp [blocked]
  · next unblocked =>
      split
      · next warned => simp [warned]
      · next unwarned =>
          cases lowCategory? scores with
          | some low => simp
          | none =>
              simp only [unblocked, unwarned]
              split
              · next below => simp [below]
              · next above => simp [above]

theorem passed_perm [Std.TransCmp (Scalar.order : α → α → Ordering)]
    [Std.LawfulEqCmp (Scalar.order : α → α → Ordering)] {scores other : List (CategoryScore α)}
    (perm : scores.Perm other) (config : GateConfig α) (blockers warnings : Nat) :
    (config.decide blockers warnings scores).passed =
      (config.decide blockers warnings other).passed := by
  have blocking : scores.any (·.isBlocking) = other.any (·.isBlocking) := perm.any_eq
  rw [passed_decide, passed_decide, aggregateScore_perm perm, blocking]

/-- The order of the scores plays no part in the aggregate and in the verdict; if no category
comes twice, it plays no part in the reason either. -/
theorem decide_perm [Std.TransCmp (Scalar.order : α → α → Ordering)]
    [Std.LawfulEqCmp (Scalar.order : α → α → Ordering)] {scores other : List (CategoryScore α)}
    (perm : scores.Perm other) :
    Compliance.aggregateScore scores = Compliance.aggregateScore other ∧
      ∀ (config : GateConfig α) (blockers warnings : Nat),
        (config.decide blockers warnings scores).passed =
          (config.decide blockers warnings other).passed ∧
        ((scores.map (·.category)).Nodup →
          config.decide blockers warnings scores = config.decide blockers warnings other) := by
  have aggregate := aggregateScore_perm perm
  refine ⟨aggregate, fun config blockers warnings =>
    ⟨passed_perm perm config blockers warnings, fun distinct => ?_⟩⟩
  simp only [decide, firstFailure, aggregate, lowCategory?_perm perm distinct]

def twoLowScores : List (CategoryScore ℚ) :=
  [⟨.transactions, "transaction-integrity", 2/5, 2, true, 3/5⟩,
    ⟨.security, "security-compliance", 1/2, 3, true, 3/5⟩]

theorem decide_perm_of_two_low_scores :
    (twoLowScores.map (·.category)).Nodup ∧
      (default.decide 0 0 twoLowScores).failure =
        some (.categoryBelowThreshold .security "security-compliance" (1/2) (3/5)) ∧
      default.decide 0 0 twoLowScores = default.decide 0 0 twoLowScores.reverse ∧
      Compliance.aggregateScore (twoLowScores ++ twoLowScores) =
        Compliance.aggregateScore (twoLowScores ++ twoLowScores.reverse) := by
  have distinct : (twoLowScores.map (·.category)).Nodup := by decide
  have turned : twoLowScores.Perm twoLowScores.reverse := (List.reverse_perm _).symm
  refine ⟨distinct, ?_, ((decide_perm turned).2 default 0 0).2 distinct,
    (decide_perm (turned.append_left twoLowScores)).1⟩
  cbv

end GateConfig

end Compliance
