import Mathlib.Algebra.Order.BigOperators.Group.List
import Mathlib.Algebra.Order.Field.Rat
import Mathlib.Tactic.Positivity
import Mathlib.Tactic.Linarith
import Compliance.Evaluation
import Compliance.Proofs.Steps

/-!
# Exact scores

The rational numbers are scalars without rounding.  Over them a score is one minus the sum
of all penalties, kept in `[0, 1]`, and under a valid model it falls with every finding.
-/

namespace Compliance

instance : Scalar ℚ where
  zero := 0
  one := 1
  add := (· + ·)
  sub := (· - ·)
  mul := (· * ·)
  div := (· / ·)
  ofNat n := n
  hundredths n := n / 100
  lt x y := x < y
  le x y := x ≤ y
  isFinite _ := true
  order := compare
  text := toString

instance : Std.TransCmp (Scalar.order : ℚ → ℚ → Ordering) :=
  inferInstanceAs (Std.TransCmp (compare : ℚ → ℚ → Ordering))

instance : Std.LawfulEqCmp (Scalar.order : ℚ → ℚ → Ordering) :=
  inferInstanceAs (Std.LawfulEqCmp (compare : ℚ → ℚ → Ordering))

namespace Scalar

theorem clampUnit_eq (x : ℚ) : clampUnit x = max 0 (min 1 x) := by
  change (if decide (x < 0) then 0 else if decide (1 < x) then 1 else x) = max 0 (min 1 x)
  simp only [decide_eq_true_eq]
  split
  · next below => rw [max_eq_left ((min_le_right 1 x).trans below.le)]
  · next above =>
      rw [max_eq_right (le_min zero_le_one (not_lt.mp above))]
      split
      · next high => rw [min_eq_left high.le]
      · next low => rw [min_eq_right (not_lt.mp low)]

theorem clampUnit_mono {x y : ℚ} (le : x ≤ y) : clampUnit x ≤ clampUnit y := by
  rw [clampUnit_eq, clampUnit_eq]
  exact max_le_max_left 0 (min_le_min_left 1 le)

theorem clampUnit_mem (x : ℚ) : 0 ≤ clampUnit x ∧ clampUnit x ≤ 1 := by
  rw [clampUnit_eq]
  exact ⟨le_max_left .., max_le zero_le_one (min_le_left ..)⟩

theorem inUnit_iff (x : ℚ) : inUnit x = true ↔ 0 ≤ x ∧ x ≤ 1 := by
  change (decide (0 ≤ x) && decide (x ≤ 1)) = true ↔ _
  rw [Bool.and_eq_true, decide_eq_true_eq, decide_eq_true_eq]

end Scalar

namespace ScoringModel

variable {α : Type} [Scalar α]

theorem validate_eq_ok_iff {model : ScoringModel α} :
    model.validate = .ok () ↔
      (∀ category metric, model.metrics category = some metric → metric.validate = .ok ()) ∧
      ∀ category schedule, model.schedules category = some schedule →
        schedule.validate category = .ok () := by
  rw [validate, bind_eq_ok_iff, forM_eq_ok_iff, forM_eq_ok_iff]
  constructor
  · rintro ⟨metrics, schedules⟩
    refine ⟨fun category metric found => ?_, fun category schedule found => ?_⟩
    · have here := metrics category (Category.mem_all category)
      rwa [found] at here
    · have here := schedules category (Category.mem_all category)
      rwa [found] at here
  · rintro ⟨metrics, schedules⟩
    refine ⟨fun category _ => ?_, fun category _ => ?_⟩
    · split
      · next metric found => exact metrics category metric found
      · rfl
    · split
      · next schedule found => exact schedules category schedule found
      · rfl

end ScoringModel

namespace Schedule

structure Nonneg (schedule : Schedule ℚ) : Prop where
  penalty : ∀ severity, 0 ≤ schedule.penalty severity
  warning : 0 ≤ schedule.warning

theorem nonneg_ofHundredths (critical high medium warning : Nat) :
    (ofHundredths critical high medium warning : Schedule ℚ).Nonneg := by
  have hundredths (n : Nat) : (0 : ℚ) ≤ Scalar.hundredths n := by
    change (0 : ℚ) ≤ n / 100
    positivity
  refine ⟨fun severity => ?_, hundredths warning⟩
  cases severity
  · exact hundredths critical
  · exact hundredths high
  · exact hundredths medium

theorem nonneg_builtIn (category : Category) : (builtIn category : Schedule ℚ).Nonneg := by
  cases category <;> exact nonneg_ofHundredths ..

theorem nonneg_of_validate {schedule : Schedule ℚ} {category : Category}
    (valid : schedule.validate category = .ok ()) : schedule.Nonneg := by
  have inside : ∀ entry ∈ schedule.penalties, 0 ≤ entry.2 := by
    rw [validate] at valid
    split at valid
    · cases valid
    · next none_outside =>
        intro entry listed
        have inUnit : Scalar.inUnit entry.2 = true := by
          have := List.find?_eq_none.mp none_outside entry listed
          simp only [Bool.not_eq_true', Bool.not_eq_false, Bool.and_eq_true] at this
          exact this.2
        exact ((Scalar.inUnit_iff _).mp inUnit).1
  simp only [penalties, List.forall_mem_cons] at inside
  obtain ⟨critical, high, medium, warning, -⟩ := inside
  refine ⟨fun severity => ?_, warning⟩
  cases severity
  · exact critical
  · exact high
  · exact medium

theorem nonneg_schedule {model : ScoringModel ℚ} (valid : model.validate = .ok ())
    (category : Category) : (model.schedule category).Nonneg := by
  rw [ScoringModel.schedule]
  cases replaced : model.schedules category with
  | none => exact nonneg_builtIn category
  | some schedule =>
      exact nonneg_of_validate ((ScoringModel.validate_eq_ok_iff.mp valid).2 _ _ replaced)

/-! ## Scores -/

def deducted (schedule : Schedule ℚ) (violations : List Severity) (warnings : Nat) : ℚ :=
  (violations.map schedule.penalty).sum + schedule.warning * warnings

theorem score_eq (schedule : Schedule ℚ) (violations : List Severity) (warnings : Nat) :
    schedule.score violations warnings =
      Scalar.clampUnit (1 - schedule.deducted violations warnings) := by
  have sum (start : ℚ) : violations.foldl (fun sum severity => sum + schedule.penalty severity)
      start = start + (violations.map schedule.penalty).sum := by
    induction violations generalizing start with
    | nil => simp
    | cons severity violations ih =>
        rw [List.foldl_cons, ih, List.map_cons, List.sum_cons, add_assoc]
  have folded := sum 0
  rw [zero_add] at folded
  rw [deducted, ← folded]
  rfl

theorem Nonneg.deducted_mono {schedule : Schedule ℚ} (nonneg : schedule.Nonneg)
    {fewer more : List Severity} (included : fewer.Subperm more) {few many : Nat}
    (le : few ≤ many) : schedule.deducted fewer few ≤ schedule.deducted more many := by
  have violations : (fewer.map schedule.penalty).sum ≤ (more.map schedule.penalty).sum := by
    obtain ⟨same, perm, sublist⟩ := included
    rw [← (perm.map schedule.penalty).sum_eq]
    refine (sublist.map schedule.penalty).sum_le_sum fun cost here => ?_
    obtain ⟨severity, -, rfl⟩ := List.mem_map.mp here
    exact nonneg.penalty severity
  have warnings : schedule.warning * few ≤ schedule.warning * many :=
    mul_le_mul_of_nonneg_left (Nat.cast_le.mpr le) nonneg.warning
  exact add_le_add violations warnings

theorem Nonneg.score_anti {schedule : Schedule ℚ} (nonneg : schedule.Nonneg)
    {fewer more : List Severity} (included : fewer.Subperm more) {few many : Nat}
    (le : few ≤ many) : schedule.score more many ≤ schedule.score fewer few := by
  rw [score_eq, score_eq]
  exact Scalar.clampUnit_mono (sub_le_sub_left (nonneg.deducted_mono included le) 1)

theorem score_mem (schedule : Schedule ℚ) (violations : List Severity) (warnings : Nat) :
    0 ≤ schedule.score violations warnings ∧ schedule.score violations warnings ≤ 1 := by
  rw [score_eq]
  exact Scalar.clampUnit_mem _

end Schedule

end Compliance
