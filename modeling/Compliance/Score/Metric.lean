import Compliance.Error
import Compliance.Score.Scalar

/-!
# Deductions and metrics

A category's schedule says what each finding costs; its metric says how much the
category weighs, which scores pass, warn and fail, and whether a failing score
blocks the gate.  Every category has built-in values.
-/

namespace Compliance

variable {α : Type} [Scalar α]

open Scalar

structure Schedule (α : Type) where
  critical : α
  high : α
  medium : α
  warning : α
  deriving DecidableEq, Repr

namespace Schedule

def penalty (schedule : Schedule α) : Severity → α
  | .critical => schedule.critical
  | .high => schedule.high
  | .medium => schedule.medium

def ofHundredths (critical high medium warning : Nat) : Schedule α :=
  ⟨hundredths critical, hundredths high, hundredths medium, hundredths warning⟩

def builtIn : Category → Schedule α
  | .security => ofHundredths 30 20 10 5
  | .errorHandling => ofHundredths 25 15 10 3
  | .performance => ofHundredths 20 10 5 2
  | .reliability => ofHundredths 25 15 8 3
  | .maintainability => ofHundredths 10 5 2 1
  | .transactions => ofHundredths 20 20 20 5
  | .tenantIsolation => ofHundredths 40 30 15 5

def score (schedule : Schedule α) (violations : List Severity) (warnings : Nat) : α :=
  let deducted := violations.foldl (fun sum severity => add sum (schedule.penalty severity)) zero
  clampUnit (sub one (add deducted (mul schedule.warning (Scalar.ofNat warnings))))

def penalties (schedule : Schedule α) : List (String × α) :=
  [("critical", schedule.critical), ("high", schedule.high), ("medium", schedule.medium),
    ("warning", schedule.warning)]

def validate (schedule : Schedule α) (category : Category) : Except Error Unit :=
  match schedule.penalties.find? fun entry => !(isFinite entry.2 && inUnit entry.2) with
  | some (name, value) => .error (.badDeduction category name (text value))
  | none => .ok ()

end Schedule

inductive Status where
  | pass
  | warn
  | fail
  deriving DecidableEq, Repr

namespace Status

def id : Status → String
  | pass => "pass"
  | warn => "warn"
  | fail => "fail"

def label : Status → String
  | pass => "PASS"
  | warn => "WARN"
  | fail => "FAIL"

end Status

/-- Bounds of a metric.  The status fails below `warn`; the gate uses the lower bound `fail`. -/
structure Thresholds (α : Type) where
  pass : α
  warn : α
  fail : α
  deriving DecidableEq, Repr

namespace Thresholds

def default : Thresholds α := ⟨hundredths 80, hundredths 60, hundredths 40⟩

def status (thresholds : Thresholds α) (score : α) : Status :=
  if le thresholds.pass score then .pass
  else if le thresholds.warn score then .warn
  else .fail

def isBelowFail (thresholds : Thresholds α) (score : α) : Bool := lt score thresholds.fail

def validate (thresholds : Thresholds α) (metric : String) : Except Error Unit :=
  let inRange := inUnit thresholds.pass && inUnit thresholds.warn && inUnit thresholds.fail
  if !inRange || lt thresholds.pass thresholds.warn || lt thresholds.warn thresholds.fail then
    .error (.badThresholds metric (text thresholds.pass) (text thresholds.warn)
      (text thresholds.fail))
  else .ok ()

end Thresholds

structure Metric (α : Type) where
  name : String
  category : Category
  weight : α
  blockOnFail : Bool
  thresholds : Thresholds α
  deriving DecidableEq, Repr

namespace Metric

def plain (name : String) (category : Category) (weight : α) : Metric α :=
  ⟨name, category, weight, false, Thresholds.default⟩

def ofHundredths (name : String) (category : Category) (weight : Nat) (blockOnFail : Bool)
    (pass warn fail : Nat) : Metric α :=
  ⟨name, category, hundredths weight, blockOnFail,
    ⟨hundredths pass, hundredths warn, hundredths fail⟩⟩

def builtIn (category : Category) : Metric α :=
  match category with
  | .security => ofHundredths "security-compliance" category 300 true 90 75 60
  | .tenantIsolation => ofHundredths "tenant-isolation" category 300 true 95 80 70
  | .transactions => ofHundredths "transaction-integrity" category 200 true 90 75 60
  | .errorHandling => ofHundredths "error-handling-quality" category 200 false 85 70 50
  | .reliability => ofHundredths "reliability" category 150 false 85 70 50
  | .performance => ofHundredths "performance" category 100 false 80 60 40
  | .maintainability => ofHundredths "maintainability" category 50 false 70 50 30

def validate (metric : Metric α) : Except Error Unit :=
  if !isFinite metric.weight || lt metric.weight zero then .error (.badWeight metric.name)
  else metric.thresholds.validate metric.name

end Metric

structure ScoringModel (α : Type) where
  metrics : Category → Option (Metric α) := fun _ => none
  schedules : Category → Option (Schedule α) := fun _ => none

namespace ScoringModel

def builtIn : ScoringModel α := {}

def withMetric (model : ScoringModel α) (metric : Metric α) : ScoringModel α :=
  { model with metrics := fun category =>
      if category = metric.category then some metric else model.metrics category }

def withSchedule (model : ScoringModel α) (category : Category) (schedule : Schedule α) :
    ScoringModel α :=
  { model with schedules := fun other =>
      if other = category then some schedule else model.schedules other }

def metric (model : ScoringModel α) (category : Category) : Metric α :=
  (model.metrics category).getD (Metric.builtIn category)

def schedule (model : ScoringModel α) (category : Category) : Schedule α :=
  (model.schedules category).getD (Schedule.builtIn category)

def validate (model : ScoringModel α) : Except Error Unit := do
  Category.all.forM fun category =>
    match model.metrics category with
    | some metric => metric.validate
    | none => .ok ()
  Category.all.forM fun category =>
    match model.schedules category with
    | some schedule => schedule.validate category
    | none => .ok ()

end ScoringModel

end Compliance
