import Compliance.Score.Metric

/-!
# The gate

The gate reduces counts and category scores to a verdict.  Its checks run in a
fixed order and the first that fails is the reason: blockers, warnings, a
blocking category under its bound, the aggregate score.  Scores are put into a
fixed order before anything is summed, so the order of evaluation plays no part.
-/

namespace Compliance

variable {α : Type} [Scalar α]

open Scalar

structure GateConfig (α : Type) where
  minimumScore : α
  blockOnBlockers : Bool
  maxBlockers : Nat
  failOnWarnings : Bool
  maxWarnings : Nat
  deriving DecidableEq, Repr

namespace GateConfig

def default : GateConfig α := ⟨hundredths 80, true, 0, false, 50⟩

def strict : GateConfig α := ⟨hundredths 90, true, 0, true, 10⟩

/-- A profile by its name; blanks around it and letter case do not matter. -/
def profile (name : String) : Except Error (GateConfig α) :=
  let normal := lowerName (trimName name)
  if normal = "default" then .ok default
  else if normal = "strict" then .ok strict
  else .error (.unknownProfile normal)

def validate (config : GateConfig α) : Except Error Unit :=
  if inUnit config.minimumScore then .ok ()
  else .error (.minimumScoreOutside (text config.minimumScore))

end GateConfig

structure CategoryScore (α : Type) where
  category : Category
  metricName : String
  score : α
  weight : α
  blockOnFail : Bool
  failThreshold : α
  deriving DecidableEq, Repr

namespace CategoryScore

def order (a b : CategoryScore α) : Ordering :=
  (compare a.category.rank b.category.rank).then
    ((Scalar.order a.score b.score).then (Scalar.order a.weight b.weight))

def isBlocking (score : CategoryScore α) : Bool :=
  score.blockOnFail && lt score.score score.failThreshold

end CategoryScore

def weightedSums (scores : List (CategoryScore α)) : α × α :=
  scores.foldl (fun (weighted, total) entry =>
    (add weighted (mul entry.score entry.weight), add total entry.weight)) (zero, zero)

/-- The weighted mean over the categories with a positive weight; one if there is none. -/
def aggregateScore (scores : List (CategoryScore α)) : α :=
  let ordered := scores.mergeSort fun a b => (a.order b).isLE
  let (weighted, total) := weightedSums (ordered.filter fun entry => lt (zero : α) entry.weight)
  if lt (zero : α) total then clampUnit (div weighted total) else one

inductive GateFailure (α : Type) where
  | tooManyBlockers (count max : Nat)
  | tooManyWarnings (count max : Nat)
  | categoryBelowThreshold (category : Category) (metric : String) (score threshold : α)
  | aggregateBelowMinimum (score minimum : α)
  deriving DecidableEq, Repr

structure GateDecision (α : Type) where
  passed : Bool
  aggregateScore : α
  blockers : Nat
  warnings : Nat
  failure : Option (GateFailure α)
  deriving DecidableEq, Repr

namespace GateConfig

def lowCategory? (scores : List (CategoryScore α)) : Option (CategoryScore α) :=
  (scores.mergeSort fun a b => a.category.rank ≤ b.category.rank).find? (·.isBlocking)

def firstFailure (config : GateConfig α) (blockers warnings : Nat)
    (scores : List (CategoryScore α)) (aggregate : α) : Option (GateFailure α) :=
  if config.blockOnBlockers && config.maxBlockers < blockers then
    some (.tooManyBlockers blockers config.maxBlockers)
  else if config.failOnWarnings && config.maxWarnings < warnings then
    some (.tooManyWarnings warnings config.maxWarnings)
  else match lowCategory? scores with
    | some low =>
        some (.categoryBelowThreshold low.category low.metricName low.score low.failThreshold)
    | none =>
        if lt aggregate config.minimumScore then
          some (.aggregateBelowMinimum aggregate config.minimumScore)
        else none

def decide (config : GateConfig α) (blockers warnings : Nat)
    (scores : List (CategoryScore α)) : GateDecision α :=
  let aggregate := Compliance.aggregateScore scores
  let failure := config.firstFailure blockers warnings scores aggregate
  ⟨failure.isNone, aggregate, blockers, warnings, failure⟩

end GateConfig

def GateFailure.reason : GateFailure Float → String
  | tooManyBlockers count max => s!"{count} blocking violation(s) (max {max})"
  | tooManyWarnings count max => s!"{count} warning(s) (max {max})"
  | categoryBelowThreshold category metric score threshold =>
      let shown := fixedNumber 2 score
      let bound := fixedNumber 2 threshold
      s!"category {category.id} ({metric}) scored {shown}, below fail threshold {bound}"
  | aggregateBelowMinimum score minimum =>
      let shown := fixedNumber 2 score
      let bound := fixedNumber 2 minimum
      s!"aggregate score {shown} is below minimum {bound}"

def GateDecision.reason? (decision : GateDecision Float) : Option String :=
  decision.failure.map (·.reason)

end Compliance
