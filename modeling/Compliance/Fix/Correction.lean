import Compliance.Evaluation
import Compliance.Fix.Apply

/-!
# The correction loop

Validate, apply fixes, validate again, until nothing is left, nothing changes or
the cap is reached.  The result keeps every round.
-/

namespace Compliance

inductive CorrectionOutcome where
  | clean
  | resolved
  /-- A round changed nothing; the rest needs manual work. -/
  | stalled
  | iterationLimit
  deriving DecidableEq, Repr

namespace CorrectionOutcome

def id : CorrectionOutcome → String
  | clean => "clean"
  | resolved => "resolved"
  | stalled => "stalled"
  | iterationLimit => "iteration-limit"

def label : CorrectionOutcome → String
  | clean => "clean"
  | resolved => "resolved"
  | stalled => "stalled"
  | iterationLimit => "iteration limit"

end CorrectionOutcome

structure Iteration where
  start : Text
  corrected : Text
  fixes : List AppliedFix
  remaining : List Violation
  deriving DecidableEq, Repr

structure Correction where
  file : String
  initial : Text
  final : Text
  iterations : List Iteration
  remaining : List Violation
  outcome : CorrectionOutcome
  deriving DecidableEq, Repr

namespace Correction

def fixes (correction : Correction) : List AppliedFix := correction.iterations.flatMap (·.fixes)

def fixCount (correction : Correction) : Nat := correction.fixes.length

def changed (correction : Correction) : Bool := correction.initial ≠ correction.final

def toFile (correction : Correction) : SourceFile := ⟨correction.file, correction.final⟩

end Correction

structure Corrector (α : Type) where
  engine : Engine α
  registry : Registry
  selection : Selection := .all
  options : CorrectionOptions := {}

namespace Corrector

variable {α : Type} [Scalar α]

def violations (corrector : Corrector α) (name : String) (content : Text) :
    Except Error (List Violation) :=
  (corrector.engine.run corrector.selection [⟨name, content⟩]).map (·.violations)

def step (corrector : Corrector α) (content : Text) (violations : List Violation) :
    Text × List AppliedFix :=
  applyFixes corrector.registry corrector.options content
    (violations.map fun violation => ⟨violation.ruleId, violation.line⟩)

structure Ending where
  iterations : List Iteration
  final : Text
  remaining : List Violation
  outcome : CorrectionOutcome
  deriving DecidableEq, Repr

/-- At most as many rounds as the first argument says, from content that has violations. -/
def loop (corrector : Corrector α) (name : String) :
    Nat → Text → List Violation → Except Error Ending
  | 0, content, violations => .ok ⟨[], content, violations, .iterationLimit⟩
  | cap + 1, content, violations =>
      let (corrected, fixes) := corrector.step content violations
      if fixes.isEmpty then .ok ⟨[], content, violations, .stalled⟩
      else do
        let remaining ← corrector.violations name corrected
        let round : Iteration := ⟨content, corrected, fixes, remaining⟩
        if remaining.isEmpty then .ok ⟨[round], corrected, [], .resolved⟩
        else
          let ending ← corrector.loop name cap corrected remaining
          .ok { ending with iterations := round :: ending.iterations }

def correct (corrector : Corrector α) (file : SourceFile) : Except Error Correction := do
  let violations ← corrector.violations file.name file.content
  let ending ←
    if violations.isEmpty then .ok ⟨[], file.content, [], .clean⟩
    else corrector.loop file.name corrector.options.maxIterations file.content violations
  return ⟨file.name, file.content, ending.final, ending.iterations, ending.remaining,
    ending.outcome⟩

def correctAll (corrector : Corrector α) (files : List SourceFile) :
    Except Error (List Correction) :=
  files.mapM corrector.correct

end Corrector

end Compliance
