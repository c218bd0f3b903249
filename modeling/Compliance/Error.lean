import Compliance.Category

/-!
# Errors

What can be wrong with a configuration or a selection.  A constructor names the
cause; `Error.message` is the only place with wording.
-/

namespace Compliance

inductive Misfit where
  | wrongType
  | wrongValue
  | missingField
  | wrongLength
  | malformed
  deriving DecidableEq, Repr

inductive Error where
  | duplicateRule (id : String)
  | windowTooLarge (size : String) (value : Nat)
  | unknownProfile (name : String)
  | minimumScoreOutside (value : String)
  | badWeight (metric : String)
  | badThresholds (metric pass warn fail : String)
  | badDeduction (category : Category) (penalty value : String)
  | settingsFileMissing (path : String)
  | settingsMisfit (misfit : Misfit) (path : List String)
  /-- The text of a variable is cut inside a character. -/
  | brokenVariable (name : String)
  | unknownCategory (name : String)
  | unknownRule (name : String)
  | unknownSop (name : String)
  | invalidPattern (pattern : String)
  deriving DecidableEq, Repr

namespace Error

def message : Error → String
  | duplicateRule id => s!"Configuration error: duplicate rule id {id}"
  | windowTooLarge size value => s!"Configuration error: window.{size} {value} exceeds 10000"
  | unknownProfile name =>
      s!"Configuration error: unknown gating profile '{name}' (expected default or strict)"
  | minimumScoreOutside value =>
      s!"Configuration error: minimum_score {value} is outside [0, 1]"
  | badWeight metric =>
      s!"Configuration error: metric {metric}: weight must be a non-negative number"
  | badThresholds metric pass warn fail =>
      s!"Configuration error: metric {metric}: thresholds must satisfy " ++
        s!"1 >= pass ({pass}) >= warn ({warn}) >= fail ({fail}) >= 0"
  | badDeduction category penalty value =>
      s!"Configuration error: deductions for {category.id}: " ++
        s!"{penalty} must be within [0, 1], got {value}"
  | settingsFileMissing path => s!"Configuration error: configuration file not found: {path}"
  | settingsMisfit _ path =>
      let place := ".".intercalate path
      s!"Configuration source error: {place}"
  | brokenVariable name => s!"Configuration source error: broken text in {name}"
  | unknownCategory name => s!"Unknown category: {name}"
  | unknownRule name => s!"Unknown rule: {name}"
  | unknownSop name => s!"Unknown SOP: {name}"
  | invalidPattern pattern => s!"Invalid pattern '{pattern}'"

end Error

/-- Reads a category id; the error keeps the text as it was given. -/
def Category.parse (name : String) : Except Error Category :=
  match Category.parse? name with
  | some category => .ok category
  | none => .error (.unknownCategory name)

end Compliance
