import Compliance.Fix.Apply
import Compliance.Score.Metric

/-!
# Settings

The shape of the configuration.  Every section and every field has a default;
optional fields replace a built-in value when they are set.
-/

namespace Compliance

structure GeneralSettings where
  includes : List String := ["**/*.\x7bts,tsx,js,jsx,mjs,cjs\x7d"]
  excludes : List String := ["**/node_modules/**", "**/dist/**", "**/build/**", "**/*.d.ts"]
  categories : List String := []
  escalate : List String := []
  window : Window := {}
  deriving DecidableEq, Repr

structure GateSettings where
  profile : String := "default"
  minimumScore : Option Float := none
  blockOnBlockers : Option Bool := none
  maxBlockers : Option Nat := none
  failOnWarnings : Option Bool := none
  maxWarnings : Option Nat := none
  deriving Repr

structure MetricSettings where
  name : Option String := none
  weight : Option Float := none
  blockOnFail : Option Bool := none
  pass : Option Float := none
  warn : Option Float := none
  fail : Option Float := none
  deductions : Option (Schedule Float) := none
  deriving Repr

structure CorrectionSettings where
  maxIterations : Nat := 3
  skipRules : List String := []
  onlyRules : List String := []
  deriving DecidableEq, Repr

structure LoggingSettings where
  level : String := "warn"
  jsonFormat : Bool := false
  deriving DecidableEq, Repr

structure Settings where
  general : GeneralSettings := {}
  gating : GateSettings := {}
  metrics : List (String × MetricSettings) := []
  correction : CorrectionSettings := {}
  sops : List (String × List String) := []
  logging : LoggingSettings := {}
  deriving Repr

end Compliance
