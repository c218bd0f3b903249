import Compliance.Evaluation
import Compliance.Settings.Basic

/-!
# What settings stand for

The gate, the scoring model, the policy, the SOPs and the correction options
that settings describe, and the check of all sections at once.
-/

namespace Compliance

def defaultSops : SopMap :=
  [("api-security", [.security, .tenantIsolation]),
    ("code-hygiene", [.maintainability]),
    ("data-integrity", [.transactions, .errorHandling]),
    ("operability", [.reliability, .performance])]

def MetricSettings.metric (settings : MetricSettings) (category : Category) : Metric Float :=
  let base : Metric Float := .builtIn category
  { name := settings.name.getD base.name
    category
    weight := settings.weight.getD base.weight
    blockOnFail := settings.blockOnFail.getD base.blockOnFail
    thresholds :=
      { pass := settings.pass.getD base.thresholds.pass
        warn := settings.warn.getD base.thresholds.warn
        fail := settings.fail.getD base.thresholds.fail } }

namespace Settings

def gateConfig (settings : Settings) : Except Error (GateConfig Float) := do
  let gating := settings.gating
  let base : GateConfig Float ← GateConfig.profile gating.profile
  let config : GateConfig Float :=
    { minimumScore := gating.minimumScore.getD base.minimumScore
      blockOnBlockers := gating.blockOnBlockers.getD base.blockOnBlockers
      maxBlockers := gating.maxBlockers.getD base.maxBlockers
      failOnWarnings := gating.failOnWarnings.getD base.failOnWarnings
      maxWarnings := gating.maxWarnings.getD base.maxWarnings }
  config.validate
  return config

/-- Adds one entry: its metric replaces the category's, its deductions too if it has any. -/
def addMetric (model : ScoringModel Float) (entry : String × MetricSettings) :
    Except Error (ScoringModel Float) := do
  let category ← Category.parse entry.1
  let model := model.withMetric (entry.2.metric category)
  match entry.2.deductions with
  | some schedule => return model.withSchedule category schedule
  | none => return model

def scoringModel (settings : Settings) : Except Error (ScoringModel Float) := do
  let model ← settings.metrics.foldlM addMetric ScoringModel.builtIn
  model.validate
  return model

def policy (settings : Settings) (catalog : Catalog) : Except Error Policy := do
  let rules ← settings.general.escalate.mapM (Selection.findRule catalog)
  return rules.foldl (fun policy rule => policy.escalate rule.id) .default

def sopMap (settings : Settings) : Except Error SopMap :=
  settings.sops.foldlM (fun sops (name, ids) => do
    let categories ← ids.mapM Category.parse
    return Value.insertEntry (lowerName name) categories sops) defaultSops

def correctionOptions (settings : Settings) : CorrectionOptions where
  maxIterations := settings.correction.maxIterations
  skipRules := Value.sortedNames (settings.correction.skipRules.map upperName)
  onlyRules := Value.sortedNames (settings.correction.onlyRules.map upperName)

def validate (settings : Settings) (catalog : Catalog) : Except Error Unit := do
  settings.general.window.validate
  discard settings.gateConfig
  discard settings.scoringModel
  discard (settings.policy catalog)
  discard settings.sopMap
  settings.general.categories.forM fun id => discard (Category.parse id)

def engine (settings : Settings) (catalog : Catalog) : Except Error (Engine Float) := do
  let policy ← settings.policy catalog
  let scoring ← settings.scoringModel
  let sops ← settings.sopMap
  return { catalog, policy, scoring, window := settings.general.window, sops }

end Settings

end Compliance
