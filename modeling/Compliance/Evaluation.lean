import Compliance.Policy
import Compliance.Selection
import Compliance.Gate

/-!
# Evaluation

The engine inspects every line of every file with the rules of a plan.  What the
inspection gives is one stream of hits, by file, then line, then rule; the
violations, warnings, diagnostics and suggestions of a category are read off it.
-/

namespace Compliance

structure SourceFile where
  name : String
  content : Text
  deriving DecidableEq, Repr

structure Violation where
  file : String
  line : Nat
  ruleId : String
  message : String
  severity : Severity
  fix : Option String
  deriving DecidableEq, Repr

structure Warning where
  file : String
  line : Nat
  ruleId : String
  message : String
  deriving DecidableEq, Repr

/-- A problem of the environment, never a finding. -/
inductive Diagnostic where
  | loadFailure (file message : String)
  | ruleFault (file : String) (line : Nat) (ruleId message : String)
  deriving DecidableEq, Repr

namespace Violation

def text (violation : Violation) : String :=
  s!"[{violation.ruleId}] {violation.file}:{violation.line} - {violation.message} " ++
    s!"({violation.severity.label})"

end Violation

namespace Warning

def text (warning : Warning) : String :=
  s!"[{warning.ruleId}] {warning.file}:{warning.line} - {warning.message}"

end Warning

namespace Diagnostic

def text : Diagnostic → String
  | loadFailure file message => s!"load failure {file}: {message}"
  | ruleFault file line ruleId message => s!"rule fault {file}:{line} [{ruleId}]: {message}"

end Diagnostic

structure Hit where
  file : String
  line : Nat
  rule : Rule
  outcome : Except Fault Finding

namespace Hit

def of? (context : LineContext) (rule : Rule) : Option Hit :=
  match rule.check context with
  | .ok none => none
  | .ok (some finding) => some ⟨context.filename, context.number, rule, .ok finding⟩
  | .error fault => some ⟨context.filename, context.number, rule, .error fault⟩

def finding? (hit : Hit) : Option Finding := hit.outcome.toOption

def violation? (policy : Policy) (hit : Hit) : Option Violation :=
  hit.finding?.bind fun finding =>
    if policy.bucketFor hit.rule = .violations then
      some ⟨hit.file, hit.line, hit.rule.id, finding.message, hit.rule.severity,
        finding.suggestion⟩
    else none

def warning? (policy : Policy) (hit : Hit) : Option Warning :=
  hit.finding?.bind fun finding =>
    if policy.bucketFor hit.rule = .warnings then
      some ⟨hit.file, hit.line, hit.rule.id, finding.message⟩
    else none

def diagnostic? (hit : Hit) : Option Diagnostic :=
  match hit.outcome with
  | .ok _ => none
  | .error fault => some (.ruleFault hit.file hit.line hit.rule.id fault.message)

end Hit

def inspectFile (window : Window) (rules : List Rule) (file : SourceFile) : List Hit :=
  (LineContext.all (Text.lines file.content) file.name window).flatMap fun context =>
    rules.filterMap (Hit.of? context)

def inspect (window : Window) (rules : List Rule) (files : List SourceFile) : List Hit :=
  files.flatMap (inspectFile window rules)

/-! ## Results -/

structure CategoryResult (α : Type) where
  category : Category
  metricName : String
  score : α
  passed : Bool
  status : Status
  violations : List Violation
  warnings : List Warning
  suggestions : List String
  deriving DecidableEq, Repr

structure Run (α : Type) where
  results : List (CategoryResult α)
  diagnostics : List Diagnostic
  filesAnalyzed : Nat
  deriving DecidableEq, Repr

namespace Run

variable {α : Type}

def violations (run : Run α) : List Violation := run.results.flatMap (·.violations)

def warnings (run : Run α) : List Warning := run.results.flatMap (·.warnings)

def result? (run : Run α) (category : Category) : Option (CategoryResult α) :=
  run.results.find? (·.category = category)

def withDiagnostics (run : Run α) (diagnostics : List Diagnostic) : Run α :=
  { run with diagnostics := diagnostics ++ run.diagnostics }

def texts (run : Run α) : List String :=
  run.violations.map (·.text) ++ run.warnings.map (·.text) ++ run.diagnostics.map (·.text)

end Run

structure Engine (α : Type) where
  catalog : Catalog
  policy : Policy := .default
  scoring : ScoringModel α := {}
  window : Window := {}
  sops : SopMap := []

namespace Engine

variable {α : Type} [Scalar α]

/-- The remediations of the rules that fired, in the order of the rules. -/
def suggestions (rules : List Rule) (hits : List Hit) : List String :=
  (rules.filter fun rule =>
    hits.any fun hit => hit.finding?.isSome && hit.rule.id == rule.id).map (·.remediation)

def summarize (engine : Engine α) (category : Category) (rules : List Rule) (hits : List Hit) :
    CategoryResult α :=
  let violations := hits.filterMap (Hit.violation? engine.policy)
  let warnings := hits.filterMap (Hit.warning? engine.policy)
  let metric := engine.scoring.metric category
  let score :=
    (engine.scoring.schedule category).score (violations.map (·.severity)) warnings.length
  { category
    metricName := metric.name
    score
    passed := violations.isEmpty
    status := metric.thresholds.status score
    violations
    warnings
    suggestions := suggestions rules hits }

def evaluate (engine : Engine α) (category : Category) (rules : List Rule)
    (files : List SourceFile) : CategoryResult α × List Diagnostic :=
  let hits := inspect engine.window rules files
  (engine.summarize category rules hits, hits.filterMap Hit.diagnostic?)

def runPlan (engine : Engine α) (plan : Plan) (files : List SourceFile) : Run α :=
  let evaluated := plan.map fun (category, rules) => engine.evaluate category rules files
  ⟨evaluated.map (·.1), evaluated.flatMap (·.2), files.length⟩

def run (engine : Engine α) (selection : Selection) (files : List SourceFile) :
    Except Error (Run α) :=
  (selection.resolve engine.catalog engine.sops).map fun plan => engine.runPlan plan files

def runCategory (engine : Engine α) (category : Category) (files : List SourceFile) : Run α :=
  engine.runPlan [(category, engine.catalog.byCategory category)] files

end Engine

namespace GateConfig

variable {α : Type} [Scalar α]

def categoryScore (scoring : ScoringModel α) (result : CategoryResult α) : CategoryScore α :=
  let metric := scoring.metric result.category
  ⟨result.category, metric.name, result.score, metric.weight, metric.blockOnFail,
    metric.thresholds.fail⟩

def evaluate (config : GateConfig α) (run : Run α) (scoring : ScoringModel α) : GateDecision α :=
  config.decide run.violations.length run.warnings.length
    (run.results.map (categoryScore scoring))

end GateConfig

end Compliance
