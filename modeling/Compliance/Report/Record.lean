import Compliance.Fix.Correction
import Compliance.Settings.Encoding

/-!
# Records as values

The values that reports are made of.  Fields stand in a fixed order; a suggested
fix and the failure of a gate have an entry only if there is one.
-/

namespace Compliance

def Value.ofText (text : Text) : Value := .text (String.ofList text)

namespace Violation

def encode (violation : Violation) : Value :=
  .table ([("file", .text violation.file), ("line", .nat violation.line),
    ("rule_id", .text violation.ruleId), ("message", .text violation.message),
    ("severity", .text violation.severity.id)] ++ optionalEntry "fix" Value.text violation.fix)

end Violation

namespace Warning

def encode (warning : Warning) : Value :=
  .table [("file", .text warning.file), ("line", .nat warning.line),
    ("rule_id", .text warning.ruleId), ("message", .text warning.message)]

end Warning

namespace Diagnostic

def encode : Diagnostic → Value
  | loadFailure file message =>
      .table [("kind", .text "load-failure"), ("file", .text file), ("line", .null),
        ("rule_id", .null), ("message", .text message)]
  | ruleFault file line ruleId message =>
      .table [("kind", .text "rule-fault"), ("file", .text file), ("line", .nat line),
        ("rule_id", .text ruleId), ("message", .text message)]

end Diagnostic

namespace Policy

def encodeBuckets (policy : Policy) : Value :=
  .table (Severity.all.flatMap fun severity =>
    optionalEntry severity.id (fun bucket => Value.text bucket.id) (policy.buckets severity))

def encode (policy : Policy) : Value :=
  .table [("buckets", policy.encodeBuckets), ("escalations", .texts policy.escalations)]

def decodeBucket (format : Format) : Value → Decoded Bucket := Value.toChoice format Bucket.ofId?

def decodeBuckets (format : Format) (value : Value) : Decoded (Severity → Option Bucket) := do
  let entries ← value.toMap (decodeBucket format)
  if entries.all fun entry => (Severity.ofId? entry.1).isSome then
    return fun severity => entries.lookup severity.id
  else .error ⟨.wrongValue, []⟩

def withEntry (format : Format) (policy : Policy) (key : String) (value : Value) : Decoded Policy :=
  match key with
  | "buckets" => return { policy with buckets := ← decodeBuckets format value }
  | "escalations" => return { policy with escalations := Value.sortedNames (← value.toTexts) }
  | _ => return policy

def decode (format : Format) : Value → Decoded Policy :=
  Value.toRecord format ["buckets", "escalations"] (withEntry format) .default

end Policy

namespace Selection

def withEntry (selection : Selection) (key : String) (value : Value) : Decoded Selection :=
  match key with
  | "categories" => return { selection with categories := ← value.toTexts }
  | "rules" => return { selection with rules := ← value.toTexts }
  | "sops" => return { selection with sops := ← value.toTexts }
  | _ => return selection

def decode (format : Format) : Value → Decoded Selection :=
  Value.toRecord format ["categories", "rules", "sops"] withEntry {}

end Selection

namespace CategoryResult

def encode (result : CategoryResult Float) : Value :=
  .table [("category", .text result.category.id), ("metric_name", .text result.metricName),
    ("score", .float result.score), ("passed", .bool result.passed),
    ("status", .text result.status.id),
    ("violations", .list (result.violations.map (·.encode))),
    ("warnings", .list (result.warnings.map (·.encode))),
    ("suggestions", .texts result.suggestions)]

end CategoryResult

namespace Run

def encode (run : Run Float) : Value :=
  .table [("results", .list (run.results.map (·.encode))),
    ("diagnostics", .list (run.diagnostics.map (·.encode))),
    ("files_analyzed", .nat run.filesAnalyzed)]

end Run

/-! ## Verdicts -/

namespace GateConfig

def encode (config : GateConfig Float) : Value :=
  .table [("minimum_score", .float config.minimumScore),
    ("block_on_blockers", .bool config.blockOnBlockers),
    ("max_blockers", .nat config.maxBlockers), ("fail_on_warnings", .bool config.failOnWarnings),
    ("max_warnings", .nat config.maxWarnings)]

def withEntry (config : GateConfig Float) (key : String) (value : Value) :
    Decoded (GateConfig Float) :=
  match key with
  | "minimum_score" => return { config with minimumScore := ← value.toFloat }
  | "block_on_blockers" => return { config with blockOnBlockers := ← value.toBool }
  | "max_blockers" => return { config with maxBlockers := ← value.toNat }
  | "fail_on_warnings" => return { config with failOnWarnings := ← value.toBool }
  | "max_warnings" => return { config with maxWarnings := ← value.toNat }
  | _ => return config

def decode (format : Format) : Value → Decoded (GateConfig Float) :=
  Value.toRecord format ["minimum_score", "block_on_blockers", "max_blockers",
    "fail_on_warnings", "max_warnings"] withEntry .default

end GateConfig

namespace GateFailure

def encode : GateFailure Float → Value
  | tooManyBlockers count max =>
      .table [("check", .text "too_many_blockers"), ("count", .nat count), ("max", .nat max)]
  | tooManyWarnings count max =>
      .table [("check", .text "too_many_warnings"), ("count", .nat count), ("max", .nat max)]
  | categoryBelowThreshold category metric score threshold =>
      .table [("check", .text "category_below_threshold"), ("category", .text category.id),
        ("metric", .text metric), ("score", .float score), ("threshold", .float threshold)]
  | aggregateBelowMinimum score minimum =>
      .table [("check", .text "aggregate_below_minimum"), ("score", .float score),
        ("minimum", .float minimum)]

end GateFailure

namespace GateDecision

def encode (decision : GateDecision Float) : Value :=
  .table ([("passed", .bool decision.passed), ("aggregate_score", .float decision.aggregateScore),
    ("blockers", .nat decision.blockers), ("warnings", .nat decision.warnings)] ++
    optionalEntry "failure" GateFailure.encode decision.failure)

end GateDecision

namespace CorrectionOptions

def encode (options : CorrectionOptions) : Value :=
  .table [("max_iterations", .nat options.maxIterations),
    ("skip_rules", .texts options.skipRules), ("only_rules", .texts options.onlyRules)]

/-- Rule lists are sets: sorted and without repetitions. -/
def withEntry (options : CorrectionOptions) (key : String) (value : Value) :
    Decoded CorrectionOptions :=
  match key with
  | "max_iterations" => return { options with maxIterations := ← value.toNat }
  | "skip_rules" => return { options with skipRules := Value.sortedNames (← value.toTexts) }
  | "only_rules" => return { options with onlyRules := Value.sortedNames (← value.toTexts) }
  | _ => return options

def decode (format : Format) : Value → Decoded CorrectionOptions :=
  Value.toRecord format ["max_iterations", "skip_rules", "only_rules"] withEntry {}

end CorrectionOptions

namespace AppliedFix

def encode (fix : AppliedFix) : Value :=
  .table [("rule_id", .text fix.ruleId), ("line", .nat fix.line), ("before", .ofText fix.before),
    ("after", .ofText fix.after), ("description", .text fix.description)]

end AppliedFix

namespace Iteration

def encode (iteration : Iteration) : Value :=
  .table [("original_content", .ofText iteration.start),
    ("corrected_content", .ofText iteration.corrected),
    ("applied_fixes", .list (iteration.fixes.map (·.encode))),
    ("remaining_violations", .list (iteration.remaining.map (·.encode)))]

end Iteration

namespace Correction

def encode (correction : Correction) : Value :=
  .table [("file", .text correction.file), ("original_content", .ofText correction.initial),
    ("final_content", .ofText correction.final),
    ("iterations", .list (correction.iterations.map (·.encode))),
    ("remaining_violations", .list (correction.remaining.map (·.encode))),
    ("outcome", .text correction.outcome.id)]

end Correction

end Compliance
