import Compliance.Settings.Basic
import Compliance.Value.Decode

/-!
# Settings as values

Encoding and decoding of every section.  An optional field that is not set has
no entry.  Decoding ignores unknown keys and takes defaults for missing ones; of
two misfits the one with the smaller key, or the earlier one of a list, is
reported.
-/

namespace Compliance

def optionalEntry {α : Type} (key : String) (encode : α → Value) :
    Option α → List (String × Value)
  | some value => [(key, encode value)]
  | none => []

variable (format : Format)

namespace Window

def encode (window : Window) : Value :=
  .table [("preceding", .nat window.preceding), ("following", .nat window.following),
    ("scan_limit", .nat window.scanLimit)]

def withEntry (window : Window) (key : String) (value : Value) : Decoded Window :=
  match key with
  | "preceding" => return { window with preceding := ← value.toNat }
  | "following" => return { window with following := ← value.toNat }
  | "scan_limit" => return { window with scanLimit := ← value.toNat }
  | _ => return window

def decode : Value → Decoded Window :=
  Value.toRecord format ["preceding", "following", "scan_limit"] withEntry {}

end Window

namespace GeneralSettings

def encode (general : GeneralSettings) : Value :=
  .table [("include", .texts general.includes), ("exclude", .texts general.excludes),
    ("categories", .texts general.categories), ("escalate", .texts general.escalate),
    ("window", general.window.encode)]

def withEntry (general : GeneralSettings) (key : String) (value : Value) :
    Decoded GeneralSettings :=
  match key with
  | "include" => return { general with includes := ← value.toTexts }
  | "exclude" => return { general with excludes := ← value.toTexts }
  | "categories" => return { general with categories := ← value.toTexts }
  | "escalate" => return { general with escalate := ← value.toTexts }
  | "window" => return { general with window := ← Window.decode format value }
  | _ => return general

def decode : Value → Decoded GeneralSettings :=
  Value.toRecord format ["include", "exclude", "categories", "escalate", "window"]
    (withEntry format) {}

end GeneralSettings

namespace GateSettings

def encode (gating : GateSettings) : Value :=
  .table (("profile", .text gating.profile) ::
    optionalEntry "minimum_score" Value.float gating.minimumScore ++
    optionalEntry "block_on_blockers" Value.bool gating.blockOnBlockers ++
    optionalEntry "max_blockers" Value.nat gating.maxBlockers ++
    optionalEntry "fail_on_warnings" Value.bool gating.failOnWarnings ++
    optionalEntry "max_warnings" Value.nat gating.maxWarnings)

def withEntry (gating : GateSettings) (key : String) (value : Value) : Decoded GateSettings :=
  match key with
  | "profile" => return { gating with profile := ← value.toText }
  | "minimum_score" => return { gating with minimumScore := ← value.toOption Value.toFloat }
  | "block_on_blockers" => return { gating with blockOnBlockers := ← value.toOption Value.toBool }
  | "max_blockers" => return { gating with maxBlockers := ← value.toOption Value.toNat }
  | "fail_on_warnings" => return { gating with failOnWarnings := ← value.toOption Value.toBool }
  | "max_warnings" => return { gating with maxWarnings := ← value.toOption Value.toNat }
  | _ => return gating

def decode : Value → Decoded GateSettings :=
  Value.toRecord format ["profile", "minimum_score", "block_on_blockers", "max_blockers",
    "fail_on_warnings", "max_warnings"] withEntry {}

end GateSettings

namespace Schedule

def encode (schedule : Schedule Float) : Value :=
  .table [("critical", .float schedule.critical), ("high", .float schedule.high),
    ("medium", .float schedule.medium), ("warning", .float schedule.warning)]

def withEntry (schedule : Schedule Float) (key : String) (value : Value) :
    Decoded (Schedule Float) :=
  match key with
  | "critical" => return { schedule with critical := ← value.toFloat }
  | "high" => return { schedule with high := ← value.toFloat }
  | "medium" => return { schedule with medium := ← value.toFloat }
  | "warning" => return { schedule with warning := ← value.toFloat }
  | _ => return schedule

def decode : Value → Decoded (Schedule Float) :=
  Value.toFullRecord format ["critical", "high", "medium", "warning"] withEntry ⟨0, 0, 0, 0⟩

end Schedule

namespace MetricSettings

def encode (metric : MetricSettings) : Value :=
  .table (optionalEntry "name" Value.text metric.name ++
    optionalEntry "weight" Value.float metric.weight ++
    optionalEntry "block_on_fail" Value.bool metric.blockOnFail ++
    optionalEntry "pass" Value.float metric.pass ++
    optionalEntry "warn" Value.float metric.warn ++
    optionalEntry "fail" Value.float metric.fail ++
    optionalEntry "deductions" Schedule.encode metric.deductions)

def withEntry (metric : MetricSettings) (key : String) (value : Value) : Decoded MetricSettings :=
  match key with
  | "name" => return { metric with name := ← value.toOption Value.toText }
  | "weight" => return { metric with weight := ← value.toOption Value.toFloat }
  | "block_on_fail" => return { metric with blockOnFail := ← value.toOption Value.toBool }
  | "pass" => return { metric with pass := ← value.toOption Value.toFloat }
  | "warn" => return { metric with warn := ← value.toOption Value.toFloat }
  | "fail" => return { metric with fail := ← value.toOption Value.toFloat }
  | "deductions" =>
      return { metric with deductions := ← value.toOption (Schedule.decode format) }
  | _ => return metric

def decode : Value → Decoded MetricSettings :=
  Value.toRecord format ["name", "weight", "block_on_fail", "pass", "warn", "fail",
    "deductions"] (withEntry format) {}

end MetricSettings

namespace CorrectionSettings

def encode (correction : CorrectionSettings) : Value :=
  .table [("max_iterations", .nat correction.maxIterations),
    ("skip_rules", .texts correction.skipRules), ("only_rules", .texts correction.onlyRules)]

def withEntry (correction : CorrectionSettings) (key : String) (value : Value) :
    Decoded CorrectionSettings :=
  match key with
  | "max_iterations" => return { correction with maxIterations := ← value.toNat }
  | "skip_rules" => return { correction with skipRules := ← value.toTexts }
  | "only_rules" => return { correction with onlyRules := ← value.toTexts }
  | _ => return correction

def decode : Value → Decoded CorrectionSettings :=
  Value.toRecord format ["max_iterations", "skip_rules", "only_rules"] withEntry {}

end CorrectionSettings

namespace LoggingSettings

def encode (logging : LoggingSettings) : Value :=
  .table [("level", .text logging.level), ("json_format", .bool logging.jsonFormat)]

def withEntry (logging : LoggingSettings) (key : String) (value : Value) :
    Decoded LoggingSettings :=
  match key with
  | "level" => return { logging with level := ← value.toText }
  | "json_format" => return { logging with jsonFormat := ← value.toBool }
  | _ => return logging

def decode : Value → Decoded LoggingSettings :=
  Value.toRecord format ["level", "json_format"] withEntry {}

end LoggingSettings

namespace Settings

def encode (settings : Settings) : Value :=
  .table [("general", settings.general.encode), ("gating", settings.gating.encode),
    ("metrics", .table (settings.metrics.map fun (id, metric) => (id, metric.encode))),
    ("correction", settings.correction.encode),
    ("sops", .table (settings.sops.map fun (name, ids) => (name, .texts ids))),
    ("logging", settings.logging.encode)]

def withEntry (settings : Settings) (key : String) (value : Value) : Decoded Settings :=
  match key with
  | "general" => return { settings with general := ← GeneralSettings.decode format value }
  | "gating" => return { settings with gating := ← GateSettings.decode format value }
  | "metrics" => return { settings with metrics := ← value.toMap (MetricSettings.decode format) }
  | "correction" => return { settings with correction := ← CorrectionSettings.decode format value }
  | "sops" => return { settings with sops := ← value.toMap Value.toTexts }
  | "logging" => return { settings with logging := ← LoggingSettings.decode format value }
  | _ => return settings

def decode : Value → Decoded Settings :=
  Value.toRecord format ["general", "gating", "metrics", "correction", "sops", "logging"]
    (withEntry format) {}

end Settings

end Compliance
