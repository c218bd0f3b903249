import Compliance.Report.Record
import Compliance.Value.Json

/-!
# Reports

A report holds one run, the verdict on it and, after fixing, the corrections
that led to it.  The summary is read off these; nothing is counted twice.
-/

namespace Compliance

structure Report where
  timestamp : String
  run : Run Float
  gate : GateDecision Float
  corrections : List Correction := []

structure Summary where
  filesAnalyzed : Nat
  categories : Nat
  violations : Nat
  warnings : Nat
  diagnostics : Nat
  aggregateScore : Float
  passed : Bool
  fixesApplied : Nat
  deriving Repr

namespace Summary

def encode (summary : Summary) : Value :=
  .table [("files_analyzed", .nat summary.filesAnalyzed), ("categories", .nat summary.categories),
    ("total_violations", .nat summary.violations), ("total_warnings", .nat summary.warnings),
    ("diagnostics", .nat summary.diagnostics), ("aggregate_score", .float summary.aggregateScore),
    ("passed", .bool summary.passed), ("fixes_applied", .nat summary.fixesApplied)]

end Summary

namespace Report

def summary (report : Report) : Summary where
  filesAnalyzed := report.run.filesAnalyzed
  categories := report.run.results.length
  violations := report.run.violations.length
  warnings := report.run.warnings.length
  diagnostics := report.run.diagnostics.length
  aggregateScore := report.gate.aggregateScore
  passed := report.gate.passed
  fixesApplied := (report.corrections.flatMap (·.fixes)).length

def encode (report : Report) : Value :=
  .table ([("timestamp", .text report.timestamp), ("summary", report.summary.encode),
    ("results", .list (report.run.results.map (·.encode))), ("gate", report.gate.encode),
    ("diagnostics", .list (report.run.diagnostics.map (·.encode)))] ++
    if report.corrections.isEmpty then []
    else [("corrections", .list (report.corrections.map (·.encode)))])

def json (report : Report) : String := report.encode.pretty

end Report

end Compliance
