import Compliance.Report.Basic

/-!
# Reports in words

Two layouts of a report: plain text for a terminal, and a summary in Markdown
with one annotation per finding for a build server.
-/

namespace Compliance

def joinLines (lines : List String) : String := String.join (lines.map (· ++ "\n"))

def optionalSection (heading : String) (lines : List String) : String :=
  if lines.isEmpty then "" else joinLines (heading :: lines) ++ "\n"

namespace CategoryResult

def row (result : CategoryResult Float) : String :=
  let name := padRight 18 result.category.id
  let score := fixedNumber 2 result.score
  s!"  {name} {score}  {result.status.label}  " ++
    s!"{result.violations.length} violation(s), {result.warnings.length} warning(s)"

end CategoryResult

namespace Violation

def rows (violation : Violation) : List String :=
  ("  " ++ violation.text) :: match violation.fix with
    | some fix => ["      fix: " ++ fix]
    | none => []

end Violation

namespace Warning

def row (warning : Warning) : String :=
  s!"  {warning.file}:{warning.line} [{warning.ruleId}] {warning.message}"

end Warning

namespace Correction

def row (correction : Correction) : String :=
  s!"  {correction.file}: {correction.outcome.label} " ++
    s!"({correction.fixCount} fix(es), {correction.remaining.length} remaining)"

end Correction

namespace Report

def reasonRows (report : Report) : List String :=
  match report.gate.reason? with
  | some reason => ["Reason: " ++ reason]
  | none => []

def aggregateText (report : Report) : String := fixedNumber 3 report.gate.aggregateScore

def summaryRows (report : Report) : List String :=
  let summary := report.summary
  [s!"Violations:      {summary.violations}", s!"Warnings:        {summary.warnings}",
    s!"Diagnostics:     {summary.diagnostics}", "Aggregate score: " ++ report.aggregateText] ++
    if report.corrections.isEmpty then [] else [s!"Fixes applied:   {summary.fixesApplied}"]

def plainText (report : Report) : String :=
  joinLines (["=== Compliance Report ===", "", "Timestamp: " ++ report.timestamp,
    s!"Files analyzed: {report.run.filesAnalyzed}", "", "--- Categories ---"] ++
    report.run.results.map (·.row) ++ ["", "--- Summary ---"] ++ report.summaryRows ++
    ["", if report.gate.passed then "Status: PASSED" else "Status: FAILED"] ++
    report.reasonRows ++ [""]) ++
  optionalSection "--- Violations ---" (report.run.violations.flatMap (·.rows)) ++
  optionalSection "--- Warnings ---" (report.run.warnings.map (·.row)) ++
  optionalSection "--- Diagnostics ---" (report.run.diagnostics.map ("  " ++ ·.text)) ++
  optionalSection "--- Corrections ---" (report.corrections.map (·.row))

end Report

namespace CategoryResult

def tableRow (result : CategoryResult Float) : String :=
  let score := fixedNumber 2 result.score
  s!"| {result.category.id} | {score} | {result.status.label} | " ++
    s!"{result.violations.length} | {result.warnings.length} |"

end CategoryResult

namespace Report

def annotations (report : Report) : List String :=
  report.run.violations.map (fun violation =>
    s!"::error file={violation.file},line={violation.line}::" ++
      s!"{violation.ruleId} {violation.message}") ++
  report.run.warnings.map (fun warning =>
    s!"::warning file={warning.file},line={warning.line}::" ++
      s!"{warning.ruleId} {warning.message}") ++
  report.run.diagnostics.map fun diagnostic => "::notice ::" ++ diagnostic.text

def statusRows (report : Report) : List String :=
  if report.gate.passed then ["**Status:** :white_check_mark: PASSED", ""]
  else "**Status:** :x: FAILED" :: "" :: match report.gate.reason? with
    | some reason => ["**Reason:** " ++ reason, ""]
    | none => []

def aggregateRow (report : Report) : String :=
  s!"| **Aggregate** | **{report.aggregateText}** | | **{report.run.violations.length}** | " ++
    s!"**{report.run.warnings.length}** |"

def annotated (report : Report) : String :=
  joinLines (["## Compliance Gate", ""] ++ report.statusRows ++
    ["| Category | Score | Status | Violations | Warnings |",
      "|----------|-------|--------|------------|----------|"] ++
    report.run.results.map (·.tableRow) ++ [report.aggregateRow] ++
    if report.annotations.isEmpty then []
    else ["", "### Findings", ""] ++ report.annotations)

end Report

end Compliance
