import Compliance.Rule.Basic

/-!
# Maintainability rules

Pending work in comments, console output, the type `any`, and leftover
`debugger` statements.
-/

namespace Compliance

open Pattern

/-- A marker in a comment; group 1 is the marker, the last one on the line. -/
def pendingMarker : Pattern :=
  oneOf [lit "//", lit "/*", textStart ++ blanks ++ lit "*"] ++ many dot ++ wordEdge ++
    group 1 (words ["TODO", "FIXME", "HACK", "XXX"]) ++ wordEdge

def checkPendingMarker (context : LineContext) : Option Finding :=
  (pendingMarker.find? context.line).map fun found =>
    ⟨String.ofList (found.group 1) ++ " comment left in code", none⟩

def consoleLog : Pattern := wordEdge ++ lit "console.log" ++ blanks ++ lit "("

def checkConsoleLog (context : LineContext) : Option Finding :=
  if isComment context.line || isTestFile context.filename then none
  else if consoleLog.occurs context.line then
    some ⟨"console.log in service code", some "Use the injected Logger"⟩
  else none

def explicitAny : Pattern :=
  oneOf [lit ":" ++ blanks ++ lit "any" ++ wordEdge,
    wordEdge ++ lit "as" ++ blanks1 ++ lit "any" ++ wordEdge, lit "<any>", wordEdge ++ lit "any[]"]

def checkExplicitAny (context : LineContext) : Option Finding :=
  if isComment context.line then none
  else if explicitAny.occurs context.line then
    some ⟨"Explicit any disables type checking", none⟩
  else none

def debuggerLine : Pattern :=
  textStart ++ blanks ++ lit "debugger" ++ blanks ++ opt (lit ";") ++ blanks ++ textEnd

def checkDebugger (context : LineContext) : Option Finding :=
  if debuggerLine.occurs context.line then
    some ⟨"debugger statement left in code", some "Remove the statement"⟩
  else none

def maintainabilityRules : List Rule := [
  { id := "MAINT001"
    name := "no-pending-markers"
    category := .maintainability
    severity := .medium
    description := "Pending-work comments should be tracked as issues"
    remediation := "Resolve pending-work comments or move them to the issue tracker"
    check := .total checkPendingMarker },
  { id := "MAINT002"
    name := "no-console-log"
    category := .maintainability
    severity := .medium
    description := "Service code logs through the framework logger"
    remediation := "Replace console.log with Logger"
    check := .total checkConsoleLog },
  { id := "MAINT003"
    name := "no-explicit-any"
    category := .maintainability
    severity := .medium
    description := "Types should be explicit"
    remediation := "Replace any with a concrete type or unknown"
    check := .total checkExplicitAny },
  { id := "MAINT004"
    name := "no-debugger"
    category := .maintainability
    severity := .high
    description := "debugger statements must not ship"
    remediation := "Remove debugger statements"
    check := .total checkDebugger }]

end Compliance
