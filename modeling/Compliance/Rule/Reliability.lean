import Compliance.Rule.Performance

/-!
# Reliability rules

Parsing outside a handler, calls without a time limit, process exits inside
functions, and timers that nobody can stop.
-/

namespace Compliance

open Pattern

def jsonParse : Pattern := wordEdge ++ lit "JSON.parse" ++ blanks ++ lit "("

def checkUnguardedParse (context : LineContext) : Option Finding :=
  let line := context.line
  if isComment line || jsonCopy.occurs line then none
  else if jsonParse.occurs line && !context.insideExceptionHandler then
    some ⟨"JSON.parse outside try/catch throws on malformed input",
      some "Wrap the parse in try/catch and report a validation error"⟩
  else none

def httpCall : Pattern :=
  alt (freshWord ++ lit "fetch" ++ blanks ++ lit "(")
    (wordEdge ++ lit "axios" ++
      opt (lit "." ++ words ["get", "post", "put", "patch", "delete", "request"]) ++ blanks ++
      lit "(")

def timeoutOption : Pattern :=
  alt (wordEdge ++ lit "timeout" ++ wordEdge) (wordEdge ++ lit "signal" ++ wordEdge)

def checkHttpTimeout (context : LineContext) : Option Finding :=
  let line := context.line
  if isComment line || !httpCall.occurs line then none
  else if timeoutOption.occurs (callText line context.followingLines) then none
  else some ⟨"Outbound HTTP call without timeout",
    some "Pass a timeout or AbortSignal.timeout(...)"⟩

def processExit : Pattern := wordEdge ++ lit "process.exit" ++ blanks ++ lit "("

/-- The entry point, a file called `main.`, may end the process. -/
def checkProcessExit (context : LineContext) : Option Finding :=
  if isComment context.line || (basename context.filename).beginsWith "main.".toList then none
  else if processExit.occurs context.line && context.insideFunction then
    some ⟨"process.exit inside a function kills in-flight requests",
      some "Throw an error and let the entry point decide"⟩
  else none

def setInterval : Pattern := wordEdge ++ lit "setInterval" ++ blanks ++ lit "("

/-- The call's value is dropped if a statement starts with it. -/
def checkDiscardedInterval (context : LineContext) : Option Finding :=
  if isComment context.line then none
  else (setInterval.find? context.line).bind fun call =>
    let lead := Text.trim call.before
    if lead.isEmpty || lead.endsWith ";".toList then
      some ⟨"setInterval handle discarded; timer can never be cleared",
        some "Keep the handle and clearInterval on shutdown"⟩
    else none

def reliabilityRules : List Rule := [
  { id := "REL001"
    name := "guard-json-parse"
    category := .reliability
    severity := .high
    description := "Parsing untrusted JSON can throw"
    remediation := "Guard JSON.parse with try/catch"
    check := .total checkUnguardedParse },
  { id := "REL002"
    name := "http-timeouts"
    category := .reliability
    severity := .medium
    description := "Outbound calls need an upper bound on latency"
    remediation := "Configure timeouts on every HTTP client call"
    check := .total checkHttpTimeout },
  { id := "REL003"
    name := "no-process-exit"
    category := .reliability
    severity := .high
    description := "Only the entry point may terminate the process"
    remediation := "Propagate fatal errors to main instead of exiting"
    check := .total checkProcessExit },
  { id := "REL004"
    name := "retain-interval-handle"
    category := .reliability
    severity := .medium
    description := "Intervals must be clearable on shutdown"
    remediation := "Store interval handles and clear them in onModuleDestroy"
    check := .total checkDiscardedInterval }]

end Compliance
