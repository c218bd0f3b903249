import Compliance.Rule.Basic

/-!
# Performance rules

Awaits in loops, blocking file access, unbounded queries, and copies by way of
JSON.
-/

namespace Compliance

open Pattern

def loopStart : Pattern :=
  oneOf [wordEdge ++ lit "for" ++ blanks ++ lit "(", wordEdge ++ lit "while" ++ blanks ++ lit "(",
    wordEdge ++ lit "do" ++ blanks ++ lit "\x7b", lit ".forEach" ++ blanks ++ lit "("]

def awaitWord : Pattern := wordEdge ++ lit "await" ++ wordEdge

def parallelCombinator : Pattern :=
  wordEdge ++ lit "Promise." ++ words ["all", "allSettled"] ++ blanks ++ lit "("

/-- The loop's body is the rest of its line and the block that the line opens. -/
def checkAwaitInLoop (context : LineContext) : Option Finding :=
  let line := context.line
  if isComment line || (Text.trimStart line).beginsWith "\x7d".toList then none
  else (loopStart.find? line).bind fun header =>
    let body := header.after :: blockBody line context.followingLines
    if body.any awaitWord.occurs && !body.any parallelCombinator.occurs then
      some ⟨"await inside loop body runs sequentially",
        some "Collect the promises and await Promise.all(...)"⟩
    else none

def syncFileCall : Pattern :=
  wordEdge ++ words ["readFileSync", "writeFileSync", "appendFileSync", "existsSync",
    "readdirSync", "statSync", "mkdirSync", "unlinkSync"] ++ blanks ++ lit "("

def checkSyncFile (context : LineContext) : Option Finding :=
  if isComment context.line then none
  else if syncFileCall.occurs context.line && context.insideFunction then
    some ⟨"Synchronous filesystem call blocks the event loop",
      some "Use the fs/promises equivalent"⟩
  else none

def findManyCall : Pattern := lit ".findMany" ++ blanks ++ lit "("

def takeOption : Pattern := wordEdge ++ lit "take" ++ blanks ++ lit ":"

def checkUnboundedQuery (context : LineContext) : Option Finding :=
  let line := context.line
  if isComment line || !findManyCall.occurs line then none
  else if takeOption.occurs (callText line context.followingLines) then none
  else some ⟨"findMany without pagination", some "Add take/skip or cursor pagination"⟩

def jsonCopy : Pattern :=
  lit "JSON.parse" ++ blanks ++ lit "(" ++ blanks ++ lit "JSON.stringify" ++ blanks ++ lit "("

def checkJsonCopy (context : LineContext) : Option Finding :=
  if isComment context.line then none
  else if jsonCopy.occurs context.line then
    some ⟨"JSON round-trip used as deep clone", some "Use structuredClone(...)"⟩
  else none

def performanceRules : List Rule := [
  { id := "PERF001"
    name := "no-await-in-loop"
    category := .performance
    severity := .high
    description := "Independent async work inside loops should run concurrently"
    remediation := "Batch loop awaits with Promise.all"
    check := .total checkAwaitInLoop },
  { id := "PERF002"
    name := "no-sync-fs"
    category := .performance
    severity := .medium
    description := "Blocking fs calls stall request handling"
    remediation := "Prefer fs/promises inside request paths"
    check := .total checkSyncFile },
  { id := "PERF003"
    name := "paginate-find-many"
    category := .performance
    severity := .medium
    description := "Collection queries must be bounded"
    remediation := "Paginate list queries with take/skip"
    check := .total checkUnboundedQuery },
  { id := "PERF004"
    name := "no-json-deep-clone"
    category := .performance
    severity := .medium
    description := "JSON round-trips are slow and lossy"
    remediation := "Use structuredClone for deep copies"
    check := .total checkJsonCopy }]

end Compliance
