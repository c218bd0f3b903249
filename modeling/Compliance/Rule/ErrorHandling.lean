import Compliance.Rule.Basic

/-!
# Error handling rules

Generic errors, empty and log-only handlers, promise chains that nobody watches,
and thrown strings.
-/

namespace Compliance

open Pattern

def throwNewError : Pattern :=
  wordEdge ++ lit "throw" ++ blanks1 ++ lit "new" ++ blanks1 ++ lit "Error" ++ blanks ++ lit "("

def checkGenericError (context : LineContext) : Option Finding :=
  if isComment context.line then none
  else if throwNewError.occurs context.line then
    some ⟨"Generic Error thrown; use a typed exception",
      some "throw new NotFoundException(...) / BadRequestException(...)"⟩
  else none

def throwLiteral : Pattern := wordEdge ++ lit "throw" ++ blanks1 ++ single quotes

def checkThrowLiteral (context : LineContext) : Option Finding :=
  if isComment context.line then none
  else if throwLiteral.occurs context.line then
    some ⟨"String literal thrown; stack trace is lost", some "throw new Error(...)"⟩
  else none

def catchHead : Pattern :=
  freshWord ++ lit "catch" ++ blanks ++ catchBinding ++ blanks ++ lit "\x7b"

def catchEmpty : Pattern := catchHead ++ blanks ++ lit "\x7d"

def catchOpen : Pattern := catchHead ++ blanks ++ textEnd

/-- The first line that is not blank closes the block. -/
def closesAtOnce (following : List Text) : Bool :=
  ((following.map Text.trim).find? (!·.isEmpty)).any (·.beginsWith "\x7d".toList)

def checkEmptyCatch (context : LineContext) : Option Finding :=
  let line := context.line
  if isComment line then none
  else if catchEmpty.occurs line ||
      (catchOpen.occurs line && closesAtOnce context.followingLines) then
    some ⟨"Empty catch block swallows the error", some "Rethrow or handle the error"⟩
  else none

def logCall : Pattern :=
  textStart ++ blanks ++ alt (opt (lit "this.") ++ words ["logger", "log"]) (lit "console") ++
    lit "." ++ many1 .word ++ blanks ++ lit "("

/-- The block is measured from the handler itself, so that a closing brace before it does not
count. -/
def checkLogOnlyCatch (context : LineContext) : Option Finding :=
  (catchOpen.find? context.line).bind fun found =>
    let body := (blockBody found.start.ahead context.followingLines).filter fun line =>
      !(Text.trim line).isEmpty
    if !body.isEmpty && body.all logCall.occurs then
      some ⟨"Catch block only logs the error", some "Rethrow, translate, or recover"⟩
    else none

def thenCall : Pattern := lit ".then" ++ blanks ++ lit "("

def catchCall : Pattern := lit ".catch" ++ blanks ++ lit "("

def rejectionReach : Nat := 5

def checkUnhandledPromise (context : LineContext) : Option Finding :=
  let line := context.line
  if isComment line || !thenCall.occurs line then none
  else if (Text.trimStart line).beginsWith "return".toList || line.contains "await".toList then none
  else if catchCall.occurs line ||
      (context.followingLines.take rejectionReach).any catchCall.occurs then none
  else some ⟨"Promise chain without .catch() handler", none⟩

def errorHandlingRules : List Rule := [
  { id := "ERR001"
    name := "typed-exceptions"
    category := .errorHandling
    severity := .high
    description := "Services throw framework exceptions carrying a status"
    remediation := "Replace generic Error with NotFoundException, BadRequestException, etc."
    check := .total checkGenericError },
  { id := "ERR002"
    name := "no-empty-catch"
    category := .errorHandling
    severity := .high
    description := "Errors must not be silently swallowed"
    remediation := "Handle or rethrow every caught error"
    check := .total checkEmptyCatch },
  { id := "ERR003"
    name := "no-log-and-forget"
    category := .errorHandling
    severity := .medium
    description := "Logging alone does not handle an error"
    remediation := "After logging, rethrow or return an explicit failure"
    check := .total checkLogOnlyCatch },
  { id := "ERR004"
    name := "handle-promise-rejection"
    category := .errorHandling
    severity := .medium
    description := "Promise chains need a rejection handler"
    remediation := "Add .catch() or switch to async/await inside try/catch"
    check := .total checkUnhandledPromise },
  { id := "ERR005"
    name := "throw-error-objects"
    category := .errorHandling
    severity := .high
    description := "Only Error instances may be thrown"
    remediation := "Wrap thrown messages in Error objects"
    check := .total checkThrowLiteral }]

end Compliance
