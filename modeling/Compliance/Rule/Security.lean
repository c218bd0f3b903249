import Compliance.Rule.Basic

/-!
# Security rules

Secrets in the source, dynamic evaluation, SQL put together from input, plain
HTTP to remote hosts, and credentials on the console.
-/

namespace Compliance

open Pattern

def secretName : Pattern :=
  oneOf [litFolded "password", litFolded "passwd", litFolded "secret", litFolded "token",
    litFolded "api" ++ opt (single (.anyOf "_-")) ++ litFolded "key",
    litFolded "private" ++ opt (single (.anyOf "_-")) ++ litFolded "key",
    litFolded "client" ++ opt (single (.anyOf "_-")) ++ litFolded "secret"]

/-- Four or more characters that are neither blank nor quotes. -/
def secretBody : Pattern :=
  let body := CharSet.compl (quotes ∪ .blank)
  single body ++ single body ++ single body ++ many1 body

def hardcodedSecret : Pattern :=
  wordEdge ++ secretName ++ many .word ++ opt (single (.anyOf "\x22'")) ++ blanks ++
    single (.anyOf ":=") ++ blanks ++ single quotes ++ secretBody ++ single quotes

def checkHardcodedSecret (context : LineContext) : Option Finding :=
  let line := context.line
  if isComment line || isTestFile context.filename || line.contains "process.env".toList then none
  else if hardcodedSecret.occurs line then
    some ⟨"Hard-coded secret literal", some "Load the value from configuration or a secret store"⟩
  else none

def dynamicEval : Pattern :=
  alt (freshWord ++ lit "eval" ++ blanks ++ lit "(")
    (wordEdge ++ lit "new" ++ blanks1 ++ lit "Function" ++ blanks ++ lit "(")

def checkDynamicEval (context : LineContext) : Option Finding :=
  if isComment context.line then none
  else if dynamicEval.occurs context.line then
    some ⟨"Dynamic code evaluation via eval/new Function", none⟩
  else none

def sqlVerb : Pattern := wordsFolded ["select", "insert", "update", "delete"] ++ wordEdge

/-- A template that is not the tail of a tagged call and interpolates a value. -/
def sqlTemplate : Pattern :=
  alt textStart (single (.compl nameChars)) ++ lit "\x60" ++ blanks ++ sqlVerb ++
    many (.noneOf "\x60") ++ lit "$\x7b"

def sqlConcatenation : Pattern :=
  single (.anyOf "'\x22") ++ blanks ++ sqlVerb ++ many (.noneOf "'\x22") ++
    single (.anyOf "'\x22") ++ blanks ++ lit "+"

def rawUnsafeCall : Pattern :=
  lit "$" ++ words ["queryRawUnsafe", "executeRawUnsafe"] ++ blanks ++ lit "(" ++ blanks ++
    single (.compl (.blank ∪ .anyOf "'\x60)"))

def checkRawSql (context : LineContext) : Option Finding :=
  let line := context.line
  if isComment line then none
  else if sqlTemplate.occurs line || sqlConcatenation.occurs line || rawUnsafeCall.occurs line then
    some ⟨"Raw SQL built from interpolated or concatenated input",
      some "Use a parameterised query (Prisma.sql or tagged $queryRaw)"⟩
  else none

def hostChars : CharSet := .compl (.blank ∪ .anyOf "/'\x60:\x22")

def httpUrl : Pattern := lit "http://" ++ group 1 (many1 hostChars)

def isLocalHost (host : Text) : Bool :=
  ["localhost", "127.0.0.1", "0.0.0.0", "www.w3.org"].any (host == ·.toList) ||
    host.beginsWith "localhost".toList || host.endsWith ".local".toList

def httpHosts (line : Text) : List Text := (httpUrl.allMatches line).map (·.group 1)

def checkPlainHttp (context : LineContext) : Option Finding :=
  if isComment context.line then none
  else ((httpHosts context.line).find? (!isLocalHost ·)).map fun host =>
    ⟨"Plain HTTP URL to remote host " ++ String.ofList host, some "Use https://"⟩

def consoleCredential : Pattern :=
  wordEdge ++ lit "console." ++ many1 .word ++ blanks ++ lit "(" ++ many dot ++
    wordsFolded ["password", "token", "secret", "credential"]

def checkConsoleCredential (context : LineContext) : Option Finding :=
  if isComment context.line then none
  else if consoleCredential.occurs context.line then
    some ⟨"Credential value written to console output", none⟩
  else none

def securityRules : List Rule := [
  { id := "SEC001"
    name := "no-hardcoded-secrets"
    category := .security
    severity := .critical
    description := "Secrets must not be committed as string literals"
    remediation := "Move secrets to environment configuration or a secret manager"
    check := .total checkHardcodedSecret },
  { id := "SEC002"
    name := "no-dynamic-eval"
    category := .security
    severity := .critical
    description := "eval and new Function execute arbitrary code"
    remediation := "Replace dynamic evaluation with explicit dispatch"
    check := .total checkDynamicEval },
  { id := "SEC003"
    name := "no-raw-sql-interpolation"
    category := .security
    severity := .critical
    description := "SQL text must not be assembled from untrusted input"
    remediation := "Use parameterised queries for every raw SQL statement"
    check := .total checkRawSql },
  { id := "SEC004"
    name := "https-only"
    category := .security
    severity := .high
    description := "Remote endpoints must be reached over TLS"
    remediation := "Switch remote URLs to https://"
    check := .total checkPlainHttp },
  { id := "SEC005"
    name := "no-credential-logging"
    category := .security
    severity := .high
    description := "Credentials must never reach log output"
    remediation := "Redact credentials before logging"
    check := .total checkConsoleCredential }]

end Compliance
