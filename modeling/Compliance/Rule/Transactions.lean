import Compliance.Rule.Basic

/-!
# Transaction rules

Writes to several tables in one function need a transaction, and inside a
transaction callback the outer client must not write.  The function is the
scope around the line, as far as the structural scans reach.
-/

namespace Compliance

open Pattern

/-- `client.table.verb(`; the client is group 1 and may be missing, the table is group 2. -/
def writeCall : Pattern :=
  opt (wordEdge ++ group 1 (many1 nameChars) ++ lit ".") ++ group 2 (many1 nameChars) ++ lit "." ++
    group 3 writeVerbs ++ blanks ++ lit "("

def outerClientName : Pattern := lit "prisma" ++ many .word

def databaseClient : Pattern :=
  textStart ++
    alt outerClientName (words ["tx", "trx", "db", "database", "client", "manager", "em"]) ++
    textEnd

def outerClient : Pattern := textStart ++ outerClientName ++ textEnd

structure Write where
  client : Text
  table : Text
  deriving DecidableEq, Repr

/-- The first write on a line that goes through a known database client. -/
def writeTarget? (line : Text) : Option Write :=
  if isComment line then none
  else (writeCall.allMatches line).findSome? fun found =>
    (found.group? 1).bind fun client =>
      if databaseClient.occurs client then some ⟨client, found.group 2⟩ else none

def transactionMarker : Pattern :=
  alt (lit "$transaction" ++ wordEdge) (lit ".transaction" ++ blanks ++ lit "(")

def FunctionScope.isTransactional (scope : FunctionScope) : Bool :=
  scope.lines.any transactionMarker.occurs

def FunctionScope.writes (scope : FunctionScope) : List (Nat × Text) :=
  scope.lines.zipIdx.filterMap fun (line, place) =>
    (writeTarget? line).map fun write => (place, write.table)

/-- One function gives one finding, at its first write. -/
def checkMultiTableWrite (context : LineContext) : Option Finding := do
  let write ← writeTarget? context.line
  let scope ← functionScope? context
  if scope.isTransactional then none
  else if (scope.writes.head?.map (·.1)) ≠ some scope.target then none
  else
    let other ← (scope.writes.map (·.2)).find? (· ≠ write.table)
    let table := String.ofList write.table
    let second := String.ofList other
    some ⟨s!"Writes to {table} and {second} are not wrapped in a transaction",
      some "Wrap related writes in prisma.$transaction(async (tx) => \x7b ... \x7d)"⟩

def checkOuterClient (context : LineContext) : Option Finding := do
  let write ← writeTarget? context.line
  if !outerClient.occurs write.client then none
  else
    let scope ← functionScope? context
    if transactionMarker.occurs scope.startLine then
      let client := String.ofList write.client
      some ⟨s!"{client} used inside a transaction callback; the write escapes the transaction",
        some "Use the callback's tx client"⟩
    else none

def transactionRules : List Rule := [
  { id := "TXN001"
    name := "wrap-multi-table-writes"
    category := .transactions
    severity := .high
    description := "Related writes to several tables must be atomic"
    remediation := "Group multi-table writes in a single $transaction"
    check := .total checkMultiTableWrite },
  { id := "TXN002"
    name := "use-transaction-client"
    category := .transactions
    severity := .high
    description := "Writes inside a transaction callback must use its client"
    remediation := "Route every write inside $transaction through tx"
    check := .total checkOuterClient }]

end Compliance
