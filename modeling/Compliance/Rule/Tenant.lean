import Compliance.Rule.Basic

/-!
# Tenant isolation rules

Queries and raw SQL without a tenant condition, and tenants taken from the body
of a request.
-/

namespace Compliance

open Pattern

def modelQuery : Pattern :=
  wordEdge ++ oneOf [lit "prisma" ++ many .word, lit "tx", lit "trx", lit "db"] ++ lit "." ++
    group 1 (many1 nameChars) ++ lit "." ++
    words ["findMany", "findFirst", "findFirstOrThrow", "findUnique", "findUniqueOrThrow",
      "updateMany", "deleteMany", "count", "aggregate", "groupBy"] ++ blanks ++ lit "("

def globalModels : List Text :=
  ["tenant", "plan", "featureFlag", "systemSetting"].map String.toList

def tenantFilter : Pattern :=
  alt (wordEdge ++ lit "tenantId" ++ wordEdge) (wordEdge ++ lit "tenant_id" ++ wordEdge)

def checkModelQuery (context : LineContext) : Option Finding :=
  let line := context.line
  if isComment line || isTestFile context.filename then none
  else (modelQuery.find? line).bind fun found =>
    let model := found.group 1
    if globalModels.contains model then none
    else if tenantFilter.occurs (callText line context.followingLines) then none
    else
      some ⟨"Query on " ++ String.ofList model ++ " has no tenantId filter",
        some "Add tenantId to the where clause"⟩

def rawQuery : Pattern :=
  lit "$" ++ words ["queryRaw", "executeRaw"] ++ opt (lit "Unsafe") ++ wordEdge

def checkRawQuery (context : LineContext) : Option Finding :=
  let line := context.line
  if isComment line || !rawQuery.occurs line then none
  else if tenantFilter.occurs (callText line context.followingLines) then none
  else some ⟨"Raw query without tenant_id predicate",
    some "Add WHERE tenant_id = $\x7btenantId\x7d"⟩

def tenantFromBody : Pattern :=
  alt
    (wordEdge ++ opt (words ["req.", "request."]) ++ lit "body.tenant" ++ words ["Id", "_id"] ++
      wordEdge)
    (lit "\x7b" ++ many (.noneOf "\x7d") ++ wordEdge ++ lit "tenantId" ++ wordEdge ++
      many (.noneOf "\x7d") ++ lit "\x7d" ++ blanks ++ lit "=" ++ blanks ++
      words ["req", "request"] ++ lit ".body" ++ wordEdge)

def checkTenantFromBody (context : LineContext) : Option Finding :=
  if isComment context.line then none
  else if tenantFromBody.occurs context.line then
    some ⟨"Tenant id taken from request body can be spoofed",
      some "Read the tenant from the authenticated context"⟩
  else none

def tenantRules : List Rule := [
  { id := "TEN001"
    name := "scope-queries-by-tenant"
    category := .tenantIsolation
    severity := .critical
    description := "Every tenant-owned model query filters by tenantId"
    remediation := "Add tenantId to every query on tenant-owned models"
    check := .total checkModelQuery },
  { id := "TEN002"
    name := "scope-raw-sql-by-tenant"
    category := .tenantIsolation
    severity := .high
    description := "Raw SQL must constrain tenant_id"
    remediation := "Include a tenant_id predicate in raw SQL"
    check := .total checkRawQuery },
  { id := "TEN003"
    name := "trusted-tenant-source"
    category := .tenantIsolation
    severity := .high
    description := "Tenant identity comes from the auth context, never from input"
    remediation := "Resolve the tenant from the authenticated request context"
    check := .total checkTenantFromBody }]

end Compliance
