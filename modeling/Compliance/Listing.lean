import Compliance.Fix.Registry
import Compliance.Text.Quoted
import Compliance.Value.Json

/-!
# Listings

One-line descriptions of rules and replacements, and the listing of rules as a
padded table or as JSON.
-/

namespace Compliance

def Category.title : Category → String
  | security => "Security"
  | errorHandling => "ErrorHandling"
  | performance => "Performance"
  | reliability => "Reliability"
  | maintainability => "Maintainability"
  | transactions => "Transactions"
  | tenantIsolation => "TenantIsolation"

def Severity.title : Severity → String
  | critical => "Critical"
  | high => "High"
  | medium => "Medium"

def Rule.outline (rule : Rule) : String :=
  "Rule \x7b id: " ++ quoted rule.id ++ ", name: " ++ quoted rule.name ++ ", category: " ++
    rule.category.title ++ ", severity: " ++ rule.severity.title ++ ", .. \x7d"

def Replacement.outline : Replacement → String
  | template text => "Template(" ++ quoted text ++ ")"
  | function _ => "Function(..)"

def Rule.row (rule : Rule) : String :=
  let id := padRight 9 rule.id
  let category := padRight 16 rule.category.id
  let severity := padRight 8 rule.severity.label
  s!"{id} {category} {severity} {rule.name}"

def Rule.encode (rule : Rule) : Value :=
  .table [("category", .text rule.category.id), ("description", .text rule.description),
    ("id", .text rule.id), ("name", .text rule.name), ("remediation", .text rule.remediation),
    ("severity", .text rule.severity.id)]

def listRules (rules : List Rule) : String := String.join (rules.map (·.row ++ "\n"))

def listRulesJson (rules : List Rule) : String :=
  (Value.list (rules.map (·.encode))).pretty ++ "\n"

end Compliance
