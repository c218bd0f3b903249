import Compliance.Rule.Security
import Compliance.Rule.ErrorHandling
import Compliance.Rule.Performance
import Compliance.Rule.Reliability
import Compliance.Rule.Maintainability
import Compliance.Rule.Transactions
import Compliance.Rule.Tenant

/-!
# The rule catalog

Rules in the order in which they were registered.  Two ids that differ only in
the case of ASCII letters are the same id, and an id is registered once.
-/

namespace Compliance

structure Catalog where
  rules : List Rule

namespace Catalog

def empty : Catalog := ⟨[]⟩

def get? (catalog : Catalog) (id : String) : Option Rule :=
  catalog.rules.find? fun rule => sameName rule.id id

def register (catalog : Catalog) (rule : Rule) : Except Error Catalog :=
  if (catalog.get? rule.id).isSome then .error (.duplicateRule rule.id)
  else .ok ⟨catalog.rules ++ [rule]⟩

def ofRules (rules : List Rule) : Except Error Catalog :=
  rules.foldlM register empty

def size (catalog : Catalog) : Nat := catalog.rules.length

def byCategory (catalog : Catalog) (category : Category) : List Rule :=
  catalog.rules.filter (·.category = category)

def categories (catalog : Catalog) : List Category :=
  Category.all.filter fun category => catalog.rules.any (·.category = category)

def standard : Catalog :=
  ⟨securityRules ++ errorHandlingRules ++ performanceRules ++ reliabilityRules ++
    maintainabilityRules ++ transactionRules ++ tenantRules⟩

end Catalog

end Compliance
