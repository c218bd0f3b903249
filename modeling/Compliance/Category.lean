import Compliance.Text.Basic

/-!
# Categories and severities

The seven compliance categories, in the order in which they are evaluated and
reported, and the three severities of a rule.
-/

namespace Compliance

inductive Severity where
  | critical
  | high
  | medium
  deriving DecidableEq, Repr

namespace Severity

def all : List Severity := [critical, high, medium]

def id : Severity → String
  | critical => "critical"
  | high => "high"
  | medium => "medium"

def label : Severity → String
  | critical => "CRITICAL"
  | high => "HIGH"
  | medium => "MEDIUM"

def ofId? (id : String) : Option Severity := all.find? (·.id == id)

end Severity

inductive Category where
  | security
  | errorHandling
  | performance
  | reliability
  | maintainability
  | transactions
  | tenantIsolation
  deriving DecidableEq, Repr

namespace Category

def all : List Category :=
  [security, errorHandling, performance, reliability, maintainability, transactions,
    tenantIsolation]

def rank : Category → Nat
  | security => 0
  | errorHandling => 1
  | performance => 2
  | reliability => 3
  | maintainability => 4
  | transactions => 5
  | tenantIsolation => 6

def id : Category → String
  | security => "security"
  | errorHandling => "error-handling"
  | performance => "performance"
  | reliability => "reliability"
  | maintainability => "maintainability"
  | transactions => "transactions"
  | tenantIsolation => "tenant-isolation"

def ofId? (id : String) : Option Category := all.find? (·.id == id)

/-- The id as users write it: blanks around it, letter case and `_` for `-` do not matter. -/
def parse? (name : String) : Option Category :=
  let normal := (Text.lower (Text.trim name.toList)).map fun c => if c = '_' then '-' else c
  ofId? (String.ofList normal)

theorem mem_all (category : Category) : category ∈ all := by
  cases category <;> decide

theorem rank_injective {a b : Category} (h : a.rank = b.rank) : a = b := by
  cases a <;> cases b <;> first | rfl | cases h

end Category

end Compliance
