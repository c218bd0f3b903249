import Compliance.Rule.Basic
import Compliance.Value.Basic

/-!
# Severity policy

A policy routes findings: by severity into violations or warnings, and escalated
rules always into violations.  It never adds or drops a finding.
-/

namespace Compliance

inductive Bucket where
  | violations
  | warnings
  deriving DecidableEq, Repr

namespace Bucket

def id : Bucket → String
  | violations => "violations"
  | warnings => "warnings"

def ofId? (id : String) : Option Bucket := [violations, warnings].find? (·.id == id)

end Bucket

structure Policy where
  buckets : Severity → Option Bucket
  escalations : List String

namespace Policy

def default : Policy where
  buckets
    | .critical => some .violations
    | .high => some .violations
    | .medium => some .warnings
  escalations := []

def withBucket (policy : Policy) (severity : Severity) (bucket : Bucket) : Policy :=
  { policy with buckets := fun other =>
      if other = severity then some bucket else policy.buckets other }

def escalate (policy : Policy) (ruleId : String) : Policy :=
  { policy with escalations := Value.insertName (upperName ruleId) policy.escalations }

/-- A severity without a bucket counts as violations. -/
def bucketFor (policy : Policy) (rule : Rule) : Bucket :=
  if policy.escalations.contains (upperName rule.id) then .violations
  else (policy.buckets rule.severity).getD .violations

end Policy

end Compliance
