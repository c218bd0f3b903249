import Compliance.Fix.Import
import Compliance.Fix.Registry

/-!
# Applying fixes

One step of correction: every allowed fix pattern is tried on the lines at which
its rule was reported, in registry order and by rising line, and then the
imports that the new lines need are added.  Each change is recorded.
-/

namespace Compliance

structure CorrectionOptions where
  maxIterations : Nat := 3
  skipRules : List String := []
  /-- If not empty, only these rules are fixed. -/
  onlyRules : List String := []
  deriving DecidableEq, Repr

namespace CorrectionOptions

def allows (options : CorrectionOptions) (ruleId : String) : Bool :=
  !options.skipRules.any (sameName · ruleId) &&
    (options.onlyRules.isEmpty || options.onlyRules.any (sameName · ruleId))

end CorrectionOptions

structure AppliedFix where
  ruleId : String
  line : Nat
  before : Text
  after : Text
  description : String
  deriving DecidableEq, Repr

structure Place where
  ruleId : String
  line : Nat
  deriving DecidableEq, Repr

def targetLines (places : List Place) (ruleId : String) : List Nat :=
  (((places.filter fun place => sameName place.ruleId ruleId).map (·.line)).eraseDups).mergeSort

def attempts (registry : Registry) (options : CorrectionOptions) (places : List Place) :
    List (FixPattern × Nat) :=
  (registry.filter fun fix => options.allows fix.ruleId).flatMap fun fix =>
    (targetLines places fix.ruleId).map fun line => (fix, line)

structure Progress where
  lines : List Text
  fixes : List AppliedFix
  needed : List Prerequisite
  deriving DecidableEq, Repr

/-- Tries one pattern on one line.  Line 0 and lines behind the end do not exist. -/
def Progress.attempt (progress : Progress) (fix : FixPattern) (line : Nat) : Progress :=
  if line = 0 then progress
  else match progress.lines[line - 1]? with
    | none => progress
    | some before =>
        match fix.applyLine? before with
        | none => progress
        | some after =>
            { lines := progress.lines.set (line - 1) after
              fixes := progress.fixes ++ [⟨fix.ruleId, line, before, after, fix.description⟩]
              needed := match fix.prerequisite with
                | some prerequisite => prerequisite.insert progress.needed
                | none => progress.needed }

def patternPhase (registry : Registry) (options : CorrectionOptions) (content : Text)
    (places : List Place) : Progress :=
  (attempts registry options places).foldl (fun progress (fix, line) => progress.attempt fix line)
    ⟨Text.pieces content, [], []⟩

/-- The record of an added import has an id of its own. -/
def importRecord (needed : Prerequisite) (edit : ImportEdit) : AppliedFix :=
  { ruleId := "PREREQ"
    line := edit.line
    before := edit.before
    after := edit.after
    description := "Add missing import of " ++ needed.symbol ++ " from " ++ needed.module }

def importPhase : List Prerequisite → Text → Text × List AppliedFix
  | [], content => (content, [])
  | needed :: others, content =>
      match needed.ensure? content with
      | none => importPhase others content
      | some edit =>
          let (final, fixes) := importPhase others edit.content
          (final, importRecord needed edit :: fixes)

def applyFixes (registry : Registry) (options : CorrectionOptions) (content : Text)
    (places : List Place) : Text × List AppliedFix :=
  let progress := patternPhase registry options content places
  let (corrected, imports) := importPhase progress.needed (Text.unpieces progress.lines)
  (corrected, progress.fixes ++ imports)

end Compliance
