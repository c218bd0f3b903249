import Compliance.Evaluation
import Compliance.Value.Decode
import Compliance.Value.Toml.Reader

/-!
# Expectations

An expectation names a category, some files and exactly what the category must
give on them: the numbers of violations and warnings and whether it passes.
-/

namespace Compliance

structure Expectation where
  name : String
  category : Category
  files : List (String × String) := []
  violations : Nat := 0
  warnings : Nat := 0
  passed : Bool := true
  deriving DecidableEq, Repr

structure CaseOutcome where
  name : String
  violations : Nat
  warnings : Nat
  passed : Bool
  mismatches : List String
  deriving DecidableEq, Repr

namespace CaseOutcome

def isSuccess (outcome : CaseOutcome) : Bool := outcome.mismatches.isEmpty

def encode (outcome : CaseOutcome) : Value :=
  .table [("name", .text outcome.name), ("violations", .nat outcome.violations),
    ("warnings", .nat outcome.warnings), ("passed", .bool outcome.passed),
    ("mismatches", .texts outcome.mismatches)]

end CaseOutcome

namespace Expectation

def withFile (expectation : Expectation) (name content : String) : Expectation :=
  { expectation with files := Value.insertEntry name content expectation.files }

def expecting (expectation : Expectation) (violations warnings : Nat) (passed : Bool) :
    Expectation :=
  { expectation with violations, warnings, passed }

def mismatch (what expected observed : String) : List String :=
  if expected = observed then [] else [s!"{what}: expected {expected}, got {observed}"]

/-- Compares what a category gave; no result at all counts as nothing found. -/
def compare {α : Type} (expectation : Expectation) (result : Option (CategoryResult α)) :
    CaseOutcome :=
  let violations := (result.map (·.violations.length)).getD 0
  let warnings := (result.map (·.warnings.length)).getD 0
  let passed := (result.map (·.passed)).getD true
  { name := expectation.name
    violations
    warnings
    passed
    mismatches :=
      mismatch "violations" (toString expectation.violations) (toString violations) ++
        mismatch "warnings" (toString expectation.warnings) (toString warnings) ++
        mismatch "passed" (toString expectation.passed) (toString passed) }

def sources (expectation : Expectation) : List SourceFile :=
  expectation.files.map fun (name, content) => ⟨name, content.toList⟩

def run {α : Type} [Scalar α] (expectation : Expectation) (engine : Engine α) :
    Except Error CaseOutcome :=
  (engine.run (.ofCategory expectation.category) expectation.sources).map fun run =>
    expectation.compare (run.result? expectation.category)

def complaint? {α : Type} [Scalar α] (expectation : Expectation) (engine : Engine α) :
    Option String :=
  match expectation.run engine with
  | .error error => some s!"case '{expectation.name}' could not run: {error.message}"
  | .ok outcome =>
      if outcome.isSuccess then none
      else some (s!"case '{expectation.name}' failed:\n  " ++
        "\n  ".intercalate outcome.mismatches)

def withEntry (format : Format) (expectation : Expectation) (key : String) (value : Value) :
    Decoded Expectation :=
  match key with
  | "name" => return { expectation with name := ← value.toText }
  | "category" => return { expectation with category := ← value.toChoice format Category.ofId? }
  | "files" => return { expectation with files := ← value.toMap Value.toText }
  | "expected_violations" => return { expectation with violations := ← value.toWord }
  | "expected_warnings" => return { expectation with warnings := ← value.toWord }
  | "expected_passed" => return { expectation with passed := ← value.toBool }
  | _ => return expectation

def decode (format : Format) : Value → Decoded Expectation :=
  Value.toFullRecord format ["name", "category", "files", "expected_violations",
    "expected_warnings", "expected_passed"] (withEntry format) { name := "", category := .security }

def decodeAll (format : Format) : Value → Decoded (List Expectation) :=
  Value.toRecord format ["case"] (fun cases key value =>
    if key = "case" then value.toList (decode format) else return cases) []

/-- The expectations of a TOML document, if it is one and holds nothing else under `case`. -/
def ofToml? (text : Text) : Option (List Expectation) :=
  (Toml.read? .second text).bind fun value => (decodeAll .toml value).toOption

end Expectation

end Compliance
