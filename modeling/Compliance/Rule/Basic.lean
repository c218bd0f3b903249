import Compliance.Line.Scope

/-!
# Rules

A rule is data and a check.  A check looks at one line in its context and gives
a finding, nothing, or a fault of its own; it changes nothing.
-/

namespace Compliance

structure Finding where
  message : String
  suggestion : Option String := none
  deriving DecidableEq, Repr

/-- A check broke down, with or without saying why. -/
inductive Fault where
  | said (text : String)
  | silent
  deriving DecidableEq, Repr

def Fault.message : Fault → String
  | said text => text
  | silent => "rule check panicked"

abbrev Check := LineContext → Except Fault (Option Finding)

def Check.total (find : LineContext → Option Finding) : Check := fun context => .ok (find context)

structure Rule where
  id : String
  name : String
  category : Category
  severity : Severity
  description : String
  remediation : String
  check : Check

def isTestFile (filename : String) : Bool :=
  [".spec.", ".test.", "__tests__", "/test/"].any fun part =>
    Text.contains filename.toList part.toList

def basename (filename : String) : Text :=
  (filename.toList.reverse.takeWhile fun c => c ≠ '/' && c ≠ '\\').reverse

open Pattern

def dot : CharSet := .noneOf "\n"

def quotes : CharSet := .anyOf "'\x22\x60"

def writeVerbs : Pattern :=
  words ["create", "createMany", "update", "updateMany", "upsert", "delete", "deleteMany"]

end Compliance
