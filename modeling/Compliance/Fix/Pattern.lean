import Compliance.Pattern.Template

/-!
# Fix patterns

A fix pattern belongs to a rule and changes single lines: every match is
replaced, by a template or by a function of the match.
-/

namespace Compliance

structure Prerequisite where
  symbol : String
  module : String
  deriving DecidableEq, Repr

namespace Prerequisite

def before (a b : Prerequisite) : Bool :=
  a.symbol < b.symbol || (a.symbol == b.symbol && a.module < b.module)

def insert (new : Prerequisite) : List Prerequisite → List Prerequisite
  | [] => [new]
  | other :: others =>
      if new.before other then new :: other :: others
      else if new = other then other :: others
      else other :: insert new others

end Prerequisite

inductive Replacement where
  | template (text : String)
  | function (replace : Match → Text)

structure FixPattern where
  ruleId : String
  matcher : Matcher
  replacement : Replacement
  description : String
  prerequisite : Option Prerequisite := none

namespace FixPattern

def replace (fix : FixPattern) (found : Match) : Text :=
  match fix.replacement with
  | .template text => expandTemplate fix.matcher.names text.toList found
  | .function replace => replace found

def applyLine? (fix : FixPattern) (line : Text) : Option Text :=
  if fix.matcher.pattern.occurs line then
    let changed := fix.matcher.pattern.replaceAll fix.replace line
    if changed = line then none else some changed
  else none

end FixPattern

end Compliance
