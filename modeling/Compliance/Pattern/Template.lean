import Compliance.Pattern.Match

/-!
# Replacement templates

A template is text with references to groups: `$1`, `$name` or either of them
between braces.  A reference without braces runs as far as letters, digits and
underscores go.  Two dollar signs stand for one, and a dollar sign that starts no
reference stands for itself.
-/

namespace Compliance

structure Matcher where
  pattern : Pattern
  names : List (String × Nat) := []
  deriving DecidableEq, Repr

inductive TemplatePart where
  | char (c : Char)
  | reference (name : Text)
  deriving DecidableEq, Repr

def isReferenceChar (c : Char) : Bool := c.isAlphanum || c == '_'

def readReference? (text : Text) : Option (Text × Text) :=
  match text with
  | '\x7b' :: rest =>
      let name := rest.takeWhile (· ≠ '\x7d')
      match rest.drop name.length with
      | '\x7d' :: after => some (name, after)
      | _ => none
  | _ =>
      let name := text.takeWhile isReferenceChar
      if name.isEmpty then none else some (name, text.drop name.length)

def readTemplate : Nat → Text → List TemplatePart
  | 0, _ => []
  | _ + 1, [] => []
  | fuel + 1, '$' :: '$' :: rest => .char '$' :: readTemplate fuel rest
  | fuel + 1, '$' :: rest =>
      match readReference? rest with
      | some (name, after) => .reference name :: readTemplate fuel after
      | none => .char '$' :: readTemplate fuel rest
  | fuel + 1, c :: rest => .char c :: readTemplate fuel rest

/-- A reference made of digits is a number; a plus sign in front is allowed. -/
def groupNumber? (name : Text) : Option Nat :=
  let body := match name with
    | '+' :: rest => rest
    | _ => name
  if !body.isEmpty && body.all Char.isDigit then
    some (body.foldl (fun value c => 10 * value + (c.toNat - '0'.toNat)) 0)
  else none

/-- The text a reference stands for; unknown groups and groups that took no part are empty. -/
def referenceText (names : List (String × Nat)) (found : Match) (name : Text) : Text :=
  match groupNumber? name with
  | some index => found.group index
  | none => ((names.lookup (String.ofList name)).map found.group).getD []

def expandTemplate (names : List (String × Nat)) (template : Text) (found : Match) : Text :=
  (readTemplate template.length template).flatMap fun part =>
    match part with
    | .char c => [c]
    | .reference name => referenceText names found name

end Compliance
