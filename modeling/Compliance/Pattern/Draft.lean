import Compliance.Pattern.Match

/-!
# Drafts

A draft is a pattern as it was written: literal texts are kept whole and
repetitions are counted, not written out.  The functions that build drafts drop empty
parts, join neighbouring texts and make one set out of a choice between single characters.
`Draft.pattern` writes the repetitions out.
-/

namespace Compliance

def maximumDepth : Nat := 250

inductive Draft where
  | empty
  | literal (text : Text)
  | chars (set : CodeSet)
  | edge (condition : Edge)
  | repeated (low : Nat) (high : Option Nat) (greedy : Bool) (body : Draft)
  | group (index : Nat) (body : Draft)
  | seq (first second : Draft)
  | choice (first second : Draft)
  deriving DecidableEq, Repr

namespace Draft

def ofSet (set : CodeSet) : Draft :=
  match set.only? with
  | some n => literal [Char.ofNat n]
  | none => chars set

def parts : Draft → List Draft
  | empty => []
  | seq first second => first.parts ++ second.parts
  | part => [part]

def joinLiterals : List Draft → List Draft
  | [] => []
  | part :: others =>
      match part, joinLiterals others with
      | literal text, literal more :: later => literal (text ++ more) :: later
      | _, later => part :: later

def inTurn (drafts : List Draft) : Draft :=
  match joinLiterals (drafts.flatMap parts) with
  | [] => empty
  | part :: others => others.foldl seq part

def branches : Draft → List Draft
  | choice first second => first.branches ++ second.branches
  | branch => [branch]

def singleSet? : Draft → Option CodeSet
  | chars set => some set
  | literal [c] => some (CodeSet.one c.toNat)
  | _ => none

def oneOf (drafts : List Draft) : Draft :=
  let all := drafts.flatMap branches
  match all with
  | [] => empty
  | branch :: others =>
      if others.isEmpty then branch
      else match all.mapM singleSet? with
        | some sets => ofSet (CodeSet.unions sets)
        | none => others.foldl choice branch

def alwaysEmpty : Draft → Bool
  | empty => true
  | literal text => text.isEmpty
  | chars _ => false
  | edge _ => true
  | repeated _ high _ body => high = some 0 || body.alwaysEmpty
  | group _ body => body.alwaysEmpty
  | seq first second => first.alwaysEmpty && second.alwaysEmpty
  | choice first second => first.alwaysEmpty && second.alwaysEmpty

def nullable : Draft → Bool
  | empty => true
  | literal text => text.isEmpty
  | chars set => set.isEmpty
  | edge _ => true
  | repeated low _ _ body => low = 0 || body.nullable
  | group _ body => body.nullable
  | seq first second => first.nullable && second.nullable
  | choice first second => first.nullable || second.nullable

/-- Repeats a draft.  More than one round of nothing is still nothing. -/
def times (low : Nat) (high : Option Nat) (greedy : Bool) (body : Draft) : Draft :=
  let (low, high) :=
    if body.alwaysEmpty then (min low 1, some (min (high.getD 1) 1)) else (low, high)
  if high = some 0 then empty
  else if low = 1 && high = some 1 then body
  else repeated low high greedy body

end Draft

namespace Pattern

def optional (greedy : Bool) (body : Pattern) : Pattern :=
  if greedy then alt body empty else alt empty body

def exactly (body : Pattern) (count : Nat) : Pattern := inTurn (List.replicate count body)

def atMost (greedy : Bool) (body : Pattern) : Nat → Pattern
  | 0 => empty
  | 1 => optional greedy body
  | count + 1 => optional greedy (seq body (atMost greedy body count))

/-- Between `low` and `high` times, without an upper bound if there is no `high`. -/
def between (body : Pattern) (low : Nat) (high : Option Nat) (greedy : Bool) : Pattern :=
  match low, high with
  | 0, none =>
      if body.nullable then optional greedy (plus greedy body) else star greedy body
  | 1, none => plus greedy body
  | low, none => seq (exactly body (low - 1)) (plus greedy body)
  | 0, some high => atMost greedy body high
  | low, some high =>
      if low = high then exactly body low
      else seq (exactly body low) (atMost greedy body (high - low))

end Pattern

def Draft.pattern : Draft → Pattern
  | .empty => .empty
  | .literal text => .ofText text
  | .chars set => .single (.codes set)
  | .edge condition => .edge condition
  | .repeated low high greedy body => body.pattern.between low high greedy
  | .group index body => .group index body.pattern
  | .seq first second => .seq first.pattern second.pattern
  | .choice first second => .alt first.pattern second.pattern

end Compliance
