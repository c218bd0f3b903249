import Compliance.Text.Basic
import Compliance.Text.Word
import Compliance.Text.Folding

/-!
# Patterns

A pattern describes pieces of a text: sets of characters, sequences, ordered
choices, runs, repetitions, numbered groups and edges.  The order of a choice
and the greed of a repetition say which of several possible matches counts.
-/

namespace Compliance

inductive CharSet where
  | empty
  | one (c : Char)
  | range (low high : Char)
  | codes (set : CodeSet)
  | word
  | digit
  | blank
  | union (a b : CharSet)
  | inter (a b : CharSet)
  | compl (a : CharSet)
  /-- Everything that has a case variant in the set. -/
  | folded (a : CharSet)
  deriving DecidableEq, Repr

namespace CharSet

def has : CharSet → Char → Bool
  | empty, _ => false
  | one c, x => x == c
  | range low high, x => low ≤ x && x ≤ high
  | codes set, x => set.has x.toNat
  | word, x => isWord x
  | digit, x => isDecimal x
  | blank, x => isBlank x
  | union a b, x => a.has x || b.has x
  | inter a b, x => a.has x && b.has x
  | compl a, x => !a.has x
  | folded a, x => (caseVariants x).any a.has

def ofText (text : Text) : CharSet :=
  text.foldr (fun c set => union (one c) set) empty

def anyOf (characters : String) : CharSet := ofText characters.toList

def noneOf (characters : String) : CharSet := compl (anyOf characters)

def any : CharSet := compl empty

instance : Union CharSet := ⟨union⟩

end CharSet

inductive WordEdge where
  | edge
  | inside
  | start
  | stop
  | halfStart
  | halfStop
  deriving DecidableEq, Repr

def WordEdge.holds (behind ahead : Bool) : WordEdge → Bool
  | edge => behind != ahead
  | inside => behind == ahead
  | start => !behind && ahead
  | stop => behind && !ahead
  | halfStart => !behind
  | halfStop => !ahead

inductive Edge where
  | textStart
  | textEnd
  | lineStart
  | lineEnd
  /-- Like `lineStart`, for lines that a carriage return ends too. -/
  | rowStart
  | rowEnd
  | word (kind : WordEdge)
  | asciiWord (kind : WordEdge)
  deriving DecidableEq, Repr

def isAsciiWord (c : Char) : Bool := c.isAlphanum || c == '_'

/-- A carriage return and the newline behind it are one line end. -/
def Edge.holds (edge : Edge) (previous next : Option Char) : Bool :=
  match edge with
  | textStart => previous.isNone
  | textEnd => next.isNone
  | lineStart => previous.isNone || previous == some '\n'
  | lineEnd => next.isNone || next == some '\n'
  | rowStart =>
      previous.isNone || previous == some '\n' ||
        (previous == some '\r' && next != some '\n')
  | rowEnd =>
      next.isNone || next == some '\r' || (next == some '\n' && previous != some '\r')
  | word kind => kind.holds (previous.any isWord) (next.any isWord)
  | asciiWord kind => kind.holds (previous.any isAsciiWord) (next.any isAsciiWord)

inductive Pattern where
  | empty
  | never
  | single (chars : CharSet)
  | seq (first second : Pattern)
  | alt (first second : Pattern)
  /-- Rounds of the body, possibly none.  A round that matches nothing does not count, so the body
  of a star is meant to take at least one character. -/
  | star (greedy : Bool) (body : Pattern)
  | plus (greedy : Bool) (body : Pattern)
  | group (index : Nat) (body : Pattern)
  | edge (condition : Edge)
  deriving DecidableEq, Repr

namespace Pattern

instance : Append Pattern := ⟨seq⟩

/-- Some place lets the pattern match without a character.  Sequences lean to the left, so the
second part is asked first. -/
def nullable : Pattern → Bool
  | empty => true
  | never => false
  | single _ => false
  | seq first second => second.nullable && first.nullable
  | alt first second => first.nullable || second.nullable
  | star _ _ => true
  | plus _ body => body.nullable
  | group _ body => body.nullable
  | edge _ => true

def char (c : Char) : Pattern := single (.one c)

def inTurn (parts : List Pattern) : Pattern :=
  match parts with
  | [] => empty
  | part :: others => others.foldl seq part

def ofText (text : Text) : Pattern := inTurn (text.map char)

def lit (text : String) : Pattern := ofText text.toList

def litFolded (text : String) : Pattern :=
  inTurn (text.toList.map fun c => single (.folded (.one c)))

def many (chars : CharSet) : Pattern := star true (single chars)

def many1 (chars : CharSet) : Pattern := plus true (single chars)

def oneOf (choices : List Pattern) : Pattern :=
  match choices with
  | [] => never
  | [choice] => choice
  | choice :: others => alt choice (oneOf others)

def words (texts : List String) : Pattern := oneOf (texts.map lit)

def wordsFolded (texts : List String) : Pattern := oneOf (texts.map litFolded)

def opt (body : Pattern) : Pattern := alt body empty

def repeated (body : Pattern) : Pattern := star true body

def blanks : Pattern := many .blank

def blanks1 : Pattern := many1 .blank

def wordEdge : Pattern := edge (.word .edge)

def textStart : Pattern := edge .textStart

def textEnd : Pattern := edge .textEnd

end Pattern

end Compliance
