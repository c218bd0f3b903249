import Compliance.Pattern.Match

/-!
# Marks of a line

What a single line shows by itself: comment, start of a function, class or
exception block, and how many braces and parentheses it opens or closes.
Nothing is parsed; strings and comments count like code.
-/

namespace Compliance

open Pattern

def nameChars : CharSet := .word ∪ .one '$'

def braceDelta (line : Text) : Int :=
  line.foldl (fun count c =>
    if c = '\x7d' then count + 1 else if c = '\x7b' then count - 1 else count) 0

def parenDelta (line : Text) : Int :=
  line.foldl (fun count c => if c = '(' then count + 1 else if c = ')' then count - 1 else count) 0

/-- The line starts with `//`, with `/*` or with the `*` of a longer comment. -/
def isComment (line : Text) : Bool :=
  let start := Text.trimStart line
  start.beginsWith "//".toList || start.beginsWith "/*".toList || start.beginsWith "*".toList

def functionKeyword : Pattern :=
  wordEdge ++ lit "function" ++ wordEdge ++ blanks ++ opt (lit "*") ++ blanks ++ many nameChars ++
    blanks ++ lit "("

def arrowBlock : Pattern := lit "=>" ++ blanks ++ lit "\x7b"

def methodModifier : Pattern :=
  words ["public", "private", "protected", "static", "async", "override", "readonly", "get", "set"]

def methodDeclaration : Pattern :=
  textStart ++ blanks ++ repeated (methodModifier ++ blanks1) ++
    group 1 (single (.range 'A' 'Z' ∪ .range 'a' 'z' ∪ .anyOf "_$") ++ many nameChars) ++ blanks ++
    opt (lit "<" ++ many (.noneOf ">") ++ lit ">") ++ blanks ++
    lit "(" ++ many (.noneOf ";") ++ lit ")" ++ blanks ++
    opt (lit ":" ++ blanks ++ many1 (.noneOf "=\x7b;")) ++ lit "\x7b" ++ blanks ++ textEnd

/-- Statements that look like a method declaration. -/
def controlKeywords : List Text :=
  ["if", "for", "while", "switch", "catch", "with", "return", "function"].map String.toList

def isFunctionStart (line : Text) : Bool :=
  functionKeyword.occurs line || arrowBlock.occurs line ||
    ((methodDeclaration.find? line).bind (·.group? 1)).any (!controlKeywords.contains ·)

def classDeclaration : Pattern :=
  textStart ++ blanks ++ opt (lit "export" ++ blanks1) ++ opt (lit "default" ++ blanks1) ++
    opt (lit "abstract" ++ blanks1) ++ lit "class" ++ blanks1 ++ many1 nameChars

def isClassStart (line : Text) : Bool := classDeclaration.occurs line

/-- The place before a bare word: the text start, or a character that neither continues a name
nor makes it a member. -/
def freshWord : Pattern := alt textStart (single (.compl (.one '.' ∪ nameChars)))

def catchBinding : Pattern := opt (lit "(" ++ many (.noneOf ")") ++ lit ")")

def tryOrCatch : Pattern :=
  freshWord ++
    alt (lit "try" ++ blanks ++ alt (lit "\x7b") textEnd)
      (lit "catch" ++ blanks ++ catchBinding ++ blanks ++ lit "\x7b")

/-- A `try` or `catch` block starts here; the `catch` of a promise does not count. -/
def isExceptionStart (line : Text) : Bool := tryOrCatch.occurs line

end Compliance
