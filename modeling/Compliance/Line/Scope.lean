import Compliance.Line.Context

/-!
# Calls, blocks and function scopes

Three ways to extend a line to the lines that belong to it: a call until its
parentheses balance, a block until it is closed, a function from its start to
its closing brace.
-/

namespace Compliance

def callLines : Int → List Text → List Text
  | _, [] => []
  | depth, line :: others =>
      if depth ≤ 0 then [] else line :: callLines (depth + parenDelta line) others

def callText (line : Text) (following : List Text) : Text :=
  Text.unpieces (line :: callLines (parenDelta line) following)

def openLines : Int → List Text → List Text
  | _, [] => []
  | depth, line :: others =>
      let left := depth - braceDelta line
      if left ≤ 0 then [] else line :: openLines left others

def blockBody (opening : Text) (following : List Text) : List Text :=
  let depth := -braceDelta opening
  if depth ≤ 0 then [] else openLines depth following

structure FunctionScope where
  start : Nat
  lines : List Text
  target : Nat
  deriving DecidableEq, Repr

def openDepth (lines : List Text) : Int :=
  lines.foldl (fun depth line => depth - braceDelta line) 0

/-- The lines up to the first one after which no brace is open, that one included. -/
def throughClosing : Int → List Text → List Text
  | _, [] => []
  | depth, line :: others =>
      let left := depth - braceDelta line
      if left ≤ 0 then [line] else line :: throughClosing left others

/-- The function around the context's line.  Its end is sought from that line on, at most as far
as the structural scans reach. -/
def functionScope? (context : LineContext) : Option FunctionScope :=
  (context.enclosing? isFunctionStart).map fun start =>
    let target := context.index - start
    let head := (context.lines.drop start).take target
    let reach := (context.lines.drop context.index).take (context.window.scanLimit + 1)
    ⟨start, head ++ throughClosing (openDepth head) reach, target⟩

def FunctionScope.startLine (scope : FunctionScope) : Text := scope.lines.headD []

end Compliance
