import Compliance.Error
import Compliance.Line.Marks

/-!
# The context of a line

A line is judged together with a bounded part of its file: a window before and
after it for the text of a call or block, and a backward scan for the block it
stands in.  The scan keeps one running balance of braces and takes a start only
while that balance is not positive, which skips blocks closed before the line.
-/

namespace Compliance

structure Window where
  preceding : Nat := 15
  following : Nat := 15
  scanLimit : Nat := 300
  deriving DecidableEq, Repr

namespace Window

def maximum : Nat := 10000

def sizes (window : Window) : List (String × Nat) :=
  [("preceding", window.preceding), ("following", window.following),
    ("scan_limit", window.scanLimit)]

def validate (window : Window) : Except Error Unit :=
  match window.sizes.find? (maximum < ·.2) with
  | some (size, value) => .error (.windowTooLarge size value)
  | none => .ok ()

end Window

/-- The lines from `index` backward, nearest first: the line itself and `limit` more.  An index
behind the last line stands for the last line. -/
def backward (lines : List Text) (index limit : Nat) : List Text :=
  ((lines.take (index + 1)).reverse).take (limit + 1)

/-- How many lines back the first start lies at which the braces passed so far do not close more
than they open. -/
def stepsBack (isStart : Text → Bool) : Int → List Text → Option Nat
  | _, [] => none
  | balance, line :: others =>
      if balance ≤ 0 && isStart line then some 0
      else (stepsBack isStart (balance + braceDelta line) others).map (· + 1)

/-- Index of the start of the block around a line. -/
def enclosingStart? (lines : List Text) (index limit : Nat) (isStart : Text → Bool) :
    Option Nat :=
  (stepsBack isStart 0 (backward lines index limit)).map (min index (lines.length - 1) - ·)

def seenBefore (lines : List Text) (index limit : Nat) (property : Text → Bool) : Bool :=
  (backward lines index limit).any property

structure LineContext where
  lines : List Text
  index : Nat
  window : Window
  filename : String
  deriving DecidableEq, Repr

namespace LineContext

/-- A context exists for every index up to the number of lines. -/
def build? (lines : List Text) (index : Nat) (filename : String) (window : Window) :
    Option LineContext :=
  if index ≤ lines.length then some ⟨lines, index, window, filename⟩ else none

def all (lines : List Text) (filename : String) (window : Window) : List LineContext :=
  (List.range lines.length).map fun index => ⟨lines, index, window, filename⟩

def line (context : LineContext) : Text := (context.lines[context.index]?).getD []

def number (context : LineContext) : Nat := context.index + 1

def precedingLines (context : LineContext) : List Text :=
  (context.lines.take context.index).drop (context.index - context.window.preceding)

def followingLines (context : LineContext) : List Text :=
  (context.lines.drop (context.index + 1)).take context.window.following

def enclosing? (context : LineContext) (isStart : Text → Bool) : Option Nat :=
  enclosingStart? context.lines context.index context.window.scanLimit isStart

def insideFunction (context : LineContext) : Bool := (context.enclosing? isFunctionStart).isSome

def insideExceptionHandler (context : LineContext) : Bool :=
  (context.enclosing? isExceptionStart).isSome

def insideClass (context : LineContext) : Bool :=
  seenBefore context.lines context.index context.window.scanLimit isClassStart

end LineContext

end Compliance
