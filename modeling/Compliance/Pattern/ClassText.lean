import Compliance.Pattern.Escape

/-!
# Classes in brackets

A class holds characters, ranges, classes by name and other classes; two classes
may be joined by `&&`, `--` and `~~`, from left to right.  How deep a class is counts
towards the depth of the pattern.
-/

namespace Compliance

open Reader

def namedClasses : List (String × CodeSet) :=
  [("alnum", [(0x30, 0x39), (0x41, 0x5A), (0x61, 0x7A)]), ("alpha", [(0x41, 0x5A), (0x61, 0x7A)]),
    ("ascii", [(0x00, 0x7F)]), ("blank", [(0x09, 0x09), (0x20, 0x20)]),
    ("cntrl", [(0x00, 0x1F), (0x7F, 0x7F)]), ("digit", asciiDigits), ("graph", [(0x21, 0x7E)]),
    ("lower", [(0x61, 0x7A)]), ("print", [(0x20, 0x7E)]),
    ("punct", [(0x21, 0x2F), (0x3A, 0x40), (0x5B, 0x60), (0x7B, 0x7E)]), ("space", asciiBlanks),
    ("upper", [(0x41, 0x5A)]), ("word", asciiWords),
    ("xdigit", [(0x30, 0x39), (0x41, 0x46), (0x61, 0x66)])]

/-- Adds case variants and turns the class round.  Where only ASCII counts the result may not
hold more. -/
def finishClass? (flags : ReadFlags) (negated : Bool) (set : CodeSet) : Option CodeSet :=
  let set := flags.fold set
  let set := if negated then set.compl else set
  if flags.asciiOnly && !set.isAscii then none else some set

def readNamedClass (flags : ReadFlags) : Reader (Option CodeSet) := do
  let saved ← get
  if ← eat "[:" then
    let negated ← eat "^"
    let name ← Reader.takeWhile (· ≠ ':')
    if ← eat ":]" then
      if let some set := namedClasses.lookup (String.ofList name) then
        return some (← finishClass? flags negated set)
  set saved
  return none

structure ClassItems where
  set : CodeSet := []
  count : Nat := 0
  deepest : Nat := 0
  deriving DecidableEq, Repr

namespace ClassItems

def add (items : ClassItems) (set : CodeSet) (depth : Nat) : ClassItems :=
  ⟨items.set ∪ set, items.count + 1, max items.deepest depth⟩

def addChar (items : ClassItems) (c : Char) : ClassItems := items.add (.one c.toNat) 0

/-- Several items together are one level deeper than each of them. -/
def depth (items : ClassItems) : Nat :=
  if items.count ≤ 1 then items.deepest else items.deepest + 1

end ClassItems

inductive ClassOp where
  | inter
  | diff
  | symmetric
  deriving DecidableEq, Repr

def ClassOp.apply (op : ClassOp) (a b : CodeSet) : CodeSet :=
  match op with
  | inter => a.inter b
  | diff => a \ b
  | symmetric => a.symmDiff b

abbrev ClassLeft := Option (CodeSet × Nat × ClassOp)

def combineClass (flags : ReadFlags) (left : ClassLeft) (items : ClassItems) : CodeSet × Nat :=
  match left with
  | none => (items.set, items.depth)
  | some (set, depth, op) =>
      (op.apply (flags.fold set) (flags.fold items.set), max depth items.depth + 1)

def readClassItem (flags : ReadFlags) : Reader Atom := do
  if ← eat "\\" then readEscape flags else return .char (← next)

def classChar? (flags : ReadFlags) : Atom → Option Char
  | .char c => if flags.asciiOnly && 0x80 ≤ c.toNat then none else some c
  | _ => none

def readClassRange (flags : ReadFlags) : Reader CodeSet := do
  let first ← readClassItem flags
  skipSpace flags
  let rest := (← get).rest
  let second := peekSpaced flags rest
  if rest.isEmpty then failure
  else if rest.head? = some '-' && second ≠ some ']' && second ≠ some '-' then
    let _ ← nextSpaced flags
    let last ← readClassItem flags
    let low ← classChar? flags first
    let high ← classChar? flags last
    if low ≤ high then return .ofRange low.toNat high.toNat else failure
  else match first with
    | .chars set => return set
    | atom =>
        let c ← classChar? flags atom
        return .one c.toNat

def readClassStart (flags : ReadFlags) : Reader ClassItems := do
  let dashes ← takeSpaced flags (· = '-') (← get).rest.length
  if dashes.isEmpty && (← peek) = some ']' then
    let _ ← nextSpaced flags
    return ({} : ClassItems).addChar ']'
  else return dashes.foldl ClassItems.addChar {}

mutual

def readClass (fuel level : Nat) (flags : ReadFlags) : Reader (CodeSet × Nat) :=
  match fuel with
  | 0 => failure
  | fuel + 1 => do
      if maximumDepth < level then failure
      skipSpace flags
      let negated ← eat "^"
      skipSpace flags
      let (set, depth) ← readClassItems fuel level flags none (← readClassStart flags)
      return (← finishClass? flags negated set, depth + 1)

def readClassItems (fuel level : Nat) (flags : ReadFlags) (left : ClassLeft)
    (items : ClassItems) : Reader (CodeSet × Nat) :=
  match fuel with
  | 0 => failure
  | fuel + 1 => do
      skipSpace flags
      let operator (op : ClassOp) : Reader (CodeSet × Nat) :=
        let (set, depth) := combineClass flags left items
        readClassItems fuel level flags (some (set, depth, op)) {}
      if (← peek) = some '[' then
        match ← readNamedClass flags with
        | some named => readClassItems fuel level flags left (items.add named 0)
        | none =>
            skip 1
            let (inner, depth) ← readClass fuel (level + 1) flags
            readClassItems fuel level flags left (items.add inner depth)
      else if ← eat "]" then return combineClass flags left items
      else if ← eat "&&" then operator .inter
      else if ← eat "--" then operator .diff
      else if ← eat "~~" then operator .symmetric
      else
        let item ← readClassRange flags
        readClassItems fuel level flags left (items.add item 0)

end

end Compliance
