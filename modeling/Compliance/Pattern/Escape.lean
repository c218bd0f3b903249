import Compliance.Pattern.Reading

/-!
# Escapes

What a backslash and the characters behind it stand for: a character, a class of
characters or an edge.
-/

namespace Compliance

open Reader

inductive Atom where
  | char (c : Char)
  | chars (set : CodeSet)
  | edge (condition : Edge)
  deriving DecidableEq, Repr

def asciiDigits : CodeSet := [(0x30, 0x39)]

def asciiBlanks : CodeSet := [(0x09, 0x0D), (0x20, 0x20)]

def asciiWords : CodeSet := [(0x30, 0x39), (0x41, 0x5A), (0x5F, 0x5F), (0x61, 0x7A)]

/-- A class and its ASCII part.  Where only ASCII counts, no class may hold more. -/
def letterClass? (flags : ReadFlags) (negated : Bool) (full ascii : CodeSet) : Option CodeSet :=
  if flags.asciiOnly then if negated then none else some ascii
  else some (if negated then full.compl else full)

def classOf? (flags : ReadFlags) (c : Char) : Option CodeSet :=
  match c with
  | 'd' => letterClass? flags false Property.decimalDigits asciiDigits
  | 'D' => letterClass? flags true Property.decimalDigits asciiDigits
  | 's' => letterClass? flags false Property.whiteSpace asciiBlanks
  | 'S' => letterClass? flags true Property.whiteSpace asciiBlanks
  | 'w' => letterClass? flags false wordCodes asciiWords
  | 'W' => letterClass? flags true wordCodes asciiWords
  | _ => none

def hexDigit? (c : Char) : Option Nat :=
  if c.isDigit then some (c.toNat - '0'.toNat)
  else if 'a' ≤ c && c ≤ 'f' then some (c.toNat - 'a'.toNat + 10)
  else if 'A' ≤ c && c ≤ 'F' then some (c.toNat - 'A'.toNat + 10)
  else none

def hexValue? (text : Text) : Option Nat :=
  if text.isEmpty then none
  else text.foldlM (fun value c => (hexDigit? c).map (16 * value + ·)) 0

def charOfHex? (digits : Text) : Option Char :=
  (hexValue? digits).bind fun code => if code.isValidChar then some (Char.ofNat code) else none

def readCode (flags : ReadFlags) (width : Nat) : Reader Char := do
  skipSpace flags
  if (← peek) = some '\x7b' then
    let _ ← nextSpaced flags
    let digits ← takeSpaced flags (· ≠ '\x7d') (← get).rest.length
    let _ ← nextSpaced flags
    charOfHex? digits
  else
    let digits ← takeSpaced flags (fun c => (hexDigit? c).isSome) width
    if digits.length = width then charOfHex? digits else failure

def cutAt? (separator : Text) : Text → Option (Text × Text)
  | [] => none
  | c :: rest =>
      if separator.isPrefixOf (c :: rest) then some ([], (c :: rest).drop separator.length)
      else (cutAt? separator rest).map fun (before, after) => (c :: before, after)

def propertySet? (name : Text) : Option (CodeSet × Bool) :=
  match cutAt? ['!', '='] name with
  | some (property, value) => (Property.valued? property value).map (·, true)
  | none =>
      match (cutAt? [':'] name).or (cutAt? ['='] name) with
      | some (property, value) => (Property.valued? property value).map (·, false)
      | none => (Property.named? name).map (·, false)

def readProperty (flags : ReadFlags) (negated : Bool) : Reader CodeSet := do
  skipSpace flags
  let name ←
    if (← peek) = some '\x7b' then
      let _ ← nextSpaced flags
      let name ← takeSpaced flags (· ≠ '\x7d') (← get).rest.length
      expect "\x7d"
      pure name
    else
      let c ← nextSpaced flags
      if c = '\\' then failure else pure [c]
  if flags.asciiOnly then failure
  else
    let (set, excluded) ← propertySet? name
    let set := flags.fold set
    return if negated == excluded then set else set.compl

def wordEdgeOf (flags : ReadFlags) (kind : WordEdge) : Edge :=
  if flags.asciiOnly then .asciiWord kind else .word kind

def isEdgeNameChar (c : Char) : Bool := c.isAlpha || c == '-'

/-- A word edge, possibly one with its kind in braces.  Braces with something else than a name
are left for a repetition. -/
def readWordEdge (flags : ReadFlags) : Reader WordEdge := do
  let saved ← get
  if (← peek) = some '\x7b' then
    let _ ← nextSpaced flags
    match ← peek with
    | none => failure
    | some c =>
        if isEdgeNameChar c then
          let name ← takeSpaced flags isEdgeNameChar (← get).rest.length
          expect "\x7d"
          [("start", WordEdge.start), ("end", .stop), ("start-half", .halfStart),
            ("end-half", .halfStop)].lookup (String.ofList name)
        else
          set saved
          return .edge
  else return .edge

def signOf? (c : Char) : Option Char :=
  [('a', '\x07'), ('f', '\x0c'), ('t', '\t'), ('n', '\n'), ('r', '\r'), ('v', '\x0b')].lookup c

def readEscape (flags : ReadFlags) : Reader Atom := do
  let c ← next
  match c with
  | 'x' =>
      skipSpace flags
      let inBraces := (← peek) = some '\x7b'
      let code ← readCode flags 2
      if flags.asciiOnly && !inBraces && 0x80 ≤ code.toNat then failure else return .char code
  | 'u' => return .char (← readCode flags 4)
  | 'U' => return .char (← readCode flags 8)
  | 'p' => return .chars (← readProperty flags false)
  | 'P' => return .chars (← readProperty flags true)
  | 'A' => return .edge .textStart
  | 'z' => return .edge .textEnd
  | 'b' => return .edge (wordEdgeOf flags (← readWordEdge flags))
  | 'B' => return .edge (wordEdgeOf flags .inside)
  | '<' => return .edge (wordEdgeOf flags .start)
  | '>' => return .edge (wordEdgeOf flags .stop)
  | _ =>
      if let some sign := signOf? c then return .char sign
      else if let some set := classOf? flags c then return .chars set
      else if c.toNat < 0x80 && !c.isAlphanum then return .char c
      else failure

end Compliance
