import Compliance.Pattern.ClassText
import Compliance.Pattern.Weight

/-!
# Pattern text

Patterns in their usual written form: classes in brackets, groups in
parentheses, `*`, `+`, `?` and counts in braces for repetition, `|` for choice.
`Matcher.read?` gives nothing for text that is not a pattern, and for patterns that are nested
too deep or weigh too much.
-/

namespace Compliance

open Reader

structure Written where
  draft : Draft := .empty
  depth : Nat := 0
  deriving DecidableEq, Repr

namespace Written

def gather (join : List Draft → Draft) (parts : List Written) : Written :=
  match parts with
  | [] => {}
  | [part] => part
  | parts => ⟨join (parts.map (·.draft)), (parts.map (·.depth)).foldl max 0 + 1⟩

def inTurn (parts : List Written) : Written := gather Draft.inTurn parts

def oneOf (parts : List Written) : Written := gather Draft.oneOf parts

end Written

def charDraft (flags : ReadFlags) (c : Char) : Draft := .ofSet (flags.fold (.one c.toNat))

def atomDraft (flags : ReadFlags) : Atom → Draft
  | .char c => charDraft flags c
  | .chars set => .ofSet set
  | .edge condition => .edge condition

def dotDraft? (flags : ReadFlags) : Option Draft :=
  if flags.asciiOnly then none
  else if flags.dotAll then some (.chars [(0, CodeSet.lastCode)])
  else if flags.carriage then some (.chars (CodeSet.compl [(0x0A, 0x0A), (0x0D, 0x0D)]))
  else some (.chars (CodeSet.compl [(0x0A, 0x0A)]))

def startEdge (flags : ReadFlags) : Edge :=
  if !flags.multiline then .textStart else if flags.carriage then .rowStart else .lineStart

def endEdge (flags : ReadFlags) : Edge :=
  if !flags.multiline then .textEnd else if flags.carriage then .rowEnd else .lineEnd

def readCount (flags : ReadFlags) : Reader Nat := do
  let _ ← Reader.takeWhile isBlank
  let digits ← takeSpaced flags Char.isDigit (← get).rest.length
  let _ ← Reader.takeWhile isBlank
  let count := CodeSet.decimalOf digits
  if digits.isEmpty || Nat.pow 2 32 ≤ count then failure else return count

def readBounds (flags : ReadFlags) : Reader (Nat × Option Nat) := do
  let _ ← nextSpaced flags
  let low ← readCount flags
  let high ←
    if (← peek) = some ',' then
      let _ ← nextSpaced flags
      if (← peek) = some '\x7d' then pure none else pure (some (← readCount flags))
    else pure (some low)
  expect "\x7d"
  skipSpace flags
  if high.all (low ≤ ·) then return (low, high) else failure

/-- Repetition signs behind a part, as many as there are. -/
def readRepetition : Nat → ReadFlags → Written → Reader Written
  | 0, _, body => return body
  | fuel + 1, flags, body => do
      skipSpace flags
      let bounds ←
        match ← peek with
        | some '*' => skip 1; pure (some (0, none))
        | some '+' => skip 1; pure (some (1, none))
        | some '?' => skip 1; pure (some (0, some 1))
        | some '\x7b' => pure (some (← readBounds flags))
        | _ => pure none
      match bounds with
      | none => return body
      | some (low, high) =>
          let greedy := (← eat "?") == flags.swapGreed
          readRepetition fuel flags ⟨.times low high greedy body.draft, body.depth + 1⟩

def isGroupNameStart (c : Char) : Bool := c == '_' || isAlphabetic c

def isGroupNameChar (c : Char) : Bool :=
  c == '_' || c == '.' || c == '[' || c == ']' || isAlphanumeric c

def readGroupName : Reader String := do
  let name ← Reader.takeWhile (· ≠ '>')
  expect ">"
  match name with
  | [] => failure
  | c :: rest =>
      if isGroupNameStart c && rest.all isGroupNameChar then return String.ofList name
      else failure

def openGroup (name : Option String) : Reader Nat := do
  let reading ← get
  let index := reading.groups + 1
  match name with
  | none => set { reading with groups := index }
  | some name =>
      if (reading.names.lookup name).isSome then failure
      else set { reading with groups := index, names := reading.names ++ [(name, index)] }
  return index

inductive GroupStart where
  | numbered (index : Nat)
  | plain (flags : ReadFlags)
  | switch (flags : ReadFlags)
  deriving DecidableEq, Repr

/-- Texts that start conditions on what lies around, which patterns do not have. -/
def lookAroundStarts : List String := ["?=", "?!", "?<=", "?<!"]

def readGroupStart (flags : ReadFlags) : Reader GroupStart := do
  let _ ← nextSpaced flags
  let rest := (← get).rest
  if lookAroundStarts.any fun start => rest.beginsWith start.toList then failure
  else if ← eat "?P<" then return .numbered (← openGroup (some (← readGroupName)))
  else if ← eat "?<" then return .numbered (← openGroup (some (← readGroupName)))
  else if ← eat "?" then
    let letters ← Reader.takeWhile fun c => c ≠ ':' && c ≠ ')'
    let inner ← flags.ofLetters? letters
    if ← eat ":" then return .plain inner
    else if letters.isEmpty then failure
    else
      expect ")"
      return .switch inner
  else return .numbered (← openGroup none)

/-! ## Patterns -/

mutual

def readChoice (fuel level : Nat) (flags : ReadFlags) (branches : List Written) :
    Reader Written :=
  match fuel with
  | 0 => failure
  | fuel + 1 => do
      let (branch, flags) ← readParts fuel level flags []
      if ← eat "|" then readChoice fuel level flags (branch :: branches)
      else return .oneOf (branch :: branches).reverse

def readParts (fuel level : Nat) (flags : ReadFlags) (parts : List Written) :
    Reader (Written × ReadFlags) :=
  match fuel with
  | 0 => failure
  | fuel + 1 => do
      skipSpace flags
      match ← peek with
      | none => return (.inTurn parts.reverse, flags)
      | some '|' => return (.inTurn parts.reverse, flags)
      | some ')' => return (.inTurn parts.reverse, flags)
      | some '(' =>
          if maximumDepth ≤ level then failure
          match ← readGroupStart flags with
          | .switch flags => readParts fuel level flags ({} :: parts)
          | .plain inner =>
              let body ← readChoice fuel (level + 1) inner []
              expect ")"
              let group : Written := ⟨body.draft, body.depth + 1⟩
              readParts fuel level flags ((← readRepetition fuel flags group) :: parts)
          | .numbered index =>
              let body ← readChoice fuel (level + 1) flags []
              expect ")"
              let group : Written := ⟨.group index body.draft, body.depth + 1⟩
              readParts fuel level flags ((← readRepetition fuel flags group) :: parts)
      | some '[' =>
          skip 1
          let (set, depth) ← readClass fuel 1 flags
          let part : Written := ⟨.ofSet set, depth⟩
          readParts fuel level flags ((← readRepetition fuel flags part) :: parts)
      | some c =>
          skip 1
          let draft ←
            match c with
            | '.' => dotDraft? flags
            | '^' => pure (.edge (startEdge flags))
            | '$' => pure (.edge (endEdge flags))
            | '\\' => pure (atomDraft flags (← readEscape flags))
            | '*' => failure
            | '+' => failure
            | '?' => failure
            | '\x7b' => failure
            | _ => pure (charDraft flags c)
          readParts fuel level flags ((← readRepetition fuel flags ⟨draft, 0⟩) :: parts)

end

def Matcher.read? (text : String) : Option Matcher := do
  let letters := text.toList
  let (written, reading) ← (readChoice (4 * letters.length + 4) 0 {} []).run { rest := letters }
  if !reading.rest.isEmpty || maximumDepth < written.depth then none
  else if maximumWeight < written.draft.weight then none
  else some ⟨written.draft.pattern, reading.names⟩

end Compliance
