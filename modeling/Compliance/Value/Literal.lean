import Compliance.Value.Decode
import Compliance.Value.Toml.Lexeme

/-!
# Literals

The value that a short text stands for, as in an environment variable: a truth
value, a number, a quoted text, a list, a table, or else the text itself.
-/

namespace Compliance.Literal

def isGap (c : Char) : Bool := List.contains [' ', '\t', '\n', '\r', '\x0c'] c

def skipGaps (text : Text) : Text := text.dropWhile isGap

def isSeparator (c : Char) : Bool := List.contains [',', '\x7b', '\x7d', '[', ']'] c

def integer? (word : Text) : Option Int :=
  let (negative, body) := splitSign word
  let value := digitsValue body
  if body.isEmpty || !body.all Char.isDigit then none
  else if negative then if value ≤ Nat.pow 2 63 then some (-(value : Int)) else none
  else if value < Nat.pow 2 64 then some value else none

/-- A bare word is a number if it can be read as one; a float needs a point. -/
def wordValue (word : Text) : Value :=
  let float? := if List.contains word '.' then readFloat? word else none
  match float?, integer? word with
  | some value, _ => .float value
  | none, some value => .int value
  | none, none => .text (String.ofList word)

inductive Flaw where
  | malformed
  | cutCharacter
  deriving DecidableEq, Repr

def orMalformed {α : Type} : Option α → Except Flaw α
  | some value => .ok value
  | none => .error .malformed

def splitQuoted? : Text → Option (Text × Text)
  | [] => none
  | '\x22' :: rest => some ([], rest)
  | '\\' :: c :: rest =>
      (splitQuoted? rest).map fun (body, rest) => ('\\' :: c :: body, rest)
  | c :: rest => (splitQuoted? rest).map fun (body, rest) => (c :: body, rest)

def unescape? : Nat → Text → Option Text
  | _, [] => some []
  | 0, _ => none
  | fuel + 1, '\\' :: rest => do
      let (c, rest) ← Toml.readEscape? .first rest
      return c :: (← unescape? fuel rest)
  | fuel + 1, c :: rest =>
      if Toml.isPlain c then (unescape? fuel rest).map (c :: ·) else none

def firstBytes? : Nat → Text → Option Text
  | 0, _ => some []
  | _ + 1, [] => none
  | count + 1, c :: rest =>
      if c.utf8Size ≤ count + 1 then
        (firstBytes? (count + 1 - c.utf8Size) rest).map (c :: ·)
      else none

/-- What the body of a quoted text stands for.  Of the text before the first escape only as many
bytes count as it has characters. -/
def unquote (body : Text) : Except Flaw Text := do
  let start := body.takeWhile (· ≠ '\\')
  if !start.all Toml.isPlain then throw .malformed
  match body.drop start.length with
  | [] => return start
  | rest =>
      let some kept := firstBytes? start.length start | throw .cutCharacter
      return kept ++ (← orMalformed (unescape? rest.length rest))

def readQuoted (text : Text) : Except Flaw (Text × Text) := do
  let (body, rest) ← orMalformed (splitQuoted? text)
  return (← unquote body, rest)

def readKey (text : Text) : Except Flaw (String × Text) := do
  let (key, rest) ←
    match text with
    | '\x22' :: rest => readQuoted rest
    | _ =>
        let bare := text.takeWhile Toml.isKeyChar
        if bare.isEmpty then .error .malformed else .ok (bare, text.drop bare.length)
  return (String.ofList key, rest)

def readWord (text : Text) : Value × Text :=
  let word := text.takeWhile (!isSeparator ·)
  (wordValue (Text.trim word), text.drop word.length)

mutual

def readValue : Nat → Text → Except Flaw (Value × Text)
  | 0, _ => throw .malformed
  | fuel + 1, text => do
      let (value, rest) ←
        match skipGaps text with
        | 't' :: 'r' :: 'u' :: 'e' :: rest => .ok (.bool true, rest)
        | 'f' :: 'a' :: 'l' :: 's' :: 'e' :: rest => .ok (.bool false, rest)
        | '\x7b' :: rest =>
            (readEntries fuel rest).map fun (entries, rest) =>
              (.table (Value.sortEntries entries), rest)
        | '[' :: rest => (readItems fuel rest).map fun (items, rest) => (.list items, rest)
        | '\x22' :: rest =>
            (readQuoted rest).map fun (value, rest) => (.text (String.ofList value), rest)
        | '\'' :: c :: '\'' :: rest => .ok (.text (String.ofList [c]), rest)
        | '\'' :: _ => .error .malformed
        | rest => .ok (readWord rest)
      return (value, skipGaps rest)

def readItems : Nat → Text → Except Flaw (List Value × Text)
  | 0, _ => throw .malformed
  | _ + 1, ']' :: rest => return ([], rest)
  | fuel + 1, text => do
      let (item, rest) ← readValue fuel text
      match rest with
      | ',' :: rest =>
          let (items, rest) ← readItems fuel rest
          return (item :: items, rest)
      | ']' :: rest => return ([item], rest)
      | _ => throw .malformed

def readEntries : Nat → Text → Except Flaw (List (String × Value) × Text)
  | 0, _ => throw .malformed
  | _ + 1, '\x7d' :: rest => return ([], rest)
  | fuel + 1, text => do
      let (key, rest) ← readKey (skipGaps text)
      let '=' :: rest := skipGaps rest | throw .malformed
      let (value, rest) ← readValue fuel rest
      match rest with
      | ',' :: rest =>
          let (entries, rest) ← readEntries fuel rest
          return ((key, value) :: entries, rest)
      | '\x7d' :: rest => return ([(key, value)], rest)
      | _ => throw .malformed

end

end Compliance.Literal

namespace Compliance

/-- The value of a text; a text that is no literal as a whole stands for itself.  A text whose
cut falls inside a character has none. -/
def Value.ofLiteral? (text : String) : Option Value :=
  match Literal.readValue (2 * text.length + 2) text.toList with
  | .ok (value, []) => some value
  | .error .cutCharacter => none
  | _ => some (.text text)

end Compliance
