import Compliance.Decimal.Reading
import Compliance.Value.Basic

/-!
# Lexemes of TOML

Blanks and comments, quoted texts, numbers, dates and keys.  A reader takes what
it reads off the front of a text and gives the rest.
-/

namespace Compliance.Toml

/-- The rules in which the editions of the format differ. -/
structure Edition where
  wideBraces : Bool
  shortEscapes : Bool
  keepsReturns : Bool
  shortTimes : Bool
  smallest : Int
  bound : Int
  refusesBelow : Bool
  /-- The most brackets open at once and the most parts of a key. -/
  maximumNesting : Nat
  deriving DecidableEq, Repr

namespace Edition

def first : Edition where
  wideBraces := false
  shortEscapes := false
  keepsReturns := false
  shortTimes := false
  smallest := -(Nat.pow 2 63 : Nat)
  bound := (Nat.pow 2 63 : Nat)
  refusesBelow := false
  maximumNesting := 79

def second : Edition where
  wideBraces := true
  shortEscapes := true
  keepsReturns := true
  shortTimes := true
  smallest := -(Nat.pow 2 127 : Nat)
  bound := (Nat.pow 2 128 : Nat)
  refusesBelow := true
  maximumNesting := 80

end Edition

variable (edition : Edition)

def isSpace (c : Char) : Bool := c = ' ' || c = '\t'

def skipSpaces (text : Text) : Text := text.dropWhile isSpace

def newline? : Text → Option Text
  | '\n' :: rest => some rest
  | '\r' :: '\n' :: rest => some rest
  | _ => none

def isPlain (c : Char) : Bool := c = '\t' || (0x20 ≤ c.toNat && c.toNat ≠ 0x7F)

def skipComment : Text → Text
  | '#' :: rest => rest.dropWhile isPlain
  | text => text

def lineEnd? (text : Text) : Option Text :=
  match skipComment (skipSpaces text) with
  | [] => some []
  | rest => newline? rest

def skipGaps : Nat → Text → Text
  | 0, text => text
  | fuel + 1, text =>
      let rest := skipComment (skipSpaces text)
      match newline? rest with
      | some rest => skipGaps fuel rest
      | none => rest

def skipInBraces (text : Text) : Text :=
  if edition.wideBraces then skipGaps text.length text else skipSpaces text

def hexDigitValue? (c : Char) : Option Nat :=
  if c.isDigit then some (c.toNat - '0'.toNat)
  else if 'a' ≤ c && c ≤ 'f' then some (c.toNat - 'a'.toNat + 10)
  else if 'A' ≤ c && c ≤ 'F' then some (c.toNat - 'A'.toNat + 10)
  else none

def readCodePoint? (width : Nat) (text : Text) : Option (Char × Text) := do
  let digits ← (text.take width).mapM hexDigitValue?
  if digits.length < width then none
  else
    let code := digits.foldl (fun value digit => 16 * value + digit) 0
    if code.isValidChar then some (Char.ofNat code, text.drop width) else none

def readEscape? : Text → Option (Char × Text)
  | 'b' :: rest => some ('\x08', rest)
  | 't' :: rest => some ('\t', rest)
  | 'n' :: rest => some ('\n', rest)
  | 'f' :: rest => some ('\x0c', rest)
  | 'r' :: rest => some ('\r', rest)
  | '\x22' :: rest => some ('\x22', rest)
  | '\\' :: rest => some ('\\', rest)
  | 'u' :: rest => readCodePoint? 4 rest
  | 'U' :: rest => readCodePoint? 8 rest
  | 'e' :: rest => if edition.shortEscapes then some ('\x1b', rest) else none
  | 'x' :: rest => if edition.shortEscapes then readCodePoint? 2 rest else none
  | _ => none

def readBasic? : Nat → Text → Option (Text × Text)
  | 0, _ => none
  | _ + 1, [] => none
  | _ + 1, '\x22' :: rest => some ([], rest)
  | fuel + 1, '\\' :: rest => do
      let (c, rest) ← readEscape? edition rest
      let (others, rest) ← readBasic? fuel rest
      return (c :: others, rest)
  | fuel + 1, c :: rest => do
      if !isPlain c then none
      else
        let (others, rest) ← readBasic? fuel rest
        return (c :: others, rest)

def readLiteral? (text : Text) : Option (Text × Text) :=
  let body := text.takeWhile fun c => isPlain c && c ≠ '\''
  match text.drop body.length with
  | '\'' :: rest => some (body, rest)
  | _ => none

/-- Three quotes close a text over several lines; one or two before them belong to it. -/
def closing? (quote : Char) (text : Text) : Option (Text × Text) :=
  let quotes := (text.take 5).takeWhile (· = quote)
  if quotes.length < 3 then none else some (quotes.drop 3, text.drop quotes.length)

def lineBreak (c : Char) : Text :=
  if edition.keepsReturns && c = '\r' then ['\r', '\n'] else ['\n']

/-- The rest of a text in three double quotes.  A backslash before a newline takes all blanks and
newlines away. -/
def readLongBasic? : Nat → Text → Option (Text × Text)
  | 0, _ => none
  | fuel + 1, text =>
      match closing? '\x22' text with
      | some closed => some closed
      | none =>
          let goOn (read rest : Text) : Option (Text × Text) :=
            (readLongBasic? fuel rest).map fun (others, rest) => (read ++ others, rest)
          match text with
          | [] => none
          | '\\' :: rest =>
              if (newline? (skipSpaces rest)).isSome then
                readLongBasic? fuel (rest.dropWhile fun c => isSpace c || c = '\n' || c = '\r')
              else (readEscape? edition rest).bind fun (c, rest) => goOn [c] rest
          | c :: rest =>
              match newline? text with
              | some rest => goOn (lineBreak edition c) rest
              | none => if isPlain c then goOn [c] rest else none

def readLongLiteral? : Nat → Text → Option (Text × Text)
  | 0, _ => none
  | fuel + 1, text =>
      match closing? '\'' text with
      | some closed => some closed
      | none =>
          let goOn (read rest : Text) : Option (Text × Text) :=
            (readLongLiteral? fuel rest).map fun (others, rest) => (read ++ others, rest)
          match text with
          | [] => none
          | c :: rest =>
              match newline? text with
              | some rest => goOn (lineBreak edition c) rest
              | none => if isPlain c then goOn [c] rest else none

/-- A newline right after the opening quotes does not count. -/
def dropFirstNewline (text : Text) : Text := (newline? text).getD text

def readText? (text : Text) : Option (Text × Text) :=
  let fuel := text.length + 1
  match text with
  | '\x22' :: '\x22' :: '\x22' :: rest => readLongBasic? edition fuel (dropFirstNewline rest)
  | '\x22' :: rest => readBasic? edition fuel rest
  | '\'' :: '\'' :: '\'' :: rest => readLongLiteral? edition fuel (dropFirstNewline rest)
  | '\'' :: rest => readLiteral? rest
  | _ => none

/-! ## Keys -/

def isKeyChar (c : Char) : Bool := c.isAlphanum || c = '_' || c = '-'

def readKeyPart? (text : Text) : Option (String × Text) :=
  let quoted :=
    match text with
    | '\x22' :: rest => readBasic? edition (text.length + 1) rest
    | '\'' :: rest => readLiteral? rest
    | _ =>
        let bare := text.takeWhile isKeyChar
        if bare.isEmpty then none else some (bare, text.drop bare.length)
  quoted.map fun (part, rest) => (String.ofList part, rest)

def readParts? : Nat → Text → Option ((List String × String) × Text)
  | 0, _ => none
  | fuel + 1, text => do
      let (part, rest) ← readKeyPart? edition (skipSpaces text)
      match skipSpaces rest with
      | '.' :: rest =>
          let ((parts, last), rest) ← readParts? fuel rest
          return ((part :: parts, last), rest)
      | rest => return (([], part), rest)

def readKey? (text : Text) : Option ((List String × String) × Text) :=
  (readParts? edition (text.length + 1) text).filter fun read =>
    read.1.1.length < edition.maximumNesting

def plainDigits? (isDigit : Char → Bool) : Text → Option Text
  | [] => none
  | [c] => if isDigit c then some [c] else none
  | c :: '_' :: rest =>
      if isDigit c then (plainDigits? isDigit rest).map (c :: ·) else none
  | c :: rest => if isDigit c then (plainDigits? isDigit rest).map (c :: ·) else none

def wholeDigits? (text : Text) : Option Text :=
  (plainDigits? Char.isDigit text).filter fun digits =>
    digits.length = 1 || digits.head? ≠ some '0'

def wholeValue? (value : Int) : Option Value :=
  if edition.smallest ≤ value && value < edition.bound then some (.int value) else none

def basedValue? (base : Nat) (text : Text) : Option Value := do
  let isDigit (c : Char) : Bool := (hexDigitValue? c).any (· < base)
  let digits ← plainDigits? isDigit text
  let value := digits.foldl (fun value c => base * value + (hexDigitValue? c).getD 0) 0
  wholeValue? edition value

def integer? (text : Text) : Option Value :=
  match text with
  | '0' :: 'x' :: rest => basedValue? edition 16 rest
  | '0' :: 'o' :: rest => basedValue? edition 8 rest
  | '0' :: 'b' :: rest => basedValue? edition 2 rest
  | _ =>
      let (negative, body) := splitSign text
      (wholeDigits? body).bind fun digits =>
        wholeValue? edition (if negative then -(digitsValue digits : Int) else digitsValue digits)

def exponent? (text : Text) : Option Int :=
  match text with
  | [] => some 0
  | _ :: rest =>
      let (negative, body) := splitSign rest
      (plainDigits? Char.isDigit body).map fun digits =>
        if negative then -(digitsValue digits : Int) else digitsValue digits

def decimal? (text : Text) : Option Decimal := do
  let isMark (c : Char) : Bool := c = 'e' || c = 'E'
  let mantissa := text.takeWhile (!isMark ·)
  let whole := mantissa.takeWhile (· ≠ '.')
  if whole.length = text.length then none
  else
    let wholePart ← wholeDigits? whole
    let fraction ←
      if whole.length = mantissa.length then some []
      else plainDigits? Char.isDigit (mantissa.drop (whole.length + 1))
    let exponent ← exponent? (text.drop mantissa.length)
    return ⟨digitsValue (wholePart ++ fraction), exponent - fraction.length⟩

/-- A number too large for a double is refused, unless it is negative and the edition lets it be. -/
def float? (text : Text) : Option Value :=
  let (negative, body) := splitSign text
  let signed (value : Float) : Value := .float (if negative then -value else value)
  if body = "inf".toList || body = "nan".toList then (readSpecial? body).map signed
  else (decimal? body).bind fun decimal =>
    let value := decimal.toFloat
    if value.isInf && (edition.refusesBelow || !negative) then none else some (signed value)

def readPair? (largest : Nat) : Text → Option (Nat × Text)
  | a :: b :: rest =>
      if a.isDigit && b.isDigit && digitsValue [a, b] ≤ largest then
        some (digitsValue [a, b], rest)
      else none
  | _ => none

def isLeapYear (year : Nat) : Bool := year % 4 = 0 && (year % 100 ≠ 0 || year % 400 = 0)

def daysIn (year month : Nat) : Nat :=
  if month = 2 then if isLeapYear year then 29 else 28
  else if [4, 6, 9, 11].contains month then 30
  else 31

def skipDate? (text : Text) : Option Text := do
  let year := text.take 4
  if year.length < 4 || !year.all Char.isDigit then none
  else
    let '-' :: rest := text.drop 4 | none
    let (month, rest) ← readPair? 12 rest
    let '-' :: rest := rest | none
    let (day, rest) ← readPair? 31 rest
    if 1 ≤ month && 1 ≤ day && day ≤ daysIn (digitsValue year) month then some rest else none

def skipSeconds? (text : Text) : Option Text := do
  let (_, rest) ← readPair? 60 text
  match rest with
  | '.' :: rest =>
      let digits := rest.takeWhile Char.isDigit
      if digits.isEmpty then none else some (rest.drop digits.length)
  | _ => some rest

def skipTime? (text : Text) : Option Text := do
  let (_, rest) ← readPair? 23 text
  let ':' :: rest := rest | none
  let (_, rest) ← readPair? 59 rest
  match rest with
  | ':' :: rest => skipSeconds? rest
  | _ => if edition.shortTimes then some rest else none

def skipOffset? : Text → Option Text
  | [] => some []
  | sign :: rest =>
      if sign = 'Z' || sign = 'z' then some rest
      else if sign = '+' || sign = '-' then do
        let (_, rest) ← readPair? 23 rest
        let ':' :: rest := rest | none
        let (_, rest) ← readPair? 59 rest
        some rest
      else none

def isDateTime (text : Text) : Bool :=
  match skipDate? text with
  | some [] => true
  | some (mark :: rest) =>
      (mark = 'T' || mark = 't' || mark = ' ') &&
        ((skipTime? edition rest).bind skipOffset?) == some []
  | none => skipTime? edition text == some []

/-- Dates are kept as a table with the text under a key of its own. -/
def dateTime? (text : Text) : Option Value :=
  if isDateTime edition text then
    some (.table [("$__toml_private_datetime", .text (String.ofList text))])
  else none

def isBareChar (c : Char) : Bool := c.isAlphanum || List.contains ['+', '-', '.', '_', ':'] c

/-- The characters of a value without quotes.  A space may stand between a date and a time. -/
def readBare (text : Text) : Text × Text :=
  let bare := text.takeWhile isBareChar
  let rest := text.drop bare.length
  if skipDate? bare == some [] then
    match rest with
    | ' ' :: a :: b :: ':' :: _ =>
        if a.isDigit && b.isDigit then
          let time := (rest.drop 1).takeWhile isBareChar
          (bare ++ ' ' :: time, rest.drop (time.length + 1))
        else (bare, rest)
    | _ => (bare, rest)
  else (bare, rest)

def bareValue? (bare : Text) : Option Value :=
  if bare = "true".toList then some (.bool true)
  else if bare = "false".toList then some (.bool false)
  else ((integer? edition bare).or (float? edition bare)).or (dateTime? edition bare)

end Compliance.Toml
