import Compliance.Decimal.Shortest
import Compliance.Text.Basic

/-!
# Reading numbers

From decimal text to the nearest double.
-/

namespace Compliance

def digitsValue (digits : Text) : Nat :=
  digits.foldl (fun value c => 10 * value + (c.toNat - '0'.toNat)) 0

/-- The nearest double.  Far beyond the range of doubles the digits play no part. -/
def Decimal.toFloat (decimal : Decimal) : Float :=
  if decimal.coefficient = 0 then 0
  else if 400 < decimal.exponent then 1 / 0
  else if decimal.exponent + (digits decimal.coefficient).length < -400 then 0
  else OfScientific.ofScientific decimal.coefficient (decimal.exponent < 0)
    decimal.exponent.natAbs

def splitSign : Text → Bool × Text
  | '-' :: rest => (true, rest)
  | '+' :: rest => (false, rest)
  | text => (false, text)

def readExponent? (text : Text) : Option Int :=
  let (negative, body) := splitSign text
  if body.isEmpty || !body.all Char.isDigit then none
  else some (if negative then -(digitsValue body : Int) else digitsValue body)

/-- Digits with at most one point and at most one exponent; on one side of the point digits may be
missing. -/
def readDecimal? (text : Text) : Option Decimal :=
  let mantissa := text.takeWhile fun c => c.isDigit || c = '.'
  let whole := mantissa.takeWhile Char.isDigit
  let fraction := (mantissa.drop whole.length).drop 1
  if (whole ++ fraction).isEmpty || !fraction.all Char.isDigit then none
  else
    let scaled (exponent : Int) : Decimal :=
      ⟨digitsValue (whole ++ fraction), exponent - fraction.length⟩
    match text.drop mantissa.length with
    | [] => some (scaled 0)
    | mark :: exponent =>
        if mark = 'e' || mark = 'E' then (readExponent? exponent).map scaled else none

def readSpecial? (text : Text) : Option Float :=
  let word := Text.lower text
  if word = "inf".toList || word = "infinity".toList then some (1 / 0)
  else if word = "nan".toList then some (0 / 0)
  else none

def readFloat? (text : Text) : Option Float :=
  let (negative, body) := splitSign text
  let magnitude := (readSpecial? body).or ((readDecimal? body).map (·.toFloat))
  magnitude.map fun value => if negative then -value else value

end Compliance
