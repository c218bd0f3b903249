import Compliance.Decimal.Shortest

/-!
# Number text

Three ways to write a double: in full without an exponent, as a JSON number with
a fraction or an exponent, and with a fixed number of places.
-/

namespace Compliance

def zeros (count : Nat) : List Char := List.replicate count '0'

def Decimal.halves (decimal : Decimal) : List Char × List Char :=
  let all := digits decimal.coefficient
  if 0 ≤ decimal.exponent then (all ++ zeros decimal.exponent.toNat, [])
  else
    let places := (-decimal.exponent).toNat
    if places < all.length then (all.take (all.length - places), all.drop (all.length - places))
    else (['0'], zeros (places - all.length) ++ all)

def withSign (negative : Bool) (body : List Char) : String :=
  String.ofList (if negative then '-' :: body else body)

/-- Shortest digits, no exponent, no fraction for integers.  Of two equally near texts it is the one
farther from zero. -/
def plainNumber (value : Float) : String :=
  match Binary.ofFloat value with
  | .nan => "NaN"
  | .infinite negative => withSign negative "inf".toList
  | .finite negative mantissa exponent =>
      let (whole, fraction) :=
        if mantissa = 0 then (['0'], []) else (shortest .up mantissa exponent).halves
      withSign negative (if fraction.isEmpty then whole else whole ++ '.' :: fraction)

/-- Positional from 1e-5 up to 1e16 with at least one place, otherwise one digit before the point
and an exponent without plus sign.  Of two equally near texts it is the even one.  There is no text
for a number that is not finite. -/
def jsonNumber? (value : Float) : Option String :=
  match Binary.ofFloat value with
  | .nan => none
  | .infinite _ => none
  | .finite negative mantissa exponent =>
      if mantissa = 0 then some (withSign negative "0.0".toList)
      else
        let decimal := shortest .toEven mantissa exponent
        let all := digits decimal.coefficient
        let point : Int := all.length + decimal.exponent
        if -5 < point && point ≤ 16 then
          let (whole, fraction) := decimal.halves
          some (withSign negative (whole ++ '.' :: if fraction.isEmpty then ['0'] else fraction))
        else
          let tail := if all.length = 1 then [] else '.' :: all.drop 1
          some (withSign negative (all.take 1 ++ tail ++ 'e' :: (toString (point - 1)).toList))

def roundHalfEven (num den : Nat) : Nat :=
  let floor := num / den
  let rest := 2 * (num % den)
  if rest < den then floor
  else if den < rest then floor + 1
  else if Tie.toEven.goesUp floor then floor + 1 else floor

/-- Rounded from the exact value to the given number of places, which is positive. -/
def fixedNumber (places : Nat) (value : Float) : String :=
  match Binary.ofFloat value with
  | .nan => "NaN"
  | .infinite negative => withSign negative "inf".toList
  | .finite negative mantissa exponent =>
      let ratio := Ratio.scaled (mantissa * Nat.pow 10 places) 2 exponent
      let (whole, fraction) :=
        (⟨roundHalfEven ratio.num ratio.den, -places⟩ : Decimal).halves
      withSign negative (whole ++ '.' :: fraction)

end Compliance
