/-!
# Shortest decimals

A binary floating-point number stands for an interval of reals that round to it.
`shortest` finds the fewest decimal digits inside that interval, and of those
the digits nearest to the number itself, by exact integer arithmetic.  Where two
of them are equally near, the format that is written decides.
-/

namespace Compliance

/-- A double taken apart: `mantissa · 2 ^ exponent`, or one of the special values. -/
inductive Binary where
  | nan
  | infinite (negative : Bool)
  | finite (negative : Bool) (mantissa : Nat) (exponent : Int)
  deriving DecidableEq, Repr

def Binary.ofBits (bits : Nat) : Binary :=
  let negative : Bool := Nat.pow 2 63 ≤ bits
  let biased : Nat := bits / Nat.pow 2 52 % Nat.pow 2 11
  let fraction : Nat := bits % Nat.pow 2 52
  if biased = 2047 then if fraction = 0 then .infinite negative else .nan
  else if biased = 0 then .finite negative fraction (-1074)
  else .finite negative (Nat.pow 2 52 + fraction) (biased - 1075)

def Binary.ofFloat (value : Float) : Binary := Binary.ofBits value.toBits.toNat

structure Decimal where
  coefficient : Nat
  exponent : Int
  deriving DecidableEq, Repr

def digits (n : Nat) : List Char := Nat.toDigits 10 n

structure Ratio where
  num : Nat
  den : Nat
  deriving DecidableEq, Repr

namespace Ratio

def scaled (n base : Nat) (exponent : Int) : Ratio :=
  if 0 ≤ exponent then ⟨n * base.pow exponent.toNat, 1⟩ else ⟨n, base.pow (-exponent).toNat⟩

def le (a b : Ratio) : Bool := a.num * b.den ≤ b.num * a.den

def lt (a b : Ratio) : Bool := a.num * b.den < b.num * a.den

/-- The exponent `k` with `10 ^ (k - 1) ≤ ratio < 10 ^ k`, for a positive ratio. -/
def decimalPlace (ratio : Ratio) : Int :=
  if ratio.den ≤ ratio.num then (digits (ratio.num / ratio.den)).length
  else
    let count := (digits (ratio.den / ratio.num)).length
    if ratio.den ≤ ratio.num * Nat.pow 10 (count - 1) then 2 - count else 1 - count

def floorAt (ratio : Ratio) (exponent : Int) : Nat :=
  if 0 ≤ exponent then ratio.num / (ratio.den * Nat.pow 10 exponent.toNat)
  else ratio.num * Nat.pow 10 (-exponent).toNat / ratio.den

end Ratio

inductive Tie where
  | toEven
  | up
  deriving DecidableEq, Repr

def Tie.goesUp : Tie → Nat → Bool
  | toEven, floor => floor % 2 = 1
  | up, _ => true

/-- The reals that round to `mantissa · 2 ^ exponent`. -/
structure Rounding where
  value : Ratio
  low : Ratio
  high : Ratio
  closed : Bool
  deriving DecidableEq, Repr

namespace Rounding

/-- The gap below a power of two is half the gap above it. -/
def of (mantissa : Nat) (exponent : Int) : Rounding :=
  let below := if mantissa = Nat.pow 2 52 && -1074 < exponent then 1 else 2
  { value := .scaled (4 * mantissa) 2 (exponent - 2)
    low := .scaled (4 * mantissa - below) 2 (exponent - 2)
    high := .scaled (4 * mantissa + 2) 2 (exponent - 2)
    closed := mantissa % 2 = 0 }

def holds (interval : Rounding) (point : Ratio) : Bool :=
  if interval.closed then interval.low.le point && point.le interval.high
  else interval.low.lt point && point.lt interval.high

def onGrid? (interval : Rounding) (tie : Tie) (exponent : Int) : Option Nat :=
  let floor := interval.value.floorAt exponent
  let lower := interval.holds (.scaled floor 10 exponent)
  let upper := interval.holds (.scaled (floor + 1) 10 exponent)
  let middle : Ratio := .scaled (10 * floor + 5) 10 (exponent - 1)
  if lower && upper then
    if interval.value.lt middle then some floor
    else if middle.lt interval.value then some (floor + 1)
    else if tie.goesUp floor then some (floor + 1) else some floor
  else if lower then some floor
  else if upper then some (floor + 1)
  else none

end Rounding

def Decimal.trimZeros : Nat → Decimal → Decimal
  | 0, decimal => decimal
  | fuel + 1, decimal =>
      if decimal.coefficient % 10 = 0 && decimal.coefficient ≠ 0 then
        trimZeros fuel ⟨decimal.coefficient / 10, decimal.exponent + 1⟩
      else decimal

/-- The shortest decimal that reads back as the positive number `mantissa · 2 ^ exponent`. -/
def shortest (tie : Tie) (mantissa : Nat) (exponent : Int) : Decimal :=
  let interval := Rounding.of mantissa exponent
  let place := interval.value.decimalPlace
  let found := ((List.range 17).map (· + 1)).findSome? fun (count : Nat) =>
    (interval.onGrid? tie (place - count)).map fun coefficient =>
      (⟨coefficient, place - count⟩ : Decimal)
  match found with
  | some decimal => decimal.trimZeros 18
  | none => ⟨0, 0⟩

end Compliance
