import Compliance.Decimal.Layout

/-!
# Scalars

The numbers in which scores, weights and thresholds are computed.  No law is
asked of the operations, so that doubles are an instance; what holds only for
exact arithmetic is stated for an exact instance.
-/

namespace Compliance

class Scalar (α : Type) where
  zero : α
  one : α
  add : α → α → α
  sub : α → α → α
  mul : α → α → α
  div : α → α → α
  ofNat : Nat → α
  hundredths : Nat → α
  lt : α → α → Bool
  le : α → α → Bool
  isFinite : α → Bool
  order : α → α → Ordering
  text : α → String

namespace Scalar

variable {α : Type} [Scalar α]

/-- Moves a number into `[0, 1]`; what does not compare with the ends stays. -/
def clampUnit (x : α) : α :=
  if lt x (zero : α) then zero else if lt (one : α) x then one else x

def inUnit (x : α) : Bool := le (zero : α) x && le x one

end Scalar

/-- Place of a double in the order that puts every bit pattern at its own place: negative numbers
by falling magnitude, then positive ones by rising magnitude. -/
def floatPlace (value : Float) : Int :=
  let bits := value.toBits.toNat
  if bits < Nat.pow 2 63 then bits else (Nat.pow 2 63 : Int) - 1 - (bits : Int)

instance : Scalar Float where
  zero := 0
  one := 1
  add := (· + ·)
  sub := (· - ·)
  mul := (· * ·)
  div := (· / ·)
  ofNat := Float.ofNat
  hundredths n := OfScientific.ofScientific n true 2
  lt x y := x < y
  le x y := x ≤ y
  isFinite := Float.isFinite
  order x y := compare (floatPlace x) (floatPlace y)
  text := plainNumber

end Compliance
