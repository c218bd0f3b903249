import Compliance.Text.Basic

/-!
# Sets of code points

A set of code points is a list of closed ranges, rising and with gaps between
them, so equal sets are equal lists.  The surrogates are no characters; they
count as belonging to their lower neighbour U+D7FF, and then no operation has to
look out for them.
-/

namespace Compliance

abbrev CodeSet := List (Nat × Nat)

namespace CodeSet

def lastCode : Nat := 0x10FFFF

/-- The ranges rise, so the search ends at the first one that starts beyond the code point. -/
def has : CodeSet → Nat → Bool
  | [], _ => false
  | (low, high) :: others, n => low ≤ n && (n ≤ high || has others n)

def joinRanges (low high : Nat) : List (Nat × Nat) → CodeSet
  | [] => [(low, high)]
  | (nextLow, nextHigh) :: others =>
      if nextLow ≤ high + 1 then joinRanges low (max high nextHigh) others
      else (low, high) :: joinRanges nextLow nextHigh others

def ofRising : List (Nat × Nat) → CodeSet
  | [] => []
  | (low, high) :: others => joinRanges low high others

def ofRanges (ranges : List (Nat × Nat)) : CodeSet :=
  ofRising (ranges.mergeSort fun a b => a.1 ≤ b.1)

def ofRange (low high : Nat) : CodeSet :=
  if high < low then [] else [(low, if high = 0xD7FF then 0xDFFF else high)]

def one (n : Nat) : CodeSet := ofRange n n

def union (a b : CodeSet) : CodeSet := ofRising (List.merge a b fun x y => x.1 ≤ y.1)

instance : Union CodeSet := ⟨union⟩

def unions (sets : List CodeSet) : CodeSet := ofRanges sets.flatten

def gapsFrom (start : Nat) : CodeSet → CodeSet
  | [] => if start ≤ lastCode then [(start, lastCode)] else []
  | (low, high) :: others =>
      if start < low then (start, low - 1) :: gapsFrom (high + 1) others
      else gapsFrom (high + 1) others

def compl (set : CodeSet) : CodeSet := gapsFrom 0 set

def inter (a b : CodeSet) : CodeSet := compl (union (compl a) (compl b))

def diff (a b : CodeSet) : CodeSet := inter a (compl b)

instance : SDiff CodeSet := ⟨diff⟩

def symmDiff (a b : CodeSet) : CodeSet := union (diff a b) (diff b a)

def only? : CodeSet → Option Nat
  | [(low, high)] => if low = high || (low = 0xD7FF && high = 0xDFFF) then some low else none
  | _ => none

def isAscii (set : CodeSet) : Bool := set.all fun range => range.2 < 0x80

def decimalOf (digits : Text) : Nat :=
  digits.foldl (fun value c => 10 * value + (c.toNat - '0'.toNat)) 0

/-- Ranges out of the lengths of the stretches outside and inside the set, in turn. -/
def ofStretches (start : Nat) : List Nat → CodeSet
  | gap :: run :: others =>
      (start + gap, start + gap + run - 1) :: ofStretches (start + gap + run) others
  | _ => []

def ofRows (rows : List String) : CodeSet :=
  ofStretches 0 (rows.flatMap fun row => (Text.parts ' ' row.toList).map decimalOf)

end CodeSet

end Compliance
