import Compliance.Count
import Compliance.Pattern.Draft
import Compliance.Text.Utf8

/-!
# Weight of a pattern

A pattern must not be too large.  Its weight is the room that two machines over bytes
take up, one that reads forward and knows the groups and one that reads
backward and does not.  Counted repetitions are written out in them, and a set of
characters beyond ASCII is a machine of its own over the bytes of its members.
-/

namespace Compliance

abbrev ByteRanges := List (Nat × Nat)

/-- Splits the numbers from `low` to `high` with so many digits of six bits behind the first one
into products of ranges, in rising order. -/
def digitRanges : Nat → Nat → Nat → List ByteRanges
  | 0, low, high => [[(low, high)]]
  | count + 1, low, high =>
      let unit := Nat.pow 64 (count + 1)
      let first := low / unit
      let last := high / unit
      let tails (lead low high : Nat) : List ByteRanges :=
        (digitRanges count low high).map fun tail => (lead, lead) :: tail
      if first = last then tails first (low % unit) (high % unit)
      else
        let startsWhole := low % unit = 0
        let endsWhole := high % unit = unit - 1
        let wholeFirst := if startsWhole then first else first + 1
        let wholeEnd := if endsWhole then last + 1 else last
        (if startsWhole then [] else tails first (low % unit) (unit - 1)) ++
          (if wholeFirst < wholeEnd then
            [(wholeFirst, wholeEnd - 1) :: List.replicate (count + 1) (0, 63)]
          else []) ++
          (if endsWhole then [] else tails last 0 (high % unit))

def byteLengths : List (Nat × Nat × Nat × Nat) :=
  [(0, 0x7F, 0, 0), (0x80, 0x7FF, 1, 0xC0), (0x800, 0xD7FF, 2, 0xE0), (0xE000, 0xFFFF, 2, 0xE0),
    (0x10000, 0x10FFFF, 3, 0xF0)]

def byteRanges (range : Nat × Nat) : List ByteRanges :=
  byteLengths.flatMap fun (least, most, count, mark) =>
    let low := max range.1 least
    let high := min range.2 most
    if low ≤ high then
      (digitRanges count low high).map fun digits =>
        (digits.take 1).map (fun digit => (digit.1 + mark, digit.2 + mark)) ++
          (digits.drop 1).map (fun digit => (digit.1 + 0x80, digit.2 + 0x80))
    else []

def groupByHead (sequences : List ByteRanges) : List ((Nat × Nat) × List ByteRanges) :=
  sequences.foldr (fun ranges groups =>
    match ranges, groups with
    | [], _ => groups
    | head :: tail, (first, tails) :: others =>
        if first = head then (head, tail :: tails) :: others
        else (head, [tail]) :: (first, tails) :: others
    | head :: tail, [] => [(head, [tail])]) []

def stateWeight : Nat := 32

def arrowWeight : Nat := 8

def branchWeight : Nat := 4

/-- States of a machine that have been made so far: for each one its arrows with the numbers
of their targets. -/
abbrev ByteStates := List (List ((Nat × Nat) × Nat))

/-- The number of the state that reads one of the sequences and then ends.  A state that was
made before is taken again; number zero is the end. -/
def byteState : Nat → List ByteRanges → ByteStates → Nat × ByteStates
  | 0, _, states => (0, states)
  | fuel + 1, sequences, states =>
      if sequences.all List.isEmpty then (0, states)
      else
        let (arrows, states) := (groupByHead sequences).foldl
          (fun (arrows, states) (head, tails) =>
            let (target, states) := byteState fuel tails states
            ((head, target) :: arrows, states))
          ([], states)
        match states.idxOf? arrows with
        | some before => (states.length - before, states)
        | none => (states.length + 1, arrows :: states)

def beginnings : Nat → List ByteRanges → Nat
  | 0, _ => 0
  | fuel + 1, sequences =>
      sumOf ((groupByHead sequences).map fun (_, tails) => 1 + beginnings fuel tails)

def asciiWeight (set : CodeSet) : Nat := 2 * stateWeight + arrowWeight * set.length

def forwardWeight (set : CodeSet) : Nat :=
  if set.isAscii then asciiWeight set
  else
    let (_, states) := byteState 5 (set.flatMap byteRanges) []
    stateWeight + sumOf (states.map fun arrows => stateWeight + arrowWeight * arrows.length)

def backwardWeight (set : CodeSet) : Nat :=
  if set.isAscii then asciiWeight set
  else
    let sequences := set.flatMap byteRanges
    stateWeight * (2 + beginnings 5 sequences) + branchWeight * sequences.length

/-! ## Weight of a choice between texts -/

/-- Texts between empty ones, which close a section.  Several empty texts at the start are one. -/
def sectionsOf (texts : List (List UInt8)) : List (List (List UInt8)) :=
  let later := texts.dropWhile List.isEmpty
  let sections := later.foldr (fun text sections =>
    match text, sections with
    | [], _ => [] :: sections
    | _, current :: others => (text :: current) :: others
    | _, [] => [[text]]) [[]]
  if later.length < texts.length then [] :: sections else sections

def tailsByByte (texts : List (List UInt8)) : List (UInt8 × List (List UInt8)) :=
  (texts.filterMap List.head?).eraseDups.map fun byte =>
    (byte, texts.filterMap fun text => if text.head? = some byte then some (text.drop 1) else none)

/-- The weight of a tree of texts.  Texts that start alike share their start as long as none of
those before them has ended there. -/
def treeWeight : Nat → List (List UInt8) → Nat
  | 0, _ => 0
  | fuel + 1, texts =>
      let sections := (sectionsOf texts).map tailsByByte
      let filled := sections.filter fun arrows => !arrows.isEmpty
      let arrowsWeight (count : Nat) : Nat :=
        stateWeight + if count = 1 then 0 else arrowWeight * count
      stateWeight + branchWeight * (filled.length + sections.length - 1) +
        sumOf (filled.map fun arrows => arrowsWeight arrows.length) +
        sumOf (filled.flatten.map fun (_, tails) =>
          if tails.all List.isEmpty then 0 else treeWeight fuel tails)

def textsWeight (texts : List (List UInt8)) : Nat :=
  stateWeight + treeWeight (sumOf (texts.map List.length) + 1) texts

structure Measure where
  apart : Nat
  asBranches : Nat
  texts : List (List UInt8) := []
  deriving DecidableEq, Repr

def Measure.ofWeight (weight : Nat) : Measure := ⟨weight, weight + branchWeight, []⟩

/-- The weight by itself: a choice between texts shares their starts. -/
def Measure.alone (measure : Measure) : Nat :=
  if measure.texts.length ≤ 1 then measure.apart else textsWeight measure.texts

def repeatedWeight (low : Nat) (high : Option Nat) (nullable : Bool) (weight : Nat) : Nat :=
  let fork := stateWeight + 2 * branchWeight
  match high with
  | none =>
      if low = 0 && nullable then weight + 2 * fork + stateWeight else max low 1 * weight + fork
  | some high =>
      if low = 0 && high = 1 then weight + fork + stateWeight
      else
        (if low = 0 then stateWeight else low * weight) +
          if low = high then 0 else stateWeight + (high - low) * (fork + weight)

def Draft.measure (backward : Bool) : Draft → Measure
  | .empty => .ofWeight stateWeight
  | .literal text =>
      let bytes := encodeUtf8 text
      let weight := stateWeight * bytes.length
      ⟨weight, weight + branchWeight, [if backward then bytes.reverse else bytes]⟩
  | .chars set => .ofWeight (if backward then backwardWeight set else forwardWeight set)
  | .edge _ => .ofWeight stateWeight
  | .repeated low high _ body =>
      .ofWeight (repeatedWeight low high body.nullable (body.measure backward).alone)
  | .group _ body =>
      .ofWeight ((body.measure backward).alone + if backward then 0 else 2 * stateWeight)
  | .seq first second =>
      .ofWeight ((first.measure backward).alone + (second.measure backward).alone)
  | .choice first second =>
      let one := first.measure backward
      let other := second.measure backward
      let inside := one.asBranches + other.asBranches
      let texts :=
        if one.texts.isEmpty || other.texts.isEmpty then [] else one.texts ++ other.texts
      ⟨2 * stateWeight + inside, inside, texts⟩

/-- The search for a start takes three states, an arrow and two branches. -/
def searchWeight : Nat := 3 * stateWeight + arrowWeight + 2 * branchWeight

def Draft.weight (draft : Draft) : Nat :=
  max (searchWeight + (draft.measure false).alone + 3 * stateWeight)
    (searchWeight + (draft.measure true).alone + stateWeight)

def maximumWeight : Nat := 10 * 1024 * 1024

end Compliance
