import Compliance.Pattern.Basic

/-!
# Matching

A text is swept once, from its end to its start.  At every place and for every
part of the pattern the sweep knows the best way in which the part and all that
follows it can go on; a character of a part leads over to what was found one
place further on.  So the work is the length of the text times the size of the
pattern, whatever the pattern is.

The best way is the first in the order of trying: of a choice the first branch, of a
greedy repetition another round.  Within one place no part is entered twice, so
a round that would only repeat another one at the same place does not count.
`find?` takes the leftmost match, `allMatches` goes on behind each match.
-/

namespace Compliance

/-- A place in a text: the characters behind it, nearest first, and those ahead. -/
structure Cursor where
  offset : Nat
  behind : Text
  ahead : Text
  deriving DecidableEq, Repr

namespace Cursor

def start (text : Text) : Cursor := ⟨0, [], text⟩

def upTo (first second : Cursor) : Text := first.ahead.take (second.offset - first.offset)

def placesFrom (found : List Cursor) : Nat → Text → Text → List Cursor
  | offset, behind, [] => ⟨offset, behind, []⟩ :: found
  | offset, behind, c :: ahead =>
      placesFrom (⟨offset, behind, c :: ahead⟩ :: found) (offset + 1) (c :: behind) ahead

def places (text : Text) : List Cursor := placesFrom [] 0 [] text

end Cursor

structure Mark where
  isStart : Bool
  index : Nat
  place : Cursor
  deriving DecidableEq, Repr

structure Outcome where
  stop : Cursor
  marks : List Mark := []
  deriving DecidableEq, Repr

namespace Outcome

def closing (outcome : Outcome) (index : Nat) (place : Cursor) : Outcome :=
  { outcome with marks := ⟨false, index, place⟩ :: outcome.marks }

def opening (outcome : Outcome) (index : Nat) (place : Cursor) : Outcome :=
  { outcome with marks := ⟨true, index, place⟩ :: outcome.marks }

end Outcome

/-- The last stretch of a group on the way, given where the group was last opened and the stretch
found so far. -/
def lastSpan (index : Nat) :
    Option Cursor → Option (Cursor × Cursor) → List Mark → Option (Cursor × Cursor)
  | _, found, [] => found
  | opened, found, mark :: marks =>
      if mark.index ≠ index then lastSpan index opened found marks
      else if mark.isStart then lastSpan index (some mark.place) found marks
      else lastSpan index none (opened.map fun start => (start, mark.place)) marks

abbrev Prospect := Option Outcome

def preferring (greedy : Bool) (again leave : Prospect) : Prospect :=
  if greedy then again.or leave else leave.or again

/-- For every set of characters in a pattern, what follows it at the next place. -/
inductive Cells where
  | dead
  | cell (outcome : Outcome)
  | pair (first second : Cells)
  deriving DecidableEq, Repr

namespace Cells

def ofProspect : Prospect → Cells
  | none => dead
  | some outcome => cell outcome

def prospect : Cells → Prospect
  | cell outcome => some outcome
  | _ => none

def first : Cells → Cells
  | pair first _ => first
  | _ => dead

def second : Cells → Cells
  | pair _ second => second
  | _ => dead

def isDead : Cells → Bool
  | dead => true
  | _ => false

def join (first second : Cells) : Cells :=
  if first.isDead && second.isDead then dead else pair first second

end Cells

/-! ## One place -/

def CharSet.lead (chars : CharSet) (place : Cursor) (cells : Cells) : Prospect :=
  match place.ahead with
  | [] => none
  | c :: _ => if chars.has c then cells.prospect else none

namespace Pattern

/-- The prospect of a pattern at a place, where `rest` is the prospect of what follows it there
and `cells` are those of the next place. -/
def prospect : Pattern → Cursor → Cells → Prospect → Prospect
  | .empty, _, _, rest => rest
  | .never, _, _, _ => none
  | .single chars, place, cells, _ => chars.lead place cells
  | .seq first second, place, cells, rest =>
      let later := second.prospect place cells.second rest
      if cells.first.isDead && later.isNone then none
      else first.prospect place cells.first later
  | .alt first second, place, cells, rest =>
      (first.prospect place cells.first rest).or (second.prospect place cells.second rest)
  | .star greedy body, place, cells, rest =>
      preferring greedy (body.prospect place cells none) rest
  | .plus _ body, place, cells, rest => body.prospect place cells rest
  | .group index body, place, cells, rest =>
      (body.prospect place cells (rest.map (·.closing index place))).map (·.opening index place)
  | .edge condition, place, _, rest =>
      if condition.holds place.behind.head? place.ahead.head? then rest else none

/-- New cells for a part inside a repetition whose body can match nothing.  What follows the part
depends on the set of characters just passed: `rest` is told what entering the part anew
could still find, and says what follows the part. -/
def remember : Pattern → Cursor → Cells → (Prospect → Prospect) → Cells
  | .empty, _, _, _ => .dead
  | .never, _, _, _ => .dead
  | .single chars, place, cells, rest => .ofProspect (rest (chars.lead place cells))
  | .seq first second, place, cells, rest =>
      .join
        (first.remember place cells.first fun anew =>
          second.prospect place cells.second (if second.nullable then rest anew else none))
        (second.remember place cells.second fun anew =>
          rest (first.prospect place cells.first anew))
  | .alt first second, place, cells, rest =>
      .join
        (first.remember place cells.first fun anew =>
          rest (anew.or (second.prospect place cells.second none)))
        (second.remember place cells.second fun anew =>
          rest ((first.prospect place cells.first none).or anew))
  | .star greedy body, place, cells, rest =>
      let again := preferring greedy (body.prospect place cells none) (rest none)
      body.remember place cells fun _ => again
  | .plus greedy body, place, cells, rest =>
      body.remember place cells fun anew =>
        preferring greedy anew (rest (if greedy then none else anew))
  | .group index body, place, cells, rest =>
      body.remember place cells fun anew =>
        (rest (anew.map (·.opening index place))).map (·.closing index place)
  | .edge _, _, _, _ => .dead

def step : Pattern → Cursor → Cells → Prospect → Prospect × Cells
  | .empty, _, _, rest => (rest, .dead)
  | .never, _, _, _ => (none, .dead)
  | .single chars, place, cells, rest => (chars.lead place cells, .ofProspect rest)
  | .seq first second, place, cells, rest =>
      let later := second.step place cells.second rest
      if cells.first.isDead && later.1.isNone then (none, .join .dead later.2)
      else
        let whole := first.step place cells.first later.1
        (whole.1, .join whole.2 later.2)
  | .alt first second, place, cells, rest =>
      let one := first.step place cells.first rest
      let other := second.step place cells.second rest
      (one.1.or other.1, .join one.2 other.2)
  | .star greedy body, place, cells, rest =>
      let whole := preferring greedy (body.prospect place cells none) rest
      (whole, (body.step place cells whole).2)
  | .plus greedy body, place, cells, rest =>
      (body.prospect place cells rest,
        if body.nullable then
          body.remember place cells fun anew => preferring greedy anew rest
        else
          (body.step place cells (preferring greedy (body.prospect place cells none) rest)).2)
  | .group index body, place, cells, rest =>
      let inner := body.step place cells (rest.map (·.closing index place))
      (inner.1.map (·.opening index place), inner.2)
  | .edge condition, place, _, rest =>
      (if condition.holds place.behind.head? place.ahead.head? then rest else none, .dead)

theorem step_fst (pattern : Pattern) (place : Cursor) (cells : Cells) (rest : Prospect) :
    (pattern.step place cells rest).1 = pattern.prospect place cells rest := by
  induction pattern generalizing cells rest with
  | seq first second ihFirst ihSecond =>
      simp only [step, prospect, ihSecond]
      split
      · rfl
      · rw [ihFirst]
  | alt first second ihFirst ihSecond => simp [step, prospect, ihFirst, ihSecond]
  | group index body ih => simp [step, prospect, ih]
  | _ => rfl

end Pattern

structure Match where
  start : Cursor
  stop : Cursor
  marks : List Mark
  deriving DecidableEq, Repr

namespace Match

def before (found : Match) : Text := found.start.behind.reverse

def length (found : Match) : Nat := found.stop.offset - found.start.offset

def text (found : Match) : Text := found.start.upTo found.stop

def after (found : Match) : Text := found.stop.ahead

def group? (found : Match) (index : Nat) : Option Text :=
  if index = 0 then some found.text
  else (lastSpan index none none found.marks).map fun span => span.1.upTo span.2

def group (found : Match) (index : Nat) : Text := (found.group? index).getD []

end Match

namespace Pattern

/-- Sweeps the places, the last one first, and puts the match that starts at each of them in
front of those found so far. -/
def sweep (pattern : Pattern) : Cells → List (Option Match) → List Cursor → List (Option Match)
  | _, found, [] => found
  | cells, found, place :: earlier =>
      let (prospect, cells) := pattern.step place cells (some { stop := place })
      pattern.sweep cells
        (prospect.map (fun outcome => ⟨place, outcome.stop, outcome.marks⟩) :: found) earlier

def matchesByPlace (pattern : Pattern) (text : Text) : List (Option Match) :=
  pattern.sweep .dead [] (Cursor.places text)

def find? (pattern : Pattern) (text : Text) : Option Match :=
  (pattern.matchesByPlace text).findSome? id

def occurs (pattern : Pattern) (text : Text) : Bool := (pattern.find? text).isSome

/-- Takes matches that do not overlap: `skip` more places belong to the last match, and an empty
match that directly follows another one does not count. -/
def apart : Nat → Bool → List (Option Match) → List Match
  | _, _, [] => []
  | skip + 1, behindMatch, _ :: later => apart skip behindMatch later
  | 0, _, none :: later => apart 0 false later
  | 0, behindMatch, some found :: later =>
      match found.length with
      | 0 => if behindMatch then apart 0 false later else found :: apart 0 false later
      | more + 1 => found :: apart more true later

def allMatches (pattern : Pattern) (text : Text) : List Match :=
  apart 0 false (pattern.matchesByPlace text)

end Pattern

/-- Puts `replacement` in place of each match and keeps what lies between. -/
def splice (replacement : Match → Text) : Cursor → List Match → Text
  | place, [] => place.ahead
  | place, found :: others =>
      place.upTo found.start ++ replacement found ++ splice replacement found.stop others

def Pattern.replaceAll (pattern : Pattern) (replacement : Match → Text) (text : Text) : Text :=
  splice replacement (Cursor.start text) (pattern.allMatches text)

end Compliance
