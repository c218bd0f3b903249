import Mathlib.Order.Bounds.Basic
import Compliance.Proofs.Line.Marks
import Compliance.Proofs.Line.Scope

/-!
# The nearest start

Where the block around a line may start is told by the line itself, by the lines behind it and by
their braces.  The backward scan gives the greatest of these places, so a scan that reaches
farther finds what a shorter one has found.
-/

namespace Compliance

def textOver (lines : List Text) (first last : Nat) : Text :=
  ((lines.take (last + 1)).drop first).flatten

theorem openDepth_eq (lines : List Text) :
    openDepth lines = lines.flatten.count '\x7b' - lines.flatten.count '\x7d' := by
  induction lines with
  | nil => rfl
  | cons line lines ih =>
      rw [openDepth_cons, ih, braceDelta_eq, List.flatten_cons, List.count_append,
        List.count_append]
      omega

theorem depthOver_eq_count (lines : List Text) (first last : Nat) :
    depthOver lines first last =
      (textOver lines first last).count '\x7b' - (textOver lines first last).count '\x7d' :=
  openDepth_eq _

theorem textOver_scanned (lines : List Text) (first index : Nat) :
    textOver lines first (scanned lines index) = textOver lines first index := by
  unfold textOver scanned
  congr 2
  rcases Nat.lt_or_ge index lines.length with inside | behind
  · congr 1
    omega
  · rw [List.take_of_length_le (show lines.length ≤ index + 1 by omega), List.take_of_length_le]
    omega

/-- Where the block around a line may start: within the limit, at a line that starts one, and with
no more braces closed than opened on the lines from there on. -/
def startPlaces (isStart : Text → Bool) (lines : List Text) (index limit : Nat) : Set Nat :=
  {start | start ∈ Set.Icc (scanned lines index - limit) (scanned lines index) ∧
    (∃ line, lines[start]? = some line ∧ isStart line = true) ∧
    (textOver lines (start + 1) (scanned lines index)).count '\x7d' ≤
      (textOver lines (start + 1) (scanned lines index)).count '\x7b'}

variable {isStart : Text → Bool} {lines : List Text} {index limit larger start : Nat}

theorem mem_startPlaces_iff :
    start ∈ startPlaces isStart lines index limit ↔ Encloses isStart lines index limit start := by
  have braces := depthOver_eq_count lines (start + 1) index
  rw [← textOver_scanned] at braces
  constructor
  · rintro ⟨⟨within, before⟩, starts, balanced⟩
    exact ⟨before, by omega, starts, by omega⟩
  · rintro ⟨before, within, starts, balanced⟩
    exact ⟨⟨by omega, before⟩, starts, by omega⟩

theorem enclosingStart?_eq_some_iff_isGreatest :
    enclosingStart? lines index limit isStart = some start ↔
      IsGreatest (startPlaces isStart lines index limit) start := by
  rw [enclosingStart?_eq_some_iff]
  constructor
  · rintro ⟨encloses, nearest⟩
    refine ⟨mem_startPlaces_iff.mpr encloses, fun later place => ?_⟩
    rcases Nat.lt_or_ge start later with after | before
    · exact absurd (mem_startPlaces_iff.mp place) (nearest later after)
    · exact before
  · rintro ⟨place, greatest⟩
    refine ⟨mem_startPlaces_iff.mp place, fun later after encloses => ?_⟩
    have before := greatest (mem_startPlaces_iff.mpr encloses)
    omega

theorem enclosingStart?_eq_none_iff :
    enclosingStart? lines index limit isStart =
      none ↔ startPlaces isStart lines index limit = ∅ := by
  rw [Set.eq_empty_iff_forall_notMem]
  constructor
  · intro missed start place
    obtain ⟨nearest, found, -⟩ := exists_enclosingStart?_of_encloses (mem_startPlaces_iff.mp place)
    rw [missed] at found
    cases found
  · intro empty
    cases found : enclosingStart? lines index limit isStart with
    | none => rfl
    | some start => exact absurd (enclosingStart?_eq_some_iff_isGreatest.mp found).1 (empty start)

theorem enclosingStart?_of_le (le : limit ≤ larger)
    (found : enclosingStart? lines index limit isStart = some start) :
    enclosingStart? lines index larger isStart = some start := by
  rw [enclosingStart?_eq_some_iff_isGreatest] at found ⊢
  obtain ⟨⟨⟨within, before⟩, starts, balanced⟩, greatest⟩ := found
  refine ⟨⟨⟨by omega, before⟩, starts, balanced⟩, ?_⟩
  rintro later ⟨⟨-, inside⟩, starts', balanced'⟩
  rcases Nat.lt_or_ge later (scanned lines index - limit) with farther | near
  · omega
  · exact greatest ⟨⟨near, inside⟩, starts', balanced'⟩

def LineContext.scanning (context : LineContext) (limit : Nat) : LineContext :=
  { context with window := { context.window with scanLimit := limit } }

theorem enclosing?_scanning_isSome {context : LineContext} (le : limit ≤ larger)
    (inside : ((context.scanning limit).enclosing? isStart).isSome = true) :
    ((context.scanning larger).enclosing? isStart).isSome = true := by
  obtain ⟨start, found⟩ := Option.isSome_iff_exists.mp inside
  exact Option.isSome_iff_exists.mpr ⟨start, enclosingStart?_of_le le found⟩

/-- The scan gives the greatest place at which the block may start, and a greater limit takes
nothing back. -/
theorem enclosingStart?_nearest (isStart : Text → Bool) (lines : List Text) (index limit : Nat) :
    (∀ start, enclosingStart? lines index limit isStart = some start ↔
      IsGreatest (startPlaces isStart lines index limit) start) ∧
    (enclosingStart? lines index limit isStart = none ↔
      startPlaces isStart lines index limit = ∅) ∧
    ∀ larger, limit ≤ larger →
      (∀ start, enclosingStart? lines index limit isStart = some start →
        enclosingStart? lines index larger isStart = some start) ∧
      ∀ context : LineContext,
        ((context.scanning limit).insideFunction = true →
          (context.scanning larger).insideFunction = true) ∧
        ((context.scanning limit).insideExceptionHandler = true →
          (context.scanning larger).insideExceptionHandler = true) := by
  refine ⟨fun start => enclosingStart?_eq_some_iff_isGreatest, enclosingStart?_eq_none_iff,
    fun larger le => ⟨fun start => enclosingStart?_of_le le, fun context => ⟨?_, ?_⟩⟩⟩
  · exact enclosing?_scanning_isSome le
  · exact enclosing?_scanning_isSome le

def openFunction : List Text := ["function load() \x7b", "  open();", "  read();"].map String.toList

theorem enclosingStart?_nearest_openFunction :
    startPlaces isFunctionStart openFunction 2 1 = ∅ ∧
      IsGreatest (startPlaces isFunctionStart openFunction 2 2) 0 ∧
      enclosingStart? openFunction 2 300 isFunctionStart = some 0 := by
  obtain ⟨-, near, -⟩ := enclosingStart?_nearest isFunctionStart openFunction 2 1
  obtain ⟨far, -, wider⟩ := enclosingStart?_nearest isFunctionStart openFunction 2 2
  have missed : enclosingStart? openFunction 2 1 isFunctionStart = none := by decide +kernel
  have found : enclosingStart? openFunction 2 2 isFunctionStart = some 0 := by decide +kernel
  exact ⟨near.mp missed, (far 0).mp found, (wider 300 (by decide)).1 0 found⟩

end Compliance
