import Compliance.Proofs.Line.Nearest

/-!
# Lines within a file

Everything that a context shows is a stretch of lines that its file has, also where the sizes of
the window are so large that a sum of them stops at the largest size.  The scope of a function
runs through the first line, not before the inspected one, at which its braces are closed.
-/

namespace Compliance

def linesBetween? (lines : List Text) (first stop : Nat) : Option (List Text) :=
  if first ≤ stop ∧ stop ≤ lines.length then some ((lines.take stop).drop first) else none

theorem linesBetween?_of_le {lines : List Text} {first stop : Nat} (ordered : first ≤ stop)
    (inside : stop ≤ lines.length) :
    linesBetween? lines first stop = some ((lines.take stop).drop first) :=
  if_pos ⟨ordered, inside⟩

def cappedSum (largest first second : Nat) : Nat := min (first + second) largest

namespace LineContext

def windowStop (context : LineContext) (largest : Nat) : Nat :=
  min (cappedSum largest (cappedSum largest context.index 1) context.window.following)
    context.lines.length

def lastReached (context : LineContext) (largest : Nat) : Nat :=
  min (cappedSum largest context.index context.window.scanLimit) (context.lines.length - 1)

variable {context : LineContext} {largest start last : Nat}

theorem linesBetween?_preceding (inside : context.index < context.lines.length) :
    linesBetween? context.lines (context.index - context.window.preceding) context.index =
      some context.precedingLines :=
  linesBetween?_of_le (Nat.sub_le ..) (Nat.le_of_lt inside)

theorem linesBetween?_following (inside : context.index < context.lines.length)
    (fits : context.lines.length ≤ largest) :
    linesBetween? context.lines (context.index + 1) (context.windowStop largest) =
      some context.followingLines := by
  have stop : context.windowStop largest =
      min (context.index + 1 + context.window.following) context.lines.length := by
    unfold windowStop cappedSum
    omega
  rw [stop, linesBetween?_of_le (by omega) (by omega), followingLines, List.drop_take,
    Option.some.injEq, List.take_eq_take_iff, List.length_drop]
  omega

theorem linesBetween?_backward (inside : context.index < context.lines.length) :
    linesBetween? context.lines (context.index - context.window.scanLimit) (context.index + 1) =
      some (backward context.lines context.index context.window.scanLimit).reverse := by
  rw [linesBetween?_of_le (by omega) inside, backward, List.take_reverse, List.reverse_reverse,
    List.length_take]
  congr 2
  omega

theorem lastReached_eq (fits : context.lines.length ≤ largest) :
    context.lastReached largest = context.reach := by
  unfold lastReached reach cappedSum
  omega

/-- Where the scope from a start may end: at a line behind which its braces are closed, and at the
last line that is looked at. -/
def endPlaces (context : LineContext) (start last : Nat) : Set Nat :=
  {place | place ∈ Set.Icc context.index last ∧
    ((textOver context.lines start place).count '\x7b' ≤
      (textOver context.lines start place).count '\x7d' ∨ place = last)}

theorem ends_iff_isLeast :
    context.Ends start last ↔ IsLeast (context.endPlaces start context.reach) last := by
  have braces := depthOver_eq_count context.lines start
  constructor
  · rintro ⟨after, within, stays, closed⟩
    refine ⟨⟨⟨after, within⟩, ?_⟩, ?_⟩
    · rcases Nat.lt_or_ge last context.reach with earlier | final
      · have depth := closed earlier
        rw [braces] at depth
        exact .inl (by omega)
      · exact .inr (by omega)
    · rintro place ⟨⟨behind, reached⟩, ends⟩
      rcases Nat.lt_or_ge place last with earlier | ordered
      · have depth := stays place behind earlier
        rw [braces] at depth
        omega
      · exact ordered
  · rintro ⟨⟨⟨after, within⟩, ends⟩, least⟩
    refine ⟨after, within, fun place behind earlier => ?_, fun earlier => ?_⟩
    · rw [braces]
      by_contra closed
      have := least ⟨⟨behind, by omega⟩, .inl (by omega)⟩
      omega
    · rw [braces]
      omega

/-- The scope is the lines of the file from the enclosing start through a last line. -/
structure Spans (context : LineContext) (scope : FunctionScope) (last largest : Nat) : Prop where
  start : context.enclosing? isFunctionStart = some scope.start
  before : scope.start ≤ context.index
  after : context.index ≤ last
  within : last ≤ context.lastReached largest
  inside : context.lastReached largest < context.lines.length
  lines : linesBetween? context.lines scope.start (last + 1) = some scope.lines
  target : scope.start + scope.target = context.index
  here : scope.lines[scope.target]? = context.lines[context.index]?
  least : IsLeast (context.endPlaces scope.start (context.lastReached largest)) last

theorem spans_of_functionScope? (inside : context.index < context.lines.length)
    (fits : context.lines.length ≤ largest) {scope : FunctionScope}
    (cut : functionScope? context = some scope) : ∃ last, context.Spans scope last largest := by
  obtain ⟨start, last, found, ends, rfl⟩ := (functionScope?_eq_some_iff inside).mp cut
  have before := start_le_index found
  have after := ends.after
  have short := ends.lt_length inside
  have reach := lastReached_eq fits
  refine ⟨last, found, before, after, ?_, ?_, ?_, ?_, ?_, ?_⟩
  · rw [reach]
    exact ends.within
  · unfold lastReached
    omega
  · exact linesBetween?_of_le (Nat.le_succ_of_le (Nat.le_trans before after)) short
  · exact Nat.add_sub_cancel' before
  · exact getElem?_stretch before after
  · rw [reach]
    exact ends_iff_isLeast.mp ends

end LineContext

open LineContext

/-- What a context takes from its file are stretches that the file has, and there is a scope exactly
if the line is inside a function. -/
theorem functionScope?_spans {context : LineContext} {largest : Nat}
    (inside : context.index < context.lines.length) (fits : context.lines.length ≤ largest) :
    linesBetween? context.lines (context.index - context.window.preceding) context.index =
        some context.precedingLines ∧
      linesBetween? context.lines (context.index + 1) (context.windowStop largest) =
        some context.followingLines ∧
      linesBetween? context.lines (context.index - context.window.scanLimit) (context.index + 1) =
        some (backward context.lines context.index context.window.scanLimit).reverse ∧
      ((functionScope? context).isSome = true ↔ context.insideFunction = true) ∧
      ∀ scope, functionScope? context = some scope → ∃ last, context.Spans scope last largest := by
  refine ⟨linesBetween?_preceding inside, linesBetween?_following inside fits,
    linesBetween?_backward inside, ?_, fun scope => spans_of_functionScope? inside fits⟩
  rw [functionScope?, Option.isSome_map]
  rfl

def greatestWord : Nat := 18446744073709551615

def boundlessContext : LineContext where
  lines :=
    ["const limit = 1;", "function load() \x7b", "  open();", "\x7d", "load();"].map String.toList
  index := 2
  window := ⟨greatestWord, greatestWord, greatestWord⟩
  filename := "load.ts"

theorem functionScope?_spans_boundless :
    boundlessContext.index < boundlessContext.lines.length ∧
      boundlessContext.lines.length ≤ greatestWord ∧
      ∃ scope, functionScope? boundlessContext = some scope ∧ scope.start = 1 ∧
        boundlessContext.Spans scope 3 greatestWord := by
  have inside : boundlessContext.index < boundlessContext.lines.length := by decide
  have fits : boundlessContext.lines.length ≤ greatestWord := by decide
  obtain ⟨-, -, -, -, scopes⟩ := functionScope?_spans inside fits
  have found : functionScope? boundlessContext =
      some ⟨1, (boundlessContext.lines.drop 1).take 3, 1⟩ := by decide +kernel
  obtain ⟨last, spans⟩ := scopes _ found
  have closes : 3 ∈ boundlessContext.endPlaces 1 (boundlessContext.lastReached greatestWord) := by
    refine ⟨by decide, .inl (by decide)⟩
  have upper : last ≤ 3 := spans.least.2 closes
  have after : 2 ≤ last := spans.after
  rcases (show last = 2 ∨ last = 3 by omega) with rfl | rfl
  · exact absurd spans.lines (by decide +kernel)
  · exact ⟨inside, fits, _, found, rfl, spans⟩

end Compliance
