import Compliance.Proofs.Line.Enclosing

/-!
# The surroundings of a line

What a context tells about a line depends on the lines that its window and the structural
scans reach, and not on where in the file these lines stand.
-/

namespace Compliance

namespace LineContext

def linesBehind (context : LineContext) : List Text :=
  (context.lines.take context.index).drop (context.index - context.window.scanLimit)

def linesAhead (context : LineContext) : List Text :=
  (context.lines.drop (context.index + 1)).take
    (max context.window.scanLimit context.window.following)

end LineContext

/-- Two lines, each inside its file, that are the same as far as anything reaches. -/
structure SameSurroundings (first second : LineContext) : Prop where
  window : first.window = second.window
  filename : first.filename = second.filename
  here : ∃ line, first.lines[first.index]? = some line ∧ second.lines[second.index]? = some line
  behind : first.linesBehind = second.linesBehind
  ahead : first.linesAhead = second.linesAhead

section Reach

variable {context : LineContext} {line : Text}

theorem line_of_here (here : context.lines[context.index]? = some line) : context.line = line := by
  simp [LineContext.line, here]

theorem followingLines_eq (context : LineContext) :
    context.followingLines = context.linesAhead.take context.window.following := by
  rw [LineContext.followingLines, LineContext.linesAhead, List.take_take,
    Nat.min_eq_left (Nat.le_max_right ..)]

theorem backward_eq_linesBehind (here : context.lines[context.index]? = some line) :
    backward context.lines context.index context.window.scanLimit =
      line :: context.linesBehind.reverse := by
  obtain ⟨inside, -⟩ := List.getElem?_eq_some_iff.mp here
  rw [backward_eq here, List.take_reverse, LineContext.linesBehind, List.length_take,
    Nat.min_eq_left (Nat.le_of_lt inside)]

theorem reach_eq_linesAhead (here : context.lines[context.index]? = some line) :
    (context.lines.drop context.index).take (context.window.scanLimit + 1) =
      line :: context.linesAhead.take context.window.scanLimit := by
  rw [drop_eq_cons here, List.take_succ_cons, LineContext.linesAhead, List.take_take,
    Nat.min_eq_left (Nat.le_max_left ..)]

theorem head_eq_linesBehind {steps : Nat} (inside : context.index < context.lines.length)
    (back : steps ≤ context.index) (within : steps ≤ context.window.scanLimit) :
    (context.lines.drop (context.index - steps)).take steps =
      context.linesBehind.drop (context.linesBehind.length - steps) := by
  have size : context.linesBehind.length =
      context.index - (context.index - context.window.scanLimit) := by
    rw [LineContext.linesBehind, List.length_drop, List.length_take,
      Nat.min_eq_left (Nat.le_of_lt inside)]
  rw [size, LineContext.linesBehind, List.drop_drop, List.drop_take]
  congr 1
  · omega
  · congr 1
    omega

def LineContext.stepsToStart (context : LineContext) (isStart : Text → Bool) : Option Nat :=
  stepsBack isStart 0 (backward context.lines context.index context.window.scanLimit)

theorem enclosing?_isSome (context : LineContext) (isStart : Text → Bool) :
    (context.enclosing? isStart).isSome = (context.stepsToStart isStart).isSome :=
  Option.isSome_map

theorem steps_le_of_stepsToStart {isStart : Text → Bool} {steps : Nat}
    (found : context.stepsToStart isStart = some steps) :
    steps ≤ context.index ∧ steps ≤ context.window.scanLimit := by
  obtain ⟨takes, -⟩ := stepsBack_eq_some_iff.mp found
  have inside := steps_le_scanned takes
  have encloses := (takes_backward_iff inside).mp takes
  have before := encloses.before
  have within := encloses.within
  simp only [scanned] at *
  omega

theorem functionScope?_map (here : context.lines[context.index]? = some line) :
    (functionScope? context).map (fun scope => (scope.lines, scope.target)) =
      (context.stepsToStart isFunctionStart).map fun steps =>
        let head := context.linesBehind.drop (context.linesBehind.length - steps)
        (head ++ throughClosing (openDepth head)
          (line :: context.linesAhead.take context.window.scanLimit), steps) := by
  obtain ⟨inside, -⟩ := List.getElem?_eq_some_iff.mp here
  have last : min context.index (context.lines.length - 1) = context.index := by omega
  rw [functionScope?, LineContext.enclosing?, enclosingStart?]
  change ((context.stepsToStart isFunctionStart).map _ |>.map _).map _ = _
  rw [Option.map_map, Option.map_map]
  cases found : context.stepsToStart isFunctionStart with
  | none => rfl
  | some steps =>
      obtain ⟨back, within⟩ := steps_le_of_stepsToStart found
      simp only [Option.map_some, Function.comp_apply, last, Nat.sub_sub_self back,
        head_eq_linesBehind inside back within, reach_eq_linesAhead here]

end Reach

namespace SameSurroundings

variable {first second : LineContext}

theorem line_eq (same : SameSurroundings first second) : first.line = second.line := by
  obtain ⟨line, here, there⟩ := same.here
  rw [line_of_here here, line_of_here there]

theorem followingLines_eq (same : SameSurroundings first second) :
    first.followingLines = second.followingLines := by
  rw [Compliance.followingLines_eq, Compliance.followingLines_eq, same.ahead, same.window]

theorem backward_eq (same : SameSurroundings first second) :
    backward first.lines first.index first.window.scanLimit =
      backward second.lines second.index second.window.scanLimit := by
  obtain ⟨line, here, there⟩ := same.here
  rw [backward_eq_linesBehind here, backward_eq_linesBehind there, same.behind]

theorem stepsToStart_eq (same : SameSurroundings first second) (isStart : Text → Bool) :
    first.stepsToStart isStart = second.stepsToStart isStart := by
  rw [LineContext.stepsToStart, LineContext.stepsToStart, same.backward_eq]

theorem insideFunction_eq (same : SameSurroundings first second) :
    first.insideFunction = second.insideFunction := by
  simp only [LineContext.insideFunction, enclosing?_isSome, same.stepsToStart_eq]

theorem insideExceptionHandler_eq (same : SameSurroundings first second) :
    first.insideExceptionHandler = second.insideExceptionHandler := by
  simp only [LineContext.insideExceptionHandler, enclosing?_isSome, same.stepsToStart_eq]

theorem functionScope?_cases (same : SameSurroundings first second) :
    functionScope? first = none ∧ functionScope? second = none ∨
      ∃ start start' lines target, functionScope? first = some ⟨start, lines, target⟩ ∧
        functionScope? second = some ⟨start', lines, target⟩ := by
  obtain ⟨line, here, there⟩ := same.here
  have shape : (functionScope? first).map (fun scope => (scope.lines, scope.target)) =
      (functionScope? second).map fun scope => (scope.lines, scope.target) := by
    rw [functionScope?_map here, functionScope?_map there, same.stepsToStart_eq, same.behind,
      same.ahead, same.window]
  cases one : functionScope? first <;> cases other : functionScope? second <;>
    simp only [one, other, Option.map_none, Option.map_some, reduceCtorEq, Option.some.injEq,
      Prod.mk.injEq] at shape
  · exact .inl ⟨rfl, rfl⟩
  · next scope scope' =>
      obtain ⟨start, lines, target⟩ := scope
      obtain ⟨start', lines', target'⟩ := scope'
      obtain ⟨rfl, rfl⟩ := shape
      exact .inr ⟨start, start', lines, target, rfl, rfl⟩

end SameSurroundings

end Compliance
