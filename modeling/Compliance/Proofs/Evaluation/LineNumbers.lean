import Compliance.Proofs.Evaluation.Files
import Compliance.Proofs.Evaluation.Routing
import Compliance.Proofs.Fix.Replay

/-!
# Line numbers

Rules look at lines, fixes change pieces.  A number means the same to both: the piece with the
number of a line is that line, or that line and the carriage return that was dropped from it.
-/

namespace Compliance

namespace Text

theorem dropCarriage_cases (piece : Text) :
    piece = dropCarriage piece ∨ piece = dropCarriage piece ++ ['\r'] := by
  rw [dropCarriage]
  split
  · next returned => exact .inr (List.dropLast_append_getLast? _ returned).symm
  · exact .inl rfl

theorem getElem?_linesOfPieces {pieces : List Text} {index : Nat} {line : Text}
    (here : (linesOfPieces pieces)[index]? = some line) :
    ∃ piece, pieces[index]? = some piece ∧ (piece = line ∨ piece = line ++ ['\r']) := by
  induction pieces generalizing index with
  | nil => simp [linesOfPieces] at here
  | cons piece pieces ih =>
      cases pieces with
      | nil =>
          rw [linesOfPieces] at here
          split at here
          · simp at here
          · exact ⟨line, here, .inl rfl⟩
      | cons next pieces =>
          rw [linesOfPieces] at here
          · cases index with
            | zero =>
                obtain rfl := Option.some.inj here
                exact ⟨piece, rfl, dropCarriage_cases piece⟩
            | succ index => exact ih here
          · simp

theorem getElem?_lines {text line : Text} {index : Nat} (here : (lines text)[index]? = some line) :
    ∃ piece, (pieces text)[index]? = some piece ∧ (piece = line ∨ piece = line ++ ['\r']) :=
  getElem?_linesOfPieces here

example : lines "a\r\n\r\nb\r\n".toList = ["a".toList, [], "b".toList] ∧
    lines "a\r\n\rb\r".toList = ["a".toList, "\rb\r".toList] ∧
    pieces "a\r\n\rb\r".toList = ["a\r".toList, "\rb\r".toList] := by decide

end Text

def Rule.FindsOn (rule : Rule) (window : Window) (file : SourceFile) (number : Nat)
    (line : Text) : Prop :=
  ∃ context ∈ LineContext.all (Text.lines file.content) file.name window,
    context.number = number ∧ context.line = line ∧ (rule.check context).toOption.join.isSome = true

def Sighting.ComesFrom (seen : Sighting) (window : Window) (rules : List Rule)
    (files : List SourceFile) : Prop :=
  ∃ file ∈ files, ∃ rule ∈ rules, ∃ line, seen.file = file.name ∧ seen.ruleId = rule.id ∧
    1 ≤ seen.line ∧ seen.line ≤ (Text.lines file.content).length ∧
    (Text.lines file.content)[seen.line - 1]? = some line ∧
    rule.FindsOn window file seen.line line

theorem Hit.sighting?_of? {context : LineContext} {rule : Rule} {hit : Hit} {seen : Sighting}
    (found : of? context rule = some hit) (sighted : hit.sighting? = some seen) :
    seen.file = context.filename ∧ seen.line = context.number ∧ seen.ruleId = rule.id ∧
      (rule.check context).toOption.join.isSome = true := by
  obtain ⟨file, line, same⟩ := eq_of_of? found
  obtain ⟨finding, told, rfl⟩ := Option.map_eq_some_iff.mp sighted
  refine ⟨file, line, congrArg Rule.id same, ?_⟩
  rw [← finding?_of?, found, Option.bind_some, told]
  rfl

theorem comesFrom_of_mem_inspect {window : Window} {rules : List Rule} {files : List SourceFile}
    {hit : Hit} {seen : Sighting} (inspected : hit ∈ inspect window rules files)
    (sighted : hit.sighting? = some seen) : seen.ComesFrom window rules files := by
  obtain ⟨file, source, context, listed, rule, tried, found⟩ := mem_inspect_iff.mp inspected
  obtain ⟨named, numbered, same, finds⟩ := Hit.sighting?_of? found sighted
  obtain ⟨index, here⟩ := List.mem_iff_getElem?.mp listed
  obtain ⟨inside, rfl⟩ := getElem?_all.mp here
  have line : (Text.lines file.content)[index]? = some (Text.lines file.content)[index] :=
    List.getElem?_eq_getElem inside
  have number : seen.line = index + 1 := numbered
  have checked : LineContext.line ⟨Text.lines file.content, index, window, file.name⟩ =
      (Text.lines file.content)[index] := by
    rw [LineContext.line, line]
    rfl
  refine ⟨file, source, rule, tried, (Text.lines file.content)[index], named, same, by omega,
    by omega, ?_, _, listed, numbered.symm, checked, finds⟩
  rw [number]
  exact line

namespace Engine

variable {α : Type} [Scalar α]

theorem comesFrom_of_mem_runPlan {engine : Engine α} {plan : Plan} {files : List SourceFile}
    {seen : Sighting}
    (reported : seen ∈ (engine.runPlan plan files).violations.map (·.sighting) ++
      (engine.runPlan plan files).warnings.map (·.sighting)) :
    seen.ComesFrom engine.window (plan.flatMap (·.2)) files := by
  obtain ⟨entry, planned, hit, inspected, sighted⟩ : ∃ entry ∈ plan,
      ∃ hit ∈ inspect engine.window entry.2 files, hit.sighting? = some seen := by
    rw [violations_runPlan, warnings_runPlan, List.mem_append] at reported
    rcases reported with reported | reported
    · obtain ⟨violation, here, rfl⟩ := List.mem_map.mp reported
      obtain ⟨entry, planned, here⟩ := List.mem_flatMap.mp here
      obtain ⟨hit, inspected, read⟩ := List.mem_filterMap.mp here
      have sighted := hit.sighting_violation? engine.policy
      rw [read, Option.map_some] at sighted
      exact ⟨entry, planned, hit, inspected, (Option.ite_none_right_eq_some.mp sighted.symm).2⟩
    · obtain ⟨warning, here, rfl⟩ := List.mem_map.mp reported
      obtain ⟨entry, planned, here⟩ := List.mem_flatMap.mp here
      obtain ⟨hit, inspected, read⟩ := List.mem_filterMap.mp here
      have sighted := hit.sighting_warning? engine.policy
      rw [read, Option.map_some] at sighted
      exact ⟨entry, planned, hit, inspected, (Option.ite_none_right_eq_some.mp sighted.symm).2⟩
  obtain ⟨file, source, rule, tried, found⟩ := comesFrom_of_mem_inspect inspected sighted
  exact ⟨file, source, rule, List.mem_flatMap.mpr ⟨entry, planned, tried⟩, found⟩

end Engine

theorem lines_attempt_pieces {content piece : Text} {number : Nat} (positive : 1 ≤ number)
    (here : (Text.pieces content)[number - 1]? = some piece) (fix : FixPattern) :
    (Progress.attempt ⟨Text.pieces content, [], []⟩ fix number).lines =
      (Text.pieces content).set (number - 1) ((fix.applyLine? piece).getD piece) := by
  have counted : number ≠ 0 := Nat.ne_of_gt positive
  obtain ⟨inside, rfl⟩ := List.getElem?_eq_some_iff.mp here
  cases changed : fix.applyLine? (Text.pieces content)[number - 1] with
  | none => simp [Progress.attempt, counted, inside, changed]
  | some after => simp [Progress.attempt, counted, inside, changed]

/-- A finding is reported on a line of the file that was checked, and the number of a line is that
of a piece which differs from it in one carriage return at most.  There a fix is tried, and what
is not changed stays as it was. -/
theorem Engine.numbers_of_reports {α : Type} [Scalar α] (engine : Engine α) (plan : Plan)
    (files : List SourceFile) :
    let run := engine.runPlan plan files
    (∀ seen ∈ run.violations.map (·.sighting) ++ run.warnings.map (·.sighting),
        seen.ComesFrom engine.window (plan.flatMap (·.2)) files) ∧
      (∀ content number, 1 ≤ number → number ≤ (Text.lines content).length →
        ∃ line piece, (Text.lines content)[number - 1]? = some line ∧
          (Text.pieces content)[number - 1]? = some piece ∧
          (piece = line ∨ piece = line ++ ['\r']) ∧
          ∀ fix, (Progress.attempt ⟨Text.pieces content, [], []⟩ fix number).lines =
            (Text.pieces content).set (number - 1) ((fix.applyLine? piece).getD piece)) ∧
      ∀ content, Text.unpieces (Text.pieces content) = content := by
  refine ⟨fun seen => comesFrom_of_mem_runPlan, ?_, Text.unpieces_pieces⟩
  intro content number positive inside
  have line : (Text.lines content)[number - 1]? = some (Text.lines content)[number - 1] :=
    List.getElem?_eq_getElem (by omega)
  obtain ⟨piece, here, alike⟩ := Text.getElem?_lines line
  exact ⟨_, piece, line, here, alike, lines_attempt_pieces positive here⟩

end Compliance
