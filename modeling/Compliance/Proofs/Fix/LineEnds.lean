import Compliance.Proofs.Pattern.Longer
import Compliance.Proofs.Fix.Gain
import Compliance.Proofs.Fix.Replay
import Compliance.Proofs.Fix.ImportEntries
import Compliance.Proofs.Text.Returns

/-!
# Line ends in the pattern phase

The pattern phase works on the pieces between newlines, which keep a carriage return at their
ends.  All built-in fixes but one stop before it, and so it stays; the one that drops
`debugger` lines takes it for a blank of its line.
-/

namespace Compliance

open Pattern

variable {behind word rest : Text} {marks : List Mark} {fix : FixPattern}

theorem expandTemplate_congr {names : List (String × Nat)} {template : Text} {first second : Match}
    (same : ∀ index, first.group? index = second.group? index) :
    expandTemplate names template first = expandTemplate names template second := by
  have groups : first.group = second.group := by
    funext index
    rw [Match.group, Match.group, same]
  simp only [expandTemplate, referenceText, groups]

theorem replace_congr (standard : fix ∈ Registry.standard) {first second : Match}
    (same : ∀ index, first.group? index = second.group? index) :
    fix.replace first = fix.replace second := by
  have text : first.text = second.text := Option.some.inj (same 0)
  cases builtIn_of_mem_standard standard with
  | exception listed => exact expandTemplate_congr same
  | rethrow =>
      change rethrow first = rethrow second
      rw [rethrow, rethrow, same 1, same 2]
  | wrapLiteral => exact expandTemplate_congr same
  | upgradeUrl =>
      change upgradeUrl first = upgradeUrl second
      rw [upgradeUrl, upgradeUrl, Match.group, Match.group, same 1, text]
  | dropDebugger => exact expandTemplate_congr same
  | transactionClient => exact expandTemplate_congr same

theorem plain_of_mem_standard (standard : fix ∈ Registry.standard) :
    fix.matcher.pattern.plain = true ∧ fix.matcher.pattern.nullable = false := by
  have all : ∀ fix ∈ Registry.standard,
      fix.matcher.pattern.plain = true ∧ fix.matcher.pattern.nullable = false := by
    decide +kernel
  exact all fix standard

theorem stops_of_mem_standard (standard : fix ∈ Registry.standard)
    (other : fix.ruleId ≠ "MAINT004") :
    fix.matcher.pattern.Stops '\r' := by
  have all : ∀ fix ∈ Registry.standard, fix.ruleId ≠ "MAINT004" →
      fix.matcher.pattern.sheds '\r' false = true := by
    decide +kernel
  obtain ⟨isPlain, takes⟩ := plain_of_mem_standard standard
  exact ⟨isPlain, takes, all fix standard other⟩

theorem applyLine?_append (standard : fix ∈ Registry.standard) (other : fix.ruleId ≠ "MAINT004")
    (line : Text) :
    fix.applyLine? (line ++ ['\r']) = (fix.applyLine? line).map (· ++ ['\r']) := by
  have stops := stops_of_mem_standard standard other
  have noWord : isWord '\r' = false := by decide
  have replaced : fix.matcher.pattern.replaceAll fix.replace (line ++ ['\r']) =
      fix.matcher.pattern.replaceAll fix.replace line ++ ['\r'] := by
    rw [replaceAll, replaceAll, stops.allMatches_append noWord]
    exact splice_longer (cuts_allMatches stops.isPlain stops.takes line) fun reads =>
      replace_congr standard (Match.group?_longer reads)
  rw [FixPattern.applyLine?, FixPattern.applyLine?, stops.occurs_append noWord, replaced]
  simp only [List.append_cancel_right_eq]
  split
  · split <;> rfl
  · rfl

def DebuggerLine (line : Text) : Prop :=
  ∃ first middle last, (line = first ++ ("debugger".toList ++ (middle ++ last)) ∨
      line = first ++ ("debugger".toList ++ (middle ++ ';' :: last))) ∧
    Blank first ∧ Blank middle ∧ Blank last

theorem occurs_debuggerLine_iff {line : Text} :
    debuggerLine.occurs line = true ↔ DebuggerLine line := by
  rw [occurs_iff (by decide)]
  constructor
  · rintro ⟨gap, _, rfl, word, rest, marks, rfl, reads⟩
    simp only [debuggerLine, reads_append_textEnd, reads_append_blanks, reads_append_opt,
      reads_append_lit, reads_textStart] at reads
    obtain ⟨rfl, _, last, rfl, blankLast, reads⟩ := reads
    rcases reads with
      ⟨_, rfl, _, middle, rfl, blankMiddle, _, rfl, _, first, rfl, blankFirst, rfl, -, none⟩ |
      ⟨_, middle, rfl, blankMiddle, _, rfl, _, first, rfl, blankFirst, rfl, -, none⟩
    · obtain rfl : gap = [] := by simpa using none
      exact ⟨first, middle, last, .inr (by simp), blankFirst, blankMiddle, blankLast⟩
    · obtain rfl : gap = [] := by simpa using none
      exact ⟨first, middle, last, .inl (by simp), blankFirst, blankMiddle, blankLast⟩
  · rintro ⟨first, middle, last, shape, blankFirst, blankMiddle, blankLast⟩
    refine ⟨[], line, rfl, line, [], [], by simp, ?_⟩
    simp only [debuggerLine, reads_append_textEnd, reads_append_blanks, reads_append_opt,
      reads_append_lit, reads_textStart]
    refine ⟨trivial, ?_⟩
    rcases shape with rfl | rfl
    · exact ⟨_, last, by simp, blankLast, .inr ⟨_, middle, rfl, blankMiddle, _, rfl, [], first,
        rfl, blankFirst, rfl, trivial, rfl⟩⟩
    · exact ⟨first ++ "debugger".toList ++ middle ++ ";".toList, last, by simp, blankLast, .inl
        ⟨_, rfl, _, middle, rfl, blankMiddle, _, rfl, [], first, rfl, blankFirst, rfl,
          trivial, rfl⟩⟩

theorem debuggerLine_append_iff {line : Text} :
    DebuggerLine (line ++ ['\r']) ↔ DebuggerLine line := by
  have less {front tail : Text} (blank : Blank tail) (ended : front.getLast? ≠ some '\r')
      (shape : line ++ ['\r'] = front ++ tail) : ∃ less, line = front ++ less ∧ Blank less := by
    rcases List.eq_nil_or_concat' tail with rfl | ⟨less, c, rfl⟩
    · rw [List.append_nil] at shape
      exact absurd (by rw [← shape, List.getLast?_concat]) ended
    · rw [← List.append_assoc] at shape
      exact ⟨less, (List.append_inj' shape rfl).1, fun d here => blank d (by simp [here])⟩
  constructor
  · rintro ⟨first, middle, last, shape | shape, blankFirst, blankMiddle, blankLast⟩
    · have blank : Blank (middle ++ last) := fun c here =>
        (List.mem_append.mp here).elim (blankMiddle c) (blankLast c)
      rw [← List.append_assoc] at shape
      obtain ⟨rest, rfl, blank⟩ := less blank (by simp) shape
      exact ⟨first, rest, [], .inl (by simp), blankFirst, blank, by simp [Blank]⟩
    · have whole : line ++ ['\r'] =
          ((first ++ ("debugger".toList ++ middle)) ++ [';']) ++ last := by
        simpa using shape
      obtain ⟨rest, rfl, blank⟩ := less blankLast (by rw [List.getLast?_concat]; decide) whole
      exact ⟨first, middle, rest, .inr (by simp), blankFirst, blankMiddle, blank⟩
  · rintro ⟨first, middle, last, shape, blankFirst, blankMiddle, blankLast⟩
    have blank : Blank (last ++ ['\r']) := fun c here =>
      (List.mem_append.mp here).elim (blankLast c) fun same => by
        rw [List.mem_singleton.mp same]
        decide
    refine ⟨first, middle, last ++ ['\r'], ?_, blankFirst, blankMiddle, blank⟩
    rcases shape with rfl | rfl
    · exact .inl (by simp)
    · exact .inr (by simp)

theorem applyLine?_dropDebugger_append (line : Text) :
    dropDebuggerFix.applyLine? (line ++ ['\r']) = dropDebuggerFix.applyLine? line := by
  have same : debuggerLine.occurs (line ++ ['\r']) = debuggerLine.occurs line := by
    rw [Bool.eq_iff_iff, occurs_debuggerLine_iff, occurs_debuggerLine_iff, debuggerLine_append_iff]
  rw [applyLine?_dropDebugger, applyLine?_dropDebugger, same]

/-! ## Lines without carriage returns -/

theorem not_mem_name {exception : String} {keyword : Pattern}
    (listed : (exception, keyword) ∈ exceptionKeywords) : '\r' ∉ exception.toList := by
  rcases name_of_listed listed with rfl | rfl | rfl | rfl <;> decide

theorem not_mem_replace (standard : fix ∈ Registry.standard)
    (reads : fix.matcher.pattern.Reads behind word rest marks) (plain : '\r' ∉ word) :
    '\r' ∉ fix.replace (.of behind word rest marks) := by
  cases builtIn_of_mem_standard standard with
  | exception listed =>
      obtain ⟨-, -, -, noGroups⟩ := inert_exception listed
      obtain ⟨head, before, quoted, after, rfl, -, -, -, -, group⟩ :=
        shape_of_reads_errorWithKeyword noGroups reads
      rw [replace_exceptionFix listed, group]
      simp only [List.mem_append, List.mem_cons, not_or] at plain ⊢
      exact ⟨by decide, not_mem_name listed, by decide, plain.2.2.1, by decide⟩
  | rethrow =>
      change '\r' ∉ rethrow _
      rcases shape_of_reads_emptyHandler reads with
        ⟨gap, binding, name, block, rfl, -, ⟨early, late, type, shape, -⟩, -, first, second⟩ |
          ⟨gap, block, rfl, -, -, none⟩
      · have inBinding : '\r' ∉ binding := fun here => plain (by simp [here])
        have inName : '\r' ∉ name := fun here => inBinding (by simp [shape, here])
        rw [rethrow, first, second]
        simp only [List.mem_append, not_or]
        exact ⟨⟨⟨⟨by decide, fun here => inBinding (mem_trim here)⟩, by decide⟩, inName⟩, by decide⟩
      · rw [rethrow, none]
        change '\r' ∉ "catch (error) \x7b throw error; \x7d".toList
        decide
  | wrapLiteral =>
      obtain ⟨gap, literal, rfl, -, -, -, rfl⟩ := reads_thrownLiteral.mp reads
      rw [replace_wrapLiteralFix, group_oneGroup Nat.one_ne_zero]
      simp only [List.mem_append, not_or] at plain ⊢
      exact ⟨by decide, plain.2.2, by decide⟩
  | upgradeUrl =>
      obtain ⟨host, rfl, -, rfl⟩ := reads_httpUrl.mp reads
      change '\r' ∉ upgradeUrl _
      rw [upgradeUrl, group_oneGroup Nat.one_ne_zero]
      split
      · rwa [Match.text_of]
      · simp only [List.mem_append, not_or] at plain ⊢
        exact ⟨by decide, plain.2⟩
  | dropDebugger =>
      rw [replace_dropDebuggerFix]
      exact List.not_mem_nil
  | transactionClient =>
      obtain ⟨head, table, verb, rfl, -, -, -, first, second⟩ :=
        shape_of_reads_outerClientWrite reads
      rw [replace_transactionClientFix, first, second, List.append_nil]
      simp only [List.mem_append, List.mem_cons, not_or] at plain ⊢
      exact ⟨by decide, plain.2⟩

theorem not_mem_splice {pattern : Pattern} {replacement : Match → Text} {c : Char}
    (each : ∀ {behind word rest marks}, pattern.Reads behind word rest marks → c ∉ word →
      c ∉ replacement (.of behind word rest marks))
    {behind ahead : Text} {found : List Match} (cuts : pattern.Cuts behind ahead found)
    (free : c ∉ ahead) : c ∉ splice replacement (.between behind ahead) found := by
  induction cuts with
  | rest => exact free
  | found gap word rest quiet here reads later ih =>
      simp only [List.mem_append, not_or] at free
      rw [splice_of]
      simp only [List.mem_append, not_or]
      exact ⟨free.1, each reads free.2.1, ih free.2.2⟩

theorem not_mem_applyLine? (standard : fix ∈ Registry.standard) {line new : Text}
    (changed : fix.applyLine? line = some new) (plain : '\r' ∉ line) : '\r' ∉ new := by
  obtain ⟨isPlain, takes⟩ := plain_of_mem_standard standard
  obtain ⟨rfl, -⟩ := applyLine?_eq_some changed
  exact not_mem_splice (fun reads => not_mem_replace standard reads)
    (cuts_allMatches isPlain takes line) plain

theorem eq_dropDebuggerFix (standard : fix ∈ Registry.standard)
    (debugger : fix.ruleId = "MAINT004") :
    fix = dropDebuggerFix := by
  cases builtIn_of_mem_standard standard with
  | dropDebugger => rfl
  | exception => exact absurd (show "ERR001" = "MAINT004" from debugger) (by decide)
  | _ => exact absurd debugger (by decide)

/-- The records that end in a line without its carriage return: a `debugger` line that is dropped,
unless it is the last of so many lines, and a line that is put in for an import. -/
def AppliedFix.DropsReturn (count : Nat) (record : AppliedFix) : Prop :=
  record.ruleId = "MAINT004" ∧ record.line < count ∨ record.ruleId = "PREREQ" ∧ record.before = []

/-- Two phases that go on alike, the second on lines with carriage returns. -/
structure Progress.Parallel (start : Bool) (count : Nat) (progress returned : Progress) : Prop where
  size : progress.lines.length = count
  plain : Plain progress.lines
  clean : Clean progress.lines
  fixes : returned.fixes.length = progress.fixes.length
  needed : returned.needed = progress.needed
  carries : ∃ full, Carries full progress.lines returned.lines ∧
    (full = true ↔ start = true ∧ ∀ record ∈ progress.fixes, ¬ record.DropsReturn count)

namespace Progress

variable {start : Bool} {count line : Nat} {progress returned : Progress} {before after : Text}

theorem attempt_of_none (here : progress.lines[line - 1]? = some before)
    (same : fix.applyLine? before = none) : progress.attempt fix line = progress := by
  rw [attempt]
  split
  · rfl
  · simp [here, same]

theorem attempt_of_some (positive : line ≠ 0) (here : progress.lines[line - 1]? = some before)
    (changed : fix.applyLine? before = some after) :
    progress.attempt fix line = ⟨progress.lines.set (line - 1) after,
      progress.fixes ++ [fix.record line before after],
      (fix.prerequisite.map fun needed => needed.insert progress.needed).getD progress.needed⟩ := by
  rw [attempt, if_neg positive]
  simp only [here, changed]
  cases fix.prerequisite <;> rfl

theorem applyLine?_ending (standard : fix ∈ Registry.standard) {ending : Text}
    (ends : ending = [] ∨ ending = ['\r']) (line : Text) :
    fix.applyLine? (line ++ ending) = (fix.applyLine? line).map fun new =>
      if fix.ruleId = "MAINT004" then new else new ++ ending := by
  rcases ends with rfl | rfl
  · simp
  · by_cases debugger : fix.ruleId = "MAINT004"
    · obtain rfl := eq_dropDebuggerFix standard debugger
      rw [applyLine?_dropDebugger_append]
      simp [debugger]
    · rw [applyLine?_append standard debugger]
      simp [debugger]

theorem dropsReturn_record (standard : fix ∈ Registry.standard) :
    (fix.record line before after).DropsReturn count ↔ fix.ruleId = "MAINT004" ∧ line < count := by
  have all : ∀ fix ∈ Registry.standard, fix.ruleId ≠ "PREREQ" := by decide +kernel
  simp [AppliedFix.DropsReturn, FixPattern.record, all fix standard]

theorem carries_set {full drops : Bool} {lines returned : List Text} {index : Nat} {ending : Text}
    (place : Carries.At full lines returned index before ending) (inside : index < lines.length)
    (new : Text) :
    ∃ kept, Carries (full && kept) (lines.set index new)
        (returned.set index (if drops then new else new ++ ending)) ∧
      (kept = true ↔ ¬ (drops = true ∧ index + 1 < lines.length)) := by
  by_cases lost : drops = true ∧ index + 1 < lines.length
  · refine ⟨false, ?_, by simp [lost]⟩
    rw [if_pos lost.1, Bool.and_false]
    exact place.lost lost.2 new
  · refine ⟨true, ?_, by simp [lost]⟩
    rw [Bool.and_true]
    split
    · next drop =>
        have notBelow : ¬ index + 1 < lines.length := fun less => lost ⟨drop, less⟩
        have last := place.final (by omega)
        simpa [last] using place.kept new
    · exact place.kept new

theorem Parallel.attempt (parallel : Parallel start count progress returned)
    (standard : fix ∈ Registry.standard) (line : Nat) :
    Parallel start count (progress.attempt fix line) (returned.attempt fix line) := by
  obtain ⟨full, carries, whole⟩ := parallel.carries
  by_cases outside : ¬ (line ≠ 0 ∧ line ≤ progress.lines.length)
  · rw [attempt_of_outside outside, attempt_of_outside (carries.length_eq ▸ outside)]
    exact parallel
  obtain ⟨positive, inside⟩ := not_not.mp outside
  have below : line - 1 < progress.lines.length := by omega
  have here := List.getElem?_eq_getElem below
  obtain ⟨ending, place⟩ := carries.exists_at here
  have both := applyLine?_ending standard place.cases progress.lines[line - 1]
  cases changed : fix.applyLine? progress.lines[line - 1] with
  | none =>
      rw [changed] at both
      rw [attempt_of_none here changed, attempt_of_none place.here both]
      exact parallel
  | some after =>
      rw [changed, Option.map_some] at both
      rw [attempt_of_some positive here changed, attempt_of_some positive place.here both]
      have free := parallel.plain _ (List.getElem_mem below)
      have one := parallel.clean _ (List.getElem_mem below)
      refine ⟨?_, parallel.plain.set _ (not_mem_applyLine? standard changed free),
        parallel.clean.set _ ((lineLoad_applyLine? standard changed).2 one), ?_, ?_, ?_⟩
      · rw [List.length_set, parallel.size]
      · rw [List.length_append, List.length_append, parallel.fixes]
        rfl
      · rw [parallel.needed]
      obtain ⟨kept, carries, last⟩ :=
        @carries_set _ full (decide (fix.ruleId = "MAINT004")) _ _ _ _ place below after
      rw [Nat.sub_add_cancel (Nat.pos_of_ne_zero positive), parallel.size, decide_eq_true_eq,
        ← @dropsReturn_record fix count line progress.lines[line - 1] after standard] at last
      simp only [decide_eq_true_eq] at carries
      refine ⟨full && kept, carries, ?_⟩
      rw [Bool.and_eq_true, whole, last, List.forall_mem_append,
        List.forall_mem_singleton, and_assoc]

theorem Parallel.tryAll {tried : List (FixPattern × Nat)}
    (standard : ∀ attempt ∈ tried, attempt.1 ∈ Registry.standard)
    (parallel : Parallel start count progress returned) :
    Parallel start count (progress.tryAll tried) (returned.tryAll tried) := by
  induction tried generalizing progress returned with
  | nil => exact parallel
  | cons attempt tried ih =>
      obtain ⟨fix, line⟩ := attempt
      rw [List.forall_mem_cons] at standard
      exact ih standard.2 (parallel.attempt standard.1 line)

end Progress

theorem parallel_patternPhase {full : Bool} {content returned : Text}
    (carries : Carries full (Text.pieces content) (Text.pieces returned))
    (plain : Plain (Text.pieces content)) (options : CorrectionOptions) (places : List Place) :
    Progress.Parallel full (Text.pieces content).length
      (patternPhase .standard options content places)
      (patternPhase .standard options returned places) := by
  refine Progress.Parallel.tryAll (fun attempt tried => (mem_attempts.mp tried).1) ?_
  exact ⟨rfl, plain, fun _ => Text.not_mem_of_mem_pieces, rfl, rfl, full, carries, by simp⟩

end Compliance
