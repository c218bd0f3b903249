import Compliance.Proofs.Fix.ImportAlike
import Compliance.Proofs.Fix.LineEnds

/-!
# Correction of contents with carriage returns

A content with carriage returns in front of its newlines is checked as the content without
them.  It is also corrected like it, as long as no fix drops a `debugger` line above the last one
and no line is put in for an import: such a line ends without a carriage return, and nothing that
comes later puts one there.
-/

namespace Compliance

variable {full : Bool} {lines : List Text} {content returned : Text} {count : Nat}

theorem plain_pieces (plain : '\r' ∉ content) : Plain (Text.pieces content) := by
  intro line here inside
  obtain ⟨earlier, later, shape⟩ := List.append_of_mem here
  rw [← Text.unpieces_pieces content, shape, Text.unpieces_append_cons] at plain
  exact plain (by simp [inside])

theorem shadow_crlf (plain : '\r' ∉ content) :
    Shadow true (Text.pieces content) (Text.crlf content) :=
  ⟨Carries.pieces_crlf content, plain_pieces plain, fun _ => Text.not_mem_of_mem_pieces⟩

namespace Shadow

theorem eq_crlf (shadow : Shadow true (Text.pieces content) returned) :
    returned = Text.crlf content := by
  have joined := shadow.carries.unpieces_eq rfl shadow.clean
  rwa [Text.unpieces_pieces, Text.unpieces_pieces] at joined

theorem ne_crlf (shadow : Shadow false lines returned) (text : Text) :
    returned ≠ Text.crlf text := by
  have differs := shadow.carries.unpieces_ne shadow.plain (fun _ => Text.not_mem_of_mem_pieces) text
  rwa [Text.unpieces_pieces] at differs

theorem lines_eq (shadow : Shadow full (Text.pieces content) returned) :
    Text.lines returned = Text.lines content :=
  shadow.carries.linesOfPieces_eq shadow.plain

theorem pieces_eq (shadow : Shadow full lines returned) :
    Text.pieces (Text.unpieces lines) = lines :=
  Text.pieces_unpieces shadow.carries.ne_nil.1 shadow.clean

end Shadow

/-- What a step leaves of a content, and of one with carriage returns: the same changes and all
carriage returns, or a newline without one. -/
inductive Follows (full : Bool) (count : Nat) (first second : Text × List AppliedFix) : Prop
  | kept (whole : full = true) (keeps : ∀ record ∈ first.2, ¬ record.DropsReturn count)
      (shadow : Shadow true (Text.pieces first.1) second.1)
      (length : second.2.length = first.2.length)
  | lost (drops : full = true → ∃ record ∈ first.2, record.DropsReturn count) (others : List Text)
      (shadow : Shadow false others second.1)

theorem Follows.append {part : Bool} {first second : Text × List AppliedFix}
    (follows : Follows part count first second) (fixes fixes' : List AppliedFix)
    (whole : part = true ↔ full = true ∧ ∀ record ∈ fixes, ¬ record.DropsReturn count)
    (length : fixes'.length = fixes.length) :
    Follows full count (first.1, fixes ++ first.2) (second.1, fixes' ++ second.2) := by
  cases follows with
  | kept all keeps shadow same =>
      obtain ⟨all, kept⟩ := whole.mp all
      refine .kept all (List.forall_mem_append.mpr ⟨kept, keeps⟩) shadow ?_
      rw [List.length_append, List.length_append, length, same]
  | lost drops others shadow =>
      refine .lost (fun all => ?_) others shadow
      by_cases kept : ∀ record ∈ fixes, ¬ record.DropsReturn count
      · obtain ⟨record, here, drop⟩ := drops (whole.mpr ⟨all, kept⟩)
        exact ⟨record, List.mem_append_right _ here, drop⟩
      · simp only [not_forall, not_not, exists_prop] at kept
        obtain ⟨record, here, drop⟩ := kept
        exact ⟨record, List.mem_append_left _ here, drop⟩

theorem importRecord_dropsReturn_iff {needed : Prerequisite} {edit : ImportEdit} :
    (importRecord needed edit).DropsReturn count ↔ edit.before = [] := by
  simp [AppliedFix.DropsReturn, importRecord]

theorem follows_importPhase {wanted : List Prerequisite} (single : ∀ needed ∈ wanted, needed.Single)
    (shadow : Shadow full lines returned) (count : Nat) :
    Follows full count (importPhase wanted (Text.unpieces lines))
      (importPhase wanted returned) := by
  induction wanted generalizing full lines returned with
  | nil =>
      cases full with
      | true => exact .kept rfl (by simp [importPhase]) (by rwa [importPhase, shadow.pieces_eq]) rfl
      | false => exact .lost (by simp) lines shadow
  | cons needed wanted ih =>
      rw [List.forall_mem_cons] at single
      have alike := Prerequisite.alike_ensure? single.1 shadow
      unfold importPhase
      generalize needed.ensure? (Text.unpieces lines) = one, needed.ensure? returned =
        other at alike
      cases alike with
      | none => exact ih single.2 shadow
      | @some edit other alike =>
          cases alike with
          | @extended index before after ending here holds place free one =>
              have extended : Shadow full (lines.set index after)
                  (replaceLine (Text.pieces returned) index (before ++ ending)
                    (after ++ ending)).content :=
                .of_unpieces (place.kept after) (shadow.plain.set index free)
                  (shadow.clean.set index one)
              refine (ih single.2 extended).append [_] [_] ?_ rfl
              rw [List.forall_mem_singleton, importRecord_dropsReturn_iff]
              exact (and_iff_left holds).symm
          | added others before _ added =>
              have drops : (importRecord needed edit).DropsReturn count :=
                importRecord_dropsReturn_iff.mpr before
              cases ih single.2 added with
              | kept whole => cases whole
              | lost _ others shadow =>
                  exact .lost (fun _ => ⟨_, List.mem_cons_self, drops⟩) others shadow

theorem single_of_standard {exception : String} {keyword : Pattern}
    (listed : (exception, keyword) ∈ exceptionKeywords) :
    (⟨exception, "@nestjs/common"⟩ : Prerequisite).Single := by
  rcases name_of_listed listed with rfl | rfl | rfl | rfl <;> constructor <;> decide

theorem follows_applyFixes (shadow : Shadow full (Text.pieces content) returned)
    (options : CorrectionOptions) (places : List Place) :
    Follows full (Text.pieces content).length (applyFixes .standard options content places)
      (applyFixes .standard options returned places) := by
  have parallel := parallel_patternPhase shadow.carries shadow.plain options places
  have listed := (inUse_patternPhase options content places).exceptions
  simp only [applyFixes]
  generalize patternPhase .standard options content places = progress at parallel listed
  generalize patternPhase .standard options returned places = other at parallel
  have single : ∀ needed ∈ progress.needed, needed.Single := by
    intro needed wanted
    obtain ⟨exception, keyword, pair, rfl⟩ := listed needed wanted
    exact single_of_standard pair
  obtain ⟨part, carries, kept⟩ := parallel.carries
  have imports := follows_importPhase single (.of_unpieces carries parallel.plain parallel.clean)
    (Text.pieces content).length
  rw [parallel.needed]
  exact imports.append progress.fixes other.fixes kept parallel.fixes

theorem fixes_applyFixes_returned (shadow : Shadow full (Text.pieces content) returned)
    (options : CorrectionOptions) (places : List Place) :
    (applyFixes .standard options returned places).2 = [] ↔
      (applyFixes .standard options content places).2 = [] := by
  have parallel := parallel_patternPhase shadow.carries shadow.plain options places
  rw [fixes_applyFixes_eq_nil_iff, fixes_applyFixes_eq_nil_iff, ← List.length_eq_zero_iff,
    parallel.fixes, List.length_eq_zero_iff]

/-! ## Rounds -/

/-- Every line that the fixes of the round leave behind has the line end it had. -/
def Iteration.KeepsReturns (round : Iteration) : Prop :=
  ∀ record ∈ round.fixes, ¬ record.DropsReturn (Text.pieces round.start).length

namespace Corrector

variable {α : Type} [Scalar α] {corrector : Corrector α} {name : String} {cap : Nat}
  {before : List Violation} {corrected corrected' : Text} {fixes fixes' : List AppliedFix}
  {ending other : Ending}

theorem violations_of_lines (corrector : Corrector α) (name : String)
    (same : Text.lines returned = Text.lines content) :
    corrector.violations name returned = corrector.violations name content := by
  simp only [violations, Engine.run, Engine.runPlan, Engine.evaluate, inspect, inspectFile,
    List.flatMap_singleton, same]
  rfl

omit [Scalar α] in
theorem follows_step (standard : corrector.registry = .standard)
    (shadow : Shadow full (Text.pieces content) returned)
    (moves : corrector.step content before = (corrected, fixes)) :
    ∃ corrected' fixes', corrector.step returned before = (corrected', fixes') ∧
      Follows full (Text.pieces content).length (corrected, fixes) (corrected', fixes') ∧
      (fixes' = [] ↔ fixes = []) := by
  have follows := follows_applyFixes shadow corrector.options
    (before.map fun violation => ⟨violation.ruleId, violation.line⟩)
  have still := fixes_applyFixes_returned shadow corrector.options
    (before.map fun violation => ⟨violation.ruleId, violation.line⟩)
  rw [step, standard] at moves
  rw [moves] at follows still
  have moves' : corrector.step returned before = applyFixes .standard corrector.options returned
      (before.map fun violation => ⟨violation.ruleId, violation.line⟩) := by
    rw [step, standard]
  exact ⟨_, _, moves', follows, still⟩

theorem Course.lost (standard : corrector.registry = .standard)
    (course : corrector.Course name cap returned before ending)
    (shadow : Shadow false lines returned) :
    ∃ others, Shadow false others ending.final := by
  have step {returned corrected : Text} {before : List Violation} {fixes : List AppliedFix}
      {lines : List Text} (shadow : Shadow false lines returned)
      (moves : corrector.step returned before = (corrected, fixes)) :
      ∃ others, Shadow false others corrected := by
    rw [← shadow.pieces_eq] at shadow
    obtain ⟨corrected', fixes', moves', follows, -⟩ :=
      follows_step standard shadow (show corrector.step _ before = (_, _) from rfl)
    obtain ⟨rfl, -⟩ := Prod.mk.inj (moves.symm.trans moves')
    cases follows with
    | kept whole => cases whole
    | lost _ others later => exact ⟨others, later⟩
  induction course generalizing lines with
  | exhausted => exact ⟨lines, shadow⟩
  | stalled => exact ⟨lines, shadow⟩
  | resolved moves => exact step shadow moves
  | further moves changed checked left rest ih =>
      obtain ⟨others, later⟩ := step shadow moves
      exact ih later

theorem Course.lost_of_step (standard : corrector.registry = .standard)
    (course : corrector.Course name (cap + 1) returned before ending)
    (moves : corrector.step returned before = (corrected, fixes)) (changed : fixes ≠ [])
    (shadow : Shadow false lines corrected) : ∃ others, Shadow false others ending.final := by
  cases course with
  | stalled still =>
      rw [moves] at still
      exact absurd still changed
  | resolved moved =>
      obtain ⟨rfl, -⟩ := Prod.mk.inj (moves.symm.trans moved)
      exact ⟨lines, shadow⟩
  | further moved _ _ _ rest =>
      obtain ⟨rfl, -⟩ := Prod.mk.inj (moves.symm.trans moved)
      obtain ⟨others, later⟩ := rest.lost standard shadow
      exact ⟨others, later⟩

theorem Course.alike (standard : corrector.registry = .standard)
    (course : corrector.Course name cap content before ending)
    (shadow : Shadow true (Text.pieces content) returned)
    (keeps : ∀ round ∈ ending.iterations, round.KeepsReturns) :
    ∃ other, corrector.Course name cap returned before other ∧ other.outcome = ending.outcome ∧
      (other.iterations.flatMap (·.fixes)).length = (ending.iterations.flatMap (·.fixes)).length ∧
      Shadow true (Text.pieces ending.final) other.final := by
  induction course generalizing returned with
  | exhausted => exact ⟨_, .exhausted, rfl, rfl, shadow⟩
  | @stalled cap content before still =>
      obtain ⟨_, _, moves', -, same⟩ :=
        follows_step standard shadow (show corrector.step content before = (_, _) from rfl)
      exact ⟨_, .stalled (by rw [moves']; exact same.mpr still), rfl, rfl, shadow⟩
  | @resolved cap content corrected before fixes moves changed checked =>
      obtain ⟨corrected', fixes', moves', follows, still⟩ := follows_step standard shadow moves
      cases follows with
      | lost drops =>
          obtain ⟨record, here, drop⟩ := drops rfl
          exact absurd drop (keeps _ List.mem_cons_self record here)
      | kept _ _ later length =>
          have checked' := (violations_of_lines corrector name later.lines_eq).trans checked
          exact ⟨_, .resolved moves' (mt still.mp changed) checked', rfl, by
            simpa using length, later⟩
  | @further cap content corrected before remaining fixes ending moves changed checked
      left rest ih =>
      obtain ⟨corrected', fixes', moves', follows, still⟩ := follows_step standard shadow moves
      rw [List.forall_mem_cons] at keeps
      cases follows with
      | lost drops =>
          obtain ⟨record, here, drop⟩ := drops rfl
          exact absurd drop (keeps.1 record here)
      | kept _ _ later length =>
          have checked' := (violations_of_lines corrector name later.lines_eq).trans checked
          obtain ⟨other, course, outcome, count, final⟩ := ih later keeps.2
          refine ⟨_, .further moves' (mt still.mp changed) checked' left course, outcome, ?_, final⟩
          rw [List.flatMap_cons, List.flatMap_cons, List.length_append, List.length_append, count]
          exact congrArg (· + _) length

theorem Course.dropped (standard : corrector.registry = .standard)
    (course : corrector.Course name cap content before ending)
    (shadow : Shadow true (Text.pieces content) returned)
    (drops : ∃ round ∈ ending.iterations, ¬ round.KeepsReturns)
    (course' : corrector.Course name cap returned before other) :
    ∃ others, Shadow false others other.final := by
  induction course generalizing returned other with
  | exhausted => simp at drops
  | stalled => simp at drops
  | @resolved cap content corrected before fixes moves changed checked =>
      obtain ⟨corrected', fixes', moves', follows, still⟩ := follows_step standard shadow moves
      cases follows with
      | lost _ others later =>
          exact course'.lost_of_step standard moves' (mt still.mp changed) later
      | kept _ keeps =>
          obtain ⟨round, here, drops⟩ := drops
          obtain rfl := List.mem_singleton.mp here
          exact absurd keeps drops
  | @further cap content corrected before remaining fixes ending moves changed checked
      left rest ih =>
      obtain ⟨corrected', fixes', moves', follows, still⟩ := follows_step standard shadow moves
      cases follows with
      | lost _ others later =>
          exact course'.lost_of_step standard moves' (mt still.mp changed) later
      | kept _ keeps later =>
          have drops' : ∃ round ∈ ending.iterations, ¬ round.KeepsReturns := by
            obtain ⟨round, here, drops⟩ := drops
            rcases List.mem_cons.mp here with rfl | here
            · exact absurd keeps drops
            · exact ⟨round, here, drops⟩
          have checked' := (violations_of_lines corrector name later.lines_eq).trans checked
          cases course' with
          | stalled nothing =>
              rw [moves'] at nothing
              exact absurd (still.mp nothing) changed
          | resolved moved _ clean =>
              obtain ⟨rfl, -⟩ := Prod.mk.inj (moves'.symm.trans moved)
              exact absurd (Except.ok.inj (checked'.symm.trans clean)) left
          | further moved _ again _ course' =>
              obtain ⟨rfl, -⟩ := Prod.mk.inj (moves'.symm.trans moved)
              obtain rfl := Except.ok.inj (checked'.symm.trans again)
              obtain ⟨others, final⟩ := ih later drops' course'
              exact ⟨others, final⟩

/-! ## Corrections -/

theorem correct_of_course {file : SourceFile}
    (found : corrector.violations file.name file.content = .ok before) (dirty : before ≠ [])
    (course : corrector.Course file.name corrector.options.maxIterations file.content
      before ending) :
    corrector.correct file = .ok (ending.toCorrection file) := by
  rw [correct_of_dirty found dirty, loop_of_course course]
  rfl

/-- The correction of a content with carriage returns is that of the content without them, with the
carriage returns put in, exactly if no round drops a line end. -/
theorem correct_crlf_iff (standard : corrector.registry = .standard) {file : SourceFile}
    (plain : '\r' ∉ file.content) {correction : Correction}
    (ended : corrector.correct file = .ok correction) :
    (∃ other, corrector.correct ⟨file.name, Text.crlf file.content⟩ = .ok other ∧
        other.outcome = correction.outcome ∧ other.fixCount = correction.fixCount ∧
        other.final = Text.crlf correction.final) ↔
      ∀ round ∈ correction.iterations, round.KeepsReturns := by
  have shadow := shadow_crlf plain
  have checks := violations_of_lines corrector file.name shadow.lines_eq
  rcases correct_cases ended with ⟨clean, rfl⟩ | ⟨before, ending, found, dirty, course, rfl⟩
  · have clean' := checks.trans clean
    have ended' := @correct_of_clean _ _ corrector ⟨file.name, Text.crlf file.content⟩ clean'
    exact iff_of_true ⟨_, ended', rfl, rfl, rfl⟩ fun round here => absurd here List.not_mem_nil
  have found' := checks.trans found
  constructor
  · rintro ⟨other, ended', -, -, final⟩
    by_contra drops
    simp only [not_forall, exists_prop] at drops
    rcases correct_cases ended' with ⟨clean, -⟩ | ⟨before', ending', found'', -, course', rfl⟩
    · exact dirty (Except.ok.inj (found'.symm.trans clean))
    · obtain rfl := Except.ok.inj (found'.symm.trans found'')
      obtain ⟨others, lost⟩ := course.dropped standard shadow drops course'
      exact lost.ne_crlf _ final
  · intro keeps
    obtain ⟨ending', course', outcome, count, later⟩ := course.alike standard shadow keeps
    exact ⟨_, correct_of_course found' dirty course', outcome, count, later.eq_crlf⟩

def debuggerCorrector : Corrector Float :=
  ⟨{ catalog := .standard }, .standard, { rules := ["MAINT004"] }, {}⟩

def debuggerFile : SourceFile := ⟨"a.ts", "debugger;\nnext();\n".toList⟩

theorem correct_crlf_debuggerFile :
    debuggerCorrector.registry = .standard ∧ '\r' ∉ debuggerFile.content ∧
      ∃ correction other, debuggerCorrector.correct debuggerFile = .ok correction ∧
        debuggerCorrector.correct ⟨"a.ts", Text.crlf debuggerFile.content⟩ = .ok other ∧
        correction.final = "\nnext();\n".toList ∧ other.final = "\nnext();\r\n".toList ∧
        ((∃ other, debuggerCorrector.correct ⟨"a.ts", Text.crlf debuggerFile.content⟩ = .ok other ∧
            other.outcome = correction.outcome ∧ other.fixCount = correction.fixCount ∧
            other.final = Text.crlf correction.final) ↔
          ∀ round ∈ correction.iterations, round.KeepsReturns) := by
  have plain : '\r' ∉ debuggerFile.content := by decide
  have runs : (debuggerCorrector.correct debuggerFile).toOption.map (·.final) =
      some "\nnext();\n".toList := by
    decide +kernel
  have runs' : (debuggerCorrector.correct ⟨"a.ts", Text.crlf debuggerFile.content⟩).toOption.map
      (·.final) = some "\nnext();\r\n".toList := by
    decide +kernel
  obtain ⟨correction, ended, final⟩ := exists_ok_of_toOption runs
  obtain ⟨other, ended', final'⟩ := exists_ok_of_toOption runs'
  exact ⟨rfl, plain, correction, other, ended, ended', final, final',
    correct_crlf_iff rfl plain ended⟩

end Corrector

end Compliance
