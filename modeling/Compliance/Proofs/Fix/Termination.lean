import Compliance.Proofs.Fix.ImportLoad
import Compliance.Proofs.Fix.Loop
import Compliance.Proofs.Fix.Replay

/-!
# The built-in fixes come to an end

Every round of correction with the built-in fixes lowers the load of the content,
imports included, so no loop is longer than the load of its first content.
-/

namespace Compliance

theorem Prerequisite.length_insert_le (new : Prerequisite) (others : List Prerequisite) :
    (new.insert others).length ≤ others.length + 1 := by
  induction others with
  | nil => exact Nat.le_refl _
  | cons other others ih =>
      unfold insert
      split
      · exact Nat.le_refl _
      · split
        · exact Nat.le_succ _
        · simp only [List.length_cons]
          omega

theorem Prerequisite.mem_insert {new other : Prerequisite} {others : List Prerequisite} :
    other ∈ new.insert others ↔ other = new ∨ other ∈ others := by
  induction others with
  | nil => simp [insert]
  | cons first others ih =>
      unfold insert
      split
      · simp
      · split
        · next same => simp [same]
        · rw [List.mem_cons, List.mem_cons, ih, or_left_comm]

/-- Lines that have paid for every fix and for every import still to come. -/
structure Progress.Paid (start : Nat) (progress : Progress) : Prop where
  nonempty : progress.lines ≠ []
  clean : Clean progress.lines
  light : ∀ needed ∈ progress.needed, needed.Light
  caused : progress.needed.length ≤ progress.fixes.length
  paid : load progress.lines + progress.fixes.length + progress.needed.length ≤ start

theorem lines_set_ne_nil {lines : List Text} (nonempty : lines ≠ []) (index : Nat) (new : Text) :
    lines.set index new ≠ [] := by
  rw [← List.length_pos_iff, List.length_set]
  exact List.length_pos_iff.mpr nonempty

theorem Progress.Paid.attempt {start : Nat} {progress : Progress} (paid : progress.Paid start)
    {fix : FixPattern} (listed : fix ∈ Registry.standard) (line : Nat) :
    (progress.attempt fix line).Paid start := by
  rcases progress.attempt_cases fix line with same | ⟨before, after, -, here, changed, moved⟩
  · rwa [same]
  · obtain ⟨lower, oneLine⟩ := lineLoad_applyLine? listed changed
    have nonempty := lines_set_ne_nil paid.nonempty (line - 1) after
    have clean := paid.clean.set (line - 1)
        (oneLine (paid.clean before (List.mem_of_getElem? here)))
    have weight := load_set here after
    have total := paid.paid
    have caused := paid.caused
    rw [moved]
    cases requires : fix.prerequisite with
    | none =>
        have gain : gainOf fix = 1 := by simp [gainOf, requires]
        refine ⟨nonempty, clean, paid.light, ?_, ?_⟩ <;>
          simp only [Option.map_none, Option.getD_none, List.length_append,
            List.length_singleton] <;>
          omega
    | some needed =>
        have gain : gainOf fix = 2 := by simp [gainOf, requires]
        have grown := needed.length_insert_le progress.needed
        refine ⟨nonempty, clean, ?_, ?_, ?_⟩
        · intro other here
          rcases Prerequisite.mem_insert.mp here with rfl | here
          · exact light_of_mem_standard listed requires
          · exact paid.light other here
        · simp only [Option.map_some, Option.getD_some, List.length_append, List.length_singleton]
          omega
        · simp only [Option.map_some, Option.getD_some, List.length_append, List.length_singleton]
          omega

theorem paid_patternPhase (options : CorrectionOptions) (content : Text) (places : List Place) :
    (patternPhase .standard options content places).Paid (load (Text.pieces content)) := by
  apply patternPhase_induction
  · constructor
    · exact Text.pieces_ne_nil content
    · exact fun _ here => Text.not_mem_of_mem_pieces here
    · simp
    · exact Nat.le_refl _
    · exact Nat.le_refl _
  · intro progress fix line tried paid
    exact paid.attempt (mem_attempts.mp tried).1 line

theorem load_importPhase_le {needed : List Prerequisite} (light : ∀ other ∈ needed, other.Light)
    (content : Text) :
    load (Text.pieces (importPhase needed content).1) ≤
      load (Text.pieces content) + needed.length := by
  induction needed generalizing content with
  | nil => exact Nat.le_refl _
  | cons first others ih =>
      have rest := ih fun other here => light other (by simp [here])
      unfold importPhase
      split
      · have := rest content
        simp only [List.length_cons]
        omega
      · next edit added =>
          have one := (light first (by simp)).load_ensure?_le added
          have := rest edit.content
          simp only [List.length_cons]
          omega

/-! ## Rounds -/

/-- Without a fix there is no import to add. -/
theorem fixes_applyFixes_eq_nil_iff (options : CorrectionOptions) (content : Text)
    (places : List Place) :
    (applyFixes .standard options content places).2 = [] ↔
      (patternPhase .standard options content places).fixes = [] := by
  have caused := (paid_patternPhase options content places).caused
  simp only [applyFixes]
  generalize patternPhase .standard options content places = progress at caused
  refine ⟨fun none => (List.append_eq_nil_iff.mp none).1, fun none => ?_⟩
  rw [none, List.length_nil, Nat.le_zero, List.length_eq_zero_iff] at caused
  rw [none, caused]
  rfl

theorem load_applyFixes_lt {options : CorrectionOptions} {content corrected : Text}
    {places : List Place} {fixes : List AppliedFix}
    (moves : applyFixes .standard options content places = (corrected, fixes))
    (changed : fixes ≠ []) : load (Text.pieces corrected) < load (Text.pieces content) := by
  have paid := paid_patternPhase options content places
  have some : 0 < (patternPhase .standard options content places).fixes.length := by
    rw [List.length_pos_iff, Ne, ← fixes_applyFixes_eq_nil_iff, moves]
    exact changed
  unfold applyFixes at moves
  generalize patternPhase .standard options content places = progress at paid some moves
  obtain ⟨lines, done, needed⟩ := progress
  obtain ⟨nonempty, clean, light, -, total⟩ := paid
  have lines' := Text.pieces_unpieces nonempty clean
  have imports := load_importPhase_le light (Text.unpieces lines)
  rw [lines'] at imports
  simp only [Prod.mk.injEq] at moves
  obtain ⟨rfl, rfl⟩ := moves
  simp only at total imports some
  omega

namespace Corrector

variable {α : Type} [Scalar α] {corrector : Corrector α} {name : String}

theorem rounds_add_load_le (standard : corrector.registry = .standard) {start final : Text}
    {rounds : List Iteration} (chained : Chained start rounds final)
    (faithful : ∀ round ∈ rounds, corrector.Faithful name round) :
    rounds.length + load (Text.pieces final) ≤ load (Text.pieces start) := by
  induction rounds generalizing start with
  | nil =>
      obtain rfl : final = start := chained
      simp
  | cons round rounds ih =>
      obtain ⟨rfl, later⟩ := chained
      obtain ⟨changed, ⟨before, -, moves⟩, -⟩ := faithful round (by simp)
      rw [step, standard] at moves
      have lower := load_applyFixes_lt moves changed
      have rest := ih later fun other here => faithful other (by simp [here])
      simp only [List.length_cons]
      omega

theorem outcome_ne_iterationLimit (standard : corrector.registry = .standard) {file : SourceFile}
    {correction : Correction} (ended : corrector.correct file = .ok correction)
    (enough : load (Text.pieces file.content) < corrector.options.maxIterations) :
    correction.outcome ≠ .iterationLimit := by
  rcases correct_cases ended with ⟨-, rfl⟩ | ⟨before, ending, found, dirty, course, rfl⟩
  · simp
  · intro limit
    have traced := course.traced found
    have reason := course.explained dirty
    have full : ending.iterations.length = corrector.options.maxIterations := by
      obtain ⟨rounds, final, remaining, outcome⟩ := ending
      obtain rfl : outcome = .iterationLimit := limit
      exact reason.2
    have cost := rounds_add_load_le standard traced.chained traced.faithful
    omega

/-- The built-in fixes cannot go round in circles: for each file there is a cap that no loop over
them reaches, whatever the engine reports. -/
theorem correct_standard_ends (file : SourceFile) :
    ∃ bound, ∀ (engine : Engine α) (selection : Selection) (options : CorrectionOptions),
      bound ≤ options.maxIterations →
      ((⟨engine, .standard, selection, options⟩ : Corrector α).correct file).map (·.outcome) ≠
        .ok .iterationLimit := by
  refine ⟨load (Text.pieces file.content) + 1, fun engine selection options enough limit => ?_⟩
  cases ended : (⟨engine, .standard, selection, options⟩ : Corrector α).correct file with
  | error fault =>
      rw [ended] at limit
      cases limit
  | ok correction =>
      rw [ended] at limit
      exact outcome_ne_iterationLimit rfl ended enough (Except.ok.inj limit)

theorem correct_standard_ends_of_thrown_literal :
    ∃ bound, ((⟨{ catalog := .standard }, .standard, { rules := ["ERR001", "ERR005"] },
      { maxIterations := bound }⟩ : Corrector Float).correct
        ⟨"a.ts", "throw 'not found'".toList⟩).map (·.outcome) ≠ .ok .iterationLimit := by
  obtain ⟨bound, ends⟩ := @correct_standard_ends Float _ ⟨"a.ts", "throw 'not found'".toList⟩
  exact ⟨bound, ends _ _ { maxIterations := bound } (Nat.le_refl bound)⟩

end Corrector

end Compliance
