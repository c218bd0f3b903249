import Compliance.Proofs.Evaluation.Narrowing
import Compliance.Proofs.Fix.Loop
import Compliance.Proofs.Fix.Replay

/-!
# Corrections and names

A correction is a function of the content alone: of all built-in rules only four look at
the name of a file, and none of these has a fix.
-/

namespace Compliance

/-- The check gives the same under every name of the file. -/
def Rule.NameFree (rule : Rule) : Prop :=
  ∀ (context : LineContext) (name : String),
    rule.check { context with filename := name } = rule.check context

def namedRules : List String := ["SEC001", "REL003", "MAINT002", "TEN001"]

theorem nameFree_standard {rule : Rule} (listed : rule ∈ Catalog.standard.rules)
    (free : rule.id ∉ namedRules) : rule.NameFree := by
  simp only [Catalog.standard, securityRules, errorHandlingRules, performanceRules,
    reliabilityRules, maintainabilityRules, transactionRules, tenantRules, List.mem_append,
    List.mem_cons, List.not_mem_nil, or_false] at listed
  rcases listed with (((((listed | listed) | listed) | listed) | listed) | listed) | listed
  all_goals
    rcases listed with rfl | rfl | rfl | rfl | rfl <;>
      first | exact fun _ _ => rfl | exact absurd (by decide) free

namespace Hit

variable {context : LineContext} {rule : Rule}

theorem of?_rename (free : rule.NameFree) (name : String) :
    of? { context with filename := name } rule =
      (of? context rule).map fun hit => { hit with file := name } := by
  rw [of?, of?, free]
  rcases rule.check context with fault | none | finding <;> rfl

theorem violation?_rename (policy : Policy) (hit : Hit) (name : String) :
    violation? policy { hit with file := name } =
      (violation? policy hit).map fun violation => { violation with file := name } := by
  rw [violation?, violation?]
  change Option.bind hit.finding? _ = _
  cases hit.finding? with
  | none => rfl
  | some finding =>
      dsimp only [Option.bind_some]
      split <;> rfl

theorem ruleId_of_violation? {policy : Policy} {hit : Hit} {violation : Violation}
    (read : violation? policy hit = some violation) :
    violation.ruleId = hit.rule.id ∧ violation.line = hit.line := by
  obtain ⟨finding, -, read⟩ := Option.bind_eq_some_iff.mp read
  split at read
  · obtain rfl := Option.some.inj read
    exact ⟨rfl, rfl⟩
  · cases read

end Hit

namespace Corrector

variable {α : Type} [Scalar α] {corrector : Corrector α} {name other : String} {content : Text}
  {before found : List Violation}

omit [Scalar α] in
/-- No rule that has a fix looks at the name of the file. -/
def NameFree (corrector : Corrector α) : Prop :=
  ∀ rule ∈ corrector.engine.catalog.rules, ∀ fix ∈ corrector.registry,
    sameName rule.id fix.ruleId = true → rule.NameFree

omit [Scalar α] in
theorem nameFree_of_standard (catalog : corrector.engine.catalog = .standard)
    (registry : corrector.registry = .standard) : corrector.NameFree := by
  have apart : ∀ fix ∈ Registry.standard, ∀ id ∈ namedRules, sameName id fix.ruleId = false := by
    decide
  intro rule listed fix tried same
  refine nameFree_standard (catalog ▸ listed) fun named => ?_
  rw [apart fix (registry ▸ tried) rule.id named] at same
  cases same

theorem violations_eq_ok_iff {found : List Violation} :
    corrector.violations name content = .ok found ↔
      ∃ plan, corrector.selection.resolve corrector.engine.catalog corrector.engine.sops =
        .ok plan ∧ (corrector.engine.runPlan plan [⟨name, content⟩]).violations = found := by
  rw [violations, Engine.run]
  cases corrector.selection.resolve corrector.engine.catalog corrector.engine.sops with
  | error fault =>
      constructor
      · intro ended
        cases ended
      · rintro ⟨plan, resolved, -⟩
        cases resolved
  | ok plan => simp [Except.map]

theorem reported_rename (free : corrector.NameFree)
    (checked : corrector.violations name content = .ok before)
    (checked' : corrector.violations other content = .ok found) {fix : FixPattern}
    (tried : fix ∈ corrector.registry) {line : Nat} (reported : Reported before fix.ruleId line) :
    Reported found fix.ruleId line := by
  obtain ⟨plan, resolved, rfl⟩ := violations_eq_ok_iff.mp checked
  obtain ⟨plan', resolved', rfl⟩ := violations_eq_ok_iff.mp checked'
  obtain rfl := Except.ok.inj (resolved.symm.trans resolved')
  obtain ⟨chosen, keep, -, rfl⟩ := Selection.plan_of_resolve resolved
  obtain ⟨violation, here, same, rfl⟩ := reported
  rw [Engine.violations_runPlan] at here
  obtain ⟨entry, planned, here⟩ := List.mem_flatMap.mp here
  obtain ⟨hit, seen, read⟩ := List.mem_filterMap.mp here
  obtain ⟨file, source, context, place, rule, listed, given⟩ := mem_inspect_iff.mp seen
  obtain rfl := List.mem_singleton.mp source
  obtain ⟨-, -, isRule⟩ := Hit.eq_of_of? given
  obtain ⟨ruleId, line⟩ := Hit.ruleId_of_violation? read
  have inCatalog : rule ∈ corrector.engine.catalog.rules := by
    obtain ⟨category, -, rfl⟩ := List.mem_map.mp planned
    exact (Catalog.mem_byCategory.mp (List.mem_filter.mp listed).1).1
  have same' : sameName rule.id fix.ruleId = true := by rwa [← isRule, ← ruleId]
  have renamed := @Hit.of?_rename context rule (free rule inCatalog fix tried same') other
  rw [given, Option.map_some] at renamed
  have there : { context with filename := other } ∈
      LineContext.all (Text.lines content) other corrector.engine.window := by
    obtain ⟨index, inside, rfl⟩ := List.mem_map.mp place
    exact List.mem_map.mpr ⟨index, inside, rfl⟩
  have read' := Hit.violation?_rename corrector.engine.policy hit other
  rw [read, Option.map_some] at read'
  refine ⟨{ violation with file := other }, ?_, same, rfl⟩
  rw [Engine.violations_runPlan]
  refine List.mem_flatMap.mpr ⟨entry, planned, List.mem_filterMap.mpr ⟨_, ?_, read'⟩⟩
  exact mem_inspect_iff.mpr ⟨_, List.mem_singleton_self _, _, there, rule, listed, renamed⟩

omit [Scalar α] in
theorem step_congr {first second : List Violation}
    (same : ∀ fix ∈ corrector.registry, ∀ line,
      Reported first fix.ruleId line ↔ Reported second fix.ruleId line) :
    corrector.step content first = corrector.step content second := by
  have phases : corrector.phase content first = corrector.phase content second := by
    refine patternPhase_congr fun fix tried _ line _ _ => ?_
    rw [mem_targetLines_place, mem_targetLines_place]
    exact same fix tried line
  have step_eq (found : List Violation) : corrector.step content found =
      ((importPhase (corrector.phase content found).needed
          (Text.unpieces (corrector.phase content found).lines)).1,
        (corrector.phase content found).fixes ++
          (importPhase (corrector.phase content found).needed
            (Text.unpieces (corrector.phase content found).lines)).2) := rfl
  rw [step_eq, step_eq, phases]

theorem step_rename (free : corrector.NameFree)
    (checked : corrector.violations name content = .ok before)
    (checked' : corrector.violations other content = .ok found) :
    corrector.step content before = corrector.step content found :=
  step_congr fun _ tried _ =>
    ⟨reported_rename free checked checked' tried, reported_rename free checked' checked tried⟩

omit [Scalar α] in
theorem step_nil (corrector : Corrector α) (content : Text) :
    (corrector.step content []).2 = [] := by
  have untried : attempts corrector.registry corrector.options [] = [] := by
    simp [attempts, targetLines]
  simp [step, applyFixes, patternPhase, untried, importPhase]

/-! ## Final contents -/

def settle (corrector : Corrector α) : Nat → Text → Text
  | 0, content => content
  | cap + 1, content =>
      match corrector.violations "" content with
      | .error _ => content
      | .ok found =>
          let (corrected, fixes) := corrector.step content found
          if fixes.isEmpty then content else corrector.settle cap corrected

theorem exists_violations (checked : corrector.violations name content = .ok before)
    (other : String) : ∃ found, corrector.violations other content = .ok found := by
  obtain ⟨plan, resolved, -⟩ := violations_eq_ok_iff.mp checked
  exact ⟨_, violations_eq_ok_iff.mpr ⟨plan, resolved, rfl⟩⟩

theorem settle_of_still (free : corrector.NameFree)
    (checked : corrector.violations name content = .ok before)
    (still : (corrector.step content before).2 = []) (cap : Nat) :
    corrector.settle cap content = content := by
  cases cap with
  | zero => rfl
  | succ cap =>
      obtain ⟨found, checked'⟩ := exists_violations checked ""
      rw [step_rename free checked checked'] at still
      rw [settle, checked']
      exact if_pos (List.isEmpty_iff.mpr still)

theorem settle_of_step (free : corrector.NameFree)
    (checked : corrector.violations name content = .ok before) {corrected : Text}
    {fixes : List AppliedFix} (moves : corrector.step content before = (corrected, fixes))
    (changed : fixes ≠ []) (cap : Nat) :
    corrector.settle (cap + 1) content = corrector.settle cap corrected := by
  obtain ⟨found, checked'⟩ := exists_violations checked ""
  rw [step_rename free checked checked'] at moves
  rw [settle, checked']
  simp only [moves]
  exact if_neg (by simpa using changed)

theorem Course.final_eq_settle (free : corrector.NameFree) {cap : Nat} {ending : Ending}
    (course : corrector.Course name cap content before ending)
    (checked : corrector.violations name content = .ok before) :
    ending.final = corrector.settle cap content := by
  induction course with
  | exhausted => rfl
  | stalled still => exact (settle_of_still free checked still _).symm
  | resolved moves changed clean =>
      rw [settle_of_step free checked moves changed]
      exact (settle_of_still free clean (step_nil ..) _).symm
  | further moves changed checked' _ _ ih =>
      rw [settle_of_step free checked moves changed]
      exact ih checked'

theorem final_of_correct (free : corrector.NameFree) {file : SourceFile} {correction : Correction}
    (ended : corrector.correct file = .ok correction) :
    correction.file = file.name ∧ correction.initial = file.content ∧
      correction.final = corrector.settle corrector.options.maxIterations file.content := by
  rcases correct_cases ended with ⟨clean, rfl⟩ | ⟨before, ending, checked, -, course, rfl⟩
  · exact ⟨rfl, rfl, (settle_of_still free clean (step_nil ..) _).symm⟩
  · exact ⟨rfl, rfl, course.final_eq_settle free checked⟩

end Corrector

end Compliance
