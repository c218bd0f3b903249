import Compliance.Proofs.Rule.Registration
import Compliance.Evaluation

/-!
# The hits of an inspection

The stream of hits is all that a result is read off.  Leaving rules out leaves their hits
out, and a rule is among the suggestions if it gives a finding anywhere in the files.
-/

namespace Compliance

namespace Hit

variable {context : LineContext} {rule : Rule} {hit : Hit}

theorem eq_of_of? (found : of? context rule = some hit) :
    hit.file = context.filename ∧ hit.line = context.number ∧ hit.rule = rule := by
  rw [of?] at found
  split at found
  · cases found
  · obtain rfl := Option.some.inj found
    exact ⟨rfl, rfl, rfl⟩
  · obtain rfl := Option.some.inj found
    exact ⟨rfl, rfl, rfl⟩

theorem finding?_of? (context : LineContext) (rule : Rule) :
    (of? context rule).bind finding? = (rule.check context).toOption.join := by
  rw [of?]
  cases rule.check context with
  | error fault => rfl
  | ok finding => cases finding <;> rfl

theorem filterMap_of?_filter (keep : Rule → Bool) (context : LineContext) (rules : List Rule) :
    (rules.filter keep).filterMap (of? context) =
      (rules.filterMap (of? context)).filter (keep ·.rule) := by
  induction rules with
  | nil => rfl
  | cons rule rules ih =>
      cases found : of? context rule with
      | none => cases kept : keep rule <;> simp [kept, found, ih]
      | some hit =>
          obtain ⟨-, -, same⟩ := eq_of_of? found
          cases kept : keep rule <;> simp [kept, found, ih, same]

end Hit

theorem inspectFile_filter (keep : Rule → Bool) (window : Window) (rules : List Rule)
    (file : SourceFile) :
    inspectFile window (rules.filter keep) file =
      (inspectFile window rules file).filter (keep ·.rule) := by
  simp only [inspectFile, List.filter_flatMap, Hit.filterMap_of?_filter]

theorem inspect_filter (keep : Rule → Bool) (window : Window) (rules : List Rule)
    (files : List SourceFile) :
    inspect window (rules.filter keep) files =
      (inspect window rules files).filter (keep ·.rule) := by
  rw [inspect, inspect, List.filter_flatMap]
  exact congrArg (files.flatMap ·) (funext (inspectFile_filter keep window rules))

theorem inspect_append (window : Window) (rules : List Rule) (first second : List SourceFile) :
    inspect window rules (first ++ second) =
      inspect window rules first ++ inspect window rules second := by
  rw [inspect, List.flatMap_append]
  rfl

theorem mem_inspect_iff {window : Window} {rules : List Rule} {files : List SourceFile}
    {hit : Hit} :
    hit ∈ inspect window rules files ↔ ∃ file ∈ files,
      ∃ context ∈ LineContext.all (Text.lines file.content) file.name window,
        ∃ rule ∈ rules, Hit.of? context rule = some hit := by
  simp only [inspect, inspectFile, List.mem_flatMap, List.mem_filterMap]

def Rule.fires (rule : Rule) (window : Window) (files : List SourceFile) : Bool :=
  files.any fun file => (LineContext.all (Text.lines file.content) file.name window).any
    fun context => (rule.check context).toOption.join.isSome

theorem Rule.fires_append (rule : Rule) (window : Window) (first second : List SourceFile) :
    rule.fires window (first ++ second) = (rule.fires window first || rule.fires window second) :=
  List.any_append

theorem Rule.fires_iff {rule : Rule} {window : Window} {files : List SourceFile} :
    rule.fires window files = true ↔ ∃ file ∈ files,
      ∃ context ∈ LineContext.all (Text.lines file.content) file.name window,
        ∃ hit, Hit.of? context rule = some hit ∧ hit.finding?.isSome = true := by
  simp only [fires, List.any_eq_true, ← Hit.finding?_of?, Option.isSome_bind, Option.any_eq_true]

theorem suggestions_inspect {catalog : Catalog} (distinct : catalog.Distinct) {rules : List Rule}
    (listed : ∀ rule ∈ rules, rule ∈ catalog.rules) (window : Window) (files : List SourceFile) :
    Engine.suggestions rules (inspect window rules files) =
      (rules.filter (·.fires window files)).map (·.remediation) := by
  rw [Engine.suggestions]
  congr 1
  refine List.filter_congr fun rule here => ?_
  rw [Bool.eq_iff_iff, List.any_eq_true, Rule.fires_iff]
  constructor
  · rintro ⟨hit, inside, fires⟩
    obtain ⟨file, source, context, place, other, there, found⟩ := mem_inspect_iff.mp inside
    obtain ⟨-, -, same⟩ := Hit.eq_of_of? found
    obtain ⟨finds, sameId⟩ : hit.finding?.isSome = true ∧ hit.rule.id = rule.id := by
      simpa using fires
    obtain rfl : other = rule :=
      distinct.eq_of_id_eq (listed other there) (listed rule here) (same ▸ sameId)
    exact ⟨file, source, context, place, hit, found, finds⟩
  · rintro ⟨file, source, context, place, hit, found, finds⟩
    obtain ⟨-, -, same⟩ := Hit.eq_of_of? found
    exact ⟨hit, mem_inspect_iff.mpr ⟨file, source, context, place, rule, here, found⟩,
      by simp [finds, same]⟩

/-! ## Runs -/

namespace Engine

variable {α : Type} [Scalar α]

theorem categories_runPlan (engine : Engine α) (plan : Plan) (files : List SourceFile) :
    (engine.runPlan plan files).results.map (·.category) = plan.map (·.1) := by
  rw [runPlan, List.map_map, List.map_map]
  rfl

theorem violations_runPlan (engine : Engine α) (plan : Plan) (files : List SourceFile) :
    (engine.runPlan plan files).violations =
      plan.flatMap fun entry => (engine.evaluate entry.1 entry.2 files).1.violations := by
  rw [Run.violations, runPlan, List.flatMap_map, List.flatMap_map]

theorem warnings_runPlan (engine : Engine α) (plan : Plan) (files : List SourceFile) :
    (engine.runPlan plan files).warnings =
      plan.flatMap fun entry => (engine.evaluate entry.1 entry.2 files).1.warnings := by
  rw [Run.warnings, runPlan, List.flatMap_map, List.flatMap_map]

def hits (engine : Engine α) (category : Category) (files : List SourceFile) : List Hit :=
  inspect engine.window (engine.catalog.byCategory category) files

omit [Scalar α] in
theorem hits_append (engine : Engine α) (category : Category) (first second : List SourceFile) :
    engine.hits category (first ++ second) =
      engine.hits category first ++ engine.hits category second :=
  inspect_append ..

theorem results_runCategory (engine : Engine α) (category : Category) (files : List SourceFile) :
    (engine.runCategory category files).results =
      [engine.summarize category (engine.catalog.byCategory category)
        (engine.hits category files)] :=
  rfl

theorem violations_runCategory (engine : Engine α) (category : Category)
    (files : List SourceFile) :
    (engine.runCategory category files).violations =
      (engine.hits category files).filterMap (Hit.violation? engine.policy) := by
  rw [Run.violations, results_runCategory, List.flatMap_singleton]
  rfl

theorem warnings_runCategory (engine : Engine α) (category : Category) (files : List SourceFile) :
    (engine.runCategory category files).warnings =
      (engine.hits category files).filterMap (Hit.warning? engine.policy) := by
  rw [Run.warnings, results_runCategory, List.flatMap_singleton]
  rfl

theorem diagnostics_runCategory (engine : Engine α) (category : Category)
    (files : List SourceFile) :
    (engine.runCategory category files).diagnostics =
      (engine.hits category files).filterMap Hit.diagnostic? :=
  List.append_nil _

def standardEngine : Engine Float := { catalog := .standard }

end Engine

end Compliance
