import Compliance.Proofs.Evaluation.Hits

/-!
# Narrowed runs

A selection takes rules out of a run and changes nothing else: what is left of each
category is what a run of the whole category gives for the rules of the plan.
-/

namespace Compliance

def Plan.names (plan : Plan) (id : String) : Bool :=
  plan.any fun entry => entry.2.any (·.id == id)

def Plan.of (catalog : Catalog) (chosen : List Category) (keep : Rule → Bool) : Plan :=
  chosen.map fun category => (category, (catalog.byCategory category).filter keep)

theorem Plan.of_true (catalog : Catalog) (chosen : List Category) :
    Plan.of catalog chosen (fun _ => true) =
      chosen.map fun category => (category, catalog.byCategory category) :=
  List.map_congr_left fun _ _ => congrArg _ (List.filter_eq_self.mpr fun _ _ => rfl)

namespace Selection

theorem plan_eq (named : Named) (catalog : Catalog) :
    ∃ chosen, chosen.Sublist Category.all ∧
      named.plan catalog = Plan.of catalog chosen fun rule =>
        named.categories.contains rule.category || named.ruleIds.contains rule.id := by
  refine ⟨Category.all.filter fun category =>
    named.categories.contains category || !(named.rulesOf catalog category).isEmpty,
    List.filter_sublist, ?_⟩
  rw [Named.plan, Plan.of, List.filter_map]
  refine List.map_congr_left fun category _ => ?_
  refine congrArg (category, ·) (List.filter_congr fun rule here => ?_)
  rw [(Catalog.mem_byCategory.mp here).2]

theorem plan_of_resolve {selection : Selection} {catalog : Catalog} {sops : SopMap} {plan : Plan}
    (resolved : selection.resolve catalog sops = .ok plan) :
    ∃ chosen keep, chosen.Sublist Category.all ∧ plan = Plan.of catalog chosen keep := by
  rw [resolve] at resolved
  split at resolved
  · obtain rfl := Except.ok.inj resolved
    exact ⟨catalog.categories, fun _ => true, List.filter_sublist, (Plan.of_true ..).symm⟩
  · obtain ⟨named, -, rfl⟩ := exists_of_map_eq_ok resolved
    obtain ⟨chosen, ordered, same⟩ := plan_eq named catalog
    exact ⟨chosen, _, ordered, same⟩

theorem canonical_of_resolve {selection : Selection} {catalog : Catalog} {sops : SopMap}
    {plan : Plan} (resolved : selection.resolve catalog sops = .ok plan) :
    (plan.map (·.1)).Sublist Category.all := by
  obtain ⟨chosen, keep, ordered, rfl⟩ := plan_of_resolve resolved
  rw [Plan.of, List.map_map]
  exact (List.map_id chosen).symm ▸ ordered

theorem plan_of_categories (categories : List Category) (catalog : Catalog) :
    (Named.mk categories []).plan catalog =
      (Category.all.filter categories.contains).map fun category =>
        (category, catalog.byCategory category) := by
  have whole (category : Category) :
      (Named.mk categories []).rulesOf catalog category =
        if categories.contains category then catalog.byCategory category else [] := by
    rw [Named.rulesOf]
    cases taken : categories.contains category <;> simp
  rw [Named.plan, List.filter_map]
  have taken (category : Category) :
      (categories.contains category ||
        !((Named.mk categories []).rulesOf catalog category).isEmpty) =
        categories.contains category := by
    rw [whole]
    cases categories.contains category <;> simp
  simp only [Function.comp_def, taken]
  refine List.map_congr_left fun category here => ?_
  rw [whole, if_pos (List.mem_filter.mp here).2]

theorem parse_id (category : Category) : Category.parse category.id = .ok category := by
  cases category <;> rfl

theorem mapM_parse_id (categories : List Category) :
    (categories.map (·.id)).mapM Category.parse = .ok categories := by
  induction categories with
  | nil => rfl
  | cons category categories ih =>
      rw [List.map_cons, List.mapM_cons, parse_id, ih]
      rfl

theorem resolve_of_ids {categories : List Category} (nonempty : categories ≠ []) (catalog : Catalog)
    (sops : SopMap) :
    resolve { categories := categories.map (·.id) } catalog sops =
      .ok ((Category.all.filter categories.contains).map fun category =>
        (category, catalog.byCategory category)) := by
  have known : (Selection.mk (categories.map (·.id)) [] []).named catalog sops =
      .ok ⟨categories, []⟩ := by
    rw [named, mapM_parse_id]
    simp [bind, Except.bind, pure, Except.pure]
  rw [resolve, if_neg (by simpa [isEmpty] using nonempty), known, ← plan_of_categories]
  rfl

end Selection

theorem names_of {catalog : Catalog} (distinct : catalog.Distinct) {chosen : List Category}
    {category : Category} (planned : category ∈ chosen) {keep : Rule → Bool} {rule : Rule}
    (listed : rule ∈ catalog.byCategory category) :
    (Plan.of catalog chosen keep).names rule.id = keep rule := by
  rw [Bool.eq_iff_iff]
  simp only [Plan.names, Plan.of, List.any_eq_true, List.mem_map, exists_exists_and_eq_and,
    List.mem_filter, beq_iff_eq]
  constructor
  · rintro ⟨group, -, other, ⟨here, kept⟩, same⟩
    obtain rfl := distinct.eq_of_id_eq (Catalog.mem_byCategory.mp here).1
      (Catalog.mem_byCategory.mp listed).1 same
    exact kept
  · intro kept
    exact ⟨category, planned, rule, ⟨listed, kept⟩, rfl⟩

theorem filter_names {catalog : Catalog} (distinct : catalog.Distinct) {chosen : List Category}
    {category : Category} (planned : category ∈ chosen) (keep : Rule → Bool) :
    (catalog.byCategory category).filter keep =
      (catalog.byCategory category).filter ((Plan.of catalog chosen keep).names ·.id) :=
  List.filter_congr fun _ listed => (names_of distinct planned listed).symm

/-! ## What is left of a category -/

def Diagnostic.ruleId? : Diagnostic → Option String
  | .loadFailure .. => none
  | .ruleFault _ _ ruleId _ => some ruleId

theorem filterMap_filter_of {α β : Type} {read : α → Option β} {keep : α → Bool} {kept : β → Bool}
    (same : ∀ item out, read item = some out → kept out = keep item) (items : List α) :
    (items.filter keep).filterMap read = (items.filterMap read).filter kept := by
  induction items with
  | nil => rfl
  | cons item items ih =>
      cases found : read item with
      | none => cases stays : keep item <;> simp [stays, found, ih]
      | some out =>
          have here := same item out found
          cases stays : keep item <;> simp [stays, found, ih, here]

namespace Hit

theorem ruleId_of_read (policy : Policy) (hit : Hit) :
    (∀ violation, hit.violation? policy = some violation → violation.ruleId = hit.rule.id) ∧
      (∀ warning, hit.warning? policy = some warning → warning.ruleId = hit.rule.id) ∧
      ∀ diagnostic, hit.diagnostic? = some diagnostic →
        diagnostic.ruleId? = some hit.rule.id := by
  refine ⟨fun violation found => ?_, fun warning found => ?_, fun diagnostic found => ?_⟩
  · simp only [violation?, Option.bind_eq_some_iff, Option.ite_none_right_eq_some,
      Option.some.injEq] at found
    obtain ⟨finding, -, -, rfl⟩ := found
    rfl
  · simp only [warning?, Option.bind_eq_some_iff, Option.ite_none_right_eq_some,
      Option.some.injEq] at found
    obtain ⟨finding, -, -, rfl⟩ := found
    rfl
  · rw [diagnostic?] at found
    split at found
    · cases found
    · obtain rfl := Option.some.inj found
      rfl

end Hit

namespace Engine

variable {α : Type} [Scalar α]

/-- The result of a category holds what the run of the whole category gives for the rules of the
plan, and the advice of those of them that fire. -/
structure NarrowedResult (engine : Engine α) (plan : Plan) (files : List SourceFile)
    (result : CategoryResult α) : Prop where
  violations : result.violations =
    (engine.runCategory result.category files).violations.filter (plan.names ·.ruleId)
  warnings : result.warnings =
    (engine.runCategory result.category files).warnings.filter (plan.names ·.ruleId)
  suggestions : result.suggestions =
    ((engine.catalog.byCategory result.category).filter fun rule =>
      plan.names rule.id && rule.fires engine.window files).map (·.remediation)

/-- The run has the categories of the plan, in canonical order, and each of them narrowed. -/
structure NarrowedRun (engine : Engine α) (plan : Plan) (files : List SourceFile) (run : Run α) :
    Prop where
  planned : run.results.map (·.category) = plan.map (·.1)
  canonical : (plan.map (·.1)).Sublist Category.all
  results : ∀ result ∈ run.results, engine.NarrowedResult plan files result
  diagnostics : run.diagnostics = (plan.map (·.1)).flatMap fun category =>
    (engine.runCategory category files).diagnostics.filter fun diagnostic =>
      diagnostic.ruleId?.any plan.names
  filesAnalyzed : run.filesAnalyzed = files.length

variable {engine : Engine α}

theorem narrowedResult_evaluate (distinct : engine.catalog.Distinct) (plan : Plan)
    (category : Category) (files : List SourceFile) :
    let evaluated := engine.evaluate category
      ((engine.catalog.byCategory category).filter (plan.names ·.id)) files
    engine.NarrowedResult plan files evaluated.1 ∧
      evaluated.2 = (engine.runCategory category files).diagnostics.filter fun diagnostic =>
        diagnostic.ruleId?.any plan.names := by
  have hits : inspect engine.window
      ((engine.catalog.byCategory category).filter (plan.names ·.id)) files =
        (engine.hits category files).filter (plan.names ·.rule.id) :=
    inspect_filter (plan.names ·.id) ..
  have listed : ∀ rule ∈ (engine.catalog.byCategory category).filter (plan.names ·.id),
      rule ∈ engine.catalog.rules := fun rule here =>
    (Catalog.mem_byCategory.mp (List.mem_filter.mp here).1).1
  refine ⟨⟨?_, ?_, ?_⟩, ?_⟩
  · change List.filterMap _ _ = _
    rw [hits, violations_runCategory]
    exact filterMap_filter_of (fun hit violation found =>
      congrArg plan.names ((hit.ruleId_of_read engine.policy).1 violation found)) _
  · change List.filterMap _ _ = _
    rw [hits, warnings_runCategory]
    exact filterMap_filter_of (fun hit warning found =>
      congrArg plan.names ((hit.ruleId_of_read engine.policy).2.1 warning found)) _
  · change suggestions _ _ = _
    rw [suggestions_inspect distinct listed, List.filter_filter]
    exact congrArg _ (List.filter_congr fun _ _ => Bool.and_comm ..)
  · change List.filterMap _ _ = _
    rw [hits, diagnostics_runCategory]
    refine filterMap_filter_of (fun hit diagnostic found => ?_) _
    rw [(hit.ruleId_of_read engine.policy).2.2 diagnostic found]
    rfl

theorem narrowedRun_runPlan (distinct : engine.catalog.Distinct) {chosen : List Category}
    (ordered : chosen.Sublist Category.all) (keep : Rule → Bool) (files : List SourceFile) :
    engine.NarrowedRun (Plan.of engine.catalog chosen keep) files
      (engine.runPlan (Plan.of engine.catalog chosen keep) files) := by
  have categories : (Plan.of engine.catalog chosen keep).map (·.1) = chosen := by
    rw [Plan.of, List.map_map]
    exact List.map_id _
  have named : Plan.of engine.catalog chosen keep = chosen.map fun category => (category,
      (engine.catalog.byCategory category).filter
        ((Plan.of engine.catalog chosen keep).names ·.id)) :=
    List.map_congr_left fun _ planned => congrArg _ (filter_names distinct planned keep)
  generalize Plan.of engine.catalog chosen keep = plan at *
  have each := fun category => narrowedResult_evaluate distinct plan category files
  have evaluated : plan.map (fun entry => engine.evaluate entry.1 entry.2 files) =
      chosen.map fun category => engine.evaluate category
        ((engine.catalog.byCategory category).filter (plan.names ·.id)) files :=
    (congrArg (List.map fun entry => engine.evaluate entry.1 entry.2 files) named).trans
      List.map_map
  have run : engine.runPlan plan files =
      ⟨(plan.map fun entry => engine.evaluate entry.1 entry.2 files).map (·.1),
        (plan.map fun entry => engine.evaluate entry.1 entry.2 files).flatMap (·.2),
        files.length⟩ := rfl
  rw [run, evaluated]
  refine ⟨?_, categories ▸ ordered, ?_, ?_, rfl⟩
  · rw [categories, List.map_map, List.map_map]
    exact List.map_id _
  · intro result here
    simp only [List.map_map, List.mem_map] at here
    obtain ⟨category, -, rfl⟩ := here
    exact (each category).1
  · rw [categories, List.flatMap_map]
    exact congrArg (chosen.flatMap ·) (funext fun category => (each category).2)

theorem run_ofCategory (category : Category) (files : List SourceFile) :
    engine.run (.ofCategory category) files = .ok (engine.runCategory category files) := by
  have alone : Category.all.filter [category].contains = [category] := by
    cases category <;> decide
  have resolved := Selection.resolve_of_ids (List.cons_ne_nil category []) engine.catalog
    engine.sops
  rw [alone] at resolved
  rw [run]
  exact congrArg (Except.map _) resolved

theorem resolve_all (catalog : Catalog) (sops : SopMap) :
    Selection.all.resolve catalog sops =
      Selection.resolve { categories := catalog.categories.map (·.id) } catalog sops := by
  by_cases bare : catalog.categories = []
  · rw [bare]
    rfl
  · have whole : Category.all.filter catalog.categories.contains = catalog.categories := by
      refine List.filter_congr fun category _ => ?_
      rw [Bool.eq_iff_iff]
      simp [Catalog.categories, Category.mem_all]
    rw [Selection.resolve_of_ids bare, whole]
    rfl

/-- Narrowing a selection only filters. -/
theorem run_narrows (engine : Engine α) (registered : engine.catalog.Registered)
    {selection : Selection} {plan : Plan}
    (resolved : selection.resolve engine.catalog engine.sops = .ok plan)
    (files : List SourceFile) :
    (∃ run, engine.run selection files = .ok run ∧ engine.NarrowedRun plan files run) ∧
      (∀ category, engine.run (.ofCategory category) files =
        .ok (engine.runCategory category files)) ∧
      engine.run .all files =
        engine.run { categories := engine.catalog.categories.map (·.id) } files := by
  refine ⟨?_, fun category => run_ofCategory category files, ?_⟩
  · obtain ⟨chosen, keep, ordered, rfl⟩ := Selection.plan_of_resolve resolved
    refine ⟨_, ?_, narrowedRun_runPlan registered.distinct ordered keep files⟩
    rw [run, resolved]
    rfl
  · rw [run, run, resolve_all]

def twoRules : Selection := { rules := ["err005", "SEC002"] }

def evalAndThrow : SourceFile := ⟨"a.ts", "eval(x); // TODO\nthrow 'no';".toList⟩

theorem run_narrows_to_two_rules :
    Catalog.standard.Registered ∧ ∃ plan, twoRules.resolve .standard [] = .ok plan ∧
      plan.map (fun entry => (entry.1, entry.2.map (·.id))) =
        [(.security, ["SEC002"]), (.errorHandling, ["ERR005"])] ∧
      ∃ run, standardEngine.run twoRules [evalAndThrow] = .ok run ∧
        standardEngine.NarrowedRun plan [evalAndThrow] run := by
  have registered := Catalog.registered_standard
  obtain ⟨plan, resolved, shape⟩ : ∃ plan, twoRules.resolve .standard [] = .ok plan ∧
      plan.map (fun entry => (entry.1, entry.2.map (·.id))) =
        [(.security, ["SEC002"]), (.errorHandling, ["ERR005"])] := ⟨_, rfl, rfl⟩
  exact ⟨registered, plan, resolved, shape,
    (run_narrows standardEngine registered resolved [evalAndThrow]).1⟩

end Engine

end Compliance
