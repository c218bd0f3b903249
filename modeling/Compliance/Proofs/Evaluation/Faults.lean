import Compliance.Proofs.Evaluation.Narrowing
import Compliance.Proofs.Evaluation.Files

/-!
# Faults of checks

A check that breaks down leaves a diagnostic and nothing else.  So a run has the results
of the run in which the same checks find nothing instead, and its diagnostics are the
faults, one for each, in the order of the visits.
-/

namespace Compliance

/-- The rule that finds nothing where the given one breaks down. -/
def Rule.tamed (rule : Rule) : Rule :=
  { rule with check := fun context =>
      match rule.check context with
      | .ok finding => .ok finding
      | .error _ => .ok none }

def Catalog.tamed (catalog : Catalog) : Catalog := ⟨catalog.rules.map Rule.tamed⟩

def Plan.tamed (plan : Plan) : Plan := plan.map fun entry => (entry.1, entry.2.map Rule.tamed)

def Engine.tamed {α : Type} (engine : Engine α) : Engine α :=
  { engine with catalog := engine.catalog.tamed }

namespace Catalog

theorem get?_tamed (catalog : Catalog) (id : String) :
    catalog.tamed.get? id = (catalog.get? id).map Rule.tamed := by
  rw [get?, tamed, List.find?_map]
  rfl

theorem byCategory_tamed (catalog : Catalog) (category : Category) :
    catalog.tamed.byCategory category = (catalog.byCategory category).map Rule.tamed := by
  rw [byCategory, tamed, List.filter_map]
  rfl

theorem categories_tamed (catalog : Catalog) : catalog.tamed.categories = catalog.categories := by
  simp only [categories, tamed, List.any_map]
  rfl

end Catalog

namespace Selection

theorem findRule_tamed (catalog : Catalog) (name : String) :
    findRule catalog.tamed name = (findRule catalog name).map Rule.tamed := by
  rw [findRule, findRule, Catalog.get?_tamed]
  cases catalog.get? name <;> rfl

theorem mapM_findRule_tamed (catalog : Catalog) (names : List String) :
    names.mapM (findRule catalog.tamed) =
      (names.mapM (findRule catalog)).map (List.map Rule.tamed) := by
  induction names with
  | nil => rfl
  | cons name names ih =>
      rw [List.mapM_cons, List.mapM_cons, findRule_tamed, ih]
      cases findRule catalog name with
      | error fault => rfl
      | ok rule => cases names.mapM (findRule catalog) <;> rfl

theorem named_tamed (selection : Selection) (catalog : Catalog) (sops : SopMap) :
    selection.named catalog.tamed sops = selection.named catalog sops := by
  rw [named, named, mapM_findRule_tamed]
  cases selection.rules.mapM (findRule catalog) with
  | error fault => rfl
  | ok rules =>
      have ids : (rules.map Rule.tamed).map (·.id) = rules.map (·.id) := List.map_map
      simp only [Except.map, bind, Except.bind, ids]

theorem plan_tamed (named : Named) (catalog : Catalog) :
    named.plan catalog.tamed = (named.plan catalog).tamed := by
  have rules (category : Category) :
      named.rulesOf catalog.tamed category = (named.rulesOf catalog category).map Rule.tamed := by
    rw [Named.rulesOf, Catalog.byCategory_tamed, List.filter_map]
    rfl
  simp only [Named.plan, Plan.tamed, rules, List.filter_map, List.map_map]
  congr 1
  refine List.filter_congr fun category _ => ?_
  simp only [Function.comp_apply, List.isEmpty_map]

theorem resolve_tamed (selection : Selection) (catalog : Catalog) (sops : SopMap) :
    selection.resolve catalog.tamed sops = (selection.resolve catalog sops).map Plan.tamed := by
  rw [resolve, resolve]
  split
  · rw [Catalog.categories_tamed]
    simp only [Catalog.byCategory_tamed, Except.map, Plan.tamed, List.map_map]
    rfl
  · rw [named_tamed]
    cases selection.named catalog sops with
    | error fault => rfl
    | ok named => exact congrArg Except.ok (plan_tamed named catalog)

end Selection

namespace Hit

def tamed (hit : Hit) : Hit := { hit with rule := hit.rule.tamed }

theorem of?_tamed (context : LineContext) (rule : Rule) :
    of? context rule.tamed =
      ((of? context rule).filter (·.finding?.isSome)).map Hit.tamed := by
  simp only [of?, Rule.tamed]
  cases rule.check context with
  | error fault => rfl
  | ok finding => cases finding <;> rfl

theorem filterMap_tamed {β : Type} (read : Hit → Option β)
    (same : ∀ hit, read hit.tamed = read hit)
    (silent : ∀ hit, hit.finding? = none → read hit = none) (hits : List Hit) :
    ((hits.filter (·.finding?.isSome)).map Hit.tamed).filterMap read = hits.filterMap read := by
  rw [List.filterMap_map, List.filterMap_filter]
  refine List.filterMap_congr fun hit _ => ?_
  rw [Function.comp_apply, same]
  split
  · rfl
  · next nothing => exact (silent hit (Option.not_isSome_iff_eq_none.mp nothing)).symm

end Hit

theorem inspect_tamed (window : Window) (rules : List Rule) (files : List SourceFile) :
    inspect window (rules.map Rule.tamed) files =
      ((inspect window rules files).filter (·.finding?.isSome)).map Hit.tamed := by
  have each (context : LineContext) :
      (rules.map Rule.tamed).filterMap (Hit.of? context) =
        ((rules.filterMap (Hit.of? context)).filter (·.finding?.isSome)).map Hit.tamed := by
    rw [List.filterMap_map, List.filter_filterMap, List.map_filterMap]
    exact List.filterMap_congr fun rule _ => Hit.of?_tamed context rule
  have file (file : SourceFile) : inspectFile window (rules.map Rule.tamed) file =
      ((inspectFile window rules file).filter (·.finding?.isSome)).map Hit.tamed := by
    simp only [inspectFile, List.filter_flatMap, List.map_flatMap, each]
  rw [inspect, inspect, List.filter_flatMap, List.map_flatMap]
  exact congrArg (files.flatMap ·) (funext file)

theorem suggestions_tamed (rules : List Rule) (hits : List Hit) :
    Engine.suggestions (rules.map Rule.tamed)
        ((hits.filter (·.finding?.isSome)).map Hit.tamed) = Engine.suggestions rules hits := by
  rw [Engine.suggestions, List.filter_map, List.map_map, Engine.suggestions]
  refine congrArg₂ List.map rfl (List.filter_congr fun rule _ => ?_)
  rw [Function.comp_apply, List.any_map, List.any_filter]
  refine congrArg₂ List.any rfl (funext fun hit => ?_)
  change (hit.finding?.isSome && (hit.finding?.isSome && hit.rule.id == rule.id)) = _
  rw [← Bool.and_assoc, Bool.and_self]

/-! ## Results -/

namespace Engine

variable {α : Type} [Scalar α]

theorem summarize_tamed (engine : Engine α) (category : Category) (rules : List Rule)
    (hits : List Hit) :
    engine.tamed.summarize category (rules.map Rule.tamed)
        ((hits.filter (·.finding?.isSome)).map Hit.tamed) =
      engine.summarize category rules hits := by
  have violations := Hit.filterMap_tamed (Hit.violation? engine.tamed.policy)
    (fun _ => rfl) (fun hit nothing => by rw [Hit.violation?, nothing]; rfl) hits
  have warnings := Hit.filterMap_tamed (Hit.warning? engine.tamed.policy)
    (fun _ => rfl) (fun hit nothing => by rw [Hit.warning?, nothing]; rfl) hits
  simp only [summarize, violations, warnings, suggestions_tamed]
  rfl

theorem evaluate_tamed (engine : Engine α) (category : Category) (rules : List Rule)
    (files : List SourceFile) :
    engine.tamed.evaluate category (rules.map Rule.tamed) files =
      ((engine.evaluate category rules files).1, []) := by
  have hits : inspect engine.tamed.window (rules.map Rule.tamed) files =
    ((inspect engine.window rules files).filter (·.finding?.isSome)).map Hit.tamed :=
      inspect_tamed ..
  have silent : (((inspect engine.window rules files).filter (·.finding?.isSome)).map
      Hit.tamed).filterMap Hit.diagnostic? = [] := by
    refine List.filterMap_eq_nil_iff.mpr fun hit here => ?_
    obtain ⟨found, kept, rfl⟩ := List.mem_map.mp here
    obtain ⟨file, line, rule, outcome⟩ := found
    cases outcome with
    | error fault => cases (List.mem_filter.mp kept).2
    | ok finding => rfl
  simp only [evaluate, hits, summarize_tamed, silent]

theorem runPlan_tamed (engine : Engine α) (plan : Plan) (files : List SourceFile) :
    engine.tamed.runPlan plan.tamed files =
      { engine.runPlan plan files with diagnostics := [] } := by
  simp only [runPlan, Plan.tamed, List.map_map, List.flatMap_map, Function.comp_def, evaluate_tamed]
  simp

end Engine

/-- A check that breaks down, at the place of its visit. -/
structure Breakdown where
  category : Category
  visit : Visit
  diagnostic : Diagnostic
  deriving DecidableEq, Repr

namespace Breakdown

def Before (breakdown other : Breakdown) : Prop :=
  breakdown.category.rank < other.category.rank ∨
    breakdown.category = other.category ∧ breakdown.visit.Before other.visit

/-- The visited check of the plan breaks down, and the diagnostic says so. -/
def Happens (breakdown : Breakdown) (window : Window) (plan : Plan) (files : List SourceFile) :
    Prop :=
  ∃ rules file rule fault, (breakdown.category, rules) ∈ plan ∧
    files[breakdown.visit.file]? = some file ∧
    breakdown.visit.line < (Text.lines file.content).length ∧
    rules[breakdown.visit.rule]? = some rule ∧
    rule.check ⟨Text.lines file.content, breakdown.visit.line, window, file.name⟩ = .error fault ∧
    breakdown.diagnostic =
      .ruleFault file.name (breakdown.visit.line + 1) rule.id fault.message

end Breakdown

def Plan.breakdowns (plan : Plan) (window : Window) (files : List SourceFile) : List Breakdown :=
  plan.flatMap fun entry => (placed window entry.2 files Hit.diagnostic?).map fun fault =>
    ⟨entry.1, fault.1, fault.2⟩

theorem diagnostic?_of? {context : LineContext} {rule : Rule} {diagnostic : Diagnostic} :
    (Hit.of? context rule).bind Hit.diagnostic? = some diagnostic ↔ ∃ fault,
      rule.check context = .error fault ∧
        diagnostic = .ruleFault context.filename context.number rule.id fault.message := by
  rw [Hit.of?]
  cases rule.check context with
  | error fault => simp [Hit.diagnostic?, eq_comm]
  | ok finding => cases finding <;> simp [Hit.diagnostic?]

theorem mem_breakdowns {plan : Plan} {window : Window} {files : List SourceFile}
    {breakdown : Breakdown} :
    breakdown ∈ plan.breakdowns window files ↔ breakdown.Happens window plan files := by
  simp only [Plan.breakdowns, List.mem_flatMap, List.mem_map, mem_placed]
  constructor
  · rintro ⟨⟨category, rules⟩, planned, ⟨visit, diagnostic⟩,
      ⟨file, rule, hit, source, inside, listed, met, told⟩, rfl⟩
    obtain ⟨fault, broken, same⟩ :=
      diagnostic?_of?.mp (Option.bind_eq_some_iff.mpr ⟨hit, met, told⟩)
    exact ⟨rules, file, rule, fault, planned, source, inside, listed, broken, same⟩
  · rintro ⟨rules, file, rule, fault, planned, source, inside, listed, broken, same⟩
    obtain ⟨hit, met, told⟩ :=
      Option.bind_eq_some_iff.mp (diagnostic?_of?.mpr ⟨fault, broken, same⟩)
    exact ⟨(breakdown.category, rules), planned, (breakdown.visit, breakdown.diagnostic),
      ⟨file, rule, hit, source, inside, listed, met, told⟩, rfl⟩

theorem pairwise_breakdowns {plan : Plan} (canonical : (plan.map (·.1)).Sublist Category.all)
    (window : Window) (files : List SourceFile) :
    (plan.breakdowns window files).Pairwise Breakdown.Before := by
  have ranks : Category.all.Pairwise fun category other => category.rank < other.rank := by decide
  have places := List.pairwise_map.mp (ranks.sublist canonical)
  rw [Plan.breakdowns, List.pairwise_flatMap]
  constructor
  · intro entry _
    rw [List.pairwise_map]
    exact (pairwise_placed _).imp fun before => .inr ⟨rfl, before⟩
  · refine places.imp fun before breakdown here other there => ?_
    obtain ⟨_, -, rfl⟩ := List.mem_map.mp here
    obtain ⟨_, -, rfl⟩ := List.mem_map.mp there
    exact .inl before

namespace Engine

variable {α : Type} [Scalar α]

theorem diagnostics_runPlan (engine : Engine α) (plan : Plan) (files : List SourceFile) :
    (engine.runPlan plan files).diagnostics =
      (plan.breakdowns engine.window files).map (·.diagnostic) := by
  rw [runPlan, Plan.breakdowns, List.map_flatMap, List.flatMap_map]
  refine List.flatMap_congr fun entry _ => ?_
  rw [List.map_map]
  exact (map_snd_placed Hit.diagnostic?).symm

/-- What faults change in a run: its diagnostics, which name them one by one. -/
structure Isolated (engine : Engine α) (plan : Plan) (files : List SourceFile)
    (run tamed : Run α) : Prop where
  results : run.results = tamed.results
  filesAnalyzed : run.filesAnalyzed = tamed.filesAnalyzed
  decision : ∀ config : GateConfig α,
    config.evaluate run engine.scoring = config.evaluate tamed engine.scoring
  tamed : tamed.diagnostics = []
  /-- Each breakdown comes once, in the order of the visits. -/
  diagnostics : ∃ breakdowns : List Breakdown, breakdowns.Pairwise Breakdown.Before ∧
    (∀ breakdown, breakdown ∈ breakdowns ↔ breakdown.Happens engine.window plan files) ∧
    run.diagnostics = breakdowns.map (·.diagnostic)

/-- Checks that break down change no result and no verdict. -/
theorem run_isolates (engine : Engine α) (selection : Selection) (files : List SourceFile) :
    match selection.resolve engine.catalog engine.sops with
    | .error fault =>
        engine.run selection files = .error fault ∧
          engine.tamed.run selection files = .error fault
    | .ok plan => ∃ run tamed, engine.run selection files = .ok run ∧
        engine.tamed.run selection files = .ok tamed ∧ engine.Isolated plan files run tamed := by
  have resolved : selection.resolve engine.tamed.catalog engine.tamed.sops =
      (selection.resolve engine.catalog engine.sops).map Plan.tamed :=
    Selection.resolve_tamed ..
  rw [run, run, resolved]
  cases found : selection.resolve engine.catalog engine.sops with
  | error fault => exact ⟨rfl, rfl⟩
  | ok plan =>
      refine ⟨_, _, rfl, congrArg Except.ok (engine.runPlan_tamed plan files), ?_⟩
      exact {
        results := rfl
        filesAnalyzed := rfl
        decision := fun config => rfl
        tamed := rfl
        diagnostics := ⟨plan.breakdowns engine.window files,
          pairwise_breakdowns (Selection.canonical_of_resolve found) engine.window files,
          fun _ => mem_breakdowns, diagnostics_runPlan engine plan files⟩ }

end Engine

end Compliance
