import Mathlib
import Compliance.Proofs.Evaluation.Narrowing
import Compliance.Proofs.Evaluation.Files

/-!
# Routing of findings

A policy sends every finding to the violations or to the warnings and does nothing else.
So the two lists, merged by the places of their findings, are one stream under every
policy, and escalating a rule moves the findings of that rule only.
-/

namespace Compliance

theorem upperName_eq_iff {name other : String} :
    upperName name = upperName other ↔ sameName name other = true := by
  have lowered (text : Text) :
      (text.map Char.toUpper).map Char.toLower = text.map Char.toLower := by
    simp
  have raised (text : Text) : (text.map Char.toLower).map Char.toUpper = text.map Char.toUpper := by
    simp
  rw [upperName, upperName, String.ofList_inj, sameName, beq_iff_eq]
  constructor
  · intro same
    rw [← lowered, ← lowered other.toList]
    exact congrArg (List.map Char.toLower) same
  · intro same
    rw [Text.upper, Text.upper, ← raised, ← raised other.toList]
    exact congrArg (List.map Char.toUpper) same

theorem Value.mem_insertName {name other : String} {names : List String} :
    other ∈ Value.insertName name names ↔ other = name ∨ other ∈ names := by
  induction names with
  | nil => simp [Value.insertName]
  | cons next names ih =>
      rw [Value.insertName]
      split
      · exact List.mem_cons
      · split
        · next same => simp [same]
        · rw [List.mem_cons, ih, List.mem_cons, or_left_comm]

namespace Policy

theorem bucketFor_escalate (policy : Policy) (id : String) (rule : Rule) :
    (policy.escalate id).bucketFor rule =
      if sameName rule.id id then .violations else policy.bucketFor rule := by
  have listed : (policy.escalate id).escalations.contains (upperName rule.id) =
      (sameName rule.id id || policy.escalations.contains (upperName rule.id)) := by
    rw [Bool.eq_iff_iff, Bool.or_eq_true, List.contains_iff_mem, List.contains_iff_mem, escalate,
      Value.mem_insertName, upperName_eq_iff]
  rw [bucketFor, bucketFor, listed]
  cases sameName rule.id id <;> rfl

end Policy

/-- A finding without its bucket. -/
structure Sighting where
  file : String
  line : Nat
  ruleId : String
  message : String
  deriving DecidableEq, Repr

def Violation.sighting (violation : Violation) : Sighting :=
  ⟨violation.file, violation.line, violation.ruleId, violation.message⟩

def Warning.sighting (warning : Warning) : Sighting :=
  ⟨warning.file, warning.line, warning.ruleId, warning.message⟩

namespace Hit

def sighting? (hit : Hit) : Option Sighting :=
  hit.finding?.map fun finding => ⟨hit.file, hit.line, hit.rule.id, finding.message⟩

variable (policy : Policy) (hit : Hit)

theorem sighting_violation? :
    (hit.violation? policy).map (·.sighting) =
      if policy.bucketFor hit.rule = .violations then hit.sighting? else none := by
  rw [violation?, sighting?]
  cases hit.finding? <;> split <;> simp [*, Violation.sighting]

theorem sighting_warning? :
    (hit.warning? policy).map (·.sighting) =
      if policy.bucketFor hit.rule = .warnings then hit.sighting? else none := by
  rw [warning?, sighting?]
  cases hit.finding? <;> split <;> simp [*, Warning.sighting]

theorem warning?_escalate (id : String) :
    hit.warning? (policy.escalate id) =
      (hit.warning? policy).filter fun warning => !sameName warning.ruleId id := by
  rw [warning?, warning?, Policy.bucketFor_escalate]
  cases hit.finding? with
  | none => rfl
  | some finding =>
      cases same : sameName hit.rule.id id <;> cases policy.bucketFor hit.rule <;>
        simp [Option.filter, same]

theorem violation?_escalate {violation : Violation} (id : String)
    (found : hit.violation? policy = some violation) :
    hit.violation? (policy.escalate id) = some violation := by
  rw [violation?] at found ⊢
  obtain ⟨finding, told, here⟩ := Option.bind_eq_some_iff.mp found
  obtain ⟨bucket, same⟩ := Option.ite_none_right_eq_some.mp here
  rw [Policy.bucketFor_escalate, bucket, ite_self, told]
  exact same

theorem filter_violation?_escalate (id : String) :
    ((hit.violation? (policy.escalate id)).filter fun violation => !sameName violation.ruleId id) =
      (hit.violation? policy).filter fun violation => !sameName violation.ruleId id := by
  rw [violation?, violation?, Policy.bucketFor_escalate]
  cases hit.finding? with
  | none => rfl
  | some finding =>
      cases same : sameName hit.rule.id id <;> cases policy.bucketFor hit.rule <;>
        simp [Option.filter, same]

theorem sighting_violation?_escalate (id : String) :
    (hit.violation? (policy.escalate id)).map (·.sighting) =
      ((hit.violation? policy).map (·.sighting)).or
        (((hit.warning? policy).map (·.sighting)).filter fun seen => sameName seen.ruleId id) := by
  rw [sighting_violation?, sighting_violation?, sighting_warning?, Policy.bucketFor_escalate,
    sighting?]
  cases hit.finding? with
  | none => cases policy.bucketFor hit.rule <;> simp
  | some finding =>
      cases same : sameName hit.rule.id id <;> cases policy.bucketFor hit.rule <;>
        simp [Option.filter, same]

end Hit

theorem filterMap_sublist {β γ : Type} {read wider : β → Option γ}
    (keeps : ∀ item out, read item = some out → wider item = some out) (items : List β) :
    (items.filterMap read).Sublist (items.filterMap wider) := by
  have kept : items.filterMap read =
      (items.filter fun item => (read item).isSome).filterMap wider := by
    rw [List.filterMap_filter]
    refine List.filterMap_congr fun item _ => ?_
    cases found : read item with
    | none => rfl
    | some out => exact (keeps item out found).symm
  rw [kept]
  exact List.filter_sublist.filterMap wider

/-! ## Places -/

instance (visit other : Visit) : Decidable (visit.Before other) :=
  inferInstanceAs (Decidable (_ ∨ _ ∧ (_ ∨ _ ∧ _)))

theorem Visit.Before.asymm {visit other : Visit} (before : visit.Before other) :
    ¬ other.Before visit := by
  unfold Visit.Before at *
  omega

def interleave {β : Type} (first second : List (Visit × β)) : List (Visit × β) :=
  first.merge second fun a b => a.1.Before b.1

section Placed

variable {β γ : Type} {window : Window} {rules : List Rule} {files : List SourceFile}

theorem map_placed (read : Hit → Option β) (view : β → γ) :
    (placed window rules files read).map (fun entry => (entry.1, view entry.2)) =
      placed window rules files fun hit => (read hit).map view := by
  rw [placed, List.map_filterMap, placed]
  refine List.filterMap_congr fun visit _ => ?_
  cases hitAt? window rules files visit with
  | none => rfl
  | some hit => simp [Function.comp_def]

theorem filter_placed (read : Hit → Option β) (keep : β → Bool) :
    (placed window rules files read).filter (fun entry => keep entry.2) =
      placed window rules files fun hit => (read hit).filter keep := by
  rw [placed, List.filter_filterMap, placed]
  refine List.filterMap_congr fun visit _ => ?_
  cases hitAt? window rules files visit with
  | none => rfl
  | some hit => cases found : read hit <;> simp [Option.filter, found]

end Placed

theorem interleave_cons_left {β : Type} {entry : Visit × β} {first second : List (Visit × β)}
    (ahead : ∀ other ∈ second, entry.1.Before other.1) :
    interleave (entry :: first) second = entry :: interleave first second := by
  cases second with
  | nil => rw [interleave, interleave, List.merge_right, List.merge_right]
  | cons other second =>
      exact List.cons_merge_cons_pos _ _ _ (decide_eq_true (ahead other List.mem_cons_self))

theorem interleave_cons_right {β : Type} {entry : Visit × β} {first second : List (Visit × β)}
    (ahead : ∀ other ∈ first, entry.1.Before other.1) :
    interleave first (entry :: second) = entry :: interleave first second := by
  cases first with
  | nil => rw [interleave, interleave, List.nil_merge, List.nil_merge]
  | cons other first =>
      refine List.cons_merge_cons_neg _ _ _ fun behind => ?_
      exact (ahead other List.mem_cons_self).asymm (of_decide_eq_true behind)

theorem interleave_filterMap {β : Type} {list : List Visit} (ordered : list.Pairwise Visit.Before)
    {first second : Visit → Option β} (apart : ∀ visit, first visit = none ∨ second visit = none) :
    interleave (list.filterMap fun visit => (first visit).map (visit, ·))
        (list.filterMap fun visit => (second visit).map (visit, ·)) =
      list.filterMap fun visit => ((first visit).or (second visit)).map (visit, ·) := by
  induction list with
  | nil => exact List.nil_merge _
  | cons visit list ih =>
      obtain ⟨ahead, ordered⟩ := List.pairwise_cons.mp ordered
      have behind (read : Visit → Option β) : ∀ other ∈ list.filterMap fun visit =>
          (read visit).map (visit, ·), visit.Before other.1 := by
        intro other here
        obtain ⟨later, there, left⟩ := List.mem_filterMap.mp here
        obtain ⟨_, -, rfl⟩ := Option.map_eq_some_iff.mp left
        exact ahead later there
      cases here : first visit with
      | some a =>
          have nothing : second visit = none := (apart visit).resolve_left (by simp [here])
          rw [List.filterMap_cons_some (by rw [here]; rfl),
            List.filterMap_cons_none (by rw [nothing]; rfl),
            List.filterMap_cons_some (by rw [here]; rfl),
            interleave_cons_left (behind second), ih ordered]
      | none =>
          cases there : second visit with
          | some b =>
              rw [List.filterMap_cons_none (by rw [here]; rfl),
                List.filterMap_cons_some (by rw [there]; rfl),
                List.filterMap_cons_some (by rw [here, there]; rfl),
                interleave_cons_right (behind first), ih ordered]
          | none =>
              rw [List.filterMap_cons_none (by rw [here]; rfl),
                List.filterMap_cons_none (by rw [there]; rfl),
                List.filterMap_cons_none (by rw [here, there]; rfl), ih ordered]

theorem interleave_placed {β : Type} {window : Window} {rules : List Rule}
    {files : List SourceFile} {first second : Hit → Option β}
    (apart : ∀ hit, first hit = none ∨ second hit = none) :
    interleave (placed window rules files first) (placed window rules files second) =
      placed window rules files fun hit => (first hit).or (second hit) := by
  rw [placed, placed, interleave_filterMap (pairwise_visits rules files) fun visit => ?_, placed]
  · refine List.filterMap_congr fun visit _ => ?_
    cases hitAt? window rules files visit <;> rfl
  · cases hitAt? window rules files visit with
    | none => exact .inl rfl
    | some hit => exact apart hit

section Streams

variable (window : Window) (policy : Policy) (rules : List Rule) (files : List SourceFile)

def violationsAt : List (Visit × Violation) := placed window rules files (Hit.violation? policy)

def warningsAt : List (Visit × Warning) := placed window rules files (Hit.warning? policy)

def violationSightings : List (Visit × Sighting) :=
  (violationsAt window policy rules files).map fun entry => (entry.1, entry.2.sighting)

def warningSightings : List (Visit × Sighting) :=
  (warningsAt window policy rules files).map fun entry => (entry.1, entry.2.sighting)

/-- Violations and warnings merged by file, then line, then rule. -/
def stream : List (Visit × Sighting) :=
  interleave (violationSightings window policy rules files)
    (warningSightings window policy rules files)

theorem violationSightings_eq : violationSightings window policy rules files =
    placed window rules files fun hit => (hit.violation? policy).map (·.sighting) :=
  map_placed _ Violation.sighting

theorem warningSightings_eq : warningSightings window policy rules files =
    placed window rules files fun hit => (hit.warning? policy).map (·.sighting) :=
  map_placed _ Warning.sighting

theorem sighting_apart (hit : Hit) :
    (hit.violation? policy).map (·.sighting) = none ∨
      (hit.warning? policy).map (·.sighting) = none := by
  rw [Hit.sighting_violation?, Hit.sighting_warning?]
  cases policy.bucketFor hit.rule with
  | violations => exact .inr rfl
  | warnings => exact .inl rfl

theorem stream_eq : stream window policy rules files = placed window rules files Hit.sighting? := by
  rw [stream, violationSightings_eq, warningSightings_eq, interleave_placed (sighting_apart policy)]
  refine congrArg (placed window rules files) (funext fun hit => ?_)
  rw [Hit.sighting_violation?, Hit.sighting_warning?]
  cases policy.bucketFor hit.rule <;> simp

theorem violationSightings_escalate (id : String) :
    violationSightings window (policy.escalate id) rules files =
      interleave (violationSightings window policy rules files)
        ((warningSightings window policy rules files).filter
          fun entry => sameName entry.2.ruleId id) := by
  rw [violationSightings_eq, violationSightings_eq, warningSightings_eq,
    filter_placed _ fun seen : Sighting => sameName seen.ruleId id, interleave_placed ?_]
  · exact congrArg (placed window rules files)
      (funext fun hit => Hit.sighting_violation?_escalate policy hit id)
  · intro hit
    refine (sighting_apart policy hit).imp_right fun nothing => ?_
    rw [nothing]
    rfl

theorem length_stream : (stream window policy rules files).length =
    (violationsAt window policy rules files).length +
      (warningsAt window policy rules files).length := by
  rw [stream, interleave, (List.merge_perm_append _).length_eq, List.length_append,
    violationSightings, warningSightings, List.length_map, List.length_map]

end Streams

/-! ## Results -/

section Results

variable {α : Type}

/-- The lists of a result are the records at the visits, in the order of the visits. -/
structure Placed (window : Window) (policy : Policy) (rules : List Rule) (files : List SourceFile)
    (result : CategoryResult α) : Prop where
  violations : result.violations = (violationsAt window policy rules files).map (·.2)
  warnings : result.warnings = (warningsAt window policy rules files).map (·.2)
  violationsOrdered : (violationsAt window policy rules files).Pairwise fun a b => a.1.Before b.1
  warningsOrdered : (warningsAt window policy rules files).Pairwise fun a b => a.1.Before b.1

/-- The result of the same rules under two policies: the merged lists are the same. -/
structure Rerouted (window : Window) (first second : Policy) (files : List SourceFile)
    (rules : List Rule) (one other : CategoryResult α) : Prop where
  placed : Placed window first rules files one
  placed' : Placed window second rules files other
  stream : stream window first rules files = stream window second rules files
  suggestions : one.suggestions = other.suggestions
  count : one.violations.length + one.warnings.length =
    other.violations.length + other.warnings.length

/-- The result of the same rules before and after a rule is escalated: its findings move to the
violations, to the places where they were seen. -/
structure Moved (window : Window) (policy : Policy) (id : String) (files : List SourceFile)
    (rules : List Rule) (before after : CategoryResult α) : Prop where
  placed : Placed window policy rules files before
  placed' : Placed window (policy.escalate id) rules files after
  warnings : after.warnings = before.warnings.filter fun warning => !sameName warning.ruleId id
  others : (after.violations.filter fun violation => !sameName violation.ruleId id) =
    before.violations.filter fun violation => !sameName violation.ruleId id
  kept : before.violations.Sublist after.violations
  moved : violationSightings window (policy.escalate id) rules files =
    interleave (violationSightings window policy rules files)
      ((warningSightings window policy rules files).filter
        fun entry => sameName entry.2.ruleId id)

end Results

structure Run.Paired {α : Type} (one : Run α) (plan : Plan) (other : Run α)
    (related : List Rule → CategoryResult α → CategoryResult α → Prop) : Prop where
  canonical : (plan.map (·.1)).Sublist Category.all
  planned : one.results.map (·.category) = plan.map (·.1)
  planned' : other.results.map (·.category) = plan.map (·.1)
  results : ∀ entry ∈ plan, ∃ result ∈ one.results, ∃ result' ∈ other.results,
    result.category = entry.1 ∧ result'.category = entry.1 ∧ related entry.2 result result'

namespace Engine

variable {α : Type} [Scalar α]

def withPolicy (engine : Engine α) (policy : Policy) : Engine α := { engine with policy }

theorem placed_evaluate (engine : Engine α) (policy : Policy) (category : Category)
    (rules : List Rule) (files : List SourceFile) :
    Placed engine.window policy rules files
      ((engine.withPolicy policy).evaluate category rules files).1 where
  violations := (map_snd_placed _).symm
  warnings := (map_snd_placed _).symm
  violationsOrdered := pairwise_placed _
  warningsOrdered := pairwise_placed _

theorem length_evaluate (engine : Engine α) (policy : Policy) (category : Category)
    (rules : List Rule) (files : List SourceFile) :
    let result := ((engine.withPolicy policy).evaluate category rules files).1
    result.violations.length + result.warnings.length =
      (placed engine.window rules files Hit.sighting?).length := by
  have lists := engine.placed_evaluate policy category rules files
  simp only [lists.violations, lists.warnings, List.length_map, ← length_stream, stream_eq]

theorem rerouted_evaluate (engine : Engine α) (first second : Policy) (category : Category)
    (rules : List Rule) (files : List SourceFile) :
    Rerouted engine.window first second files rules
      ((engine.withPolicy first).evaluate category rules files).1
      ((engine.withPolicy second).evaluate category rules files).1 where
  placed := engine.placed_evaluate first category rules files
  placed' := engine.placed_evaluate second category rules files
  stream := (stream_eq ..).trans (stream_eq ..).symm
  suggestions := rfl
  count := (engine.length_evaluate ..).trans (engine.length_evaluate ..).symm

theorem moved_evaluate (engine : Engine α) (policy : Policy) (id : String) (category : Category)
    (rules : List Rule) (files : List SourceFile) :
    Moved engine.window policy id files rules
      ((engine.withPolicy policy).evaluate category rules files).1
      ((engine.withPolicy (policy.escalate id)).evaluate category rules files).1 := by
  refine ⟨engine.placed_evaluate .., engine.placed_evaluate .., ?_, ?_, ?_,
    violationSightings_escalate ..⟩
  · change List.filterMap _ _ = List.filter _ (List.filterMap _ _)
    rw [List.filter_filterMap]
    exact List.filterMap_congr fun hit _ => hit.warning?_escalate policy id
  · change List.filter _ (List.filterMap _ _) = List.filter _ (List.filterMap _ _)
    rw [List.filter_filterMap, List.filter_filterMap]
    exact List.filterMap_congr fun hit _ => hit.filter_violation?_escalate policy id
  · exact filterMap_sublist (fun hit _ => hit.violation?_escalate policy id) _

theorem paired_runPlan (engine : Engine α) {plan : Plan}
    (canonical : (plan.map (·.1)).Sublist Category.all) (files : List SourceFile)
    (first second : Policy) {related : List Rule → CategoryResult α → CategoryResult α → Prop}
    (each : ∀ category rules, related rules
      ((engine.withPolicy first).evaluate category rules files).1
      ((engine.withPolicy second).evaluate category rules files).1) :
    ((engine.withPolicy first).runPlan plan files).Paired plan
      ((engine.withPolicy second).runPlan plan files) related where
  canonical := canonical
  planned := categories_runPlan ..
  planned' := categories_runPlan ..
  results := by
    intro entry planned
    have listed (policy : Policy) : ((engine.withPolicy policy).evaluate entry.1 entry.2 files).1 ∈
        ((engine.withPolicy policy).runPlan plan files).results :=
      List.mem_map_of_mem (List.mem_map_of_mem planned)
    exact ⟨_, listed first, _, listed second, rfl, rfl, each entry.1 entry.2⟩

theorem diagnostics_withPolicy (engine : Engine α) (policy : Policy) (plan : Plan)
    (files : List SourceFile) :
    ((engine.withPolicy policy).runPlan plan files).diagnostics =
      (engine.runPlan plan files).diagnostics := by
  simp only [runPlan, List.flatMap_map]
  rfl

theorem length_runPlan (engine : Engine α) (policy : Policy) (plan : Plan)
    (files : List SourceFile) :
    let run := (engine.withPolicy policy).runPlan plan files
    run.violations.length + run.warnings.length =
      (plan.flatMap fun entry => placed engine.window entry.2 files Hit.sighting?).length := by
  intro run
  rw [violations_runPlan, warnings_runPlan]
  induction plan with
  | nil => rfl
  | cons entry plan ih =>
      have here := engine.length_evaluate policy entry.1 entry.2 files
      simp only [List.flatMap_cons, List.length_append] at here ih ⊢
      omega

/-- Two runs of one plan whose findings differ in their buckets only. -/
structure ReroutedRun (engine : Engine α) (plan : Plan) (files : List SourceFile)
    (first second : Policy) (one other : Run α) : Prop where
  paired : one.Paired plan other (Rerouted engine.window first second files)
  diagnostics : one.diagnostics = other.diagnostics
  count : one.violations.length + one.warnings.length =
    other.violations.length + other.warnings.length

/-- A policy decides about the buckets of findings, and an escalation about those of one rule. -/
theorem run_routes (engine : Engine α) (selection : Selection) (files : List SourceFile) :
    (∀ (policy : Policy) (id : String) (rule : Rule), (policy.escalate id).bucketFor rule =
      if sameName rule.id id then .violations else policy.bucketFor rule) ∧
    match selection.resolve engine.catalog engine.sops with
    | .error fault => ∀ policy, (engine.withPolicy policy).run selection files = .error fault
    | .ok plan => ∃ run : Policy → Run α,
        (∀ policy, (engine.withPolicy policy).run selection files = .ok (run policy)) ∧
        (∀ first second,
          engine.ReroutedRun plan files first second (run first) (run second)) ∧
        ∀ policy id, (run policy).Paired plan (run (policy.escalate id))
          (Moved engine.window policy id files) := by
  refine ⟨fun policy id rule => policy.bucketFor_escalate id rule, ?_⟩
  have resolved (policy : Policy) : (engine.withPolicy policy).run selection files =
      (selection.resolve engine.catalog engine.sops).map fun plan =>
        (engine.withPolicy policy).runPlan plan files := rfl
  cases found : selection.resolve engine.catalog engine.sops with
  | error fault =>
      intro policy
      rw [resolved, found]
      rfl
  | ok plan =>
      have canonical := Selection.canonical_of_resolve found
      refine ⟨fun policy => (engine.withPolicy policy).runPlan plan files, fun policy => ?_,
        fun first second => ⟨?_, ?_, ?_⟩, fun policy id => ?_⟩
      · rw [resolved, found]
        rfl
      · exact engine.paired_runPlan canonical files first second fun category rules =>
          engine.rerouted_evaluate first second category rules files
      · exact (engine.diagnostics_withPolicy first plan files).trans
          (engine.diagnostics_withPolicy second plan files).symm
      · exact (engine.length_runPlan first plan files).trans
          (engine.length_runPlan second plan files).symm
      · exact engine.paired_runPlan canonical files policy (policy.escalate id)
          fun category rules => engine.moved_evaluate policy id category rules files

end Engine

end Compliance
