import Mathlib.Data.List.Basic
import Compliance.Proofs.Evaluation.Hits

/-!
# Runs over several files

An inspection visits every file, every line and every rule once, in this order, and each
visit leaves at most one record.  So the run over two lists of files is made of the runs
over each of them.
-/

namespace Compliance

/-- One rule at one line of one file: their places in the category, the file and the list of
files. -/
structure Visit where
  file : Nat
  line : Nat
  rule : Nat
  deriving DecidableEq, Repr

def Visit.Before (visit other : Visit) : Prop :=
  visit.file < other.file ∨ visit.file = other.file ∧
    (visit.line < other.line ∨ visit.line = other.line ∧ visit.rule < other.rule)

def visitsOfFile (rules : List Rule) (place : Nat) (file : SourceFile) : List Visit :=
  (List.range (Text.lines file.content).length).flatMap fun line =>
    (List.range rules.length).map fun rule => ⟨place, line, rule⟩

def visits (rules : List Rule) (files : List SourceFile) : List Visit :=
  files.zipIdx.flatMap fun entry => visitsOfFile rules entry.2 entry.1

def hitAt? (window : Window) (rules : List Rule) (files : List SourceFile) (visit : Visit) :
    Option Hit := do
  let file ← files[visit.file]?
  let context ← (LineContext.all (Text.lines file.content) file.name window)[visit.line]?
  let rule ← rules[visit.rule]?
  Hit.of? context rule

theorem pairwise_visitsOfFile (rules : List Rule) (place : Nat) (file : SourceFile) :
    (visitsOfFile rules place file).Pairwise Visit.Before := by
  rw [visitsOfFile, List.pairwise_flatMap]
  constructor
  · intro line _
    rw [List.pairwise_map]
    exact List.pairwise_lt_range.imp fun before => .inr ⟨rfl, .inr ⟨rfl, before⟩⟩
  · refine List.pairwise_lt_range.imp fun before visit here other there => ?_
    obtain ⟨_, -, rfl⟩ := List.mem_map.mp here
    obtain ⟨_, -, rfl⟩ := List.mem_map.mp there
    exact .inr ⟨rfl, .inl before⟩

theorem file_of_mem_visitsOfFile {rules : List Rule} {place : Nat} {file : SourceFile}
    {visit : Visit} (here : visit ∈ visitsOfFile rules place file) : visit.file = place := by
  obtain ⟨line, -, here⟩ := List.mem_flatMap.mp here
  obtain ⟨rule, -, rfl⟩ := List.mem_map.mp here
  rfl

theorem pairwise_visits (rules : List Rule) (files : List SourceFile) :
    (visits rules files).Pairwise Visit.Before := by
  have places : files.zipIdx.Pairwise fun entry other => entry.2 < other.2 := by
    have ascending := List.pairwise_lt_range' 1 Nat.one_pos (s := 0) (n := files.length)
    rw [← List.zipIdx_map_snd 0 files] at ascending
    exact List.pairwise_map.mp ascending
  rw [visits, List.pairwise_flatMap]
  constructor
  · exact fun entry _ => pairwise_visitsOfFile rules entry.2 entry.1
  · refine places.imp fun before visit here other there => .inl ?_
    rw [file_of_mem_visitsOfFile here, file_of_mem_visitsOfFile there]
    exact before

theorem getElem?_all {lines : List Text} {filename : String} {window : Window} {index : Nat}
    {context : LineContext} :
    (LineContext.all lines filename window)[index]? = some context ↔
      index < lines.length ∧ context = ⟨lines, index, window, filename⟩ := by
  by_cases inside : index < lines.length <;> simp [LineContext.all, inside, eq_comm]

theorem filterMap_range_getElem? {α β : Type} (items : List α) (read : α → Option β) :
    (List.range items.length).filterMap (fun index => items[index]?.bind read) =
      items.filterMap read := by
  have all : (List.range items.length).map (items[·]?) = items.map some := by
    refine List.ext_getElem? fun index => ?_
    by_cases inside : index < items.length <;> simp [inside]
  have read_all := congrArg (List.filterMap (·.bind read)) all
  rwa [List.filterMap_map, List.filterMap_map] at read_all

theorem filterMap_visitsOfFile {window : Window} {rules : List Rule} {files : List SourceFile}
    {place : Nat} {file : SourceFile} (here : files[place]? = some file) :
    (visitsOfFile rules place file).filterMap (hitAt? window rules files) =
      inspectFile window rules file := by
  rw [visitsOfFile, inspectFile, List.filterMap_flatMap, LineContext.all, List.flatMap_map]
  refine List.flatMap_congr fun line inside => ?_
  rw [List.filterMap_map, ← filterMap_range_getElem? rules]
  refine congrArg (List.filterMap · _) (funext fun rule => ?_)
  change (files[place]?.bind _ : Option Hit) = _
  rw [here]
  change ((LineContext.all _ _ _)[line]?.bind _ : Option Hit) = _
  rw [getElem?_all.mpr ⟨List.mem_range.mp inside, rfl⟩]
  rfl

theorem inspect_eq_filterMap_visits (window : Window) (rules : List Rule)
    (files : List SourceFile) :
    inspect window rules files = (visits rules files).filterMap (hitAt? window rules files) := by
  have plain : files.flatMap (inspectFile window rules) =
      files.zipIdx.flatMap fun entry => inspectFile window rules entry.1 := by
    have firsts := congrArg (List.flatMap (inspectFile window rules)) (List.zipIdx_map_fst 0 files)
    rw [List.flatMap_map] at firsts
    exact firsts.symm
  rw [inspect, plain, visits, List.filterMap_flatMap]
  refine List.flatMap_congr fun entry listed => ?_
  exact (filterMap_visitsOfFile (List.mem_zipIdx_iff_getElem?.mp listed)).symm

theorem mem_visits {rules : List Rule} {files : List SourceFile} {visit : Visit} :
    visit ∈ visits rules files ↔ ∃ file, files[visit.file]? = some file ∧
      visit.line < (Text.lines file.content).length ∧ visit.rule < rules.length := by
  simp only [visits, visitsOfFile, List.mem_flatMap, List.mem_map, List.mem_range,
    List.mem_zipIdx_iff_getElem?]
  constructor
  · rintro ⟨⟨file, place⟩, listed, line, inside, rule, below, rfl⟩
    exact ⟨file, listed, inside, below⟩
  · rintro ⟨file, listed, inside, below⟩
    exact ⟨(file, visit.file), listed, visit.line, inside, visit.rule, below, rfl⟩

theorem hitAt?_eq_some_iff {window : Window} {rules : List Rule} {files : List SourceFile}
    {visit : Visit} {hit : Hit} :
    hitAt? window rules files visit = some hit ↔ ∃ file rule, files[visit.file]? = some file ∧
      visit.line < (Text.lines file.content).length ∧ rules[visit.rule]? = some rule ∧
      Hit.of? ⟨Text.lines file.content, visit.line, window, file.name⟩ rule = some hit := by
  simp only [hitAt?, bind, Option.bind_eq_some_iff, getElem?_all]
  constructor
  · rintro ⟨file, source, context, ⟨inside, rfl⟩, rule, listed, found⟩
    exact ⟨file, rule, source, inside, listed, found⟩
  · rintro ⟨file, rule, source, inside, listed, found⟩
    exact ⟨file, source, _, ⟨inside, rfl⟩, rule, listed, found⟩

/-! ## Placed hits -/

def placed {β : Type} (window : Window) (rules : List Rule) (files : List SourceFile)
    (read : Hit → Option β) : List (Visit × β) :=
  (visits rules files).filterMap fun visit =>
    ((hitAt? window rules files visit).bind read).map (visit, ·)

section Placed

variable {β : Type} {window : Window} {rules : List Rule} {files : List SourceFile}

theorem map_snd_placed (read : Hit → Option β) :
    (placed window rules files read).map (·.2) =
      (inspect window rules files).filterMap read := by
  rw [placed, inspect_eq_filterMap_visits, List.filterMap_filterMap, List.map_filterMap]
  refine List.filterMap_congr fun visit _ => ?_
  rw [Option.map_map]
  exact congrFun Option.map_id _

theorem pairwise_placed (read : Hit → Option β) :
    (placed window rules files read).Pairwise fun a b => a.1.Before b.1 := by
  rw [placed, List.pairwise_filterMap]
  refine (pairwise_visits rules files).imp fun before a here b there => ?_
  obtain ⟨_, -, rfl⟩ := Option.map_eq_some_iff.mp here
  obtain ⟨_, -, rfl⟩ := Option.map_eq_some_iff.mp there
  exact before

theorem mem_placed {read : Hit → Option β} {entry : Visit × β} :
    entry ∈ placed window rules files read ↔
      ∃ file rule hit, files[entry.1.file]? = some file ∧
        entry.1.line < (Text.lines file.content).length ∧ rules[entry.1.rule]? = some rule ∧
        Hit.of? ⟨Text.lines file.content, entry.1.line, window, file.name⟩ rule = some hit ∧
        read hit = some entry.2 := by
  obtain ⟨visit, out⟩ := entry
  simp only [placed, List.mem_filterMap, Option.map_eq_some_iff, Option.bind_eq_some_iff,
    hitAt?_eq_some_iff]
  constructor
  · rintro ⟨visit, -, out, ⟨hit, ⟨file, rule, source, inside, listed, met⟩, told⟩, same⟩
    cases same
    exact ⟨file, rule, hit, source, inside, listed, met, told⟩
  · rintro ⟨file, rule, hit, source, inside, listed, met, told⟩
    have below : visit.rule < rules.length := (List.getElem?_eq_some_iff.mp listed).1
    exact ⟨visit, mem_visits.mpr ⟨file, source, inside, below⟩, out,
      ⟨hit, ⟨file, rule, source, inside, listed, met⟩, told⟩, rfl⟩

end Placed

inductive Record where
  | violation (violation : Violation)
  | warning (warning : Warning)
  | diagnostic (diagnostic : Diagnostic)
  deriving DecidableEq, Repr

namespace Record

def violation? : Record → Option Violation
  | violation record => some record
  | _ => none

def warning? : Record → Option Warning
  | warning record => some record
  | _ => none

def diagnostic? : Record → Option Diagnostic
  | diagnostic record => some record
  | _ => none

def about? : Record → Option (String × Nat × String)
  | violation record => some (record.file, record.line, record.ruleId)
  | warning record => some (record.file, record.line, record.ruleId)
  | diagnostic (.ruleFault file line ruleId _) => some (file, line, ruleId)
  | diagnostic (.loadFailure _ _) => none

end Record

namespace Hit

def record (policy : Policy) (hit : Hit) : Record :=
  match hit.outcome with
  | .error fault => .diagnostic (.ruleFault hit.file hit.line hit.rule.id fault.message)
  | .ok finding =>
      match policy.bucketFor hit.rule with
      | .violations => .violation ⟨hit.file, hit.line, hit.rule.id, finding.message,
          hit.rule.severity, finding.suggestion⟩
      | .warnings => .warning ⟨hit.file, hit.line, hit.rule.id, finding.message⟩

theorem reads_record (policy : Policy) (hit : Hit) :
    (hit.record policy).violation? = hit.violation? policy ∧
      (hit.record policy).warning? = hit.warning? policy ∧
      (hit.record policy).diagnostic? = hit.diagnostic? ∧
      (hit.record policy).about? = some (hit.file, hit.line, hit.rule.id) := by
  obtain ⟨file, line, rule, outcome⟩ := hit
  cases outcome with
  | error fault => exact ⟨rfl, rfl, rfl, rfl⟩
  | ok finding =>
      cases bucket : policy.bucketFor rule <;>
        simp [record, violation?, warning?, diagnostic?, finding?, bucket, Record.violation?,
          Record.warning?, Record.diagnostic?, Record.about?, Except.toOption]

end Hit

namespace Engine

variable {α : Type} [Scalar α]

def recordAt? (engine : Engine α) (category : Category) (files : List SourceFile) (visit : Visit) :
    Option Record :=
  (hitAt? engine.window (engine.catalog.byCategory category) files visit).map
    (Hit.record engine.policy)

/-- The three lists of a run hold the records of its visits, in the order of the visits. -/
structure InOrder (engine : Engine α) (category : Category) (files : List SourceFile)
    (run : Run α) : Prop where
  ordered : (visits (engine.catalog.byCategory category) files).Pairwise Visit.Before
  violations : run.violations = (visits (engine.catalog.byCategory category) files).filterMap
    fun visit => (engine.recordAt? category files visit).bind Record.violation?
  warnings : run.warnings = (visits (engine.catalog.byCategory category) files).filterMap
    fun visit => (engine.recordAt? category files visit).bind Record.warning?
  diagnostics : run.diagnostics = (visits (engine.catalog.byCategory category) files).filterMap
    fun visit => (engine.recordAt? category files visit).bind Record.diagnostic?
  about : ∀ visit record, engine.recordAt? category files visit = some record →
    ∃ file rule, files[visit.file]? = some file ∧
      (engine.catalog.byCategory category)[visit.rule]? = some rule ∧
      visit.line < (Text.lines file.content).length ∧
      record.about? = some (file.name, visit.line + 1, rule.id)

omit [Scalar α] in
theorem filterMap_hits (engine : Engine α) (category : Category) (files : List SourceFile)
    {β : Type} {read : Hit → Option β} {pick : Record → Option β}
    (same : ∀ hit, pick (hit.record engine.policy) = read hit) :
    (engine.hits category files).filterMap read =
      (visits (engine.catalog.byCategory category) files).filterMap fun visit =>
        (engine.recordAt? category files visit).bind pick := by
  rw [hits, inspect_eq_filterMap_visits, List.filterMap_filterMap]
  refine congrArg (List.filterMap · _) (funext fun visit => ?_)
  rw [recordAt?, Option.bind_map]
  exact congrArg _ (funext fun hit => (same hit).symm)

theorem inOrder_runCategory (engine : Engine α) (category : Category) (files : List SourceFile) :
    engine.InOrder category files (engine.runCategory category files) where
  ordered := pairwise_visits ..
  violations := by
    rw [violations_runCategory]
    exact filterMap_hits engine category files fun hit => (hit.reads_record engine.policy).1
  warnings := by
    rw [warnings_runCategory]
    exact filterMap_hits engine category files fun hit => (hit.reads_record engine.policy).2.1
  diagnostics := by
    rw [diagnostics_runCategory]
    exact filterMap_hits engine category files fun hit => (hit.reads_record engine.policy).2.2.1
  about := by
    intro visit record left
    obtain ⟨hit, met, rfl⟩ := Option.map_eq_some_iff.mp left
    rw [(hit.reads_record engine.policy).2.2.2]
    simp only [hitAt?, bind, Option.bind_eq_some_iff] at met
    obtain ⟨file, source, context, here, rule, listed, found⟩ := met
    obtain ⟨inside, rfl⟩ := getElem?_all.mp here
    obtain ⟨named, numbered, same⟩ := Hit.eq_of_of? found
    exact ⟨file, rule, source, listed, inside, by rw [named, numbered, same]; rfl⟩

/-- The run over two lists of files is made of the runs over each of them. -/
structure Joined (engine : Engine α) (category : Category) (first second : List SourceFile)
    (one other both : CategoryResult α) : Prop where
  violations : both.violations = one.violations ++ other.violations
  warnings : both.warnings = one.warnings ++ other.warnings
  passed : both.passed = (one.passed && other.passed)
  suggestions : both.suggestions = ((engine.catalog.byCategory category).filter fun rule =>
    rule.fires engine.window first || rule.fires engine.window second).map (·.remediation)

theorem joined_summarize {engine : Engine α} (distinct : engine.catalog.Distinct)
    (category : Category) (first second : List SourceFile) :
    let result := fun files =>
      engine.summarize category (engine.catalog.byCategory category) (engine.hits category files)
    engine.Joined category first second (result first) (result second)
      (result (first ++ second)) := by
  have violations : (engine.hits category (first ++ second)).filterMap
      (Hit.violation? engine.policy) = (engine.hits category first).filterMap
        (Hit.violation? engine.policy) ++ (engine.hits category second).filterMap
          (Hit.violation? engine.policy) := by
    rw [hits_append, List.filterMap_append]
  refine ⟨violations, ?_, ?_, ?_⟩
  · change List.filterMap _ _ = _
    rw [hits_append, List.filterMap_append]
    rfl
  · change List.isEmpty _ = (List.isEmpty _ && List.isEmpty _)
    rw [violations]
    cases (engine.hits category first).filterMap (Hit.violation? engine.policy) <;> rfl
  · change Engine.suggestions _ _ = _
    rw [hits, suggestions_inspect distinct fun rule here => (Catalog.mem_byCategory.mp here).1]
    simp only [Rule.fires_append]

/-- Files are evaluated one by one: what several of them give is what each of them gives, in the
order of files, lines and rules. -/
theorem runCategory_append (engine : Engine α) (registered : engine.catalog.Registered)
    (category : Category) (first second : List SourceFile) :
    (∃ one other both, (engine.runCategory category first).results = [one] ∧
      (engine.runCategory category second).results = [other] ∧
      (engine.runCategory category (first ++ second)).results = [both] ∧
      engine.Joined category first second one other both) ∧
    (engine.runCategory category (first ++ second)).diagnostics =
      (engine.runCategory category first).diagnostics ++
        (engine.runCategory category second).diagnostics ∧
    (engine.runCategory category (first ++ second)).filesAnalyzed =
      (engine.runCategory category first).filesAnalyzed +
        (engine.runCategory category second).filesAnalyzed ∧
    engine.InOrder category (first ++ second) (engine.runCategory category (first ++ second)) := by
  refine ⟨⟨_, _, _, results_runCategory .., results_runCategory .., results_runCategory ..,
    joined_summarize registered.distinct category first second⟩, ?_, ?_,
    inOrder_runCategory engine category (first ++ second)⟩
  · simp only [diagnostics_runCategory, hits_append, List.filterMap_append]
  · exact List.length_append

def thrownTwice : SourceFile := ⟨"a.ts", "throw 'no';\nthrow new Error('no');".toList⟩

theorem runCategory_append_of_thrown_twice :
    Catalog.standard.Registered ∧ ∃ one both,
      (standardEngine.runCategory .errorHandling [thrownTwice]).results = [one] ∧
      (standardEngine.runCategory .errorHandling ([thrownTwice] ++ [thrownTwice])).results =
        [both] ∧
      one.violations.map (fun violation => (violation.line, violation.ruleId)) =
        [(1, "ERR005"), (2, "ERR001")] ∧
      standardEngine.Joined .errorHandling [thrownTwice] [thrownTwice] one one both := by
  have registered := Catalog.registered_standard
  obtain ⟨⟨one, other, both, first, second, whole, joined⟩, -⟩ := runCategory_append standardEngine
    registered .errorHandling [thrownTwice] [thrownTwice]
  obtain rfl : one = other := List.singleton_inj.mp (first.symm.trans second)
  have places : (standardEngine.runCategory .errorHandling [thrownTwice]).results.map
      (fun result => result.violations.map fun violation => (violation.line, violation.ruleId)) =
        [[(1, "ERR005"), (2, "ERR001")]] := by decide +kernel
  rw [first] at places
  exact ⟨registered, one, both, first, whole, List.singleton_inj.mp places, joined⟩

end Engine

end Compliance
