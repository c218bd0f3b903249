import Compliance.Proofs.Command.Atomicity
import Compliance.Proofs.Source.Revision
import Compliance.Proofs.Text.Utf8

/-!
# Checking what was fixed

A correction reports on contents that it holds in memory.  A check of the tree that it
leaves loads the same contents under the same names, so it comes to the same report.
-/

namespace Compliance

theorem LoadedSources.mem_files_ofAttempts {attempts : List (Except Diagnostic SourceFile)}
    {source : SourceFile} : source ∈ (ofAttempts attempts).files ↔ .ok source ∈ attempts := by
  simp only [ofAttempts, List.mem_filterMap]
  constructor
  · rintro ⟨attempt, here, loaded⟩
    cases attempt with
    | error fault => cases loaded
    | ok found =>
        obtain rfl := Option.some.inj loaded
        exact here
  · exact fun here => ⟨_, here, rfl⟩

theorem Loader.mem_files_loadPaths {loader : Loader} {tree : Tree} {paths : List String}
    {source : SourceFile} : source ∈ (loader.loadPaths tree paths).files ↔
      ∃ path ∈ paths, ∃ file ∈ loader.opened tree path, file.name = source.name ∧
        decodeUtf8 file.bytes = .ok source.content := by
  have reads (file : Opened) : loadBuffer file.name file.bytes = .ok source ↔
      file.name = source.name ∧ decodeUtf8 file.bytes = .ok source.content := by
    rw [loadBuffer]
    cases decodeUtf8 file.bytes with
    | error fault => simp
    | ok content => cases source; simp
  rw [loadPaths, LoadedSources.mem_files_ofAttempts, List.mem_flatMap]
  refine exists_congr fun path => and_congr_right fun _ => ?_
  rw [attempts_eq]
  cases leads : tree.resolve path with
  | nothing fault => simp [opened, leads]
  | file parts bytes => simp only [List.mem_map, reads]
  | directory parts => simp only [List.mem_map, reads]

namespace Command

def rewriteBytes (change : Text → Text) (bytes : Bytes) : Bytes :=
  match decodeUtf8 bytes with
  | .ok text => encodeUtf8 (change text)
  | .error _ => bytes

theorem rewriteBytes_of_decode {change : Text → Text} {bytes : Bytes} {text : Text}
    (reads : decodeUtf8 bytes = .ok text) :
      rewriteBytes change bytes = encodeUtf8 (change text) := by
  rw [rewriteBytes, reads]

theorem writeBack_revised {tree : Tree} (proper : tree.Proper) {rewrite : Bytes → Bytes}
    {corrections : List Correction}
    (known : ∀ correction ∈ corrections, ∀ parts, tree.writeTarget correction.file = .ok parts →
      ∃ bytes, tree.file? parts = some bytes ∧ rewrite bytes = encodeUtf8 correction.final)
    (written : List PathParts)
    (ended : (writeBack (tree.revised rewrite written) corrections).2 = none) :
    ∃ all, (writeBack (tree.revised rewrite written) corrections).1 = tree.revised rewrite all ∧
      written ⊆ all ∧ ∀ correction ∈ corrections, ∃ parts ∈ all,
        tree.writeTarget correction.file = .ok parts := by
  induction corrections generalizing written with
  | nil => exact ⟨written, rfl, fun _ here => here, by simp⟩
  | cons correction corrections ih =>
      rw [writeBack, Tree.writeTarget_revised] at ended ⊢
      cases target : tree.writeTarget correction.file with
      | error fault => rw [target] at ended; cases ended
      | ok parts =>
          obtain ⟨bytes, opened, same⟩ := known correction (by simp) parts target
          rw [target] at ended
          simp only [← same, Tree.write_revised proper opened] at ended ⊢
          obtain ⟨all, left, more, targets⟩ :=
            ih (fun other here => known other (by simp [here])) (parts :: written) ended
          refine ⟨all, left, fun other here => more (by simp [here]), ?_⟩
          intro other here
          rcases List.mem_cons.mp here with rfl | here
          · exact ⟨parts, more (by simp), target⟩
          · exact targets other here

section

variable {session : Session} {tree : Tree} {paths : List String} {corrections : List Correction}

def Session.settle (session : Session) (text : Text) : Text :=
  session.corrector.settle session.corrector.options.maxIterations text

def Session.settled (session : Session) (source : SourceFile) : SourceFile :=
  ⟨source.name, session.settle source.content⟩

theorem toFile_of_correctAll (catalog : session.engine.catalog = .standard)
    {files : List SourceFile} (ended : session.corrector.correctAll files = .ok corrections) :
    corrections.map (·.toFile) = files.map session.settled := by
  have free : session.corrector.NameFree := Corrector.nameFree_of_standard catalog rfl
  have each := Corrector.forall₂_of_correctAll ended
  clear ended
  induction each with
  | nil => rfl
  | cons first _ ih =>
      obtain ⟨named, -, final⟩ := Corrector.final_of_correct free first
      rw [List.map_cons, List.map_cons, ih, Correction.toFile, named, final]
      rfl

theorem exists_matching {β γ : Type} {R : β → γ → Prop} {first : List β} {second : List γ}
    (each : List.Forall₂ R first second) {value : β} (here : value ∈ first) :
    ∃ other ∈ second, R value other := by
  induction each with
  | nil => cases here
  | cons matched _ ih =>
      rcases List.mem_cons.mp here with rfl | here
      · exact ⟨_, by simp, matched⟩
      · obtain ⟨other, inside, matched⟩ := ih here
        exact ⟨other, by simp [inside], matched⟩

theorem exists_correction_of_mem {files : List SourceFile}
    (ended : session.corrector.correctAll files = .ok corrections) {source : SourceFile}
    (here : source ∈ files) :
    ∃ correction ∈ corrections, session.corrector.correct source = .ok correction :=
  exists_matching (Corrector.forall₂_of_correctAll ended) here

theorem exists_source_of_mem {files : List SourceFile}
    (ended : session.corrector.correctAll files = .ok corrections) {correction : Correction}
    (here : correction ∈ corrections) :
    ∃ source ∈ files, session.corrector.correct source = .ok correction :=
  exists_matching (R := flip fun file correction => session.corrector.correct file = .ok correction)
    (Corrector.forall₂_of_correctAll ended).flip here

/-- On the tree that is left the loader finds the corrected contents and the old diagnostics. -/
theorem loadPaths_left (proper : tree.Proper) (catalog : session.engine.catalog = .standard)
    (ended : session.corrector.correctAll (session.loader.loadPaths tree paths).files =
      .ok corrections)
    (written : (writeBack tree (corrections.filter (·.changed))).2 = none) :
    session.loader.loadPaths (writeBack tree (corrections.filter (·.changed))).1 paths =
      ⟨corrections.map (·.toFile), (session.loader.loadPaths tree paths).diagnostics⟩ := by
  have free : session.corrector.NameFree := Corrector.nameFree_of_standard catalog rfl
  have known : ∀ correction ∈ corrections.filter (·.changed), ∀ parts,
      tree.writeTarget correction.file = .ok parts → ∃ bytes, tree.file? parts = some bytes ∧
        rewriteBytes session.settle bytes = encodeUtf8 correction.final := by
    intro correction here parts target
    obtain ⟨source, loaded, corrected⟩ :=
      exists_source_of_mem ended (List.mem_filter.mp here).1
    obtain ⟨named, -, final⟩ := Corrector.final_of_correct free corrected
    obtain ⟨path, -, file, opened, same, reads⟩ := Loader.mem_files_loadPaths.mp loaded
    rw [named, ← same] at target
    obtain rfl := Loader.parts_of_writeTarget proper opened target
    refine ⟨file.bytes, (Tree.file?_eq_some_iff proper).mpr
      (Loader.mem_files_of_mem_opened proper opened), ?_⟩
    rw [rewriteBytes_of_decode reads, final]
    rfl
  rw [← tree.revised_nil (rewriteBytes session.settle)] at written
  obtain ⟨all, left, -, targets⟩ := writeBack_revised proper known [] written
  rw [Tree.revised_nil] at left
  rw [left, toFile_of_correctAll catalog ended]
  refine Loader.loadPaths_revised fun path asked file opened => ?_
  cases reads : decodeUtf8 file.bytes with
  | error fault =>
      have same : revisedBytes (rewriteBytes session.settle) all file.parts file.bytes =
          file.bytes := by
        rw [revisedBytes, rewriteBytes, reads]
        split <;> rfl
      rw [same, loadBuffer, reads]
      rfl
  | ok text =>
      have later : decodeUtf8
          (revisedBytes (rewriteBytes session.settle) all file.parts file.bytes) =
            .ok (session.settle text) := by
        rw [revisedBytes]
        split
        · rw [rewriteBytes_of_decode reads, decodeUtf8_encodeUtf8]
        · next unwritten =>
            -- a file that was not written held its final content all along
            have loaded : ⟨file.name, text⟩ ∈ (session.loader.loadPaths tree paths).files :=
              Loader.mem_files_loadPaths.mpr ⟨path, asked, file, opened, rfl, reads⟩
            obtain ⟨correction, inside, corrected⟩ := exists_correction_of_mem ended loaded
            obtain ⟨named, initial, final⟩ := Corrector.final_of_correct free corrected
            have unchanged : correction.changed = false := by
              by_contra changes
              obtain ⟨parts, listed, target⟩ := targets correction
                (List.mem_filter.mpr ⟨inside, by simpa using changes⟩)
              rw [named] at target
              exact unwritten (Loader.parts_of_writeTarget proper opened target ▸ listed)
            have still : session.settle text = text := by
              rw [Correction.changed, initial, final] at unchanged
              have same : text = session.settle text := by simpa [Session.settle] using unchanged
              exact same.symm
            rw [reads, still]
      rw [loadBuffer, loadBuffer, reads, later]
      rfl

end

/-! ## Reports -/

def checkReport (surroundings : Surroundings) (settings : Settings) (arguments : CheckArguments) :
    Except Failure Report := do
  let session ← Session.prepare settings arguments
  let loaded := session.loader.loadPaths surroundings.tree arguments.paths
  session.report surroundings.timestamp loaded.files loaded.diagnostics []

theorem runCheck_eq (surroundings : Surroundings) (settings : Settings)
    (arguments : CheckArguments) :
    runCheck surroundings settings arguments =
      orFail surroundings.tree (checkReport surroundings settings arguments)
        (emit surroundings.tree arguments) := by
  rw [runCheck, checkReport]
  cases Session.prepare settings arguments <;> rfl

theorem prepare_override (fixing : FixArguments) (settings : Settings)
    (arguments : CheckArguments) :
    Session.prepare (fixing.override settings) arguments =
      (Session.prepare settings arguments).map fun session =>
        { session with settings := fixing.override session.settings } := by
  have valid : (arguments.profiled (fixing.override settings)).validate .standard =
      (arguments.profiled settings).validate .standard := rfl
  have engine : (arguments.profiled (fixing.override settings)).engine .standard =
      (arguments.profiled settings).engine .standard := rfl
  have loader : (arguments.profiled (fixing.override settings)).loader =
      (arguments.profiled settings).loader := rfl
  have prepare_eq (settings : Settings) : Session.prepare settings arguments = do
      ((arguments.profiled settings).validate .standard).mapError .invalidSettings
      let engine ← ((arguments.profiled settings).engine .standard).mapError .failed
      let loader ← (arguments.profiled settings).loader.mapError .failed
      return { settings := arguments.profiled settings, engine, loader
               selection := Session.chosen (arguments.profiled settings)
                 arguments.selection } := rfl
  rw [prepare_eq, prepare_eq, valid, engine, loader]
  cases (arguments.profiled settings).validate .standard with
  | error fault => rfl
  | ok checked =>
      cases (arguments.profiled settings).engine .standard with
      | error fault => rfl
      | ok engine => cases (arguments.profiled settings).loader <;> rfl

theorem report_override (fixing : FixArguments) (session : Session) (timestamp : String)
    (files : List SourceFile) (diagnostics : List Diagnostic) (corrections : List Correction) :
    { session with settings := fixing.override session.settings }.report timestamp files diagnostics
        corrections =
      (session.report timestamp files diagnostics []).map ({ · with corrections }) := by
  have gate : (fixing.override session.settings).gateConfig = session.settings.gateConfig := rfl
  rw [Session.report, Session.report, gate]
  cases session.engine.run session.selection files with
  | error fault => rfl
  | ok run => cases session.settings.gateConfig <;> rfl

theorem catalog_of_prepare {settings : Settings} {arguments : CheckArguments} {session : Session}
    (prepared : Session.prepare settings arguments = .ok session) :
    session.engine.catalog = .standard := by
  have built := (Session.prepared_of_prepare prepared).engine_eq
  obtain ⟨policy, -, rest⟩ := exists_of_bind_eq_ok built
  obtain ⟨scoring, -, rest⟩ := exists_of_bind_eq_ok rest
  obtain ⟨sops, -, same⟩ := exists_of_bind_eq_ok rest
  rw [← Except.ok.inj same]

theorem checkReport_left {surroundings : Surroundings} {settings : Settings}
    {arguments : FixArguments} {session : Session} {corrections : List Correction} {report : Report}
    (proper : surroundings.tree.Proper)
    (corrects : Corrects surroundings settings arguments session corrections)
    (reported : session.corrected surroundings arguments corrections = .ok report)
    (written : (writeBack surroundings.tree (corrections.filter (·.changed))).2 = none) :
    checkReport
        { surroundings with
          tree := (writeBack surroundings.tree (corrections.filter (·.changed))).1 }
        settings arguments.check =
      .ok { report with corrections := [] } := by
  have prepared := corrects.prepared
  have catalog := catalog_of_prepare prepared
  have loads := loadPaths_left proper catalog corrects.corrected written
  rw [prepare_override] at prepared
  cases stands : Session.prepare settings arguments.check with
  | error fault => rw [stands] at prepared; cases prepared
  | ok plain =>
      rw [stands] at prepared
      obtain rfl := Except.ok.inj prepared
      rw [Session.corrected, report_override] at reported
      rw [checkReport, stands]
      change plain.report _ (plain.loader.loadPaths _ _).files
        (plain.loader.loadPaths _ _).diagnostics [] = _
      rw [loads]
      dsimp only at reported ⊢
      cases ended : plain.report surroundings.timestamp (corrections.map (·.toFile))
          (plain.loader.loadPaths surroundings.tree arguments.check.paths).diagnostics [] with
      | error fault => rw [ended] at reported; cases reported
      | ok found =>
          rw [ended] at reported
          obtain rfl := Except.ok.inj reported
          have bare : found.corrections = [] := by
            obtain ⟨run, -, rest⟩ := exists_of_bind_eq_ok ended
            obtain ⟨gate, -, same⟩ := exists_of_bind_eq_ok rest
            rw [← Except.ok.inj same]
          rw [← bare]

theorem exists_report_of_ended {surroundings : Surroundings} {settings : Settings}
    {arguments : FixArguments}
    (ended : (runFix surroundings settings arguments).ending.exitCode ≤ 1) :
    ∃ session corrections report, Corrects surroundings settings arguments session corrections ∧
      (arguments.leave surroundings.tree corrections).2 = none ∧
      session.corrected surroundings arguments corrections = .ok report := by
  rcases runFix_cases surroundings settings arguments with ⟨failure, -, stopped⟩ |
    ⟨session, corrections, corrects, ⟨failure, -, stopped⟩ | ⟨report, written, reported, -⟩⟩
  · have large : ¬ failure.ending.exitCode ≤ 1 := by
      rw [Failure.ending.eq_def]
      split <;> simp [Ending.exitCode]
    rw [stopped] at ended
    exact absurd ended large
  · rw [stopped] at ended
    exact absurd ended (Nat.not_succ_le_self 1)
  · exact ⟨session, corrections, report, corrects, written, reported⟩

theorem loadSettings_congr {surroundings : Surroundings} {invocation : Invocation} {tree : Tree}
    (same : Settings.file? tree invocation.config =
      Settings.file? surroundings.tree invocation.config) :
    loadSettings { surroundings with tree } invocation = loadSettings surroundings invocation := by
  have loads : Settings.load tree invocation.config surroundings.environment =
      Settings.load surroundings.tree invocation.config surroundings.environment := by
    rw [Settings.load, Settings.load, same]
  rw [loadSettings, loadSettings, loads]

def Invocation.fixing (invocation : Invocation) (arguments : FixArguments) (write : Bool) :
    Invocation :=
  { invocation with task := .fix { arguments with write } }

def Invocation.checking (invocation : Invocation) (arguments : CheckArguments) : Invocation :=
  { invocation with task := .check arguments }

theorem tree_runFix_of_unwritten {surroundings : Surroundings} {settings : Settings}
    {arguments : FixArguments} (unwritten : arguments.write = false)
    (printed : arguments.check.output = none) :
    (runFix surroundings settings arguments).tree = surroundings.tree := by
  have leaves (corrections : List Correction) :
      arguments.leave surroundings.tree corrections = (surroundings.tree, none) := by
    rw [FixArguments.leave, unwritten]
    rfl
  rcases runFix_cases surroundings settings arguments with ⟨failure, -, ends⟩ |
    ⟨session, corrections, -, ⟨failure, -, ends⟩ | ⟨report, -, -, ends⟩⟩
  · rw [ends]
  · rw [ends, leaves]
  · rw [ends, leaves, emit_eq printed]

/-- What `fix` reports is what `check` reports on the tree that `fix --write` leaves, and without
`--write` it reports the same and leaves the tree alone. -/
theorem perform_checking_left {surroundings : Surroundings} {invocation : Invocation}
    {arguments : FixArguments} {settings : Settings} (proper : surroundings.tree.Proper)
    (printed : arguments.check.output = none)
    (loaded : loadSettings surroundings invocation = .ok settings) :
    (perform surroundings (invocation.fixing arguments false)).tree = surroundings.tree ∧
    ((perform surroundings (invocation.fixing arguments true)).ending.exitCode ≤ 1 →
      ∃ session corrections report left,
        Corrects surroundings settings arguments session corrections ∧
        session.corrected surroundings arguments corrections = .ok report ∧
        perform surroundings (invocation.fixing arguments true) =
          ⟨verdict report, arguments.check.format.render report ++ "\n", left⟩ ∧
        perform surroundings (invocation.fixing arguments false) =
          ⟨verdict report, arguments.check.format.render report ++ "\n", surroundings.tree⟩ ∧
        checkReport { surroundings with tree := left } settings arguments.check =
          .ok { report with corrections := [] } ∧
        (loadSettings { surroundings with tree := left } invocation = .ok settings →
          perform { surroundings with tree := left } (invocation.checking arguments.check) =
            ⟨verdict report,
              arguments.check.format.render { report with corrections := [] } ++ "\n", left⟩)) := by
  have runs (write : Bool) : perform surroundings (invocation.fixing arguments write) =
      runFix surroundings settings { arguments with write } := by
    have same : loadSettings surroundings (invocation.fixing arguments write) = .ok settings :=
      loaded
    rw [perform, same]
    rfl
  refine ⟨by rw [runs]; exact tree_runFix_of_unwritten rfl printed, fun ended => ?_⟩
  rw [runs] at ended
  obtain ⟨session, corrections, report, corrects, written, reported⟩ := exists_report_of_ended ended
  have corrects' (write : Bool) :
      Corrects surroundings settings { arguments with write } session corrections :=
    ⟨corrects.prepared, corrects.corrected⟩
  have reported' (write : Bool) :
      session.corrected surroundings { arguments with write } corrections = .ok report := reported
  have corrects : Corrects surroundings settings arguments session corrections :=
    ⟨corrects.prepared, corrects.corrected⟩
  have again : checkReport
      { surroundings with tree := (writeBack surroundings.tree (corrections.filter (·.changed))).1 }
      settings arguments.check = .ok { report with corrections := [] } :=
    checkReport_left proper corrects reported written
  refine ⟨session, corrections, report,
    (writeBack surroundings.tree (corrections.filter (·.changed))).1,
    corrects, reported, ?_, ?_, again, ?_⟩
  · rw [runs, (corrects' true).runFix_eq, written, reported' true]
    exact emit_eq printed report
  · rw [runs, (corrects' false).runFix_eq, FixArguments.leave, reported' false]
    exact emit_eq printed report
  · intro same
    have here : loadSettings
        { surroundings with
          tree := (writeBack surroundings.tree (corrections.filter (·.changed))).1 }
        (invocation.checking arguments.check) = .ok settings := same
    rw [perform, here]
    change runCheck _ settings arguments.check = _
    rw [runCheck_eq, again]
    exact emit_eq printed _

def debuggerPaths : FixArguments where
  check := { paths := ["a.ts", "src", "./a.ts"], selection := { rules := ["MAINT004"] } }

def debuggerTask : Invocation := { task := .fix debuggerPaths }

theorem perform_checking_debuggerFiles :
    ∃ report left, left.files = [(["a.ts"], encodeUtf8 "\n".toList),
        (["src", "b.ts"], encodeUtf8 "\nrun();\n".toList)] ∧
      perform debuggerFiles (debuggerTask.fixing debuggerPaths true) =
        ⟨.passed, ReportFormat.human.render report ++ "\n", left⟩ ∧
      perform { debuggerFiles with tree := left } (debuggerTask.checking debuggerPaths.check) =
        ⟨.passed, ReportFormat.human.render { report with corrections := [] } ++ "\n", left⟩ := by
  obtain ⟨settings, loaded⟩ : ∃ settings, loadSettings debuggerFiles debuggerTask =
      .ok settings := by
    cases loads : loadSettings debuggerFiles debuggerTask with
    | ok settings => exact ⟨settings, rfl⟩
    | error failure =>
        have stands : (loadSettings debuggerFiles debuggerTask).toBool = true := by decide +kernel
        rw [loads] at stands
        cases stands
  have result : (perform debuggerFiles (debuggerTask.fixing debuggerPaths true)).ending = .passed ∧
      (perform debuggerFiles (debuggerTask.fixing debuggerPaths true)).tree =
        ⟨[(["a.ts"], encodeUtf8 "\n".toList),
          (["src", "b.ts"], encodeUtf8 "\nrun();\n".toList)], [], []⟩ := by
    decide +kernel
  have proper : debuggerFiles.tree.Proper := Tree.proper_ofBuffers (by simp) _
  obtain ⟨session, corrections, report, left, -, -, fixed, -, -, checked⟩ :=
    (perform_checking_left proper rfl loaded).2 (by rw [result.1]; decide)
  rw [fixed] at result
  obtain ⟨passed, rfl⟩ := result
  rw [show verdict report = .passed from passed] at fixed checked
  refine ⟨report, _, rfl, fixed, checked ?_⟩
  rw [← loaded]
  exact loadSettings_congr (by decide +kernel)

end Command

end Compliance
