import Compliance.Proofs.Command.Session

/-!
# Configuration before writing

Whatever is wrong with the settings, the globs or the selection comes to light before
the first file is written: a run that ends because of it leaves the tree as it was, and
behind the first write only the disk can stop a run.
-/

namespace Compliance.Command

/-- The failure comes from the settings or the command line and not from the disk. -/
def Failure.ofConfiguration : Failure → Bool
  | unwritableFile _ _ => false
  | unwritableReport _ _ => false
  | _ => true

/-- The run came to a verdict, or the disk stopped it. -/
def Ending.pastChecks : Ending → Bool
  | passed => true
  | gateFailed => true
  | failed failure => !failure.ofConfiguration
  | usage => false
  | broken => false

theorem Session.ofConfiguration_of_prepare {settings : Settings} {arguments : CheckArguments}
    {failure : Failure} (ended : prepare settings arguments = .error failure) :
    failure.ofConfiguration = true := by
  rcases of_bind_eq_error ended with invalid | ⟨⟨⟩, -, rest⟩
  · obtain ⟨cause, rfl⟩ := exists_of_mapError_eq_error invalid
    rfl
  · rcases of_bind_eq_error rest with unbuilt | ⟨engine, -, rest⟩
    · obtain ⟨cause, rfl⟩ := exists_of_mapError_eq_error unbuilt
      rfl
    · rcases of_bind_eq_error rest with unread | ⟨loader, -, rest⟩
      · obtain ⟨cause, rfl⟩ := exists_of_mapError_eq_error unread
        rfl
      · cases rest

theorem Session.ofConfiguration_of_report {session : Session} {timestamp : String}
    {files : List SourceFile} {diagnostics : List Diagnostic} {corrections : List Correction}
    {failure : Failure}
    (ended : session.report timestamp files diagnostics corrections = .error failure) :
    failure.ofConfiguration = true := by
  rcases of_bind_eq_error ended with unresolved | ⟨run, -, rest⟩
  · obtain ⟨cause, rfl⟩ := exists_of_mapError_eq_error unresolved
    rfl
  · rcases of_bind_eq_error rest with noGate | ⟨gate, -, rest⟩
    · obtain ⟨cause, rfl⟩ := exists_of_mapError_eq_error noGate
      rfl
    · cases rest

theorem failure_of_writeBack {tree : Tree} {corrections : List Correction} {failure : Failure}
    (stopped : (writeBack tree corrections).2 = some failure) :
    failure.ofConfiguration = false := by
  induction corrections generalizing tree with
  | nil => cases stopped
  | cons correction corrections ih =>
      rw [writeBack] at stopped
      split at stopped
      · exact ih stopped
      · obtain rfl := Option.some.inj stopped
        rfl

def FixArguments.leave (arguments : FixArguments) (tree : Tree) (corrections : List Correction) :
    Tree × Option Failure :=
  if arguments.write then writeBack tree (corrections.filter (·.changed)) else (tree, none)

structure Corrects (surroundings : Surroundings) (settings : Settings) (arguments : FixArguments)
    (session : Session) (corrections : List Correction) : Prop where
  prepared : Session.prepare (arguments.override settings) arguments.check = .ok session
  corrected : session.corrector.correctAll
    (session.loader.loadPaths surroundings.tree arguments.check.paths).files = .ok corrections

def Session.corrected (session : Session) (surroundings : Surroundings) (arguments : FixArguments)
    (corrections : List Correction) : Except Failure Report :=
  session.report surroundings.timestamp (corrections.map (·.toFile))
    (session.loader.loadPaths surroundings.tree arguments.check.paths).diagnostics corrections

theorem Corrects.runFix_eq {surroundings : Surroundings} {settings : Settings}
    {arguments : FixArguments} {session : Session} {corrections : List Correction}
    (corrects : Corrects surroundings settings arguments session corrections) :
    runFix surroundings settings arguments =
      match (arguments.leave surroundings.tree corrections).2 with
      | some failure => ⟨.failed failure, "", (arguments.leave surroundings.tree corrections).1⟩
      | none => orFail (arguments.leave surroundings.tree corrections).1
          (session.corrected surroundings arguments corrections) fun report =>
            emit (arguments.leave surroundings.tree corrections).1 arguments.check report := by
  simp only [runFix, corrects.prepared, orFail, corrects.corrected, Except.mapError]
  rfl

/-- A correction ends in front of the writing, in the midst of it, or with a report behind it. -/
theorem runFix_cases (surroundings : Surroundings) (settings : Settings)
    (arguments : FixArguments) :
    (∃ failure : Failure, failure.ofConfiguration = true ∧
      runFix surroundings settings arguments = ⟨failure.ending, "", surroundings.tree⟩) ∨
    ∃ session corrections, Corrects surroundings settings arguments session corrections ∧
      ((∃ failure, (arguments.leave surroundings.tree corrections).2 = some failure ∧
          runFix surroundings settings arguments =
            ⟨.failed failure, "", (arguments.leave surroundings.tree corrections).1⟩) ∨
        ∃ report, (arguments.leave surroundings.tree corrections).2 = none ∧
          session.corrected surroundings arguments corrections = .ok report ∧
          runFix surroundings settings arguments =
            emit (arguments.leave surroundings.tree corrections).1 arguments.check report) := by
  cases prepared : Session.prepare (arguments.override settings) arguments.check with
  | error failure =>
      refine .inl ⟨failure, Session.ofConfiguration_of_prepare prepared, ?_⟩
      rw [runFix, prepared]
      rfl
  | ok session =>
      cases corrected : session.corrector.correctAll
          (session.loader.loadPaths surroundings.tree arguments.check.paths).files with
      | error fault =>
          refine .inl ⟨.failed fault, rfl, ?_⟩
          simp only [runFix, prepared, orFail, corrected, Except.mapError]
      | ok corrections =>
          have corrects : Corrects surroundings settings arguments session corrections :=
            ⟨prepared, corrected⟩
          cases stopped : (arguments.leave surroundings.tree corrections).2 with
          | some failure =>
              refine .inr ⟨session, corrections, corrects, .inl ⟨failure, stopped, ?_⟩⟩
              rw [corrects.runFix_eq, stopped]
          | none =>
              cases reported : session.corrected surroundings arguments corrections with
              | ok report =>
                  refine .inr ⟨session, corrections, corrects, .inr ⟨report, stopped, reported, ?_⟩⟩
                  rw [corrects.runFix_eq, stopped, reported]
                  rfl
              | error failure =>
                  -- a report fails only where no file was corrected, so none was written
                  have none : corrections = [] := by
                    by_contra some
                    obtain ⟨report, ended⟩ :=
                      (Session.prepared_of_prepare prepared).report_of_correctAll
                      corrected some surroundings.timestamp (corrections.map (·.toFile))
                      (session.loader.loadPaths surroundings.tree arguments.check.paths).diagnostics
                    rw [Session.corrected, ended] at reported
                    cases reported
                  subst none
                  have same : (arguments.leave surroundings.tree []).1 = surroundings.tree := by
                    rw [FixArguments.leave]
                    split <;> rfl
                  refine .inl ⟨failure, Session.ofConfiguration_of_report reported, ?_⟩
                  rw [corrects.runFix_eq, stopped, reported, same]
                  rfl

/-! ## Runs -/

theorem emit_eq {tree : Tree} {arguments : CheckArguments} (printed : arguments.output = none)
    (report : Report) :
    emit tree arguments report =
      ⟨verdict report, arguments.format.render report ++ "\n", tree⟩ := by
  rw [emit, printed]

theorem pastChecks_emit {tree : Tree} {arguments : CheckArguments} {report : Report} :
    (emit tree arguments report).ending.pastChecks = true := by
  rw [emit]
  split
  · rw [verdict]
    cases report.gate.passed <;> rfl
  · split
    · rw [verdict]
      cases report.gate.passed <;> rfl
    · rfl

/-- A run that does not get past all checks leaves the tree as it was. -/
def Result.Settled (result : Result) (tree : Tree) : Prop :=
  result.ending.pastChecks = false → result.tree = tree

theorem settled_orFail {α : Type} {tree : Tree} {result : Except Failure α} {next : α → Result}
    (later : ∀ value, result = .ok value → (next value).Settled tree) :
    (orFail tree result next).Settled tree := by
  cases result with
  | error failure => exact fun _ => rfl
  | ok value => exact later value rfl

theorem settled_runFix (surroundings : Surroundings) (settings : Settings)
    (arguments : FixArguments) :
    (runFix surroundings settings arguments).Settled surroundings.tree := by
  intro stopped
  rcases runFix_cases surroundings settings arguments with ⟨failure, -, ended⟩ |
    ⟨session, corrections, corrects, ⟨failure, halted, ended⟩ | ⟨report, -, -, ended⟩⟩
  · rw [ended]
  · rw [FixArguments.leave] at halted
    split at halted
    · rw [ended, Ending.pastChecks, failure_of_writeBack halted] at stopped
      cases stopped
    · cases halted
  · rw [ended, pastChecks_emit] at stopped
    cases stopped

theorem settled_runCheck (surroundings : Surroundings) (settings : Settings)
    (arguments : CheckArguments) :
    (runCheck surroundings settings arguments).Settled surroundings.tree := by
  refine settled_orFail fun session _ => settled_orFail fun report _ stopped => ?_
  rw [pastChecks_emit] at stopped
  cases stopped

theorem settled_run (surroundings : Surroundings) (arguments : List String) :
    (run surroundings arguments).Settled surroundings.tree := by
  rw [run]
  split
  · exact fun _ => rfl
  · exact fun _ => rfl
  · exact fun _ => rfl
  · next invocation _ =>
      refine settled_orFail fun settings _ => ?_
      cases task : invocation.task with
      | check arguments => exact settled_runCheck surroundings settings arguments
      | fix arguments => exact settled_runFix surroundings settings arguments
      | rules arguments => exact settled_orFail fun rules _ _ => rfl

/-- `fix` gets as far as putting a first changed content back. -/
def Rewrites (surroundings : Surroundings) (settings : Settings)
    (arguments : FixArguments) : Prop :=
  arguments.write = true ∧ ∃ session corrections first others parts,
    Corrects surroundings settings arguments session corrections ∧
      corrections.filter (·.changed) = first :: others ∧
      surroundings.tree.writeTarget first.file = .ok parts

theorem FixArguments.exists_target_of_leave_ne {arguments : FixArguments} {tree : Tree}
    {corrections : List Correction} (changed : (arguments.leave tree corrections).1 ≠ tree) :
    arguments.write = true ∧ ∃ first others parts,
      corrections.filter (·.changed) = first :: others ∧
        tree.writeTarget first.file = .ok parts := by
  rw [leave] at changed
  split at changed
  · next asked =>
      refine ⟨asked, ?_⟩
      cases some : corrections.filter (·.changed) with
      | nil =>
          rw [some] at changed
          exact absurd rfl changed
      | cons first others =>
          rw [some, writeBack] at changed
          split at changed
          · next parts target => exact ⟨first, others, parts, rfl, target⟩
          · exact absurd rfl changed
  · exact absurd rfl changed

/-- Where nothing else is written, a tree that has changed shows that a content was put back. -/
theorem rewrites_of_tree_ne {surroundings : Surroundings} {settings : Settings}
    {arguments : FixArguments} (printed : arguments.check.output = none)
    (changed : (runFix surroundings settings arguments).tree ≠ surroundings.tree) :
    Rewrites surroundings settings arguments := by
  have left : ∃ session corrections, Corrects surroundings settings arguments session corrections ∧
      (arguments.leave surroundings.tree corrections).1 ≠ surroundings.tree := by
    rcases runFix_cases surroundings settings arguments with ⟨failure, -, ended⟩ |
      ⟨session, corrections, corrects, ⟨failure, -, ended⟩ | ⟨report, -, -, ended⟩⟩
    · rw [ended] at changed
      exact absurd rfl changed
    · rw [ended] at changed
      exact ⟨session, corrections, corrects, changed⟩
    · rw [ended, emit_eq printed] at changed
      exact ⟨session, corrections, corrects, changed⟩
  obtain ⟨session, corrections, corrects, changed⟩ := left
  obtain ⟨asked, first, others, parts, some, target⟩ :=
    FixArguments.exists_target_of_leave_ne changed
  exact ⟨asked, session, corrections, first, others, parts, corrects, some, target⟩

/-- A run that the settings, a glob or the selection bring to an end leaves the tree as it was.
Once `fix` has put the first changed content back, none of these can end it any more. -/
theorem run_settled (surroundings : Surroundings) (arguments : List String) :
    (∀ failure, (run surroundings arguments).ending = .failed failure →
      failure.ofConfiguration = true → (run surroundings arguments).tree = surroundings.tree) ∧
    ∀ invocation fixing settings, parse? arguments = some (.run invocation) →
      invocation.task = .fix fixing → loadSettings surroundings invocation = .ok settings →
      Rewrites surroundings settings fixing →
      (run surroundings arguments).ending.pastChecks = true := by
  constructor
  · intro failure ended cause
    refine settled_run surroundings arguments ?_
    rw [ended, Ending.pastChecks, cause]
    rfl
  · rintro invocation fixing settings reads task loaded
      ⟨asked, session, corrections, first, others, parts, corrects, some, target⟩
    have runs : run surroundings arguments = runFix surroundings settings fixing := by
      rw [run, reads]
      simp only [perform, loaded, orFail, task]
    rw [runs, corrects.runFix_eq]
    cases stopped : (fixing.leave surroundings.tree corrections).2 with
    | some failure =>
        rw [FixArguments.leave, if_pos asked] at stopped
        simp [Ending.pastChecks, failure_of_writeBack stopped]
    | none =>
        have nonempty : corrections ≠ [] := by
          rintro rfl
          cases some
        obtain ⟨report, ended⟩ :=
          (Session.prepared_of_prepare corrects.prepared).report_of_correctAll corrects.corrected
            nonempty surroundings.timestamp (corrections.map (·.toFile))
            (session.loader.loadPaths surroundings.tree fixing.check.paths).diagnostics
        rw [Session.corrected, ended]
        exact pastChecks_emit

def debuggerFiles : Surroundings where
  tree := .ofBuffers [] [("a.ts", encodeUtf8 "  debugger;\n".toList),
    ("src/b.ts", encodeUtf8 "debugger\nrun();\n".toList)]
  timestamp := "2024-01-01T00:00:00Z"

def rewriting : List String := ["fix", "--write", "--rule", "MAINT004", "a.ts", "src"]

def rewritten : FixArguments where
  check := { paths := ["a.ts", "src"], selection := { rules := ["MAINT004"] } }
  write := true

theorem run_settled_debuggerFiles :
    (run debuggerFiles ["fix", "--write", "--rule", "MAINT999", "a.ts"]).tree = debuggerFiles.tree ∧
    ∃ settings, parse? rewriting = some (.run { task := .fix rewritten }) ∧
      loadSettings debuggerFiles { task := .fix rewritten } = .ok settings ∧
      Rewrites debuggerFiles settings rewritten ∧
      (run debuggerFiles rewriting).ending.pastChecks = true := by
  have unknown : (run debuggerFiles ["fix", "--write", "--rule", "MAINT999", "a.ts"]).ending =
      .failed (.failed (.unknownRule "MAINT999")) := by decide +kernel
  refine ⟨(run_settled debuggerFiles _).1 _ unknown rfl, ?_⟩
  have reads : parse? rewriting = some (.run { task := .fix rewritten }) := by decide +kernel
  have changed : (run debuggerFiles rewriting).tree ≠ debuggerFiles.tree := by decide +kernel
  rw [run, reads] at changed
  cases loaded : loadSettings debuggerFiles { task := .fix rewritten } with
  | error failure =>
      simp only [perform, loaded, orFail] at changed
      exact absurd rfl changed
  | ok settings =>
      simp only [perform, loaded, orFail] at changed
      have rewrites := rewrites_of_tree_ne rfl changed
      exact ⟨settings, reads, rfl, rewrites,
        (run_settled debuggerFiles rewriting).2 _ _ settings reads rfl loaded rewrites⟩

end Compliance.Command
