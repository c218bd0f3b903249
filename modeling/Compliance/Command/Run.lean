import Compliance.Command.Arguments
import Compliance.Listing
import Compliance.Report.Rendering
import Compliance.Settings.Derived
import Compliance.Settings.Layers

/-!
# Running commands

A command runs over a file tree and variables and gives an ending, what it
prints and the tree that it leaves behind.  Settings are checked as a whole
before any file is read, so that a bad configuration changes nothing.
-/

namespace Compliance.Command

inductive Failure where
  | unreadableSettings (error : Error)
  | invalidSettings (error : Error)
  | unknownLogLevel (level : String)
  | failed (error : Error)
  | unwritableFile (file : String) (fault : PathFault)
  | unwritableReport (path : String) (fault : PathFault)
  deriving DecidableEq, Repr

def Failure.message : Failure → String
  | unreadableSettings error => "failed to load configuration: " ++ error.message
  | invalidSettings error => "invalid configuration: " ++ error.message
  | unknownLogLevel level =>
      s!"Invalid log level: {level}. Use trace, debug, info, warn, or error"
  | failed error => error.message
  | unwritableFile file fault => s!"failed to write {file}: {fault.message}"
  | unwritableReport path fault => s!"failed to write report to {path}: {fault.message}"

inductive Ending where
  | passed
  | gateFailed
  | failed (failure : Failure)
  | usage
  | broken
  deriving DecidableEq, Repr

def Ending.exitCode : Ending → Nat
  | passed => 0
  | gateFailed => 1
  | failed _ => 2
  | usage => 2
  | broken => 101

/-- A variable with a broken text ends everything at once. -/
def Failure.ending : Failure → Ending
  | unreadableSettings (.brokenVariable _) => .broken
  | failure => .failed failure

structure Surroundings where
  tree : Tree
  environment : List (String × String) := []
  timestamp : String
  deriving DecidableEq, Repr

structure Result where
  ending : Ending
  output : String := ""
  tree : Tree
  deriving DecidableEq, Repr

structure Session where
  settings : Settings
  engine : Engine Float
  selection : Selection
  loader : Loader

namespace Session

/-- The selection of the command line, or the configured categories. -/
def chosen (settings : Settings) (selection : Selection) : Selection :=
  if selection.isEmpty then { categories := settings.general.categories } else selection

def prepare (settings : Settings) (arguments : CheckArguments) : Except Failure Session := do
  let profile := arguments.profile.getD settings.gating.profile
  let settings := { settings with gating := { settings.gating with profile } }
  (settings.validate .standard).mapError .invalidSettings
  let engine ← (settings.engine .standard).mapError .failed
  let loader ← settings.loader.mapError .failed
  return { settings, engine, selection := chosen settings arguments.selection, loader }

def report (session : Session) (timestamp : String) (files : List SourceFile)
    (diagnostics : List Diagnostic) (corrections : List Correction) : Except Failure Report := do
  let run ← (session.engine.run session.selection files).mapError .failed
  let run := run.withDiagnostics diagnostics
  let gate ← session.settings.gateConfig.mapError .failed
  return ⟨timestamp, run, gate.evaluate run session.engine.scoring, corrections⟩

def corrector (session : Session) : Corrector Float where
  engine := session.engine
  registry := .standard
  selection := session.selection
  options := session.settings.correctionOptions

end Session

def ReportFormat.render : ReportFormat → Report → String
  | human, report => report.plainText
  | json, report => report.json
  | ci, report => report.annotated

def verdict (report : Report) : Ending := if report.gate.passed then .passed else .gateFailed

def emit (tree : Tree) (arguments : CheckArguments) (report : Report) : Result :=
  let rendered := arguments.format.render report
  match arguments.output with
  | none => ⟨verdict report, rendered ++ "\n", tree⟩
  | some path =>
      match tree.writeTarget path with
      | .ok parts => ⟨verdict report, "", tree.write parts (encodeUtf8 rendered.toList)⟩
      | .error fault => ⟨.failed (.unwritableReport path fault), "", tree⟩

def orFail {α : Type} (tree : Tree) (result : Except Failure α) (next : α → Result) : Result :=
  match result with
  | .ok value => next value
  | .error failure => ⟨failure.ending, "", tree⟩

/-! ## The three tasks -/

def runCheck (surroundings : Surroundings) (settings : Settings) (arguments : CheckArguments) :
    Result :=
  orFail surroundings.tree (Session.prepare settings arguments) fun session =>
    let loaded := session.loader.loadPaths surroundings.tree arguments.paths
    orFail surroundings.tree
      (session.report surroundings.timestamp loaded.files loaded.diagnostics []) fun report =>
        emit surroundings.tree arguments report

def writeBack : Tree → List Correction → Tree × Option Failure
  | tree, [] => (tree, none)
  | tree, correction :: others =>
      match tree.writeTarget correction.file with
      | .ok parts => writeBack (tree.write parts (encodeUtf8 correction.final)) others
      | .error fault => (tree, some (.unwritableFile correction.file fault))

def FixArguments.override (arguments : FixArguments) (settings : Settings) : Settings :=
  { settings with
    correction :=
      { maxIterations := arguments.maxIterations.getD settings.correction.maxIterations
        skipRules := settings.correction.skipRules ++ arguments.skipRules
        onlyRules := settings.correction.onlyRules ++ arguments.onlyRules } }

def runFix (surroundings : Surroundings) (settings : Settings) (arguments : FixArguments) :
    Result :=
  let tree := surroundings.tree
  orFail tree (Session.prepare (arguments.override settings) arguments.check) fun session =>
    let loaded := session.loader.loadPaths tree arguments.check.paths
    orFail tree ((session.corrector.correctAll loaded.files).mapError .failed) fun corrections =>
      let (tree, failure) :=
        if arguments.write then writeBack tree (corrections.filter (·.changed)) else (tree, none)
      match failure with
      | some failure => ⟨.failed failure, "", tree⟩
      | none =>
          orFail tree (session.report surroundings.timestamp (corrections.map (·.toFile))
            loaded.diagnostics corrections) fun report => emit tree arguments.check report

def listedRules (arguments : RulesArguments) : Except Error (List Rule) :=
  match arguments.category with
  | some id => (Category.parse id).map Catalog.standard.byCategory
  | none => .ok Catalog.standard.rules

def runRules (tree : Tree) (arguments : RulesArguments) : Result :=
  orFail tree ((listedRules arguments).mapError .failed) fun rules =>
    ⟨.passed, if arguments.json then listRulesJson rules else listRules rules, tree⟩

def logLevels : List String := ["trace", "debug", "info", "warn", "warning", "error"]

/-- Settings with the logging options of the command line on top, once their level is known. -/
def loadSettings (surroundings : Surroundings) (invocation : Invocation) :
    Except Failure Settings := do
  let loaded := Settings.load surroundings.tree invocation.config surroundings.environment
  let settings ← loaded.mapError .unreadableSettings
  let level := invocation.logLevel.getD settings.logging.level
  let jsonFormat := invocation.jsonLogs || settings.logging.jsonFormat
  if logLevels.contains (lowerName level) then
    return { settings with logging := ⟨level, jsonFormat⟩ }
  else .error (.unknownLogLevel level)

def perform (surroundings : Surroundings) (invocation : Invocation) : Result :=
  orFail surroundings.tree (loadSettings surroundings invocation) fun settings =>
    match invocation.task with
    | .check arguments => runCheck surroundings settings arguments
    | .fix arguments => runFix surroundings settings arguments
    | .rules arguments => runRules surroundings.tree arguments

def versionText : String := "sopgate 0.1.0\n"

def helpText : String :=
  "Usage: sopgate [OPTIONS] <COMMAND>\n\nCommands:\n" ++
    "  check  Validate sources and evaluate the gate\n" ++
    "  fix    Apply deterministic fixes, then validate the result\n" ++
    "  rules  List the rule catalog\n"

def run (surroundings : Surroundings) (arguments : List String) : Result :=
  match parse? arguments with
  | none => ⟨.usage, "", surroundings.tree⟩
  | some .version => ⟨.passed, versionText, surroundings.tree⟩
  | some .help => ⟨.passed, helpText, surroundings.tree⟩
  | some (.run invocation) => perform surroundings invocation

end Compliance.Command
