import Compliance.Decimal.Reading
import Compliance.Selection

/-!
# Command lines

A command line has options, words and, after two dashes, only words.  Options
come in a long form and sometimes in a short one; a value may be joined to its
option or be the next argument, unless that looks like an option.  Options of
the whole program may stand before or after the name of the command.
-/

namespace Compliance.Command

structure OptionSpec where
  name : String
  short : Option Char := none
  takesValue : Bool := true
  repeatable : Bool := false
  isFinal : Bool := false
  deriving DecidableEq, Repr

structure Scan where
  options : List (String × String) := []
  words : List String := []
  final : Option String := none
  rest : List String := []
  deriving DecidableEq, Repr

namespace Scan

def withOption (name value : String) (scan : Scan) : Scan :=
  { scan with options := (name, value) :: scan.options }

def withWord (word : String) (scan : Scan) : Scan := { scan with words := word :: scan.words }

def values (scan : Scan) (name : String) : List String :=
  (scan.options.filter fun entry => entry.1 = name).map (·.2)

def value? (scan : Scan) (name : String) : Option String := (scan.values name).head?

def has (scan : Scan) (name : String) : Bool := scan.options.any fun entry => entry.1 = name

def isAllowed (scan : Scan) (specs : List OptionSpec) : Bool :=
  specs.all fun spec => spec.repeatable || (scan.values spec.name).length ≤ 1

end Scan

def looksLikeOption (argument : String) : Bool :=
  argument.startsWith "-" && argument ≠ "-"

inductive Reading where
  | complete (options : List (String × String))
  | pending (options : List (String × String)) (name : String)
  | final (options : List (String × String)) (name : String)
  deriving DecidableEq, Repr

def readLong? (specs : List OptionSpec) (body : Text) : Option Reading := do
  let name := body.takeWhile (· ≠ '=')
  let spec ← specs.find? fun spec => spec.name.toList = name
  match spec.takesValue, body.drop name.length with
  | true, '=' :: value => some (.complete [(spec.name, String.ofList value)])
  | true, _ => some (.pending [] spec.name)
  | false, [] => some (if spec.isFinal then .final [] spec.name else .complete [(spec.name, "")])
  | false, _ => none

/-- Short options without their dash; the first one that takes a value takes all that is left. -/
def readShort? (specs : List OptionSpec) : Text → Option Reading
  | [] => some (.complete [])
  | c :: rest => do
      let spec ← specs.find? fun spec => spec.short = some c
      if spec.takesValue then
        match rest with
        | [] => some (.pending [] spec.name)
        | '=' :: value => some (.complete [(spec.name, String.ofList value)])
        | value => some (.complete [(spec.name, String.ofList value)])
      else if spec.isFinal then some (.final [] spec.name)
      else
        match ← readShort? specs rest with
        | .complete options => some (.complete ((spec.name, "") :: options))
        | .pending options name => some (.pending ((spec.name, "") :: options) name)
        | .final options name => some (.final ((spec.name, "") :: options) name)

def readOption? (specs : List OptionSpec) (argument : String) : Option Reading :=
  match argument.toList with
  | '-' :: '-' :: body => readLong? specs body
  | '-' :: body => readShort? specs body
  | _ => none

def addOptions (options : List (String × String)) (scan : Scan) : Scan :=
  { scan with options := options ++ scan.options }

/-- Reads arguments; `pending` is an option that still needs its value.  With `oneWord` reading
ends behind the first word. -/
def scan? (specs : List OptionSpec) (oneWord : Bool) : Option String → List String → Option Scan
  | some _, [] => none
  | some name, argument :: rest =>
      if looksLikeOption argument then none
      else (scan? specs oneWord none rest).map (·.withOption name argument)
  | none, [] => some {}
  | none, argument :: rest =>
      if argument = "--" then if oneWord then none else some { words := rest }
      else if looksLikeOption argument then
        match readOption? specs argument with
        | none => none
        | some (.complete options) => (scan? specs oneWord none rest).map (addOptions options)
        | some (.pending options name) =>
            (scan? specs oneWord (some name) rest).map (addOptions options)
        | some (.final options name) => some { options, final := some name }
      else if oneWord then some { words := [argument], rest }
      else (scan? specs oneWord none rest).map (·.withWord argument)

/-! ## Commands -/

inductive ReportFormat where
  | human
  | json
  | ci
  deriving DecidableEq, Repr

structure CheckArguments where
  paths : List String := ["."]
  selection : Selection := .all
  profile : Option String := none
  format : ReportFormat := .human
  output : Option String := none
  deriving DecidableEq, Repr

structure FixArguments where
  check : CheckArguments := {}
  write : Bool := false
  maxIterations : Option Nat := none
  skipRules : List String := []
  onlyRules : List String := []
  deriving DecidableEq, Repr

structure RulesArguments where
  category : Option String := none
  json : Bool := false
  deriving DecidableEq, Repr

inductive Task where
  | check (arguments : CheckArguments)
  | fix (arguments : FixArguments)
  | rules (arguments : RulesArguments)
  deriving DecidableEq, Repr

structure Invocation where
  config : Option String := none
  logLevel : Option String := none
  jsonLogs : Bool := false
  task : Task
  deriving DecidableEq, Repr

def Invocation.paths (invocation : Invocation) : List String :=
  let named :=
    match invocation.task with
    | .check arguments => arguments.paths ++ arguments.output.toList
    | .fix arguments => arguments.check.paths ++ arguments.check.output.toList
    | .rules _ => []
  named ++ invocation.config.toList

inductive Request where
  | run (invocation : Invocation)
  | version
  | help
  deriving DecidableEq, Repr

def commonOptions : List OptionSpec :=
  [{ name := "config", short := some 'c' }, { name := "log-level" },
    { name := "json-logs", takesValue := false },
    { name := "help", short := some 'h', takesValue := false, isFinal := true }]

def programOptions : List OptionSpec :=
  commonOptions ++
    [{ name := "version", short := some 'V', takesValue := false, isFinal := true }]

def checkOptions : List OptionSpec :=
  commonOptions ++ [{ name := "category", repeatable := true },
    { name := "rule", repeatable := true }, { name := "sop", repeatable := true },
    { name := "profile" }, { name := "format" }, { name := "output", short := some 'o' }]

def fixOptions : List OptionSpec :=
  checkOptions ++ [{ name := "write", takesValue := false }, { name := "max-iterations" },
    { name := "skip-rule", repeatable := true }, { name := "only-rule", repeatable := true }]

def rulesOptions : List OptionSpec :=
  commonOptions ++ [{ name := "category" }, { name := "format" }]

def pathsAllowed (paths : List String) : Bool := paths.all (· ≠ "")

def reportFormat? : String → Option ReportFormat
  | "human" => some .human
  | "json" => some .json
  | "ci" => some .ci
  | _ => none

def listsAsJson? : String → Option Bool
  | "human" => some false
  | "json" => some true
  | _ => none

def count? (text : String) : Option Nat :=
  let digits :=
    match text.toList with
    | '+' :: rest => rest
    | rest => rest
  if digits.isEmpty || !digits.all Char.isDigit || Nat.pow 2 64 ≤ digitsValue digits then none
  else some (digitsValue digits)

def checkArguments? (scan : Scan) : Option CheckArguments := do
  let format ←
    match scan.value? "format" with
    | some name => reportFormat? name
    | none => some .human
  if pathsAllowed (scan.words ++ scan.values "output") then
    some
      { paths := if scan.words.isEmpty then ["."] else scan.words
        selection := ⟨scan.values "category", scan.values "rule", scan.values "sop"⟩
        profile := scan.value? "profile"
        format
        output := scan.value? "output" }
  else none

def fixArguments? (scan : Scan) : Option FixArguments := do
  let check ← checkArguments? scan
  let maxIterations ←
    match scan.value? "max-iterations" with
    | some text => (count? text).map some
    | none => some none
  some
    { check
      write := scan.has "write"
      maxIterations
      skipRules := scan.values "skip-rule"
      onlyRules := scan.values "only-rule" }

def rulesArguments? (scan : Scan) : Option RulesArguments := do
  let json ←
    match scan.value? "format" with
    | some name => listsAsJson? name
    | none => some false
  if scan.words.isEmpty then some { category := scan.value? "category", json } else none

def taskReader? : String → Option (List OptionSpec × (Scan → Option Task))
  | "check" => some (checkOptions, fun scan => (checkArguments? scan).map .check)
  | "fix" => some (fixOptions, fun scan => (fixArguments? scan).map .fix)
  | "rules" => some (rulesOptions, fun scan => (rulesArguments? scan).map .rules)
  | _ => none

/-- Reads what follows the name of a command.  What it sets wins over what stands before. -/
def readTask? (program : Scan) (name : String) : Option Request := do
  let (specs, read) ← taskReader? name
  let scan ← scan? specs false none program.rest
  let task ← read scan
  if !scan.isAllowed specs || !pathsAllowed (scan.values "config") then none
  else if scan.final.isSome then some .help
  else
    some (.run
      { config := (scan.value? "config").or (program.value? "config")
        logLevel := (scan.value? "log-level").or (program.value? "log-level")
        jsonLogs := scan.has "json-logs" || program.has "json-logs"
        task })

def readHelp? : List String → Option Request
  | [] => some .help
  | [name] => if name = "help" || (taskReader? name).isSome then some .help else none
  | _ => none

def parse? (arguments : List String) : Option Request := do
  let program ← scan? programOptions true none arguments
  if !program.isAllowed programOptions || !pathsAllowed (program.values "config") then none
  else
    match program.final, program.words with
    | some "version", _ => some .version
    | some _, _ => some .help
    | none, [name] =>
        if name = "help" then readHelp? program.rest else readTask? program name
    | none, _ => none

end Compliance.Command
