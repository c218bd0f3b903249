import Compliance.Fix.Pattern

/-!
# Imports

When a fix introduces a symbol, the import it needs is added once: merged into
an import of the same module, on one line or spread over several, or else put
after the last import.
-/

namespace Compliance

open Pattern

def symbolWord (symbol : Text) : Pattern := wordEdge ++ ofText symbol ++ wordEdge

def insideBraces : CharSet := .noneOf "\x7d"

def importOf (symbol : Text) : Pattern :=
  wordEdge ++ lit "import" ++ blanks1 ++ opt (lit "type" ++ blanks1) ++ lit "\x7b" ++
    many insideBraces ++ symbolWord symbol ++ many insideBraces ++ lit "\x7d"

def fromModule (module : Text) : Pattern :=
  blanks ++ lit "from" ++ blanks ++ single (.anyOf "'\x22") ++ ofText module ++
    single (.anyOf "'\x22") ++ many (.noneOf "\n")

/-- A one-line import of the module: head, names and tail are groups 1, 2 and 3. -/
def importLine (module : Text) : Pattern :=
  textStart ++ group 1 (blanks ++ lit "import" ++ blanks) ++ lit "\x7b" ++
    group 2 (many insideBraces) ++ lit "\x7d" ++ group 3 (fromModule module) ++ textEnd

/-- The last line of an import of the module: names and tail are groups 1 and 2. -/
def importClosing (module : Text) : Pattern :=
  textStart ++ group 1 (many insideBraces) ++ lit "\x7d" ++ group 2 (fromModule module) ++ textEnd

/-- An import whose braces are still open at the end of the line. -/
def importOpening : Pattern :=
  textStart ++ blanks ++ lit "import" ++ blanks1 ++ opt (lit "type" ++ blanks1) ++ lit "\x7b" ++
    many insideBraces ++ textEnd

def importBlock? (closing : Pattern) : Option Nat → Nat → List Text → Option (Nat × Nat)
  | _, _, [] => none
  | some start, index, line :: others =>
      if List.contains line '\x7d' then
        if closing.occurs line then some (start, index)
        else importBlock? closing none (index + 1) others
      else importBlock? closing (some start) (index + 1) others
  | none, index, line :: others =>
      importBlock? closing (if importOpening.occurs line then some index else none) (index + 1)
        others

/-- Index of the line that ends the last import statement. -/
def lastImportEnd? : Bool → Option Nat → Nat → List Text → Option Nat
  | _, last, _, [] => last
  | isOpen, last, index, line :: others =>
      let start := Text.trimStart line
      if start.beginsWith "import ".toList || start.beginsWith "import\x7b".toList then
        let closed := Text.contains start " from ".toList || start.endsWith ";".toList ||
          start.beginsWith "import '".toList
        lastImportEnd? (!closed) (if closed then some index else last) (index + 1) others
      else if isOpen && Text.contains start "from ".toList then
        lastImportEnd? false (some index) (index + 1) others
      else lastImportEnd? isOpen last (index + 1) others

structure ImportEdit where
  content : Text
  line : Nat
  before : Text
  after : Text
  deriving DecidableEq, Repr

def replaceLine (lines : List Text) (index : Nat) (before after : Text) : ImportEdit :=
  ⟨Text.unpieces (lines.set index after), index + 1, before, after⟩

def insertLine (lines : List Text) (index : Nat) (after : Text) : ImportEdit :=
  ⟨Text.unpieces (lines.take index ++ after :: lines.drop index), index + 1, [], after⟩

def dropCommas (text : Text) : Text := (text.reverse.dropWhile (· = ',')).reverse

namespace Prerequisite

def statement (needed : Prerequisite) : Text :=
  "import \x7b ".toList ++ needed.symbol.toList ++ " \x7d from '".toList ++
    needed.module.toList ++ "';".toList

def extendNames (symbol names : Text) : Text :=
  if names.isEmpty then symbol
  else if names.endsWith ",".toList then names ++ ' ' :: symbol
  else names ++ ',' :: ' ' :: symbol

def mergeLine? (needed : Prerequisite) (lines : List Text) : Option ImportEdit :=
  let pattern := importLine needed.module.toList
  (lines.findIdx? pattern.occurs).bind fun index =>
    (lines[index]?).bind fun before =>
      (pattern.find? before).map fun found =>
        let merged := extendNames needed.symbol.toList (Text.trim (found.group 2))
        let after := found.group 1 ++ "\x7b ".toList ++ merged ++ " \x7d".toList ++ found.group 3
        replaceLine lines index before after

/-- Adds the symbol on a line of its own before the closing line.  The entry above it gets a comma
and gives the indentation. -/
def addEntry (needed : Prerequisite) (lines : List Text) (start close : Nat) : ImportEdit :=
  let previous := close - 1
  if start < previous then
    let entry := Text.trimEnd ((lines[previous]?).getD [])
    let lines :=
      if !entry.endsWith ",".toList && !(Text.trim entry).isEmpty then
        lines.set previous (entry ++ [','])
      else lines
    insertLine lines close (entry.takeWhile isBlank ++ needed.symbol.toList ++ [','])
  else insertLine lines close (' ' :: ' ' :: needed.symbol.toList ++ [','])

def mergeBlock? (needed : Prerequisite) (lines : List Text) : Option ImportEdit :=
  let closing := importClosing needed.module.toList
  (importBlock? closing none 0 lines).bind fun (start, close) =>
    (lines[close]?).bind fun before =>
      (closing.find? before).map fun found =>
        let names := found.group 1
        if (Text.trim names).isEmpty then needed.addEntry lines start close
        else
          let after := dropCommas (Text.trimEnd names) ++ ',' :: ' ' :: needed.symbol.toList ++
            " \x7d".toList ++ found.group 2
          replaceLine lines close before after

/-- Adds the import if the symbol is used and no import lists it. -/
def ensure? (needed : Prerequisite) (content : Text) : Option ImportEdit :=
  let symbol := needed.symbol.toList
  if !(symbolWord symbol).occurs content || (importOf symbol).occurs content then none
  else
    let lines := Text.pieces content
    match needed.mergeLine? lines with
    | some edit => some edit
    | none =>
        match needed.mergeBlock? lines with
        | some edit => some edit
        | none =>
            let index := ((lastImportEnd? false none 0 lines).map (· + 1)).getD 0
            some (insertLine lines index needed.statement)

end Prerequisite

end Compliance
