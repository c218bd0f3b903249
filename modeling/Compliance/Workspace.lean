import Compliance.Fix.Correction
import Compliance.Settings.Derived

/-!
# Workspaces

A workspace keeps files, settings and a selection between commands.  A command
that fails leaves it as it was.
-/

namespace Compliance

structure Workspace where
  catalog : Catalog
  registry : Registry
  files : List SourceFile := []
  settings : Settings := {}
  selection : Selection := .all

namespace Workspace

def file? (workspace : Workspace) (name : String) : Option SourceFile :=
  workspace.files.find? (·.name = name)

def put (workspace : Workspace) (name : String) (content : Text) : Workspace :=
  if (workspace.file? name).isSome then
    { workspace with files := workspace.files.map fun file =>
        if file.name = name then ⟨name, content⟩ else file }
  else { workspace with files := workspace.files ++ [⟨name, content⟩] }

def append? (workspace : Workspace) (name : String) (text : Text) : Option (Workspace × Nat) :=
  (workspace.file? name).map fun file =>
    let content := file.content ++ text
    (workspace.put name content, (Text.lines content).length)

def remove (workspace : Workspace) (name : String) : Workspace :=
  { workspace with files := workspace.files.filter (·.name ≠ name) }

def configure (workspace : Workspace) (settings : Settings) : Except Error Workspace := do
  settings.validate workspace.catalog
  return { workspace with settings }

def select (workspace : Workspace) (selection : Selection) : Except Error Workspace := do
  discard (selection.resolve workspace.catalog (← workspace.settings.sopMap))
  return { workspace with selection }

def check (workspace : Workspace) : Except Error (Run Float × GateDecision Float) := do
  let engine ← workspace.settings.engine workspace.catalog
  let run ← engine.run workspace.selection workspace.files
  let gate ← workspace.settings.gateConfig
  return (run, gate.evaluate run engine.scoring)

def fix (workspace : Workspace) (options : Option CorrectionOptions) :
    Except Error (Workspace × List Correction) := do
  let engine ← workspace.settings.engine workspace.catalog
  let corrector : Corrector Float :=
    { engine
      registry := workspace.registry
      selection := workspace.selection
      options := options.getD workspace.settings.correctionOptions }
  let corrections ← corrector.correctAll workspace.files
  return ({ workspace with files := corrections.map (·.toFile) }, corrections)

end Workspace

end Compliance
