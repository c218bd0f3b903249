import Compliance.Settings.Encoding
import Compliance.Source.Loader
import Compliance.Value.Literal
import Compliance.Value.Toml.Reader

/-!
# Layers of settings

Settings come in layers: the defaults, a file, the environment.  A later layer
wins; tables are merged key by key, anything else is replaced.
-/

namespace Compliance

namespace Value

def setEntry (key : String) (value : Value) : List (String × Value) → List (String × Value)
  | [] => [(key, value)]
  | (other, old) :: entries =>
      if key = other then (key, value) :: entries else (other, old) :: setEntry key value entries

mutual

def merge (below : Value) : Value → Value
  | table above =>
      match below with
      | table entries => table (mergeEntries entries above)
      | _ => table above
  | above => above

def mergeEntries (below : List (String × Value)) :
    List (String × Value) → List (String × Value)
  | [] => below
  | (key, value) :: above =>
      let merged :=
        match below.lookup key with
        | some old => merge old value
        | none => value
      mergeEntries (setEntry key merged below) above

end

def nest (path : List String) (value : Value) : Value :=
  path.foldr (fun key inner => table [(key, inner)]) value

end Value

def dotted : Text → Text
  | '_' :: '_' :: rest => '.' :: dotted rest
  | c :: rest => c :: dotted rest
  | [] => []

def variablePath? (name : String) : Option (List String) :=
  let parts := Text.parts '.' (Text.lower (dotted (Text.trim name.toList)))
  if parts.any List.isEmpty then none else some (parts.map String.ofList)

def addVariable (layer : Value) (name text : String) : Except Error Value :=
  match variablePath? name with
  | none => .ok layer
  | some path =>
      match Value.ofLiteral? text with
      | some value => .ok (layer.merge (.nest path value))
      | none => .error (.brokenVariable name)

/-- Variables by name, each merged onto those before it. -/
def environmentLayer (environment : List (String × String)) : Except Error Value :=
  (Value.sortEntries environment).foldlM (fun layer (name, text) => addVariable layer name text)
    (.table [])

namespace Settings

def defaultFile : String := "sopgate.toml"

def variableStart : String := "SOPGATE_"

def ofLayers (layers : List Value) : Except Error Settings :=
  match Settings.decode .toml (layers.foldl Value.merge ({} : Settings).encode) with
  | .ok settings => .ok settings
  | .error error => .error (.settingsMisfit error.misfit error.path)

def fileLayer (bytes : Bytes) : Except Error Value :=
  let value :=
    match decodeUtf8 bytes with
    | .ok text => Toml.read? .first text
    | .error _ => none
  match value with
  | some layer => .ok layer
  | none => .error (.settingsMisfit .malformed [])

/-- The settings file: one that is named must exist, the default one may be missing.  A directory
gives no file. -/
def file? (tree : Tree) (path : Option String) : Except Error (Option Bytes) :=
  match tree.resolve (path.getD defaultFile), path with
  | .file _ bytes, _ => .ok (some bytes)
  | .directory _, _ => .ok none
  | _, some path => .error (.settingsFileMissing path)
  | _, none => .ok none

/-- Settings from a file tree and from variables, named without their common start.  Variables are
read before the file is looked into. -/
def load (tree : Tree) (path : Option String) (environment : List (String × String)) :
    Except Error Settings := do
  let file ← file? tree path
  let upper ← environmentLayer environment
  let layers ← file.toList.mapM fileLayer
  ofLayers (layers ++ [upper])

def loader (settings : Settings) : Except Error Loader :=
  Loader.ofGlobs settings.general.includes settings.general.excludes

end Settings

end Compliance
