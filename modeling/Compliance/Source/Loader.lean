import Compliance.Evaluation
import Compliance.Pattern.Glob
import Compliance.Source.Tree

/-!
# Loading sources

Buffers become source files if they are UTF-8; any other buffer gives a
diagnostic and loading goes on.  Directories are walked and filtered by globs,
files that are named explicitly are not filtered.
-/

namespace Compliance

structure LoadedSources where
  files : List SourceFile := []
  diagnostics : List Diagnostic := []
  deriving DecidableEq, Repr

def loadBuffer (name : String) (bytes : Bytes) : Except Diagnostic SourceFile :=
  match decodeUtf8 bytes with
  | .ok content => .ok ⟨name, content⟩
  | .error error => .error (.loadFailure name ("not valid UTF-8: " ++ error.message))

namespace LoadedSources

def ofAttempts (attempts : List (Except Diagnostic SourceFile)) : LoadedSources where
  files := attempts.filterMap fun attempt => attempt.toOption
  diagnostics := attempts.filterMap fun attempt =>
    match attempt with
    | .ok _ => none
    | .error diagnostic => some diagnostic

end LoadedSources

def loadBytes (buffers : List (String × Bytes)) : LoadedSources :=
  .ofAttempts (buffers.map fun (name, bytes) => loadBuffer name bytes)

structure Loader where
  includes : List Glob
  excludes : List Glob
  deriving DecidableEq, Repr

namespace Loader

/-- Globs that are nested too deep are refused together, when all of them have been read. -/
def readGlobs (texts : List String) : Except Error (List Glob) := do
  let globs ← texts.mapM fun text =>
    match Glob.read? text with
    | some glob => .ok glob
    | none => .error (Error.invalidPattern text)
  if globs.all (·.depth ≤ maximumDepth) then return globs
  else throw (.invalidPattern "<globset>")

def ofGlobs (includes excludes : List String) : Except Error Loader := do
  return ⟨← readGlobs includes, ← readGlobs excludes⟩

/-- Some include fits the path and no exclude does. -/
def accepts (loader : Loader) (path : String) : Bool :=
  loader.includes.any (·.fits path) && !loader.excludes.any (·.fits path)

def nameBelow (path : String) (relative : String) : String :=
  if path.endsWith "/" then path ++ relative else path ++ "/" ++ relative

def attempts (loader : Loader) (tree : Tree) (path : String) :
    List (Except Diagnostic SourceFile) :=
  match tree.resolve path with
  | .file _ bytes => [loadBuffer path bytes]
  | .nothing fault => [.error (.loadFailure path fault.message)]
  | .directory parts =>
      (tree.filesBelow parts).filterMap fun (below, bytes) =>
        let relative := "/".intercalate below
        if loader.accepts relative then some (loadBuffer (nameBelow path relative) bytes)
        else none

def loadPaths (loader : Loader) (tree : Tree) (paths : List String) : LoadedSources :=
  .ofAttempts (paths.flatMap (loader.attempts tree))

end Loader

end Compliance
