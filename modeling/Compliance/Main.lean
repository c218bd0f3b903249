import Compliance.Command.Run
import Std.Time.DateTime

/-!
# The program

Reads the files and variables that a command line needs, runs it, writes back
what changed and prints the rest.
-/

namespace Compliance

def diskPath (parts : PathParts) : String := "/" ++ "/".intercalate parts

/-- The parts of a path without those that stay where they are. -/
def namedParts (path : String) : PathParts :=
  (splitPath path).filter fun part => part ≠ "" && part ≠ "."

def withDirectory (tree : Tree) (parts : PathParts) : Tree :=
  { tree with emptyDirectories := parts :: tree.emptyDirectories }

/-- Adds a directory with all that lies below it.  Only regular files are read there. -/
partial def readBelow (tree : Tree) (parts : PathParts) : IO Tree := do
  let mut tree := withDirectory tree parts
  for entry in ← ((← IO.currentDir) / diskPath parts).readDir do
    let below := parts ++ [entry.fileName]
    match (← entry.path.symlinkMetadata).type with
    | .dir => tree ← readBelow tree below
    | .file => tree := tree.write below (← IO.FS.readBinFile entry.path).toList
    | _ => pure ()
  return tree

def readPath (tree : Tree) (here : PathParts) : List String → IO Tree
  | [] => readBelow tree here
  | ".." :: parts => readPath tree here.dropLast parts
  | part :: parts => do
      let next := here ++ [part]
      let path := (← IO.currentDir) / diskPath next
      if ← path.isDir then readPath (withDirectory tree next) next parts
      else if ← path.pathExists then return tree.write next (← IO.FS.readBinFile path).toList
      else return tree

def readTree (paths : List String) : IO Tree := do
  let here := namedParts (← IO.currentDir).toString
  paths.foldlM (fun tree path => readPath tree (tree.start path) (namedParts path))
    { files := [], workingDirectory := here }

def writeChanges (before after : Tree) : IO Unit :=
  (before.changes after).forM fun (parts, bytes) =>
    IO.FS.writeBinFile (diskPath parts) ⟨bytes.toArray⟩

def settingsVariable? (entry : Text) : Option (String × String) :=
  let start := Settings.variableStart.toList
  let name := entry.takeWhile (· ≠ '=')
  if Text.lower (name.take start.length) = Text.lower start then
    some (String.ofList (name.drop start.length), String.ofList (entry.drop (name.length + 1)))
  else none

def readVariables : IO (List (String × String)) := do
  let bytes ← IO.FS.readBinFile "/proc/self/environ"
  let text := (decodeUtf8 bytes.toList).toOption.getD []
  return (Text.parts '\x00' text).filterMap settingsVariable?

def twoDigits (number : Int) : String :=
  if number < 10 then s!"0{number}" else s!"{number}"

def readTimestamp : IO String := do
  let now := (← Std.Time.Timestamp.now).toNanosecondsSinceUnixEpoch
  let ⟨date, time⟩ := Std.Time.PlainDateTime.ofWallTime (.ofNanoseconds now)
  let nanoseconds := (toString time.nanosecond.val).toList
  let fraction := String.ofList (List.replicate (9 - nanoseconds.length) '0' ++ nanoseconds)
  return "-".intercalate [toString date.year, twoDigits date.month.val, twoDigits date.day.val] ++
    "T" ++ ":".intercalate
      [twoDigits time.hour.val, twoDigits time.minute.val, twoDigits time.second.val] ++
    "." ++ fraction ++ "+00:00"

def touchedPaths (arguments : List String) : List String :=
  match Command.parse? arguments with
  | some (.run invocation) => Settings.defaultFile :: invocation.paths
  | _ => []

def complaint? : Command.Ending → Option String
  | .usage => some Command.helpText
  | .failed failure => some ("error: " ++ failure.message ++ "\n")
  | _ => none

end Compliance

open Compliance in
def main (arguments : List String) : IO UInt32 := do
  let tree ← readTree (touchedPaths arguments)
  let result := Command.run ⟨tree, ← readVariables, ← readTimestamp⟩ arguments
  writeChanges tree result.tree
  IO.print result.output
  match complaint? result.ending with
  | some text => IO.eprint text
  | none => pure ()
  return result.ending.exitCode.toUInt32
