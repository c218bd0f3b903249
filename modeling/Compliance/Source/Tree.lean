import Compliance.Text.Utf8

/-!
# File trees

A tree maps paths to bytes.  Paths are resolved part by part, from the working
directory or from the root; what cannot be opened gives the system's message.
-/

namespace Compliance

abbrev PathParts := List String

structure Tree where
  files : List (PathParts × Bytes)
  /-- Directories that need not hold a file. -/
  emptyDirectories : List PathParts := []
  workingDirectory : PathParts := []
  deriving DecidableEq, Repr

inductive PathFault where
  | missing
  | notDirectory
  | isDirectory
  | nameTooLong
  | zeroByte
  deriving DecidableEq, Repr

def PathFault.message : PathFault → String
  | missing => "No such file or directory (os error 2)"
  | notDirectory => "Not a directory (os error 20)"
  | isDirectory => "Is a directory (os error 21)"
  | nameTooLong => "File name too long (os error 36)"
  | zeroByte => "file name contained an unexpected NUL byte"

inductive Entry where
  | directory (parts : PathParts)
  | file (parts : PathParts) (bytes : Bytes)
  | nothing (fault : PathFault)
  deriving DecidableEq, Repr

def splitPath (path : String) : List String :=
  (Text.parts '/' path.toList).map String.ofList

def maximumName : Nat := 255

def maximumPath : Nat := 4095

def pathFault? (path : String) : Option PathFault :=
  if path.toList.contains '\x00' then some .zeroByte
  else if path.isEmpty then some .missing
  else if maximumPath < path.utf8ByteSize then some .nameTooLong
  else none

namespace Tree

def isDirectory (tree : Tree) (parts : PathParts) : Bool :=
  parts.isPrefixOf tree.workingDirectory ||
    tree.files.any (fun entry => parts.isPrefixOf entry.1 && entry.1 ≠ parts) ||
    tree.emptyDirectories.any fun directory => parts.isPrefixOf directory

def file? (tree : Tree) (parts : PathParts) : Option Bytes := tree.files.lookup parts

/-- Walks the parts of a path from a directory.  An empty part and a dot stay where they are, and
the root is its own parent. -/
def resolveFrom (tree : Tree) : PathParts → List String → Entry
  | here, [] => .directory here
  | here, part :: parts =>
      if part = "" || part = "." then resolveFrom tree here parts
      else if part = ".." then resolveFrom tree here.dropLast parts
      else
        let next := here ++ [part]
        if tree.isDirectory next then resolveFrom tree next parts
        else match tree.file? next with
          | some bytes => if parts.isEmpty then .file next bytes else .nothing .notDirectory
          | none => .nothing (if maximumName < part.utf8ByteSize then .nameTooLong else .missing)

def start (tree : Tree) (path : String) : PathParts :=
  if path.startsWith "/" then [] else tree.workingDirectory

def resolve (tree : Tree) (path : String) : Entry :=
  match pathFault? path with
  | some fault => .nothing fault
  | none => tree.resolveFrom (tree.start path) (splitPath path)

def write (tree : Tree) (parts : PathParts) (bytes : Bytes) : Tree :=
  if (tree.file? parts).isSome then
    { tree with files := tree.files.map fun entry =>
        if entry.1 = parts then (parts, bytes) else entry }
  else { tree with files := tree.files ++ [(parts, bytes)] }

/-- Where writing to a path puts the bytes, or why it cannot.  A path that ends in a slash names a
directory, which need not exist. -/
def writeTarget (tree : Tree) (path : String) : Except PathFault PathParts := do
  if let some fault := pathFault? path then throw fault
  let parts := splitPath path
  let named := (parts.reverse.dropWhile (· = "")).reverse
  let some name := named.getLast? | throw .isDirectory
  match tree.resolveFrom (tree.start path) named.dropLast with
  | .directory here =>
      if named.length < parts.length || name = "." || name = ".." ||
          tree.isDirectory (here ++ [name]) then
        throw .isDirectory
      else if maximumName < name.utf8ByteSize then throw .nameTooLong
      else return here ++ [name]
  | .file _ _ => throw .notDirectory
  | .nothing fault => throw fault

def changes (before after : Tree) : List (PathParts × Bytes) :=
  after.files.filter fun entry => before.file? entry.1 ≠ some entry.2

def localName? (tree : Tree) (parts : PathParts) : Option String :=
  if tree.workingDirectory.isPrefixOf parts then
    some ("/".intercalate (parts.drop tree.workingDirectory.length))
  else none

/-- Order of a walk: directory by directory, names by their code points. -/
def pathLE : PathParts → PathParts → Bool
  | [], _ => true
  | _ :: _, [] => false
  | a :: as, b :: bs => if a < b then true else if a = b then pathLE as bs else false

def filesBelow (tree : Tree) (directory : PathParts) : List (PathParts × Bytes) :=
  ((tree.files.filter fun entry => directory.isPrefixOf entry.1 && entry.1 ≠ directory).map
    fun entry => (entry.1.drop directory.length, entry.2)).mergeSort fun a b => pathLE a.1 b.1

/-- Where a name leads from a directory, and the directories that it passes and leaves again. -/
def follow : PathParts → List String → PathParts × List PathParts
  | here, [] => (here, [])
  | here, part :: parts =>
      if part = "" || part = "." then follow here parts
      else if part = ".." then
        let (there, left) := follow here.dropLast parts
        (there, here :: left)
      else follow (here ++ [part]) parts

/-- A tree out of buffers that are named from the working directory; a name that ends in a slash is
an empty directory. -/
def ofBuffers (workingDirectory : PathParts) (buffers : List (String × Bytes)) : Tree :=
  buffers.foldl (fun tree (name, bytes) =>
    let (parts, left) := follow workingDirectory (splitPath name)
    let directories := if name.endsWith "/" then left ++ [parts] else left
    let tree := { tree with emptyDirectories := tree.emptyDirectories ++ directories }
    if name.endsWith "/" then tree else tree.write parts bytes) ⟨[], [], workingDirectory⟩

end Tree

end Compliance
