import Compliance.Value.Toml.Lexeme

/-!
# Reading TOML

A document is a root table that headers and dotted keys extend.  A node records
how its table came about, because that decides what may still be added to it: a
table is defined by one header or by dotted keys, never by both.
-/

namespace Compliance.Toml

inductive Node where
  | leaf (value : Value)
  /-- `isImplicit`: no header named it yet; `isDotted`: dotted keys made it. -/
  | table (isImplicit isDotted : Bool) (entries : List (String × Node))
  | tables (items : List Node)

namespace Node

def root : Node := table false false []

def fresh : Node := table false false []

def hasEntries : Node → Bool
  | table _ _ entries => !entries.isEmpty
  | _ => false

mutual

def toValue : Node → Value
  | leaf value => value
  | table _ _ entries => .table (entryValues entries)
  | tables items => .list (itemValues items)

def itemValues : List Node → List Value
  | [] => []
  | item :: items => item.toValue :: itemValues items

def entryValues : List (String × Node) → List (String × Value)
  | [] => []
  | (key, node) :: entries => (key, node.toValue) :: entryValues entries

end

def setEntry (key : String) (node : Node) (entries : List (String × Node)) :
    List (String × Node) :=
  if (entries.lookup key).isSome then
    entries.map fun entry => if entry.1 = key then (key, node) else entry
  else entries ++ [(key, node)]

/-- Changes the table at the end of a path and makes the tables on the way.  A list of tables
stands for its last one.  Dotted keys do not enter a table with a header of its own. -/
def modify (dotted : Bool) (change : Node → Option Node) : List String → Node → Option Node
  | [], node => change node
  | key :: path, table isImplicit isDotted entries =>
      let changed :=
        match entries.lookup key with
        | none => modify dotted change path (table true dotted [])
        | some (leaf _) => none
        | some (tables items) =>
            (items.getLast?.bind (modify dotted change path)).map fun last =>
              tables (items.dropLast ++ [last])
        | some (table innerImplicit innerDotted inner) =>
            if dotted && !innerImplicit then none
            else modify dotted change path (table innerImplicit innerDotted inner)
      changed.map fun node => table isImplicit isDotted (setEntry key node entries)
  | _ :: _, _ => none

def addLeaf (viaDots : Bool) (key : String) (value : Value) : Node → Option Node
  | table isImplicit isDotted entries =>
      if isDotted ≠ viaDots || (entries.lookup key).isSome then none
      else some (table isImplicit isDotted (entries ++ [(key, leaf value)]))
  | _ => none

def put (path : List String) (key : String) (value : Value) (node : Node) : Option Node :=
  modify true (addLeaf (!path.isEmpty) key value) path node

/-- Defines a table; one that was only passed through so far may be defined. -/
def openTable (key : String) : Node → Option Node
  | table isImplicit isDotted entries =>
      match entries.lookup key with
      | none => some (table isImplicit isDotted (entries ++ [(key, fresh)]))
      | some (table true false inner) =>
          some (table isImplicit isDotted (setEntry key (table false false inner) entries))
      | some _ => none
  | _ => none

def openItem (key : String) : Node → Option Node
  | table isImplicit isDotted entries =>
      match entries.lookup key with
      | none => some (table isImplicit isDotted (entries ++ [(key, tables [fresh])]))
      | some (tables items) =>
          some (table isImplicit isDotted (setEntry key (tables (items ++ [fresh])) entries))
      | some _ => none
  | _ => none

end Node

variable (edition : Edition)

mutual

/-- A value inside a number of brackets; fuel is spent on nesting and on entries. -/
def readValue? : Nat → Nat → Text → Option (Value × Text)
  | 0, _, _ => none
  | fuel + 1, nesting, text =>
      let opened (read : Option (Value × Text)) : Option (Value × Text) :=
        if nesting < edition.maximumNesting then read else none
      match text with
      | '[' :: rest => opened (readItems? fuel (nesting + 1) rest)
      | '\x7b' :: rest => opened (readPairs? fuel (nesting + 1) .root rest)
      | c :: _ =>
          if c = '\x22' || c = '\'' then
            (readText? edition text).map fun (value, rest) => (.text (String.ofList value), rest)
          else
            let (bare, rest) := readBare text
            (bareValue? edition bare).map fun value => (value, rest)
      | [] => none

def readItems? : Nat → Nat → Text → Option (Value × Text)
  | 0, _, _ => none
  | fuel + 1, nesting, text =>
      match skipGaps text.length text with
      | ']' :: rest => some (.list [], rest)
      | rest => do
          let (item, rest) ← readValue? fuel nesting rest
          match skipGaps rest.length rest with
          | ']' :: rest => return (.list [item], rest)
          | ',' :: rest =>
              match ← readItems? fuel nesting rest with
              | (.list items, rest) => return (.list (item :: items), rest)
              | _ => none
          | _ => none

def readPairs? : Nat → Nat → Node → Text → Option (Value × Text)
  | 0, _, _, _ => none
  | fuel + 1, nesting, node, text =>
      match skipInBraces edition text with
      | '\x7d' :: rest =>
          if node.hasEntries && !edition.wideBraces then none else some (node.toValue, rest)
      | text => do
          let ((path, key), rest) ← readKey? edition text
          let '=' :: rest := skipInBraces edition rest | none
          let (value, rest) ← readValue? fuel nesting (skipInBraces edition rest)
          let node ← node.put path key value
          match skipInBraces edition rest with
          | '\x7d' :: rest => return (node.toValue, rest)
          | ',' :: rest => readPairs? fuel nesting node rest
          | _ => none

end

/-! ## Documents -/

structure Document where
  root : Node
  here : List String

namespace Document

def start : Document := ⟨.root, []⟩

def openHeader (document : Document) (isItem : Bool) (path : List String) (key : String) :
    Option Document :=
  let define := if isItem then Node.openItem key else Node.openTable key
  (Node.modify false define path document.root).map fun root => ⟨root, path ++ [key]⟩

def put (document : Document) (path : List String) (key : String) (value : Value) :
    Option Document :=
  (Node.modify false (Node.put path key value) document.here document.root).map fun root =>
    { document with root }

end Document

def readHeader? (isItem : Bool) (document : Document) (text : Text) :
    Option (Document × Text) := do
  let ((path, key), rest) ← readKey? edition text
  let document ← document.openHeader isItem path key
  match isItem, rest with
  | true, ']' :: ']' :: rest => return (document, rest)
  | false, ']' :: rest => return (document, rest)
  | _, _ => none

def readEntry? (document : Document) (text : Text) : Option (Document × Text) := do
  let ((path, key), rest) ← readKey? edition text
  let '=' :: rest := rest | none
  let (value, rest) ← readValue? edition (2 * rest.length + 2) 0 (skipSpaces rest)
  return (← document.put path key value, rest)

def readLines? : Nat → Document → Text → Option Document
  | 0, _, _ => none
  | fuel + 1, document, text =>
      match skipSpaces text with
      | [] => some document
      | '[' :: '[' :: rest => do
          let (document, rest) ← readHeader? edition true document rest
          readLines? fuel document (← lineEnd? rest)
      | '[' :: rest => do
          let (document, rest) ← readHeader? edition false document rest
          readLines? fuel document (← lineEnd? rest)
      | c :: rest => do
          if c = '#' || c = '\n' || c = '\r' then
            readLines? fuel document (← lineEnd? (c :: rest))
          else
            let (document, rest) ← readEntry? edition document (c :: rest)
            readLines? fuel document (← lineEnd? rest)

/-- The table that a document stands for; a byte order mark in front does not count. -/
def read? (text : Text) : Option Value :=
  let body :=
    match text with
    | '\uFEFF' :: rest => rest
    | _ => text
  (readLines? edition (body.length + 1) .start body).map (·.root.toValue)

end Compliance.Toml
