import Compliance.Error
import Compliance.Value.Basic

/-!
# Reading values

Small readers from values to the types of fields, and records that are filled
entry by entry.  A reader that fails says why and where: the path leads from the
root of the value to the entry that does not fit, list positions included.
-/

namespace Compliance

structure DecodeError where
  misfit : Misfit
  path : List String := []
  deriving DecidableEq, Repr

abbrev Decoded (α : Type) := Except DecodeError α

/-- The format that a value was written in decides what else may stand for a record or a name. -/
inductive Format where
  | json
  | toml
  deriving DecidableEq, Repr

namespace Decoded

def under {α : Type} (key : String) (decoded : Decoded α) : Decoded α :=
  match decoded with
  | .ok value => .ok value
  | .error error => .error { error with path := key :: error.path }

end Decoded

namespace Value

def toBool : Value → Decoded Bool
  | bool value => .ok value
  | _ => .error ⟨.wrongType, []⟩

def toText : Value → Decoded String
  | text value => .ok value
  | _ => .error ⟨.wrongType, []⟩

def toNat : Value → Decoded Nat
  | int value => if value < 0 then .error ⟨.wrongValue, []⟩ else .ok value.toNat
  | _ => .error ⟨.wrongType, []⟩

def toWord (value : Value) : Decoded Nat := do
  let count ← value.toNat
  if count < Nat.pow 2 64 then return count else .error ⟨.wrongValue, []⟩

def toFloat : Value → Decoded Float
  | float value => .ok value
  | int value => .ok (Float.ofInt value)
  | _ => .error ⟨.wrongType, []⟩

def toOption {α : Type} (decode : Value → Decoded α) : Value → Decoded (Option α)
  | null => .ok none
  | value => (decode value).map some

def isVoid : Format → Value → Bool
  | .json, null => true
  | .toml, list [] => true
  | .toml, table [] => true
  | _, _ => false

/-- One of several names; a table with the name as its only key and nothing under it will do. -/
def toChoice {α : Type} (format : Format) (ofId? : String → Option α) (value : Value) :
    Decoded α :=
  let name? :=
    match value with
    | text name => some name
    | table [(name, inner)] => if inner.isVoid format then some name else none
    | _ => none
  match name?.bind ofId? with
  | some choice => .ok choice
  | none => .error ⟨.wrongValue, []⟩

def decodeItems {α : Type} (decode : Value → Decoded α) : Nat → List Value → Decoded (List α)
  | _, [] => .ok []
  | index, item :: items => do
      let first ← (decode item).under (toString index)
      let others ← decodeItems decode (index + 1) items
      return first :: others

def toList {α : Type} (decode : Value → Decoded α) : Value → Decoded (List α)
  | list items => decodeItems decode 0 items
  | _ => .error ⟨.wrongType, []⟩

def toTexts : Value → Decoded (List String) := toList toText

def decodeEntries {α : Type} (decode : Value → Decoded α) :
    List (String × Value) → Decoded (List (String × α))
  | [] => .ok []
  | (key, value) :: entries => do
      let first ← (decode value).under key
      let others ← decodeEntries decode entries
      return (key, first) :: others

/-- Entries by rising key; of two entries with one key the later counts. -/
def sortEntries {α : Type} (entries : List (String × α)) : List (String × α) :=
  entries.foldl (fun sorted (key, value) => insertEntry key value sorted) []

def toMap {α : Type} (decode : Value → Decoded α) : Value → Decoded (List (String × α))
  | table entries => decodeEntries decode (sortEntries entries)
  | _ => .error ⟨.wrongType, []⟩

/-! ## Records -/

section Records

variable {α : Type}

def fillByKey (withEntry : α → String → Value → Decoded α) : α → List (String × Value) → Decoded α
  | record, [] => .ok record
  | record, (key, value) :: entries => do
      fillByKey withEntry (← (withEntry record key value).under key) entries

def fillByPlace (withEntry : α → String → Value → Decoded α) :
    Nat → α → List String → List Value → Decoded α
  | index, record, name :: names, item :: items => do
      let record ← (withEntry record name item).under (toString index)
      fillByPlace withEntry (index + 1) record names items
  | _, record, _, _ => .ok record

/-- A record with the given fields, filled from a table by rising key or from a list by position.
What is not given stays as in the record at the start; more items than fields do not matter except
in JSON. -/
def toRecord (format : Format) (names : List String) (withEntry : α → String → Value → Decoded α)
    (start : α) : Value → Decoded α
  | table entries => fillByKey withEntry start (sortEntries entries)
  | list items => do
      let record ← fillByPlace withEntry 0 start names items
      if format = .json && names.length < items.length then .error ⟨.wrongLength, []⟩
      else return record
  | _ => .error ⟨.wrongType, []⟩

def requireAll (names : List String) : Value → Decoded Unit
  | table entries =>
      if names.all fun name => (entries.lookup name).isSome then .ok ()
      else .error ⟨.missingField, []⟩
  | list items => if items.length < names.length then .error ⟨.wrongLength, []⟩ else .ok ()
  | _ => .error ⟨.wrongType, []⟩

/-- A record all of whose fields must be given; that is looked at when all that is given has been
read. -/
def toFullRecord (format : Format) (names : List String)
    (withEntry : α → String → Value → Decoded α) (start : α) (value : Value) : Decoded α := do
  let record ← value.toRecord format names withEntry start
  value.requireAll names
  return record

end Records

end Value

end Compliance
