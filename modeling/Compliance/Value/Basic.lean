import Compliance.Text.Basic
import Compliance.Decimal.Layout

/-!
# Values

Settings and reports are trees of values: numbers, texts, lists and tables.  A
table keeps its entries in the order in which they stand.
-/

namespace Compliance

inductive Value where
  | null
  | bool (value : Bool)
  | int (value : Int)
  | float (value : Float)
  | text (value : String)
  | list (items : List Value)
  | table (entries : List (String × Value))
  deriving Inhabited

namespace Value

def ofOption {α : Type} (encode : α → Value) : Option α → Value
  | some value => encode value
  | none => null

def nat (value : Nat) : Value := int value

def texts (values : List String) : Value := list (values.map text)

def insertEntry {α : Type} (key : String) (value : α) : List (String × α) → List (String × α)
  | [] => [(key, value)]
  | (other, old) :: entries =>
      if key < other then (key, value) :: (other, old) :: entries
      else if key = other then (key, value) :: entries
      else (other, old) :: insertEntry key value entries

def insertName (name : String) : List String → List String
  | [] => [name]
  | other :: names =>
      if name < other then name :: other :: names
      else if name = other then other :: names
      else other :: insertName name names

def sortedNames (names : List String) : List String :=
  names.foldl (fun sorted name => insertName name sorted) []

end Value

end Compliance
