import Compliance.Value.Basic

/-!
# JSON text

The indented JSON form of a value: two spaces per level, one entry per line, and
`[]` and the empty braces for what has no entries.
-/

namespace Compliance

def hexDigit (n : Nat) : Char := "0123456789abcdef".toList.getD n '0'

def jsonChar (c : Char) : Text :=
  if c = '\x22' then ['\\', '\x22']
  else if c = '\\' then ['\\', '\\']
  else if c = '\n' then ['\\', 'n']
  else if c = '\r' then ['\\', 'r']
  else if c = '\t' then ['\\', 't']
  else if c = '\x08' then ['\\', 'b']
  else if c = '\x0c' then ['\\', 'f']
  else if c.toNat < 0x20 then
    ['\\', 'u', '0', '0', hexDigit (c.toNat / 16), hexDigit (c.toNat % 16)]
  else [c]

def jsonString (text : String) : String :=
  String.ofList ('\x22' :: text.toList.flatMap jsonChar ++ ['\x22'])

def newlineIndent (level : Nat) : String :=
  String.ofList ('\n' :: List.replicate (2 * level) ' ')

def bracketed (opening closing : String) (level : Nat) (items : List String) : String :=
  if items.isEmpty then opening ++ closing
  else
    let separator := "," ++ newlineIndent (level + 1)
    opening ++ newlineIndent (level + 1) ++ separator.intercalate items ++
      newlineIndent level ++ closing

mutual

def Value.prettyAt (level : Nat) : Value → String
  | .null => "null"
  | .bool value => if value then "true" else "false"
  | .int value => toString value
  | .float value => (jsonNumber? value).getD "null"
  | .text value => jsonString value
  | .list items => bracketed "[" "]" level (prettyItems (level + 1) items)
  | .table entries => bracketed "\x7b" "\x7d" level (prettyEntries (level + 1) entries)

def Value.prettyItems (level : Nat) : List Value → List String
  | [] => []
  | item :: items => item.prettyAt level :: prettyItems level items

def Value.prettyEntries (level : Nat) : List (String × Value) → List String
  | [] => []
  | (key, value) :: entries =>
      (jsonString key ++ ": " ++ value.prettyAt level) :: prettyEntries level entries

end

def Value.pretty (value : Value) : String := value.prettyAt 0

end Compliance
