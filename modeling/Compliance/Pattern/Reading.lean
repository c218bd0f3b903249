import Compliance.Pattern.Draft
import Compliance.Pattern.Template
import Compliance.Text.Property.Named
import Compliance.Text.Recent

/-!
# Reading patterns

What the parts of the pattern reader share: the state of a reading, the flags and the
blanks and comments between parts.
-/

namespace Compliance

/-- What the letters in `(?imsURux)` switch. -/
structure ReadFlags where
  folded : Bool := false
  multiline : Bool := false
  dotAll : Bool := false
  swapGreed : Bool := false
  carriage : Bool := false
  asciiOnly : Bool := false
  spaced : Bool := false
  deriving DecidableEq, Repr

namespace ReadFlags

def switch? (flags : ReadFlags) (on : Bool) : Char → Option ReadFlags
  | 'i' => some { flags with folded := on }
  | 'm' => some { flags with multiline := on }
  | 's' => some { flags with dotAll := on }
  | 'U' => some { flags with swapGreed := on }
  | 'R' => some { flags with carriage := on }
  | 'u' => some { flags with asciiOnly := !on }
  | 'x' => some { flags with spaced := on }
  | _ => none

def ofLetters? (flags : ReadFlags) (letters : Text) : Option ReadFlags :=
  let on := letters.takeWhile (· ≠ '-')
  let off := (letters.drop on.length).drop 1
  if (on.length < letters.length && off.isEmpty) || !(on ++ off).Nodup then none
  else do
    let flags ← on.foldlM (fun flags c => flags.switch? true c) flags
    off.foldlM (fun flags c => flags.switch? false c) flags

def fold (flags : ReadFlags) (set : CodeSet) : CodeSet :=
  if !flags.folded then set else if flags.asciiOnly then set.asciiFolded else set.folded

end ReadFlags

structure Reading where
  rest : Text
  groups : Nat := 0
  names : List (String × Nat) := []
  deriving DecidableEq, Repr

abbrev Reader := StateT Reading Option

namespace Reader

def peek : Reader (Option Char) := do return (← get).rest.head?

def skip (count : Nat) : Reader Unit :=
  modify fun reading => { reading with rest := reading.rest.drop count }

def next : Reader Char := do
  match ← peek with
  | some c => skip 1; return c
  | none => failure

def eat (text : String) : Reader Bool := do
  let reading ← get
  if reading.rest.beginsWith text.toList then skip text.length; return true
  else return false

def expect (text : String) : Reader Unit := do
  if ← eat text then return () else failure

def takeWhile (property : Char → Bool) : Reader Text := do
  let taken := (← get).rest.takeWhile property
  skip taken.length
  return taken

end Reader

open Reader

def skipSpaced : Nat → Text → Text
  | 0, text => text
  | fuel + 1, text =>
      match text.dropWhile isBlank with
      | '#' :: rest => skipSpaced fuel (rest.dropWhile (· ≠ '\n'))
      | rest => rest

def skipSpace (flags : ReadFlags) : Reader Unit :=
  if flags.spaced then
    modify fun reading => { reading with rest := skipSpaced reading.rest.length reading.rest }
  else return ()

def nextSpaced (flags : ReadFlags) : Reader Char := do
  let c ← next
  skipSpace flags
  return c

/-- The character behind the next one, where blanks do not count.  A comment does count: its
first character is taken. -/
def peekSpaced (flags : ReadFlags) (text : Text) : Option Char :=
  let rest := text.drop 1
  if !flags.spaced then rest.head?
  else
    let seen := match rest.dropWhile isBlank with
      | '#' :: comment => comment.dropWhile isBlank
      | other => other
    seen.head?.or rest.head?

/-- Takes characters with the property, each with the blanks behind it, at most `fuel` many. -/
def takeSpaced (flags : ReadFlags) (property : Char → Bool) : Nat → Reader Text
  | 0 => return []
  | fuel + 1 => do
      match ← peek with
      | some c =>
          if property c then
            let c' ← nextSpaced flags
            return c' :: (← takeSpaced flags property fuel)
          else return []
      | none => return []

end Compliance
