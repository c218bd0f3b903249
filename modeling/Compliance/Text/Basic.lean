import Compliance.Text.Blank

/-!
# Texts

A text is a list of characters.  Two splitters live here: `pieces` cuts at every
newline and loses nothing, `lines` is what a reader of a file sees (no carriage
return before a newline, no empty line after the last one).  The `n`-th line is
the `n`-th piece up to one carriage return.
-/

namespace Compliance

abbrev Text := List Char

namespace Text

def beginsWith (text start : Text) : Bool := start.isPrefixOf text

def endsWith (text ending : Text) : Bool := ending.isSuffixOf text

def contains (text part : Text) : Bool :=
  match text with
  | [] => part.isEmpty
  | c :: rest => part.isPrefixOf (c :: rest) || contains rest part

def trimStart (text : Text) : Text := text.dropWhile isBlank

def trimEnd (text : Text) : Text := (text.reverse.dropWhile isBlank).reverse

def trim (text : Text) : Text := trimEnd (trimStart text)

def lower (text : Text) : Text := text.map Char.toLower

def upper (text : Text) : Text := text.map Char.toUpper

def parts (separator : Char) : Text → List Text
  | [] => [[]]
  | c :: rest =>
      if c = separator then [] :: parts separator rest
      else match parts separator rest with
        | [] => [[c]]
        | part :: others => (c :: part) :: others

def pieces (text : Text) : List Text := parts '\n' text

/-- Puts newlines between the parts; undoes `pieces`. -/
def unpieces : List Text → Text
  | [] => []
  | [piece] => piece
  | piece :: others => piece ++ '\n' :: unpieces others

def dropCarriage (piece : Text) : Text :=
  if piece.getLast? = some '\r' then piece.dropLast else piece

/-- Lines out of pieces: all pieces but the last end in a newline. -/
def linesOfPieces : List Text → List Text
  | [] => []
  | [last] => if last.isEmpty then [] else [last]
  | piece :: others => dropCarriage piece :: linesOfPieces others

def lines (text : Text) : List Text := linesOfPieces (pieces text)

theorem parts_ne_nil (separator : Char) (text : Text) : parts separator text ≠ [] := by
  cases text with
  | nil => simp [parts]
  | cons c rest =>
      simp only [parts]
      split
      · simp
      · split <;> simp

theorem pieces_ne_nil (text : Text) : pieces text ≠ [] := parts_ne_nil '\n' text

theorem unpieces_pieces (text : Text) : unpieces (pieces text) = text := by
  induction text with
  | nil => rfl
  | cons c rest ih =>
      obtain ⟨piece, others, h⟩ := List.exists_cons_of_ne_nil (pieces_ne_nil rest)
      rw [h] at ih
      simp only [pieces] at h ⊢
      simp only [parts, h]
      split
      · next hc => simp [unpieces, ih, hc]
      · cases others with
        | nil => simpa [unpieces] using ih
        | cons next others => simpa [unpieces] using ih

end Text

/-! ## Names

Names, ids and messages are `String`s; the same ASCII case rules apply to them. -/

def sameName (a b : String) : Bool := a.toList.map Char.toLower == b.toList.map Char.toLower

def lowerName (name : String) : String := String.ofList (Text.lower name.toList)

def upperName (name : String) : String := String.ofList (Text.upper name.toList)

def trimName (name : String) : String := String.ofList (Text.trim name.toList)

def padRight (width : Nat) (name : String) : String :=
  name ++ String.ofList (List.replicate (width - name.length) ' ')

end Compliance
