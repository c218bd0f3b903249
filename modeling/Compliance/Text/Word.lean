import Compliance.Text.Property.Binary

/-!
# Word characters

A word character is alphabetic, a mark, a decimal digit, a connector or a character that
controls joining.  In ASCII these are the letters, the digits and the underscore.
-/

namespace Compliance

open Property

def wordCodes : CodeSet :=
  CodeSet.unions [alphabetic, marks, decimalDigits, connectors, joinControl]

def isWord (c : Char) : Bool :=
  if c.toNat < 0x80 then c.isAlphanum || c == '_' else wordCodes.has c.toNat

def isDecimal (c : Char) : Bool :=
  if c.toNat < 0x80 then c.isDigit else decimalDigits.has c.toNat

end Compliance
