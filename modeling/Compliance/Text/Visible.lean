import Compliance.Text.Recent

/-!
# Visible characters

A quoted text shows visible characters as they are.  Controls, formats, separators
other than the space, characters that merge with the one before, characters that are ignored by
default and code points without a character are not visible.
-/

namespace Compliance

open Property

def hiddenCodes : CodeSet :=
  CodeSet.unions [others, separators, [(0xD800, 0xDFFF)], graphemeExtend, defaultIgnorable]

def isVisible (c : Char) : Bool :=
  let n := c.toNat
  if n < 0x80 then 0x20 ≤ n && n < 0x7F else !hiddenCodes.has n || recentVisible.has n

end Compliance
