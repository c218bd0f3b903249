import Compliance.Text.Property.Binary

/-!
# Recent characters

Names of groups and quoted texts know the characters of a later version of the standard than
the classes of patterns do.  The tables hold what that version added.
-/

namespace Compliance

open Property

def recentAlphabetic : CodeSet := .ofRows
  ["2191 1 972 1 127 1 39665 2 2 1 1 1 28 1 24910 26 1387 3 50 2 3172 8 584 44 20676 25 2 25",
   "286 5 6145 8 1289 22 97 115 22733 31 1 22 8 2 53306 6 5986 12 21762 4298"]

def recentNumbers : CodeSet := .ofRows
  ["73184 10 21002 3"]

def recentVisible : CodeSet := .ofRows
  ["2191 1 972 1 127 1 5092 1 2772 1 31799 2 2 1 1 1 28 1 21457 16 445 2 54 7 2929 26 1387 3",
   "8 9 3208 1 3 1 1 1 584 44 4 10 20662 25 2 25 286 5 6145 8 1289 22 97 115 16135 3 445 23",
   "15 17 6095 31 1 3 1 2 1 7 2 5 9 2 4056 1 158 4 341 9 379 4 50 1 3 1 57 1 4 1 28 1 4 1",
   "266 1 47935 6 5986 12 21762 4298"]

def isAlphabetic (c : Char) : Bool :=
  if c.toNat < 0x80 then c.isAlpha
  else alphabetic.has c.toNat || recentAlphabetic.has c.toNat

def isAlphanumeric (c : Char) : Bool :=
  isAlphabetic c || numbers.has c.toNat || recentNumbers.has c.toNat

end Compliance
