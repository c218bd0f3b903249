import Compliance.Text.Property.Binary
import Compliance.Text.Property.Script

/-!
# Breaks

How characters take part in the division of a text into clusters, words and
sentences.  Each division has its own classes, and a character is in at most one class of each.
-/

namespace Compliance.Property

open CodeSet

def prependers : CodeSet := ofRows
  ["1536 6 215 1 49 1 384 2 80 1 1131 1 66414 1 15 1 244 2 525 1 1389 1 1 1 248 1 73 6 700 1",
   "443 1"]

/-- Marks that take room and do not extend a cluster, or vowels that do. -/
def spacingApart : CodeSet := ofRows
  ["3635 1 127 1 375 2 11 1 41 3 2 7 21 1 3 6 2 1 10 3 2500 1 1 2 36886 1 1 1 27810 2"]

def hangulLeads : CodeSet := ofRows ["4352 96 38912 29"]

def hangulVowels : CodeSet := ofRows ["4448 72 50696 23 38300 1 3 4"]

def hangulTrails : CodeSet := ofRows ["4520 88 50635 49"]

def hangulSyllables : CodeSet := [(0xAC00, 0xD7A3)]

/-- Syllables without a trailing consonant: every 28th. -/
def openSyllables : CodeSet := (List.range 399).map fun i => (0xAC00 + 28 * i, 0xAC00 + 28 * i)

def clusterBreaks : List (List String × CodeSet) := [
  (["CN", "Control"],
    unions [controls, formats, lineSeparator, paragraphSeparator,
      inter unassigned defaultIgnorable] \
      unions [one 0x0A, one 0x0D, joinControl, graphemeExtend, prependers]),
  (["CR"], one 0x0D), (["EX", "Extend"], graphemeExtend ∪ emojiModifier),
  (["L"], hangulLeads), (["LF"], one 0x0A), (["LV"], openSyllables),
  (["LVT"], hangulSyllables \ openSyllables), (["PP", "Prepend"], prependers),
  (["RI", "Regional_Indicator"], regionalIndicator),
  (["SM", "SpacingMark"], symmDiff (spacingMarks \ graphemeExtend) spacingApart),
  (["T"], hangulTrails), (["V"], hangulVowels), (["ZWJ"], one 0x200D)]

def katakanaLetters : CodeSet := ofRows
  ["12337 5 101 2 3 91 1 4 240 16 208 47 1 88 52238 56 45138 4 1 7 1 2 1 1 287 3 50 1 14 4"]

/-- Signs that count as letters of a word, and letters that do not. -/
def wordLettersApart : CodeSet := ofRows
  ["706 4 12 6 6 2 5 7 1 1 1 17 602 3 1 1 43 1 104 1 2061 48 1 2 12 7 58 2 1 1 1 5 1 24 1 1",
   "1 10 1 2 9 1 2 5 1 1 21 4 288 43 20 1 16 6 4 4 3 1 3 2 7 3 4 13 12 1 1777 52 35 1 4 1",
   "371 30 2 5 11 44 4 26 86 53 82 1 35936 15 9 2 103 2 597 5 1 10 10 5 97 23 3 1 3 50 1 1 3 2",
   "2 5 2 1 1 1 24 3 125 1 27556 27 37 7"]

def extendNumLet : CodeSet := ofRows ["95 1 8143 1 15 2 19 1 56798 2 24 3 239 1"]

def midLetter : CodeSet := ofRows ["58 1 124 1 719 1 471 1 148 1 6706 1 56811 1 65 1 196 1"]

def midNum : CodeSet := ofRows
  ["44 1 14 1 834 1 522 1 130 2 94 1 395 1 6219 1 56779 1 3 1 59 1 3 1 183 1 14 1"]

def midNumLet : CodeSet := ofRows ["46 1 8169 2 10 1 56877 1 180 1 6 1"]

def wordSpaces : CodeSet := ofRows ["32 1 5727 1 2431 7 1 3 84 1 4000 1"]

def scriptSet (name : String) : CodeSet :=
  ofRows (((scriptRows.find? fun entry => entry.1.contains name).map (·.2)).getD [])

def wordExtend : CodeSet := (graphemeExtend ∪ spacingMarks ∪ emojiModifier) \ one 0x200D

def hebrewLetters : CodeSet := inter (scriptSet "Hebrew") otherLetters

def wordNumbers : CodeSet := decimalDigits ∪ one 0x66B

def wordLetters : CodeSet :=
  symmDiff
    (alphabetic \ unions [ideographic, katakanaLetters, scriptSet "Hiragana", wordExtend,
      hebrewLetters, wordNumbers])
    wordLettersApart

def wordBreaks : List (List String × CodeSet) := [
  (["CR"], one 0x0D), (["DQ", "Double_Quote"], one 0x22), (["EX", "ExtendNumLet"], extendNumLet),
  (["Extend"], wordExtend),
  (["FO", "Format"], formats \ unions [graphemeExtend, joinControl, one 0x200B]),
  (["HL", "Hebrew_Letter"], hebrewLetters), (["KA", "Katakana"], katakanaLetters),
  (["LE", "ALetter"], wordLetters), (["LF"], one 0x0A), (["MB", "MidNumLet"], midNumLet),
  (["ML", "MidLetter"], midLetter), (["MN", "MidNum"], midNum),
  (["NL", "Newline"], [(0x0B, 0x0C), (0x85, 0x85), (0x2028, 0x2029)]),
  (["NU", "Numeric"], wordNumbers), (["RI", "Regional_Indicator"], regionalIndicator),
  (["SQ", "Single_Quote"], one 0x27), (["WSegSpace"], wordSpaces), (["ZWJ"], one 0x200D)]

def sentenceClosersApart : CodeSet := ofRows ["34 1 4 1 10035 6 1695 2 4 3 2 1 116842 3"]

def sentenceContinue : CodeSet := ofRows
  ["44 2 12 1 1314 1 174 2 490 1 4105 1 5 1 2058 2 4076 1 52750 2 1 1 29 2 29 2 3 1 2 1 10 1",
   "168 2 12 1 73 1"]

def sentenceSpaces : CodeSet := ofRows ["9 1 1 2 19 1 127 1 5599 1 2431 11 36 1 47 1 4000 1"]

def sentencePoints : CodeSet := ofRows ["46 1 8181 1 56877 1 187 1"]

def georgianCapitals : CodeSet := ofRows ["7312 43 2 3"]

def georgianSmall : CodeSet := ofRows ["4304 43 2 3"]

def sentenceExtend : CodeSet := graphemeExtend ∪ spacingMarks ∪ one 0x200D

def sentenceLower : CodeSet := lowercase \ (graphemeExtend ∪ georgianSmall)

def sentenceUpper : CodeSet := (uppercase ∪ titleCase) \ georgianCapitals

def sentenceBreaks : List (List String × CodeSet) := [
  (["AT", "ATerm"], sentencePoints),
  (["CL", "Close"], unions [openers, closers, initialQuotes, finalQuotes, sentenceClosersApart]),
  (["CR"], one 0x0D), (["EX", "Extend"], sentenceExtend),
  (["FO", "Format"], formats \ (graphemeExtend ∪ joinControl)),
  (["LE", "OLetter"],
    (alphabetic ∪ one 0x5F3) \ unions [sentenceLower, sentenceUpper, sentenceExtend]),
  (["LF"], one 0x0A), (["LO", "Lower"], sentenceLower),
  (["NU", "Numeric"], wordNumbers ∪ one 0x66C), (["SC", "SContinue"], sentenceContinue),
  (["SE", "Sep"], [(0x85, 0x85), (0x2028, 0x2029)]), (["SP", "Sp"], sentenceSpaces),
  (["ST", "STerm"], sentenceTerminal \ sentencePoints), (["UP", "Upper"], sentenceUpper)]

end Compliance.Property
