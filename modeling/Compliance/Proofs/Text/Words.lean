import Compliance.Text.Blank
import Compliance.Text.Word

/-!
# Blanks are no word characters

The table of word characters is a union of other tables.  A union holds no code point that all of
them miss, so each table is searched for the blanks on its own.
-/

namespace Compliance

namespace CodeSet

variable {set : CodeSet} {n low high : Nat}

def Misses (set : List (Nat × Nat)) (n : Nat) : Prop :=
  ∀ range ∈ set, ¬ (range.1 ≤ n ∧ n ≤ range.2)

theorem Misses.has_eq_false (misses : Misses set n) : has set n = false := by
  induction set with
  | nil => rfl
  | cons range others ih =>
      have first := misses range (by simp)
      have rest := ih fun other here => misses other (by simp [here])
      simp only [has, rest, Bool.or_false]
      simp only [Bool.and_eq_false_iff, decide_eq_false_iff_not]
      omega

theorem misses_joinRanges {ranges : List (Nat × Nat)} (first : ¬ (low ≤ n ∧ n ≤ high))
    (others : Misses ranges n) : Misses (joinRanges low high ranges) n := by
  induction ranges generalizing low high with
  | nil => simpa [joinRanges, Misses] using first
  | cons range ranges ih =>
      have next := others range (by simp)
      have rest : Misses ranges n := fun other here => others other (by simp [here])
      rw [joinRanges]
      split
      · exact ih (by omega) rest
      · intro other here
        rcases List.mem_cons.mp here with rfl | here
        · exact first
        · exact ih next rest other here

theorem misses_ofRising {ranges : List (Nat × Nat)} (misses : Misses ranges n) :
    Misses (ofRising ranges) n := by
  cases ranges with
  | nil => exact misses
  | cons range ranges =>
      exact misses_joinRanges (misses range (by simp)) fun other here =>
        misses other (by simp [here])

theorem Misses.union {other : CodeSet} (one : Misses set n) (two : Misses other n) :
    Misses (set ∪ other) n := by
  apply misses_ofRising
  intro range here
  rcases List.mem_merge.mp here with here | here
  · exact one range here
  · exact two range here

theorem misses_unions {sets : List CodeSet} (misses : ∀ set ∈ sets, Misses set n) :
    Misses (unions sets) n := by
  apply misses_ofRising
  intro range here
  obtain ⟨set, listed, inside⟩ := List.mem_flatten.mp (List.mem_mergeSort.mp here)
  exact misses set listed range inside

end CodeSet

open CodeSet Property

inductive Spelled : List String → List Text → Prop
  | nil : Spelled [] []
  | cons (text : Text) {rows : List String} {texts : List Text} (others : Spelled rows texts) :
      Spelled (String.ofList text :: rows) (text :: texts)

def rangesOf (texts : List Text) : CodeSet :=
  ofStretches 0 (texts.flatMap fun text => (Text.parts ' ' text).map decimalOf)

theorem ofRows_of_spelled {rows : List String} {texts : List Text} (spelled : Spelled rows texts) :
    ofRows rows = rangesOf texts := by
  rw [ofRows, rangesOf]
  congr 1
  induction spelled with
  | nil => rfl
  | cons text others ih => simp [ih]

def wideBlanks : List (Nat × Nat) :=
  [(0x85, 0x85), (0xA0, 0xA0), (0x1680, 0x1680), (0x2000, 0x200A), (0x2028, 0x2029),
    (0x202F, 0x202F), (0x205F, 0x205F), (0x3000, 0x3000)]

def blankless (table : CodeSet) : Bool :=
  table.all fun range => Nat.ble 0x3001 range.1 ||
    wideBlanks.all fun blanks => Nat.blt range.2 blanks.1 || Nat.blt blanks.2 range.1

inductive SpelledTables : List CodeSet → List (List Text) → Prop
  | nil : SpelledTables [] []
  | cons {rows : List String} {texts : List Text} {tables : List CodeSet}
      {others : List (List Text)}
      (spelled : Spelled rows texts) (rest : SpelledTables tables others) :
      SpelledTables (ofRows rows :: tables) (texts :: others)

theorem blankless_of_spelled {tables : List CodeSet} {texts : List (List Text)}
    (spelled : SpelledTables tables texts)
    (free : (texts.all fun table => blankless (rangesOf table)) = true) :
    ∀ table ∈ tables, blankless table = true := by
  induction spelled with
  | nil => simp
  | @cons rows texts tables others spelled rest ih =>
      rw [List.all_cons, Bool.and_eq_true] at free
      intro table here
      rcases List.mem_cons.mp here with rfl | here
      · rw [ofRows_of_spelled spelled]
        exact free.1
      · exact ih free.2 table here

def wordTables : List CodeSet :=
  [upperCase, lowerCase, titleCase, modifierLetters, otherLetters, letterNumbers, otherAlphabetic,
    nonspacingMarks, spacingMarks, enclosingMarks, decimalDigits, connectors, joinControl]

theorem blankless_wordTables : ∀ table ∈ wordTables, blankless table = true := by
  unfold wordTables
  exact blankless_of_spelled (by repeat constructor) (by decide +kernel)

/-! ## Word characters -/

theorem misses_of_blankless {table : CodeSet} {n : Nat} (free : blankless table = true)
    (blank : ∃ blanks ∈ wideBlanks, blanks.1 ≤ n ∧ n ≤ blanks.2) : Misses table n := by
  obtain ⟨blanks, listed, low, high⟩ := blank
  have bound : blanks.2 ≤ 0x3000 := by
    have all : ∀ blanks ∈ wideBlanks, blanks.2 ≤ 0x3000 := by decide
    exact all blanks listed
  rintro range here ⟨start, stop⟩
  rcases Bool.or_eq_true_iff.mp (List.all_eq_true.mp free range here) with beyond | apart
  · have := Nat.le_of_ble_eq_true beyond
    omega
  · have sides := List.all_eq_true.mp apart blanks listed
    simp only [Bool.or_eq_true, Nat.blt_eq] at sides
    omega

theorem misses_wordCodes {n : Nat} (misses : ∀ table ∈ wordTables, Misses table n) :
    Misses wordCodes n := by
  simp only [wordTables, List.forall_mem_cons] at misses
  obtain ⟨upper, lower, title, modifiers, others, numbers, alphabetics, nonspacing,
      spacing, enclosing, digits, connecting, joining, -⟩ := misses
  have letters := (((upper.union lower).union title).union modifiers).union others
  apply misses_unions
  simp only [List.forall_mem_cons]
  exact ⟨(letters.union numbers).union alphabetics,
    (nonspacing.union spacing).union enclosing, digits,
    connecting, joining, by simp⟩

theorem not_isWord_of_isBlank {c : Char} (blank : isBlank c = true) : isWord c = false := by
  simp only [isBlank, Bool.or_eq_true, Bool.and_eq_true, decide_eq_true_eq, beq_iff_eq] at blank
  by_cases ascii : c.toNat < 0x80
  · have listed : c.toNat ∈ [9, 10, 11, 12, 13, 32] := by
      simp only [List.mem_cons, List.not_mem_nil, or_false]
      omega
    have codes : ∀ n ∈ [9, 10, 11, 12, 13, 32], isWord (Char.ofNat n) = false := by decide
    rw [← Char.ofNat_toNat c]
    exact codes _ listed
  · have listed : ∃ blanks ∈ wideBlanks, blanks.1 ≤ c.toNat ∧ c.toNat ≤ blanks.2 := by
      simp only [wideBlanks, List.mem_cons, List.not_mem_nil, or_false, exists_eq_or_imp,
        exists_eq_left]
      omega
    have misses := misses_wordCodes fun table here =>
      misses_of_blankless (blankless_wordTables table here) listed
    rw [isWord, if_neg ascii]
    exact misses.has_eq_false

end Compliance
