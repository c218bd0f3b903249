import Mathlib.Data.List.Basic
import Compliance.Fix.Import
import Compliance.Proofs.Fix.Shape
import Compliance.Proofs.Text.Words

/-!
# Symbols and imports in a text

Which symbols a text uses and which its imports list, read off its characters.  An edit that
replaces blanks and commas at one place keeps every symbol in use.
-/

namespace Compliance

open Pattern

variable {symbol front old new back before gap names rest : Text}

instance (text : Text) : Decidable (Fresh text) := inferInstanceAs (Decidable (_ = false))

@[simp] theorem fresh_nil : Fresh [] := rfl

@[simp] theorem fresh_cons {c : Char} : Fresh (c :: rest) ↔ isWord c = false := by simp [Fresh]

theorem Fresh.swap {first second : Text} (fresh : Fresh (first ++ second)) (other : Fresh new) :
    Fresh (first ++ new) := by
  cases first with
  | nil => exact other
  | cons c first => simpa using fresh

theorem Fresh.left {first second : Text} (fresh : Fresh (first ++ second)) : Fresh first := by
  cases first with
  | nil => rfl
  | cons c first => simpa using fresh

def Loose (text : Text) : Prop := ∀ c ∈ text, isBlank c = true ∨ c = ','

-- over the list: an instance over all characters would not compute
instance (text : Text) : Decidable (Loose text) := List.decidableBAll _ text

theorem Loose.not_mem (loose : Loose old) {c : Char} (visible : isBlank c = false)
    (other : c ≠ ',') :
    c ∉ old := by
  intro here
  rcases loose c here with blank | same
  · simp [visible] at blank
  · exact other same

theorem side_of_word {word after : Text}
    (shape : front ++ (old ++ back) = before ++ (word ++ after))
    (some : word ≠ []) (tight : ∀ c ∈ word, c ∉ old)
    (whole : old = [] → ∀ first second, word = first ++ second → first ≠ [] → second ≠ [] →
      first <:+ front → ¬ second <+: back) :
    (∃ middle, front = before ++ (word ++ middle) ∧ after = middle ++ (old ++ back)) ∨
      ∃ middle, before = front ++ (old ++ middle) ∧ back = middle ++ (word ++ after) := by
  rcases List.append_eq_append_iff.mp shape with ⟨ahead, rfl, tail⟩ | ⟨inside, rfl, tail⟩
  · rcases List.append_eq_append_iff.mp tail with ⟨middle, rfl, same⟩ | ⟨part, rfl, same⟩
    · exact .inr ⟨middle, rfl, same⟩
    · by_cases none : part = []
      · subst none
        exact .inr ⟨[], by simp, by simpa using same.symm⟩
      · obtain ⟨c, part, rfl⟩ := List.exists_cons_of_ne_nil none
        obtain ⟨d, word, rfl⟩ := List.exists_cons_of_ne_nil some
        obtain ⟨rfl, -⟩ := List.cons.inj same
        exact absurd (by simp) (tight d (by simp))
  · rcases List.append_eq_append_iff.mp tail with ⟨middle, rfl, same⟩ | ⟨part, rfl, same⟩
    · exact .inl ⟨middle, rfl, same⟩
    · by_cases none : part = []
      · subst none
        exact .inl ⟨[], by simp, by simpa using same.symm⟩
      · obtain ⟨c, part, rfl⟩ := List.exists_cons_of_ne_nil none
        cases old with
        | cons d old =>
            obtain ⟨rfl, -⟩ := List.cons.inj same
            exact absurd (by simp) (tight d (by simp))
        | nil =>
            by_cases outside : inside = []
            · subst outside
              exact .inr ⟨[], by simp, by simpa using same⟩
            · exact absurd ⟨after, same.symm⟩
                (whole rfl inside (c :: part) rfl outside none (List.suffix_append before inside))

def Identifier (word : Text) : Prop := word ≠ [] ∧ ∀ c ∈ word, isAsciiWord c = true

instance (word : Text) : Decidable (Identifier word) :=
  @instDecidableAnd _ _ _ (List.decidableBAll _ word)

theorem isWord_of_isAsciiWord {c : Char} (h : isAsciiWord c = true) :
    isWord c = true ∧ isBlank c = false ∧ c ≠ ',' := by
  have code : c.toNat < 0x80 ∧ 0x30 ≤ c.toNat := by
    rcases Bool.or_eq_true_iff.mp h with h | h
    · change ((decide (65 ≤ c.val ∧ c.val ≤ 90) || (decide (97 ≤ c.val) && decide (c.val ≤ 122))) ||
        (decide (48 ≤ c.val) && decide (c.val ≤ 57))) = true at h
      simp only [Bool.or_eq_true, Bool.and_eq_true, decide_eq_true_eq, UInt32.le_iff_toNat_le] at h
      change ((65 ≤ c.toNat ∧ c.toNat ≤ 90) ∨ 97 ≤ c.toNat ∧ c.toNat ≤ 122) ∨
        48 ≤ c.toNat ∧ c.toNat ≤ 57 at h
      omega
    · obtain rfl := beq_iff_eq.mp h
      decide
  refine ⟨by simpa [isWord, code.1, isAsciiWord] using h, ?_, ?_⟩
  · simp only [isBlank, Bool.or_eq_false_iff, Bool.and_eq_false_iff, decide_eq_false_iff_not,
      beq_eq_false_iff_ne]
    omega
  · rintro rfl
    revert h
    decide

theorem Identifier.part {word part : Text} (isName : Identifier word) (some : part ≠ [])
    (inside : part ⊆ word) : Identifier part :=
  ⟨some, fun c here => isName.2 c (inside here)⟩

theorem Identifier.not_mem {word : Text} (isName : Identifier word) {c : Char}
    (other : isAsciiWord c = false) : c ∉ word := by
  intro here
  rw [isName.2 c here] at other
  cases other

theorem Identifier.not_fresh {word : Text} (isName : Identifier word) (rest : Text) :
    ¬ Fresh (word ++ rest) := by
  obtain ⟨some, letters⟩ := isName
  obtain ⟨c, word, rfl⟩ := List.exists_cons_of_ne_nil some
  have := (isWord_of_isAsciiWord (letters c (by simp))).1
  simp [this]

theorem Identifier.not_fresh_reverse {word : Text} (isName : Identifier word) (before : Text) :
    ¬ Fresh (before ++ word).reverse := by
  rw [List.reverse_append]
  exact (isName.part (by simp [isName.1]) (by simp) : Identifier word.reverse).not_fresh _

/-- `new` takes the place of `old`, and no word next to them gets longer or falls apart. -/
structure Rewords (front old new back : Text) : Prop where
  loose : Loose old
  apart : old = [] → Fresh front.reverse ∨ Fresh back
  nonempty : new ≠ []
  start : front ≠ [] → Fresh new
  stop : back ≠ [] → Fresh new.reverse

theorem Rewords.side (rewords : Rewords front old new back) {part word after : Text}
    (isName : Identifier word) (starts : part <+: back)
    (shape : front ++ (old ++ part) = before ++ (word ++ after)) :
    (∃ middle, front = before ++ (word ++ middle) ∧ after = middle ++ (old ++ part)) ∨
      ∃ middle, before = front ++ (old ++ middle) ∧ part = middle ++ (word ++ after) := by
  refine side_of_word shape isName.1 (fun c here => ?_) ?_
  · obtain ⟨-, visible, other⟩ := isWord_of_isAsciiWord (isName.2 c here)
    exact rewords.loose.not_mem visible other
  · rintro none first second split some some' ⟨ahead, rfl⟩ inside
    obtain ⟨behind, rfl⟩ := inside.trans starts
    rcases rewords.apart none with fresh | fresh
    · exact (isName.part some (by simp [split])).not_fresh_reverse ahead fresh
    · exact (isName.part some' (by simp [split])).not_fresh behind fresh

/-! ## Symbols in use -/

/-- The symbol stands in the text as a word of its own. -/
def Used (symbol text : Text) : Prop :=
  ∃ before after, text = before ++ (symbol ++ after) ∧ Fresh before.reverse ∧ Fresh after

theorem fresh_reverse_swap {first second other : Text} (fresh : Fresh (first ++ second).reverse)
    (stop : Fresh other.reverse) : Fresh (other ++ second).reverse := by
  rw [List.reverse_append] at fresh ⊢
  exact fresh.swap stop

theorem fresh_append {first : Text} (nonempty : first ≠ []) (fresh : Fresh first) (second : Text) :
    Fresh (first ++ second) := by
  obtain ⟨c, first, rfl⟩ := List.exists_cons_of_ne_nil nonempty
  simpa using fresh

theorem Used.reworded (isName : Identifier symbol) (rewords : Rewords front old new back)
    (used : Used symbol (front ++ (old ++ back))) : Used symbol (front ++ (new ++ back)) := by
  obtain ⟨before, after, shape, start, stop⟩ := used
  rcases rewords.side isName (List.prefix_refl back) shape with
    ⟨middle, rfl, rfl⟩ | ⟨middle, rfl, rfl⟩
  · have fresh := fresh_append rewords.nonempty (rewords.start (by simp [isName.1])) back
    exact ⟨before, middle ++ (new ++ back), by simp, start, stop.swap fresh⟩
  · have fresh := fresh_append (by simpa using rewords.nonempty)
      (rewords.stop (by simp [isName.1])) front.reverse
    refine ⟨front ++ (new ++ middle), after, by simp, ?_, stop⟩
    rw [← List.append_assoc] at start ⊢
    exact fresh_reverse_swap start (by simpa using fresh)

theorem occurs_symbolWord_of_used (isName : Identifier symbol) {text : Text}
    (used : Used symbol text) : (symbolWord symbol).occurs text = true := by
  have isPlain : (symbolWord symbol).plain = true := by
    simp only [symbolWord, plain_append, plain_ofText]
    decide
  obtain ⟨before, after, rfl, start, stop⟩ := used
  refine (occurs_iff isPlain).mpr ⟨before, symbol ++ after, rfl, symbol, after, [], rfl, ?_⟩
  have first := isName.not_fresh after
  have last := isName.not_fresh_reverse before
  simp only [Fresh, List.reverse_append] at start stop first last
  simp only [symbolWord, reads_append_wordEdge, reads_append_ofText, reads_wordEdge,
    List.append_nil, bne_iff_ne, ne_eq]
  rw [Bool.not_eq_false] at first last
  refine ⟨?_, [], rfl, rfl, trivial, ?_⟩
  · rw [last, stop]
    decide
  · rw [start, first]
    decide

/-- Blanks, perhaps with the word `type` among them. -/
def ImportGap (gap : Text) : Prop :=
  Blank gap ∨ ∃ first second, gap = first ++ ("type".toList ++ second) ∧ first ≠ [] ∧
    Blank first ∧ second ≠ [] ∧ Blank second

def SpacedGap (gap : Text) : Prop := gap ≠ [] ∧ ImportGap gap

/-- A word can start behind the text: it ends in a blank, in another character that is no word
character, or not at all. -/
def Clear (before : Text) : Prop :=
  ∀ c, before.getLast? = some c → isBlank c = true ∨ isWord c = false

structure Lists (before gap names rest : Text) : Prop where
  keyword : Clear before
  gap : ImportGap gap
  opened : '\x7d' ∉ names
  start : Clear names
  stop : Fresh rest
  closed : '\x7d' ∈ rest

theorem Clear.swap {first second other : Text} (clear : Clear (first ++ second))
    (fresh : Fresh other.reverse) : Clear (other ++ second) := by
  intro c last
  rcases List.eq_nil_or_concat' second with rfl | ⟨init, d, rfl⟩
  · right
    rw [List.append_nil] at last
    simpa [Fresh, last] using fresh
  · refine clear c ?_
    rw [← List.append_assoc, List.getLast?_concat] at last ⊢
    exact last

theorem Fresh.clear (fresh : Fresh before.reverse) : Clear before := by
  intro c last
  right
  simpa [Fresh, last] using fresh

theorem identifier_import : Identifier "import".toList := by decide

theorem ImportGap.not_mem (isGap : ImportGap gap) : '\x7b' ∉ gap ∧ '\x7d' ∉ gap := by
  have outside {blanks : Text} (blank : Blank blanks) : '\x7b' ∉ blanks ∧ '\x7d' ∉ blanks :=
    ⟨fun here => absurd (blank _ here) (by decide), fun here => absurd (blank _ here) (by decide)⟩
  rcases isGap with blank | ⟨first, second, rfl, -, blank, -, blank'⟩
  · exact outside blank
  · simp [outside blank, outside blank']

theorem reads_keyword {first : Pattern} {behind word : Text} {marks : List Mark} :
    (first ++ lit "import" ++ blanks1 ++ opt (lit "type" ++ blanks1)).Reads behind word rest marks ↔
      ∃ head gap, word = head ++ ("import".toList ++ gap) ∧ SpacedGap gap ∧
        first.Reads behind head ("import".toList ++ (gap ++ rest)) marks := by
  rw [reads_append_opt]
  constructor
  · rintro (reads | reads)
    · rw [reads_append] at reads
      simp only [reads_append_blanks1, reads_append_lit, reads_lit] at reads
      obtain ⟨_, _, _, _, rfl, rfl, ⟨_, gap, rfl, ⟨some, blank⟩, head, rfl, reads⟩, _, later, rfl,
        ⟨some', blank'⟩, rfl, rfl⟩ := reads
      exact ⟨head, gap ++ ("type".toList ++ later), by simp,
        ⟨by simp [some], .inr ⟨gap, later, rfl, some, blank, some', blank'⟩⟩, by simpa using reads⟩
    · simp only [reads_append_blanks1, reads_append_lit] at reads
      obtain ⟨_, gap, rfl, ⟨some, blank⟩, head, rfl, reads⟩ := reads
      exact ⟨head, gap, by simp, ⟨some, .inl blank⟩, reads⟩
  · rintro ⟨head, _, rfl, ⟨some, blank | ⟨gap, later, rfl, some', blank, some'', blank'⟩⟩, reads⟩
    · right
      simp only [reads_append_blanks1, reads_append_lit]
      exact ⟨_, _, (List.append_assoc ..).symm, ⟨some, blank⟩, head, rfl, reads⟩
    · left
      rw [reads_append]
      simp only [reads_append_blanks1, reads_append_lit, reads_lit]
      exact ⟨head ++ "import".toList ++ gap, "type".toList ++ later, marks, [], by simp, by simp,
        ⟨_, gap, rfl, ⟨some', blank⟩, head, rfl, by simpa using reads⟩,
        _, later, rfl, ⟨some'', blank'⟩, rfl, rfl⟩

theorem edge_iff_fresh_left {first second : Text} (word : ¬ Fresh second) :
    (first.head?.any isWord != second.head?.any isWord) = true ↔ Fresh first := by
  rw [Fresh, Bool.not_eq_false] at word
  simp [Fresh, word]

theorem edge_iff_fresh_right {first second : Text} (word : ¬ Fresh first) :
    (first.head?.any isWord != second.head?.any isWord) = true ↔ Fresh second := by
  rw [Fresh, Bool.not_eq_false] at word
  simp [Fresh, word]

/-- No word character comes directly before, whatever else does. -/
theorem Clear.fresh (clear : Clear before) : Fresh before.reverse := by
  rcases List.eq_nil_or_concat' before with rfl | ⟨init, c, rfl⟩
  · rfl
  · rw [List.reverse_append]
    refine fresh_cons.mpr ?_
    rcases clear c List.getLast?_concat with blank | other
    · exact not_isWord_of_isBlank blank
    · exact other

theorem Clear.fresh_after (clear : Clear names) {d : Char} (other : isWord d = false)
    (before : Text) :
    Fresh (before ++ d :: names).reverse := by
  rcases List.eq_nil_or_concat' names with rfl | ⟨init, c, rfl⟩
  · simpa using other
  · have last := clear.fresh
    simpa using last

theorem occurs_importOf_iff (isName : Identifier symbol) {text : Text} :
    (importOf symbol).occurs text = true ↔ ∃ before gap names rest, gap ≠ [] ∧
      Lists before gap names rest ∧
      text = before ++ ("import".toList ++ (gap ++ '\x7b' :: (names ++ (symbol ++ rest)))) := by
  have isPlain : (importOf symbol).plain = true := by
    simp only [importOf, symbolWord, plain_append, plain_ofText]
    decide
  rw [occurs_iff isPlain]
  constructor
  · rintro ⟨before, _, rfl, word, after, marks, rfl, reads⟩
    rw [importOf, reads_append_lit] at reads
    obtain ⟨_, rfl, reads⟩ := reads
    rw [reads_append_many] at reads
    obtain ⟨_, later, rfl, -, reads⟩ := reads
    rw [reads_append] at reads
    obtain ⟨_, listed, _, _, rfl, rfl, reads, word⟩ := reads
    simp only [symbolWord, reads_append_wordEdge, reads_append_ofText, reads_wordEdge] at word
    obtain ⟨last, _, rfl, rfl, rfl, first⟩ := word
    rw [reads_append_many] at reads
    obtain ⟨_, names, rfl, insideNames, reads⟩ := reads
    rw [reads_append_lit] at reads
    obtain ⟨_, rfl, reads⟩ := reads
    obtain ⟨head, gap, rfl, isGap, reads⟩ := reads_keyword.mp reads
    obtain ⟨rfl, -, edge⟩ := reads_wordEdge.mp reads
    refine ⟨before, gap, names, later ++ '\x7d' :: after, isGap.1, ?_, by simp⟩
    constructor
    · have fresh := (edge_iff_fresh_left (identifier_import.not_fresh _)).mp edge
      exact Fresh.clear (by simpa using fresh)
    · exact isGap.2
    · exact (all_noneOf_iff rfl).mp insideNames
    · have fresh := (edge_iff_fresh_left (isName.not_fresh _)).mp first
      simp only [List.reverse_append, List.append_assoc] at fresh
      exact fresh.left.clear
    · refine (edge_iff_fresh_right ?_).mp last
      simpa using isName.not_fresh_reverse (before ++ ("import".toList ++ (gap ++ '\x7b' :: names)))
    · simp
  · rintro ⟨before, gap, names, rest, some, lists, rfl⟩
    obtain ⟨later, after, rfl, closed⟩ := List.eq_append_cons_of_mem lists.closed
    have opening : '\x7d' ∉ names := lists.opened
    have keyword : (wordEdge : Pattern).Reads before.reverse []
        ("import".toList ++ (gap ++ '\x7b' :: (names ++ (symbol ++ (later ++ '\x7d' :: after)))))
        [] :=
      reads_wordEdge.mpr ⟨rfl, rfl,
        (edge_iff_fresh_left (identifier_import.not_fresh _)).mpr lists.keyword.fresh⟩
    refine ⟨before, _, rfl,
      "import".toList ++ (gap ++ '\x7b' :: (names ++ (symbol ++ (later ++ ['\x7d'])))),
      after, [], by simp, ?_⟩
    rw [importOf, reads_append_lit]
    refine ⟨"import".toList ++ (gap ++ '\x7b' :: (names ++ (symbol ++ later))), by simp, ?_⟩
    rw [reads_append_many]
    refine ⟨"import".toList ++ (gap ++ '\x7b' :: (names ++ symbol)), later, by simp,
      (all_noneOf_iff rfl).mpr closed, ?_⟩
    rw [reads_append]
    refine ⟨"import".toList ++ (gap ++ '\x7b' :: names), symbol, [], [], by simp, rfl, ?_, ?_⟩
    · rw [reads_append_many]
      refine ⟨"import".toList ++ (gap ++ ['\x7b']), names, by simp,
        (all_noneOf_iff rfl).mpr opening, ?_⟩
      rw [reads_append_lit]
      refine ⟨"import".toList ++ gap, by simp,
        reads_keyword.mpr ⟨[], gap, rfl, ⟨some, lists.gap⟩, ?_⟩⟩
      simpa using keyword
    · simp only [symbolWord, reads_append_wordEdge, reads_append_ofText, reads_wordEdge]
      have first : Fresh (("import".toList ++ (gap ++ '\x7b' :: names)).reverse ++
          (before.reverse ++ [])) := by
        have brace : isWord '\x7b' = false := by decide
        have fresh := lists.start.fresh_after brace (before ++ ("import".toList ++ gap))
        simpa using fresh
      have last : Fresh (later ++ '\x7d' :: after) := lists.stop
      have ahead := isName.not_fresh_reverse
          (before ++ ("import".toList ++ (gap ++ '\x7b' :: names)))
      refine ⟨(edge_iff_fresh_right ?_).mpr (by simpa using last), [], rfl, rfl, trivial,
        (edge_iff_fresh_left (isName.not_fresh _)).mpr first⟩
      simpa using ahead

end Compliance
