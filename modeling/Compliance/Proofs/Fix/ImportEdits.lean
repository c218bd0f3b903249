import Compliance.Proofs.Fix.ImportTexts
import Compliance.Proofs.Text.Blanks
import Compliance.Proofs.Text.Pieces

/-!
# The edits that add an import

What `ensure?` can do to the lines of a content: extend a one-line import, extend
the closing line of an import that spans lines, add an entry above that line, or
put a new statement in.
-/

namespace Compliance

open Pattern

variable {behind word rest : Text} {marks : List Mark}

def ImportHead (Gap : Text → Prop) (head : Text) : Prop :=
  ∃ indent gap, head = indent ++ ("import".toList ++ gap) ∧ Blank indent ∧ Gap gap

def FromModule (module tail : Text) : Prop :=
  ∃ first second opening closing more,
    tail = first ++ ("from".toList ++ (second ++ opening :: (module ++ closing :: more))) ∧
      Blank first ∧ Blank second ∧ opening ∈ ['\'', '\x22'] ∧ closing ∈ ['\'', '\x22']

theorem FromModule.append {module tail : Text} (source : FromModule module tail) (later : Text) :
    FromModule module (tail ++ later) := by
  obtain ⟨first, second, opening, closing, more, rfl, blanks⟩ := source
  exact ⟨first, second, opening, closing, more ++ later, by simp, blanks⟩

theorem fromModule_of_reads {module : Text}
    (reads : (fromModule module).Reads behind word rest marks) :
      FromModule module word ∧ marks = [] := by
  have quote {c : Char} (has : (CharSet.anyOf "'\x22").has c = true) : c ∈ ['\'', '\x22'] := by
    simpa [CharSet.anyOf, CharSet.ofText, CharSet.has] using has
  simp only [fromModule, reads_append_many, reads_append_single, reads_append_ofText,
    reads_append_blanks, reads_append_lit, reads_blanks] at reads
  obtain ⟨_, more, rfl, -, _, closing, rfl, closes, _, rfl, _, opening, rfl, opens, _, second, rfl,
    blankSecond, first, rfl, blankFirst, rfl⟩ := reads
  exact ⟨⟨first, second, opening, closing, more, by simp, blankFirst, blankSecond, quote opens,
    quote closes⟩, rfl⟩

theorem plain_importLine (module : Text) : (importLine module).plain = true := by
  simp only [importLine, fromModule, plain_append, plain, plain_ofText]
  decide

theorem plain_importClosing (module : Text) : (importClosing module).plain = true := by
  simp only [importClosing, fromModule, plain_append, plain, plain_ofText]
  decide

theorem importHead_of_reads (reads : (blanks ++ lit "import" ++ blanks).Reads behind word
    rest marks) :
    ImportHead Blank word ∧ marks = [] := by
  simp only [reads_append_blanks, reads_append_lit, reads_blanks] at reads
  obtain ⟨_, gap, rfl, blankGap, indent, rfl, blank, rfl⟩ := reads
  exact ⟨⟨indent, gap, by simp, blank, blankGap⟩, rfl⟩

theorem shape_of_find?_importLine {module line : Text} {found : Match}
    (h : (importLine module).find? line = some found) :
    ∃ head names tail, line = head ++ ('\x7b' :: (names ++ ('\x7d' :: tail))) ∧
      ImportHead Blank head ∧ '\x7d' ∉ names ∧ FromModule module tail ∧
      found.group 1 = head ∧ found.group 2 = names ∧ found.group 3 = tail := by
  obtain ⟨gap, word, rest, marks, rfl, reads, rfl⟩ := reads_of_find? (plain_importLine module) h
  simp only [importLine, reads_append_textEnd, reads_append_group, reads_append_lit, reads_many,
    reads_textStart] at reads
  obtain ⟨rfl, _, tail, _, _, rfl, rfl, keyword, _, rfl, _, names, _, _, rfl, rfl, ⟨inside, rfl⟩, _,
    rfl, _, head, _, _, rfl, rfl, start, rfl, rfl, here⟩ := reads
  obtain ⟨source, rfl⟩ := fromModule_of_reads keyword
  obtain ⟨isHead, rfl⟩ := importHead_of_reads start
  obtain rfl := List.reverse_eq_nil_iff.mp here
  refine ⟨head, names, tail, by simp, isHead, (all_noneOf_iff rfl).mp inside, source,
    ?_, ?_, ?_⟩ <;>
    simp [Match.group, Match.group?, lastSpan, Cursor.upTo, Cursor.between]

theorem shape_of_find?_importClosing {module line : Text} {found : Match}
    (h : (importClosing module).find? line = some found) :
    ∃ names tail, line = names ++ ('\x7d' :: tail) ∧ '\x7d' ∉ names ∧ FromModule module tail ∧
      found.group 1 = names ∧ found.group 2 = tail := by
  obtain ⟨gap, word, rest, marks, rfl, reads, rfl⟩ :=
    reads_of_find? (plain_importClosing module) h
  simp only [importClosing, reads_append_textEnd, reads_append_group, reads_append_lit, reads_many,
    reads_textStart] at reads
  obtain ⟨rfl, _, tail, _, _, rfl, rfl, keyword, _, rfl, _, names, _, _, rfl, rfl, ⟨inside, rfl⟩,
    rfl, rfl, here⟩ := reads
  obtain ⟨source, rfl⟩ := fromModule_of_reads keyword
  obtain rfl := List.reverse_eq_nil_iff.mp here
  refine ⟨names, tail, by simp, (all_noneOf_iff rfl).mp inside, source, ?_, ?_⟩ <;>
    simp [Match.group, Match.group?, lastSpan, Cursor.upTo, Cursor.between]

def Opens (line : Text) : Prop :=
  ∃ head names, line = head ++ '\x7b' :: names ∧ ImportHead SpacedGap head ∧ '\x7d' ∉ names

theorem opens_of_occurs {line : Text} (occurs : importOpening.occurs line = true) : Opens line := by
  obtain ⟨gap, _, rfl, word, rest, marks, rfl, reads⟩ := (occurs_iff (by decide)).mp occurs
  rw [importOpening, reads_append_textEnd, reads_append_many] at reads
  obtain ⟨rfl, _, names, rfl, inside, reads⟩ := reads
  rw [reads_append_lit] at reads
  obtain ⟨_, rfl, reads⟩ := reads
  obtain ⟨indent, between, rfl, isGap, reads⟩ := reads_keyword.mp reads
  simp only [reads_append_blanks, reads_textStart] at reads
  obtain ⟨_, indent, rfl, blank, rfl, -, none⟩ := reads
  obtain rfl : gap = [] := by simpa using none
  exact ⟨indent ++ ("import".toList ++ between), names, by simp,
    ⟨indent, between, rfl, blank, isGap⟩, (all_noneOf_iff rfl).mp inside⟩

/-- Between its first line and its last one an import closes no brace. -/
def Block (lines : List Text) (start close : Nat) : Prop :=
  ∃ earlier opening inside last later, lines = earlier ++ opening :: (inside ++ last :: later) ∧
    start = earlier.length ∧ close = earlier.length + 1 + inside.length ∧ Opens opening ∧
    ∀ line ∈ inside, '\x7d' ∉ line

theorem block_of_importBlock? {closing : Pattern} {lines : List Text} {index start close : Nat}
    {isOpen : Option Nat} (found : importBlock? closing isOpen index lines = some (start, close)) :
    (isOpen = some start ∧ ∃ inside last later, lines = inside ++ last :: later ∧
      close = index + inside.length ∧ ∀ line ∈ inside, '\x7d' ∉ line) ∨
    ∃ first last, start = index + first ∧ close = index + last ∧ Block lines first last := by
  have further {line : Text} {others : List Text} {first last : Nat}
      (block : Block others first last) :
      Block (line :: others) (first + 1) (last + 1) := by
    obtain ⟨earlier, opening, inside, last, later, rfl, rfl, rfl, opens, outside⟩ := block
    exact ⟨line :: earlier, opening, inside, last, later, rfl, rfl, by simp; omega, opens, outside⟩
  induction lines generalizing isOpen index with
  | nil => cases isOpen <;> cases found
  | cons line others ih =>
      cases isOpen with
      | some first =>
          simp only [importBlock?] at found
          split at found
          · split at found
            · simp only [Option.some.injEq, Prod.mk.injEq] at found
              obtain ⟨rfl, rfl⟩ := found
              exact .inl ⟨rfl, [], line, others, rfl, rfl, by simp⟩
            · rcases ih found with ⟨none, -⟩ | ⟨first, last, rfl, rfl, block⟩
              · cases none
              · exact .inr ⟨first + 1, last + 1, by omega, by omega, further block⟩
          · next outside =>
              have outside : '\x7d' ∉ line := by simpa using outside
              rcases ih found with
                ⟨same, inside, last, later, rfl, rfl, closed⟩ | ⟨first, last, rfl, rfl, block⟩
              · refine .inl ⟨same, line :: inside, last, later, rfl, by simp; omega, ?_⟩
                simpa [outside] using closed
              · exact .inr ⟨first + 1, last + 1, by omega, by omega, further block⟩
      | none =>
          simp only [importBlock?] at found
          right
          rcases ih found with
            ⟨opened, inside, last, later, rfl, rfl, closed⟩ | ⟨first, last, rfl, rfl, block⟩
          · split at opened
            · next occurs =>
                obtain rfl := Option.some.inj opened
                exact ⟨0, inside.length + 1, rfl, by omega, [], line, inside, last, later, rfl, rfl,
                  by simp; omega, opens_of_occurs occurs, closed⟩
            · cases opened
          · exact ⟨first + 1, last + 1, by omega, by omega, further block⟩

/-! ## Cases -/

namespace Prerequisite

/-- What `ensure?` does to the lines of a content. -/
inductive Edit (needed : Prerequisite) (lines : List Text) : ImportEdit → Prop
  | oneLine {index : Nat} {head names tail : Text}
      (here : lines[index]? = some (head ++ ('\x7b' :: (names ++ ('\x7d' :: tail)))))
      (isHead : ImportHead Blank head) (closed : '\x7d' ∉ names)
      (source : FromModule needed.module.toList tail) :
      Edit needed lines (replaceLine lines index (head ++ ('\x7b' :: (names ++ ('\x7d' :: tail))))
        (head ++ "\x7b ".toList ++ extendNames needed.symbol.toList (Text.trim names) ++
          " \x7d".toList ++ tail))
  | closing {start close : Nat} {names tail : Text}
      (here : lines[close]? = some (names ++ ('\x7d' :: tail))) (block : Block lines start close)
      (closed : '\x7d' ∉ names) (source : FromModule needed.module.toList tail)
      (holds : ¬ Blank names) :
      Edit needed lines (replaceLine lines close (names ++ ('\x7d' :: tail))
        (dropCommas (Text.trimEnd names) ++ ',' :: ' ' :: needed.symbol.toList ++
            " \x7d".toList ++ tail))
  | entry {start close : Nat} {names tail : Text}
      (here : lines[close]? = some (names ++ ('\x7d' :: tail))) (block : Block lines start close)
      (blank : Blank names) (source : FromModule needed.module.toList tail)
      (found : importBlock? (importClosing needed.module.toList) none 0 lines =
        some (start, close)) :
      Edit needed lines (needed.addEntry lines start close)
  | statement (index : Nat)
      (place : index = ((lastImportEnd? false none 0 lines).map (· + 1)).getD 0)
      (noLine : needed.mergeLine? lines = none) (noBlock : needed.mergeBlock? lines = none) :
      Edit needed lines (insertLine lines index needed.statement)

theorem edit_of_mergeLine? {needed : Prerequisite} {lines : List Text} {edit : ImportEdit}
    (h : needed.mergeLine? lines = some edit) : needed.Edit lines edit := by
  simp only [mergeLine?, Option.bind_eq_some_iff, Option.map_eq_some_iff] at h
  obtain ⟨index, -, line, here, found, find, rfl⟩ := h
  obtain ⟨head, names, tail, rfl, isHead, closed, source, first, second, third⟩ :=
    shape_of_find?_importLine find
  rw [first, second, third]
  exact .oneLine here isHead closed source

theorem edit_of_mergeBlock? {needed : Prerequisite} {lines : List Text} {edit : ImportEdit}
    (h : needed.mergeBlock? lines = some edit) : needed.Edit lines edit := by
  simp only [mergeBlock?, Option.bind_eq_some_iff, Option.map_eq_some_iff] at h
  obtain ⟨⟨start, close⟩, isBlock, line, here, found, find, rfl⟩ := h
  obtain ⟨names, tail, rfl, closed, source, first, second⟩ := shape_of_find?_importClosing find
  have block : Block lines start close := by
    rcases block_of_importBlock? isBlock with ⟨none, -⟩ | ⟨first, last, rfl, rfl, block⟩
    · cases none
    · simpa using block
  rw [first, second]
  split
  · next empty =>
      exact .entry here block (trim_eq_nil_iff.mp (List.isEmpty_iff.mp empty)) source isBlock
  · next nonempty =>
      refine .closing here block closed source fun blank => nonempty ?_
      rw [trim_eq_nil_iff.mpr blank]
      rfl

theorem edit_of_ensure? {needed : Prerequisite} {content : Text} {edit : ImportEdit}
    (h : needed.ensure? content = some edit) : needed.Edit (Text.pieces content) edit := by
  simp only [ensure?] at h
  split at h
  · simp at h
  · split at h
    · next merged => exact edit_of_mergeLine? (merged.trans h)
    · next noLine =>
        split at h
        · next merged => exact edit_of_mergeBlock? (merged.trans h)
        · next noBlock =>
            obtain rfl := Option.some.inj h
            exact .statement _ rfl noLine noBlock

theorem ensure?_of_occurs {needed : Prerequisite} {content : Text}
    (imported : (importOf needed.symbol.toList).occurs content = true) :
      needed.ensure? content = none := by
  simp [ensure?, imported]

theorem ensure?_eq_none_iff {needed : Prerequisite} {content : Text}
    (isName : Identifier needed.symbol.toList) (used : Used needed.symbol.toList content) :
    needed.ensure? content = none ↔ (importOf needed.symbol.toList).occurs content = true := by
  have occurs := occurs_symbolWord_of_used isName used
  refine ⟨fun none => ?_, ensure?_of_occurs⟩
  cases imported : (importOf needed.symbol.toList).occurs content with
  | true => rfl
  | false =>
      simp only [ensure?, occurs, imported, Bool.not_true, Bool.or_false,
        Bool.false_eq_true, if_false] at none
      split at none
      · cases none
      · split at none <;> cases none

theorem not_occurs_of_ensure? {needed : Prerequisite} {content : Text} {edit : ImportEdit}
    (found : needed.ensure? content = some edit) :
    (importOf needed.symbol.toList).occurs content = false := by
  rw [Bool.eq_false_iff]
  intro imported
  rw [ensure?_of_occurs imported] at found
  cases found

end Prerequisite

end Compliance
