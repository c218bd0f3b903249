import Compliance.Proofs.Fix.ImportKept
import Compliance.Proofs.Fix.ImportNames
import Compliance.Proofs.Text.Stretches

/-!
# Adding an import once

The import that an edit adds is found when it is asked for again, unless the import that the edit
extends has no blank between keyword and brace.  Such an import is one to the pattern that looks
for a place to merge, and none to the pattern that looks for the symbol; the symbol is then
found only if another import is left open in front of it.
-/

namespace Compliance

open Pattern Prerequisite

variable {symbol front names extended tail text : Text}

/-- The text ends between the braces of an import that the pattern of an import can read. -/
def LeftOpen (text : Text) : Prop :=
  ∃ before gap names, text = before ++ ("import".toList ++ (gap ++ '\x7b' :: names)) ∧
    Clear before ∧ SpacedGap gap ∧ '\x7d' ∉ names

theorem Clear.right {first second : Text} (clear : Clear (first ++ second)) : Clear second := by
  intro c last
  refine clear c ?_
  rw [List.getLast?_append, last]
  rfl

theorem occurs_of_leftOpen (isName : Identifier symbol) (widened : Extends symbol names extended)
    (isOpen : LeftOpen (front ++ extended)) (tail : Text) :
    (importOf symbol).occurs (front ++ (extended ++ '\x7d' :: tail)) = true := by
  obtain ⟨lead, after, rfl, some, clear, some', fresh, noBrace, -⟩ := widened.listed isName
  obtain ⟨before, gap, listed, shape, clearBefore, isGap, closed⟩ := isOpen
  have outside : '\x7b' ∉ symbol ++ after := by
    have inSymbol : '\x7b' ∉ symbol := isName.not_mem (by decide)
    simp [inSymbol, noBrace]
  have split : (front ++ lead) ++ (symbol ++ after) =
      (before ++ ("import".toList ++ gap)) ++ '\x7b' :: listed := by
    simpa using shape
  obtain ⟨between, ahead, rfl⟩ := ahead_of_not_mem outside split
  have start : Clear ((before ++ ("import".toList ++ gap) ++ ['\x7b']) ++ between) := by
    have whole := @Clear.append front lead some clear
    rw [ahead] at whole
    simpa using whole
  simp only [List.mem_append, not_or] at closed
  refine (occurs_importOf_iff isName).mpr ⟨before, gap, between, after ++ '\x7d' :: tail, isGap.1,
    ⟨clearBefore, isGap.2, closed.1, start.right, fresh_append some' fresh _, by simp⟩, ?_⟩
  calc front ++ ((lead ++ (symbol ++ after)) ++ '\x7d' :: tail)
      = (front ++ lead) ++ (symbol ++ (after ++ '\x7d' :: tail)) := by simp
    _ = before ++
        ("import".toList ++ (gap ++ '\x7b' ::
          (between ++ (symbol ++ (after ++ '\x7d' :: tail))))) := by
        rw [ahead]
        simp

theorem leftOpen_of_occurs (isName : Identifier symbol) (closed : '\x7d' ∉ extended)
    (absent : (importOf symbol).occurs (front ++ (names ++ '\x7d' :: tail)) = false)
    (occurs : (importOf symbol).occurs (front ++ (extended ++ '\x7d' :: tail)) = true) :
    LeftOpen (front ++ extended) := by
  have inOld : ∀ before gap listed rest, gap ≠ [] → Lists before gap listed rest →
      front ++ (names ++ '\x7d' :: tail) ≠
        before ++ ("import".toList ++ (gap ++ '\x7b' :: (listed ++ (symbol ++ rest)))) := by
    intro before gap listed rest some lists shape
    have found := (occurs_importOf_iff isName).mpr ⟨before, gap, listed, rest, some, lists, shape⟩
    exact absurd (absent.symm.trans found) (by decide)
  obtain ⟨before, gap, listed, rest, some, lists, shape⟩ := (occurs_importOf_iff isName).mp occurs
  have inKeyword : '\x7d' ∉ "import".toList ++ gap := by simp [lists.gap.not_mem.2]
  have split : (front ++ extended) ++ '\x7d' :: tail =
      (before ++ ("import".toList ++ gap)) ++ '\x7b' :: (listed ++ (symbol ++ rest)) := by
    simpa using shape
  rcases List.append_eq_append_iff.mp split with ⟨more, upTo, same⟩ | ⟨more, upTo, same⟩
  · obtain ⟨more, rfl⟩ : ∃ others, more = '\x7d' :: others := by
      cases more with
      | nil => simp at same
      | cons c others => exact ⟨others, by rw [(List.cons.inj same).1]⟩
    obtain ⟨between, rfl, rfl⟩ := ahead_of_not_mem inKeyword upTo
    have clear := @Clear.append (front ++ names) _ (by simp) lists.keyword.right
    refine absurd ?_ (inOld ((front ++ names) ++ '\x7d' :: between) gap listed rest some
      { lists with keyword := clear })
    rw [(List.cons.inj same).2]
    simp
  · obtain ⟨more, rfl⟩ : ∃ others, more = '\x7b' :: others := by
      cases more with
      | nil => simp at same
      | cons c others => exact ⟨others, by rw [(List.cons.inj same).1]⟩
    by_cases complete : '\x7d' ∈ more
    · obtain ⟨first, second, rfl⟩ := List.append_of_mem complete
      have inSymbol : '\x7d' ∉ listed ++ symbol := by
        have outside : '\x7d' ∉ symbol := isName.not_mem (by decide)
        simp [lists.opened, outside]
      have upToSymbol : (listed ++ symbol) ++ rest =
          first ++ '\x7d' :: (second ++ '\x7d' :: tail) := by
        simpa using (List.cons.inj same).2
      obtain ⟨later, rfl, rest'⟩ := behind_of_not_mem inSymbol upToSymbol
      have inFront : front ++ extended = (before ++ ("import".toList ++ (gap ++ '\x7b' ::
          ((listed ++ symbol) ++ later)))) ++ '\x7d' :: second := by
        rw [upTo]
        simp
      obtain ⟨between, ahead, -⟩ := ahead_of_not_mem closed inFront
      have stop := lists.stop
      rw [rest'] at stop
      refine absurd ?_ (inOld before gap listed
        (later ++ '\x7d' :: (between ++ (names ++ '\x7d' :: tail)))
        some { lists with stop := stop.swap (fresh_cons.mpr (by decide)), closed := by simp })
      rw [ahead]
      simp
    · exact ⟨before, gap, more, by rw [upTo]; simp, lists.keyword, ⟨some, lists.gap⟩, complete⟩

/-! ## The next call -/

theorem Cramped.before_ne_nil {edit : ImportEdit} (cramped : Cramped edit) : edit.before ≠ [] := by
  intro none
  obtain ⟨rest, shape⟩ := cramped
  rw [none] at shape
  simp [Text.trimStart] at shape

theorem Merged.upTo_of_cramped {needed : Prerequisite} {lines : List Text} {edit : ImportEdit}
    {gap : Text} (isName : Identifier needed.symbol.toList)
    (merged : Merged needed lines edit front gap names extended tail) (cramped : Cramped edit) :
    upToBrace lines edit = (front ++ ("import".toList ++ (gap ++ ['\x7b']))) ++ extended := by
  have closed := merged.widened.closed isName.listable merged.parts.closed
  rw [merged.upTo cramped.before_ne_nil closed]
  simp

/-- The import that an edit adds is found by the next call, unless the edited import has no blank
between keyword and brace and none is left open in front of the symbol. -/
theorem ensure?_content_eq_none_iff {needed : Prerequisite} {content : Text} {edit : ImportEdit}
    (isName : Identifier needed.symbol.toList) (found : needed.ensure? content = some edit) :
    needed.ensure? edit.content = none ↔
      (Cramped edit → LeftOpen (upToBrace (Text.pieces content) edit)) := by
  have clean : Clean (Text.pieces content) := fun _ => Text.not_mem_of_mem_pieces
  have absent := not_occurs_of_ensure? found
  rcases (edit_of_ensure? found).isMerge_or clean with
    ⟨front, gap, names, extended, tail, merged⟩ | ⟨index, rfl, -⟩
  · have upTo := merged.upTo_of_cramped isName
    have closed := merged.widened.closed isName.listable merged.parts.closed
    have old : content =
        (front ++ ("import".toList ++ (gap ++ ['\x7b']))) ++ (names ++ '\x7d' :: tail) := by
      rw [← Text.unpieces_pieces content, merged.old]
      simp [importText]
    have new : edit.content =
        (front ++ ("import".toList ++ (gap ++ ['\x7b']))) ++ (extended ++ '\x7d' :: tail) := by
      rw [merged.new]
      simp [importText]
    have spaced : gap ≠ [] → LeftOpen
        ((front ++ ("import".toList ++ (gap ++ ['\x7b']))) ++ extended) := by
      intro some
      obtain ⟨above, indent, rfl, blank⟩ := merged.parts.start
      exact ⟨_, gap, extended, by simp, clear_indented above blank,
        ⟨some, merged.parts.gap⟩, closed⟩
    generalize front ++ ("import".toList ++ (gap ++ ['\x7b'])) = ahead at upTo old new spaced
    have used : Used needed.symbol.toList edit.content := by
      obtain ⟨lead, after, rfl, some, clear, some', fresh, -⟩ := merged.widened.listed isName
      refine ⟨ahead ++ lead, after ++ '\x7d' :: tail, ?_, (Clear.append some clear).fresh,
        fresh_append some' fresh _⟩
      rw [new]
      simp
    rw [old] at absent
    rw [ensure?_eq_none_iff isName used, new]
    constructor
    · intro occurs cramped
      rw [upTo cramped]
      exact leftOpen_of_occurs isName closed absent occurs
    · intro isOpen
      apply occurs_of_leftOpen isName merged.widened
      by_cases none : gap = []
      · have cramped := merged.cramped none
        rw [← upTo cramped]
        exact isOpen cramped
      · exact spaced none
  · refine iff_of_true (ensure?_of_occurs ?_) fun cramped => absurd rfl cramped.before_ne_nil
    obtain ⟨rest, lists, shape⟩ := lists_statement needed ((Text.pieces content).take index)
      ((Text.pieces content).drop index)
    exact (occurs_importOf_iff isName).mpr ⟨_, [' '], [' '], rest, by decide, lists, shape⟩

def crampedImport : Text :=
  "import\x7b Logger \x7d from '@nestjs/common';\nthrow new NotFoundException('x');".toList

theorem ensure?_content_of_crampedImport :
    Identifier notFound.symbol.toList ∧
      ∃ edit, notFound.ensure? crampedImport = some edit ∧ Cramped edit ∧
        (∃ again, notFound.ensure? edit.content = some again ∧ again.after =
    "import\x7b Logger, NotFoundException, NotFoundException \x7d from '@nestjs/common';".toList) ∧
        (notFound.ensure? edit.content = none ↔
          (Cramped edit → LeftOpen (upToBrace (Text.pieces crampedImport) edit))) := by
  have isName : Identifier notFound.symbol.toList := by decide
  have found : ∃ edit, notFound.ensure? crampedImport = some edit ∧
      Text.trimStart edit.before =
        "import\x7b".toList ++ " Logger \x7d from '@nestjs/common';".toList ∧
      ∃ again, notFound.ensure? edit.content = some again ∧
        again.after =
    "import\x7b Logger, NotFoundException, NotFoundException \x7d from '@nestjs/common';".toList :=
    by decide +kernel
  obtain ⟨edit, found, cramped, again⟩ := found
  exact ⟨isName, edit, found, ⟨_, cramped⟩, again, ensure?_content_eq_none_iff isName found⟩

end Compliance
