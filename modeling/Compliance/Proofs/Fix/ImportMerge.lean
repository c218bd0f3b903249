import Compliance.Proofs.Fix.ImportEntries

/-!
# Merging into an import

An edit that adds to an import changes nothing but the text between its braces, on whichever
lines that stands.
-/

namespace Compliance

open Prerequisite

/-- An import with what is around it: the text in front of the keyword, between keyword and brace,
between the braces, and behind them. -/
def importText (front gap names tail : Text) : Text :=
  front ++ ("import".toList ++ (gap ++ '\x7b' :: (names ++ '\x7d' :: tail)))

structure ImportParts (module front gap names tail : Text) : Prop where
  start : ∃ lines indent, front = Text.above lines ++ indent ∧ Blank indent
  gap : ImportGap gap
  closed : '\x7d' ∉ names
  source : FromModule module tail

def EndsInComma (line : Text) : Prop := (Text.trimEnd line).endsWith ",".toList = true

inductive Extends (symbol : Text) : Text → Text → Prop
  | line {names : Text} (one : '\n' ∉ names) :
      Extends symbol names (' ' :: (extendNames symbol (Text.trim names) ++ [' ']))
  | closing (upper : Text) {last : Text} (one : '\n' ∉ last) (holds : ¬ Blank last) :
      Extends symbol (upper ++ '\n' :: last)
        (upper ++ '\n' :: (dropCommas (Text.trimEnd last) ++ ',' :: ' ' :: (symbol ++ [' '])))
  | entry {upper indent last : Text} (blankIndent : Blank indent) (blank : Blank last)
      (settled : '\n' ∈ upper → ∃ above line, upper = above ++ '\n' :: line ∧
        (Blank line ∨ EndsInComma line)) :
      Extends symbol (upper ++ '\n' :: last)
        (upper ++ '\n' :: (indent ++ (symbol ++ ',' :: '\n' :: last)))
  | comma (upper : Text) {line indent last : Text} (blankIndent : Blank indent) (blank : Blank last)
      (holds : ¬ Blank line) (lacks : ¬ EndsInComma line) :
      Extends symbol (upper ++ '\n' :: (line ++ '\n' :: last))
        (upper ++ '\n' :: (Text.trimEnd line ++ ',' :: '\n' ::
          (indent ++ (symbol ++ ',' :: '\n' :: last))))

/-- The line that is replaced has no blank between keyword and brace. -/
def Cramped (edit : ImportEdit) : Prop :=
  ∃ rest, Text.trimStart edit.before = "import\x7b".toList ++ rest

/-- The new text up to the first closing brace on the line that is new; the lines above it are
old. -/
def upToBrace (lines : List Text) (edit : ImportEdit) : Text :=
  Text.above (lines.take (edit.line - 1)) ++ edit.after.takeWhile (· ≠ '\x7d')

/-- The edit adds the symbol to an import with these parts. -/
structure Merged (needed : Prerequisite) (lines : List Text) (edit : ImportEdit)
    (front gap names extended tail : Text) : Prop where
  parts : ImportParts needed.module.toList front gap names tail
  old : Text.unpieces lines = importText front gap names tail
  new : edit.content = importText front gap extended tail
  widened : Extends needed.symbol.toList names extended
  flat : '\n' ∉ names → Blank gap
  cramped : gap = [] → Cramped edit
  upTo : edit.before ≠ [] → '\x7d' ∉ extended →
    upToBrace lines edit = front ++ ("import".toList ++ (gap ++ '\x7b' :: extended))

def IsMerge (needed : Prerequisite) (lines : List Text) (edit : ImportEdit) : Prop :=
  ∃ front gap names extended tail, Merged needed lines edit front gap names extended tail

variable {front gap names tail line : Text} {lines earlier later inside : List Text}
  {needed : Prerequisite} {edit : ImportEdit} {start close : Nat}

theorem takeWhile_brace (closed : '\x7d' ∉ front) (tail : Text) :
    (front ++ '\x7d' :: tail).takeWhile (· ≠ '\x7d') = front := by
  rw [List.takeWhile_append_of_pos]
  · simp
  · intro c here
    have other : c ≠ '\x7d' := fun same => closed (same ▸ here)
    simpa using other

theorem around_of_getElem? {index : Nat} (here : lines[index]? = some line) :
    ∃ earlier later, lines = earlier ++ line :: later ∧ index = earlier.length := by
  obtain ⟨inside, rfl⟩ := List.getElem?_eq_some_iff.mp here
  refine ⟨lines.take index, lines.drop (index + 1), ?_, ?_⟩
  · rw [← List.drop_eq_getElem_cons inside, List.take_append_drop]
  · rw [List.length_take, Nat.min_eq_left (Nat.le_of_lt inside)]

theorem isMerge_oneLine {index : Nat} {head : Text} (clean : Clean lines)
    (here : lines[index]? = some (head ++ '\x7b' :: (names ++ '\x7d' :: tail)))
    (isHead : ImportHead Blank head) (closed : '\x7d' ∉ names)
    (source : FromModule needed.module.toList tail) :
    IsMerge needed lines (replaceLine lines index (head ++ '\x7b' :: (names ++ '\x7d' :: tail))
      (head ++ "\x7b ".toList ++ extendNames needed.symbol.toList (Text.trim names) ++
        " \x7d".toList ++ tail)) := by
  obtain ⟨indent, gap, rfl, blank, blankGap⟩ := isHead
  have one : '\n' ∉ names := fun there => clean _ (List.mem_of_getElem? here) (by simp [there])
  obtain ⟨earlier, later, rfl, rfl⟩ := around_of_getElem? here
  refine ⟨Text.above earlier ++ indent, gap, names,
    ' ' :: (extendNames needed.symbol.toList (Text.trim names) ++ [' ']),
    tail ++ Text.below later, ?_⟩
  constructor
  · exact ⟨⟨earlier, indent, rfl, blank⟩, .inl blankGap, closed, source.append _⟩
  · rw [Text.unpieces_append_cons]
    simp [importText]
  · simp only [replaceLine, List.set_append_right _ _ (Nat.le_refl _), Nat.sub_self,
      List.set_cons_zero, Text.unpieces_append_cons]
    simp [importText]
  · exact .line one
  · exact fun _ => blankGap
  · rintro rfl
    refine ⟨names ++ '\x7d' :: tail, ?_⟩
    have braced : "import\x7b".toList = "import".toList ++ ['\x7b'] := by decide
    rw [braced]
    simpa [replaceLine] using trimStart_keyword blank ('\x7b' :: (names ++ '\x7d' :: tail))
  · intro _ open'
    have outside : '\x7d' ∉ indent ++ ("import".toList ++ gap) ++ '\x7b' ::
        (' ' :: (extendNames needed.symbol.toList (Text.trim names) ++ [' '])) := by
      have inGap : '\x7d' ∉ gap := fun there => absurd (blankGap _ there) (by decide)
      have inIndent : '\x7d' ∉ indent := fun there => absurd (blank _ there) (by decide)
      simp only [List.mem_append, List.mem_cons, not_or] at open' ⊢
      exact ⟨⟨inIndent, by decide, inGap⟩, by decide, open'⟩
    have upTo := takeWhile_brace outside tail
    simp only [List.append_assoc, List.cons_append, List.nil_append] at upTo
    have opening : "\x7b ".toList = ['\x7b', ' '] := by decide
    have closing : " \x7d".toList = [' ', '\x7d'] := by decide
    simp only [upToBrace, replaceLine, Nat.add_sub_cancel, List.append_assoc,
      List.take_left, opening, closing, List.cons_append, List.nil_append, upTo]

/-! ## Over several lines -/

theorem Block.around (block : Block lines start close) (here : lines[close]? = some line) :
    ∃ earlier opening inside later, lines = (earlier ++ opening :: inside) ++ line :: later ∧
      start = earlier.length ∧ close = (earlier ++ opening :: inside).length ∧ Opens opening ∧
      ∀ line ∈ inside, '\x7d' ∉ line := by
  obtain ⟨earlier, opening, inside, other, later, rfl, rfl, rfl, opens, closed⟩ := block
  have shape : earlier ++ opening :: (inside ++ other :: later) =
      (earlier ++ opening :: inside) ++ other :: later := by simp
  have length : earlier.length + 1 + inside.length = (earlier ++ opening :: inside).length := by
    simp
    omega
  rw [shape, length, List.getElem?_append_right (Nat.le_refl _), Nat.sub_self] at here
  obtain rfl := Option.some.inj here
  exact ⟨earlier, opening, inside, later, shape, rfl, length, opens, closed⟩

theorem above_block (earlier : List Text) (indent gap opened : Text) (inside : List Text) :
    Text.above (earlier ++ (indent ++ ("import".toList ++ gap) ++ '\x7b' :: opened) :: inside) =
      (Text.above earlier ++ indent) ++ ("import".toList ++ (gap ++ '\x7b' ::
        (Text.unpieces (opened :: inside) ++ ['\n']))) := by
  have shape : Text.above ((indent ++ ("import".toList ++ gap) ++ '\x7b' :: opened) :: inside) =
      indent ++ ("import".toList ++ gap) ++ '\x7b' :: Text.above (opened :: inside) := by
    simp [Text.above]
  rw [Text.above_append, shape, Text.above_cons]
  simp

theorem isMerge_block {indent gap opened : Text} (extended : Text) (blank : Blank indent)
    (isGap : SpacedGap gap) (openedInside : '\x7d' ∉ opened)
    (outside : ∀ line ∈ inside, '\x7d' ∉ line) (closed : '\x7d' ∉ names)
    (source : FromModule needed.module.toList tail)
    (new : edit.content = importText (Text.above earlier ++ indent) gap extended
      (tail ++ Text.below later))
    (widened : Extends needed.symbol.toList
      (Text.unpieces (opened :: inside) ++ '\n' :: names) extended)
    (upTo : edit.before ≠ [] → edit.line - 1 =
        (earlier ++ (indent ++ ("import".toList ++ gap) ++ '\x7b' :: opened) :: inside).length ∧
      ∃ last, edit.after = last ++ '\x7d' :: tail ∧
        extended = Text.unpieces (opened :: inside) ++ '\n' :: last) :
    IsMerge needed
      ((earlier ++ (indent ++ ("import".toList ++ gap) ++ '\x7b' :: opened) :: inside) ++
        (names ++ '\x7d' :: tail) :: later) edit := by
  have insideNames : '\x7d' ∉ Text.unpieces (opened :: inside) := by
    rw [Text.unpieces_cons, Text.below]
    simp only [List.mem_append, List.mem_flatMap, List.mem_cons, not_or, not_exists, not_and]
    exact ⟨openedInside, fun line here => ⟨by decide, outside line here⟩⟩
  refine ⟨Text.above earlier ++ indent, gap, Text.unpieces (opened :: inside) ++ '\n' :: names,
    extended, tail ++ Text.below later, ?_⟩
  constructor
  · exact ⟨⟨earlier, indent, rfl, blank⟩, isGap.2, by simp [insideNames, closed], source.append _⟩
  · rw [Text.unpieces_append_cons, above_block]
    simp [importText]
  · exact new
  · exact widened
  · intro single
    simp at single
  · intro none
    exact absurd none isGap.1
  · intro some open'
    obtain ⟨place, last, after, rfl⟩ := upTo some
    have outside : '\x7d' ∉ last := fun here => open' (by simp [here])
    rw [upToBrace, after, place, List.take_left, takeWhile_brace outside, above_block]
    simp

theorem isMerge_closing (clean : Clean lines) (block : Block lines start close)
    (here : lines[close]? = some (names ++ '\x7d' :: tail)) (closed : '\x7d' ∉ names)
    (source : FromModule needed.module.toList tail) (holds : ¬ Blank names) :
    IsMerge needed lines (replaceLine lines close (names ++ '\x7d' :: tail)
      (dropCommas (Text.trimEnd names) ++ ',' :: ' ' :: needed.symbol.toList ++ " \x7d".toList ++
        tail)) := by
  have one : '\n' ∉ names := fun there => clean _ (List.mem_of_getElem? here) (by simp [there])
  obtain ⟨earlier, opening, inside, later, rfl, rfl, rfl, opens, outside⟩ := block.around here
  obtain ⟨_, opened, rfl, ⟨indent, gap, rfl, blank, isGap⟩, openedInside⟩ := opens
  refine isMerge_block _ blank isGap openedInside outside closed source ?_ (.closing _ one holds)
    fun _ =>
      ⟨rfl, dropCommas (Text.trimEnd names) ++ ',' :: ' ' :: (needed.symbol.toList ++ [' ']),
        ?_, rfl⟩
  · simp only [replaceLine, List.set_append_right _ _ (Nat.le_refl _), Nat.sub_self,
      List.set_cons_zero, Text.unpieces_append_cons, above_block]
    simp [importText]
  · simp [replaceLine]

theorem content_insertLine {upper lower : List Text} {index : Nat} (here : index = upper.length)
    (new : Text) :
    (insertLine (upper ++ lower) index new).content = Text.unpieces (upper ++ new :: lower) := by
  subst here
  simp [insertLine]

theorem lacksComma_concat_iff (opening entry last : Text) :
    LacksComma ((earlier ++ opening :: (inside ++ [entry])) ++ last :: later) earlier.length
        (earlier ++ opening :: (inside ++ [entry])).length ↔ ¬ Blank entry ∧
          ¬ EndsInComma entry := by
  simp [LacksComma, EndsInComma]

theorem isMerge_entry (clean : Clean lines) (block : Block lines start close)
    (here : lines[close]? = some (names ++ '\x7d' :: tail)) (blank : Blank names)
    (source : FromModule needed.module.toList tail) :
    IsMerge needed lines (needed.addEntry lines start close) := by
  obtain ⟨margin, blankMargin, -, cases⟩ := needed.addEntry_cases clean start close
  obtain ⟨earlier, opening, inside, later, rfl, rfl, rfl, opens, outside⟩ := block.around here
  obtain ⟨_, opened, rfl, ⟨indent, gap, rfl, blankIndent, isGap⟩, openedInside⟩ := opens
  have closed : '\x7d' ∉ names := fun there => absurd (blank _ there) (by decide)
  have oneLine : '\n' ∉ opened := by
    have := clean (indent ++ ("import".toList ++ gap) ++ '\x7b' :: opened) (by simp)
    simp only [List.mem_append, List.mem_cons, not_or] at this
    exact this.2.2
  rcases cases with ⟨complete, shape⟩ | ⟨entry, above, lacks, shape⟩
  · refine isMerge_block
      (Text.unpieces (opened :: inside) ++
        '\n' :: (margin ++ (needed.symbol.toList ++ ',' :: '\n' :: names)))
      blankIndent isGap openedInside outside closed source ?_
      (.entry blankMargin blank fun several => ?_) ?_
    · rw [shape, content_insertLine rfl, Text.unpieces_append_cons, above_block]
      simp [importText, Text.below]
    · rcases List.eq_nil_or_concat' inside with rfl | ⟨init, entry, rfl⟩
      · exact absurd several oneLine
      · refine ⟨Text.unpieces (opened :: init), entry, Text.unpieces_concat .., ?_⟩
        rw [lacksComma_concat_iff, not_and_or, not_not, not_not] at complete
        exact complete
    · rw [shape]
      exact fun some => absurd rfl some
  · rcases List.eq_nil_or_concat' inside with rfl | ⟨init, other, rfl⟩
    · have level := lacks.1
      simp at level
    · obtain ⟨holds, noComma⟩ := (lacksComma_concat_iff ..).mp lacks
      obtain rfl : other = entry := by simpa using above
      have widened := @Extends.comma needed.symbol.toList (Text.unpieces (opened :: init))
          other margin names blankMargin blank holds noComma
      rw [← List.cons_append, ← List.append_assoc, ← Text.unpieces_concat] at widened
      refine isMerge_block _ blankIndent isGap openedInside outside closed source ?_ widened ?_
      · have replaced : ((earlier ++ (indent ++ ("import".toList ++ gap) ++ '\x7b' :: opened) ::
            (init ++ [other])) ++ (names ++ '\x7d' :: tail) :: later).set
              ((earlier ++ (indent ++ ("import".toList ++ gap) ++ '\x7b' :: opened) ::
                (init ++ [other])).length - 1) (Text.trimEnd other ++ [',']) =
            (earlier ++ (indent ++ ("import".toList ++ gap) ++ '\x7b' :: opened) ::
              (init ++ [Text.trimEnd other ++ [',']])) ++ (names ++ '\x7d' :: tail) :: later := by
          simp
        rw [shape, replaced, content_insertLine (by simp), Text.unpieces_append_cons, above_block,
          Text.unpieces_concat]
        simp [importText, Text.below]
      · rw [shape]
        exact fun some => absurd rfl some

theorem Prerequisite.Edit.isMerge_or (isEdit : needed.Edit lines edit) (clean : Clean lines) :
    IsMerge needed lines edit ∨ ∃ index, edit = insertLine lines index needed.statement ∧
      needed.mergeLine? lines = none ∧ needed.mergeBlock? lines = none := by
  cases isEdit with
  | oneLine here isHead closed source =>
      exact .inl (isMerge_oneLine clean here isHead closed source)
  | closing here block closed source holds =>
      exact .inl (isMerge_closing clean block here closed source holds)
  | entry here block blank source => exact .inl (isMerge_entry clean block here blank source)
  | statement index place noLine noBlock => exact .inr ⟨index, rfl, noLine, noBlock⟩

end Compliance
