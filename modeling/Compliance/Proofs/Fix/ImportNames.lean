import Mathlib.Data.List.Induction
import Compliance.Proofs.Fix.ImportMerge

/-!
# The names of an import

The text between the braces of an import lists names: what stands between commas, without the
blanks around it.  A comma may follow the last name.  An edit that merges a symbol into an import
appends it to this list, unless it overlooks that the last name has no comma.
-/

namespace Compliance

open Prerequisite

variable {text front first rest blanks names extended symbol : Text} {c : Char}

def entries (text : Text) : List Text := (text.splitOn ',').map Text.trim

/-- The names that the text between braces lists; a comma may follow the last one. -/
def namesIn (text : Text) : List Text :=
  if (entries text).getLast? = some [] then (entries text).dropLast else entries text

example : namesIn " Injectable,\n  Logger,\n".toList = ["Injectable".toList, "Logger".toList] := by
  decide

theorem entries_append (first rest : Text) :
    entries (first ++ ',' :: rest) = entries first ++ entries rest := by
  rw [entries, List.splitOn_append_cons_self, List.map_append]
  rfl

theorem entries_of_lone (lone : ',' ∉ text) : entries text = [Text.trim text] := by
  rw [entries, List.splitOn_eq_singleton lone]
  rfl

theorem entries_ne_nil (text : Text) : entries text ≠ [] := by
  simp [entries, List.splitOn_ne_nil]

theorem comma_not_mem (blank : Blank blanks) : ',' ∉ blanks := fun here =>
  absurd (blank _ here) (by decide)

theorem entries_blank_append (blank : Blank blanks) (text : Text) :
    entries (blanks ++ text) = entries text := by
  by_cases several : ',' ∈ text
  · obtain ⟨first, rest, rfl, lone⟩ := List.eq_append_cons_of_mem several
    have lone' : ',' ∉ blanks ++ first := by simp [comma_not_mem blank, lone]
    rw [← List.append_assoc, entries_append, entries_append, entries_of_lone lone',
      entries_of_lone lone, trim_blank_append blank]
  · have lone' : ',' ∉ blanks ++ text := by simp [comma_not_mem blank, several]
    rw [entries_of_lone lone', entries_of_lone several, trim_blank_append blank]

theorem lone_or_last (text : Text) :
    ',' ∉ text ∨ ∃ first rest, text = first ++ ',' :: rest ∧ ',' ∉ rest := by
  by_cases several : ',' ∈ text.reverse
  · obtain ⟨rest, first, shape, lone⟩ := List.eq_append_cons_of_mem several
    refine .inr ⟨first.reverse, rest.reverse, ?_, by simpa using lone⟩
    have reversed := congrArg List.reverse shape
    simpa using reversed
  · exact .inl (by simpa using several)

theorem namesIn_append (first rest : Text) :
    namesIn (first ++ ',' :: rest) = entries first ++ namesIn rest := by
  have last : (entries first ++ entries rest).getLast? = (entries rest).getLast? := by
    rw [List.getLast?_append_of_ne_nil _ (entries_ne_nil rest)]
  rw [namesIn, entries_append, last, namesIn]
  split
  · rw [List.dropLast_append_of_ne_nil (entries_ne_nil rest)]
  · rfl

theorem namesIn_blank (blank : Blank blanks) : namesIn blanks = [] := by
  have single : entries blanks = [[]] := by
    rw [entries_of_lone (comma_not_mem blank), trim_eq_nil_iff.mpr blank]
  rw [namesIn, single]
  rfl

theorem namesIn_of_visible (front : Text) (visible : isBlank c = false) (other : c ≠ ',')
    (blank : Blank blanks) : namesIn (front ++ c :: blanks) = entries (front ++ [c]) := by
  have lastName {front : Text} (lone : ',' ∉ front) :
      namesIn (front ++ c :: blanks) = entries (front ++ [c]) := by
    have lone' : ',' ∉ front ++ [c] := by simp [lone, other.symm]
    have shape : front ++ c :: blanks = (front ++ [c]) ++ blanks := by simp
    have single : entries (front ++ c :: blanks) = entries (front ++ [c]) := by
      have lone'' : ',' ∉ front ++ c :: blanks := by simp [lone, other.symm, comma_not_mem blank]
      rw [entries_of_lone lone'', entries_of_lone lone', shape, trim_append_blank _ blank]
    have holds : Text.trim (front ++ [c]) ≠ [] := by
      intro none
      have := trim_eq_nil_iff.mp none c (by simp)
      simp [visible] at this
    rw [namesIn, single, entries_of_lone lone']
    simp [holds]
  rcases lone_or_last front with lone | ⟨first, rest, rfl, lone⟩
  · exact lastName lone
  · rw [List.append_assoc, List.cons_append, namesIn_append, lastName lone, ← entries_append,
      ← List.cons_append, ← List.append_assoc]

structure Listable (name : Text) : Prop where
  nonempty : name ≠ []
  plain : ∀ c ∈ name, isBlank c = false ∧ c ≠ ',' ∧ c ≠ '\x7d'

theorem Identifier.listable (isName : Identifier symbol) : Listable symbol where
  nonempty := isName.1
  plain := by
    intro c here
    obtain ⟨-, visible, other⟩ := isWord_of_isAsciiWord (isName.2 c here)
    refine ⟨visible, other, ?_⟩
    rintro rfl
    exact absurd (isName.2 _ here) (by decide)

theorem Listable.trim_eq (isName : Listable symbol) : Text.trim symbol = symbol :=
  trim_of_visible fun c here => (isName.plain c here).1

theorem Listable.entries_eq (isName : Listable symbol) {lead : Text} (blank : Blank lead) :
    entries (lead ++ symbol) = [symbol] := by
  have lone : ',' ∉ symbol := fun here => (isName.plain _ here).2.1 rfl
  rw [entries_blank_append blank, entries_of_lone lone, isName.trim_eq]

theorem Listable.namesIn_eq (isName : Listable symbol) {lead follow : Text} (blank : Blank lead)
    (ends : Blank follow ∨ ∃ blanks, follow = ',' :: blanks ∧ Blank blanks) :
    namesIn (lead ++ (symbol ++ follow)) = [symbol] := by
  have single := isName.entries_eq blank
  rcases ends with blank' | ⟨blanks, rfl, blank'⟩
  · obtain ⟨init, last, rfl⟩ := (List.eq_nil_or_concat' symbol).resolve_left isName.nonempty
    have visible := isName.plain last (by simp)
    have shape : lead ++ ((init ++ [last]) ++ follow) = (lead ++ init) ++ last :: follow := by simp
    rw [shape, namesIn_of_visible _ visible.1 visible.2.1 blank', List.append_assoc, single]
  · rw [← List.append_assoc, namesIn_append, single, namesIn_blank blank']
    rfl

/-! ## The symbol at the end -/

/-- The last name has no comma behind it, and the closing brace stands alone on its line, with
nothing but the opening line or blank lines directly above it. -/
def Unended (names : Text) : Prop :=
  ∃ front c blanks, names = front ++ c :: blanks ∧ isBlank c = false ∧ c ≠ ',' ∧ Blank blanks ∧
    ('\n' ∈ blanks ∧ '\n' ∉ front ∨ 2 ≤ blanks.count '\n')

theorem eq_of_last_visible {d : Char} (shape : front ++ c :: blanks = first ++ d :: rest)
    (visible : isBlank c = false) (visible' : isBlank d = false) (blank : Blank blanks)
    (blank' : Blank rest) : c = d ∧ blanks = rest := by
  have trimmed := congrArg Text.trimEnd shape
  rw [trimEnd_of_visible _ visible blank, trimEnd_of_visible _ visible' blank'] at trimmed
  obtain ⟨rfl, same⟩ := List.append_inj' trimmed rfl
  exact ⟨List.singleton_inj.mp same, (List.cons.inj (List.append_cancel_left shape)).2⟩

theorem exists_of_endsInComma {line : Text} (ends : EndsInComma line) :
    ∃ front blanks, line = front ++ ',' :: blanks ∧ Blank blanks := by
  obtain ⟨blanks, shape, blank⟩ := trimEnd_append line
  obtain ⟨front, trimmed⟩ := List.isSuffixOf_iff_suffix.mp ends
  have comma : ",".toList = [','] := by decide
  rw [← trimmed, comma] at shape
  exact ⟨front, blanks, by simpa using shape, blank⟩

theorem trim_of_last_visible (front : Text) (visible : isBlank c = false) (blank : Blank blanks) :
    ∃ indent core, front = indent ++ core ∧ Blank indent ∧
      Text.trim (front ++ c :: blanks) = core ++ [c] := by
  refine ⟨front.takeWhile isBlank, front.dropWhile isBlank, ?_, ?_, ?_⟩
  · rw [List.takeWhile_append_dropWhile]
  · exact fun c here => List.mem_takeWhile_imp here
  · have start : Text.trimStart (front ++ [c]) = front.dropWhile isBlank ++ [c] := by
      rw [Text.trimStart, List.dropWhile_append]
      split
      · next empty => simp [List.isEmpty_iff.mp empty, visible]
      · rfl
    have shape : front ++ c :: blanks = (front ++ [c]) ++ blanks := by simp
    rw [shape, trim_append_blank _ blank, Text.trim, start]
    exact trimEnd_of_visible _ visible (by simp [Blank])

theorem blank_space : Blank [' '] := by
  intro c here
  obtain rfl := List.mem_singleton.mp here
  decide

theorem namesIn_extendNames (isName : Listable symbol) (names : Text) :
    namesIn (' ' :: (extendNames symbol (Text.trim names) ++ [' '])) =
      namesIn names ++ [symbol] := by
  have listed := isName.namesIn_eq blank_space (.inl blank_space)
  by_cases none : Blank names
  · rw [trim_eq_nil_iff.mpr none, namesIn_blank none]
    exact listed
  · obtain ⟨front, c, blanks, rfl, visible, blank⟩ := exists_last_visible none
    obtain ⟨indent, core, rfl, blankIndent, trimmed⟩ := trim_of_last_visible front visible blank
    have nonempty : (core ++ [c]).isEmpty = false := by simp
    have comma : ",".toList = [','] := by decide
    rw [trimmed, extendNames, nonempty, comma]
    by_cases ends : c = ','
    · subst ends
      have shape : ' ' :: ((core ++ [',']) ++ ' ' :: symbol ++ [' ']) =
          ([' '] ++ core) ++ ',' :: ([' '] ++ (symbol ++ [' '])) := by simp
      have ended : (core ++ [',']).endsWith [','] = true := by simp [Text.endsWith]
      rw [if_neg (by decide), if_pos ended, shape, namesIn_append, namesIn_append, listed,
        namesIn_blank blank, entries_blank_append blank_space, entries_blank_append blankIndent,
        List.append_nil]
    · have shape : ' ' :: ((core ++ [c]) ++ ',' :: ' ' :: symbol ++ [' ']) =
          ([' '] ++ (core ++ [c])) ++ ',' :: ([' '] ++ (symbol ++ [' '])) := by simp
      have open' : ¬ (core ++ [c]).endsWith [','] = true := by
        simp [Text.endsWith, Ne.symm ends]
      rw [if_neg (by decide), if_neg open', shape, namesIn_append, listed,
        namesIn_of_visible _ visible ends blank, entries_blank_append blank_space,
        List.append_assoc, entries_blank_append blankIndent]

theorem namesIn_closing (isName : Listable symbol) {upper last : Text} (holds : ¬ Blank last)
    (named : [] ∉ namesIn (upper ++ '\n' :: last)) :
    namesIn (upper ++ '\n' :: (dropCommas (Text.trimEnd last) ++ ',' :: ' ' :: (symbol ++ [' ']))) =
      namesIn (upper ++ '\n' :: last) ++ [symbol] := by
  have listed := isName.namesIn_eq blank_space (.inl blank_space)
  obtain ⟨front, c, blanks, rfl, visible, blank⟩ := exists_last_visible holds
  rw [trimEnd_of_visible _ visible blank]
  have split (core : Text) : upper ++ '\n' :: (core ++ ',' :: ' ' :: (symbol ++ [' '])) =
      (upper ++ '\n' :: core) ++ ',' :: ([' '] ++ (symbol ++ [' '])) := by simp
  rw [split, namesIn_append, listed]
  congr 1
  by_cases ends : c = ','
  · subst ends
    have shape : upper ++ '\n' :: (front ++ ',' :: blanks) =
        (upper ++ '\n' :: front) ++ ',' :: blanks := by
      simp
    rw [shape, namesIn_append, namesIn_blank blank, List.append_nil] at named ⊢
    rcases List.eq_nil_or_concat' front with rfl | ⟨init, last, rfl⟩
    · rfl
    · by_cases again : last = ','
      · subst again
        have doubled : upper ++ '\n' :: (init ++ [',']) = (upper ++ '\n' :: init) ++ ',' :: [] := by
          simp
        rw [doubled, entries_append] at named
        exact absurd (List.mem_append_right _ (by decide)) named
      · simp [dropCommas, again]
  · have kept : dropCommas (front ++ [c]) = front ++ [c] := by simp [dropCommas, ends]
    have shape : upper ++ '\n' :: (front ++ c :: blanks) =
        (upper ++ '\n' :: front) ++ c :: blanks := by
      simp
    rw [kept, shape, namesIn_of_visible _ visible ends blank]
    simp

theorem namesIn_entry (isName : Listable symbol) {upper indent last : Text}
    (blankIndent : Blank indent)
    (blank : Blank last) (settled : '\n' ∈ upper → ∃ above line, upper = above ++ '\n' :: line ∧
      (Blank line ∨ EndsInComma line)) (ended : ¬ Unended (upper ++ '\n' :: last)) :
    namesIn (upper ++ '\n' :: (indent ++ (symbol ++ ',' :: '\n' :: last))) =
      namesIn (upper ++ '\n' :: last) ++ [symbol] := by
  have listed {lead : Text} (blankLead : Blank lead) :
      namesIn (lead ++ '\n' :: (indent ++ (symbol ++ ',' :: '\n' :: last))) = [symbol] := by
    have shape : lead ++ '\n' :: (indent ++ (symbol ++ ',' :: '\n' :: last)) =
        (lead ++ '\n' :: indent) ++ (symbol ++ ',' :: '\n' :: last) := by simp
    rw [shape]
    exact isName.namesIn_eq (blankLead.append blankIndent.newline) (.inr ⟨_, rfl, blank.newline⟩)
  by_cases none : Blank upper
  · rw [listed none, namesIn_blank (none.append blank.newline)]
    rfl
  obtain ⟨front, c, blanks, rfl, visible, blanks'⟩ := exists_last_visible none
  by_cases ends : c = ','
  · subst ends
    rw [List.append_assoc, List.append_assoc, List.cons_append, List.cons_append, namesIn_append,
      namesIn_append, listed blanks', namesIn_blank (blanks'.append blank.newline), List.append_nil]
  · refine absurd ⟨front, c, blanks ++ '\n' :: last, by simp, visible, ends,
      blanks'.append blank.newline, ?_⟩ ended
    by_cases several : '\n' ∈ front ++ c :: blanks
    · right
      obtain ⟨above, line, shape, blankLine | comma⟩ := settled several
      · have holds : ¬ Blank above := fun blankAbove =>
          none (shape ▸ blankAbove.append blankLine.newline)
        obtain ⟨first, d, between, rfl, visible', blank'⟩ := exists_last_visible holds
        rw [List.append_assoc, List.cons_append] at shape
        obtain ⟨-, rfl⟩ := eq_of_last_visible shape visible visible' blanks'
          (blank'.append blankLine.newline)
        simp only [List.count_append, List.count_cons_self]
        omega
      · obtain ⟨first, between, rfl, blank'⟩ := exists_of_endsInComma comma
        rw [← List.cons_append, ← List.append_assoc] at shape
        exact absurd (eq_of_last_visible shape visible (by decide) blanks' blank').1 ends
    · left
      refine ⟨by simp, fun here => several (by simp [here])⟩

theorem namesIn_comma (isName : Listable symbol) {upper line indent last : Text}
    (blankIndent : Blank indent) (blank : Blank last) (holds : ¬ Blank line)
    (lacks : ¬ EndsInComma line) :
    namesIn (upper ++ '\n' :: (Text.trimEnd line ++ ',' :: '\n' ::
        (indent ++ (symbol ++ ',' :: '\n' :: last)))) =
      namesIn (upper ++ '\n' :: (line ++ '\n' :: last)) ++ [symbol] := by
  obtain ⟨front, c, blanks, rfl, visible, blanks'⟩ := exists_last_visible holds
  have comma : ",".toList = [','] := by decide
  rw [EndsInComma, trimEnd_of_visible _ visible blanks', comma] at lacks
  have ends : c ≠ ',' := by
    rintro rfl
    exact lacks (by simp [Text.endsWith])
  have listed := isName.namesIn_eq blankIndent.newline (.inr ⟨_, rfl, blank.newline⟩)
  have old : upper ++ '\n' :: ((front ++ c :: blanks) ++ '\n' :: last) =
      (upper ++ '\n' :: front) ++ c :: (blanks ++ '\n' :: last) := by simp
  have new : upper ++ '\n' :: ((front ++ [c]) ++ ',' :: '\n' ::
      (indent ++ (symbol ++ ',' :: '\n' :: last))) = ((upper ++ '\n' :: front) ++ [c]) ++
        ',' :: ('\n' :: indent ++ (symbol ++ ',' :: '\n' :: last)) := by simp
  rw [trimEnd_of_visible _ visible blanks', old, new, namesIn_append, listed,
    namesIn_of_visible _ visible ends (blanks'.append blank.newline)]

theorem Extends.namesIn_eq (isName : Listable symbol) (widened : Extends symbol names extended)
    (named : [] ∉ namesIn names) (ended : ¬ Unended names) :
    namesIn extended = namesIn names ++ [symbol] := by
  cases widened with
  | line => exact namesIn_extendNames isName names
  | closing upper one holds => exact namesIn_closing isName holds named
  | entry blankIndent blank settled => exact namesIn_entry isName blankIndent blank settled ended
  | comma upper blankIndent blank holds lacks =>
      exact namesIn_comma isName blankIndent blank holds lacks

theorem Extends.closed (isName : Listable symbol) (widened : Extends symbol names extended)
    (closed : '\x7d' ∉ names) : '\x7d' ∉ extended := by
  have inSymbol : '\x7d' ∉ symbol := fun here => (isName.plain _ here).2.2 rfl
  have outside {blanks : Text} (blank : Blank blanks) : '\x7d' ∉ blanks := fun here =>
    absurd (blank _ here) (by decide)
  cases widened with
  | line =>
      have inNames : '\x7d' ∉ extendNames symbol (Text.trim names) := by
        intro here
        rcases mem_extendNames here with here | here | here | here
        · exact closed (mem_trim here)
        · exact inSymbol here
        · exact absurd here (by decide)
        · exact absurd here (by decide)
      simp [inNames]
  | @closing upper last one holds =>
      simp only [List.mem_append, List.mem_cons, not_or] at closed
      have inLast : '\x7d' ∉ dropCommas (Text.trimEnd last) := fun here =>
        closed.2.2 (mem_trimEnd (mem_dropCommas here))
      simp [closed.1, inLast, inSymbol]
  | entry blankIndent blank settled =>
      simp only [List.mem_append, List.mem_cons, not_or] at closed
      simp [closed.1, outside blankIndent, inSymbol, outside blank]
  | @comma upper line indent last blankIndent blank holds lacks =>
      simp only [List.mem_append, List.mem_cons, not_or] at closed
      have inLine : '\x7d' ∉ Text.trimEnd line := fun here => closed.2.2.1 (mem_trimEnd here)
      simp [closed.1, inLine, outside blankIndent, inSymbol, outside blank]

/-! ## The list after an edit -/

/-- Merging touches one import, and what it adds to the names there is the symbol, at the end.
An import on one line is not a type-only one. -/
theorem namesIn_of_ensure? {needed : Prerequisite} {content : Text} {edit : ImportEdit}
    (isName : Listable needed.symbol.toList) (found : needed.ensure? content = some edit)
    (merges : edit.before = [] → edit.after ≠ needed.statement) :
    ∃ front gap names extended tail,
      ImportParts needed.module.toList front gap names tail ∧
      content = importText front gap names tail ∧
      ImportParts needed.module.toList front gap extended tail ∧
      edit.content = importText front gap extended tail ∧ ('\n' ∉ names → Blank gap) ∧
      ([] ∉ namesIn names → ¬ Unended names →
        namesIn extended = namesIn names ++ [needed.symbol.toList]) := by
  have clean : Clean (Text.pieces content) := fun _ => Text.not_mem_of_mem_pieces
  rcases (edit_of_ensure? found).isMerge_or clean with
    ⟨front, gap, names, extended, tail, merged⟩ | ⟨index, rfl, -⟩
  · have closed := merged.widened.closed isName merged.parts.closed
    have whole : content = importText front gap names tail :=
      (Text.unpieces_pieces content).symm.trans merged.old
    exact ⟨front, gap, names, extended, tail, merged.parts, whole, { merged.parts with closed },
      merged.new, merged.flat, fun named ended => merged.widened.namesIn_eq isName named ended⟩
  · exact absurd rfl (merges rfl)

def nestTail : Text := " from '@nestjs/common';\nthrow new NotFoundException('x');".toList

theorem namesIn_of_unendedImport :
    Listable notFound.symbol.toList ∧
      ∃ edit, notFound.ensure?
        (importText [] [' '] "\n  Injectable,\n  Logger\n".toList nestTail) = some edit ∧
        (edit.before = [] → edit.after ≠ notFound.statement) ∧
        ∃ front gap names extended tail,
          ImportParts notFound.module.toList front gap names tail ∧
          importText [] [' '] "\n  Injectable,\n  Logger\n".toList nestTail =
            importText front gap names tail ∧
          ImportParts notFound.module.toList front gap extended tail ∧
          edit.content = importText front gap extended tail ∧ ('\n' ∉ names → Blank gap) ∧
          ([] ∉ namesIn names → ¬ Unended names →
            namesIn extended = namesIn names ++ [notFound.symbol.toList]) := by
  have isName : Listable notFound.symbol.toList := Identifier.listable (by decide)
  have found : ∃ edit, notFound.ensure?
      (importText [] [' '] "\n  Injectable,\n  Logger\n".toList nestTail) = some edit ∧
        (edit.before = [] → edit.after ≠ notFound.statement) := by
    decide +kernel
  obtain ⟨edit, found, merges⟩ := found
  exact ⟨isName, edit, found, merges, namesIn_of_ensure? isName found merges⟩

theorem namesIn_of_overlookedEnds :
    (∃ edit, notFound.ensure? (importText [] " type ".toList "\n  Logger,\n".toList nestTail) =
      some edit ∧
        edit.content =
          importText [] " type ".toList "\n  Logger,\n  NotFoundException,\n".toList nestTail) ∧
      (∃ edit, notFound.ensure? (importText [] [' '] " , ".toList nestTail) = some edit ∧
        edit.content = importText [] [' '] " , NotFoundException ".toList nestTail) ∧
      (∃ edit,
        notFound.ensure? (importText [] [' '] " Injectable, Logger\n".toList nestTail) = some edit ∧
        edit.content =
          importText [] [' '] " Injectable, Logger\n  NotFoundException,\n".toList nestTail) ∧
      namesIn " Injectable, Logger\n".toList = ["Injectable".toList, "Logger".toList] ∧
      namesIn " Injectable, Logger\n  NotFoundException,\n".toList =
        ["Injectable".toList, "Logger\n  NotFoundException".toList] ∧
      (∃ edit, notFound.ensure? (importText [] [' '] "\n  Logger\n\n".toList nestTail) = some edit ∧
        edit.content = importText [] [' '] "\n  Logger\n\nNotFoundException,\n".toList nestTail) ∧
      namesIn "\n  Logger\n\n".toList = ["Logger".toList] ∧
      namesIn "\n  Logger\n\nNotFoundException,\n".toList =
        ["Logger\n\nNotFoundException".toList] := by
  decide +kernel

end Compliance
