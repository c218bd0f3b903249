import Compliance.Proofs.Fix.ImportKept
import Compliance.Proofs.Fix.ImportPlace

/-!
# The record of an added import

The record of an edit names one line.  That line is in the new content as the record
shows it, and taking it back restores the old content, with one exception: an entry
that is added below another one may also give that other entry a comma, and the
record does not tell.
-/

namespace Compliance

/-- The content with the recorded line taken back. -/
def ImportEdit.undone (edit : ImportEdit) : Text :=
  let lines := Text.pieces edit.content
  Text.unpieces (if edit.before.isEmpty then lines.eraseIdx (edit.line - 1)
    else lines.set (edit.line - 1) edit.before)

variable {lines : List Text} {index : Nat} {before after : Text}

theorem pieces_replaceLine (clean : Clean lines) (here : lines[index]? = some before)
    (one : '\n' ∉ after) :
    Text.pieces (replaceLine lines index before after).content = lines.set index after := by
  apply Text.pieces_unpieces
  · intro none
    have empty : lines.length = 0 := by rw [← List.length_set, none, List.length_nil]
    simp [List.length_eq_zero_iff.mp empty] at here
  · exact clean.set index one

theorem getElem?_replaceLine (clean : Clean lines) (here : lines[index]? = some before)
    (one : '\n' ∉ after) :
    (Text.pieces (replaceLine lines index before after).content)[index]? = some after := by
  rw [pieces_replaceLine clean here one]
  exact List.getElem?_set_self (List.getElem?_eq_some_iff.mp here).1

theorem undone_replaceLine (clean : Clean lines) (here : lines[index]? = some before)
    (holds : before ≠ []) (one : '\n' ∉ after) :
    (replaceLine lines index before after).undone = Text.unpieces lines := by
  have nonempty : before.isEmpty = false := by simpa using holds
  unfold ImportEdit.undone
  rw [pieces_replaceLine clean here one]
  simp only [replaceLine, nonempty, Bool.false_eq_true, if_false, Nat.add_sub_cancel, List.set_set]
  obtain ⟨inside, rfl⟩ := List.getElem?_eq_some_iff.mp here
  rw [List.set_getElem_self]

theorem pieces_insertLine (clean : Clean lines) (one : '\n' ∉ after) :
    Text.pieces (insertLine lines index after).content =
      lines.take index ++ after :: lines.drop index :=
  Text.pieces_unpieces (by simp) (clean.insert index one)

theorem getElem?_insertLine (clean : Clean lines) (inside : index ≤ lines.length)
    (one : '\n' ∉ after) :
    (Text.pieces (insertLine lines index after).content)[index]? = some after := by
  rw [pieces_insertLine clean one]
  simp [Nat.min_eq_left inside]

theorem undone_insertLine (clean : Clean lines) (inside : index ≤ lines.length)
    (one : '\n' ∉ after) : (insertLine lines index after).undone = Text.unpieces lines := by
  unfold ImportEdit.undone
  rw [pieces_insertLine clean one]
  simp [insertLine, List.eraseIdx_append, Nat.min_eq_left inside]

namespace Prerequisite

variable {needed : Prerequisite} {start close : Nat}

theorem not_mem_statement (oneWord : '\n' ∉ needed.symbol.toList)
    (oneName : '\n' ∉ needed.module.toList) : '\n' ∉ needed.statement := by
  have start : '\n' ∉ "import \x7b ".toList := by decide
  have middle : '\n' ∉ " \x7d from '".toList := by decide
  have stop : '\n' ∉ "';".toList := by decide
  have upToName := List.not_mem_append (List.not_mem_append start oneWord) middle
  exact List.not_mem_append (List.not_mem_append upToName oneName) stop

/-- The edit adds an entry below one that lacks its comma. -/
def CommaAdded (needed : Prerequisite) (content : Text) (edit : ImportEdit) : Prop :=
  edit.before = [] ∧ edit.after ≠ needed.statement ∧
    ∃ start, importBlock? (importClosing needed.module.toList) none 0 (Text.pieces content) =
        some (start, edit.line - 1) ∧ LacksComma (Text.pieces content) start (edit.line - 1)

theorem unpieces_set_ne (clean : Clean lines) {line : Text} (here : lines[index]? = some line) :
    Text.unpieces (lines.set index (Text.trimEnd line ++ [','])) ≠ Text.unpieces lines := by
  intro same
  obtain ⟨blanks, trimmed, blank⟩ := trimEnd_append line
  have nonempty : lines ≠ [] := by
    rintro rfl
    simp at here
  have one := not_mem_comma (clean line (List.mem_of_getElem? here))
  have unchanged : lines.set index (Text.trimEnd line ++ [',']) = lines :=
    (pieces_replaceLine clean here one).symm.trans
      ((congrArg Text.pieces same).trans (Text.pieces_unpieces nonempty clean))
  have replaced := congrArg (·[index]?) unchanged
  simp only [List.getElem?_set_self (List.getElem?_eq_some_iff.mp here).1, here,
    Option.some.injEq] at replaced
  have commas : [','] = blanks := List.append_cancel_left (replaced.trans trimmed)
  exact absurd (blank ',' (by simp [← commas])) (by decide)

theorem undone_addEntry_iff (clean : Clean lines) (oneWord : '\n' ∉ needed.symbol.toList)
    (inside : close ≤ lines.length) :
    (Text.pieces (needed.addEntry lines start close).content)[close]? =
        some (needed.addEntry lines start close).after ∧
      (needed.addEntry lines start close).line = close + 1 ∧
      (needed.addEntry lines start close).before = [] ∧
      (needed.addEntry lines start close).after ≠ needed.statement ∧
      ((needed.addEntry lines start close).undone = Text.unpieces lines ↔
        ¬ LacksComma lines start close) := by
  obtain ⟨indent, -, oneIndent, cases⟩ := needed.addEntry_cases clean start close
  have one : '\n' ∉ indent ++ needed.symbol.toList ++ [','] := by simp [oneIndent, oneWord]
  rcases cases with ⟨lacks, shape⟩ | ⟨line, above, lacks, shape⟩
  · rw [shape]
    refine ⟨getElem?_insertLine clean inside one, rfl, rfl, needed.ne_statement_of_comma _, ?_⟩
    rw [undone_insertLine clean inside one]
    exact iff_of_true rfl lacks
  · have oneAbove := not_mem_comma (clean line (List.mem_of_getElem? above))
    have cleanNow := clean.set (close - 1) oneAbove
    have insideNow : close ≤ (lines.set (close - 1) (Text.trimEnd line ++ [','])).length := by
      rwa [List.length_set]
    rw [shape]
    refine ⟨getElem?_insertLine cleanNow insideNow one, rfl, rfl,
      needed.ne_statement_of_comma _, ?_⟩
    rw [undone_insertLine cleanNow insideNow one]
    exact iff_of_false (unpieces_set_ne clean above) (fun whole => whole lacks)

/-- The recorded line is in the new content, and taking it back gives the old content, unless the
entry above got a comma. -/
theorem undone_ensure?_iff {content : Text} {edit : ImportEdit}
    (oneWord : '\n' ∉ needed.symbol.toList) (oneName : '\n' ∉ needed.module.toList)
    (found : needed.ensure? content = some edit) :
    1 ≤ edit.line ∧ (Text.pieces edit.content)[edit.line - 1]? = some edit.after ∧
      (edit.undone = content ↔ ¬ needed.CommaAdded content edit) := by
  have clean : Clean (Text.pieces content) := fun _ => Text.not_mem_of_mem_pieces
  have whole : Text.unpieces (Text.pieces content) = content := Text.unpieces_pieces content
  have isEdit := edit_of_ensure? found
  unfold CommaAdded
  generalize Text.pieces content = lines at clean whole isEdit
  subst whole
  cases isEdit with
  | @oneLine index head names tail here isHead closed source =>
      have one := not_mem_oneLine oneWord (clean _ (List.mem_of_getElem? here))
      have holds : head ++ ('\x7b' :: (names ++ ('\x7d' :: tail))) ≠ [] := by simp
      refine ⟨Nat.le_add_left .., getElem?_replaceLine clean here one, ?_⟩
      rw [undone_replaceLine clean here holds one]
      exact iff_of_true rfl fun added => holds added.1
  | @closing start close names tail here block closed source =>
      have one := not_mem_closing oneWord (clean _ (List.mem_of_getElem? here))
      have holds : names ++ ('\x7d' :: tail) ≠ [] := by simp
      refine ⟨Nat.le_add_left .., getElem?_replaceLine clean here one, ?_⟩
      rw [undone_replaceLine clean here holds one]
      exact iff_of_true rfl fun added => holds added.1
  | @entry start close names tail here block blank source isBlock =>
      have inside : close ≤ lines.length := Nat.le_of_lt (List.getElem?_eq_some_iff.mp here).1
      obtain ⟨shown, line, before, after, undone⟩ :=
        @undone_addEntry_iff lines needed start close clean oneWord inside
      rw [line, Nat.add_sub_cancel, before, undone]
      refine ⟨Nat.le_add_left .., shown, not_congr ?_⟩
      constructor
      · intro lacks
        exact ⟨rfl, after, start, isBlock, lacks⟩
      · rintro ⟨-, -, other, found, lacks⟩
        cases isBlock.symm.trans found
        exact lacks
  | statement index place =>
      have one := not_mem_statement oneWord oneName
      have inside : index ≤ lines.length := by
        cases last : lastImportEnd? false none 0 lines with
        | none => simp [place, last]
        | some found =>
            have bound := lastImportEnd?_lt last
            simp only [place, last, Option.map_some, Option.getD_some]
            omega
      refine ⟨Nat.le_add_left .., getElem?_insertLine clean inside one, ?_⟩
      rw [undone_insertLine clean inside one]
      exact iff_of_true rfl fun added => added.2.1 rfl

def unendedImport : Text :=
  Text.unpieces (["import \x7b", "  Logger", "\x7d from '@nestjs/common';",
    "throw new NotFoundException('x');"].map String.toList)

theorem undone_unendedImport :
    '\n' ∉ notFound.symbol.toList ∧ '\n' ∉ notFound.module.toList ∧
      ∃ edit, notFound.ensure? unendedImport = some edit ∧ edit.undone ≠ unendedImport ∧
        1 ≤ edit.line ∧ (Text.pieces edit.content)[edit.line - 1]? = some edit.after ∧
        (edit.undone = unendedImport ↔ ¬ notFound.CommaAdded unendedImport edit) := by
  have oneWord : '\n' ∉ notFound.symbol.toList := by decide
  have oneName : '\n' ∉ notFound.module.toList := by decide
  have found : ∃ edit, notFound.ensure? unendedImport = some edit ∧ edit.undone ≠
      unendedImport := by
    decide +kernel
  obtain ⟨edit, found, differs⟩ := found
  exact ⟨oneWord, oneName, edit, found, differs, undone_ensure?_iff oneWord oneName found⟩

end Prerequisite

end Compliance
