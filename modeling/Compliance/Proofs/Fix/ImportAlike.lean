import Compliance.Proofs.Fix.ImportReturns
import Compliance.Proofs.Fix.Declared

/-!
# The same import on lines with carriage returns

An edit that extends a line extends the line with a carriage return in the same way, and the line
end stays behind it.  An edit that puts a line in puts one in there too, if not always at
the same place, and that line has no carriage return.
-/

namespace Compliance

open Pattern

variable {full : Bool} {lines returned : List Text} {line ending : Text}

/-- The pieces of the content are these lines, some with a carriage return behind them. -/
structure Shadow (full : Bool) (lines : List Text) (content : Text) : Prop where
  carries : Carries full lines (Text.pieces content)
  plain : Plain lines
  clean : Clean lines

theorem Shadow.of_unpieces (carries : Carries full lines returned) (plain : Plain lines)
    (clean : Clean lines) : Shadow full lines (Text.unpieces returned) := by
  refine ⟨?_, plain, clean⟩
  rwa [Text.pieces_unpieces carries.ne_nil.2 (carries.clean clean)]

inductive Alike (full : Bool) (lines returned : List Text) : ImportEdit → ImportEdit → Prop
  | extended {index : Nat} {before after ending : Text} (here : lines[index]? = some before)
      (holds : before ≠ []) (place : Carries.At full lines returned index before ending)
      (free : '\r' ∉ after) (one : '\n' ∉ after) :
      Alike full lines returned (replaceLine lines index before after)
        (replaceLine returned index (before ++ ending) (after ++ ending))
  | added {edit other : ImportEdit} (others : List Text) (before : edit.before = [])
      (before' : other.before = []) (shadow : Shadow false others other.content) :
      Alike full lines returned edit other

section Groups

variable {module : Text} {found : Match}

theorem ImportHead.not_mem_brace {head : Text} (isHead : ImportHead Blank head) :
    '\x7b' ∉ head := by
  obtain ⟨indent, gap, rfl, blank, blankGap⟩ := isHead
  have visible {text : Text} (blank : Blank text) : '\x7b' ∉ text := fun here =>
    absurd (blank _ here) (by decide)
  simp only [List.mem_append, not_or]
  exact ⟨visible blank, by decide, visible blankGap⟩

theorem isSome_find?_append {pattern : Pattern} (blind : Blind pattern.occurs) (one : '\n' ∉ line)
    (ends : ending = [] ∨ ending = ['\r']) :
    (pattern.find? (line ++ ending)).isSome = (pattern.find? line).isSome := by
  rcases ends with rfl | rfl
  · rw [List.append_nil]
  · exact blind line one

theorem exists_find?_append {pattern : Pattern} (blind : Blind pattern.occurs) (one : '\n' ∉ line)
    (ends : ending = [] ∨ ending = ['\r']) (find : pattern.find? line = some found) :
    ∃ other, pattern.find? (line ++ ending) = some other := by
  refine Option.isSome_iff_exists.mp ?_
  rw [isSome_find?_append blind one ends, find, Option.isSome_some]

theorem find?_append_eq_none {pattern : Pattern} (blind : Blind pattern.occurs) (one : '\n' ∉ line)
    (ends : ending = [] ∨ ending = ['\r']) (absent : pattern.find? line = none) :
    pattern.find? (line ++ ending) = none := by
  rw [← Option.isSome_eq_false_iff.trans Option.isNone_iff_eq_none,
    isSome_find?_append blind one ends, absent, Option.isSome_none]

theorem find?_importLine_append (one : '\n' ∉ line) (ends : ending = [] ∨ ending = ['\r'])
    (find : (importLine module).find? line = some found) :
    ∃ other, (importLine module).find? (line ++ ending) = some other ∧
      other.group 1 = found.group 1 ∧ other.group 2 = found.group 2 ∧
        other.group 3 = found.group 3 ++ ending := by
  obtain ⟨other, find'⟩ := exists_find?_append blind_importLine one ends find
  refine ⟨other, find', ?_⟩
  obtain ⟨head, names, tail, rfl, isHead, closed, -, first, second, third⟩ :=
    shape_of_find?_importLine find
  obtain ⟨head', names', tail', shape, isHead', closed', -, first', second', third'⟩ :=
    shape_of_find?_importLine find'
  have split : head ++ '\x7b' :: (names ++ '\x7d' :: (tail ++ ending)) =
      head' ++ '\x7b' :: (names' ++ '\x7d' :: tail') := by
    simpa using shape
  obtain ⟨rfl, inside⟩ := eq_of_append_cons split isHead.not_mem_brace isHead'.not_mem_brace
  obtain ⟨rfl, rfl⟩ := eq_of_append_cons inside closed closed'
  exact ⟨first'.trans first.symm, second'.trans second.symm, by rw [third', third]⟩

theorem find?_importClosing_append (one : '\n' ∉ line) (ends : ending = [] ∨ ending = ['\r'])
    (find : (importClosing module).find? line = some found) :
    ∃ other, (importClosing module).find? (line ++ ending) = some other ∧
      other.group 1 = found.group 1 ∧ other.group 2 = found.group 2 ++ ending := by
  obtain ⟨other, find'⟩ := exists_find?_append blind_importClosing one ends find
  refine ⟨other, find', ?_⟩
  obtain ⟨names, tail, rfl, closed, -, first, second⟩ := shape_of_find?_importClosing find
  obtain ⟨names', tail', shape, closed', -, first', second'⟩ := shape_of_find?_importClosing find'
  have split : names ++ '\x7d' :: (tail ++ ending) = names' ++ '\x7d' :: tail' := by
    simpa using shape
  obtain ⟨rfl, rfl⟩ := eq_of_append_cons split closed closed'
  exact ⟨first'.trans first.symm, by rw [second', second]⟩

end Groups

theorem Carries.getElem?_eq_none (carries : Carries full lines returned) {index : Nat}
    (behind : lines[index]? = none) : returned[index]? = none := by
  rw [List.getElem?_eq_none_iff, carries.length_eq]
  exact List.getElem?_eq_none_iff.mp behind

theorem Carries.trimEnd_getD (carries : Carries full lines returned) (index : Nat) :
    Text.trimEnd ((returned[index]?).getD []) = Text.trimEnd ((lines[index]?).getD []) := by
  cases here : lines[index]? with
  | none => rw [carries.getElem?_eq_none here]
  | some line =>
      obtain ⟨ending, place⟩ := carries.exists_at here
      have blank : Blank ending := by
        rcases place.cases with rfl | rfl
        · exact fun c here => absurd here List.not_mem_nil
        · exact List.all_eq_true.mp (by decide)
      rw [place.here, Option.getD_some, Option.getD_some, trimEnd_append_blank line blank]

namespace Prerequisite

structure Single (needed : Prerequisite) : Prop where
  isName : Identifier needed.symbol.toList
  oneLine : '\n' ∉ needed.statement
  free : '\r' ∉ needed.statement

variable {needed : Prerequisite}

theorem Single.oneWord (single : needed.Single) : '\n' ∉ needed.symbol.toList :=
  fun here => (single.isName.visible here).1 rfl

theorem Single.freeWord (single : needed.Single) : '\r' ∉ needed.symbol.toList :=
  fun here => (single.isName.visible here).2 rfl

theorem alike_mergeLine? (single : needed.Single) (carries : Carries full lines returned)
    (plain : Plain lines) (clean : Clean lines) :
    Option.Rel (Alike full lines returned) (needed.mergeLine? lines)
      (needed.mergeLine? returned) := by
  simp only [mergeLine?, carries.findIdx?_eq clean blind_importLine]
  cases place : lines.findIdx? (importLine needed.module.toList).occurs with
  | none => exact .none
  | some index =>
      obtain ⟨inside, occurs, -⟩ := List.findIdx?_eq_some_iff_getElem.mp place
      have here := List.getElem?_eq_getElem inside
      obtain ⟨ending, place⟩ := carries.exists_at here
      generalize lines[index] = line at occurs here place
      have one := clean line (List.mem_of_getElem? here)
      have free := plain line (List.mem_of_getElem? here)
      obtain ⟨found, find⟩ := Option.isSome_iff_exists.mp occurs
      obtain ⟨other, find', first, second, third⟩ := find?_importLine_append one place.cases find
      obtain ⟨head, names, tail, rfl, -, -, -, groups⟩ := shape_of_find?_importLine find
      simp only [Option.bind_some, here, place.here, find, find', Option.map_some, first,
        second, third, ← List.append_assoc _ _ ending]
      refine .some (.extended here (by simp) place ?_ ?_)
      · rw [groups.1, groups.2.1, groups.2.2]
        exact foreign_oneLine (by decide) single.freeWord free
      · rw [groups.1, groups.2.1, groups.2.2]
        exact not_mem_oneLine single.oneWord one

theorem shadow_insertLine {index : Nat} {new : Text} (carries : Carries full lines returned)
    (plain : Plain lines) (clean : Clean lines) (inside : index ≤ lines.length) (one : '\n' ∉ new)
    (free : '\r' ∉ new) :
    Shadow false (lines.take index ++ new :: lines.drop index)
      (insertLine returned index new).content :=
  .of_unpieces (carries.insert inside new) (plain.insert index free) (clean.insert index one)

theorem alike_addEntry (single : needed.Single) (carries : Carries full lines returned)
    (plain : Plain lines) (clean : Clean lines) {start close : Nat}
    (inside : close < lines.length) :
    Alike full lines returned (needed.addEntry lines start close)
      (needed.addEntry returned start close) := by
  have inEntry {c : Char} (outside : ∀ line ∈ lines, c ∉ line) (index : Nat) :
      c ∉ Text.trimEnd ((lines[index]?).getD []) := by
    intro here
    have there := mem_trimEnd here
    cases found : lines[index]? with
    | none => simp [found] at there
    | some line =>
        rw [found, Option.getD_some] at there
        exact outside line (List.mem_of_getElem? found) there
  have one := inEntry clean (close - 1)
  have free := inEntry plain (close - 1)
  have same := carries.trimEnd_getD (close - 1)
  simp only [addEntry, same]
  generalize Text.trimEnd ((lines[close - 1]?).getD []) = entry at one free
  have oneEntry : '\n' ∉ entry.takeWhile isBlank ++ needed.symbol.toList ++ [','] := by
    simp only [List.mem_append, not_or]
    exact ⟨⟨fun here => one (List.takeWhile_subset _ here), single.oneWord⟩, by decide⟩
  have freeEntry : '\r' ∉ entry.takeWhile isBlank ++ needed.symbol.toList ++ [','] := by
    simp only [List.mem_append, not_or]
    exact ⟨⟨fun here => free (List.takeWhile_subset _ here), single.freeWord⟩, by decide⟩
  split
  · next level =>
      split
      · have here := List.getElem?_eq_getElem (show close - 1 < lines.length by omega)
        obtain ⟨ending, place⟩ := carries.exists_at here
        have comma := place.lost (by omega) (entry ++ [','])
        refine .added _ rfl rfl (shadow_insertLine comma ?_ ?_ (by simp; omega) oneEntry freeEntry)
        · exact plain.set _ (by simp [free])
        · exact clean.set _ (by simp [one])
      · exact .added _ rfl rfl (shadow_insertLine carries plain clean inside.le oneEntry freeEntry)
  · refine .added _ rfl rfl (shadow_insertLine carries plain clean inside.le ?_ ?_)
    · simp [single.oneWord]
    · simp [single.freeWord]

theorem alike_mergeBlock? (single : needed.Single) (carries : Carries full lines returned)
    (plain : Plain lines) (clean : Clean lines) :
    Option.Rel (Alike full lines returned) (needed.mergeBlock? lines)
      (needed.mergeBlock? returned) := by
  simp only [mergeBlock?, carries.importBlock?_eq clean]
  cases importBlock? (importClosing needed.module.toList) none 0 lines with
  | none => exact .none
  | some block =>
      obtain ⟨start, close⟩ := block
      simp only [Option.bind_some]
      cases here : lines[close]? with
      | none =>
          rw [carries.getElem?_eq_none here]
          exact .none
      | some line =>
          have inside : close < lines.length := (List.getElem?_eq_some_iff.mp here).1
          obtain ⟨ending, place⟩ := carries.exists_at here
          have one := clean line (List.mem_of_getElem? here)
          have free := plain line (List.mem_of_getElem? here)
          rw [place.here, Option.bind_some, Option.bind_some]
          cases find : (importClosing needed.module.toList).find? line with
          | none =>
              rw [find?_append_eq_none blind_importClosing one place.cases find]
              exact .none
          | some found =>
              obtain ⟨other, find', first, second⟩ :=
                find?_importClosing_append one place.cases find
              obtain ⟨names, tail, rfl, -, -, groups⟩ := shape_of_find?_importClosing find
              rw [find', Option.map_some, Option.map_some, first, second]
              refine .some ?_
              split
              · exact alike_addEntry single carries plain clean inside
              · rw [← List.append_assoc _ _ ending, groups.1, groups.2]
                exact .extended here (by simp) place
                  (foreign_closing (by decide) single.freeWord free)
                  (not_mem_closing single.oneWord one)

theorem alike_ensure? (single : needed.Single) {content : Text}
    (shadow : Shadow full lines content) :
    Option.Rel (Alike full lines (Text.pieces content)) (needed.ensure? (Text.unpieces lines))
      (needed.ensure? content) := by
  obtain ⟨carries, plain, clean⟩ := shadow
  have split : Text.pieces (Text.unpieces lines) = lines :=
    Text.pieces_unpieces carries.ne_nil.1 clean
  have returned : Returned (Text.unpieces lines) content := by
    have whole := Returned.of_carries carries
    rwa [Text.unpieces_pieces] at whole
  have word : (symbolWord needed.symbol.toList).occurs content =
      (symbolWord needed.symbol.toList).occurs (Text.unpieces lines) := by
    rw [Bool.eq_iff_iff, occurs_symbolWord_iff single.isName, occurs_symbolWord_iff single.isName,
      used_iff_of_returned single.isName returned]
  simp only [ensure?, word, occurs_importOf_of_returned single.isName returned, split]
  split
  · exact .none
  · have line := alike_mergeLine? single carries plain clean
    have block := alike_mergeBlock? single carries plain clean
    generalize needed.mergeLine? lines = one, needed.mergeLine? (Text.pieces content) =
      other at line
    cases line with
    | some alike => exact .some alike
    | none =>
        generalize needed.mergeBlock? lines = one, needed.mergeBlock? (Text.pieces content) =
          other at block
        cases block with
        | some alike => exact .some alike
        | none =>
            refine .some (.added _ rfl rfl
              (shadow_insertLine carries plain clean ?_ single.oneLine single.free))
            rw [← carries.length_eq]
            cases last : lastImportEnd? false none 0 (Text.pieces content) with
            | none => simp
            | some place => exact lastImportEnd?_lt last

end Prerequisite

end Compliance
