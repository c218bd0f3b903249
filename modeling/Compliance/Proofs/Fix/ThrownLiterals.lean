import Compliance.Proofs.Fix.Gain
import Compliance.Proofs.Fix.Kept

/-!
# Thrown literals after their fix

Where a literal is thrown on a line whose thrown literals were wrapped: inside a
wrapped literal, or in a stretch that the fix did not match.
-/

namespace Compliance

open Pattern

variable {behind word rest : Text} {marks : List Mark}

/-- Every character of a word but its first one is an inner one, and it does not matter what follows
the word. -/
structure Pattern.Local (pattern : Pattern) (inner : Char → Bool) : Prop where
  inside {behind word rest : Text} {marks : List Mark} :
    pattern.Reads behind word rest marks → ∀ c ∈ word.tail, inner c = true
  movable {behind word rest : Text} {marks : List Mark} :
    pattern.Reads behind word rest marks → ∀ other, ∃ others, pattern.Reads behind word other others

theorem Pattern.Local.occursAfter_append {pattern : Pattern} {inner : Char → Bool}
    (isLocal : pattern.Local inner) {before after : Text}
    (boundary : after.head?.all (!inner ·) = true) :
    pattern.OccursAfter behind (before ++ after) ↔
      pattern.OccursAfter behind before ∨ pattern.OccursAfter (before.reverse ++ behind) after := by
  constructor
  · rintro ⟨gap, later, split, word, rest, marks, rfl, reads⟩
    rcases List.append_eq_append_iff.mp split with ⟨more, rfl, rfl⟩ | ⟨more, rfl, inside⟩
    · exact .inr ⟨more, word ++ rest, rfl, word, rest, marks, rfl, by simpa using reads⟩
    · rcases List.append_eq_append_iff.mp inside with ⟨left, rfl, rfl⟩ | ⟨left, rfl, rfl⟩
      · obtain ⟨others, reads⟩ := isLocal.movable reads left
        exact .inl ⟨gap, word ++ left, rfl, word, left, others, rfl, reads⟩
      · cases more with
        | nil => exact .inr ⟨[], left ++ rest, rfl, left, rest, marks, rfl, by simpa using reads⟩
        | cons first more =>
            cases left with
            | nil =>
                obtain ⟨others, reads⟩ := isLocal.movable reads []
                exact .inl ⟨gap, first :: more, rfl, first :: more, [], others, by simp, by
                  simpa using reads⟩
            | cons next left =>
                have crossed := isLocal.inside reads next (by simp)
                simp [crossed] at boundary
  · rintro (⟨gap, later, rfl, word, rest, marks, rfl, reads⟩ | ⟨gap, later, rfl, reads⟩)
    · obtain ⟨others, reads⟩ := isLocal.movable reads (rest ++ after)
      exact ⟨gap, word ++ (rest ++ after), by simp, word, rest ++ after, others, rfl, reads⟩
    · exact ⟨before ++ gap, later, by simp, by simpa using reads⟩

theorem reads_throwLiteral :
    throwLiteral.Reads behind word rest marks ↔
      ∃ gap quote, word = "throw".toList ++ (gap ++ [quote]) ∧ (gap ≠ [] ∧ Blank gap) ∧
        quotes.has quote = true ∧ Fresh behind ∧ marks = [] := by
  simp only [throwLiteral, reads_append_single, reads_append_blanks1, reads_wordEdge_lit]
  constructor
  · rintro ⟨_, quote, rfl, has, _, gap, rfl, isGap, rfl, rfl, edge⟩
    exact ⟨gap, quote, by simp, isGap, has, by simpa [Fresh, isWord] using edge, rfl⟩
  · rintro ⟨gap, quote, rfl, isGap, has, fresh, rfl⟩
    exact ⟨"throw".toList ++ gap, quote, by simp, has, "throw".toList, gap, rfl, isGap, rfl, rfl,
      by simpa [Fresh, isWord] using fresh⟩

def throwInner (c : Char) : Bool := ['h', 'r', 'o', 'w'].contains c || isBlank c || quotes.has c

theorem local_throwLiteral : throwLiteral.Local throwInner where
  inside reads := by
    obtain ⟨gap, quote, rfl, ⟨-, blank⟩, has, -, -⟩ := reads_throwLiteral.mp reads
    intro c here
    have here : c ∈ ['h', 'r', 'o', 'w'] ++ (gap ++ [quote]) := here
    simp only [List.mem_append, List.mem_singleton] at here
    rcases here with here | here | rfl
    · have listed : ['h', 'r', 'o', 'w'].contains c = true := List.contains_iff_mem.mpr here
      rw [throwInner, listed]
      rfl
    · simp [throwInner, blank c here]
    · simp [throwInner, has]
  movable reads other := by
    obtain ⟨gap, quote, shape, isGap, has, fresh, -⟩ := reads_throwLiteral.mp reads
    exact ⟨[], reads_throwLiteral.mpr ⟨gap, quote, shape, isGap, has, fresh, rfl⟩⟩

theorem occursAfter_throwLiteral {ahead : Text} (fresh : Fresh behind) :
    throwLiteral.OccursAfter behind ahead ↔ throwLiteral.OccursAfter [] ahead := by
  have same (gap : Text) : Fresh (gap.reverse ++ behind) ↔ Fresh (gap.reverse ++ []) := by
    cases shape : gap.reverse with
    | nil => simpa [Fresh] using fresh
    | cons c others => simp [Fresh]
  simp only [OccursAfter, ReadsAt, reads_throwLiteral, same]

theorem readsAt_throwLiteral_cons {c : Char} {ahead : Text} (differs : c ≠ 't') :
    ¬ throwLiteral.ReadsAt behind (c :: ahead) := by
  rintro ⟨word, rest, marks, split, reads⟩
  obtain ⟨gap, quote, rfl, -⟩ := reads_throwLiteral.mp reads
  exact differs (List.cons.inj split).1

theorem quote_of_occursAfter {ahead : Text} (occurs : throwLiteral.OccursAfter behind ahead) :
    ∃ c ∈ ahead, quotes.has c = true := by
  obtain ⟨gap, later, rfl, word, rest, marks, rfl, reads⟩ := occurs
  obtain ⟨space, quote, rfl, -, has, -⟩ := reads_throwLiteral.mp reads
  exact ⟨quote, by simp, has⟩

theorem occursAfter_wrapped (literal later : Text) :
    throwLiteral.OccursAfter behind ("throw new Error(".toList ++ (literal ++ ')' :: later)) ↔
      throwLiteral.OccursAfter [] literal ∨ throwLiteral.OccursAfter [] later := by
  have shape : "throw new Error(".toList ++ (literal ++ ')' :: later) =
      "throw ".toList ++ ("new Error".toList ++ ('(' :: literal ++ ')' :: later)) := by simp
  have quiet {text : Text} (none : text.all (!quotes.has ·) = true) (behind : Text) :
      ¬ throwLiteral.OccursAfter behind text := by
    intro occurs
    obtain ⟨c, here, has⟩ := quote_of_occursAfter occurs
    have out := List.all_eq_true.mp none c here
    simp [has] at out
  have parenthesis {c : Char} (differs : c ≠ 't') (plain : isWord c = false) (ahead behind : Text) :
      throwLiteral.OccursAfter behind (c :: ahead) ↔ throwLiteral.OccursAfter [] ahead := by
    rw [occursAfter_cons, occursAfter_throwLiteral
      (show Fresh (c :: behind) by simp [Fresh, plain])]
    simp [readsAt_throwLiteral_cons differs]
  rw [shape, local_throwLiteral.occursAfter_append rfl, local_throwLiteral.occursAfter_append rfl,
    local_throwLiteral.occursAfter_append rfl, parenthesis (by decide) (by decide),
    parenthesis (by decide) (by decide)]
  simp only [quiet (show "throw ".toList.all (!quotes.has ·) = true by decide),
    quiet (show "new Error".toList.all (!quotes.has ·) = true by decide), false_or]

theorem occursAfter_splice_wrapLiteralFix {ahead : Text} {found : List Match}
    (cuts : thrownLiteral.Cuts behind ahead found) :
    throwLiteral.OccursAfter [] (splice wrapLiteralFix.replace (.between behind ahead) found) ↔
      (∃ gap ∈ outside (.between behind ahead) found, throwLiteral.OccursAfter [] gap) ∨
        ∃ wrapped ∈ found, throwLiteral.OccursAfter [] (wrapped.group 1) := by
  induction cuts with
  | rest => simp
  | @found behind gap word rest marks others quiet here reads later ih =>
      obtain ⟨space, literal, rfl, -, -, -, rfl⟩ := reads_thrownLiteral.mp reads
      have kept : (Match.of (gap.reverse ++ behind) ("throw".toList ++ (space ++ literal)) rest
          (oneGroup 1 (space.reverse ++ ("throw".toList.reverse ++ (gap.reverse ++ behind))) literal
            rest)).group 1 = literal := by
        rw [Match.group, group?_oneGroup (by decide), Option.getD_some]
      rw [splice_of, outside_of, replace_wrapLiteralFix, kept, List.append_assoc,
        List.append_assoc, List.singleton_append, local_throwLiteral.occursAfter_append rfl,
        occursAfter_wrapped, ih]
      rw [← or_assoc, or_or_or_comm]
      simp only [List.mem_cons, exists_eq_or_imp, kept]

theorem occurs_of_wrapLiteralFix {line new : Text}
    (changed : wrapLiteralFix.applyLine? line = some new) :
    throwLiteral.occurs new = true ↔
      (∃ gap ∈ thrownLiteral.gaps line, throwLiteral.occurs gap = true) ∨
        ∃ wrapped ∈ thrownLiteral.allMatches line,
          throwLiteral.occurs (wrapped.group 1) = true := by
  obtain ⟨rfl, -⟩ := applyLine?_eq_some changed
  simp only [occurs_iff (show throwLiteral.plain = true by decide)]
  exact occursAfter_splice_wrapLiteralFix (cuts_allMatches (by decide) (by decide) line)

end Compliance
