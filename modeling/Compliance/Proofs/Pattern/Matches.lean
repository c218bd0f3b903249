import Compliance.Proofs.Pattern.Reads

/-!
# Matches of a text

The matches that a sweep finds, in terms of readings.  A pattern occurs in a text
exactly if it reads a stretch of it, and all matches together cut a text into
stretches in which nothing matches and words that the pattern reads.
-/

namespace Compliance

def Match.of (behind word rest : Text) (marks : List Mark) : Match :=
  ⟨.between behind (word ++ rest), .between (word.reverse ++ behind) rest, marks⟩

namespace Match

variable (behind word rest : Text) (marks : List Mark)

@[simp] theorem text_of : (of behind word rest marks).text = word := by
  simp [of, text, Cursor.upTo, Cursor.between]

@[simp] theorem length_of : (of behind word rest marks).length = word.length := by
  simp [of, length, Cursor.between]

@[simp] theorem after_of : (of behind word rest marks).after = rest := rfl

@[simp] theorem start_offset_of : (of behind word rest marks).start.offset = behind.length := rfl

@[simp] theorem marks_of : (of behind word rest marks).marks = marks := rfl

end Match

namespace Pattern

def finish : Sequel := fun behind ahead => some { stop := .between behind ahead }

def matchAt (pattern : Pattern) (behind ahead : Text) : Option Match :=
  (pattern.best finish behind ahead).map fun outcome =>
    ⟨.between behind ahead, outcome.stop, outcome.marks⟩

def matchesFrom (pattern : Pattern) : Text → Text → List (Option Match)
  | behind, [] => [pattern.matchAt behind []]
  | behind, c :: ahead =>
      pattern.matchAt behind (c :: ahead) :: pattern.matchesFrom (c :: behind) ahead

theorem sweep_placesFrom (pattern : Pattern) (earlier : List Cursor) (behind ahead : Text) :
    pattern.sweep .dead [] (Cursor.placesFrom earlier behind.length behind ahead) =
      pattern.sweep (pattern.sweepFrom finish behind ahead).2 (pattern.matchesFrom behind ahead)
        earlier := by
  induction ahead generalizing behind earlier with
  | nil => rfl
  | cons c ahead ih =>
      have := ih (⟨behind.length, behind, c :: ahead⟩ :: earlier) (c :: behind)
      rw [List.length_cons] at this
      rw [Cursor.placesFrom, this]
      rfl

theorem matchesByPlace_eq (pattern : Pattern) (text : Text) :
    pattern.matchesByPlace text = pattern.matchesFrom [] text :=
  pattern.sweep_placesFrom [] [] text

theorem reads_of_matchAt {pattern : Pattern} (isPlain : pattern.plain = true)
    {behind ahead : Text} {found : Match} (h : pattern.matchAt behind ahead = some found) :
    ∃ word rest marks, ahead = word ++ rest ∧ pattern.Reads behind word rest marks ∧
      found = .of behind word rest marks := by
  obtain ⟨outcome, best, rfl⟩ := Option.map_eq_some_iff.mp h
  obtain ⟨word, rest, marks, final, rfl, reads, done, rfl⟩ := reaches_of_best isPlain best
  cases done
  exact ⟨word, rest, marks, rfl, reads, by simp [Match.of]⟩

def ReadsAt (pattern : Pattern) (behind ahead : Text) : Prop :=
  ∃ word rest marks, ahead = word ++ rest ∧ pattern.Reads behind word rest marks

theorem matchAt_isSome_iff {pattern : Pattern} (isPlain : pattern.plain = true)
    {behind ahead : Text} :
    (pattern.matchAt behind ahead).isSome ↔ pattern.ReadsAt behind ahead := by
  constructor
  · intro found
    obtain ⟨found, h⟩ := Option.isSome_iff_exists.mp found
    obtain ⟨word, rest, marks, here, reads, -⟩ := reads_of_matchAt isPlain h
    exact ⟨word, rest, marks, here, reads⟩
  · rintro ⟨word, rest, marks, rfl, reads⟩
    rw [matchAt, Option.isSome_map]
    exact best_isSome_of_reads isPlain reads rfl

theorem matchAt_eq_none_iff {pattern : Pattern} (isPlain : pattern.plain = true)
    {behind ahead : Text} :
    pattern.matchAt behind ahead = none ↔ ¬ pattern.ReadsAt behind ahead := by
  rw [← matchAt_isSome_iff isPlain, Option.not_isSome_iff_eq_none]

def OccursAfter (pattern : Pattern) (behind ahead : Text) : Prop :=
  ∃ gap later, ahead = gap ++ later ∧ pattern.ReadsAt (gap.reverse ++ behind) later

theorem occursAfter_nil {pattern : Pattern} {behind : Text} :
    pattern.OccursAfter behind [] ↔ pattern.ReadsAt behind [] := by
  constructor
  · rintro ⟨gap, later, here, reads⟩
    obtain ⟨rfl, rfl⟩ := List.append_eq_nil_iff.mp here.symm
    exact reads
  · exact fun reads => ⟨[], [], rfl, reads⟩

theorem occursAfter_cons {pattern : Pattern} {behind ahead : Text} {c : Char} :
    pattern.OccursAfter behind (c :: ahead) ↔
      pattern.ReadsAt behind (c :: ahead) ∨ pattern.OccursAfter (c :: behind) ahead := by
  constructor
  · rintro ⟨gap, later, here, reads⟩
    cases gap with
    | nil =>
        subst here
        exact .inl reads
    | cons first gap =>
        rw [List.cons_append, List.cons.injEq] at here
        obtain ⟨rfl, rfl⟩ := here
        exact .inr ⟨gap, later, rfl, by simpa using reads⟩
  · rintro (reads | ⟨gap, later, rfl, reads⟩)
    · exact ⟨[], c :: ahead, rfl, reads⟩
    · exact ⟨c :: gap, later, rfl, by simpa using reads⟩

theorem findSome_matchesFrom_isSome_iff {pattern : Pattern} (isPlain : pattern.plain = true)
    {behind ahead : Text} :
    ((pattern.matchesFrom behind ahead).findSome? id).isSome ↔
      pattern.OccursAfter behind ahead := by
  induction ahead generalizing behind with
  | nil =>
      rw [occursAfter_nil, ← matchAt_isSome_iff isPlain, matchesFrom]
      cases pattern.matchAt behind [] <;> simp
  | cons c ahead ih =>
      rw [occursAfter_cons, ← matchAt_isSome_iff isPlain, ← ih, matchesFrom]
      cases pattern.matchAt behind (c :: ahead) <;> simp

theorem occurs_iff {pattern : Pattern} (isPlain : pattern.plain = true) {text : Text} :
    pattern.occurs text = true ↔ pattern.OccursAfter [] text := by
  rw [occurs, find?, matchesByPlace_eq, findSome_matchesFrom_isSome_iff isPlain]

theorem reads_of_find? {pattern : Pattern} (isPlain : pattern.plain = true) {text : Text}
    {found : Match} (h : pattern.find? text = some found) :
    ∃ gap word rest marks, text = gap ++ (word ++ rest) ∧
      pattern.Reads gap.reverse word rest marks ∧ found = .of gap.reverse word rest marks := by
  have search (behind ahead : Text)
      (h : (pattern.matchesFrom behind ahead).findSome? id = some found) :
      ∃ gap word rest marks, ahead = gap ++ (word ++ rest) ∧
        pattern.Reads (gap.reverse ++ behind) word rest marks ∧
        found = .of (gap.reverse ++ behind) word rest marks := by
    induction ahead generalizing behind with
    | nil =>
        cases first : pattern.matchAt behind [] with
        | none => simp [matchesFrom, first] at h
        | some other =>
            obtain rfl : other = found := by simpa [matchesFrom, first] using h
            obtain ⟨word, rest, marks, here, reads, rfl⟩ := reads_of_matchAt isPlain first
            exact ⟨[], word, rest, marks, here, reads, rfl⟩
    | cons c ahead ih =>
        cases first : pattern.matchAt behind (c :: ahead) with
        | none =>
            obtain ⟨gap, word, rest, marks, rfl, reads, rfl⟩ :=
              ih (c :: behind) (by simpa [matchesFrom, first] using h)
            exact ⟨c :: gap, word, rest, marks, rfl, by simpa using reads, by simp⟩
        | some other =>
            obtain rfl : other = found := by simpa [matchesFrom, first] using h
            obtain ⟨word, rest, marks, here, reads, rfl⟩ := reads_of_matchAt isPlain first
            exact ⟨[], word, rest, marks, here, reads, rfl⟩
  rw [find?, matchesByPlace_eq] at h
  simpa using search [] text h

/-! ## All matches -/

/-- The matches cut what follows `behind` into stretches in which no match starts and words that
the pattern reads; behind the last word nothing matches. -/
inductive Cuts (pattern : Pattern) : Text → Text → List Match → Prop
  | rest {behind ahead : Text} (quiet : ¬ pattern.OccursAfter behind ahead) :
      Cuts pattern behind ahead []
  | found {behind : Text} (gap word rest : Text) {marks : List Mark} {others : List Match}
      (quiet : ∀ front back, gap = front ++ back → back ≠ [] →
        ¬ pattern.ReadsAt (front.reverse ++ behind) (back ++ (word ++ rest)))
      (here : pattern.matchAt (gap.reverse ++ behind) (word ++ rest) =
        some (.of (gap.reverse ++ behind) word rest marks))
      (reads : pattern.Reads (gap.reverse ++ behind) word rest marks)
      (later : Cuts pattern (word.reverse ++ (gap.reverse ++ behind)) rest others) :
      Cuts pattern behind (gap ++ (word ++ rest))
        (.of (gap.reverse ++ behind) word rest marks :: others)

theorem Cuts.cons {pattern : Pattern} {behind ahead : Text} {c : Char} {found : List Match}
    (quiet : ¬ pattern.ReadsAt behind (c :: ahead))
    (cuts : pattern.Cuts (c :: behind) ahead found) :
    pattern.Cuts behind (c :: ahead) found := by
  cases cuts with
  | rest silent => exact .rest (by simp [occursAfter_cons, quiet, silent])
  | found gap word rest silent here reads later =>
      have shift : gap.reverse ++ c :: behind = (c :: gap).reverse ++ behind := by simp
      rw [shift] at here reads later ⊢
      refine .found (c :: gap) word rest ?_ here reads later
      intro front back split nonempty
      cases front with
      | nil =>
          subst split
          exact quiet
      | cons first front =>
          rw [List.cons_append, List.cons.injEq] at split
          obtain ⟨rfl, split⟩ := split
          simpa using silent front back split nonempty

theorem apart_skip (pattern : Pattern) (flag : Bool) (behind word rest : Text) :
    apart word.length flag (pattern.matchesFrom behind (word ++ rest)) =
      apart 0 flag (pattern.matchesFrom (word.reverse ++ behind) rest) := by
  induction word generalizing behind with
  | nil => rfl
  | cons c word ih =>
      simp only [List.length_cons, List.cons_append, matchesFrom, apart, ih, List.reverse_cons,
        List.append_assoc, List.nil_append]

theorem cuts_apart {pattern : Pattern} (isPlain : pattern.plain = true)
    (takes : pattern.nullable = false) (size : Nat) (flag : Bool) (behind ahead : Text)
    (short : ahead.length ≤ size) :
    pattern.Cuts behind ahead (apart 0 flag (pattern.matchesFrom behind ahead)) := by
  induction size generalizing flag behind ahead with
  | zero =>
      obtain rfl := List.length_eq_zero_iff.mp (Nat.le_zero.mp short)
      cases found : pattern.matchAt behind [] with
      | none =>
          simp only [matchesFrom, found, apart]
          exact .rest (by rwa [occursAfter_nil, ← matchAt_eq_none_iff isPlain])
      | some m =>
          obtain ⟨word, rest, marks, here, reads, -⟩ := reads_of_matchAt isPlain found
          exact absurd (List.append_eq_nil_iff.mp here.symm).1 (reads.ne_nil takes)
  | succ size ih =>
      cases ahead with
      | nil => exact ih flag behind [] (Nat.zero_le _)
      | cons c ahead =>
          simp only [List.length_cons, Nat.add_le_add_iff_right] at short
          cases found : pattern.matchAt behind (c :: ahead) with
          | none =>
              simp only [matchesFrom, found, apart]
              exact .cons ((matchAt_eq_none_iff isPlain).mp found) (ih false _ _ short)
          | some m =>
              obtain ⟨word, rest, marks, here, reads, rfl⟩ := reads_of_matchAt isPlain found
              obtain ⟨first, word, rfl⟩ := List.exists_cons_of_ne_nil (reads.ne_nil takes)
              rw [List.cons_append, List.cons.injEq] at here
              obtain ⟨rfl, rfl⟩ := here
              simp only [matchesFrom, found, apart, Match.length_of, List.length_cons, apart_skip]
              simp only [List.length_append] at short
              refine .found [] (c :: word) rest ?_ found reads ?_
              · intro front back split nonempty
                exact absurd (List.append_eq_nil_iff.mp split.symm).2 nonempty
              · simpa using ih true (word.reverse ++ c :: behind) rest (by omega)

theorem cuts_allMatches {pattern : Pattern} (isPlain : pattern.plain = true)
    (takes : pattern.nullable = false) (text : Text) :
    pattern.Cuts [] text (pattern.allMatches text) := by
  rw [allMatches, matchesByPlace_eq]
  exact cuts_apart isPlain takes _ false [] text (Nat.le_refl _)

theorem allMatches_eq_nil {pattern : Pattern} (isPlain : pattern.plain = true)
    (takes : pattern.nullable = false) {text : Text} (absent : pattern.occurs text = false) :
    pattern.allMatches text = [] := by
  have cuts := cuts_allMatches isPlain takes text
  have quiet : ¬ pattern.OccursAfter [] text := by
    rw [← occurs_iff isPlain, absent]
    exact Bool.false_ne_true
  generalize pattern.allMatches text = found at cuts
  cases cuts with
  | rest => rfl
  | found gap word rest _ here reads later =>
      exact absurd ⟨gap, word ++ rest, rfl, word, rest, _, rfl, reads⟩ quiet

end Pattern

@[simp] theorem splice_nil (replacement : Match → Text) (behind ahead : Text) :
    splice replacement (.between behind ahead) [] = ahead := rfl

@[simp] theorem splice_of (replacement : Match → Text) (behind gap word rest : Text)
    (marks : List Mark) (others : List Match) :
    splice replacement (.between behind (gap ++ (word ++ rest)))
        (.of (gap.reverse ++ behind) word rest marks :: others) =
      gap ++ (replacement (.of (gap.reverse ++ behind) word rest marks) ++
        splice replacement (.between (word.reverse ++ (gap.reverse ++ behind)) rest) others) := by
  simp [splice, Match.of, Cursor.upTo, Cursor.between]

end Compliance
