import Compliance.Proofs.Pattern.Sweep

/-!
# What a pattern reads

`Reads` says which words a pattern can take at a place and which marks it leaves
on the way, with no order of trying.  The best outcome of a plain pattern is
always one of these readings, and there is an outcome as soon as there is a
reading; so a text holds a match exactly where the pattern can read.
-/

namespace Compliance

inductive Rounds (reads : Text → Text → Text → List Mark → Prop) :
    Text → Text → Text → List Mark → Prop
  | done (behind rest : Text) : Rounds reads behind [] rest []
  | more {behind word later rest : Text} {marks others : List Mark} :
      reads behind word (later ++ rest) marks →
      Rounds reads (word.reverse ++ behind) later rest others →
      Rounds reads behind (word ++ later) rest (marks ++ others)

namespace Pattern

/-- Between `behind` and `rest` the pattern can take `word`, leaving `marks`. -/
def Reads : Pattern → Text → Text → Text → List Mark → Prop
  | empty, _, word, _, marks => word = [] ∧ marks = []
  | never, _, _, _, _ => False
  | single chars, _, word, _, marks => ∃ c, chars.has c = true ∧ word = [c] ∧ marks = []
  | seq first second, behind, word, rest, marks =>
      ∃ head tail headMarks tailMarks, word = head ++ tail ∧ marks = headMarks ++ tailMarks ∧
        first.Reads behind head (tail ++ rest) headMarks ∧
        second.Reads (head.reverse ++ behind) tail rest tailMarks
  | alt first second, behind, word, rest, marks =>
      first.Reads behind word rest marks ∨ second.Reads behind word rest marks
  | star _ body, behind, word, rest, marks => Rounds body.Reads behind word rest marks
  | plus _ body, behind, word, rest, marks =>
      ∃ head tail headMarks tailMarks, word = head ++ tail ∧ marks = headMarks ++ tailMarks ∧
        body.Reads behind head (tail ++ rest) headMarks ∧
        Rounds body.Reads (head.reverse ++ behind) tail rest tailMarks
  | group index body, behind, word, rest, marks =>
      ∃ inner, body.Reads behind word rest inner ∧
        marks = ⟨true, index, .between behind (word ++ rest)⟩ :: inner ++
          [⟨false, index, .between (word.reverse ++ behind) rest⟩]
  | edge condition, behind, word, rest, marks =>
      word = [] ∧ marks = [] ∧ condition.holds behind.head? rest.head? = true

theorem Reads.ne_nil {pattern : Pattern} (takes : pattern.nullable = false)
    {behind word rest : Text} {marks : List Mark} (reads : pattern.Reads behind word rest marks) :
    word ≠ [] := by
  induction pattern generalizing behind word rest marks with
  | empty => simp [nullable] at takes
  | never => exact reads.elim
  | single chars =>
      obtain ⟨c, -, rfl, -⟩ := reads
      simp
  | seq first second ihFirst ihSecond =>
      obtain ⟨head, tail, headMarks, tailMarks, rfl, -, readsHead, readsTail⟩ := reads
      simp only [nullable, Bool.and_eq_false_iff] at takes
      rcases takes with takes | takes
      · simp [ihSecond takes readsTail]
      · simp [ihFirst takes readsHead]
  | alt first second ihFirst ihSecond =>
      simp only [nullable, Bool.or_eq_false_iff] at takes
      rcases reads with reads | reads
      · exact ihFirst takes.1 reads
      · exact ihSecond takes.2 reads
  | star greedy body ih => simp [nullable] at takes
  | plus greedy body ih =>
      obtain ⟨head, tail, headMarks, tailMarks, rfl, -, readsHead, -⟩ := reads
      simp [ih takes readsHead]
  | group index body ih =>
      obtain ⟨inner, reads, -⟩ := reads
      exact ih takes reads
  | edge condition => simp [nullable] at takes

theorem eq_some_of_preferring {greedy : Bool} {again leave : Prospect} {outcome : Outcome}
    (h : preferring greedy again leave = some outcome) :
    again = some outcome ∨ leave = some outcome := by
  cases greedy <;> cases again <;> cases leave <;> simp_all [preferring]

theorem preferring_isSome (greedy : Bool) (again leave : Prospect) :
    (preferring greedy again leave).isSome = (again.isSome || leave.isSome) := by
  cases greedy <;> cases again <;> cases leave <;> rfl

/-- The outcome is that of `rest` behind something that the pattern reads. -/
def Reaches (pattern : Pattern) (rest : Sequel) (behind ahead : Text) (outcome : Outcome) : Prop :=
  ∃ word later marks final, ahead = word ++ later ∧ pattern.Reads behind word later marks ∧
    rest (word.reverse ++ behind) later = some final ∧
    outcome = ⟨final.stop, marks ++ final.marks⟩

private theorem reaches_star {greedy : Bool} {body : Pattern} {rest : Sequel}
    (takes : body.nullable = false)
    (sound : ∀ (rest : Sequel) (behind ahead : Text) (outcome : Outcome),
      body.best rest behind ahead = some outcome → body.Reaches rest behind ahead outcome)
    (size : Nat) {behind ahead : Text} {outcome : Outcome} (short : ahead.length ≤ size)
    (found : (star greedy body).best rest behind ahead = some outcome) :
    (star greedy body).Reaches rest behind ahead outcome := by
  induction size generalizing behind ahead outcome with
  | zero =>
      rw [best_star greedy body rest takes] at found
      rcases eq_some_of_preferring found with found | found
      · obtain ⟨word, later, marks, final, rfl, reads, -⟩ := sound _ _ _ _ found
        have := List.length_pos_iff.mpr (Reads.ne_nil takes reads)
        simp only [List.length_append] at short
        omega
      · exact ⟨[], ahead, [], outcome, rfl, .done behind ahead, found, rfl⟩
  | succ size ih =>
      rw [best_star greedy body rest takes] at found
      rcases eq_some_of_preferring found with found | found
      · obtain ⟨word, later, marks, middle, rfl, reads, again, rfl⟩ := sound _ _ _ _ found
        have := List.length_pos_iff.mpr (Reads.ne_nil takes reads)
        simp only [List.length_append] at short
        obtain ⟨next, final, others, last, rfl, rounds, done, rfl⟩ := ih (by omega) again
        exact ⟨word ++ next, final, marks ++ others, last, by simp, .more reads rounds,
          by simpa using done, by simp⟩
      · exact ⟨[], ahead, [], outcome, rfl, .done behind ahead, found, rfl⟩

theorem reaches_of_best {pattern : Pattern} (isPlain : pattern.plain = true) {rest : Sequel}
    {behind ahead : Text} {outcome : Outcome}
    (found : pattern.best rest behind ahead = some outcome) :
    pattern.Reaches rest behind ahead outcome := by
  induction pattern generalizing rest behind ahead outcome with
  | empty =>
      rw [best_empty] at found
      exact ⟨[], ahead, [], outcome, rfl, ⟨rfl, rfl⟩, found, rfl⟩
  | never => simp at found
  | single chars =>
      cases ahead with
      | nil => simp at found
      | cons c ahead =>
          rw [best_single_cons] at found
          split at found
          · next has => exact ⟨[c], ahead, [], outcome, rfl, ⟨c, has, rfl, rfl⟩, found, rfl⟩
          · simp at found
  | seq first second ihFirst ihSecond =>
      obtain ⟨plainFirst, plainSecond⟩ := Bool.and_eq_true_iff.mp isPlain
      rw [best_seq _ _ _ plainFirst] at found
      obtain ⟨head, ahead, headMarks, middle, rfl, readsHead, goesOn, rfl⟩ :=
        ihFirst plainFirst found
      obtain ⟨tail, later, tailMarks, final, rfl, readsTail, done, rfl⟩ :=
        ihSecond plainSecond goesOn
      exact ⟨head ++ tail, later, headMarks ++ tailMarks, final, by simp,
        ⟨head, tail, headMarks, tailMarks, rfl, rfl, readsHead, readsTail⟩, by simpa using done,
        by simp⟩
  | alt first second ihFirst ihSecond =>
      obtain ⟨plainFirst, plainSecond⟩ := Bool.and_eq_true_iff.mp isPlain
      rw [best_alt, Option.or_eq_some_iff] at found
      rcases found with found | ⟨-, found⟩
      · obtain ⟨word, later, marks, final, here, reads, done⟩ := ihFirst plainFirst found
        exact ⟨word, later, marks, final, here, .inl reads, done⟩
      · obtain ⟨word, later, marks, final, here, reads, done⟩ := ihSecond plainSecond found
        exact ⟨word, later, marks, final, here, .inr reads, done⟩
  | star greedy body ih =>
      obtain ⟨plainBody, takes⟩ := Bool.and_eq_true_iff.mp isPlain
      simp only [Bool.not_eq_true'] at takes
      exact reaches_star takes (fun _ _ _ _ found => ih plainBody found) _ (Nat.le_refl _) found
  | plus greedy body ih =>
      obtain ⟨plainBody, takes⟩ := Bool.and_eq_true_iff.mp isPlain
      simp only [Bool.not_eq_true'] at takes
      rw [best_plus _ _ _ takes] at found
      obtain ⟨head, ahead, headMarks, middle, rfl, readsHead, goesOn, rfl⟩ := ih plainBody found
      obtain ⟨tail, later, tailMarks, final, rfl, rounds, done, rfl⟩ :=
        reaches_star takes (fun _ _ _ _ found => ih plainBody found) _ (Nat.le_refl _) goesOn
      exact ⟨head ++ tail, later, headMarks ++ tailMarks, final, by simp,
        ⟨head, tail, headMarks, tailMarks, rfl, rfl, readsHead, rounds⟩, by simpa using done,
        by simp⟩
  | group index body ih =>
      rw [best_group, Option.map_eq_some_iff] at found
      obtain ⟨inside, found, rfl⟩ := found
      obtain ⟨word, later, marks, closed, rfl, reads, done, rfl⟩ := ih isPlain found
      rw [Option.map_eq_some_iff] at done
      obtain ⟨final, done, rfl⟩ := done
      exact ⟨word, later, _, final, rfl, ⟨marks, reads, rfl⟩, done,
        by simp [Outcome.opening, Outcome.closing]⟩
  | edge condition =>
      rw [best_edge] at found
      split at found
      · next holds => exact ⟨[], ahead, [], outcome, rfl, ⟨rfl, rfl, holds⟩, found, rfl⟩
      · simp at found

/-! ## Readings give outcomes -/

private theorem best_star_isSome {greedy : Bool} {body : Pattern} {rest : Sequel}
    (takes : body.nullable = false)
    (complete : ∀ (rest : Sequel) (behind word later : Text) (marks : List Mark),
      body.Reads behind word later marks → (rest (word.reverse ++ behind) later).isSome →
      (body.best rest behind (word ++ later)).isSome)
    {behind word later : Text} {marks : List Mark}
    (rounds : Rounds body.Reads behind word later marks)
    (goesOn : (rest (word.reverse ++ behind) later).isSome) :
    ((star greedy body).best rest behind (word ++ later)).isSome := by
  induction rounds with
  | done behind later =>
      rw [best_star _ _ _ takes, preferring_isSome]
      simp only [List.reverse_nil, List.nil_append] at goesOn ⊢
      simp [goesOn]
  | @more behind word next later marks others reads rounds ih =>
      rw [best_star _ _ _ takes, preferring_isSome, List.append_assoc]
      have := complete ((star greedy body).best rest) _ _ _ _ reads (ih (by simpa using goesOn))
      simp [this]

theorem best_isSome_of_reads {pattern : Pattern} (isPlain : pattern.plain = true) {rest : Sequel}
    {behind word later : Text} {marks : List Mark}
    (reads : pattern.Reads behind word later marks)
    (goesOn : (rest (word.reverse ++ behind) later).isSome) :
    (pattern.best rest behind (word ++ later)).isSome := by
  induction pattern generalizing rest behind word later marks with
  | empty =>
      obtain ⟨rfl, -⟩ := reads
      simpa using goesOn
  | never => exact reads.elim
  | single chars =>
      obtain ⟨c, has, rfl, -⟩ := reads
      simpa [has] using goesOn
  | seq first second ihFirst ihSecond =>
      obtain ⟨plainFirst, plainSecond⟩ := Bool.and_eq_true_iff.mp isPlain
      obtain ⟨head, tail, headMarks, tailMarks, rfl, -, readsHead, readsTail⟩ := reads
      rw [best_seq _ _ _ plainFirst, List.append_assoc]
      exact ihFirst plainFirst readsHead (ihSecond plainSecond readsTail (by simpa using goesOn))
  | alt first second ihFirst ihSecond =>
      obtain ⟨plainFirst, plainSecond⟩ := Bool.and_eq_true_iff.mp isPlain
      rw [best_alt, Option.isSome_or, Bool.or_eq_true]
      rcases reads with reads | reads
      · exact .inl (ihFirst plainFirst reads goesOn)
      · exact .inr (ihSecond plainSecond reads goesOn)
  | star greedy body ih =>
      obtain ⟨plainBody, takes⟩ := Bool.and_eq_true_iff.mp isPlain
      simp only [Bool.not_eq_true'] at takes
      exact best_star_isSome takes (fun _ _ _ _ _ reads => ih plainBody reads) reads goesOn
  | plus greedy body ih =>
      obtain ⟨plainBody, takes⟩ := Bool.and_eq_true_iff.mp isPlain
      simp only [Bool.not_eq_true'] at takes
      obtain ⟨head, tail, headMarks, tailMarks, rfl, -, readsHead, rounds⟩ := reads
      rw [best_plus _ _ _ takes, List.append_assoc]
      exact ih plainBody readsHead (best_star_isSome takes
        (fun _ _ _ _ _ reads => ih plainBody reads) rounds (by simpa using goesOn))
  | group index body ih =>
      obtain ⟨inner, reads, -⟩ := reads
      rw [best_group, Option.isSome_map]
      exact ih isPlain reads (by simpa using goesOn)
  | edge condition =>
      obtain ⟨rfl, -, holds⟩ := reads
      simp only [List.nil_append, List.reverse_nil] at goesOn ⊢
      simpa [holds] using goesOn

end Pattern

end Compliance
