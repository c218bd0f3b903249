import Compliance.Proofs.Pattern.Alike
import Compliance.Proofs.Pattern.Words

/-!
# One character more

A pattern that never leads over the last character of a text matches there what it matches
in the text without that character.  A part may have the character in its sets, as long as
what follows it needs another one.
-/

namespace Compliance

def Cursor.longer (c : Char) (place : Cursor) : Cursor := { place with ahead := place.ahead ++ [c] }

def Cursor.Within (size : Nat) (place : Cursor) : Prop := place.offset + place.ahead.length = size

def Mark.longer (c : Char) (mark : Mark) : Mark := { mark with place := mark.place.longer c }

def Outcome.longer (c : Char) (outcome : Outcome) : Outcome :=
  ⟨outcome.stop.longer c, outcome.marks.map (·.longer c)⟩

def Match.longer (c : Char) (found : Match) : Match :=
  ⟨found.start.longer c, found.stop.longer c, found.marks.map (·.longer c)⟩

variable {c : Char} {behind word ahead rest : Text} {marks : List Mark}

theorem Match.longer_of :
    (of behind word rest marks).longer c =
      of behind word (rest ++ [c]) (marks.map (·.longer c)) := by
  simp [longer, of, Cursor.longer, Cursor.between]

theorem longer_closing (index : Nat) (found : Prospect) :
    (found.map (·.closing index (.between behind ahead))).map (·.longer c) =
      (found.map (·.longer c)).map (·.closing index (.between behind (ahead ++ [c]))) := by
  cases found <;> rfl

theorem longer_opening (index : Nat) (found : Prospect) :
    (found.map (·.opening index (.between behind ahead))).map (·.longer c) =
      (found.map (·.longer c)).map (·.opening index (.between behind (ahead ++ [c]))) := by
  cases found <;> rfl

namespace Pattern

/-- Behind the last character, neither the pattern nor what follows it goes on; the argument says
so of what follows. -/
def shuts (shut : Bool) : Pattern → Bool
  | empty => shut
  | never => true
  | single _ => true
  | seq first second => first.shuts (second.shuts shut)
  | alt first second => first.shuts shut && second.shuts shut
  | star _ _ => shut
  | plus _ _ => true
  | group _ body => body.shuts shut
  | edge (.word .edge) => true
  | edge _ => shut

/-- No set with the character is followed by something that could go on behind it, and no edge
tells the character from the end of the text. -/
def sheds (c : Char) (shut : Bool) : Pattern → Bool
  | empty => true
  | never => true
  | single chars => !chars.has c || shut
  | seq first second => first.sheds c (second.shuts shut) && second.sheds c shut
  | alt first second => first.sheds c shut && second.sheds c shut
  | star _ body => body.sheds c shut
  | plus _ body => body.sheds c shut
  | group _ body => body.sheds c shut
  | edge .textStart => true
  | edge (.word _) => true
  | edge _ => false

def Shut (c : Char) (other : Sequel) : Prop := ∀ behind, other (c :: behind) [] = none

/-- On the longer text the second sequel goes as the first one does on the shorter. -/
def Carried (c : Char) (next other : Sequel) : Prop :=
  ∀ behind ahead, other behind (ahead ++ [c]) = (next behind ahead).map (·.longer c)

variable {next other : Sequel}

theorem best_nil {pattern : Pattern} (isPlain : pattern.plain = true)
    (takes : pattern.nullable = false) (next : Sequel) (behind : Text) :
    pattern.best next behind [] = none := by
  cases found : pattern.best next behind [] with
  | none => rfl
  | some outcome =>
      obtain ⟨word, later, marks, final, here, reads, -⟩ := reaches_of_best isPlain found
      exact absurd (List.append_eq_nil_iff.mp here.symm).1 (reads.ne_nil takes)

theorem shut_star {body : Pattern} {greedy : Bool} (isPlain : body.plain = true)
    (takes : body.nullable = false) (closed : Shut c other) :
      Shut c ((star greedy body).best other) := by
  intro behind
  rw [best_star _ _ _ takes, best_nil isPlain takes, closed]
  cases greedy <;> rfl

theorem shut_best {pattern : Pattern} (isPlain : pattern.plain = true) (noWord : isWord c = false)
    {shut : Bool} (shuts : pattern.shuts shut = true) (closed : shut = true → Shut c other) :
    Shut c (pattern.best other) := by
  induction pattern generalizing other shut with
  | empty => simpa using closed shuts
  | never => exact fun behind => by simp
  | single chars => exact fun behind => by simp
  | seq first second ihFirst ihSecond =>
      obtain ⟨plainFirst, plainSecond⟩ := Bool.and_eq_true_iff.mp isPlain
      rw [best_seq _ _ _ plainFirst]
      exact ihFirst plainFirst shuts fun later => ihSecond plainSecond later closed
  | alt first second ihFirst ihSecond =>
      obtain ⟨plainFirst, plainSecond⟩ := Bool.and_eq_true_iff.mp isPlain
      obtain ⟨one, two⟩ := Bool.and_eq_true_iff.mp shuts
      intro behind
      rw [best_alt, ihFirst plainFirst one closed, ihSecond plainSecond two closed]
      rfl
  | star greedy body ih =>
      obtain ⟨plainBody, takes⟩ := Bool.and_eq_true_iff.mp isPlain
      exact shut_star plainBody (by simpa using takes) (closed shuts)
  | plus greedy body ih =>
      obtain ⟨plainBody, takes⟩ := Bool.and_eq_true_iff.mp isPlain
      have takes : body.nullable = false := by simpa using takes
      intro behind
      rw [best_plus _ _ _ takes, best_nil plainBody takes]
  | group index body ih =>
      intro behind
      rw [best_group, ih isPlain shuts fun same => ?_]
      · rfl
      · intro behind
        simp [closed same behind]
  | edge condition =>
      intro behind
      rw [best_edge]
      split
      · next holds =>
          cases condition with
          | word kind =>
              cases kind with
              | edge => simp [Edge.holds, WordEdge.holds, noWord] at holds
              | _ => exact closed shuts behind
          | _ => exact closed shuts behind
      · rfl

theorem map_preferring (greedy : Bool) (again leave : Prospect) (view : Outcome → Outcome) :
    (preferring greedy again leave).map view =
      preferring greedy (again.map view) (leave.map view) := by
  cases greedy <;> cases again <;> cases leave <;> rfl

private theorem carried_star {body : Pattern} {greedy : Bool} (isPlain : body.plain = true)
    (takes : body.nullable = false) {shut : Bool} (closed : shut = true → Shut c other)
    (step : ∀ {next other : Sequel}, (shut = true → Shut c other) → Carried c next other →
      Carried c (body.best next) (body.best other))
    (carried : Carried c next other) :
    Carried c ((star greedy body).best next) ((star greedy body).best other) := by
  have cut (again : Sequel) (behind text : Text) :
      body.best again behind text = body.best (within text.length again) behind text :=
    best_congr takes fun before later short => by simp [within, short]
  intro behind ahead
  induction size : ahead.length using Nat.strongRecOn generalizing behind ahead with
  | _ size ih =>
      rw [best_star _ _ _ takes, best_star _ _ _ takes, map_preferring, carried behind ahead,
        cut _ _ ahead, cut _ _ (ahead ++ [c])]
      have shorter : Carried c (within ahead.length ((star greedy body).best next))
          (within (ahead ++ [c]).length ((star greedy body).best other)) := by
        intro before later
        simp only [within, List.length_append, List.length_singleton, Nat.add_lt_add_iff_right]
        split
        · next short => exact ih later.length (size ▸ short) before later rfl
        · rfl
      have stays : shut = true →
          Shut c (within (ahead ++ [c]).length ((star greedy body).best other)) := by
        intro same before
        simp [within, shut_star isPlain takes (closed same) before]
      rw [step stays shorter behind ahead]

/-- A pattern that stops before the character goes on the longer text as on the shorter one. -/
theorem carried_best {pattern : Pattern} (isPlain : pattern.plain = true)
    (noWord : isWord c = false)
    {shut : Bool} (sheds : pattern.sheds c shut = true) (closed : shut = true → Shut c other)
    (carried : Carried c next other) : Carried c (pattern.best next) (pattern.best other) := by
  induction pattern generalizing next other shut with
  | empty => simpa using carried
  | never => exact fun behind ahead => by simp
  | single chars =>
      intro behind ahead
      cases ahead with
      | nil =>
          rw [List.nil_append, best_single_cons, best_single_nil]
          split
          · next has =>
              have same : shut = true := by simpa [Pattern.sheds, has] using sheds
              exact closed same behind
          · rfl
      | cons d ahead =>
          rw [List.cons_append, best_single_cons, best_single_cons]
          split
          · exact carried _ _
          · rfl
  | seq first second ihFirst ihSecond =>
      obtain ⟨plainFirst, plainSecond⟩ := Bool.and_eq_true_iff.mp isPlain
      obtain ⟨shedsFirst, shedsSecond⟩ := Bool.and_eq_true_iff.mp sheds
      rw [best_seq _ _ _ plainFirst, best_seq _ _ _ plainFirst]
      exact ihFirst plainFirst shedsFirst (fun later => shut_best plainSecond noWord later closed)
        (ihSecond plainSecond shedsSecond closed carried)
  | alt first second ihFirst ihSecond =>
      obtain ⟨plainFirst, plainSecond⟩ := Bool.and_eq_true_iff.mp isPlain
      obtain ⟨shedsFirst, shedsSecond⟩ := Bool.and_eq_true_iff.mp sheds
      intro behind ahead
      rw [best_alt, best_alt, ihFirst plainFirst shedsFirst closed carried,
        ihSecond plainSecond shedsSecond closed carried]
      cases first.best next behind ahead <;> rfl
  | star greedy body ih =>
      obtain ⟨plainBody, takes⟩ := Bool.and_eq_true_iff.mp isPlain
      exact carried_star plainBody (by simpa using takes) closed (ih plainBody sheds) carried
  | plus greedy body ih =>
      obtain ⟨plainBody, takes⟩ := Bool.and_eq_true_iff.mp isPlain
      have takes : body.nullable = false := by simpa using takes
      rw [best_plus _ _ _ takes, best_plus _ _ _ takes]
      exact ih plainBody sheds (fun same => shut_star plainBody takes (closed same))
        (carried_star plainBody takes closed (ih plainBody sheds) carried)
  | group index body ih =>
      intro behind ahead
      rw [best_group, best_group, longer_opening]
      refine congrArg _ (ih isPlain sheds (fun same behind => ?_) (fun before later => ?_)
        behind ahead)
      · simp [closed same behind]
      · rw [carried, longer_closing]
  | edge condition =>
      intro behind ahead
      have same : condition.holds behind.head? (ahead ++ [c]).head? =
          condition.holds behind.head? ahead.head? := by
        cases ahead with
        | nil =>
            cases condition with
            | textStart => rfl
            | word kind => cases kind <;> simp [Edge.holds, WordEdge.holds, noWord]
            | _ => simp [Pattern.sheds] at sheds
        | cons d ahead => rfl
      rw [best_edge, best_edge, same]
      split
      · exact carried behind ahead
      · rfl

/-! ## Matches of the longer text -/

structure Stops (c : Char) (pattern : Pattern) : Prop where
  isPlain : pattern.plain = true
  takes : pattern.nullable = false
  sheds : pattern.sheds c false = true

variable {pattern : Pattern}

theorem Stops.matchAt_append (stops : pattern.Stops c) (noWord : isWord c = false)
    (behind ahead : Text) :
    pattern.matchAt behind (ahead ++ [c]) = (pattern.matchAt behind ahead).map (·.longer c) := by
  have carried : Carried c finish finish := fun _ _ => rfl
  have same := carried_best stops.isPlain noWord stops.sheds (fun none => by cases none) carried
    behind ahead
  rw [matchAt, matchAt, same]
  cases pattern.best finish behind ahead <;> rfl

theorem Stops.matchesFrom_append (stops : pattern.Stops c) (noWord : isWord c = false)
    (behind ahead : Text) :
    pattern.matchesFrom behind (ahead ++ [c]) =
      (pattern.matchesFrom behind ahead).map (Option.map (·.longer c)) ++ [none] := by
  induction ahead generalizing behind with
  | nil =>
      have last : pattern.matchAt (c :: behind) [] = none := by
        rw [matchAt, best_nil stops.isPlain stops.takes]
        rfl
      have first := stops.matchAt_append noWord behind []
      rw [List.nil_append] at first ⊢
      simp [matchesFrom, first, last]
  | cons d ahead ih =>
      have first := stops.matchAt_append noWord behind (d :: ahead)
      rw [List.cons_append] at first ⊢
      simp [matchesFrom, first, ih]

theorem apart_longer (skip : Nat) (flag : Bool) (found : List (Option Match)) :
    apart skip flag (found.map (Option.map (·.longer c)) ++ [none]) =
      (apart skip flag found).map (·.longer c) := by
  induction found generalizing skip flag with
  | nil => cases skip <;> rfl
  | cons first found ih =>
      cases skip with
      | succ skip => exact ih skip flag
      | zero =>
          cases first with
          | none => exact ih 0 false
          | some first =>
              have size : (first.longer c).length = first.length := rfl
              simp only [List.map_cons, Option.map_some, List.cons_append, apart, size]
              split
              · split
                · exact ih 0 false
                · rw [ih, List.map_cons]
              · rw [ih, List.map_cons]

theorem Stops.allMatches_append (stops : pattern.Stops c) (noWord : isWord c = false)
    (text : Text) :
    pattern.allMatches (text ++ [c]) = (pattern.allMatches text).map (·.longer c) := by
  rw [allMatches, allMatches, matchesByPlace_eq, matchesByPlace_eq,
    stops.matchesFrom_append noWord, apart_longer]

theorem Stops.occurs_append (stops : pattern.Stops c) (noWord : isWord c = false) (text : Text) :
    pattern.occurs (text ++ [c]) = pattern.occurs text := by
  rw [occurs, occurs, find?, find?, matchesByPlace_eq, matchesByPlace_eq,
    stops.matchesFrom_append noWord]
  induction pattern.matchesFrom [] text with
  | nil => rfl
  | cons first found ih => cases first <;> simp_all

private theorem Rounds.placed {body : Pattern} {size : Nat}
    (step : ∀ {behind word rest : Text} {marks : List Mark}, body.Reads behind word rest marks →
      behind.length + (word ++ rest).length = size →
        ∀ mark ∈ marks, mark.place.Within size)
    (rounds : Rounds body.Reads behind word rest marks)
    (whole : behind.length + (word ++ rest).length = size) :
    ∀ mark ∈ marks, mark.place.Within size := by
  induction rounds with
  | done => simp
  | more reads _ ih =>
      simp only [List.length_append, List.length_reverse] at whole ih
      intro mark here
      rcases List.mem_append.mp here with here | here
      · exact step reads (by simp only [List.length_append]; omega) mark here
      · exact ih (by omega) mark here

theorem Reads.placed {size : Nat} (reads : pattern.Reads behind word rest marks)
    (whole : behind.length + (word ++ rest).length = size) :
    ∀ mark ∈ marks, mark.place.Within size := by
  induction pattern generalizing behind word rest marks with
  | empty => simp [reads.2]
  | never => exact reads.elim
  | single chars =>
      obtain ⟨d, -, -, rfl⟩ := reads
      simp
  | seq first second ihFirst ihSecond =>
      obtain ⟨head, tail, headMarks, tailMarks, rfl, rfl, readsHead, readsTail⟩ := reads
      simp only [List.length_append] at whole
      intro mark here
      rcases List.mem_append.mp here with here | here
      · exact ihFirst readsHead (by simp only [List.length_append]; omega) mark here
      · exact ihSecond readsTail
          (by simp only [List.length_append, List.length_reverse]; omega) mark here
  | alt first second ihFirst ihSecond =>
      rcases reads with reads | reads
      · exact ihFirst reads whole
      · exact ihSecond reads whole
  | star greedy body ih => exact Rounds.placed ih reads whole
  | plus greedy body ih =>
      obtain ⟨head, tail, headMarks, tailMarks, rfl, rfl, readsHead, rounds⟩ := reads
      simp only [List.length_append] at whole
      intro mark here
      rcases List.mem_append.mp here with here | here
      · exact ih readsHead (by simp only [List.length_append]; omega) mark here
      · refine Rounds.placed ih rounds ?_ mark here
        simp only [List.length_append, List.length_reverse]
        omega
  | group index body ih =>
      obtain ⟨inner, reads, rfl⟩ := reads
      intro mark here
      simp only [List.cons_append, List.mem_cons, List.mem_append, List.not_mem_nil,
        or_false] at here
      rcases here with rfl | here | rfl
      · exact whole
      · exact ih reads whole mark here
      · simp only [Cursor.Within, Cursor.between, List.length_append,
          List.length_reverse] at whole ⊢
        omega
  | edge condition => simp [reads.2.1]

end Pattern

namespace Match

theorem lastSpan_longer {index size : Nat} {opened : Option Cursor}
    {found : Option (Cursor × Cursor)} (inside : ∀ mark ∈ marks, mark.place.Within size)
    (start : ∀ place, opened = some place → place.Within size)
    (span : ∀ first second, found = some (first, second) →
      first.Within size ∧ second.Within size) :
    (lastSpan index (opened.map (·.longer c))
      (found.map fun span => (span.1.longer c, span.2.longer c))
        (marks.map (·.longer c))).map (fun span => span.1.upTo span.2) =
      (lastSpan index opened found marks).map fun span => span.1.upTo span.2 := by
  induction marks generalizing opened found with
  | nil =>
      cases found with
      | none => rfl
      | some span' =>
          obtain ⟨first, second⟩ := span'
          obtain ⟨one, two⟩ := span first second rfl
          have short : second.offset - first.offset ≤ first.ahead.length := by
            simp only [Cursor.Within] at one two
            omega
          simp [lastSpan, Cursor.upTo, Cursor.longer, List.take_append_of_le_length short]
  | cons mark marks ih =>
      rw [List.forall_mem_cons] at inside
      have size : (mark.longer c).index = mark.index ∧ (mark.longer c).isStart = mark.isStart :=
        ⟨rfl, rfl⟩
      simp only [List.map_cons, lastSpan, size.1, size.2]
      split
      · exact ih inside.2 start span
      · split
        · refine @ih (some mark.place) found inside.2 ?_ span
          intro place same
          exact Option.some.inj same ▸ inside.1
        · have closed := @ih none (opened.map fun start => (start, mark.place)) inside.2
              (by simp) ?_
          · rw [← closed]
            cases opened <;> rfl
          · intro first second same
            cases opened with
            | none => cases same
            | some place =>
                obtain ⟨rfl, rfl⟩ := Prod.mk.inj (Option.some.inj same)
                exact ⟨start place rfl, inside.1⟩

theorem group?_longer {pattern : Pattern} (reads : pattern.Reads behind word rest marks)
    (index : Nat) :
    ((of behind word rest marks).longer c).group? index =
      (of behind word rest marks).group? index := by
  by_cases whole : index = 0
  · subst whole
    rw [longer_of, group?, group?, if_pos rfl, if_pos rfl, text_of, text_of]
  · rw [group?, group?, if_neg whole, if_neg whole]
    exact @lastSpan_longer _ _ _ _ none none (reads.placed rfl) (by simp) (by simp)

end Match

theorem splice_longer {pattern : Pattern} {replacement : Match → Text} {found : List Match}
    (cuts : pattern.Cuts behind ahead found)
    (same : ∀ {behind word rest marks}, pattern.Reads behind word rest marks →
      replacement ((Match.of behind word rest marks).longer c) =
        replacement (.of behind word rest marks)) :
    splice replacement (.between behind (ahead ++ [c])) (found.map (·.longer c)) =
      splice replacement (.between behind ahead) found ++ [c] := by
  induction cuts with
  | rest quiet => rfl
  | @found behind gap word rest marks others quiet here reads later ih =>
      have first := same reads
      rw [Match.longer_of] at first
      have longer : gap ++ (word ++ rest) ++ [c] = gap ++ (word ++ (rest ++ [c])) := by simp
      rw [List.map_cons, Match.longer_of, longer, splice_of, splice_of, ih, first]
      simp

end Compliance
