import Compliance.Proofs.Pattern.Reads

/-!
# Texts that agree up to a character

A pattern none of whose characters is the stop takes the same way through two texts
that agree up to the stop, provided that what follows the pattern goes the same way
on both.  Ways are compared by the marks on them.
-/

namespace Compliance

namespace Pattern

/-- The marks on the best way, each with what lies behind it. -/
def trail (found : Prospect) : Option (List (Bool × Nat × Text)) :=
  found.map fun outcome =>
    outcome.marks.map fun mark => (mark.isStart, mark.index, mark.place.behind)

@[simp] theorem trail_none : trail none = none := rfl

theorem trail_or (first second : Prospect) :
    trail (first.or second) = (trail first).or (trail second) := by
  cases first <;> rfl

theorem trail_closing (index : Nat) (place : Cursor) (found : Prospect) :
    trail (found.map (·.closing index place)) =
      (trail found).map ((false, index, place.behind) :: ·) := by
  cases found <;> rfl

theorem trail_opening (index : Nat) (place : Cursor) (found : Prospect) :
    trail (found.map (·.opening index place)) =
      (trail found).map ((true, index, place.behind) :: ·) := by
  cases found <;> rfl

theorem sweepFrom_congr {pattern : Pattern} {rest other : Sequel} {behind ahead : Text}
    (same : ∀ before later, later.length ≤ ahead.length → rest before later = other before later) :
    pattern.sweepFrom rest behind ahead = pattern.sweepFrom other behind ahead := by
  induction ahead generalizing behind with
  | nil => simp only [sweepFrom, same behind [] (Nat.le_refl _)]
  | cons c ahead ih =>
      have later : pattern.sweepFrom rest (c :: behind) ahead =
          pattern.sweepFrom other (c :: behind) ahead :=
        ih fun before later short => same before later (Nat.le_succ_of_le short)
      simp only [sweepFrom, later, same behind (c :: ahead) (Nat.le_refl _)]

theorem best_congr {pattern : Pattern} (takes : pattern.nullable = false) {rest other : Sequel}
    {behind ahead : Text}
    (same : ∀ before later, later.length < ahead.length → rest before later = other before later) :
    pattern.best rest behind ahead = pattern.best other behind ahead := by
  have cells : pattern.cellsAfter rest behind ahead = pattern.cellsAfter other behind ahead := by
    cases ahead with
    | nil => rfl
    | cons c ahead =>
        have later : pattern.sweepFrom rest (c :: behind) ahead =
            pattern.sweepFrom other (c :: behind) ahead :=
          sweepFrom_congr fun before later short => same before later (Nat.lt_succ_of_le short)
        simp only [cellsAfter, later]
  rw [best_eq, best_eq, cells]
  exact prospect_eq_of_not_nullable pattern _ _ _ _ takes

def avoids (stop : Char) : Pattern → Bool
  | empty => true
  | never => true
  | single chars => !chars.has stop
  | seq first second => first.avoids stop && second.avoids stop
  | alt first second => first.avoids stop && second.avoids stop
  | star _ body => body.avoids stop
  | plus _ body => body.avoids stop
  | group _ body => body.avoids stop
  | edge _ => true

/-- Up to the stop, the sequels leave the same trail. -/
def Alike (stop : Char) (ahead later : Text) (rest other : Sequel) : Prop :=
  ∀ behind word, stop ∉ word →
    trail (rest behind (word ++ stop :: ahead)) = trail (other behind (word ++ stop :: later))

variable {stop : Char} {ahead later : Text} {rest other : Sequel}

theorem trail_preferring (greedy : Bool) (again leave : Prospect) :
    trail (preferring greedy again leave) =
      if greedy then (trail again).or (trail leave) else (trail leave).or (trail again) := by
  cases greedy <;> simp [preferring, trail_or]

def within (size : Nat) (rest : Sequel) : Sequel := fun behind ahead =>
  if ahead.length < size then rest behind ahead else none

private theorem alike_star {body : Pattern} {greedy : Bool} (takes : body.nullable = false)
    (step : ∀ {rest other : Sequel}, Alike stop ahead later rest other →
      Alike stop ahead later (body.best rest) (body.best other))
    (alike : Alike stop ahead later rest other) :
    Alike stop ahead later ((star greedy body).best rest) ((star greedy body).best other) := by
  have cut (again : Sequel) (behind text : Text) :
      body.best again behind text = body.best (within text.length again) behind text :=
    best_congr takes fun before next short => by simp [within, short]
  intro behind word clear
  induction size : word.length using Nat.strongRecOn generalizing behind word with
  | _ size ih =>
      rw [best_star _ _ _ takes, best_star _ _ _ takes, trail_preferring, trail_preferring,
        alike behind word clear, cut _ _ (word ++ stop :: ahead), cut _ _ (word ++ stop :: later)]
      -- the rounds that follow the first one are those of shorter words
      have shorter : Alike stop ahead later
          (within (word ++ stop :: ahead).length ((star greedy body).best rest))
          (within (word ++ stop :: later).length ((star greedy body).best other)) := by
        intro before next free
        simp only [within, List.length_append, List.length_cons, Nat.add_lt_add_iff_right]
        split
        · next short => exact ih next.length (size ▸ short) before next free rfl
        · rfl
      rw [step shorter behind word clear]

/-- Up to a character that it avoids, a pattern goes the same way. -/
theorem alike_best {pattern : Pattern} (isPlain : pattern.plain = true)
    (free : pattern.avoids stop = true) (alike : Alike stop ahead later rest other) :
    Alike stop ahead later (pattern.best rest) (pattern.best other) := by
  induction pattern generalizing rest other with
  | empty => simpa using alike
  | never => exact fun behind word _ => by simp
  | single chars =>
      intro behind word clear
      cases word with
      | nil =>
          have out : chars.has stop = false := by simpa [avoids] using free
          simp [out]
      | cons c word =>
          simp only [List.mem_cons, not_or] at clear
          simp only [List.cons_append, best_single_cons]
          split
          · exact alike _ _ clear.2
          · rfl
  | seq first second ihFirst ihSecond =>
      obtain ⟨plainFirst, plainSecond⟩ := Bool.and_eq_true_iff.mp isPlain
      obtain ⟨freeFirst, freeSecond⟩ := Bool.and_eq_true_iff.mp free
      rw [best_seq _ _ _ plainFirst, best_seq _ _ _ plainFirst]
      exact ihFirst plainFirst freeFirst (ihSecond plainSecond freeSecond alike)
  | alt first second ihFirst ihSecond =>
      obtain ⟨plainFirst, plainSecond⟩ := Bool.and_eq_true_iff.mp isPlain
      obtain ⟨freeFirst, freeSecond⟩ := Bool.and_eq_true_iff.mp free
      intro behind word clear
      rw [best_alt, best_alt, trail_or, trail_or, ihFirst plainFirst freeFirst alike _ _ clear,
        ihSecond plainSecond freeSecond alike _ _ clear]
  | star greedy body ih =>
      obtain ⟨plainBody, takes⟩ := Bool.and_eq_true_iff.mp isPlain
      exact alike_star (by simpa using takes) (ih plainBody free) alike
  | plus greedy body ih =>
      obtain ⟨plainBody, takes⟩ := Bool.and_eq_true_iff.mp isPlain
      have takes : body.nullable = false := by simpa using takes
      rw [best_plus _ _ _ takes, best_plus _ _ _ takes]
      exact ih plainBody free (alike_star takes (ih plainBody free) alike)
  | group index body ih =>
      intro behind word clear
      rw [best_group, best_group, trail_opening, trail_opening]
      refine congrArg _ (ih isPlain free ?_ behind word clear)
      intro behind word clear
      simp only [trail_closing, alike behind word clear]
      rfl
  | edge condition =>
      intro behind word clear
      have first : (word ++ stop :: ahead).head? = (word ++ stop :: later).head? := by
        cases word <;> rfl
      rw [best_edge, best_edge, first]
      split
      · exact alike behind word clear
      · rfl

private theorem Rounds.not_mem {body : Pattern} {c : Char} {behind word rest : Text}
    {marks : List Mark}
    (step : ∀ {behind word rest : Text} {marks : List Mark},
      body.Reads behind word rest marks → c ∉ word)
    (rounds : Rounds body.Reads behind word rest marks) : c ∉ word := by
  induction rounds with
  | done => simp
  | more reads _ ih => simp [step reads, ih]

theorem Reads.not_mem {pattern : Pattern} {c : Char} (free : pattern.avoids c = true)
    {behind word rest : Text} {marks : List Mark} (reads : pattern.Reads behind word rest marks) :
    c ∉ word := by
  induction pattern generalizing behind word rest marks with
  | empty => simp [reads.1]
  | never => exact reads.elim
  | single chars =>
      obtain ⟨x, has, rfl, -⟩ := reads
      intro here
      obtain rfl := List.mem_singleton.mp here
      simp [avoids, has] at free
  | seq first second ihFirst ihSecond =>
      obtain ⟨freeFirst, freeSecond⟩ := Bool.and_eq_true_iff.mp free
      obtain ⟨head, tail, headMarks, tailMarks, rfl, -, readsHead, readsTail⟩ := reads
      simp [ihFirst freeFirst readsHead, ihSecond freeSecond readsTail]
  | alt first second ihFirst ihSecond =>
      obtain ⟨freeFirst, freeSecond⟩ := Bool.and_eq_true_iff.mp free
      rcases reads with reads | reads
      · exact ihFirst freeFirst reads
      · exact ihSecond freeSecond reads
  | star greedy body ih => exact Rounds.not_mem (ih free) reads
  | plus greedy body ih =>
      obtain ⟨head, tail, headMarks, tailMarks, rfl, -, readsHead, rounds⟩ := reads
      simp [ih free readsHead, Rounds.not_mem (ih free) rounds]
  | group index body ih =>
      obtain ⟨inner, reads, -⟩ := reads
      exact ih free reads
  | edge condition => simp [reads.1]

/-! ## Other neighbours -/

def edgesIn (known : Edge → Bool) : Pattern → Bool
  | seq first second => first.edgesIn known && second.edgesIn known
  | alt first second => first.edgesIn known && second.edgesIn known
  | star _ body => body.edgesIn known
  | plus _ body => body.edgesIn known
  | group _ body => body.edgesIn known
  | edge condition => known condition
  | _ => true

/-- The known edges do not tell close neighbours from each other, whatever word lies between. -/
structure Blurs (known : Edge → Bool) (close : Text → Text → Prop) : Prop where
  append {first second : Text} : close first second → ∀ word, close (word ++ first) (word ++ second)
  holds_eq {condition : Edge} {behind before rest after : Text} : known condition = true →
    close behind before → close rest after →
      condition.holds behind.head? rest.head? = condition.holds before.head? after.head?

variable {known : Edge → Bool} {close : Text → Text → Prop}
  {behind before word rest after : Text} {marks : List Mark}

private theorem Rounds.moved_of {body : Pattern} (blurs : Blurs known close)
    (step : ∀ {behind before word rest after : Text} {marks : List Mark},
      close behind before → close rest after → body.Reads behind word rest marks →
        ∃ others, body.Reads before word after others)
    (back : close behind before) (front : close rest after)
    (rounds : Rounds body.Reads behind word rest marks) :
    ∃ others, Rounds body.Reads before word after others := by
  induction rounds generalizing before with
  | done behind rest => exact ⟨[], .done before after⟩
  | more reads _ ih =>
      obtain ⟨first, reads⟩ := step back (blurs.append front _) reads
      obtain ⟨others, rounds⟩ := ih (blurs.append back _) front
      exact ⟨first ++ others, .more reads rounds⟩

theorem Reads.moved_of {pattern : Pattern} (blurs : Blurs known close)
    (edges : pattern.edgesIn known = true) (back : close behind before) (front : close rest after)
    (reads : pattern.Reads behind word rest marks) :
    ∃ others, pattern.Reads before word after others := by
  induction pattern generalizing behind before word rest after marks with
  | empty => exact ⟨marks, reads⟩
  | never => exact reads.elim
  | single chars => exact ⟨marks, reads⟩
  | seq first second ihFirst ihSecond =>
      obtain ⟨edgesFirst, edgesSecond⟩ := Bool.and_eq_true_iff.mp edges
      obtain ⟨head, tail, headMarks, tailMarks, rfl, rfl, readsHead, readsTail⟩ := reads
      obtain ⟨one, readsHead⟩ := ihFirst edgesFirst back (blurs.append front tail) readsHead
      obtain ⟨two, readsTail⟩ :=
        ihSecond edgesSecond (blurs.append back head.reverse) front readsTail
      exact ⟨one ++ two, head, tail, one, two, rfl, rfl, readsHead, readsTail⟩
  | alt first second ihFirst ihSecond =>
      obtain ⟨edgesFirst, edgesSecond⟩ := Bool.and_eq_true_iff.mp edges
      rcases reads with reads | reads
      · obtain ⟨others, reads⟩ := ihFirst edgesFirst back front reads
        exact ⟨others, .inl reads⟩
      · obtain ⟨others, reads⟩ := ihSecond edgesSecond back front reads
        exact ⟨others, .inr reads⟩
  | star greedy body ih => exact Rounds.moved_of blurs (ih edges) back front reads
  | plus greedy body ih =>
      obtain ⟨head, tail, headMarks, tailMarks, rfl, rfl, readsHead, rounds⟩ := reads
      obtain ⟨one, readsHead⟩ := ih edges back (blurs.append front tail) readsHead
      obtain ⟨two, rounds⟩ :=
        Rounds.moved_of blurs (ih edges) (blurs.append back head.reverse) front rounds
      exact ⟨one ++ two, head, tail, one, two, rfl, rfl, readsHead, rounds⟩
  | group index body ih =>
      obtain ⟨inner, reads, -⟩ := reads
      obtain ⟨others, reads⟩ := ih edges back front reads
      exact ⟨_, others, reads, rfl⟩
  | edge condition =>
      obtain ⟨rfl, rfl, holds⟩ := reads
      exact ⟨[], rfl, rfl, blurs.holds_eq edges back front ▸ holds⟩

theorem Reads.anywhere {pattern : Pattern} (edgeless : pattern.edgesIn (fun _ => false) = true)
    (reads : pattern.Reads behind word rest marks) (before after : Text) :
    ∃ others, pattern.Reads before word after others := by
  have blurs : Blurs (fun _ => false) fun _ _ => True :=
    ⟨fun _ _ => trivial, fun edge => by cases edge⟩
  exact reads.moved_of blurs edgeless trivial trivial

def seesWords : Pattern → Bool
  | seq first second => first.seesWords && second.seesWords
  | alt first second => first.seesWords && second.seesWords
  | star _ body => body.seesWords
  | plus _ body => body.seesWords
  | group _ body => body.seesWords
  | edge .textStart => true
  | edge .textEnd => true
  | edge (.word _) => true
  | edge _ => false
  | _ => true

def Similar (first second : Text) : Prop :=
  first.head? = second.head? ∨ first.head?.any isWord = true ∧ second.head?.any isWord = true

theorem Similar.append {first second : Text} (similar : Similar first second) (word : Text) :
    Similar (word ++ first) (word ++ second) := by
  cases word with
  | nil => exact similar
  | cons c word => exact .inl rfl

theorem Similar.any_eq {first second : Text} (similar : Similar first second) :
    first.head?.any isWord = second.head?.any isWord := by
  rcases similar with same | ⟨one, other⟩
  · rw [same]
  · rw [one, other]

theorem Similar.isNone_eq {first second : Text} (similar : Similar first second) :
    first.head?.isNone = second.head?.isNone := by
  rcases similar with same | ⟨one, other⟩
  · rw [same]
  · cases first <;> cases second <;> simp_all

theorem blurs_similar : Blurs (fun condition => (edge condition).seesWords) Similar where
  append := Similar.append
  holds_eq := by
    intro condition behind before rest after known back front
    cases condition <;> simp_all [seesWords, Edge.holds, back.any_eq, front.any_eq, back.isNone_eq,
      front.isNone_eq]

theorem edgesIn_of_seesWords {pattern : Pattern} (sees : pattern.seesWords = true) :
    pattern.edgesIn (fun condition => (edge condition).seesWords) = true := by
  induction pattern with
  | seq first second ihFirst ihSecond =>
      obtain ⟨seesFirst, seesSecond⟩ := Bool.and_eq_true_iff.mp sees
      exact Bool.and_eq_true_iff.mpr ⟨ihFirst seesFirst, ihSecond seesSecond⟩
  | alt first second ihFirst ihSecond =>
      obtain ⟨seesFirst, seesSecond⟩ := Bool.and_eq_true_iff.mp sees
      exact Bool.and_eq_true_iff.mpr ⟨ihFirst seesFirst, ihSecond seesSecond⟩
  | star greedy body ih => exact ih sees
  | plus greedy body ih => exact ih sees
  | group index body ih => exact ih sees
  | edge condition => exact sees
  | _ => rfl

theorem Reads.moved {pattern : Pattern} (sees : pattern.seesWords = true)
    (back : Similar behind before) (front : Similar rest after)
    (reads : pattern.Reads behind word rest marks) :
    ∃ others, pattern.Reads before word after others :=
  reads.moved_of blurs_similar (edgesIn_of_seesWords sees) back front

end Pattern

end Compliance
