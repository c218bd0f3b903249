import Compliance.Pattern.Match

/-!
# The sweep, part by part

A sweep computes, at every place, the best outcome of a whole pattern.  Here the
sweep is taken apart: `best pattern rest` is the outcome at a place of `pattern`
followed by `rest`, and for plain patterns it satisfies one equation for each
way to build a pattern.  The equations say what is tried first, and they are the
only facts about cells that later proofs use.
-/

namespace Compliance

def Cursor.between (behind ahead : Text) : Cursor := ⟨behind.length, behind, ahead⟩

abbrev Sequel := Text → Text → Prospect

namespace Cells

@[simp] theorem first_join (a b : Cells) : (join a b).first = a := by
  cases a <;> cases b <;> rfl

@[simp] theorem second_join (a b : Cells) : (join a b).second = b := by
  cases a <;> cases b <;> rfl

theorem eq_dead_of_isDead {cells : Cells} (h : cells.isDead = true) : cells = dead := by
  cases cells with
  | dead => rfl
  | _ => simp [isDead] at h

@[simp] theorem prospect_ofProspect (found : Prospect) : (ofProspect found).prospect = found := by
  cases found <;> rfl

end Cells

namespace Pattern

/-- No repetition has a body that can match nothing. -/
def plain : Pattern → Bool
  | empty => true
  | never => true
  | single _ => true
  | seq first second => first.plain && second.plain
  | alt first second => first.plain && second.plain
  | star _ body => body.plain && !body.nullable
  | plus _ body => body.plain && !body.nullable
  | group _ body => body.plain
  | edge _ => true

theorem lead_dead (chars : CharSet) (place : Cursor) : chars.lead place .dead = none := by
  simp only [CharSet.lead]
  split
  · rfl
  · split <;> rfl

theorem prospect_dead (pattern : Pattern) (place : Cursor) :
    pattern.prospect place .dead none = none := by
  induction pattern with
  | single chars => exact lead_dead chars place
  | seq first second ihFirst ihSecond =>
      have later : second.prospect place (Cells.second .dead) none = none := ihSecond
      simp [prospect, later, Cells.first, Cells.isDead]
  | alt first second ihFirst ihSecond =>
      simp [prospect, Cells.first, Cells.second, ihFirst, ihSecond]
  | star greedy body ih => simp [prospect, ih, preferring]
  | plus greedy body ih => exact ih
  | group index body ih => simp [prospect, ih]
  | edge condition => simp [prospect]
  | _ => rfl

theorem prospect_seq (first second : Pattern) (place : Cursor) (cells : Cells) (rest : Prospect) :
    (seq first second).prospect place cells rest =
      first.prospect place cells.first (second.prospect place cells.second rest) := by
  simp only [prospect]
  split
  · next shortcut =>
      obtain ⟨dead, nothing⟩ := Bool.and_eq_true_iff.mp shortcut
      rw [Cells.eq_dead_of_isDead dead, Option.isNone_iff_eq_none.mp nothing, prospect_dead]
  · rfl

theorem prospect_eq_of_not_nullable (pattern : Pattern) (place : Cursor) (cells : Cells)
    (rest other : Prospect) (takes : pattern.nullable = false) :
    pattern.prospect place cells rest = pattern.prospect place cells other := by
  induction pattern generalizing cells rest other with
  | empty => simp [nullable] at takes
  | never => rfl
  | single chars => rfl
  | seq first second ihFirst ihSecond =>
      simp only [nullable, Bool.and_eq_false_iff] at takes
      rw [prospect_seq, prospect_seq]
      rcases takes with takes | takes
      · rw [ihSecond cells.second rest other takes]
      · rw [ihFirst cells.first _ (second.prospect place cells.second other) takes]
  | alt first second ihFirst ihSecond =>
      simp only [nullable, Bool.or_eq_false_iff] at takes
      simp only [prospect]
      rw [ihFirst cells.first rest other takes.1, ihSecond cells.second rest other takes.2]
  | star greedy body ih => simp [nullable] at takes
  | plus greedy body ih => exact ih cells rest other takes
  | group index body ih =>
      simp only [prospect]
      rw [ih cells _ (other.map (·.closing index place)) takes]
  | edge condition => simp [nullable] at takes

theorem step_dead (pattern : Pattern) (place : Cursor) (isPlain : pattern.plain = true) :
    pattern.step place .dead none = (none, .dead) := by
  induction pattern with
  | single chars => simp [step, lead_dead, Cells.ofProspect]
  | seq first second ihFirst ihSecond =>
      obtain ⟨plainFirst, plainSecond⟩ := Bool.and_eq_true_iff.mp isPlain
      have later : second.step place (Cells.second .dead) none = (none, .dead) :=
        ihSecond plainSecond
      simp [step, later, Cells.first, Cells.isDead, Cells.join]
  | alt first second ihFirst ihSecond =>
      obtain ⟨plainFirst, plainSecond⟩ := Bool.and_eq_true_iff.mp isPlain
      simp [step, Cells.first, Cells.second, ihFirst plainFirst, ihSecond plainSecond,
        Cells.join, Cells.isDead]
  | star greedy body ih =>
      obtain ⟨plainBody, -⟩ := Bool.and_eq_true_iff.mp isPlain
      simp [step, prospect_dead, preferring, ih plainBody]
  | plus greedy body ih =>
      obtain ⟨plainBody, takes⟩ := Bool.and_eq_true_iff.mp isPlain
      simp only [Bool.not_eq_true'] at takes
      simp [step, prospect_dead, takes, preferring, ih plainBody]
  | group index body ih => simp [step, ih isPlain]
  | edge condition => simp [step]
  | _ => rfl

theorem step_seq (first second : Pattern) (place : Cursor) (cells : Cells) (rest : Prospect)
    (isPlain : first.plain = true) :
    (seq first second).step place cells rest =
      ((first.step place cells.first (second.step place cells.second rest).1).1,
        .join (first.step place cells.first (second.step place cells.second rest).1).2
          (second.step place cells.second rest).2) := by
  simp only [step]
  split
  · next shortcut =>
      obtain ⟨dead, nothing⟩ := Bool.and_eq_true_iff.mp shortcut
      rw [Cells.eq_dead_of_isDead dead, Option.isNone_iff_eq_none.mp nothing,
        step_dead first place isPlain]
  · rfl

/-! ## All places -/

/-- The sweep from the end of the text down to a place. -/
def sweepFrom (pattern : Pattern) (rest : Sequel) : Text → Text → Prospect × Cells
  | behind, [] => pattern.step (.between behind []) .dead (rest behind [])
  | behind, c :: ahead =>
      pattern.step (.between behind (c :: ahead)) (pattern.sweepFrom rest (c :: behind) ahead).2
        (rest behind (c :: ahead))

/-- The best outcome at a place of the pattern followed by `rest`. -/
def best (pattern : Pattern) (rest : Sequel) : Sequel := fun behind ahead =>
  (pattern.sweepFrom rest behind ahead).1

/-- The cells that the places after this one leave for it. -/
def cellsAfter (pattern : Pattern) (rest : Sequel) (behind : Text) : Text → Cells
  | [] => .dead
  | c :: ahead => (pattern.sweepFrom rest (c :: behind) ahead).2

theorem sweepFrom_eq (pattern : Pattern) (rest : Sequel) (behind ahead : Text) :
    pattern.sweepFrom rest behind ahead =
      pattern.step (.between behind ahead) (pattern.cellsAfter rest behind ahead)
        (rest behind ahead) := by
  cases ahead <;> rfl

theorem best_eq (pattern : Pattern) (rest : Sequel) (behind ahead : Text) :
    pattern.best rest behind ahead =
      pattern.prospect (.between behind ahead) (pattern.cellsAfter rest behind ahead)
        (rest behind ahead) := by
  rw [best, sweepFrom_eq, step_fst]

@[simp] theorem best_empty (rest : Sequel) : empty.best rest = rest := by
  funext behind ahead
  rw [best_eq]
  rfl

@[simp] theorem best_never (rest : Sequel) (behind ahead : Text) :
    never.best rest behind ahead = none := by
  rw [best_eq]
  rfl

@[simp] theorem best_single_nil (chars : CharSet) (rest : Sequel) (behind : Text) :
    (single chars).best rest behind [] = none := by
  rw [best_eq]
  rfl

@[simp] theorem best_single_cons (chars : CharSet) (rest : Sequel) (behind : Text) (c : Char)
    (ahead : Text) :
    (single chars).best rest behind (c :: ahead) =
      if chars.has c then rest (c :: behind) ahead else none := by
  rw [best_eq]
  simp only [prospect, CharSet.lead, Cursor.between, cellsAfter]
  rw [sweepFrom_eq, step, Cells.prospect_ofProspect]

@[simp] theorem best_edge (condition : Edge) (rest : Sequel) (behind ahead : Text) :
    (edge condition).best rest behind ahead =
      if condition.holds behind.head? ahead.head? then rest behind ahead else none := by
  rw [best_eq]
  rfl

theorem sweepFrom_seq (first second : Pattern) (rest : Sequel) (isPlain : first.plain = true)
    (behind ahead : Text) :
    (seq first second).sweepFrom rest behind ahead =
      ((first.sweepFrom (second.best rest) behind ahead).1,
        .join (first.sweepFrom (second.best rest) behind ahead).2
          (second.sweepFrom rest behind ahead).2) := by
  induction ahead generalizing behind with
  | nil => simp [sweepFrom, step_seq _ _ _ _ _ isPlain, best, Cells.first, Cells.second]
  | cons c ahead ih =>
      simp [sweepFrom, step_seq _ _ _ _ _ isPlain, best, ih]

theorem best_seq (first second : Pattern) (rest : Sequel) (isPlain : first.plain = true) :
    (seq first second).best rest = first.best (second.best rest) := by
  funext behind ahead
  simp only [best, sweepFrom_seq _ _ _ isPlain]

theorem sweepFrom_alt (first second : Pattern) (rest : Sequel) (behind ahead : Text) :
    (alt first second).sweepFrom rest behind ahead =
      ((first.best rest behind ahead).or (second.best rest behind ahead),
        .join (first.sweepFrom rest behind ahead).2 (second.sweepFrom rest behind ahead).2) := by
  induction ahead generalizing behind with
  | nil => simp [sweepFrom, step, best, Cells.first, Cells.second]
  | cons c ahead ih => simp [sweepFrom, step, best, ih]

theorem best_alt (first second : Pattern) (rest : Sequel) (behind ahead : Text) :
    (alt first second).best rest behind ahead =
      (first.best rest behind ahead).or (second.best rest behind ahead) := by
  rw [best, sweepFrom_alt]

theorem sweepFrom_group (index : Nat) (body : Pattern) (rest : Sequel) (behind ahead : Text) :
    (group index body).sweepFrom rest behind ahead =
      ((body.best (fun behind ahead =>
          (rest behind ahead).map (·.closing index (.between behind ahead))) behind ahead).map
            (·.opening index (.between behind ahead)),
        (body.sweepFrom (fun behind ahead =>
          (rest behind ahead).map (·.closing index (.between behind ahead))) behind ahead).2) := by
  induction ahead generalizing behind with
  | nil => simp [sweepFrom, step, best]
  | cons c ahead ih => simp [sweepFrom, step, best, ih]

theorem best_group (index : Nat) (body : Pattern) (rest : Sequel) (behind ahead : Text) :
    (group index body).best rest behind ahead =
      (body.best (fun behind ahead =>
        (rest behind ahead).map (·.closing index (.between behind ahead))) behind ahead).map
          (·.opening index (.between behind ahead)) := by
  rw [best, sweepFrom_group]

/-- A repetition leaves for the places before it what its body leaves when another repetition
follows the body. -/
theorem sweepFrom_star_snd (greedy : Bool) (body : Pattern) (rest : Sequel)
    (behind ahead : Text) :
    ((star greedy body).sweepFrom rest behind ahead).2 =
      (body.sweepFrom ((star greedy body).best rest) behind ahead).2 := by
  induction ahead generalizing behind with
  | nil => simp only [sweepFrom, step, best]
  | cons c ahead ih =>
      simp only [sweepFrom, ih]
      simp only [step, best, sweepFrom, ih]

theorem best_star (greedy : Bool) (body : Pattern) (rest : Sequel)
    (takes : body.nullable = false) (behind ahead : Text) :
    (star greedy body).best rest behind ahead =
      preferring greedy (body.best ((star greedy body).best rest) behind ahead)
        (rest behind ahead) := by
  have cells : (star greedy body).cellsAfter rest behind ahead =
      body.cellsAfter ((star greedy body).best rest) behind ahead := by
    cases ahead with
    | nil => rfl
    | cons c ahead => exact sweepFrom_star_snd greedy body rest (c :: behind) ahead
  rw [best_eq (star greedy body), prospect, cells, best_eq body]
  congr 1
  exact prospect_eq_of_not_nullable body _ _ _ _ takes

theorem sweepFrom_plus_snd (greedy : Bool) (body : Pattern) (rest : Sequel)
    (takes : body.nullable = false) (behind ahead : Text) :
    ((plus greedy body).sweepFrom rest behind ahead).2 =
      (body.sweepFrom ((star greedy body).best rest) behind ahead).2 := by
  induction ahead generalizing behind with
  | nil => simp [sweepFrom, step, best, takes]
  | cons c ahead ih =>
      simp only [sweepFrom, ih, step, takes, best, sweepFrom_star_snd]
      rfl

theorem best_plus (greedy : Bool) (body : Pattern) (rest : Sequel)
    (takes : body.nullable = false) :
    (plus greedy body).best rest = body.best ((star greedy body).best rest) := by
  funext behind ahead
  have cells : (plus greedy body).cellsAfter rest behind ahead =
      body.cellsAfter ((star greedy body).best rest) behind ahead := by
    cases ahead with
    | nil => rfl
    | cons c ahead => exact sweepFrom_plus_snd greedy body rest takes (c :: behind) ahead
  rw [best_eq (plus greedy body), prospect, cells, best_eq body]
  exact prospect_eq_of_not_nullable body _ _ _ _ takes

end Pattern

end Compliance
