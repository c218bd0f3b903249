import Compliance.Line.Scope
import Compliance.Proofs.Line.Marks

/-!
# The body of a block

The body of a block that a text leaves open is the longest run of first lines behind each of which
the block is still open.  Further lines go on with the body of a block that is open behind all of
them; once a block is closed, nothing that follows changes its body.
-/

namespace Compliance

variable {opening line : Text} {following run lines : List Text}

def LeavesOpen (text : Text) : Prop := text.count '\x7d' < text.count '\x7b'

instance : DecidablePred LeavesOpen := fun text =>
  inferInstanceAs (Decidable (text.count '\x7d' < text.count '\x7b'))

/-- Behind each of the lines the text and the lines so far leave a block open. -/
def OpenBehind (opening : Text) (lines : List Text) : Prop :=
  ∀ passed, passed <+: lines → passed ≠ [] → LeavesOpen (opening ++ passed.flatten)

/-- No block is left open by the text, or by the text and some first lines. -/
def ClosedWithin (opening : Text) (lines : List Text) : Prop :=
  ∃ passed, passed <+: lines ∧ ¬ LeavesOpen (opening ++ passed.flatten)

theorem openBehind_nil : OpenBehind opening [] := fun _ first nonempty =>
  absurd (List.prefix_nil.mp first) nonempty

theorem openBehind_cons_iff :
    OpenBehind opening (line :: lines) ↔
      LeavesOpen (opening ++ line) ∧ OpenBehind (opening ++ line) lines := by
  constructor
  · intro stays
    refine ⟨?_, fun passed first _ => ?_⟩
    · simpa using stays [line] (by simp) (by simp)
    · simpa using stays (line :: passed) (by simpa using first) (by simp)
  · rintro ⟨still, stays⟩ passed first nonempty
    cases passed with
    | nil => exact absurd rfl nonempty
    | cons next passed =>
        obtain ⟨rfl, behind⟩ := List.cons_prefix_cons.mp first
        by_cases last : passed = []
        · simpa [last] using still
        · simpa using stays passed behind last

theorem closedWithin_iff :
    ClosedWithin opening lines ↔ ¬ (LeavesOpen opening ∧ OpenBehind opening lines) := by
  constructor
  · rintro ⟨passed, first, closed⟩ ⟨opens, stays⟩
    by_cases empty : passed = []
    · exact closed (by simpa [empty] using opens)
    · exact closed (stays passed first empty)
  · intro closed
    by_contra never
    have stays (passed : List Text) (first : passed <+: lines) :
        LeavesOpen (opening ++ passed.flatten) := by
      by_contra shut
      exact never ⟨passed, first, shut⟩
    exact closed ⟨by simpa using stays [] List.nil_prefix, fun passed first _ => stays passed first⟩

theorem leavesOpen_iff (text : Text) : LeavesOpen text ↔ ¬ -braceDelta text ≤ 0 := by
  rw [LeavesOpen, braceDelta_eq]
  omega

theorem blockBody_of_not_leavesOpen (closed : ¬ LeavesOpen opening) (following : List Text) :
    blockBody opening following = [] := by
  rw [leavesOpen_iff, not_not] at closed
  exact if_pos closed

theorem blockBody_of_leavesOpen (opens : LeavesOpen opening) (following : List Text) :
    blockBody opening following = openLines (-braceDelta opening) following :=
  if_neg ((leavesOpen_iff opening).mp opens)

theorem blockBody_nil (opening : Text) : blockBody opening [] = [] :=
  ite_self []

/-- The first line belongs to the body if the block is open before and behind it, and from there on
the two texts are one opening. -/
theorem blockBody_cons (opening line : Text) (lines : List Text) :
    blockBody opening (line :: lines) =
      if LeavesOpen opening ∧ LeavesOpen (opening ++ line) then
        line :: blockBody (opening ++ line) lines
      else [] := by
  by_cases opens : LeavesOpen opening
  · have joined : -braceDelta opening - braceDelta line = -braceDelta (opening ++ line) := by
      simp only [braceDelta_eq, List.count_append]
      omega
    rw [blockBody_of_leavesOpen opens, openLines, joined]
    by_cases still : LeavesOpen (opening ++ line)
    · have both : LeavesOpen opening ∧ LeavesOpen (opening ++ line) := ⟨opens, still⟩
      rw [if_neg ((leavesOpen_iff _).mp still), if_pos both, blockBody_of_leavesOpen still]
    · have either : ¬ (LeavesOpen opening ∧ LeavesOpen (opening ++ line)) :=
        fun both => still both.2
      rw [leavesOpen_iff, not_not] at still
      rw [if_pos still, if_neg either]
  · rw [blockBody_of_not_leavesOpen opens, if_neg fun both => opens both.1]

theorem blockBody_isPrefix (opening : Text) (following : List Text) :
    blockBody opening following <+: following := by
  induction following generalizing opening with
  | nil => simp [blockBody_nil]
  | cons line lines ih =>
      rw [blockBody_cons]
      split
      · exact List.cons_prefix_cons.mpr ⟨rfl, ih (opening ++ line)⟩
      · exact List.nil_prefix

theorem openBehind_blockBody (opening : Text) (following : List Text) :
    OpenBehind opening (blockBody opening following) := by
  induction following generalizing opening with
  | nil =>
      rw [blockBody_nil]
      exact openBehind_nil
  | cons line lines ih =>
      rw [blockBody_cons]
      split
      · next both => exact openBehind_cons_iff.mpr ⟨both.2, ih (opening ++ line)⟩
      · exact openBehind_nil

theorem prefix_blockBody (opens : LeavesOpen opening) (first : run <+: following)
    (stays : OpenBehind opening run) : run <+: blockBody opening following := by
  induction following generalizing opening run with
  | nil => rwa [blockBody_nil]
  | cons line lines ih =>
      cases run with
      | nil => exact List.nil_prefix
      | cons next run =>
          obtain ⟨rfl, behind⟩ := List.cons_prefix_cons.mp first
          obtain ⟨still, stays'⟩ := openBehind_cons_iff.mp stays
          rw [blockBody_cons, if_pos ⟨opens, still⟩]
          exact List.cons_prefix_cons.mpr ⟨rfl, ih still behind stays'⟩

/-! ## Further lines -/

theorem blockBody_append_of_openBehind (opens : LeavesOpen opening)
    (stays : OpenBehind opening following) (more : List Text) :
    blockBody opening (following ++ more) =
      following ++ blockBody (opening ++ following.flatten) more := by
  induction following generalizing opening with
  | nil => simp
  | cons line lines ih =>
      obtain ⟨still, stays'⟩ := openBehind_cons_iff.mp stays
      rw [List.cons_append, blockBody_cons, if_pos ⟨opens, still⟩, ih still stays',
        List.flatten_cons, List.append_assoc, List.cons_append]

theorem blockBody_append_of_closedWithin (closed : ClosedWithin opening following)
    (more : List Text) : blockBody opening (following ++ more) = blockBody opening following := by
  rw [closedWithin_iff] at closed
  induction following generalizing opening with
  | nil =>
      have shut : ¬ LeavesOpen opening := fun opens => closed ⟨opens, openBehind_nil⟩
      rw [blockBody_of_not_leavesOpen shut, blockBody_of_not_leavesOpen shut]
  | cons line lines ih =>
      rw [List.cons_append, blockBody_cons, blockBody_cons]
      by_cases both : LeavesOpen opening ∧ LeavesOpen (opening ++ line)
      · have later : ¬ (LeavesOpen (opening ++ line) ∧ OpenBehind (opening ++ line) lines) :=
          fun stays => closed ⟨both.1, openBehind_cons_iff.mpr stays⟩
        rw [if_pos both, if_pos both, ih later]
      · rw [if_neg both, if_neg both]

theorem blockBody_prefix_append (opening : Text) (following more : List Text) :
    blockBody opening following <+: blockBody opening (following ++ more) := by
  by_cases stays : LeavesOpen opening ∧ OpenBehind opening following
  · rw [blockBody_append_of_openBehind stays.1 stays.2]
    exact (blockBody_isPrefix opening following).trans (List.prefix_append ..)
  · have same := blockBody_append_of_closedWithin (closedWithin_iff.mpr stays) more
    exact ⟨[], by rw [List.append_nil, same]⟩

/-- The body of an open block is the longest run of first lines behind each of which the block is
open.  Further lines go on with it while the block is still open, and change nothing once it is
closed. -/
theorem blockBody_longest (opening : Text) (following : List Text) :
    (LeavesOpen opening → blockBody opening following <+: following ∧
      OpenBehind opening (blockBody opening following) ∧
      ∀ run, run <+: following → OpenBehind opening run → run <+: blockBody opening following) ∧
    (¬ LeavesOpen opening → blockBody opening following = []) ∧
    ∀ more, blockBody opening following <+: blockBody opening (following ++ more) ∧
      (LeavesOpen opening → OpenBehind opening following →
        blockBody opening (following ++ more) =
          following ++ blockBody (opening ++ following.flatten) more) ∧
      (ClosedWithin opening following →
        blockBody opening (following ++ more) = blockBody opening following) := by
  refine ⟨fun opens => ?longest, fun closed => blockBody_of_not_leavesOpen closed following,
    fun more => ?further⟩
  case longest =>
    exact ⟨blockBody_isPrefix opening following, openBehind_blockBody opening following,
      fun _ => prefix_blockBody opens⟩
  case further =>
    exact ⟨blockBody_prefix_append opening following more,
      fun opens stays => blockBody_append_of_openBehind opens stays more,
      fun closed => blockBody_append_of_closedWithin closed more⟩

def loopHeader : Text := "for (const order of orders) \x7b".toList

def loopLines : List Text :=
  ["  if (order.open) \x7b", "    close(order);", "  \x7d", "\x7d", "notify(\x7b"].map String.toList

theorem blockBody_longest_of_loop :
    LeavesOpen loopHeader ∧ OpenBehind loopHeader (loopLines.take 2) ∧
      blockBody loopHeader (loopLines.take 2 ++ loopLines.drop 2) = loopLines.take 3 ∧
      loopLines.take 2 <+: blockBody loopHeader loopLines ∧
      ClosedWithin loopHeader loopLines ∧
      blockBody loopHeader (loopLines ++ loopLines) = loopLines.take 3 ∧
      ¬ LeavesOpen (loopLines.getD 3 []) ∧ blockBody (loopLines.getD 3 []) loopLines = [] := by
  have opens : LeavesOpen loopHeader := by decide
  have closed : ClosedWithin loopHeader loopLines := ⟨loopLines.take 4, by decide, by decide⟩
  have shut : ¬ LeavesOpen (loopLines.getD 3 []) := by decide
  obtain ⟨two, -, longer⟩ := blockBody_longest loopHeader (loopLines.take 2)
  obtain ⟨all, -, further⟩ := blockBody_longest loopHeader loopLines
  obtain ⟨-, nothing, -⟩ := blockBody_longest (loopLines.getD 3 []) loopLines
  have stays : OpenBehind loopHeader (loopLines.take 2) := by
    have whole : blockBody loopHeader (loopLines.take 2) = loopLines.take 2 := by decide
    rw [← whole]
    exact (two opens).2.1
  refine ⟨opens, stays, ?_, ?_, closed, ?_, shut, nothing shut⟩
  · rw [(longer _).2.1 opens stays]
    decide
  · have first : loopLines.take 2 <+: loopLines := by decide
    exact (all opens).2.2 _ first stays
  · rw [(further _).2.2 closed]
    decide

end Compliance
