import Mathlib.Order.Bounds.Basic
import Compliance.Line.Scope
import Compliance.Proofs.Line.Marks
import Compliance.Proofs.Text.Pieces

/-!
# The text of a call

A call goes on over the shortest run of lines behind which no parenthesis is open, and over all of
them if some stay open.  With more lines to go on over, its text can only become longer.
-/

namespace Compliance

open Text

/-- How many lines a call may take in: after so many its parentheses are balanced, or there are no
more lines. -/
def callEnds (line : Text) (following : List Text) : Set Nat :=
  {count | count ≤ following.length ∧
    ((unpieces (line :: following.take count)).count '(' ≤
      (unpieces (line :: following.take count)).count ')' ∨ count = following.length)}

theorem unpieces_joined (line next : Text) (others : List Text) :
    unpieces (line :: next :: others) = unpieces ((line ++ '\n' :: next) :: others) := by
  rw [unpieces_cons, unpieces_cons, below, below, List.flatMap_cons, List.append_assoc]

theorem succ_mem_callEnds_iff {line next : Text} {others : List Text} {count : Nat} :
    count + 1 ∈ callEnds line (next :: others) ↔
      count ∈ callEnds (line ++ '\n' :: next) others := by
  simp only [callEnds, Set.mem_ofPred_eq, List.length_cons, List.take_succ_cons, unpieces_joined,
    Nat.add_le_add_iff_right, Nat.add_right_cancel_iff]

theorem callLines_eq_take (line : Text) (following : List Text) :
    ∃ count, IsLeast (callEnds line following) count ∧
      callLines (parenDelta line) following = following.take count := by
  induction following generalizing line with
  | nil => exact ⟨0, ⟨⟨Nat.le_refl 0, .inr rfl⟩, fun _ _ => Nat.zero_le _⟩, rfl⟩
  | cons next others ih =>
      have first := parenDelta_eq line
      rw [callLines]
      split
      · next closed =>
          refine ⟨0, ⟨⟨Nat.zero_le _, .inl ?_⟩, fun _ _ => Nat.zero_le _⟩, rfl⟩
          rw [List.take_zero, unpieces]
          omega
      · next opened =>
          have joined : parenDelta line + parenDelta next = parenDelta (line ++ '\n' :: next) := by
            simp [parenDelta_eq]
            omega
          obtain ⟨count, ⟨ends, least⟩, shape⟩ := ih (line ++ '\n' :: next)
          refine ⟨count + 1, ⟨succ_mem_callEnds_iff.mpr ends, ?_⟩, ?_⟩
          · rintro (_ | fewer) ends'
            · obtain ⟨-, closed | none⟩ := ends'
              · rw [List.take_zero, unpieces] at closed
                omega
              · cases none
            · exact Nat.succ_le_succ (least (succ_mem_callEnds_iff.mp ends'))
          · rw [joined, shape, List.take_succ_cons]

/-- The text of a call is its first line and the shortest run of lines that balances it. -/
theorem callText_eq (line : Text) (following : List Text) :
    ∃ count, IsLeast (callEnds line following) count ∧
      callText line following = unpieces (line :: following.take count) := by
  obtain ⟨count, least, shape⟩ := callLines_eq_take line following
  exact ⟨count, least, by rw [callText, shape]⟩

theorem callLines_append (depth : Int) (lines more : List Text) :
    ∃ rest, callLines depth (lines ++ more) = callLines depth lines ++ rest := by
  induction lines generalizing depth with
  | nil => exact ⟨callLines depth more, rfl⟩
  | cons line lines ih =>
      rw [List.cons_append, callLines, callLines]
      split
      · exact ⟨[], rfl⟩
      · obtain ⟨rest, shape⟩ := ih (depth + parenDelta line)
        exact ⟨rest, by rw [shape, List.cons_append]⟩

theorem callText_append (line : Text) (following more : List Text) :
    ∃ rest, callText line (following ++ more) = callText line following ++ below rest := by
  obtain ⟨rest, shape⟩ := callLines_append (parenDelta line) following more
  refine ⟨rest, ?_⟩
  rw [callText, callText, shape, unpieces_cons, unpieces_cons, below, below, below,
    List.flatMap_append, List.append_assoc]

end Compliance
