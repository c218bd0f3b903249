import Mathlib.Data.List.Count
import Compliance.Line.Marks

/-!
# Counted marks

The net counts of braces and parentheses, as differences of how often each mark occurs.
-/

namespace Compliance

private theorem foldl_marks {up down : Char} (other : up ≠ down) (text : Text) (start : Int) :
    text.foldl (fun count c => if c = up then count + 1 else if c = down then count - 1 else count)
        start = start + text.count up - text.count down := by
  induction text generalizing start with
  | nil => simp
  | cons c text ih =>
      rw [List.foldl_cons, ih]
      by_cases opens : c = up
      · subst opens
        simp [other]
        omega
      · by_cases closes : c = down
        · subst closes
          simp [opens]
          omega
        · simp [opens, closes]

theorem braceDelta_eq (line : Text) :
    braceDelta line = line.count '\x7d' - line.count '\x7b' := by
  unfold braceDelta
  rw [foldl_marks (by decide)]
  omega

theorem parenDelta_eq (line : Text) : parenDelta line = line.count '(' - line.count ')' := by
  unfold parenDelta
  rw [foldl_marks (by decide)]
  omega

end Compliance
