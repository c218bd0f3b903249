import Compliance.Proofs.Fix.ImportReturns

/-!
# One import for a module

Once an import of a module has been added, or extended, the next one of that module is merged:
into an import on one line if there is one, and else into one that spans lines.  So an import that
has been added is not torn apart by the others.
-/

namespace Compliance

open Pattern

variable {module symbol source gap line new content : Text} {lines earlier later : List Text}
  {needed : Prerequisite} {edit : ImportEdit} {start close : Nat}

namespace Block

theorem set (block : Block lines start close) (new : Text) :
    Block (lines.set close new) start close := by
  obtain ⟨earlier, opening, inside, last, later, rfl, rfl, rfl, opens, outside⟩ := block
  refine ⟨earlier, opening, inside, new, later, ?_, rfl, rfl, opens, outside⟩
  rw [List.set_append_right _ _ (by omega),
    show earlier.length + 1 + inside.length - earlier.length =
    inside.length + 1 by omega]
  simp

theorem insert (block : Block lines start close) (absent : '\x7d' ∉ new) :
    Block (lines.take close ++ new :: lines.drop close) start (close + 1) := by
  obtain ⟨earlier, opening, inside, last, later, rfl, rfl, rfl, opens, outside⟩ := block
  refine ⟨earlier, opening, inside ++ [new], last, later, ?_, rfl, by simp; omega, opens, ?_⟩
  · have length : earlier.length + 1 + inside.length = (earlier ++ opening :: inside).length := by
      simp
      omega
    have shape : earlier ++ opening :: (inside ++ last :: later) =
        (earlier ++ opening :: inside) ++ last :: later := by simp
    rw [length, shape, List.take_left, List.drop_left]
    simp
  · simpa [or_imp, forall_and, absent] using outside

theorem entry (block : Block lines start close) (level : start < close - 1) :
    ∃ entry, lines[close - 1]? = some entry ∧ '\x7d' ∉ entry ∧
      ∀ new, '\x7d' ∉ new → Block (lines.set (close - 1) new) start close := by
  obtain ⟨earlier, opening, inside, last, later, rfl, rfl, rfl, opens, outside⟩ := block
  rcases List.eq_nil_or_concat' inside with rfl | ⟨init, entry, rfl⟩
  · simp at level
  · have above : earlier.length + 1 + (init ++ [entry]).length - 1 =
        (earlier ++ opening :: init).length := by
      simp
      omega
    have shape : earlier ++ opening :: ((init ++ [entry]) ++ last :: later) =
        (earlier ++ opening :: init) ++ entry :: last :: later := by simp
    rw [above, shape]
    refine ⟨entry, by simp, outside entry (by simp), fun new absent => ?_⟩
    refine ⟨earlier, opening, init ++ [new], last, later, by simp, rfl, by simp, opens, ?_⟩
    intro line here
    rcases List.mem_append.mp here with here | here
    · exact outside line (by simp [here])
    · obtain rfl := List.mem_singleton.mp here
      exact absent

end Block

namespace Prerequisite

end Prerequisite

end Compliance
