import Mathlib.Data.List.Infix
import Compliance.Text.Basic

/-!
# Stretches of a text

Where a text is cut at a character, and on which side of such a cut a text lies that
does not hold the character.
-/

namespace Compliance

variable {needle first second front back left right : Text} {c d : Char}

theorem behind_of_not_mem (outside : c ∉ first) (shape : first ++ second = left ++ c :: right) :
    ∃ between, left = first ++ between ∧ second = between ++ c :: right := by
  rcases List.append_eq_append_iff.mp shape with ⟨more, rfl, rfl⟩ | ⟨more, rfl, same⟩
  · exact ⟨more, rfl, rfl⟩
  · cases more with
    | nil => exact ⟨[], by simp, same.symm⟩
    | cons d between =>
        obtain ⟨rfl, -⟩ := List.cons.inj same
        exact absurd (by simp) outside

theorem ahead_of_not_mem (outside : c ∉ second) (shape : first ++ second = left ++ c :: right) :
    ∃ between, first = left ++ c :: between ∧ right = between ++ second := by
  rcases List.append_eq_append_iff.mp shape with ⟨more, rfl, rfl⟩ | ⟨more, rfl, same⟩
  · exact absurd (by simp) outside
  · cases more with
    | nil =>
        rw [List.nil_append] at same
        exact absurd (same ▸ List.mem_cons_self) outside
    | cons d between =>
        obtain ⟨rfl, rfl⟩ := List.cons.inj same
        exact ⟨between, rfl, rfl⟩

theorem cut_unique {stops : Char → Bool} (before : ∀ x ∈ front, stops x = false)
    (before' : ∀ x ∈ left, stops x = false) (here : stops c = true) (here' : stops d = true)
    (shape : front ++ c :: back = left ++ d :: right) : front = left ∧ c = d ∧ back = right := by
  induction front generalizing left with
  | nil =>
      cases left with
      | nil => simpa using shape
      | cons x left =>
          obtain ⟨rfl, -⟩ := List.cons.inj shape
          simp [before' c (by simp)] at here
  | cons x front ih =>
      cases left with
      | nil =>
          obtain ⟨rfl, -⟩ := List.cons.inj shape
          simp [before x (by simp)] at here'
      | cons y left =>
          obtain ⟨rfl, rest⟩ := List.cons.inj shape
          obtain ⟨rfl, same⟩ := ih (fun x inside => before x (by simp [inside]))
            (fun x inside => before' x (by simp [inside])) rest
          exact ⟨rfl, same⟩

theorem eq_of_append_cons (shape : front ++ c :: back = left ++ c :: right) (outside : c ∉ front)
    (outside' : c ∉ left) : front = left ∧ back = right := by
  have apart {part : Text} (outside : c ∉ part) : ∀ x ∈ part, (x == c) = false := by
    rintro x inside
    exact beq_eq_false_iff_ne.mpr fun same => outside (same ▸ inside)
  obtain ⟨rfl, -, rfl⟩ := cut_unique (apart outside) (apart outside') (beq_self_eq_true c)
    (beq_self_eq_true c) shape
  exact ⟨rfl, rfl⟩

theorem infix_of_append_cons (outside : c ∉ needle) (here : needle <:+: first ++ c :: second) :
    needle <:+: first ∨ needle <:+: second := by
  have absent {part : Text} (nonempty : part ≠ []) (inside : part ⊆ needle) :
      ¬ part <+: c :: second := by
    rintro ⟨after, same⟩
    obtain ⟨d, part, rfl⟩ := List.exists_cons_of_ne_nil nonempty
    obtain ⟨rfl, -⟩ := List.cons.inj same
    exact outside (inside (by simp))
  rcases List.infix_append_iff_ne_nil.mp here with
    here | here | ⟨front, back, -, some, rfl, -, start⟩
  · exact .inl here
  · rcases List.infix_cons_iff.mp here with start | here
    · by_cases empty : needle = []
      · exact .inl (empty ▸ List.nil_infix)
      · exact absurd start (absent empty fun _ => id)
    · exact .inr here
  · exact absurd start (absent some (by simp))

end Compliance
