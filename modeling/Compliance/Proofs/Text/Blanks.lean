import Mathlib.Data.List.Basic
import Mathlib.Data.List.Induction
import Mathlib.Data.List.TakeWhile
import Compliance.Proofs.Pattern.Words
import Compliance.Proofs.Text.Stretches

/-!
# Blanks at the ends of a text

Trimming takes away the blanks at both ends of a text and nothing else, so it gives the same for
texts that differ in those blanks only.
-/

namespace Compliance

variable {text front rest blanks : Text} {c : Char}

instance (text : Text) : Decidable (Blank text) := List.decidableBAll _ text

theorem Blank.append (one : Blank front) (other : Blank rest) : Blank (front ++ rest) :=
  List.forall_mem_append.mpr ⟨one, other⟩

theorem Blank.not_mem (blank : Blank text) (visible : isBlank c = false) : c ∉ text := by
  intro here
  rw [blank c here] at visible
  cases visible

theorem Blank.newline (blank : Blank rest) : Blank ('\n' :: rest) :=
  List.forall_mem_cons.mpr ⟨by decide, blank⟩

theorem trimStart_indent {indent rest : Text} {c : Char} (blank : Blank indent)
    (visible : isBlank c = false) : Text.trimStart (indent ++ c :: rest) = c :: rest := by
  rw [Text.trimStart, List.dropWhile_append_of_pos blank]
  simp [visible]

theorem trimEnd_append (text : Text) :
    ∃ blanks, text = Text.trimEnd text ++ blanks ∧ Blank blanks := by
  refine ⟨(text.reverse.takeWhile isBlank).reverse, ?_, fun c here => ?_⟩
  · rw [Text.trimEnd, ← List.reverse_append, List.takeWhile_append_dropWhile, List.reverse_reverse]
  · exact List.mem_takeWhile_imp (List.mem_reverse.mp here)

theorem trim_append (text : Text) :
    ∃ first last, text = first ++ (Text.trim text ++ last) ∧ Blank first ∧ Blank last := by
  obtain ⟨last, shape, blank⟩ := trimEnd_append (Text.trimStart text)
  refine ⟨text.takeWhile isBlank, last, ?_, fun c here => List.mem_takeWhile_imp here, blank⟩
  rw [Text.trim, ← shape, Text.trimStart, List.takeWhile_append_dropWhile]

theorem trim_eq_nil_iff : Text.trim text = [] ↔ Blank text := by
  constructor
  · intro empty
    obtain ⟨first, last, shape, one, other⟩ := trim_append text
    rw [empty, List.nil_append] at shape
    exact shape ▸ one.append other
  · intro blank
    rw [Text.trim, Text.trimStart, List.dropWhile_eq_nil_iff.mpr blank]
    rfl

theorem trim_blank_append (blank : Blank blanks) (text : Text) :
    Text.trim (blanks ++ text) = Text.trim text := by
  rw [Text.trim, Text.trimStart, List.dropWhile_append_of_pos blank]
  rfl

theorem trimEnd_append_blank (text : Text) (blank : Blank blanks) :
    Text.trimEnd (text ++ blanks) = Text.trimEnd text := by
  have reversed : ∀ c ∈ blanks.reverse, isBlank c = true := fun c here =>
    blank c (List.mem_reverse.mp here)
  rw [Text.trimEnd, List.reverse_append, List.dropWhile_append_of_pos reversed]
  rfl

theorem trim_append_blank (text : Text) (blank : Blank blanks) :
    Text.trim (text ++ blanks) = Text.trim text := by
  by_cases all : Blank text
  · rw [trim_eq_nil_iff.mpr all, trim_eq_nil_iff]
    exact all.append blank
  · have some : ¬ (text.dropWhile isBlank).isEmpty = true := by
      rw [List.isEmpty_iff, List.dropWhile_eq_nil_iff]
      exact all
    rw [Text.trim, Text.trimStart, List.dropWhile_append, if_neg some]
    exact trimEnd_append_blank _ blank

theorem trimEnd_of_visible (front : Text) (visible : isBlank c = false) (blank : Blank blanks) :
    Text.trimEnd (front ++ c :: blanks) = front ++ [c] := by
  have shape : front ++ c :: blanks = (front ++ [c]) ++ blanks := by simp
  rw [shape, trimEnd_append_blank _ blank]
  simp [Text.trimEnd, visible]

theorem exists_last_visible (holds : ¬ Blank text) :
    ∃ front c blanks, text = front ++ c :: blanks ∧ isBlank c = false ∧ Blank blanks := by
  induction text using List.reverseRecOn with
  | nil => exact absurd (by simp [Blank]) holds
  | append_singleton init last ih =>
      cases visible : isBlank last with
      | false => exact ⟨init, last, [], rfl, visible, by simp [Blank]⟩
      | true =>
          have single : Blank [last] := by simp [Blank, visible]
          obtain ⟨front, c, blanks, rfl, visible, blank⟩ :=
            ih fun blank => holds (blank.append single)
          exact ⟨front, c, blanks ++ [last], by simp, visible, blank.append single⟩

theorem trim_of_visible (visible : ∀ c ∈ text, isBlank c = false) : Text.trim text = text := by
  cases text with
  | nil => rfl
  | cons first rest =>
      obtain ⟨init, last, shape⟩ := (List.eq_nil_or_concat' (first :: rest)).resolve_left (by simp)
      have start : Text.trimStart (first :: rest) = first :: rest := by
        simp [Text.trimStart, visible first (by simp)]
      rw [Text.trim, start, shape]
      exact trimEnd_of_visible init (visible last (by simp [shape])) (by simp [Blank])

theorem cut_of_blank {back left right : Text} {d : Char} (blank : Blank front)
    (blank' : Blank left) (visible : isBlank c = false) (visible' : isBlank d = false)
    (shape : front ++ c :: back = left ++ d :: right) : front = left ∧ c = d ∧ back = right := by
  refine @cut_unique front back left right c d (!isBlank ·) ?_ ?_ (by simp [visible])
    (by simp [visible']) shape
  · exact fun x inside => by simp [blank x inside]
  · exact fun x inside => by simp [blank' x inside]

end Compliance
