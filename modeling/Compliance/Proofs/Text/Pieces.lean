import Compliance.Text.Basic

/-!
# Pieces of a text

Cutting at newlines and joining again are inverse to each other, on texts and on
lists of pieces that hold no newline.
-/

namespace Compliance.Text

theorem parts_eq_splitOn (separator : Char) (text : Text) :
    parts separator text = text.splitOn separator := by
  induction text with
  | nil => rfl
  | cons c text ih =>
      rw [parts, List.splitOn_cons_eq_if_modifyHead, ih]
      simp only [beq_iff_eq]
      split
      · rfl
      · cases shape : text.splitOn separator with
        | nil => exact absurd shape (List.splitOn_ne_nil separator text)
        | cons part others => rfl

theorem pieces_of_no_newline {text : Text} (h : '\n' ∉ text) : pieces text = [text] := by
  rw [pieces, parts_eq_splitOn, List.splitOn_eq_singleton h]

theorem pieces_append_newline {piece : Text} (h : '\n' ∉ piece) (rest : Text) :
    pieces (piece ++ '\n' :: rest) = piece :: pieces rest := by
  simp only [pieces, parts_eq_splitOn, List.splitOn_append_cons_self, List.splitOn_eq_singleton h,
    List.singleton_append]

theorem pieces_unpieces {lines : List Text} (nonempty : lines ≠ [])
    (clean : ∀ line ∈ lines, '\n' ∉ line) : pieces (unpieces lines) = lines := by
  induction lines with
  | nil => exact absurd rfl nonempty
  | cons line lines ih =>
      cases lines with
      | nil => exact pieces_of_no_newline (clean line (by simp))
      | cons next lines =>
          have rest := ih (by simp) fun other here => clean other (by simp [here])
          rw [unpieces, pieces_append_newline (clean line (by simp)), rest]
          simp

theorem not_mem_of_mem_parts {separator : Char} {text part : Text}
    (here : part ∈ parts separator text) : separator ∉ part := by
  induction text generalizing part with
  | nil =>
      obtain rfl : part = [] := by simpa [parts] using here
      simp
  | cons c text ih =>
      obtain ⟨first, others, shape⟩ := List.exists_cons_of_ne_nil (parts_ne_nil separator text)
      simp only [parts, shape] at here
      rw [shape] at ih
      split at here
      · rcases List.mem_cons.mp here with rfl | here
        · simp
        · exact ih here
      · next differs =>
          rcases List.mem_cons.mp here with rfl | here
          · simp only [List.mem_cons, not_or]
            exact ⟨fun same => differs same.symm, ih (by simp)⟩
          · exact ih (by simp [here])

theorem not_mem_of_mem_pieces {text piece : Text} (here : piece ∈ pieces text) : '\n' ∉ piece :=
  not_mem_of_mem_parts here

def above (lines : List Text) : Text := lines.flatMap (· ++ ['\n'])

def below (lines : List Text) : Text := lines.flatMap ('\n' :: ·)

theorem above_append (lines others : List Text) :
    above (lines ++ others) = above lines ++ above others :=
  List.flatMap_append

theorem unpieces_cons (line : Text) (lines : List Text) :
    unpieces (line :: lines) = line ++ below lines := by
  induction lines generalizing line with
  | nil => simp [unpieces, below]
  | cons next lines ih =>
      rw [unpieces, ih]
      · simp [below]
      · simp

theorem unpieces_append_cons (lines : List Text) (line : Text) (later : List Text) :
    unpieces (lines ++ line :: later) = above lines ++ (line ++ below later) := by
  induction lines with
  | nil => exact unpieces_cons line later
  | cons first lines ih =>
      have next : lines ++ line :: later ≠ [] := by simp
      rw [List.cons_append, unpieces, ih]
      · simp [above]
      · exact next

theorem above_cons (line : Text) (lines : List Text) :
    above (line :: lines) = unpieces (line :: lines) ++ ['\n'] := by
  induction lines generalizing line with
  | nil => simp [above, unpieces]
  | cons next lines ih =>
      have rest := ih next
      simp only [above, List.flatMap_cons] at rest ⊢
      rw [unpieces, rest]
      · simp
      · simp

theorem unpieces_concat (first : Text) (lines : List Text) (line : Text) :
    unpieces (first :: (lines ++ [line])) = unpieces (first :: lines) ++ '\n' :: line := by
  rw [← List.cons_append, unpieces_append_cons, above_cons]
  simp [below]

end Compliance.Text
