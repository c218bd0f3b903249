import Compliance.Error

/-!
# Steps that may fail

What is known of the steps of a chain that came to its end, and of where a chain stopped.
-/

namespace Compliance

section Values

variable {ε δ α β : Type}

theorem exists_of_bind_eq_ok {first : Except ε α} {next : α → Except ε β} {value : β}
    (ended : first >>= next = .ok value) : ∃ found, first = .ok found ∧ next found = .ok value := by
  cases first with
  | error fault => cases ended
  | ok found => exact ⟨found, rfl, ended⟩

theorem exists_of_map_eq_ok {result : Except ε α} {read : α → β} {value : β}
    (ended : result.map read = .ok value) : ∃ found, result = .ok found ∧ read found = value := by
  cases result with
  | error fault => cases ended
  | ok found => exact ⟨found, rfl, Except.ok.inj ended⟩

theorem exists_ok_of_toOption {result : Except ε α} {read : α → β} {value : β}
    (h : result.toOption.map read = some value) :
      ∃ found, result = .ok found ∧ read found = value := by
  cases result with
  | error fault => cases h
  | ok found => exact ⟨found, rfl, Option.some.inj h⟩

theorem mapError_eq_ok {result : Except ε α} {change : ε → δ} {value : α}
    (ended : result.mapError change = .ok value) : result = .ok value := by
  cases result with
  | error fault => cases ended
  | ok found => exact congrArg _ (Except.ok.inj ended)

theorem exists_of_mapError_eq_error {result : Except ε α} {change : ε → δ} {fault : δ}
    (ended : result.mapError change = .error fault) : ∃ cause, fault = change cause := by
  cases result with
  | ok found => cases ended
  | error cause => exact ⟨cause, (Except.error.inj ended).symm⟩

theorem of_bind_eq_error {first : Except ε α} {next : α → Except ε β} {fault : ε}
    (ended : first >>= next = .error fault) :
    first = .error fault ∨ ∃ found, first = .ok found ∧ next found = .error fault := by
  cases first with
  | ok found => exact .inr ⟨found, rfl, ended⟩
  | error cause => exact .inl (congrArg _ (Except.error.inj ended))

end Values

theorem bind_eq_ok_iff {first second : Except Error Unit} :
    (first >>= fun _ => second) = .ok () ↔ first = .ok () ∧ second = .ok () := by
  cases first with
  | error fault => exact iff_of_false nofun fun both => nomatch both.1
  | ok done => exact (and_iff_right rfl).symm

theorem forM_eq_ok_iff {α : Type} {items : List α} {check : α → Except Error Unit} :
    items.forM check = .ok () ↔ ∀ item ∈ items, check item = .ok () := by
  induction items with
  | nil => exact iff_of_true rfl nofun
  | cons item items ih =>
      rw [List.forall_mem_cons, ← ih]
      exact bind_eq_ok_iff

end Compliance
