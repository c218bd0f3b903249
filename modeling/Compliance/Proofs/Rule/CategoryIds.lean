import Mathlib.Data.List.Forall2
import Compliance.Error
import Compliance.Proofs.Text.Blanks

/-!
# Ids of categories as they are written

A name stands for a category if it spells its id; how it is read agrees with how ids are spelled.
-/

namespace Compliance

namespace Category

def Spells (written c : Char) : Prop := written.toLower = c ∨ written = '_' ∧ c = '-'

/-- The name is the id in any letter case, perhaps with `_` for `-` and with blanks around it. -/
def Spelled (category : Category) (name : String) : Prop :=
  ∃ before written after, name.toList = before ++ (written ++ after) ∧ Blank before ∧ Blank after ∧
    List.Forall₂ Spells written category.id.toList

theorem toLower_cases (c : Char) :
    c.toLower = c ∨ (65 ≤ c.toNat ∧ c.toNat ≤ 90) ∧ c.toLower.toNat = c.toNat + 32 := by
  delta Char.toLower
  split
  · next capital =>
      obtain ⟨least, most⟩ := capital
      simp only [ge_iff_le, UInt32.le_iff_toNat_le] at least most
      change 65 ≤ c.toNat at least
      change c.toNat ≤ 90 at most
      refine .inr ⟨⟨least, most⟩, ?_⟩
      change (c.val + 32).toNat = _
      rw [UInt32.toNat_add]
      change (c.toNat + 32) % 4294967296 = _
      omega
  · exact .inl rfl

theorem toLower_eq_underscore_iff {c : Char} : c.toLower = '_' ↔ c = '_' := by
  rcases toLower_cases c with same | ⟨capital, code⟩
  · rw [same]
  · refine iff_of_false (fun low => ?_) (fun low => ?_)
    · have : c.toNat + 32 = 95 := by rw [← code, low]; rfl
      omega
    · have : c.toNat = 95 := by rw [low]; rfl
      omega

theorem Spells.visible {written c : Char} (spells : Spells written c)
    (visible : isBlank c = false) :
    isBlank written = false := by
  rcases spells with rfl | ⟨rfl, -⟩
  · rcases toLower_cases written with same | ⟨capital, -⟩
    · rwa [same] at visible
    · simp [isBlank]
      omega
  · decide

theorem spells_iff {written c : Char} (plain : c ≠ '_') :
    Spells written c ↔ (if written.toLower = '_' then '-' else written.toLower) = c := by
  rw [Spells, ← toLower_eq_underscore_iff]
  split
  · next low => simp [low, plain.symm, eq_comm]
  · next other => simp [other]

theorem plain_id (category : Category) : ∀ c ∈ category.id.toList, isBlank c = false ∧ c ≠ '_' := by
  have plain : category.id.toList.all (fun c => !isBlank c && c != '_') = true := by
    cases category <;> decide
  exact fun c here => by simpa using List.all_eq_true.mp plain c here

theorem forall₂_spells_iff {written id : Text} (plain : ∀ c ∈ id, c ≠ '_') :
    List.Forall₂ Spells written id ↔
      (Text.lower written).map (fun c => if c = '_' then '-' else c) = id := by
  rw [Text.lower, List.map_map]
  induction id generalizing written with
  | nil => simp
  | cons c id ih =>
      have rest := fun written => @ih written fun x here => plain x (by simp [here])
      cases written with
      | nil => simp
      | cons first written =>
          rw [List.forall₂_cons, rest, spells_iff (plain c (by simp)), List.map_cons,
            List.cons.injEq]
          rfl

theorem trim_of_spells {category : Category} {written : Text}
    (spells : List.Forall₂ Spells written category.id.toList) : Text.trim written = written := by
  refine trim_of_visible fun c here => ?_
  obtain ⟨index, inside, rfl⟩ := List.getElem_of_mem here
  have size := spells.length_eq
  have each := spells.get inside (size ▸ inside)
  exact each.visible (category.plain_id _ (List.getElem_mem _)).1

theorem ofId?_eq_some_iff {id : String} {category : Category} :
    ofId? id = some category ↔ category.id = id := by
  constructor
  · intro found
    simpa using List.find?_some found
  · rintro rfl
    cases category <;> rfl

theorem parse?_eq_some_iff {name : String} {category : Category} :
    parse? name = some category ↔ category.Spelled name := by
  have spelled (written : Text) :=
    @forall₂_spells_iff written _ fun c here => (category.plain_id c here).2
  rw [parse?, ofId?_eq_some_iff, ← String.toList_inj, String.toList_ofList, eq_comm, ← spelled]
  constructor
  · intro spells
    obtain ⟨before, after, shape, first, last⟩ := trim_append name.toList
    exact ⟨before, _, after, shape, first, last, spells⟩
  · rintro ⟨before, written, after, shape, first, last, spells⟩
    rwa [shape, trim_blank_append first, trim_append_blank _ last, trim_of_spells spells]

theorem parse_eq_ok_iff {name : String} {category : Category} :
    parse name = .ok category ↔ category.Spelled name := by
  rw [← parse?_eq_some_iff, parse]
  cases parse? name <;> simp

theorem nodup_all : all.Nodup := by decide

end Category

end Compliance
