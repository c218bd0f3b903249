import Mathlib.Data.List.Nodup
import Mathlib.Data.List.Perm.Lattice
import Compliance.Proofs.Rule.Registration

/-!
# Catalogs with a history

Rules are registered in any number of calls, some of which are refused.  What a call does and what
the catalog answers afterwards depends on the ids that have come up so far, in any letter case.
-/

namespace Compliance

namespace Catalog

/-- The catalog after a call; a refused rule leaves it as it is. -/
def afterCall (catalog : Catalog) (rule : Rule) : Catalog :=
  (catalog.register rule).toOption.getD catalog

def afterCalls (start : Catalog) (calls : List Rule) : Catalog := calls.foldl afterCall start

variable {start catalog : Catalog} {rule : Rule} {calls : List Rule}

theorem register_eq_error_iff {fault : Error} :
    catalog.register rule = .error fault ↔
      (∃ other ∈ catalog.rules, sameName other.id rule.id = true) ∧
        fault = .duplicateRule rule.id := by
  have known : (catalog.get? rule.id).isSome = true ↔
      ∃ other ∈ catalog.rules, sameName other.id rule.id = true := List.find?_isSome
  rw [register, ← known]
  split
  · next listed =>
      rw [Except.error.injEq, eq_comm]
      exact (and_iff_right listed).symm
  · next fresh => exact iff_of_false (by simp) fun both => fresh both.1

theorem afterCall_cases (catalog : Catalog) (rule : Rule) :
    ((∃ other ∈ catalog.rules, sameName other.id rule.id = true) ∧
        catalog.register rule =
          .error (.duplicateRule rule.id) ∧ catalog.afterCall rule = catalog) ∨
      (∀ other ∈ catalog.rules, sameName other.id rule.id = false) ∧
        catalog.register rule = .ok ⟨catalog.rules ++ [rule]⟩ ∧
          catalog.afterCall rule = ⟨catalog.rules ++ [rule]⟩ := by
  by_cases known : ∃ other ∈ catalog.rules, sameName other.id rule.id = true
  · have refused := register_eq_error_iff.mpr ⟨known, rfl⟩
    refine .inl ⟨known, refused, ?_⟩
    rw [afterCall, refused]
    rfl
  · have fresh : ∀ other ∈ catalog.rules, sameName other.id rule.id = false := by
      simpa using known
    have taken := register_eq_ok_iff.mpr ⟨fresh, rfl⟩
    refine .inr ⟨fresh, taken, ?_⟩
    rw [afterCall, taken]
    rfl

theorem Distinct.afterCall (distinct : catalog.Distinct) (rule : Rule) :
    (catalog.afterCall rule).Distinct := by
  rcases afterCall_cases catalog rule with ⟨-, -, same⟩ | ⟨-, taken, next⟩
  · rwa [same]
  · rw [next]
    exact distinct.register taken

theorem Distinct.afterCalls (distinct : start.Distinct) (calls : List Rule) :
    (start.afterCalls calls).Distinct := by
  induction calls generalizing start with
  | nil => exact distinct
  | cons rule calls ih => exact ih (distinct.afterCall rule)

/-- Nothing is taken out or moved, and what comes in comes from the calls. -/
theorem rules_afterCalls (start : Catalog) (calls : List Rule) :
    ∃ taken, (start.afterCalls calls).rules = start.rules ++ taken ∧ taken.Sublist calls := by
  induction calls generalizing start with
  | nil => exact ⟨[], by simp [afterCalls]⟩
  | cons rule calls ih =>
      obtain ⟨taken, rules, sublist⟩ := ih (start.afterCall rule)
      rw [afterCalls, List.foldl_cons, ← afterCalls, rules]
      rcases afterCall_cases start rule with ⟨-, -, same⟩ | ⟨-, -, next⟩
      · rw [same]
        exact ⟨taken, rfl, sublist.cons rule⟩
      · rw [next]
        exact ⟨rule :: taken, List.append_assoc .., sublist.cons_cons rule⟩

theorem known_afterCalls {id : String} :
    (∃ rule ∈ (start.afterCalls calls).rules, sameName rule.id id = true) ↔
      ∃ rule ∈ start.rules ++ calls, sameName rule.id id = true := by
  induction calls generalizing start with
  | nil => rw [afterCalls, List.foldl_nil, List.append_nil]
  | cons rule calls ih =>
      rw [afterCalls, List.foldl_cons, ← afterCalls, ih]
      rcases afterCall_cases start rule with ⟨⟨other, listed, alike⟩, -, same⟩ | ⟨-, -, next⟩
      · rw [same]
        constructor
        · rintro ⟨found, here, named⟩
          refine ⟨found, ?_, named⟩
          rcases List.mem_append.mp here with here | here
          · exact List.mem_append_left _ here
          · exact List.mem_append_right _ (.tail rule here)
        · rintro ⟨found, here, named⟩
          rcases List.mem_append.mp here with here | here
          · exact ⟨found, List.mem_append_left _ here, named⟩
          · rcases List.mem_cons.mp here with rfl | here
            · exact ⟨other, List.mem_append_left _ listed, sameName_trans alike named⟩
            · exact ⟨found, List.mem_append_right _ here, named⟩
      · rw [next, List.append_assoc]
        rfl

/-! ## Rules by category -/

/-- The rules once each, by category, and in a category in the order of the rules. -/
structure Grouped (rules listing : List Rule) : Prop where
  perm : listing.Perm rules
  nodup : listing.Nodup
  canonical : listing.Pairwise fun rule later => rule.category.rank ≤ later.category.rank
  stable : ∀ category : Category,
    listing.filter (fun rule => rule.category = category) =
      rules.filter fun rule => rule.category = category

theorem mem_categories {category : Category} :
    category ∈ catalog.categories ↔ ∃ rule ∈ catalog.rules, rule.category = category := by
  simp [categories, Category.mem_all]

theorem pairwise_categories (catalog : Catalog) :
    catalog.categories.Pairwise fun category later => category.rank < later.rank := by
  have all : Category.all.Pairwise fun category later => category.rank < later.rank := by decide
  exact all.filter _

theorem filter_flatMap_byCategory (catalog : Catalog) {category : Category}
    {categories : List Category} (nodup : categories.Nodup) :
    (categories.flatMap catalog.byCategory).filter (fun rule => rule.category = category) =
      if category ∈ categories then catalog.byCategory category else [] := by
  have others {list : List Category} (apart : category ∉ list) :
      (list.flatMap catalog.byCategory).filter (fun rule => rule.category = category) = [] := by
    refine List.filter_eq_nil_iff.mpr fun rule here same => ?_
    obtain ⟨found, listed, inside⟩ := List.mem_flatMap.mp here
    obtain rfl : found = category :=
      (mem_byCategory.mp inside).2.symm.trans (of_decide_eq_true same)
    exact apart listed
  split
  · next listed =>
      obtain ⟨before, after, rfl⟩ := List.append_of_mem listed
      obtain ⟨apart, -⟩ := List.nodup_cons.mp (List.nodup_middle.mp nodup)
      simp only [List.mem_append, not_or] at apart
      rw [List.flatMap_append, List.flatMap_cons, List.filter_append, List.filter_append,
        others apart.1, others apart.2, List.nil_append, List.append_nil]
      exact List.filter_eq_self.mpr fun rule here => decide_eq_true (mem_byCategory.mp here).2
  · next apart => exact others apart

theorem Distinct.grouped (distinct : catalog.Distinct) :
    Grouped catalog.rules (catalog.categories.flatMap catalog.byCategory) := by
  have placed {category : Category} {rule : Rule} (here : rule ∈ catalog.byCategory category) :
      rule.category = category := (mem_byCategory.mp here).2
  have canonical : (catalog.categories.flatMap catalog.byCategory).Pairwise
      fun rule later => rule.category.rank ≤ later.category.rank := by
    refine List.pairwise_flatMap.mpr ⟨fun category _ => ?_, ?_⟩
    · refine List.pairwise_of_forall_mem_list fun rule here later there => ?_
      exact Nat.le_of_eq (congrArg Category.rank ((placed here).trans (placed there).symm))
    · refine (pairwise_categories catalog).imp fun lower rule here later there => ?_
      rw [placed here, placed there]
      exact Nat.le_of_lt lower
  have nodup : (catalog.categories.flatMap catalog.byCategory).Nodup := by
    refine List.nodup_flatMap.mpr ⟨fun category _ => distinct.nodup_byCategory category, ?_⟩
    refine (pairwise_categories catalog).imp fun lower rule here there => ?_
    rw [← placed here, ← placed there] at lower
    exact Nat.lt_irrefl _ lower
  refine ⟨?_, nodup, canonical, fun category => ?_⟩
  · rw [List.perm_ext_iff_of_nodup nodup distinct.nodup]
    intro rule
    simp only [List.mem_flatMap, mem_byCategory, mem_categories]
    constructor
    · rintro ⟨category, -, listed, -⟩
      exact listed
    · intro listed
      exact ⟨rule.category, ⟨rule, listed, rfl⟩, listed, rfl⟩
  · rw [filter_flatMap_byCategory catalog ((pairwise_categories catalog).imp fun lower same => ?_)]
    · split
      · rfl
      · next none =>
          refine (List.filter_eq_nil_iff.mpr fun rule here same => none ?_).symm
          exact mem_categories.mpr ⟨rule, here, of_decide_eq_true same⟩
    · exact Nat.ne_of_lt lower (congrArg Category.rank same)

/-- What holds of a catalog after any calls, and what the next call does.  No id is registered
twice, a call is refused exactly if its id is known and changes nothing then, an id leads to its
rule, and the rules by category are all rules. -/
theorem afterCalls_answers (begun : start = empty ∨ start = standard) (calls : List Rule) :
    let catalog := start.afterCalls calls
    (catalog.rules.Pairwise fun rule other => sameName rule.id other.id = false) ∧
      (∀ rule : Rule,
        ((∃ fault, catalog.register rule = .error fault) ↔
            ∃ other ∈ catalog.rules, sameName other.id rule.id = true) ∧
          (∀ fault, catalog.register rule = .error fault → catalog.afterCall rule = catalog) ∧
          ∀ next, catalog.register rule = .ok next →
            next.rules = catalog.rules ++ [rule] ∧ catalog.afterCall rule = next) ∧
      (∃ taken, catalog.rules = start.rules ++ taken ∧ taken.Sublist calls) ∧
      (∀ id, (∃ rule ∈ catalog.rules, sameName rule.id id = true) ↔
        ∃ rule ∈ start.rules ++ calls, sameName rule.id id = true) ∧
      (∀ id rule, catalog.get? id = some rule ↔ rule ∈ catalog.rules ∧ sameName rule.id id = true) ∧
      catalog.categories.Sublist Category.all ∧
      Grouped catalog.rules (catalog.categories.flatMap catalog.byCategory) := by
  intro catalog
  have initial : start.Distinct := by
    rcases begun with rfl | rfl
    · exact List.Pairwise.nil
    · exact registered_standard.distinct
  have distinct : catalog.Distinct := initial.afterCalls calls
  refine ⟨distinct, fun rule => ?_, rules_afterCalls start calls, fun id => known_afterCalls,
    fun id rule => distinct.get?_eq_some_iff, List.filter_sublist, distinct.grouped⟩
  refine ⟨?_, ?_, ?_⟩
  · simp only [register_eq_error_iff, exists_and_left, exists_eq, and_true]
  · rcases afterCall_cases catalog rule with ⟨-, -, same⟩ | ⟨-, taken, -⟩
    · exact fun _ _ => same
    · rw [taken]
      exact nofun
  · rcases afterCall_cases catalog rule with ⟨-, refused, -⟩ | ⟨-, taken, after⟩
    · rw [refused]
      exact nofun
    · rw [taken, after]
      rintro next ⟨⟩
      exact ⟨rfl, rfl⟩

def blank (id : String) (category : Category) : Rule where
  id := id
  name := "Blank"
  category := category
  severity := .medium
  description := ""
  remediation := ""
  check := .total fun _ => none

theorem afterCalls_answers_blanks :
    let catalog := empty.afterCalls [blank "P001" .performance, blank "B002" .security,
      blank "p001" .reliability, blank "A001" .security]
    catalog.rules = [blank "P001" .performance, blank "B002" .security, blank "A001" .security] ∧
      (∃ fault, catalog.register (blank "b002" .performance) = .error fault) ∧
      catalog.afterCall (blank "b002" .performance) = catalog ∧
      catalog.get? "a001" = some (blank "A001" .security) ∧
      (catalog.categories.flatMap catalog.byCategory).Perm catalog.rules := by
  intro catalog
  have rules : catalog.rules =
      [blank "P001" .performance, blank "B002" .security, blank "A001" .security] := rfl
  have second : blank "B002" .security ∈ catalog.rules := by simp [rules]
  have last : blank "A001" .security ∈ catalog.rules := by simp [rules]
  obtain ⟨-, calls, -, -, found, -, grouped⟩ := afterCalls_answers (.inl rfl)
    [blank "P001" .performance, blank "B002" .security, blank "p001" .reliability,
      blank "A001" .security]
  obtain ⟨refused, unchanged, -⟩ := calls (blank "b002" .performance)
  obtain ⟨fault, failed⟩ := refused.mpr ⟨_, second, by decide⟩
  exact ⟨rules, ⟨fault, failed⟩, unchanged fault failed, (found "a001" _).mpr ⟨last, by decide⟩,
    grouped.perm⟩

end Catalog

end Compliance
