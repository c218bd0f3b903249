import Mathlib.Data.List.Pairwise
import Compliance.Proofs.Steps
import Compliance.Rule.Catalog

/-!
# Registered catalogs

A catalog that is built by registering rules one after the other holds no two rules
with ids that differ in letter case only.
-/

namespace Compliance

theorem sameName_comm (name other : String) : sameName name other = sameName other name := by
  rw [sameName, sameName, BEq.comm]

theorem sameName_trans {name other third : String} (first : sameName name other = true)
    (second : sameName other third = true) : sameName name third = true := by
  simp only [sameName, beq_iff_eq] at first second ⊢
  exact first.trans second

namespace Catalog

/-- Registering some rules one after the other, from the empty catalog on, gives the catalog. -/
def Registered (catalog : Catalog) : Prop := ∃ rules, ofRules rules = .ok catalog

/-- No two ids are the same up to letter case. -/
def Distinct (catalog : Catalog) : Prop :=
  catalog.rules.Pairwise fun rule other => sameName rule.id other.id = false

theorem register_eq_ok_iff {catalog next : Catalog} {rule : Rule} :
    catalog.register rule = .ok next ↔
      (∀ other ∈ catalog.rules, sameName other.id rule.id = false) ∧
        next = ⟨catalog.rules ++ [rule]⟩ := by
  rw [register]
  split
  · next known =>
      obtain ⟨other, listed, same⟩ : ∃ other ∈ catalog.rules, sameName other.id rule.id = true := by
        simpa [get?] using known
      refine iff_of_false (by simp) fun fresh => ?_
      simp [fresh.1 other listed] at same
  · next new =>
      have fresh : ∀ other ∈ catalog.rules, sameName other.id rule.id = false := by
        simpa [get?] using new
      rw [Except.ok.injEq, and_iff_right fresh, eq_comm]

theorem Distinct.register {catalog next : Catalog} {rule : Rule} (distinct : catalog.Distinct)
    (registered : catalog.register rule = .ok next) : next.Distinct := by
  obtain ⟨fresh, rfl⟩ := register_eq_ok_iff.mp registered
  refine List.pairwise_append.mpr ⟨distinct, List.pairwise_singleton .., ?_⟩
  intro other listed new here
  obtain rfl := List.mem_singleton.mp here
  exact fresh other listed

theorem Distinct.foldlM_register {start catalog : Catalog} {rules : List Rule}
    (distinct : start.Distinct) (built : rules.foldlM Catalog.register start = .ok catalog) :
    catalog.Distinct := by
  induction rules generalizing start with
  | nil =>
      obtain rfl := Except.ok.inj built
      exact distinct
  | cons rule rules ih =>
      rw [List.foldlM_cons] at built
      obtain ⟨next, step, rest⟩ := exists_of_bind_eq_ok built
      exact ih (distinct.register step) rest

theorem Registered.distinct {catalog : Catalog} (registered : catalog.Registered) :
    catalog.Distinct := by
  obtain ⟨rules, built⟩ := registered
  exact Distinct.foldlM_register (show empty.Distinct from List.Pairwise.nil) built

theorem registered_standard : standard.Registered := ⟨standard.rules, rfl⟩

theorem Distinct.eq_of_sameName {catalog : Catalog} (distinct : catalog.Distinct)
    {rule other : Rule} (listed : rule ∈ catalog.rules) (listed' : other ∈ catalog.rules)
    (same : sameName rule.id other.id = true) : rule = other := by
  have : Std.Symm fun rule other : Rule => sameName rule.id other.id = false :=
    ⟨fun _ _ apart => by rwa [sameName_comm]⟩
  by_contra differs
  have apart := distinct.forall listed listed' differs
  simp [same] at apart

theorem Distinct.eq_of_id_eq {catalog : Catalog} (distinct : catalog.Distinct) {rule other : Rule}
    (listed : rule ∈ catalog.rules) (listed' : other ∈ catalog.rules) (same : rule.id = other.id) :
    rule = other :=
  distinct.eq_of_sameName listed listed' (by simp [sameName, same])

theorem Distinct.get?_eq_some_iff {catalog : Catalog} (distinct : catalog.Distinct) {id : String}
    {rule : Rule} :
    catalog.get? id = some rule ↔ rule ∈ catalog.rules ∧ sameName rule.id id = true := by
  constructor
  · intro found
    exact ⟨List.mem_of_find?_eq_some found,
      List.find?_some (p := fun rule : Rule => sameName rule.id id) found⟩
  · rintro ⟨listed, same⟩
    have some : (catalog.get? id).isSome := List.find?_isSome.mpr ⟨rule, listed, same⟩
    obtain ⟨other, found⟩ := Option.isSome_iff_exists.mp some
    have same' : sameName other.id id = true :=
      List.find?_some (p := fun rule : Rule => sameName rule.id id) found
    have alike : sameName other.id rule.id = true :=
      sameName_trans same' (by rwa [sameName_comm])
    rw [found, distinct.eq_of_sameName (List.mem_of_find?_eq_some found) listed alike]

theorem Distinct.nodup {catalog : Catalog} (distinct : catalog.Distinct) : catalog.rules.Nodup := by
  refine distinct.imp fun apart same => ?_
  rw [same] at apart
  simp [sameName] at apart

theorem Distinct.nodup_byCategory {catalog : Catalog} (distinct : catalog.Distinct)
    (category : Category) : (catalog.byCategory category).Nodup :=
  List.Pairwise.filter _ distinct.nodup

theorem mem_byCategory {catalog : Catalog} {category : Category} {rule : Rule} :
    rule ∈ catalog.byCategory category ↔ rule ∈ catalog.rules ∧ rule.category = category := by
  simp [byCategory]

end Catalog

end Compliance
