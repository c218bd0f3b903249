import Mathlib.Data.List.Perm.Lattice
import Compliance.Proofs.Evaluation.Narrowing
import Compliance.Proofs.Rule.CategoryIds

/-!
# Resolved selections

What a selection resolves to, said on its names alone: which error an unknown name is, which
categories and rules are planned, and in which order.  The order of the names and their
repetitions play no part in the plan.
-/

namespace Compliance

def SopMap.Maps (sops : SopMap) (name : String) (categories : List Category) : Prop :=
  ∃ earlier key later, sops = earlier ++ (key, categories) :: later ∧ sameName key name = true ∧
    ∀ entry ∈ earlier, sameName entry.1 name = false

def Category.Known (name : String) : Prop := ∃ category : Category, category.Spelled name

def SopMap.Knows (sops : SopMap) (name : String) : Prop :=
  ∃ entry ∈ sops, sameName entry.1 name = true

def Catalog.Knows (catalog : Catalog) (id : String) : Prop :=
  ∃ rule ∈ catalog.rules, sameName rule.id id = true

theorem SopMap.maps_iff {sops : SopMap} {name : String} {categories : List Category} :
    sops.Maps name categories ↔ Selection.findSop sops name = .ok categories := by
  have found : Selection.findSop sops name = .ok categories ↔
      ∃ key, (sops.find? fun entry => sameName entry.1 name) = some (key, categories) := by
    rw [Selection.findSop]
    cases sops.find? fun entry => sameName entry.1 name with
    | none => simp
    | some entry => simp [Prod.ext_iff]
  simp only [found, List.find?_eq_some_iff_append, Bool.not_eq_true', Maps]
  constructor
  · rintro ⟨earlier, key, later, shape, same, others⟩
    exact ⟨key, same, earlier, later, shape, others⟩
  · rintro ⟨key, same, earlier, later, shape, others⟩
    exact ⟨earlier, key, later, shape, same, others⟩

namespace Selection

def FirstUnknown (known : String → Prop) (names : List String) (name : String) : Prop :=
  ∃ earlier later, names = earlier ++ name :: later ∧ ¬ known name ∧ ∀ other ∈ earlier, known other

structure Known (selection : Selection) (catalog : Catalog) (sops : SopMap) : Prop where
  categories : ∀ name ∈ selection.categories, Category.Known name
  sops : ∀ name ∈ selection.sops, sops.Knows name
  rules : ∀ id ∈ selection.rules, catalog.Knows id

/-- What is wrong with a selection: its first unknown category, without one its first unknown SOP,
without either its first unknown rule. -/
inductive Refused (selection : Selection) (catalog : Catalog) (sops : SopMap) : Error → Prop
  | category {name : String} (first : FirstUnknown Category.Known selection.categories name) :
      Refused selection catalog sops (.unknownCategory name)
  | sop {name : String} (categories : ∀ name ∈ selection.categories, Category.Known name)
      (first : FirstUnknown sops.Knows selection.sops name) :
      Refused selection catalog sops (.unknownSop name)
  | rule {id : String} (categories : ∀ name ∈ selection.categories, Category.Known name)
      (groups : ∀ name ∈ selection.sops, sops.Knows name)
      (first : FirstUnknown catalog.Knows selection.rules id) :
      Refused selection catalog sops (.unknownRule id)

structure Finds {α : Type} (find : String → Except Error α) (known : String → Prop)
    (fault : String → Error) : Prop where
  found : ∀ name, known name → ∃ value, find name = .ok value
  missed : ∀ name, ¬ known name → find name = .error (fault name)

theorem finds_parse : Finds Category.parse Category.Known .unknownCategory where
  found name := fun ⟨category, spelled⟩ => ⟨category, Category.parse_eq_ok_iff.mpr spelled⟩
  missed name unknown := by
    cases found : Category.parse? name with
    | none => rw [Category.parse, found]
    | some category => exact absurd ⟨category, Category.parse?_eq_some_iff.mp found⟩ unknown

theorem finds_findSop (sops : SopMap) : Finds (findSop sops) sops.Knows .unknownSop where
  found name := by
    rintro ⟨entry, listed, same⟩
    have some : (sops.find? fun entry => sameName entry.1 name).isSome :=
      List.find?_isSome.mpr ⟨entry, listed, same⟩
    obtain ⟨first, found⟩ := Option.isSome_iff_exists.mp some
    exact ⟨first.2, by rw [findSop, found]⟩
  missed name unknown := by
    have none : (sops.find? fun entry => sameName entry.1 name) = none :=
      List.find?_eq_none.mpr fun entry listed same => unknown ⟨entry, listed, same⟩
    rw [findSop, none]

theorem finds_findRule (catalog : Catalog) :
    Finds (findRule catalog) catalog.Knows .unknownRule where
  found id := by
    rintro ⟨rule, listed, same⟩
    have some : (catalog.rules.find? fun rule => sameName rule.id id).isSome :=
      List.find?_isSome.mpr ⟨rule, listed, same⟩
    obtain ⟨first, found⟩ := Option.isSome_iff_exists.mp some
    exact ⟨first, by rw [findRule, Catalog.get?, found]⟩
  missed id unknown := by
    have none : catalog.get? id = none :=
      List.find?_eq_none.mpr fun rule listed same => unknown ⟨rule, listed, same⟩
    rw [findRule, none]

section

variable {α : Type} {find : String → Except Error α} {known : String → Prop}
  {fault : String → Error} {names : List String}

theorem firstUnknown_cons {name first : String} :
    FirstUnknown known (first :: names) name ↔
      first = name ∧ ¬ known name ∨ known first ∧ FirstUnknown known names name := by
  constructor
  · rintro ⟨earlier, later, shape, unknown, others⟩
    cases earlier with
    | nil => exact .inl ⟨(List.cons.inj shape).1, unknown⟩
    | cons next earlier =>
        obtain ⟨rfl, rfl⟩ := List.cons.inj shape
        exact .inr ⟨others _ (by simp), earlier, later, rfl, unknown,
          fun other here => others other (by simp [here])⟩
  · rintro (⟨rfl, unknown⟩ | ⟨knows, earlier, later, rfl, unknown, others⟩)
    · exact ⟨[], names, rfl, unknown, by simp⟩
    · exact ⟨first :: earlier, later, rfl, unknown, List.forall_mem_cons.mpr ⟨knows, others⟩⟩

theorem Finds.mapM (finds : Finds find known fault) (names : List String) :
    (∃ values, names.mapM find = .ok values ∧ (∀ name ∈ names, known name) ∧
      ∀ value, value ∈ values ↔ ∃ name ∈ names, find name = .ok value) ∨
    ∃ name, names.mapM find = .error (fault name) ∧ FirstUnknown known names name := by
  induction names with
  | nil => exact .inl ⟨[], rfl, by simp, by simp⟩
  | cons first names ih =>
      by_cases knows : known first
      · obtain ⟨value, found⟩ := finds.found first knows
        rw [List.mapM_cons, found]
        rcases ih with ⟨values, all, others, members⟩ | ⟨name, stops, unknown⟩
        · refine .inl ⟨value :: values, by rw [all]; rfl,
            List.forall_mem_cons.mpr ⟨knows, others⟩, ?_⟩
          intro other
          simp [members, found, eq_comm]
        · exact .inr ⟨name, by rw [stops]; rfl, firstUnknown_cons.mpr (.inr ⟨knows, unknown⟩)⟩
      · refine .inr ⟨first, ?_, firstUnknown_cons.mpr (.inl ⟨rfl, knows⟩)⟩
        rw [List.mapM_cons, finds.missed first knows]
        rfl

theorem FirstUnknown.not_all {name : String} (unknown : FirstUnknown known names name) :
    ¬ ∀ name ∈ names, known name := by
  obtain ⟨earlier, later, rfl, misses, -⟩ := unknown
  exact fun all => misses (all name (by simp))

theorem FirstUnknown.unique {name other : String} (one : FirstUnknown known names name)
    (two : FirstUnknown known names other) : name = other := by
  induction names with
  | nil => obtain ⟨earlier, later, shape, -⟩ := one; simp at shape
  | cons first names ih =>
      rw [firstUnknown_cons] at one two
      rcases one with ⟨rfl, unknown⟩ | ⟨knows, one⟩ <;>
        rcases two with ⟨rfl, unknown'⟩ | ⟨knows', two⟩
      · rfl
      · exact absurd knows' unknown
      · exact absurd knows unknown'
      · exact ih one two

end

/-! ## Named categories and rules -/

def NamesCategory (selection : Selection) (sops : SopMap) (category : Category) : Prop :=
  (∃ name ∈ selection.categories, category.Spelled name) ∨
    ∃ name ∈ selection.sops, ∃ categories, sops.Maps name categories ∧ category ∈ categories

def NamesRule (selection : Selection) (rule : Rule) : Prop :=
  ∃ id ∈ selection.rules, sameName rule.id id = true

structure Named.Faithful (named : Named) (selection : Selection) (catalog : Catalog)
    (sops : SopMap) : Prop where
  categories : ∀ category, category ∈ named.categories ↔ selection.NamesCategory sops category
  rules : ∀ rule ∈ catalog.rules, rule.id ∈ named.ruleIds ↔ selection.NamesRule rule

variable {selection : Selection} {catalog : Catalog} {sops : SopMap}

theorem findRule_eq_ok_iff (distinct : catalog.Distinct) {id : String} {rule : Rule} :
    findRule catalog id = .ok rule ↔ rule ∈ catalog.rules ∧ sameName rule.id id = true := by
  rw [← distinct.get?_eq_some_iff, findRule]
  cases catalog.get? id <;> simp

theorem named_cases (distinct : catalog.Distinct) (selection : Selection) (sops : SopMap) :
    (∃ named, selection.named catalog sops = .ok named ∧ selection.Known catalog sops ∧
      named.Faithful selection catalog sops) ∨
    ∃ fault, selection.named catalog sops =
      .error fault ∧ selection.Refused catalog sops fault := by
  rw [named]
  rcases finds_parse.mapM selection.categories with
    ⟨direct, first, categories, inDirect⟩ | ⟨name, first, unknown⟩
  swap
  · exact .inr ⟨_, by rw [first]; rfl, .category unknown⟩
  rcases (finds_findSop sops).mapM selection.sops with
    ⟨grouped, second, groups, inGrouped⟩ | ⟨name, second, unknown⟩
  swap
  · exact .inr ⟨_, by rw [first, second]; rfl, .sop categories unknown⟩
  rcases (finds_findRule catalog).mapM selection.rules with
    ⟨rules, third, ids, inRules⟩ | ⟨id, third, unknown⟩
  swap
  · exact .inr ⟨_, by rw [first, second, third]; rfl, .rule categories groups unknown⟩
  refine .inl ⟨_, by rw [first, second, third]; rfl, ⟨categories, groups, ids⟩, ?_, ?_⟩
  · intro category
    simp only [List.mem_append, List.mem_flatten, inDirect, inGrouped, NamesCategory,
      Category.parse_eq_ok_iff, SopMap.maps_iff]
    refine or_congr_right ⟨?_, ?_⟩
    · rintro ⟨mapped, ⟨name, here, found⟩, inside⟩
      exact ⟨name, here, mapped, found, inside⟩
    · rintro ⟨name, here, mapped, found, inside⟩
      exact ⟨mapped, ⟨name, here, found⟩, inside⟩
  · intro rule listed
    simp only [List.mem_map, inRules, NamesRule, findRule_eq_ok_iff distinct]
    constructor
    · rintro ⟨found, ⟨id, here, inside, same⟩, sameId⟩
      exact ⟨id, here, by rwa [← sameId]⟩
    · rintro ⟨id, here, same⟩
      exact ⟨rule, ⟨id, here, listed, same⟩, rfl⟩

theorem Refused.not_known {fault : Error} (refused : selection.Refused catalog sops fault) :
    ¬ selection.Known catalog sops := by
  rintro ⟨categories, groups, ids⟩
  cases refused with
  | category first => exact first.not_all categories
  | sop _ first => exact first.not_all groups
  | rule _ _ first => exact first.not_all ids

theorem Refused.unique {fault other : Error} (one : selection.Refused catalog sops fault)
    (two : selection.Refused catalog sops other) : fault = other := by
  cases one with
  | category first =>
      cases two with
      | category second => rw [first.unique second]
      | sop known _ => exact absurd known first.not_all
      | rule known _ _ => exact absurd known first.not_all
  | sop known first =>
      cases two with
      | category second => exact absurd known second.not_all
      | sop _ second => rw [first.unique second]
      | rule _ groups _ => exact absurd groups first.not_all
  | rule known groups first =>
      cases two with
      | category second => exact absurd known second.not_all
      | sop _ second => exact absurd groups second.not_all
      | rule _ _ second => rw [first.unique second]

/-- What the plan of a selection holds, in which order, and nothing twice. -/
structure Planned (selection : Selection) (catalog : Catalog) (sops : SopMap) (plan : Plan) :
    Prop where
  canonical : (plan.map (·.1)).Sublist Category.all
  registered : ∀ entry ∈ plan, entry.2.Sublist (catalog.byCategory entry.1)
  once : (plan.map (·.1)).Nodup ∧ ∀ entry ∈ plan, entry.2.Nodup
  rules : ∀ rule, (∃ entry ∈ plan, rule ∈ entry.2) ↔
    rule ∈ catalog.rules ∧ (selection.NamesCategory sops rule.category ∨ selection.NamesRule rule)
  categories : ∀ category, category ∈ plan.map (·.1) ↔
    selection.NamesCategory sops category ∨
      ∃ rule ∈ catalog.rules, rule.category = category ∧ selection.NamesRule rule

theorem eq_filter_of_sublist {α : Type} {part whole : List α} {keep : α → Bool}
    (ordered : part.Sublist whole) (once : whole.Nodup)
    (members : ∀ item, item ∈ part ↔ item ∈ whole ∧ keep item = true) :
    part = whole.filter keep := by
  have kept : part.filter keep = part :=
    List.filter_eq_self.mpr fun item here => ((members item).mp here).2
  have inside : part.Sublist (whole.filter keep) := kept ▸ ordered.filter keep
  have same : part.Perm (whole.filter keep) :=
    (List.perm_ext_iff_of_nodup (ordered.nodup once) (once.filter keep)).mpr
      (by simpa using members)
  exact inside.eq_of_length same.length_eq

variable {named : Named}

theorem mem_rulesOf (faithful : named.Faithful selection catalog sops) {category : Category}
    {rule : Rule} :
    rule ∈ named.rulesOf catalog category ↔ rule ∈ catalog.byCategory category ∧
      (selection.NamesCategory sops category ∨ selection.NamesRule rule) := by
  simp only [Named.rulesOf, List.mem_filter, Bool.or_eq_true, List.contains_iff_mem,
    faithful.categories]
  refine and_congr_right fun listed => ?_
  rw [faithful.rules rule (Catalog.mem_byCategory.mp listed).1]

theorem touched_iff (faithful : named.Faithful selection catalog sops) (category : Category) :
    (named.categories.contains category || !(named.rulesOf catalog category).isEmpty) = true ↔
      selection.NamesCategory sops category ∨
        ∃ rule ∈ catalog.rules, rule.category = category ∧ selection.NamesRule rule := by
  rw [Bool.or_eq_true, List.contains_iff_mem, faithful.categories, Bool.not_eq_true',
    List.isEmpty_eq_false_iff_exists_mem]
  simp only [mem_rulesOf faithful, Catalog.mem_byCategory]
  constructor
  · rintro (whole | ⟨rule, ⟨listed, rfl⟩, whole | one⟩)
    · exact .inl whole
    · exact .inl whole
    · exact .inr ⟨rule, listed, rfl, one⟩
  · rintro (whole | ⟨rule, listed, rfl, one⟩)
    · exact .inl whole
    · exact .inr ⟨rule, ⟨listed, rfl⟩, .inr one⟩

theorem plan_eq_map (named : Named) (catalog : Catalog) :
    named.plan catalog = (Category.all.filter fun category =>
      named.categories.contains category || !(named.rulesOf catalog category).isEmpty).map
        fun category => (category, named.rulesOf catalog category) := by
  rw [Named.plan, List.filter_map]
  rfl

theorem planned_plan (distinct : catalog.Distinct)
    (faithful : named.Faithful selection catalog sops) :
    selection.Planned catalog sops (named.plan catalog) := by
  have touched := touched_iff faithful
  have listed := @mem_rulesOf _ _ _ _ faithful
  have ordered (category : Category) :
      (named.rulesOf catalog category).Sublist (catalog.byCategory category) := List.filter_sublist
  have categories : (named.plan catalog).map (·.1) = Category.all.filter fun category =>
      named.categories.contains category || !(named.rulesOf catalog category).isEmpty := by
    rw [plan_eq_map, List.map_map]
    exact List.map_id _
  have entries : ∀ entry, entry ∈ named.plan catalog → entry.2 = named.rulesOf catalog entry.1 := by
    rw [plan_eq_map]
    rintro entry here
    obtain ⟨category, -, rfl⟩ := List.mem_map.mp here
    rfl
  refine ⟨categories ▸ List.filter_sublist, ?_,
    ⟨categories ▸ Category.nodup_all.filter _, ?_⟩, ?_, ?_⟩
  · intro entry here
    rw [entries entry here]
    exact ordered entry.1
  · intro entry here
    rw [entries entry here]
    exact (ordered entry.1).nodup (distinct.nodup_byCategory entry.1)
  · intro rule
    simp only [plan_eq_map, List.mem_map, List.mem_filter, touched, Category.mem_all, true_and,
      exists_exists_and_eq_and, listed, Catalog.mem_byCategory]
    constructor
    · rintro ⟨category, -, ⟨inside, rfl⟩, named⟩
      exact ⟨inside, named⟩
    · rintro ⟨inside, named⟩
      exact ⟨rule.category, named.imp_right fun one => ⟨rule, inside, rfl, one⟩,
        ⟨inside, rfl⟩, named⟩
  · intro category
    rw [categories, List.mem_filter, touched]
    exact and_iff_right (Category.mem_all category)

theorem Planned.eq_plan (distinct : catalog.Distinct)
    (faithful : named.Faithful selection catalog sops) {plan : Plan}
    (planned : selection.Planned catalog sops plan) : plan = named.plan catalog := by
  have chosen : plan.map (·.1) = Category.all.filter fun category =>
      named.categories.contains category || !(named.rulesOf catalog category).isEmpty := by
    refine eq_filter_of_sublist planned.canonical Category.nodup_all fun category => ?_
    rw [planned.categories, touched_iff faithful]
    exact (and_iff_right (Category.mem_all category)).symm
  have entries : ∀ entry ∈ plan, entry = (entry.1, named.rulesOf catalog entry.1) := by
    intro entry here
    refine Prod.ext rfl (eq_filter_of_sublist (planned.registered entry here)
      (distinct.nodup_byCategory entry.1) fun rule => ?_)
    have inside : rule ∈ named.rulesOf catalog entry.1 ↔ rule ∈ entry.2 := by
      rw [mem_rulesOf faithful]
      constructor
      · rintro ⟨listed, wanted⟩
        obtain ⟨registered, same⟩ := Catalog.mem_byCategory.mp listed
        obtain ⟨other, there, found⟩ := (planned.rules rule).mpr ⟨registered, same.symm ▸ wanted⟩
        have sameKey :=
          (Catalog.mem_byCategory.mp ((planned.registered other there).subset found)).2
        obtain rfl := List.inj_on_of_nodup_map planned.once.1 here there (same.symm.trans sameKey)
        exact found
      · intro found
        have listed := (planned.registered entry here).subset found
        have wanted := ((planned.rules rule).mp ⟨entry, here, found⟩).2
        exact ⟨listed, (Catalog.mem_byCategory.mp listed).2 ▸ wanted⟩
    rw [← inside, Named.rulesOf, List.mem_filter]
  have whole : plan = (plan.map (·.1)).map fun category =>
      (category, named.rulesOf catalog category) := by
    rw [List.map_map]
    exact (List.map_id plan).symm.trans (List.map_congr_left entries)
  rw [whole, chosen, plan_eq_map]

/-! ## Resolution -/

/-- The selections hold the same names, in any order and any number of times. -/
structure SameNames (selection other : Selection) : Prop where
  categories : ∀ name, name ∈ selection.categories ↔ name ∈ other.categories
  sops : ∀ name, name ∈ selection.sops ↔ name ∈ other.sops
  rules : ∀ id, id ∈ selection.rules ↔ id ∈ other.rules

theorem resolve_cases (distinct : catalog.Distinct) (sops : SopMap)
    (some : selection.isEmpty = false) :
    (∃ plan, selection.resolve catalog sops = .ok plan ∧ selection.Known catalog sops ∧
      ∀ other, selection.Planned catalog sops other ↔ other = plan) ∨
    ∃ fault, selection.resolve catalog sops = .error fault ∧
      selection.Refused catalog sops fault := by
  rw [resolve, if_neg (by simp [some])]
  rcases named_cases distinct selection sops with
    ⟨named, found, known, faithful⟩ | ⟨fault, found, refused⟩
  · refine .inl ⟨named.plan catalog, by rw [found]; rfl, known, fun other => ?_⟩
    exact ⟨fun planned => planned.eq_plan distinct faithful,
      fun same => same ▸ planned_plan distinct faithful⟩
  · exact .inr ⟨fault, by rw [found]; rfl, refused⟩

theorem resolve_eq_ok_iff (distinct : catalog.Distinct) (some : selection.isEmpty = false)
    {plan : Plan} : selection.resolve catalog sops = .ok plan ↔
      selection.Known catalog sops ∧ selection.Planned catalog sops plan := by
  rcases resolve_cases distinct sops some with
    ⟨found, resolved, known, only⟩ | ⟨fault, failed, refused⟩
  · rw [resolved, Except.ok.injEq, only, and_iff_right known, eq_comm]
  · rw [failed]
    exact iff_of_false (by simp) fun planned => refused.not_known planned.1

theorem resolve_eq_error_iff (distinct : catalog.Distinct) (some : selection.isEmpty = false)
    {fault : Error} : selection.resolve catalog sops = .error fault ↔
      selection.Refused catalog sops fault := by
  rcases resolve_cases distinct sops some with
    ⟨found, resolved, known, only⟩ | ⟨first, failed, refused⟩
  · rw [resolved]
    exact iff_of_false (by simp) fun refused => refused.not_known known
  · rw [failed, Except.error.injEq]
    exact ⟨fun same => same ▸ refused, fun other => refused.unique other⟩

section

variable {other : Selection}

theorem SameNames.symm (same : selection.SameNames other) : other.SameNames selection :=
  ⟨fun name => (same.categories name).symm, fun name => (same.sops name).symm,
    fun id => (same.rules id).symm⟩

theorem SameNames.known (same : selection.SameNames other) (known : selection.Known catalog sops) :
    other.Known catalog sops where
  categories name here := known.categories name ((same.categories name).mpr here)
  sops name here := known.sops name ((same.sops name).mpr here)
  rules id here := known.rules id ((same.rules id).mpr here)

theorem SameNames.planned (same : selection.SameNames other) {plan : Plan}
    (planned : selection.Planned catalog sops plan) : other.Planned catalog sops plan := by
  have categories : other.NamesCategory sops = selection.NamesCategory sops := by
    funext category
    simp only [NamesCategory, same.categories, same.sops]
  have rules : other.NamesRule = selection.NamesRule := by
    funext rule
    simp only [NamesRule, same.rules]
  obtain ⟨canonical, registered, once, inside, touched⟩ := planned
  exact ⟨canonical, registered, once, by rwa [categories, rules], by rwa [categories, rules]⟩

theorem SameNames.isEmpty_eq (same : selection.SameNames other) :
    other.isEmpty = selection.isEmpty := by
  have empty {names others : List String} (alike : ∀ name, name ∈ names ↔ name ∈ others) :
      others.isEmpty = names.isEmpty := by
    rw [Bool.eq_iff_iff, List.isEmpty_iff, List.isEmpty_iff, List.eq_nil_iff_forall_not_mem,
      List.eq_nil_iff_forall_not_mem]
    simp only [alike]
  rw [isEmpty, isEmpty, empty same.categories, empty same.rules, empty same.sops]

theorem SameNames.resolve (same : selection.SameNames other) (distinct : catalog.Distinct)
    (some : selection.isEmpty = false) {plan : Plan}
    (resolved : selection.resolve catalog sops = .ok plan) :
    other.resolve catalog sops = .ok plan := by
  obtain ⟨known, planned⟩ := (resolve_eq_ok_iff distinct some).mp resolved
  exact (resolve_eq_ok_iff distinct (same.isEmpty_eq.trans some)).mpr
    ⟨same.known known, same.planned planned⟩

end

/-- What a selection resolves to is told by its names, whatever their order and repetitions. -/
theorem resolve_told_by_names (registered : catalog.Registered) (sops : SopMap)
    (some : selection.isEmpty = false) :
    ((∃ fault, selection.resolve catalog sops = .error fault) ↔ ¬ selection.Known catalog sops) ∧
      (∀ fault, selection.resolve catalog sops = .error fault ↔
        selection.Refused catalog sops fault) ∧
      (∀ plan, selection.resolve catalog sops = .ok plan ↔
        selection.Known catalog sops ∧ selection.Planned catalog sops plan) ∧
      ∀ other, selection.SameNames other →
        (other.resolve catalog sops).toOption = (selection.resolve catalog sops).toOption := by
  have distinct := registered.distinct
  refine ⟨?_, fun fault => resolve_eq_error_iff distinct some,
    fun plan => resolve_eq_ok_iff distinct some, fun other same => ?_⟩
  · rcases resolve_cases distinct sops some with
      ⟨plan, resolved, known, -⟩ | ⟨fault, failed, refused⟩
    · rw [resolved]
      exact iff_of_false (by simp) (not_not_intro known)
    · exact iff_of_true ⟨fault, failed⟩ refused.not_known
  · have planned {found : Selection} {plan : Plan} :
        (found.resolve catalog sops).toOption = .some plan ↔
          found.resolve catalog sops = .ok plan := by
      cases found.resolve catalog sops <;> simp [Except.toOption]
    refine Option.ext fun plan => ?_
    rw [planned, planned]
    exact ⟨same.symm.resolve distinct (same.isEmpty_eq.trans some), same.resolve distinct some⟩

def mixedNames : Selection :=
  { categories := [" Error_Handling"], rules := ["txn002", "Sec004"], sops := ["BASELINE"] }

def mixedNamesAgain : Selection :=
  { mixedNames with rules := ["Sec004", "txn002", "Sec004"], sops := ["BASELINE", "BASELINE"] }

def mixedSops : SopMap := [("Baseline", [.performance]), ("baseline", [.tenantIsolation])]

theorem resolve_told_by_mixedNames :
    Catalog.standard.Registered ∧ mixedNames.isEmpty =
      false ∧ mixedNames.SameNames mixedNamesAgain ∧
      ∃ plan, mixedNames.resolve .standard mixedSops = .ok plan ∧
        plan.map (fun entry => (entry.1, entry.2.map (·.id))) =
          [(.security, ["SEC004"]),
            (.errorHandling, ["ERR001", "ERR002", "ERR003", "ERR004", "ERR005"]),
            (.performance, ["PERF001", "PERF002", "PERF003", "PERF004"]),
            (.transactions, ["TXN002"])] ∧
        mixedNames.Planned .standard mixedSops plan ∧
        (mixedNamesAgain.resolve .standard mixedSops).toOption = some plan := by
  have registered := Catalog.registered_standard
  have some : mixedNames.isEmpty = false := rfl
  have same : mixedNames.SameNames mixedNamesAgain := by
    refine ⟨fun name => Iff.rfl, fun name => ?_, fun id => ?_⟩
    · simp [mixedNames, mixedNamesAgain]
    · simp only [mixedNames, mixedNamesAgain, List.mem_cons]
      grind
  obtain ⟨plan, resolved, shape⟩ : ∃ plan, mixedNames.resolve .standard mixedSops = .ok plan ∧
      plan.map (fun entry => (entry.1, entry.2.map (·.id))) =
        [(.security, ["SEC004"]),
          (.errorHandling, ["ERR001", "ERR002", "ERR003", "ERR004", "ERR005"]),
          (.performance, ["PERF001", "PERF002", "PERF003", "PERF004"]),
          (.transactions, ["TXN002"])] :=
    ⟨_, rfl, rfl⟩
  obtain ⟨-, -, planned, again⟩ := resolve_told_by_names registered mixedSops some
  refine ⟨registered, some, same, plan, resolved, shape, ((planned plan).mp resolved).2, ?_⟩
  rw [again _ same, resolved]
  rfl

end Selection

end Compliance
