import Compliance.Proofs.Rule.CategoryIds
import Compliance.Proofs.Steps
import Compliance.Settings.Derived

/-!
# Metrics out of settings

Several keys may denote one category.  Penalties come from the last of their entries that has
any.  The metric comes from the last entry alone: what that entry leaves open is built in again,
whatever the entries before it say.
-/

namespace Compliance

/-- What an entry may replace for its category. -/
inductive MetricItem : Type → Type where
  | name : MetricItem String
  | weight : MetricItem Float
  | blockOnFail : MetricItem Bool
  | pass : MetricItem Float
  | warn : MetricItem Float
  | fail : MetricItem Float
  | deductions : MetricItem (Schedule Float)

namespace MetricItem

def set? {β : Type} : MetricItem β → MetricSettings → Option β
  | name, entry => entry.name
  | weight, entry => entry.weight
  | blockOnFail, entry => entry.blockOnFail
  | pass, entry => entry.pass
  | warn, entry => entry.warn
  | fail, entry => entry.fail
  | deductions, entry => entry.deductions

def value {β : Type} (model : ScoringModel Float) (category : Category) : MetricItem β → β
  | name => (model.metric category).name
  | weight => (model.metric category).weight
  | blockOnFail => (model.metric category).blockOnFail
  | pass => (model.metric category).thresholds.pass
  | warn => (model.metric category).thresholds.warn
  | fail => (model.metric category).thresholds.fail
  | deductions => model.schedule category

def isApart {β : Type} : MetricItem β → Bool
  | deductions => true
  | _ => false

variable {β : Type}

/-- The value that the last entry with the item gives it, or else the built-in one. -/
def configured (item : MetricItem β) (category : Category) (entries : List MetricSettings) : β :=
  (entries.filterMap item.set?).getLast?.getD (item.value .builtIn category)

/-- What is left of the entries: of a part of the metric, only what the last entry says. -/
def kept? (item : MetricItem β) (entries : List MetricSettings) : Option β :=
  if item.isApart then (entries.filterMap item.set?).getLast?
  else entries.getLast?.bind item.set?

theorem value_of_replaced (item : MetricItem β) {model : ScoringModel Float} {category : Category}
    {entries : List MetricSettings}
    (metric : model.metrics category = entries.getLast?.map (·.metric category))
    (schedule : model.schedules category = (entries.filterMap (·.deductions)).getLast?) :
    item.value model category = (item.kept? entries).getD (item.value .builtIn category) := by
  have whole : model.metric category =
      (entries.getLast?.map (·.metric category)).getD (.builtIn category) := by
    rw [ScoringModel.metric, metric]
  cases item with
  | deductions =>
      rw [value, ScoringModel.schedule, schedule]
      rfl
  | _ =>
      simp only [value, whole, kept?, isApart, Bool.false_eq_true, if_false]
      cases entries.getLast? <;> rfl

theorem getD_kept?_eq_configured_iff (item : MetricItem β) (category : Category)
    (entries : List MetricSettings) :
    (item.kept? entries).getD (item.value .builtIn category) = item.configured category entries ↔
      item.isApart = true ∨ (∀ last, entries.getLast? =
        some last → (item.set? last).isSome = true) ∨
        item.configured category entries = item.value .builtIn category := by
  unfold kept?
  cases item.isApart with
  | true =>
      rw [if_pos rfl, configured]
      exact iff_of_true rfl (.inl rfl)
  | false =>
      rw [if_neg Bool.false_ne_true]
      rcases List.eq_nil_or_concat entries with rfl | ⟨earlier, last, rfl⟩
      · rw [configured, List.filterMap_nil]
        exact iff_of_true rfl (.inr (.inl (by simp)))
      have here : (earlier.concat last).getLast? = some last := by simp
      rw [here, Option.bind_some]
      cases set : item.set? last with
      | none =>
          constructor
          · intro same
            exact .inr (.inr same.symm)
          · rintro (never | sets | same)
            · cases never
            · simp [set] at sets
            · exact same.symm
      | some value =>
          have whole : item.configured category (earlier.concat last) = value := by
            simp [configured, set]
          refine iff_of_true whole.symm (.inr (.inl ?_))
          rintro _ ⟨⟩
          rw [set]
          rfl

end MetricItem

/-! ## Entries of a category -/

namespace Settings

instance (category : Category) : DecidablePred category.Spelled :=
  fun _ => decidable_of_iff _ Category.parse?_eq_some_iff

def denoting (category : Category) (entries : List (String × MetricSettings)) :
    List MetricSettings :=
  (entries.filter fun entry => category.Spelled entry.1).map (·.2)

theorem addMetric_eq_ok {model next : ScoringModel Float} {entry : String × MetricSettings}
    (added : addMetric model entry = .ok next) (category : Category) :
    next.metrics category =
        ((denoting category [entry]).getLast?.map (·.metric category)).or (model.metrics category) ∧
      next.schedules category =
        ((denoting category [entry]).filterMap (·.deductions)).getLast?.or
          (model.schedules category) := by
  obtain ⟨denoted, parsed, rest⟩ := exists_of_bind_eq_ok added
  have key : Category.parse? entry.1 = some denoted :=
    Category.parse?_eq_some_iff.mpr (Category.parse_eq_ok_iff.mp parsed)
  by_cases same : category = denoted
  · subst same
    cases penalties : entry.2.deductions <;>
      · simp only [penalties] at rest
        obtain rfl := Except.ok.inj rest
        simp [denoting, ← Category.parse?_eq_some_iff, key, penalties, ScoringModel.withMetric,
          ScoringModel.withSchedule, MetricSettings.metric]
  · cases penalties : entry.2.deductions <;>
      · simp only [penalties] at rest
        obtain rfl := Except.ok.inj rest
        simp [denoting, ← Category.parse?_eq_some_iff, key, Ne.symm same, same,
          ScoringModel.withMetric, ScoringModel.withSchedule, MetricSettings.metric]

theorem denoting_append (category : Category) (first second : List (String × MetricSettings)) :
    denoting category (first ++ second) = denoting category first ++ denoting category second := by
  simp [denoting]

theorem foldlM_addMetric {entries : List (String × MetricSettings)}
    {start model : ScoringModel Float}
    (built : entries.foldlM addMetric start = .ok model) (category : Category) :
    model.metrics category =
        ((denoting category entries).getLast?.map (·.metric category)).or (start.metrics category) ∧
      model.schedules category =
        ((denoting category entries).filterMap (·.deductions)).getLast?.or
          (start.schedules category) := by
  induction entries generalizing start with
  | nil =>
      obtain rfl := Except.ok.inj built
      exact ⟨rfl, rfl⟩
  | cons entry entries ih =>
      rw [List.foldlM_cons] at built
      obtain ⟨next, added, rest⟩ := exists_of_bind_eq_ok built
      obtain ⟨metric, schedule⟩ := addMetric_eq_ok added category
      obtain ⟨metrics, schedules⟩ := ih rest
      have split : denoting category (entry :: entries) =
          denoting category [entry] ++ denoting category entries :=
          denoting_append category [entry] _
      rw [metrics, schedules, metric, schedule, split, List.filterMap_append, List.getLast?_append,
        List.getLast?_append, Option.map_or, Option.or_assoc, Option.or_assoc]
      exact ⟨rfl, rfl⟩

/-- What a category's items are worth under the settings.  The value that was set last counts, and
is lost exactly if a later entry of the category gives the metric without it.  Entries of other
categories play no part. -/
theorem value_of_scoringModel {settings : Settings} {model : ScoringModel Float}
    (built : settings.scoringModel = .ok model) (category : Category) {β : Type}
    (item : MetricItem β) :
    let entries := denoting category settings.metrics
    item.value model category = (item.kept? entries).getD (item.value .builtIn category) ∧
      (item.value model category = item.configured category entries ↔
        item.isApart = true ∨
          (∀ last, entries.getLast? = some last → (item.set? last).isSome = true) ∨
          item.configured category entries = item.value .builtIn category) ∧
      ∀ (other : Settings) (model' : ScoringModel Float), other.scoringModel = .ok model' →
        denoting category other.metrics = entries →
          item.value model' category = item.value model category := by
  have value {settings : Settings} {model : ScoringModel Float}
      (built : settings.scoringModel = .ok model) : item.value model category =
        (item.kept? (denoting category settings.metrics)).getD (item.value .builtIn category) := by
    obtain ⟨found, folded, rest⟩ := exists_of_bind_eq_ok built
    obtain ⟨⟨⟩, -, same⟩ := exists_of_bind_eq_ok rest
    obtain rfl := Except.ok.inj same
    obtain ⟨metric, schedule⟩ := foldlM_addMetric folded category
    rw [ScoringModel.builtIn, Option.or_none] at metric schedule
    exact item.value_of_replaced metric schedule
  refine ⟨value built, ?_, ?_⟩
  · rw [value built]
    exact item.getD_kept?_eq_configured_iff category _
  · intro other model' built' same
    rw [value built, value built', same]

def aliased : Settings where
  metrics := [("tenant-isolation", { weight := some 5 }),
    ("tenant_isolation", { pass := some 0.99 })]

theorem value_of_aliasedEntries :
    ∃ model, aliased.scoringModel = .ok model ∧
      MetricItem.weight.configured .tenantIsolation
        (denoting .tenantIsolation aliased.metrics) = 5 ∧
      MetricItem.weight.value model .tenantIsolation =
        MetricItem.weight.value .builtIn .tenantIsolation ∧
      MetricItem.weight.value model .tenantIsolation ≠ 5 := by
  have done : aliased.scoringModel.toOption.map (fun _ => ()) = some () := by decide +kernel
  obtain ⟨model, built, -⟩ := exists_ok_of_toOption done
  have dash : Category.parse? "tenant-isolation" = some .tenantIsolation := by decide +kernel
  have low : Category.parse? "tenant_isolation" = some .tenantIsolation := by decide +kernel
  have both : denoting .tenantIsolation aliased.metrics =
      [{ weight := some 5 }, { pass := some 0.99 }] := by
    simp [denoting, aliased, ← Category.parse?_eq_some_iff, dash, low]
  have left := (value_of_scoringModel built .tenantIsolation MetricItem.weight).1
  rw [both] at left
  change _ = MetricItem.weight.value .builtIn .tenantIsolation at left
  refine ⟨model, built, ?_, left, ?_⟩
  · rw [both]
    rfl
  · have bits : (MetricItem.weight.value .builtIn .tenantIsolation).toBits ≠
        (5 : Float).toBits := by
      decide +kernel
    exact fun same => bits (congrArg Float.toBits (left.symm.trans same))

end Settings

end Compliance
