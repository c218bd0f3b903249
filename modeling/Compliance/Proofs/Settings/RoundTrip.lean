import Compliance.Proofs.Value.Records
import Compliance.Settings.Encoding

/-!
# Settings that are written and read again

Settings come back from their JSON value.  Where places are left out of it, the same settings come
back with the defaults at these places; only the four penalties of a schedule have none.
-/

namespace Compliance

open Value

variable {format : Format} {removed : List String → Bool}

section Options

variable {α : Type} {key : String} {encode : α → Value} {option : Option α}

theorem mem_optionalEntry {entry : String × Value} :
    entry ∈ optionalEntry key encode option ↔
      ∃ value, option = some value ∧ entry = (key, encode value) := by
  cases option <;> simp [optionalEntry]

@[simp] theorem any_optionalEntry (name : String) :
    (optionalEntry key encode option).any (fun entry => name == entry.1) =
      (name == key && option.isSome) := by
  cases option <;> simp [optionalEntry]

@[simp] theorem ite_and_isSome (given : Prop) [Decidable given] :
    (if given ∧ option.isSome = true then option else none) = if given then option else none := by
  cases option <;> simp

end Options

namespace Window

def keeping (window : Window) (given : String → Bool) : Window where
  preceding := if given "preceding" then window.preceding else ({} : Window).preceding
  following := if given "following" then window.following else ({} : Window).following
  scanLimit := if given "scan_limit" then window.scanLimit else ({} : Window).scanLimit

def without (removed : List String → Bool) (window : Window) : Window :=
  window.keeping fun key => !removed [key]

@[simp] theorem without_none (window : Window) : window.without (fun _ => false) = window := rfl

theorem decode_remnant (window : Window) :
    decode format (window.encode.remnant removed) = .ok (window.without removed) := by
  refine (toRecord_remnant format _ window.keeping fun given entry here => ?_).trans ?_
  -- each entry gives its own field, and in the end those are given that are left
  · simp only [List.mem_cons, List.not_mem_nil, or_false] at here
    rcases here with rfl | rfl | rfl <;>
      simp [withEntry, keeping, bind, Except.bind, pure, Except.pure]
  · simp [without, keeping]

end Window

namespace GeneralSettings

def keeping (general : GeneralSettings) (given : String → Bool) : GeneralSettings where
  includes := if given "include" then general.includes else ({} : GeneralSettings).includes
  excludes := if given "exclude" then general.excludes else ({} : GeneralSettings).excludes
  categories := if given "categories" then general.categories else ({} : GeneralSettings).categories
  escalate := if given "escalate" then general.escalate else ({} : GeneralSettings).escalate
  window := if given "window" then general.window else ({} : GeneralSettings).window

def without (removed : List String → Bool) (general : GeneralSettings) : GeneralSettings :=
  { general with window := general.window.without (belowKey removed "window") }.keeping
    fun key => !removed [key]

@[simp] theorem without_none (general : GeneralSettings) :
    general.without (fun _ => false) = general := rfl

theorem decode_remnant (general : GeneralSettings) :
    decode format (general.encode.remnant removed) = .ok (general.without removed) := by
  let left := { general with window := general.window.without (belowKey removed "window") }
  refine (toRecord_remnant format _ left.keeping fun given entry here => ?_).trans ?_
  · simp only [List.mem_cons, List.not_mem_nil, or_false] at here
    rcases here with rfl | rfl | rfl | rfl | rfl <;>
      simp [withEntry, keeping, left, Window.decode_remnant, bind, Except.bind, pure, Except.pure]
  · simp [without, keeping, left]

end GeneralSettings

namespace GateSettings

def keeping (gating : GateSettings) (given : String → Bool) : GateSettings where
  profile := if given "profile" then gating.profile else ({} : GateSettings).profile
  minimumScore := if given "minimum_score" then gating.minimumScore else none
  blockOnBlockers := if given "block_on_blockers" then gating.blockOnBlockers else none
  maxBlockers := if given "max_blockers" then gating.maxBlockers else none
  failOnWarnings := if given "fail_on_warnings" then gating.failOnWarnings else none
  maxWarnings := if given "max_warnings" then gating.maxWarnings else none

def without (removed : List String → Bool) (gating : GateSettings) : GateSettings :=
  gating.keeping fun key => !removed [key]

@[simp] theorem without_none (gating : GateSettings) :
    gating.without (fun _ => false) = gating := rfl

def numbers (gating : GateSettings) : List Float := gating.minimumScore.toList

theorem decode_remnant {gating : GateSettings}
    (finite : ∀ number ∈ gating.numbers, number.isFinite = true) :
    decode format (gating.encode.remnant removed) = .ok (gating.without removed) := by
  refine (toRecord_remnant format _ gating.keeping fun given entry here => ?_).trans ?_
  · simp only [List.mem_cons, List.mem_append, mem_optionalEntry, List.cons_append] at here
    rcases here with rfl | ((((⟨value, set, rfl⟩ | ⟨value, set, rfl⟩) | ⟨value, set, rfl⟩) |
      ⟨value, set, rfl⟩) | ⟨value, set, rfl⟩)
    · rfl
    · have shown : value.isFinite = true := finite value (by simp [numbers, set])
      simp [withEntry, keeping, set, remnant_float shown, bind, Except.bind, pure, Except.pure]
    all_goals simp [withEntry, keeping, set, bind, Except.bind, pure, Except.pure]
  · simp [without, keeping]

end GateSettings

namespace Schedule

def numbers (schedule : Schedule Float) : List Float :=
  [schedule.critical, schedule.high, schedule.medium, schedule.warning]

theorem decode_remnant {schedule : Schedule Float}
    (finite : ∀ number ∈ schedule.numbers, number.isFinite = true)
    (kept : ∀ name ∈ ["critical", "high", "medium", "warning"], removed [name] = false) :
    decode format (schedule.encode.remnant removed) = .ok schedule := by
  let keeping (given : String → Bool) : Schedule Float :=
    ⟨if given "critical" then schedule.critical else 0, if given "high" then schedule.high else 0,
      if given "medium" then schedule.medium else 0,
        if given "warning" then schedule.warning else 0⟩
  obtain ⟨critical, high, medium, warning⟩ : schedule.critical.isFinite = true ∧
      schedule.high.isFinite = true ∧ schedule.medium.isFinite = true ∧
        schedule.warning.isFinite = true := by
    simpa [numbers] using finite
  have record : toRecord format ["critical", "high", "medium", "warning"] withEntry ⟨0, 0, 0, 0⟩
      (schedule.encode.remnant removed) = .ok schedule := by
    refine (toRecord_remnant format _ keeping fun given entry here => ?_).trans ?_
    · simp only [List.mem_cons, List.not_mem_nil, or_false] at here
      rcases here with rfl | rfl | rfl | rfl <;>
        simp [withEntry, keeping, remnant_float, critical, high, medium, warning, toFloat, bind,
          Except.bind, pure, Except.pure]
    · simp [keeping, kept]
  have complete : requireAll ["critical", "high", "medium", "warning"]
      (schedule.encode.remnant removed) = .ok () := by
    rw [encode, remnant_table]
    simp [requireAll, remnants, kept, List.lookup_cons]
  rw [decode, toFullRecord, record]
  exact congrArg (Except.map fun _ => schedule) complete

end Schedule

namespace MetricSettings

def keeping (metric : MetricSettings) (given : String → Bool) : MetricSettings where
  name := if given "name" then metric.name else none
  weight := if given "weight" then metric.weight else none
  blockOnFail := if given "block_on_fail" then metric.blockOnFail else none
  pass := if given "pass" then metric.pass else none
  warn := if given "warn" then metric.warn else none
  fail := if given "fail" then metric.fail else none
  deductions := if given "deductions" then metric.deductions else none

def without (removed : List String → Bool) (metric : MetricSettings) : MetricSettings :=
  metric.keeping fun key => !removed [key]

@[simp] theorem without_none (metric : MetricSettings) :
    metric.without (fun _ => false) = metric := rfl

def numbers (metric : MetricSettings) : List Float :=
  metric.weight.toList ++ metric.pass.toList ++ metric.warn.toList ++ metric.fail.toList ++
    metric.deductions.toList.flatMap Schedule.numbers

theorem decode_remnant {metric : MetricSettings}
    (finite : ∀ number ∈ metric.numbers, number.isFinite = true)
    (kept : ∀ name ∈ ["critical", "high", "medium", "warning"],
      removed ["deductions", name] = false) :
    decode format (metric.encode.remnant removed) = .ok (metric.without removed) := by
  have number (name : String) : ∀ value ∈ metric.numbers,
      (float value).remnant (belowKey removed name) = .float value :=
    fun value listed => remnant_float (finite value listed)
  refine (toRecord_remnant format _ metric.keeping fun given entry here => ?_).trans ?_
  · simp only [List.mem_append, mem_optionalEntry] at here
    rcases here with plain | ⟨schedule, set, rfl⟩
    · rcases plain with ((((⟨value, set, rfl⟩ | ⟨value, set, rfl⟩) | ⟨value, set, rfl⟩) |
        ⟨value, set, rfl⟩) | ⟨value, set, rfl⟩) | ⟨value, set, rfl⟩ <;>
        simp [withEntry, keeping, set, number, numbers, bind, Except.bind, pure, Except.pure]
    · have read : Schedule.decode format (schedule.encode.remnant (belowKey removed "deductions")) =
          .ok schedule :=
        Schedule.decode_remnant
          (fun number here => finite number (by simp [numbers, set, here])) kept
      have option : (schedule.encode.remnant (belowKey removed "deductions")).toOption
          (Schedule.decode format) = .ok (some schedule) := by
        rw [Schedule.encode, remnant_table] at read ⊢
        exact congrArg (Except.map some) read
      simp [withEntry, keeping, set, option, bind, Except.bind, pure, Except.pure]
  · simp [without, keeping]

end MetricSettings

namespace CorrectionSettings

def keeping (correction : CorrectionSettings) (given : String → Bool) : CorrectionSettings where
  maxIterations :=
    if given "max_iterations" then correction.maxIterations
    else ({} : CorrectionSettings).maxIterations
  skipRules :=
    if given "skip_rules" then correction.skipRules else ({} : CorrectionSettings).skipRules
  onlyRules :=
    if given "only_rules" then correction.onlyRules else ({} : CorrectionSettings).onlyRules

def without (removed : List String → Bool) (correction : CorrectionSettings) : CorrectionSettings :=
  correction.keeping fun key => !removed [key]

@[simp] theorem without_none (correction : CorrectionSettings) :
    correction.without (fun _ => false) = correction := rfl

theorem decode_remnant (correction : CorrectionSettings) :
    decode format (correction.encode.remnant removed) = .ok (correction.without removed) := by
  refine (toRecord_remnant format _ correction.keeping fun given entry here => ?_).trans ?_
  · simp only [List.mem_cons, List.not_mem_nil, or_false] at here
    rcases here with rfl | rfl | rfl <;>
      simp [withEntry, keeping, bind, Except.bind, pure, Except.pure]
  · simp [without, keeping]

end CorrectionSettings

namespace LoggingSettings

def keeping (logging : LoggingSettings) (given : String → Bool) : LoggingSettings where
  level := if given "level" then logging.level else ({} : LoggingSettings).level
  jsonFormat :=
    if given "json_format" then logging.jsonFormat else ({} : LoggingSettings).jsonFormat

def without (removed : List String → Bool) (logging : LoggingSettings) : LoggingSettings :=
  logging.keeping fun key => !removed [key]

@[simp] theorem without_none (logging : LoggingSettings) :
    logging.without (fun _ => false) = logging := rfl

theorem decode_remnant (logging : LoggingSettings) :
    decode format (logging.encode.remnant removed) = .ok (logging.without removed) := by
  refine (toRecord_remnant format _ logging.keeping fun given entry here => ?_).trans ?_
  · simp only [List.mem_cons, List.not_mem_nil, or_false] at here
    rcases here with rfl | rfl <;>
      simp [withEntry, keeping, bind, Except.bind, pure, Except.pure]
  · simp [without, keeping]

end LoggingSettings

/-! ## The whole -/

namespace Settings

def keeping (settings : Settings) (given : String → Bool) : Settings where
  general := if given "general" then settings.general else ({} : Settings).general
  gating := if given "gating" then settings.gating else ({} : Settings).gating
  metrics := if given "metrics" then settings.metrics else ({} : Settings).metrics
  correction := if given "correction" then settings.correction else ({} : Settings).correction
  sops := if given "sops" then settings.sops else ({} : Settings).sops
  logging := if given "logging" then settings.logging else ({} : Settings).logging

def metricsWithout (removed : List String → Bool) (settings : Settings) :
    List (String × MetricSettings) :=
  (settings.metrics.filter fun entry => !removed [entry.1]).map fun (id, metric) =>
    (id, metric.without (belowKey removed id))

def sopsWithout (removed : List String → Bool) (settings : Settings) :
    List (String × List String) :=
  settings.sops.filter fun entry => !removed [entry.1]

def sectionsWithout (removed : List String → Bool) (settings : Settings) : Settings where
  general := settings.general.without (belowKey removed "general")
  gating := settings.gating.without (belowKey removed "gating")
  metrics := settings.metricsWithout (belowKey removed "metrics")
  correction := settings.correction.without (belowKey removed "correction")
  sops := settings.sopsWithout (belowKey removed "sops")
  logging := settings.logging.without (belowKey removed "logging")

/-- The same settings with the defaults at the removed places.  Entries of a map have no default, so
these are gone. -/
def without (removed : List String → Bool) (settings : Settings) : Settings :=
  (settings.sectionsWithout removed).keeping fun key => !removed [key]

def numbers (settings : Settings) : List Float :=
  settings.gating.numbers ++ settings.metrics.flatMap fun entry => entry.2.numbers

/-- Maps have their entries in key order. -/
structure InKeyOrder (settings : Settings) : Prop where
  metrics : settings.metrics.Pairwise fun entry later => entry.1 < later.1
  sops : settings.sops.Pairwise fun entry later => entry.1 < later.1

theorem toMap_metrics {settings : Settings} (ordered : settings.InKeyOrder)
    (finite : ∀ number ∈ settings.numbers, number.isFinite = true)
    (kept : ∀ id, ∀ name ∈ ["critical", "high", "medium", "warning"],
      removed [id, "deductions", name] = false) :
    ((table (settings.metrics.map fun (id, metric) => (id, metric.encode))).remnant removed).toMap
      (MetricSettings.decode format) = .ok (settings.metricsWithout removed) :=
  toMap_remnant ordered.metrics fun (id, _) here =>
    MetricSettings.decode_remnant (fun number listed =>
      finite number (List.mem_append_right _ (List.mem_flatMap.mpr ⟨_, here, listed⟩))) (kept id)

theorem toMap_sops {settings : Settings} (ordered : settings.InKeyOrder) :
    ((table (settings.sops.map fun (name, ids) => (name, texts ids))).remnant removed).toMap
      toTexts = .ok (settings.sopsWithout removed) := by
  have read := @toMap_remnant _ _ toTexts removed _ texts (fun _ ids => ids) ordered.sops
    fun item _ => by rw [remnant_texts, toTexts_texts]
  exact read.trans (congrArg Except.ok (List.map_id _))

theorem decode_remnant {settings : Settings} (ordered : settings.InKeyOrder)
    (finite : ∀ number ∈ settings.numbers, number.isFinite = true)
    (kept : ∀ id, ∀ name ∈ ["critical", "high", "medium", "warning"],
      removed ["metrics", id, "deductions", name] = false) :
    decode format (settings.encode.remnant removed) = .ok (settings.without removed) := by
  have gating : GateSettings.decode format
      (settings.gating.encode.remnant (belowKey removed "gating")) =
        .ok (settings.gating.without (belowKey removed "gating")) :=
    GateSettings.decode_remnant fun number here => finite number (List.mem_append_left _ here)
  have metrics : ((table (settings.metrics.map fun (id, metric) => (id, metric.encode))).remnant
      (belowKey removed "metrics")).toMap (MetricSettings.decode format) =
        .ok (settings.metricsWithout (belowKey removed "metrics")) :=
    toMap_metrics ordered finite kept
  refine (toRecord_remnant format _ (settings.sectionsWithout removed).keeping
    fun given entry here => ?_).trans ?_
  · simp only [List.mem_cons, List.not_mem_nil, or_false] at here
    rcases here with rfl | rfl | rfl | rfl | rfl | rfl <;>
      simp [withEntry, keeping, sectionsWithout, GeneralSettings.decode_remnant, gating, metrics,
        CorrectionSettings.decode_remnant, toMap_sops ordered, LoggingSettings.decode_remnant, bind,
        Except.bind, pure, Except.pure]
  · simp [without, keeping, sectionsWithout]

theorem without_none (settings : Settings) : settings.without (fun _ => false) = settings := by
  have below (key : String) : belowKey (fun _ => false) key = fun _ => false := rfl
  have metrics : settings.metricsWithout (fun _ => false) = settings.metrics := by
    simp [metricsWithout, below]
  have sops : settings.sopsWithout (fun _ => false) = settings.sops := by simp [sopsWithout]
  simp [without, keeping, sectionsWithout, below, metrics, sops]

/-- Settings with finite numbers are read from their JSON value as they are, and from what is left
of it with the defaults at the removed places. -/
theorem decode_toJson_encode {settings : Settings} (ordered : settings.InKeyOrder)
    (finite : ∀ number ∈ settings.numbers, number.isFinite = true) (format : Format) :
    decode format settings.encode.toJson = .ok settings ∧
      ∀ removed : List String → Bool,
        (∀ id, ∀ name ∈ ["critical", "high", "medium", "warning"],
          removed ["metrics", id, "deductions", name] = false) →
        decode format (settings.encode.toJson.prune removed) = .ok (settings.without removed) := by
  refine ⟨?_, fun removed kept => decode_remnant ordered finite kept⟩
  have whole : decode format (settings.encode.remnant fun _ => false) =
      .ok (settings.without fun _ => false) := decode_remnant ordered finite fun _ _ _ => rfl
  rw [remnant_none, without_none] at whole
  exact whole

def retuned : Settings where
  general := { escalate := ["PERF003"], window := { preceding := 9, scanLimit := 80 } }
  gating := { profile := "strict", minimumScore := some 0.5, maxWarnings := some 25 }
  metrics := [("performance", { weight := some 2, deductions := some ⟨0.5, 0.2, 0.1, 0⟩ }),
    ("security", { pass := some 0.9, fail := some 0.4 })]
  correction := { maxIterations := 5 }
  sops := [("payments", ["transactions"]), ("tenancy", ["tenant-isolation", "security"])]
  logging := { level := "debug" }

theorem decode_retuned :
    decode .json retuned.encode.toJson = .ok retuned ∧
      decode .json (retuned.encode.toJson.prune fun place =>
        place ∈ [["general", "window", "preceding"], ["gating", "profile"], ["correction"],
          ["metrics", "performance", "weight"], ["metrics", "security", "fail"]]) =
        .ok { retuned with
          general := { retuned.general with window := { scanLimit := 80 } }
          gating := { minimumScore := some 0.5, maxWarnings := some 25 }
          metrics := [("performance", { deductions := some ⟨0.5, 0.2, 0.1, 0⟩ }),
            ("security", { pass := some 0.9 })]
          correction := {} } := by
  have ordered : retuned.InKeyOrder := ⟨by decide, by decide⟩
  have finite : ∀ number ∈ retuned.numbers, number.isFinite = true := by decide
  obtain ⟨whole, part⟩ := decode_toJson_encode ordered finite .json
  refine ⟨whole, (part _ ?_).trans ?_⟩
  · simp
  · simp [retuned, without, keeping, sectionsWithout, metricsWithout, sopsWithout, belowKey,
      GeneralSettings.without, GeneralSettings.keeping, Window.without, Window.keeping,
      GateSettings.without, GateSettings.keeping, MetricSettings.without, MetricSettings.keeping,
      LoggingSettings.without, LoggingSettings.keeping]

end Settings

end Compliance
