import Mathlib.Data.List.Sort
import Compliance.Fix.Correction

/-!
# Records of the pattern phase

The records of a pattern phase say all that it does: replayed one after the other on
the pieces of the content they find what they name and leave the lines behind that
the import phase gets.  The phase reads nothing off the violations but which rules
were reported on which of the lines.
-/

namespace Compliance

/-- Puts what the records name in its place, as long as each finds what it replaces. -/
def replay? : List Text → List AppliedFix → Option (List Text)
  | lines, [] => some lines
  | lines, record :: records =>
      if record.line ≠ 0 ∧ lines[record.line - 1]? = some record.before ∧
          record.after ≠ record.before then
        replay? (lines.set (record.line - 1) record.after) records
      else none

theorem replay?_append {lines : List Text} {records : List AppliedFix} {between : List Text}
    (first : replay? lines records = some between) (others : List AppliedFix) :
    replay? lines (records ++ others) = replay? between others := by
  induction records generalizing lines with
  | nil =>
      obtain rfl := Option.some.inj first
      rfl
  | cons record records ih =>
      simp only [replay?, List.cons_append] at first ⊢
      split at first
      · next fits => rw [if_pos fits, ih first]
      · cases first

theorem length_of_replay? {lines : List Text} {records : List AppliedFix} {final : List Text}
    (replayed : replay? lines records = some final) : final.length = lines.length := by
  induction records generalizing lines with
  | nil =>
      obtain rfl := Option.some.inj replayed
      rfl
  | cons record records ih =>
      simp only [replay?] at replayed
      split at replayed
      · rw [ih replayed, List.length_set]
      · cases replayed

/-- Lines that no record names stay as they are. -/
theorem getElem?_of_replay? {lines : List Text} {records : List AppliedFix} {final : List Text}
    (replayed : replay? lines records = some final) {index : Nat}
    (spared : ∀ record ∈ records, record.line ≠ index + 1) : final[index]? = lines[index]? := by
  induction records generalizing lines with
  | nil =>
      obtain rfl := Option.some.inj replayed
      rfl
  | cons record records ih =>
      simp only [replay?] at replayed
      split at replayed
      · next fits =>
          have elsewhere : record.line - 1 ≠ index := by
            have := spared record (by simp)
            have := fits.1
            omega
          rw [ih replayed fun other here => spared other (by simp [here]),
            List.getElem?_set_ne elsewhere]
      · cases replayed

namespace FixPattern

def record (fix : FixPattern) (line : Nat) (before after : Text) : AppliedFix :=
  ⟨fix.ruleId, line, before, after, fix.description⟩

theorem ne_of_applyLine? {fix : FixPattern} {line new : Text}
    (changed : fix.applyLine? line = some new) : new ≠ line := by
  simp only [applyLine?] at changed
  split at changed
  · split at changed
    · cases changed
    · next differs => exact Option.some.inj changed ▸ differs
  · cases changed

end FixPattern

namespace Progress

theorem attempt_cases (progress : Progress) (fix : FixPattern) (line : Nat) :
    progress.attempt fix line = progress ∨
    ∃ before after, line ≠ 0 ∧ progress.lines[line - 1]? = some before ∧
      fix.applyLine? before = some after ∧
      progress.attempt fix line = ⟨progress.lines.set (line - 1) after,
        progress.fixes ++ [fix.record line before after],
        (fix.prerequisite.map fun needed => needed.insert progress.needed).getD
          progress.needed⟩ := by
  unfold attempt
  split
  · exact .inl rfl
  · next positive =>
      split
      · exact .inl rfl
      · next before here =>
          split
          · exact .inl rfl
          · next after changed =>
              refine .inr ⟨before, after, positive, here, changed, ?_⟩
              cases fix.prerequisite <;> rfl

theorem length_attempt (progress : Progress) (fix : FixPattern) (line : Nat) :
    (progress.attempt fix line).lines.length = progress.lines.length := by
  rcases progress.attempt_cases fix line with same | ⟨before, after, -, -, -, moved⟩
  · rw [same]
  · rw [moved, List.length_set]

theorem attempt_of_outside {progress : Progress} {line : Nat}
    (outside : ¬ (line ≠ 0 ∧ line ≤ progress.lines.length)) (fix : FixPattern) :
    progress.attempt fix line = progress := by
  rcases progress.attempt_cases fix line with same | ⟨before, after, positive, here, -⟩
  · exact same
  · have inside := (List.getElem?_eq_some_iff.mp here).1
    omega

end Progress

theorem mem_targetLines {places : List Place} {ruleId : String} {line : Nat} :
    line ∈ targetLines places ruleId ↔
      ∃ place ∈ places, sameName place.ruleId ruleId = true ∧ place.line = line := by
  simp [targetLines, and_assoc]

theorem mem_attempts {registry : Registry} {options : CorrectionOptions} {places : List Place}
    {fix : FixPattern} {line : Nat} :
    (fix, line) ∈ attempts registry options places ↔
      fix ∈ registry ∧ options.allows fix.ruleId = true ∧ line ∈ targetLines places fix.ruleId := by
  simp [attempts, and_assoc]

/-- What holds of the first lines and survives every attempt holds of the whole phase. -/
theorem patternPhase_induction {registry : Registry} {options : CorrectionOptions} {content : Text}
    {places : List Place} {motive : Progress → Prop} (start : motive ⟨Text.pieces content, [], []⟩)
    (attempt : ∀ progress fix line, (fix, line) ∈ attempts registry options places →
      motive progress → motive (progress.attempt fix line)) :
    motive (patternPhase registry options content places) :=
  List.foldlRecOn _ _ start fun progress holds (fix, line) tried =>
    attempt progress fix line tried holds

/-! ## Records -/

def Reported (violations : List Violation) (ruleId : String) (line : Nat) : Prop :=
  ∃ violation ∈ violations, sameName violation.ruleId ruleId = true ∧ violation.line = line

def Violation.place (violation : Violation) : Place := ⟨violation.ruleId, violation.line⟩

theorem mem_targetLines_place {violations : List Violation} {ruleId : String} {line : Nat} :
    line ∈ targetLines (violations.map (·.place)) ruleId ↔ Reported violations ruleId line := by
  simp [mem_targetLines, Reported, Violation.place]

/-- A record belongs to an allowed fix that was tried where its rule was reported. -/
structure Justified (registry : Registry) (options : CorrectionOptions)
    (violations : List Violation) (record : AppliedFix) : Prop where
  allowed : options.allows record.ruleId = true
  reported : Reported violations record.ruleId record.line
  made : ∃ fix ∈ registry, fix.ruleId = record.ruleId ∧ fix.description = record.description ∧
    fix.applyLine? record.before = some record.after

/-- What is known of the lines and records at any moment of a pattern phase. -/
structure Progress.Recorded (registry : Registry) (options : CorrectionOptions)
    (violations : List Violation) (start : List Text) (progress : Progress) : Prop where
  replayed : replay? start progress.fixes = some progress.lines
  justified : ∀ record ∈ progress.fixes, Justified registry options violations record

theorem Progress.Recorded.attempt {registry : Registry} {options : CorrectionOptions}
    {violations : List Violation} {start : List Text} {progress : Progress}
    (recorded : progress.Recorded registry options violations start) {fix : FixPattern} {line : Nat}
    (tried : (fix, line) ∈ attempts registry options (violations.map (·.place))) :
    (progress.attempt fix line).Recorded registry options violations start := by
  obtain ⟨listed, allowed, target⟩ := mem_attempts.mp tried
  rcases progress.attempt_cases fix line with same | ⟨before, after, positive, here, changed, moved⟩
  · rwa [same]
  · rw [moved]
    refine ⟨?_, ?_⟩
    · have fits : line ≠ 0 ∧ progress.lines[line - 1]? = some before ∧ after ≠ before :=
        ⟨positive, here, FixPattern.ne_of_applyLine? changed⟩
      rw [replay?_append recorded.replayed, replay?]
      exact (if_pos fits).trans rfl
    · intro record made
      rcases List.mem_append.mp made with made | made
      · exact recorded.justified record made
      · obtain rfl := List.mem_singleton.mp made
        exact ⟨allowed, mem_targetLines_place.mp target, fix, listed, rfl, rfl, changed⟩

theorem recorded_patternPhase (registry : Registry) (options : CorrectionOptions) (content : Text)
    (violations : List Violation) :
    (patternPhase registry options content (violations.map (·.place))).Recorded registry options
      violations (Text.pieces content) := by
  apply patternPhase_induction
  · exact ⟨rfl, by simp⟩
  · intro progress fix line tried recorded
    exact recorded.attempt tried

theorem nodup_eraseDups (numbers : List Nat) : numbers.eraseDups.Nodup := by
  induction size : numbers.length using Nat.strongRecOn generalizing numbers with
  | ind size ih =>
      cases numbers with
      | nil => simp
      | cons number numbers =>
          subst size
          rw [List.eraseDups_cons, List.nodup_cons]
          refine ⟨by simp, ih _ ?_ _ rfl⟩
          exact Nat.lt_succ_of_le (List.length_filter_le ..)

theorem filter_targetLines_congr {places others : List Place} {ruleId : String} {keep : Nat → Bool}
    (same : ∀ line, keep line = true →
      (line ∈ targetLines places ruleId ↔ line ∈ targetLines others ruleId)) :
    (targetLines places ruleId).filter keep = (targetLines others ruleId).filter keep := by
  have sorted (places : List Place) : (targetLines places ruleId).Pairwise (· ≤ ·) := by
    have := @List.pairwise_mergeSort Nat (fun a b => decide (a ≤ b))
      (by simpa using fun _ _ _ => Nat.le_trans) (by simpa using Nat.le_total)
      ((places.filter fun place => sameName place.ruleId ruleId).map (·.line)).eraseDups
    simpa [targetLines] using this
  have nodup (places : List Place) : (targetLines places ruleId).Nodup :=
    (List.mergeSort_perm ..).nodup_iff.mpr (nodup_eraseDups _)
  refine List.Perm.eq_of_pairwise (fun _ _ _ _ => Nat.le_antisymm)
    ((sorted places).filter _) ((sorted others).filter _) ?_
  refine (List.perm_ext_iff_of_nodup ((nodup places).filter _) ((nodup others).filter _)).mpr ?_
  intro line
  simp only [List.mem_filter]
  exact and_congr_left (same line)

def Progress.tryAll (progress : Progress) (tried : List (FixPattern × Nat)) : Progress :=
  tried.foldl (fun progress (fix, line) => progress.attempt fix line) progress

theorem Progress.tryAll_filter (progress : Progress) (tried : List (FixPattern × Nat)) :
    progress.tryAll (tried.filter fun attempt =>
        attempt.2 ≠ 0 && attempt.2 ≤ progress.lines.length) = progress.tryAll tried := by
  induction tried generalizing progress with
  | nil => rfl
  | cons attempt tried ih =>
      obtain ⟨fix, line⟩ := attempt
      have rest := ih (progress.attempt fix line)
      rw [progress.length_attempt] at rest
      by_cases inside : line ≠ 0 ∧ line ≤ progress.lines.length
      · rw [List.filter_cons_of_pos (by simpa using inside)]
        exact rest
      · rw [List.filter_cons_of_neg (by simpa using inside)]
        rw [progress.attempt_of_outside inside] at rest
        exact rest.trans (by simp [tryAll, progress.attempt_of_outside inside])

theorem filter_attempts (registry : Registry) (options : CorrectionOptions) (places : List Place)
    (keep : Nat → Bool) :
    (attempts registry options places).filter (fun attempt => keep attempt.2) =
      (registry.filter fun fix => options.allows fix.ruleId).flatMap fun fix =>
        ((targetLines places fix.ruleId).filter keep).map fun line => (fix, line) := by
  rw [attempts, List.filter_flatMap]
  refine List.flatMap_congr fun fix _ => ?_
  rw [List.filter_map]
  rfl

theorem patternPhase_congr {registry : Registry} {options : CorrectionOptions} {content : Text}
    {places others : List Place}
    (same : ∀ fix ∈ registry, options.allows fix.ruleId = true →
      ∀ line, line ≠ 0 → line ≤ (Text.pieces content).length →
        (line ∈ targetLines places fix.ruleId ↔ line ∈ targetLines others fix.ruleId)) :
    patternPhase registry options content places =
      patternPhase registry options content others := by
  let start : Progress := ⟨Text.pieces content, [], []⟩
  have tried : (attempts registry options places).filter
        (fun attempt => attempt.2 ≠ 0 && attempt.2 ≤ start.lines.length) =
      (attempts registry options others).filter
        fun attempt => attempt.2 ≠ 0 && attempt.2 ≤ start.lines.length := by
    rw [filter_attempts registry options places fun line => line ≠ 0 && line ≤ start.lines.length,
      filter_attempts registry options others fun line => line ≠ 0 && line ≤ start.lines.length]
    refine List.flatMap_congr fun fix listed => ?_
    obtain ⟨listed, allowed⟩ := List.mem_filter.mp listed
    rw [filter_targetLines_congr fun line inside => ?_]
    simp only [Bool.and_eq_true, decide_eq_true_eq] at inside
    exact same fix listed allowed line (by simpa using inside.1) inside.2
  calc patternPhase registry options content places
      = start.tryAll (attempts registry options places) := rfl
    _ = start.tryAll (attempts registry options others) := by
        rw [← start.tryAll_filter, tried, start.tryAll_filter]
    _ = patternPhase registry options content others := rfl

namespace Corrector

variable {α : Type}

def phase (corrector : Corrector α) (content : Text) (violations : List Violation) : Progress :=
  patternPhase corrector.registry corrector.options content (violations.map (·.place))

/-- A step does in its pattern phase what the records say, hands the lines that they leave behind
to the import phase, and depends on nothing but which rules are reported on which lines. -/
theorem step_recorded (corrector : Corrector α) (content : Text) (violations : List Violation) :
    let phase := corrector.phase content violations
    let imports := importPhase phase.needed (Text.unpieces phase.lines)
    corrector.step content violations = (imports.1, phase.fixes ++ imports.2) ∧
    replay? (Text.pieces content) phase.fixes = some phase.lines ∧
    (∀ record ∈ phase.fixes,
      Justified corrector.registry corrector.options violations record) ∧
    phase.lines.length = (Text.pieces content).length ∧
    (∀ index, (∀ fix ∈ corrector.registry, corrector.options.allows fix.ruleId = true →
        ¬ Reported violations fix.ruleId (index + 1)) →
      phase.lines[index]? = (Text.pieces content)[index]?) ∧
    ∀ others, (∀ ruleId line, line ≠ 0 → line ≤ (Text.pieces content).length →
        (Reported others ruleId line ↔ Reported violations ruleId line)) →
      corrector.step content others = corrector.step content violations := by
  have recorded := recorded_patternPhase corrector.registry corrector.options content violations
  refine ⟨rfl, recorded.replayed, recorded.justified, length_of_replay? recorded.replayed, ?_, ?_⟩
  · intro index spared
    refine getElem?_of_replay? recorded.replayed fun record made here => ?_
    obtain ⟨allowed, reported, fix, listed, same, -⟩ := recorded.justified record made
    rw [← same] at allowed reported
    exact spared fix listed allowed (here ▸ reported)
  · intro others same
    have phases : corrector.phase content others = corrector.phase content violations := by
      refine patternPhase_congr fun fix _ _ line positive inside => ?_
      rw [mem_targetLines_place, mem_targetLines_place]
      exact same fix.ruleId line positive inside
    calc corrector.step content others
        = (let imports := importPhase (corrector.phase content others).needed
            (Text.unpieces (corrector.phase content others).lines)
          (imports.1, (corrector.phase content others).fixes ++ imports.2)) := rfl
      _ = corrector.step content violations := by rw [phases]; rfl

end Corrector

end Compliance
