import Compliance.Fix.Correction
import Compliance.Proofs.Steps

/-!
# Rounds of correction

What the correction loop leaves behind is an exact record of its rounds, and a
loop that is cut in two by its cap runs as one.
-/

namespace Compliance.Corrector

variable {α : Type} [Scalar α] {corrector : Corrector α} {name : String}

/-- The ways in which a loop runs, from content with its violations to an ending. -/
inductive Course (corrector : Corrector α) (name : String) :
    Nat → Text → List Violation → Ending → Prop
  | exhausted {content : Text} {before : List Violation} :
      Course corrector name 0 content before ⟨[], content, before, .iterationLimit⟩
  | stalled {cap : Nat} {content : Text} {before : List Violation}
      (still : (corrector.step content before).2 = []) :
      Course corrector name (cap + 1) content before ⟨[], content, before, .stalled⟩
  | resolved {cap : Nat} {content corrected : Text} {before : List Violation}
      {fixes : List AppliedFix} (moves : corrector.step content before = (corrected, fixes))
      (changed : fixes ≠ []) (checked : corrector.violations name corrected = .ok []) :
      Course corrector name (cap + 1) content before
        ⟨[⟨content, corrected, fixes, []⟩], corrected, [], .resolved⟩
  | further {cap : Nat} {content corrected : Text} {before remaining : List Violation}
      {fixes : List AppliedFix} {ending : Ending}
      (moves : corrector.step content before = (corrected, fixes)) (changed : fixes ≠ [])
      (checked : corrector.violations name corrected = .ok remaining) (left : remaining ≠ [])
      (rest : Course corrector name cap corrected remaining ending) :
      Course corrector name (cap + 1) content before
        { ending with iterations := ⟨content, corrected, fixes, remaining⟩ :: ending.iterations }

theorem course_of_loop {cap : Nat} {content : Text} {before : List Violation} {ending : Ending}
    (runs : corrector.loop name cap content before = .ok ending) :
    corrector.Course name cap content before ending := by
  induction cap generalizing content before ending with
  | zero =>
      obtain rfl := Except.ok.inj runs
      exact .exhausted
  | succ cap ih =>
      rw [loop] at runs
      generalize moves : corrector.step content before = moved at runs
      obtain ⟨corrected, fixes⟩ := moved
      dsimp only at runs
      split at runs
      · next empty =>
          obtain rfl := Except.ok.inj runs
          exact .stalled (by rw [moves]; exact List.isEmpty_iff.mp empty)
      · next differs =>
          have changed : fixes ≠ [] := by simpa using differs
          obtain ⟨remaining, checked, runs⟩ := exists_of_bind_eq_ok runs
          split at runs
          · next empty =>
              obtain rfl := List.isEmpty_iff.mp empty
              obtain rfl := Except.ok.inj runs
              exact .resolved moves changed checked
          · next left =>
              obtain ⟨final, later, rfl⟩ := exists_of_map_eq_ok runs
              exact .further moves changed checked (by simpa using left) (ih later)

theorem loop_of_course {cap : Nat} {content : Text} {before : List Violation} {ending : Ending}
    (course : corrector.Course name cap content before ending) :
    corrector.loop name cap content before = .ok ending := by
  induction course with
  | exhausted => rfl
  | stalled still => simp [loop, still]
  | resolved moves changed checked =>
      simp only [loop, moves, List.isEmpty_iff, changed, if_false, checked]
      rfl
  | further moves changed checked left rest ih =>
      simp only [loop, moves, List.isEmpty_iff, changed, if_false, checked, left, ih, bind,
        Except.bind]

def Chained : Text → List Iteration → Text → Prop
  | start, [], final => final = start
  | start, round :: rounds, final => round.start = start ∧ Chained round.corrected rounds final

/-- A round is one step on the violations of its start, checked again. -/
structure Faithful (corrector : Corrector α) (name : String) (round : Iteration) : Prop where
  changed : round.fixes ≠ []
  applied : ∃ before, corrector.violations name round.start = .ok before ∧
    corrector.step round.start before = (round.corrected, round.fixes)
  checked : corrector.violations name round.corrected = .ok round.remaining

/-- What holds of rounds from a start to a final content, whatever made them end. -/
structure Traced (corrector : Corrector α) (name : String) (cap : Nat) (start : Text)
    (rounds : List Iteration) (final : Text) (remaining : List Violation) : Prop where
  capped : rounds.length ≤ cap
  chained : Chained start rounds final
  faithful : ∀ round ∈ rounds, corrector.Faithful name round
  pending : ∀ round ∈ rounds.dropLast, round.remaining ≠ []
  checked : corrector.violations name final = .ok remaining

/-- The rounds of a correction, and the one reason for its outcome. -/
structure Records (corrector : Corrector α) (file : SourceFile) (correction : Correction) :
    Prop where
  named : correction.file = file.name
  initial : correction.initial = file.content
  traced : corrector.Traced file.name corrector.options.maxIterations file.content
    correction.iterations correction.final correction.remaining
  clean : correction.outcome = .clean ↔ corrector.violations file.name file.content = .ok []
  resolved : correction.outcome = .resolved ↔
    correction.iterations ≠ [] ∧ correction.remaining = []
  stalled : correction.outcome = .stalled ↔ correction.remaining ≠ [] ∧
    correction.iterations.length < corrector.options.maxIterations ∧
    (corrector.step correction.final correction.remaining).2 = []
  iterationLimit : correction.outcome = .iterationLimit ↔ correction.remaining ≠ [] ∧
    correction.iterations.length = corrector.options.maxIterations

def Ending.Explained (corrector : Corrector α) (cap : Nat) (ending : Ending) : Prop :=
  match ending.outcome with
  | .clean => False
  | .resolved => ending.iterations ≠ [] ∧ ending.remaining = []
  | .stalled => ending.remaining ≠ [] ∧ ending.iterations.length < cap ∧
      (corrector.step ending.final ending.remaining).2 = []
  | .iterationLimit => ending.remaining ≠ [] ∧ ending.iterations.length = cap

theorem Traced.cons {cap : Nat} {start corrected final : Text} {rounds : List Iteration}
    {before remaining last : List Violation} {fixes : List AppliedFix}
    (traced : corrector.Traced name cap corrected rounds final last)
    (found : corrector.violations name start = .ok before)
    (moves : corrector.step start before = (corrected, fixes)) (changed : fixes ≠ [])
    (checked : corrector.violations name corrected = .ok remaining)
    (left : rounds ≠ [] → remaining ≠ []) :
    corrector.Traced name (cap + 1) start (⟨start, corrected, fixes, remaining⟩ :: rounds) final
      last where
  capped := by
    have := traced.capped
    simp only [List.length_cons]
    omega
  chained := ⟨rfl, traced.chained⟩
  faithful := by
    intro round here
    rcases List.mem_cons.mp here with rfl | here
    · exact ⟨changed, ⟨before, found, moves⟩, checked⟩
    · exact traced.faithful round here
  pending := by
    intro round here
    cases rounds with
    | nil => simp at here
    | cons next rounds =>
        rcases List.mem_cons.mp here with rfl | here
        · exact left (by simp)
        · exact traced.pending round here
  checked := traced.checked

theorem Course.traced {cap : Nat} {content : Text} {before : List Violation} {ending : Ending}
    (course : corrector.Course name cap content before ending)
    (found : corrector.violations name content = .ok before) :
    corrector.Traced name cap content ending.iterations ending.final ending.remaining := by
  have none {cap : Nat} {content : Text} {before : List Violation}
      (found : corrector.violations name content = .ok before) :
      corrector.Traced name cap content [] content before :=
    ⟨Nat.zero_le _, rfl, by simp, by simp, found⟩
  induction course with
  | exhausted => exact none found
  | stalled => exact none found
  | resolved moves changed checked =>
      exact (none checked).cons found moves changed checked (by simp)
  | further moves changed checked left rest ih =>
      exact (ih checked).cons found moves changed checked fun _ => left

theorem Course.explained {cap : Nat} {content : Text} {before : List Violation} {ending : Ending}
    (course : corrector.Course name cap content before ending) (some : before ≠ []) :
    ending.Explained corrector cap := by
  induction course with
  | exhausted => exact ⟨some, rfl⟩
  | stalled still => exact ⟨some, Nat.succ_pos _, still⟩
  | resolved => exact ⟨by simp, rfl⟩
  | @further cap content corrected before remaining fixes ending moves changed checked
      left rest ih =>
      have reason := ih left
      obtain ⟨rounds, final, last, outcome⟩ := ending
      cases outcome with
      | clean => exact reason
      | resolved => exact ⟨by simp, reason.2⟩
      | stalled => exact ⟨reason.1, Nat.succ_lt_succ reason.2.1, reason.2.2⟩
      | iterationLimit => exact ⟨reason.1, congrArg Nat.succ reason.2⟩

theorem records_of_loop {file : SourceFile} {before : List Violation} {ending : Ending}
    (found : corrector.violations file.name file.content = .ok before) (some : before ≠ [])
    (course : corrector.Course file.name corrector.options.maxIterations file.content before
      ending) :
    corrector.Records file ⟨file.name, file.content, ending.final, ending.iterations,
      ending.remaining, ending.outcome⟩ := by
  have traced := course.traced found
  have reason := course.explained some
  obtain ⟨rounds, final, remaining, outcome⟩ := ending
  have dirty : ¬ corrector.violations file.name file.content = .ok [] := by
    rw [found]
    exact fun same => some (Except.ok.inj same)
  cases outcome with
  | clean => exact absurd reason id
  | resolved =>
      obtain ⟨moved, done⟩ : rounds ≠ [] ∧ remaining = [] := reason
      refine ⟨rfl, rfl, traced, ?_, ?_, ?_, ?_⟩
      · simp [dirty]
      · simp [moved, done]
      · simp [done]
      · simp [done]
  | stalled =>
      obtain ⟨left, below, still⟩ : remaining ≠ [] ∧
        rounds.length < corrector.options.maxIterations ∧
        (corrector.step final remaining).2 = [] := reason
      refine ⟨rfl, rfl, traced, ?_, ?_, ?_, ?_⟩
      · simp [dirty]
      · simp [left]
      · simp [left, below, still]
      · simpa [left] using Nat.ne_of_lt below
  | iterationLimit =>
      obtain ⟨left, full⟩ : remaining ≠ [] ∧
        rounds.length = corrector.options.maxIterations := reason
      refine ⟨rfl, rfl, traced, ?_, ?_, ?_, ?_⟩
      · simp [dirty]
      · simp [left]
      · simp [full]
      · simp [left, full]

theorem records_of_clean {file : SourceFile}
    (found : corrector.violations file.name file.content = .ok []) :
    corrector.Records file ⟨file.name, file.content, file.content, [], [], .clean⟩ where
  named := rfl
  initial := rfl
  traced := ⟨Nat.zero_le _, rfl, by simp, by simp, found⟩
  clean := by simp [found]
  resolved := by simp
  stalled := by simp
  iterationLimit := by simp

/-! ## Corrections -/

def Ending.toCorrection (ending : Ending) (file : SourceFile) : Correction :=
  ⟨file.name, file.content, ending.final, ending.iterations, ending.remaining, ending.outcome⟩

variable {file : SourceFile}

theorem correct_of_error {fault : Error}
    (found : corrector.violations file.name file.content = .error fault) :
    corrector.correct file = .error fault := by
  rw [correct, found]
  rfl

theorem correct_of_clean (found : corrector.violations file.name file.content = .ok []) :
    corrector.correct file = .ok ⟨file.name, file.content, file.content, [], [], .clean⟩ := by
  rw [correct, found]
  rfl

theorem correct_of_dirty {before : List Violation}
    (found : corrector.violations file.name file.content = .ok before) (some : before ≠ []) :
    corrector.correct file =
      (corrector.loop file.name corrector.options.maxIterations file.content before).map
        (·.toCorrection file) := by
  obtain ⟨first, others, rfl⟩ := List.exists_cons_of_ne_nil some
  rw [correct, found]
  change (corrector.loop file.name _ file.content (first :: others)).bind _ = _
  cases corrector.loop file.name corrector.options.maxIterations file.content (first :: others) <;>
    rfl

theorem correct_cases {correction : Correction} (ended : corrector.correct file = .ok correction) :
    (corrector.violations file.name file.content = .ok [] ∧
      correction = ⟨file.name, file.content, file.content, [], [], .clean⟩) ∨
    ∃ before ending, corrector.violations file.name file.content = .ok before ∧ before ≠ [] ∧
      corrector.Course file.name corrector.options.maxIterations file.content before ending ∧
      correction = ending.toCorrection file := by
  cases found : corrector.violations file.name file.content with
  | error fault =>
      rw [correct_of_error found] at ended
      cases ended
  | ok before =>
      by_cases clean : before = []
      · subst clean
        rw [correct_of_clean found] at ended
        exact .inl ⟨rfl, (Except.ok.inj ended).symm⟩
      · right
        rw [correct_of_dirty found clean] at ended
        obtain ⟨ending, runs, rfl⟩ := exists_of_map_eq_ok ended
        exact ⟨before, ending, rfl, clean, course_of_loop runs, rfl⟩

/-- A correction is an exact record of the rounds of its loop. -/
theorem records_of_correct (corrector : Corrector α) (file : SourceFile) {correction : Correction}
    (ended : corrector.correct file = .ok correction) : corrector.Records file correction := by
  rcases correct_cases ended with ⟨found, rfl⟩ | ⟨before, ending, found, dirty, course, rfl⟩
  · exact records_of_clean found
  · exact records_of_loop found dirty course

def errorCorrector : Corrector Float :=
  ⟨{ catalog := .standard }, .standard, { rules := ["ERR001", "ERR005"] }, {}⟩

theorem records_of_thrown_literal :
    ∃ correction, errorCorrector.correct ⟨"a.ts", "throw 'not found'".toList⟩ = .ok correction ∧
      (correction.iterations.length, correction.outcome) = (2, .resolved) ∧
      errorCorrector.Records ⟨"a.ts", "throw 'not found'".toList⟩ correction := by
  have runs : (errorCorrector.correct ⟨"a.ts", "throw 'not found'".toList⟩).toOption.map
      (fun correction => (correction.iterations.length, correction.outcome)) =
        some (2, .resolved) := by decide +kernel
  obtain ⟨correction, ended, shape⟩ := exists_ok_of_toOption runs
  exact ⟨correction, ended, shape, records_of_correct errorCorrector _ ended⟩

def withCap (corrector : Corrector α) (cap : Nat) : Corrector α :=
  { corrector with options := { corrector.options with maxIterations := cap } }

@[simp] theorem violations_withCap (corrector : Corrector α) (cap : Nat) :
    (corrector.withCap cap).violations = corrector.violations := rfl

omit [Scalar α] in
@[simp] theorem step_withCap (corrector : Corrector α) (cap : Nat) :
    (corrector.withCap cap).step = corrector.step := rfl

@[simp] theorem loop_withCap (corrector : Corrector α) (cap : Nat) :
    (corrector.withCap cap).loop = corrector.loop := by
  funext name rounds content before
  induction rounds generalizing content before with
  | zero => rfl
  | succ rounds ih =>
      rw [loop, loop]
      simp only [step_withCap, violations_withCap, ih]

def Ending.after (ending : Ending) (rounds : List Iteration) : Ending :=
  { ending with iterations := rounds ++ ending.iterations }

/-- A loop that a cap cuts short goes on where it was cut. -/
theorem loop_add (corrector : Corrector α) (name : String) (m n : Nat) (content : Text)
    (before : List Violation) :
    corrector.loop name (m + n) content before =
      (corrector.loop name m content before).bind fun first =>
        if first.outcome = .iterationLimit then
          (corrector.loop name n first.final first.remaining).map (·.after first.iterations)
        else .ok first := by
  induction m generalizing content before with
  | zero =>
      rw [Nat.zero_add]
      cases runs : corrector.loop name n content before with
      | error fault => simp [loop, Except.bind, Except.map, runs]
      | ok ending => simp [loop, Except.bind, Except.map, runs, Ending.after]
  | succ m ih =>
      rw [Nat.succ_add, loop, loop]
      generalize corrector.step content before = moved
      obtain ⟨corrected, fixes⟩ := moved
      dsimp only
      split
      · rfl
      · cases corrector.violations name corrected with
        | error fault => rfl
        | ok remaining =>
            change (if remaining.isEmpty then _ else _) =
              Except.bind (if remaining.isEmpty then _ else _) _
            split
            · rfl
            · rw [ih]
              cases corrector.loop name m corrected remaining with
              | error fault => rfl
              | ok first =>
                  change Except.bind (if first.outcome = _ then _ else _) _ =
                    if first.outcome = _ then _ else _
                  split
                  · cases corrector.loop name n first.final first.remaining <;> rfl
                  · rfl

theorem loop_of_still {cap : Nat} {content : Text} {before : List Violation}
    (still : (corrector.step content before).2 = []) :
    corrector.loop name (cap + 1) content before = .ok ⟨[], content, before, .stalled⟩ := by
  rw [loop]
  generalize corrector.step content before = moved at still ⊢
  obtain ⟨corrected, fixes⟩ := moved
  obtain rfl : fixes = [] := still
  rfl

theorem correct_of_still {remaining : List Violation}
    (found : corrector.violations file.name file.content = .ok remaining)
    (still : remaining ≠ [] → (corrector.step file.content remaining).2 = []) :
    ∃ again, corrector.correct file = .ok again ∧ again.iterations = [] ∧
      again.final = file.content ∧ again.remaining = remaining := by
  by_cases clean : remaining = []
  · subst clean
    exact ⟨_, correct_of_clean found, rfl, rfl, rfl⟩
  · rw [correct_of_dirty found clean]
    cases corrector.options.maxIterations with
    | zero =>
        rw [loop]
        exact ⟨_, rfl, rfl, rfl, rfl⟩
    | succ cap =>
        rw [loop_of_still (still clean)]
        exact ⟨_, rfl, rfl, rfl, rfl⟩

omit [Scalar α] in
theorem still_of_explained {cap : Nat} {ending : Ending} (reason : ending.Explained corrector cap)
    (early : ending.outcome ≠ .iterationLimit) :
    ending.remaining ≠ [] → (corrector.step ending.final ending.remaining).2 = [] := by
  intro left
  obtain ⟨rounds, final, remaining, outcome⟩ := ending
  cases outcome with
  | clean => exact absurd reason id
  | resolved => exact absurd reason.2 left
  | stalled => exact reason.2.2
  | iterationLimit => exact absurd rfl early

omit [Scalar α] in
theorem remaining_ne_nil_of_explained {cap : Nat} {ending : Ending}
    (reason : ending.Explained corrector cap) (cut : ending.outcome = .iterationLimit) :
    ending.remaining ≠ [] := by
  obtain ⟨rounds, final, remaining, outcome⟩ := ending
  obtain rfl : outcome = .iterationLimit := cut
  exact reason.1

theorem correct_again {correction : Correction} (ended : corrector.correct file = .ok correction)
    (early : correction.outcome ≠ .iterationLimit) (cap : Nat) :
    ∃ again, (corrector.withCap cap).correct correction.toFile = .ok again ∧
      again.iterations = [] ∧ again.final = correction.final ∧
      again.remaining = correction.remaining := by
  rcases correct_cases ended with ⟨found, rfl⟩ | ⟨before, ending, found, dirty, course, rfl⟩
  · exact @correct_of_still α _ (corrector.withCap cap) file [] found (by simp)
  · have reason := course.explained dirty
    exact @correct_of_still α _ (corrector.withCap cap) ⟨file.name, ending.final⟩ _
      (course.traced found).checked (still_of_explained reason early)

def correctTwice (first second : Corrector α) (file : SourceFile) :
    Except Error (Text × List Violation × List Iteration) := do
  let once ← first.correct file
  let twice ← second.correct once.toFile
  return (twice.final, twice.remaining, once.iterations ++ twice.iterations)

theorem correctTwice_rest {m n : Nat} {first : Ending}
    (checked : corrector.violations file.name first.final = .ok first.remaining)
    (reason : first.Explained corrector m) :
    (do
      let twice ← (corrector.withCap n).correct ⟨file.name, first.final⟩
      return (twice.final, twice.remaining, first.iterations ++ twice.iterations)) =
      (((if first.outcome = .iterationLimit then
          (corrector.loop file.name n first.final first.remaining).map (·.after first.iterations)
        else .ok first).map (·.toCorrection file)).map fun whole =>
          (whole.final, whole.remaining, whole.iterations) :
        Except Error (Text × List Violation × List Iteration)) := by
  by_cases cut : first.outcome = .iterationLimit
  · have left := remaining_ne_nil_of_explained reason cut
    have moves := @correct_of_dirty α _ (corrector.withCap n) ⟨file.name, first.final⟩ _
        checked left
    rw [if_pos cut, moves, loop_withCap]
    change Except.bind ((corrector.loop file.name n first.final first.remaining).map _) _ = _
    cases corrector.loop file.name n first.final first.remaining <;> rfl
  · obtain ⟨again, runs, rounds, final, remaining⟩ :=
      @correct_of_still α _ (corrector.withCap n) ⟨file.name, first.final⟩ _ checked
        (still_of_explained reason cut)
    rw [if_neg cut, runs]
    change Except.ok (again.final, again.remaining, first.iterations ++ again.iterations) = _
    rw [rounds, final, remaining, List.append_nil]
    rfl

theorem correctTwice_eq (corrector : Corrector α) (file : SourceFile) (m n : Nat) :
    correctTwice (corrector.withCap m) (corrector.withCap n) file =
      ((corrector.withCap (m + n)).correct file).map fun whole =>
        (whole.final, whole.remaining, whole.iterations) := by
  cases found : corrector.violations file.name file.content with
  | error fault =>
      have fails (cap : Nat) : (corrector.withCap cap).correct file = .error fault :=
        correct_of_error found
      rw [correctTwice, fails, fails]
      rfl
  | ok before =>
      by_cases clean : before = []
      · subst clean
        have stays (cap : Nat) : (corrector.withCap cap).correct file =
            .ok ⟨file.name, file.content, file.content, [], [], .clean⟩ := correct_of_clean found
        rw [correctTwice, stays, stays]
        change ((corrector.withCap n).correct file).map _ = _
        rw [stays]
        rfl
      · have moves (cap : Nat) : (corrector.withCap cap).correct file =
            (corrector.loop file.name cap file.content before).map (·.toCorrection file) := by
          rw [← loop_withCap corrector cap]
          exact correct_of_dirty found clean
        rw [correctTwice, moves, moves, loop_add]
        cases runs : corrector.loop file.name m file.content before with
        | error fault => rfl
        | ok first =>
            have course := course_of_loop runs
            have checked := (course.traced found).checked
            have reason := course.explained clean
            exact correctTwice_rest checked reason

/-- Two runs with caps do what one run with their sum does, and a run that its cap did not cut short
leaves nothing to do. -/
theorem correctTwice_withCap (corrector : Corrector α) (file : SourceFile) (m n : Nat) :
    correctTwice (corrector.withCap m) (corrector.withCap n) file =
        ((corrector.withCap (m + n)).correct file).map (fun whole =>
          (whole.final, whole.remaining, whole.iterations)) ∧
      ∀ once, (corrector.withCap m).correct file = .ok once → once.outcome ≠ .iterationLimit →
        ∃ again, (corrector.withCap n).correct once.toFile = .ok again ∧ again.iterations = [] ∧
          again.final = once.final ∧ again.remaining = once.remaining :=
  ⟨correctTwice_eq corrector file m n, fun _ ended early => correct_again ended early n⟩

theorem correctTwice_of_thrown_literal :
    ∃ once, (errorCorrector.withCap 2).correct ⟨"a.ts", "throw 'not found'".toList⟩ = .ok once ∧
      once.outcome = .resolved ∧
      ∃ again, (errorCorrector.withCap 1).correct once.toFile = .ok again ∧ again.iterations = [] ∧
        again.final = once.final ∧ again.remaining = once.remaining := by
  have runs : ((errorCorrector.withCap 2).correct
      ⟨"a.ts", "throw 'not found'".toList⟩).toOption.map (·.outcome) = some .resolved := by
    decide +kernel
  obtain ⟨once, ended, resolved⟩ := exists_ok_of_toOption runs
  have early : once.outcome ≠ .iterationLimit := by simp [resolved]
  exact ⟨once, ended, resolved, (correctTwice_withCap errorCorrector _ 2 1).2 once ended early⟩

end Compliance.Corrector
