import Compliance.Line.Scope

/-!
# The block around a line

The backward scan keeps one balance of braces and gives the nearest start at which the
lines passed so far open at least as many braces as they close.  The block of that start
is open until the scanned line is reached, unless lines behind its end open as many
braces again as the start did.
-/

namespace Compliance

theorem foldl_depth (lines : List Text) (depth : Int) :
    lines.foldl (fun depth line => depth - braceDelta line) depth = depth + openDepth lines := by
  induction lines generalizing depth with
  | nil => simp [openDepth]
  | cons line lines ih =>
      rw [openDepth, List.foldl_cons, List.foldl_cons, ih, ih (0 - braceDelta line)]
      omega

theorem openDepth_cons (line : Text) (lines : List Text) :
    openDepth (line :: lines) = openDepth lines - braceDelta line := by
  rw [openDepth, List.foldl_cons, foldl_depth]
  omega

theorem openDepth_append (first second : List Text) :
    openDepth (first ++ second) = openDepth first + openDepth second := by
  rw [openDepth, List.foldl_append, foldl_depth]
  rfl

theorem openDepth_reverse (lines : List Text) : openDepth lines.reverse = openDepth lines := by
  induction lines with
  | nil => rfl
  | cons line lines ih =>
      rw [List.reverse_cons, openDepth_append, ih, openDepth_cons, openDepth_cons]
      simp [openDepth]
      omega

def depthOver (lines : List Text) (first last : Nat) : Int :=
  openDepth ((lines.take (last + 1)).drop first)

theorem depthOver_eq {lines : List Text} {first last : Nat} (ordered : first ≤ last + 1) :
    depthOver lines first last =
      openDepth (lines.take (last + 1)) - openDepth (lines.take first) := by
  have cut := openDepth_append ((lines.take (last + 1)).take first)
    ((lines.take (last + 1)).drop first)
  rw [List.take_append_drop, List.take_take, Nat.min_eq_left ordered] at cut
  rw [depthOver]
  omega

theorem depthOver_add (lines : List Text) {first middle last : Nat} (after : first ≤ middle + 1)
    (before : middle ≤ last) :
    depthOver lines first middle + depthOver lines (middle + 1) last =
      depthOver lines first last := by
  rw [depthOver_eq after, depthOver_eq (show middle + 1 ≤ last + 1 by omega),
    depthOver_eq (show first ≤ last + 1 by omega)]
  omega

/-- A start so many lines back, up to which the lines open as many braces as the balance asks. -/
def Takes (isStart : Text → Bool) (balance : Int) (lines : List Text) (steps : Nat) : Prop :=
  ∃ line, lines[steps]? = some line ∧ isStart line = true ∧
    balance ≤ openDepth (lines.take steps)

theorem takes_zero {isStart : Text → Bool} {balance : Int} {line : Text} {lines : List Text} :
    Takes isStart balance (line :: lines) 0 ↔ balance ≤ 0 ∧ isStart line = true := by
  simp [Takes, openDepth, and_comm]

theorem takes_succ {isStart : Text → Bool} {balance : Int} {line : Text} {lines : List Text}
    {steps : Nat} :
    Takes isStart balance (line :: lines) (steps + 1) ↔
      Takes isStart (balance + braceDelta line) lines steps := by
  simp only [Takes, List.getElem?_cons_succ, List.take_succ_cons, openDepth_cons]
  constructor
  · rintro ⟨start, here, starts, enough⟩
    exact ⟨start, here, starts, by omega⟩
  · rintro ⟨start, here, starts, enough⟩
    exact ⟨start, here, starts, by omega⟩

theorem stepsBack_eq_some_iff {isStart : Text → Bool} {balance : Int} {lines : List Text}
    {steps : Nat} :
    stepsBack isStart balance lines = some steps ↔
      Takes isStart balance lines steps ∧
        ∀ fewer < steps, ¬ Takes isStart balance lines fewer := by
  -- a first line that is taken is the nearest; behind any other the scan goes on with its braces
  induction lines generalizing balance steps with
  | nil => simp [stepsBack, Takes]
  | cons line lines ih =>
      rw [stepsBack]
      by_cases here : Takes isStart balance (line :: lines) 0
      · have taken := takes_zero.mp here
        rw [if_pos (by simpa using taken)]
        constructor
        · rintro ⟨⟩
          exact ⟨here, fun _ fewer => absurd fewer (Nat.not_lt_zero _)⟩
        · rintro ⟨-, nearest⟩
          cases steps with
          | zero => rfl
          | succ steps => exact absurd here (nearest 0 (Nat.succ_pos steps))
      · have passed := mt takes_zero.mpr here
        rw [if_neg (by simpa using passed)]
        cases steps with
        | zero => simp [here]
        | succ steps =>
            rw [Option.map_eq_some_iff]
            simp only [Nat.add_right_cancel_iff, exists_eq_right, ih, takes_succ]
            refine and_congr_right fun _ =>
              ⟨fun nearest fewer less => ?_, fun nearest fewer less => ?_⟩
            · cases fewer with
              | zero => exact here
              | succ fewer => exact fun takes => nearest fewer (by omega) (takes_succ.mp takes)
            · exact fun takes => nearest (fewer + 1) (by omega) (takes_succ.mpr takes)

/-! ## Starts in a file -/

theorem backward_eq {lines : List Text} {index : Nat} {line : Text}
    (here : lines[index]? = some line) (limit : Nat) :
    backward lines index limit = line :: ((lines.take index).reverse).take limit := by
  have last : lines.take (index + 1) = lines.take index ++ [line] := by
    rw [List.take_add_one, here]
    rfl
  rw [backward, last, List.reverse_append]
  rfl

theorem drop_eq_cons {lines : List Text} {index : Nat} {line : Text}
    (here : lines[index]? = some line) :
    lines.drop index = line :: lines.drop (index + 1) := by
  obtain ⟨inside, rfl⟩ := List.getElem?_eq_some_iff.mp here
  exact List.drop_eq_getElem_cons inside

def scanned (lines : List Text) (index : Nat) : Nat := min index (lines.length - 1)

/-- A start within the limit, from which on no more braces are closed than opened. -/
structure Encloses (isStart : Text → Bool) (lines : List Text) (index limit start : Nat) :
    Prop where
  before : start ≤ scanned lines index
  within : scanned lines index ≤ start + limit
  starts : ∃ line, lines[start]? = some line ∧ isStart line = true
  balanced : 0 ≤ depthOver lines (start + 1) index

theorem getElem?_backward {lines : List Text} {index limit steps : Nat} (reach : steps ≤ limit)
    (inside : steps ≤ scanned lines index) :
    (backward lines index limit)[steps]? = lines[scanned lines index - steps]? := by
  rw [backward, List.getElem?_take_of_lt (by omega)]
  cases lines with
  | nil => simp
  | cons line lines =>
      have size : ((line :: lines).take (index + 1)).length = min index lines.length + 1 := by
        rw [List.length_take, List.length_cons]
        omega
      simp only [scanned, List.length_cons, Nat.add_sub_cancel] at inside ⊢
      rw [List.getElem?_reverse (by omega), size, Nat.add_sub_cancel,
        List.getElem?_take_of_lt (by omega)]

theorem openDepth_take_backward {lines : List Text} {index limit steps : Nat}
    (reach : steps ≤ limit) (inside : steps ≤ scanned lines index) :
    openDepth ((backward lines index limit).take steps) =
      depthOver lines (scanned lines index - steps + 1) index := by
  rw [backward, List.take_take, Nat.min_eq_left (by omega), List.take_reverse, openDepth_reverse,
    depthOver]
  cases lines with
  | nil => simp
  | cons line lines =>
      congr 2
      simp only [scanned, List.length_cons, List.length_take] at inside ⊢
      omega

theorem steps_le_scanned {isStart : Text → Bool} {balance : Int} {lines : List Text}
    {index limit steps : Nat} (takes : Takes isStart balance (backward lines index limit) steps) :
    steps ≤ scanned lines index := by
  obtain ⟨line, here, -⟩ := takes
  obtain ⟨inside, -⟩ := List.getElem?_eq_some_iff.mp here
  simp only [backward, List.length_take, List.length_reverse] at inside
  simp only [scanned]
  omega

theorem takes_backward_iff {isStart : Text → Bool} {lines : List Text} {index limit steps : Nat}
    (inside : steps ≤ scanned lines index) :
    Takes isStart 0 (backward lines index limit) steps ↔
      Encloses isStart lines index limit (scanned lines index - steps) := by
  by_cases reach : steps ≤ limit
  · rw [Takes, getElem?_backward reach inside, openDepth_take_backward reach inside]
    constructor
    · rintro ⟨line, here, starts, enough⟩
      exact ⟨by omega, by omega, ⟨line, here, starts⟩, enough⟩
    · rintro ⟨-, -, ⟨line, here, starts⟩, enough⟩
      exact ⟨line, here, starts, enough⟩
  · constructor
    · rintro ⟨line, here, -⟩
      obtain ⟨short, -⟩ := List.getElem?_eq_some_iff.mp here
      simp only [backward, List.length_take] at short
      omega
    · rintro ⟨-, within, -⟩
      omega

/-- The scan gives the nearest start that encloses the line. -/
theorem enclosingStart?_eq_some_iff {isStart : Text → Bool} {lines : List Text}
    {index limit start : Nat} :
    enclosingStart? lines index limit isStart = some start ↔
      Encloses isStart lines index limit start ∧
        ∀ later, start < later → ¬ Encloses isStart lines index limit later := by
  change (stepsBack isStart 0 (backward lines index limit)).map (scanned lines index - ·) =
    some start ↔ _
  rw [Option.map_eq_some_iff]
  constructor
  · rintro ⟨steps, found, rfl⟩
    obtain ⟨takes, nearest⟩ := stepsBack_eq_some_iff.mp found
    have inside := steps_le_scanned takes
    refine ⟨(takes_backward_iff inside).mp takes, fun later after encloses => ?_⟩
    have before := encloses.before
    refine nearest (scanned lines index - later) (by omega) ((takes_backward_iff (by omega)).mpr ?_)
    rwa [Nat.sub_sub_self before]
  · rintro ⟨encloses, nearest⟩
    have before := encloses.before
    have back := Nat.sub_sub_self before
    refine ⟨scanned lines index - start, stepsBack_eq_some_iff.mpr ⟨?_, ?_⟩, back⟩
    · rw [takes_backward_iff (by omega), back]
      exact encloses
    · intro fewer less takes
      exact nearest _ (by omega) ((takes_backward_iff (by omega)).mp takes)

def StaysOpen (lines : List Text) (start target : Nat) : Prop :=
  ∀ last, start ≤ last → last < target → 0 < depthOver lines start last

/-- The block of a line is closed, and the lines behind its end open at least as many braces as
the line did. -/
def Reopened (lines : List Text) (start target : Nat) : Prop :=
  ∃ last, start < last ∧ last < target ∧ depthOver lines start last ≤ 0 ∧
    depthOver lines start start ≤ depthOver lines (last + 1) target

/-- The start of an open block that the scan gives leaves a brace open through the target.  Its own
block is open until the target exactly if no block behind it takes its place. -/
theorem open_of_enclosingStart? {isStart : Text → Bool} {lines : List Text}
    {target limit start : Nat} (found : enclosingStart? lines target limit isStart = some start)
    (opens : 0 < depthOver lines start start) :
    0 < depthOver lines start target ∧
      (StaysOpen lines start target ↔ ¬ Reopened lines start target) := by
  have encloses := (enclosingStart?_eq_some_iff.mp found).1
  have balanced := encloses.balanced
  have inside : start ≤ target := Nat.le_trans encloses.before (Nat.min_le_left ..)
  have through := depthOver_add lines (Nat.le_succ start) inside
  refine ⟨by omega, ?_, ?_⟩
  · rintro stays ⟨last, after, before, closed, -⟩
    have := stays last (by omega) before
    omega
  · intro never last after before
    rcases Int.lt_or_le 0 (depthOver lines start last) with stays | closed
    · exact stays
    have later : start < last := by
      rcases Nat.eq_or_lt_of_le after with rfl | later
      · omega
      · exact later
    have first := depthOver_add lines (Nat.le_succ start) (Nat.le_of_lt later)
    have second := depthOver_add lines (show start + 1 ≤ last + 1 by omega)
      (Nat.le_of_lt before)
    exact absurd ⟨last, later, before, closed, by omega⟩ never

def finishedFunction : List Text :=
  ["function load() \x7b", "  open();", "\x7d", "const options = \x7b", "  retries: 3,",
    "\x7d;"].map String.toList

theorem open_of_finished_function :
    enclosingStart? finishedFunction 4 300 isFunctionStart = some 0 ∧
      0 < depthOver finishedFunction 0 0 ∧ 0 < depthOver finishedFunction 0 4 ∧
      ¬ StaysOpen finishedFunction 0 4 := by
  have found : enclosingStart? finishedFunction 4 300 isFunctionStart = some 0 := by
    decide +kernel
  have opens : 0 < depthOver finishedFunction 0 0 := by decide +kernel
  have reopened : Reopened finishedFunction 0 4 :=
    ⟨2, by omega, by omega, by decide +kernel, by decide +kernel⟩
  obtain ⟨through, whole⟩ := open_of_enclosingStart? found opens
  exact ⟨found, opens, through, fun stays => whole.mp stays reopened⟩

end Compliance
