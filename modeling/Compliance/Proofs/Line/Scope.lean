import Compliance.Proofs.Line.Enclosing

/-!
# The lines of a function

The scope around a line is one stretch of its file.  It runs from the nearest start that
encloses the line through the first line, not before the inspected one, after which no brace
of the stretch is open, or through the last line that the search reaches.
-/

namespace Compliance

theorem throughClosing_eq_take {lines : List Text} (nonempty : lines ≠ []) (depth : Int) :
    ∃ count < lines.length, throughClosing depth lines = lines.take (count + 1) ∧
      (∀ fewer < count, 0 < depth + openDepth (lines.take (fewer + 1))) ∧
      (count + 1 < lines.length → depth + openDepth (lines.take (count + 1)) ≤ 0) := by
  induction lines generalizing depth with
  | nil => exact absurd rfl nonempty
  | cons line lines ih =>
      have first : depth + openDepth ((line :: lines).take 1) = depth - braceDelta line := by
        simp only [List.take_succ_cons, List.take_zero, openDepth_cons]
        simp only [openDepth, List.foldl_nil]
        omega
      rw [throughClosing]
      by_cases closed : depth - braceDelta line ≤ 0
      · refine ⟨0, Nat.succ_pos _, ?_, fun _ none => absurd none (Nat.not_lt_zero _), fun _ => ?_⟩
        · simp [closed]
        · rw [first]
          exact closed
      cases lines with
      | nil =>
          refine ⟨0, Nat.succ_pos _, ?_, fun _ none => absurd none (Nat.not_lt_zero _),
            fun more => ?_⟩
          · simp [closed, throughClosing]
          · simp at more
      | cons next lines =>
          obtain ⟨count, inside, shape, opened, closes⟩ := ih (by simp) (depth - braceDelta line)
          have later (size : Nat) : depth + openDepth ((line :: next :: lines).take (size + 1)) =
              depth - braceDelta line + openDepth ((next :: lines).take size) := by
            rw [List.take_succ_cons, openDepth_cons]
            omega
          refine ⟨count + 1, Nat.succ_lt_succ inside, ?_, fun fewer less => ?_, fun more => ?_⟩
          · simp only [if_neg closed, shape, List.take_succ_cons]
          · cases fewer with
            | zero =>
                rw [first]
                omega
            | succ fewer =>
                rw [later]
                exact opened fewer (by omega)
          · rw [later]
            exact closes (Nat.lt_of_succ_lt_succ more)

theorem exists_enclosingStart?_of_encloses {isStart : Text → Bool} {lines : List Text}
    {index limit start : Nat} (encloses : Encloses isStart lines index limit start) :
    ∃ nearest, enclosingStart? lines index limit isStart = some nearest ∧ start ≤ nearest := by
  -- on the lines between the start and the scanned one: a later start takes its place
  induction size : scanned lines index - start using Nat.strongRecOn generalizing start with
  | _ _ ih =>
      by_cases other : ∃ later, start < later ∧ Encloses isStart lines index limit later
      · obtain ⟨later, after, encloses'⟩ := other
        have before := encloses'.before
        obtain ⟨nearest, found, behind⟩ := ih (scanned lines index - later) (by omega) encloses' rfl
        exact ⟨nearest, found, Nat.le_trans (Nat.le_of_lt after) behind⟩
      · have nearest : enclosingStart? lines index limit isStart = some start :=
          enclosingStart?_eq_some_iff.mpr
            ⟨encloses, fun later after encloses' => other ⟨later, after, encloses'⟩⟩
        exact ⟨start, nearest, Nat.le_refl start⟩

namespace LineContext

variable {context : LineContext} {start last : Nat}

def reach (context : LineContext) : Nat :=
  min (context.index + context.window.scanLimit) (context.lines.length - 1)

/-- The lines of the file from a start through a last line, as the scope of the inspected line. -/
def stretch (context : LineContext) (start last : Nat) : FunctionScope :=
  ⟨start, (context.lines.take (last + 1)).drop start, context.index - start⟩

theorem getElem?_stretch {place : Nat} (after : start ≤ place) (before : place ≤ last) :
    (context.stretch start last).lines[place - start]? = context.lines[place]? := by
  have back : start + (place - start) = place := by omega
  rw [stretch, List.getElem?_drop, back, List.getElem?_take_of_lt (by omega)]

theorem mem_stretch {line : Text} :
    line ∈ (context.stretch start last).lines ↔
      ∃ place, start ≤ place ∧ place ≤ last ∧ context.lines[place]? = some line := by
  constructor
  · intro here
    obtain ⟨steps, here⟩ := List.mem_iff_getElem?.mp here
    rw [stretch, List.getElem?_drop] at here
    obtain ⟨inside, -⟩ := List.getElem?_eq_some_iff.mp here
    rw [List.length_take] at inside
    refine ⟨start + steps, Nat.le_add_right .., by omega, ?_⟩
    rwa [List.getElem?_take_of_lt (by omega)] at here
  · rintro ⟨place, after, before, here⟩
    rw [← getElem?_stretch after before] at here
    exact List.mem_of_getElem? here

/-- The search for the closing line of the block of a start ends here. -/
structure Ends (context : LineContext) (start last : Nat) : Prop where
  after : context.index ≤ last
  within : last ≤ context.reach
  stays : ∀ place, context.index ≤ place → place < last → 0 < depthOver context.lines start place
  closed : last < context.reach → depthOver context.lines start last ≤ 0

theorem Ends.eq {other : Nat} (ends : context.Ends start last) (ends' : context.Ends start other) :
    last = other := by
  have before {first second : Nat} (one : context.Ends start first)
      (two : context.Ends start second) :
      first ≤ second := by
    rcases Nat.lt_or_ge second first with earlier | ordered
    · have closed := two.closed (Nat.lt_of_lt_of_le earlier one.within)
      have opened := one.stays second two.after earlier
      omega
    · exact ordered
  exact Nat.le_antisymm (before ends ends') (before ends' ends)

theorem Ends.le_iff {place : Nat} (ends : context.Ends start last) :
    place ≤ last ↔ place ≤ context.reach ∧
      ∀ between, context.index ≤ between → between < place →
        0 < depthOver context.lines start between := by
  constructor
  · intro before
    exact ⟨Nat.le_trans before ends.within, fun between later earlier =>
      ends.stays between later (Nat.lt_of_lt_of_le earlier before)⟩
  · rintro ⟨reached, opened⟩
    rcases Nat.lt_or_ge last place with earlier | ordered
    · have closed := ends.closed (Nat.lt_of_lt_of_le earlier reached)
      have stays := opened last ends.after earlier
      omega
    · exact ordered

theorem Ends.lt_length (ends : context.Ends start last)
    (inside : context.index < context.lines.length) :
    last < context.lines.length := by
  have within := ends.within
  rw [LineContext.reach] at within
  omega

theorem start_le_index (found : context.enclosing? isFunctionStart = some start) :
    start ≤ context.index :=
  Nat.le_trans (enclosingStart?_eq_some_iff.mp found).1.before (Nat.min_le_left ..)

theorem head_append_take {steps : Nat} (before : start ≤ context.index) :
    (context.lines.drop start).take (context.index - start) ++
        (context.lines.drop context.index).take steps =
      (context.lines.take (context.index + steps)).drop start := by
  have size : context.index + steps - start = (context.index - start) + steps := by omega
  have later : (context.lines.drop start).drop (context.index - start) =
      context.lines.drop context.index := by
    rw [List.drop_drop]
    congr 1
    omega
  rw [List.drop_take, size, List.take_add, later]

theorem functionScope?_of_enclosing? (inside : context.index < context.lines.length)
    (found : context.enclosing? isFunctionStart = some start) :
    ∃ last, context.Ends start last ∧
      functionScope? context = some (context.stretch start last) := by
  have before := start_le_index found
  let head := (context.lines.drop start).take (context.index - start)
  let reach := (context.lines.drop context.index).take (context.window.scanLimit + 1)
  have size : reach.length = min (context.window.scanLimit + 1)
      (context.lines.length - context.index) := by
    simp [reach]
  have nonempty : reach ≠ [] := by
    rw [← List.length_pos_iff, size]
    omega
  have depth (steps : Nat) (short : steps ≤ context.window.scanLimit + 1) :
      openDepth head + openDepth (reach.take steps) =
        openDepth ((context.lines.take (context.index + steps)).drop start) := by
    rw [← head_append_take before, openDepth_append, List.take_take, Nat.min_eq_left short]
  obtain ⟨count, short, shape, opened, closes⟩ := throughClosing_eq_take nonempty (openDepth head)
  rw [size] at short closes
  refine ⟨context.index + count, ⟨Nat.le_add_right .., ?within, ?stays, ?closed⟩, ?shape⟩
  case within =>
    rw [LineContext.reach]
    omega
  case stays =>
    intro place after less
    have stays := opened (place - context.index) (by omega)
    rwa [depth _ (by omega),
      show context.index + (place - context.index + 1) = place + 1 by omega] at stays
  case closed =>
    intro less
    rw [LineContext.reach] at less
    have closed := closes (by omega)
    rwa [depth _ (by omega)] at closed
  case shape =>
    rw [functionScope?, found, Option.map_some, stretch]
    change some (FunctionScope.mk start (head ++ throughClosing (openDepth head) reach) _) = _
    rw [shape, List.take_take, Nat.min_eq_left (by omega), head_append_take before]
    rfl

theorem functionScope?_eq_some_iff (inside : context.index < context.lines.length)
    {scope : FunctionScope} :
    functionScope? context = some scope ↔
      ∃ start last, context.enclosing? isFunctionStart = some start ∧ context.Ends start last ∧
        scope = context.stretch start last := by
  constructor
  · intro cut
    cases found : context.enclosing? isFunctionStart with
    | none => simp [functionScope?, found] at cut
    | some start =>
        obtain ⟨last, ends, shape⟩ := functionScope?_of_enclosing? inside found
        exact ⟨start, last, rfl, ends, Option.some.inj (cut.symm.trans shape)⟩
  · rintro ⟨start, last, found, ends, rfl⟩
    obtain ⟨other, ends', shape⟩ := functionScope?_of_enclosing? inside found
    rw [shape, ends.eq ends']

end LineContext

end Compliance
