import Mathlib.Data.Nat.Find
import Compliance.Proofs.Line.Scope
import Compliance.Proofs.Fix.Efficacy

/-!
# Writes and transactions

A finding about writes to several tables stands at the first write on from the start of its
function, so one start has at most one.  Both transaction rules see only the function that the
backward scan gives: a first write that stands in a nested function leaves the function around it
without a finding, and an outer client is found only if the nearest function is the callback.
-/

namespace Compliance

variable {context : LineContext} {scope : FunctionScope} {start last : Nat}

def tableAt? (lines : List Text) (place : Nat) : Option Text :=
  lines[place]?.bind fun line => (writeTarget? line).map (·.table)

def Marked (lines : List Text) (place : Nat) : Prop :=
  ∃ line, lines[place]? = some line ∧ transactionMarker.occurs line = true

/-- The first write of a file on from a line. -/
structure FirstWrite (lines : List Text) (start place : Nat) : Prop where
  after : start ≤ place
  writes : (tableAt? lines place).isSome
  quiet : ∀ before, start ≤ before → before < place → tableAt? lines before = none

theorem FirstWrite.le {lines : List Text} {first place : Nat}
    (firstWrite : FirstWrite lines start first)
    (after : start ≤ place) (writes : (tableAt? lines place).isSome) : first ≤ place := by
  rcases Nat.lt_or_ge place first with earlier | ordered
  · rw [firstWrite.quiet place after earlier] at writes
    cases writes
  · exact ordered

theorem FirstWrite.eq {lines : List Text} {first second : Nat} (one : FirstWrite lines start first)
    (other : FirstWrite lines start second) : first = second :=
  Nat.le_antisymm (one.le other.after other.writes) (other.le one.after one.writes)

theorem writeTarget?_nil : writeTarget? [] = none := by decide +kernel

theorem tableAt?_index (context : LineContext) :
    tableAt? context.lines context.index = (writeTarget? context.line).map (·.table) := by
  rw [tableAt?, LineContext.line]
  cases context.lines[context.index]? with
  | none => simp [writeTarget?_nil]
  | some line => rfl

theorem lt_of_tableAt? {lines : List Text} {place : Nat} (writes : (tableAt? lines place).isSome) :
    place < lines.length := by
  rcases Nat.lt_or_ge place lines.length with inside | outside
  · exact inside
  · simp [tableAt?, List.getElem?_eq_none outside] at writes

theorem mem_writes {place : Nat} {table : Text} :
    (place, table) ∈ scope.writes ↔ tableAt? scope.lines place = some table := by
  simp only [FunctionScope.writes, List.mem_filterMap, List.mem_zipIdx_iff_getElem?, tableAt?,
    Option.bind_eq_some_iff, Option.map_eq_some_iff, Prod.exists, Prod.mk.injEq]
  constructor
  · rintro ⟨line, _, here, write, found, rfl, same⟩
    exact ⟨line, here, write, found, same⟩
  · rintro ⟨line, here, write, found, same⟩
    exact ⟨line, place, here, write, found, rfl, same⟩

theorem firstWrite_cons_zero {line : Text} {lines : List Text} :
    FirstWrite (line :: lines) 0 0 ↔ (writeTarget? line).isSome := by
  constructor
  · intro firstWrite
    simpa [tableAt?] using firstWrite.writes
  · intro writes
    exact ⟨Nat.le_refl 0, by simpa [tableAt?] using writes, fun _ _ less =>
      absurd less (Nat.not_lt_zero _)⟩

theorem firstWrite_cons_succ {line : Text} {lines : List Text} {place : Nat} :
    FirstWrite (line :: lines) 0 (place + 1) ↔
      writeTarget? line = none ∧ FirstWrite lines 0 place := by
  constructor
  · intro firstWrite
    refine ⟨?_, Nat.zero_le _, firstWrite.writes, fun before _ less => ?_⟩
    · simpa [tableAt?] using firstWrite.quiet 0 (Nat.le_refl 0) (Nat.succ_pos place)
    · exact firstWrite.quiet (before + 1) (Nat.zero_le _) (Nat.succ_lt_succ less)
  · rintro ⟨none, firstWrite⟩
    refine ⟨Nat.zero_le _, firstWrite.writes, fun before _ less => ?_⟩
    cases before with
    | zero => simp [tableAt?, none]
    | succ before => exact firstWrite.quiet before (Nat.zero_le _) (Nat.lt_of_succ_lt_succ less)

theorem head?_writes (lines : List Text) (number : Nat) {place : Nat} :
    ((lines.zipIdx number).filterMap fun (line, place) =>
      (writeTarget? line).map fun write => (place, write.table)).head?.map (·.1) =
        some (number + place) ↔ FirstWrite lines 0 place := by
  induction lines generalizing number place with
  | nil =>
      simpa using fun firstWrite : FirstWrite [] 0 place =>
        by simpa [tableAt?] using firstWrite.writes
  | cons line lines ih =>
      have later : ((lines.zipIdx (number + 1)).filterMap fun (line, place) =>
          (writeTarget? line).map fun write => (place, write.table)).head?.map (·.1) ≠
            some number := by
        intro found
        obtain ⟨⟨other, table⟩, first, rfl⟩ := Option.map_eq_some_iff.mp found
        obtain ⟨⟨line, _⟩, here, written⟩ := List.mem_filterMap.mp (List.mem_of_mem_head? first)
        obtain ⟨write, -, same⟩ := Option.map_eq_some_iff.mp written
        have behind := List.le_snd_of_mem_zipIdx here
        obtain ⟨rfl, -⟩ := Prod.mk.injEq .. ▸ same
        exact absurd behind (Nat.not_succ_le_self _)
      cases found : writeTarget? line with
      | some write =>
          cases place with
          | zero => simp [firstWrite_cons_zero, found]
          | succ place => simp [firstWrite_cons_succ, found]
      | none =>
          cases place with
          | zero => simpa [firstWrite_cons_zero, found] using later
          | succ place =>
              rw [firstWrite_cons_succ, ← ih (number + 1)]
              simp [found, Nat.add_assoc, Nat.add_comm 1]

theorem head?_writes_target :
    scope.writes.head?.map (·.1) = some scope.target ↔ FirstWrite scope.lines 0 scope.target := by
  rw [FunctionScope.writes, ← head?_writes scope.lines 0, Nat.zero_add]

theorem tableAt?_stretch {steps : Nat} (within : start + steps ≤ last) :
    tableAt? (context.stretch start last).lines steps = tableAt? context.lines (start + steps) := by
  have same := @LineContext.getElem?_stretch context _ _ _ (Nat.le_add_right start steps) within
  rw [Nat.add_sub_cancel_left] at same
  rw [tableAt?, tableAt?, same]

theorem length_stretch (inside : last < context.lines.length) (before : start ≤ last + 1) :
    start + (context.stretch start last).lines.length = last + 1 := by
  simp only [LineContext.stretch, List.length_drop, List.length_take]
  omega

theorem firstWrite_stretch {place : Nat} (after : start ≤ place) (before : place ≤ last) :
    FirstWrite (context.stretch start last).lines 0 (place - start) ↔
      FirstWrite context.lines start place := by
  have back : start + (place - start) = place := by omega
  constructor
  · intro firstWrite
    refine ⟨after, ?_, fun earlier from_ less => ?_⟩
    · have writes := firstWrite.writes
      rwa [tableAt?_stretch (by omega), back] at writes
    · have quiet := firstWrite.quiet (earlier - start) (Nat.zero_le _) (by omega)
      rwa [tableAt?_stretch (by omega), show start + (earlier - start) = earlier by omega] at quiet
  · intro firstWrite
    refine ⟨Nat.zero_le _, ?_, fun earlier _ less => ?_⟩
    · rw [tableAt?_stretch (by omega), back]
      exact firstWrite.writes
    · rw [tableAt?_stretch (by omega)]
      exact firstWrite.quiet _ (Nat.le_add_right ..) (by omega)

def OtherTable (lines : List Text) (start last index : Nat) : Prop :=
  ∃ place, start ≤ place ∧ place ≤ last ∧ (tableAt? lines place).isSome ∧
    tableAt? lines place ≠ tableAt? lines index

/-! ## Findings about several tables -/

/-- The scope of a line is this stretch, the line is its first write, and another write of the
stretch goes to another table. -/
structure Unwrapped (context : LineContext) (start last : Nat) : Prop where
  starts : context.enclosing? isFunctionStart = some start
  ends : context.Ends start last
  first : FirstWrite context.lines start context.index
  plain : ∀ place, start ≤ place → place ≤ last → ¬ Marked context.lines place
  other : OtherTable context.lines start last context.index

theorem Unwrapped.exists_later (unwrapped : Unwrapped context start last) :
    ∃ place, context.index < place ∧ place ≤ last ∧ ∃ table,
      tableAt? context.lines place = some table ∧
        tableAt? context.lines context.index ≠ some table := by
  obtain ⟨place, after, before, writes, differs⟩ := unwrapped.other
  obtain ⟨table, there⟩ := Option.isSome_iff_exists.mp writes
  have later := unwrapped.first.le after writes
  refine ⟨place, Nat.lt_of_le_of_ne later fun same => ?_, before, table, there, fun same => ?_⟩
  · exact differs (congrArg _ same.symm)
  · exact differs (there.trans same.symm)

theorem isTransactional_stretch :
    (context.stretch start last).isTransactional = false ↔
      ∀ place, start ≤ place → place ≤ last → ¬ Marked context.lines place := by
  simp only [FunctionScope.isTransactional, List.any_eq_false, LineContext.mem_stretch]
  constructor
  · rintro plain place after before ⟨line, here, marker⟩
    exact plain line ⟨place, after, before, here⟩ marker
  · rintro plain line ⟨place, after, before, here⟩ marker
    exact plain place after before ⟨line, here, marker⟩

theorem mem_tables_stretch {table : Text} :
    table ∈ (context.stretch start last).writes.map (·.2) ↔
      ∃ place, start ≤ place ∧ place ≤ last ∧ tableAt? context.lines place = some table := by
  simp only [List.mem_map, Prod.exists, exists_eq_right, mem_writes]
  constructor
  · rintro ⟨steps, found⟩
    have inside := lt_of_tableAt? (Option.isSome_of_eq_some found)
    have within : start + steps ≤ last := by
      simp only [LineContext.stretch, List.length_drop, List.length_take] at inside
      omega
    exact ⟨start + steps, Nat.le_add_right .., within, (tableAt?_stretch within).symm.trans found⟩
  · rintro ⟨place, after, before, found⟩
    have back : start + (place - start) = place := by omega
    exact ⟨place - start, by rwa [tableAt?_stretch (by omega), back]⟩

theorem find?_tables_isSome {write : Write} (found : writeTarget? context.line = some write) :
    (((context.stretch start last).writes.map (·.2)).find? (· ≠ write.table)).isSome ↔
      OtherTable context.lines start last context.index := by
  have here : tableAt? context.lines context.index = some write.table := by
    rw [tableAt?_index, found]
    rfl
  rw [List.find?_isSome, OtherTable, here]
  constructor
  · rintro ⟨table, among, differs⟩
    obtain ⟨place, after, before, writes⟩ := mem_tables_stretch.mp among
    refine ⟨place, after, before, Option.isSome_of_eq_some writes, fun same => ?_⟩
    exact of_decide_eq_true differs (Option.some.inj (writes.symm.trans same))
  · rintro ⟨place, after, before, writes, differs⟩
    obtain ⟨table, writes⟩ := Option.isSome_iff_exists.mp writes
    refine ⟨table, mem_tables_stretch.mpr ⟨place, after, before, writes⟩, ?_⟩
    exact decide_eq_true fun same => differs (writes.trans (congrArg some same))

theorem checkMultiTableWrite_of_scope {write : Write}
    (found : writeTarget? context.line = some write) (cut : functionScope? context = some scope) :
    (checkMultiTableWrite context).isSome ↔ scope.isTransactional = false ∧
      scope.writes.head?.map (·.1) = some scope.target ∧
      ((scope.writes.map (·.2)).find? (· ≠ write.table)).isSome := by
  simp only [checkMultiTableWrite, found, cut, Option.bind_eq_bind, Option.bind_some]
  cases scope.isTransactional with
  | true => simp
  | false =>
      generalize scope.writes.head?.map (·.1) = first
      generalize (scope.writes.map (·.2)).find? (· ≠ write.table) = other
      by_cases same : first = some scope.target
      · cases other <;> simp [same]
      · simp [same]

theorem exists_scope_of_checkMultiTableWrite (reported : (checkMultiTableWrite context).isSome) :
    ∃ write scope, writeTarget? context.line = some write ∧ functionScope? context =
      some scope := by
  rw [checkMultiTableWrite] at reported
  cases found : writeTarget? context.line with
  | none => simp [found] at reported
  | some write =>
      cases cut : functionScope? context with
      | none => simp [found, cut] at reported
      | some scope => exact ⟨write, scope, rfl, rfl⟩

/-- A line is reported exactly if it is the first of several writes of its function. -/
theorem checkMultiTableWrite_isSome_iff :
    (checkMultiTableWrite context).isSome ↔ ∃ start last, Unwrapped context start last := by
  have conditions {write : Write} {start last : Nat}
      (found : writeTarget? context.line = some write)
      (starts : context.enclosing? isFunctionStart = some start) (ends : context.Ends start last)
      (cut : functionScope? context = some (context.stretch start last)) :
      (checkMultiTableWrite context).isSome ↔
        (∀ place, start ≤ place → place ≤ last → ¬ Marked context.lines place) ∧
          FirstWrite context.lines start context.index ∧
          OtherTable context.lines start last context.index := by
    rw [checkMultiTableWrite_of_scope found cut, isTransactional_stretch, head?_writes_target,
      find?_tables_isSome found]
    exact and_congr_right fun _ => and_congr_left fun _ =>
      firstWrite_stretch (LineContext.start_le_index starts) ends.after
  constructor
  · intro reported
    obtain ⟨write, scope, found, cut⟩ := exists_scope_of_checkMultiTableWrite reported
    have writes : (tableAt? context.lines context.index).isSome := by
      rw [tableAt?_index, found]
      rfl
    obtain ⟨start, last, starts, ends, rfl⟩ :=
      (LineContext.functionScope?_eq_some_iff (lt_of_tableAt? writes)).mp cut
    obtain ⟨plain, first, other⟩ := (conditions found starts ends cut).mp reported
    exact ⟨start, last, starts, ends, first, plain, other⟩
  · rintro ⟨start, last, starts, ends, first, plain, other⟩
    have writes := first.writes
    have cut := (LineContext.functionScope?_eq_some_iff (lt_of_tableAt? writes)).mpr
      ⟨start, last, starts, ends, rfl⟩
    rw [tableAt?_index, Option.isSome_map] at writes
    obtain ⟨write, found⟩ := Option.isSome_iff_exists.mp writes
    exact (conditions found starts ends cut).mpr ⟨plain, first, other⟩

/-- A finding stands at the first write on from the start of its function, whose scope has no
transaction marker and writes to another table later.  It is the only one with its start. -/
theorem checkMultiTableWrite_sound (reported : (checkMultiTableWrite context).isSome) :
    ∃ start scope line write,
      context.enclosing? isFunctionStart = some start ∧
      functionScope? context = some scope ∧ scope.start = start ∧
      context.lines[context.index]? = some line ∧ writeTarget? line = some write ∧
      (∀ place line, start ≤ place → place < context.index → context.lines[place]? = some line →
        writeTarget? line = none) ∧
      (∀ line ∈ scope.lines, transactionMarker.occurs line = false) ∧
      (∃ place line other, scope.target < place ∧ scope.lines[place]? = some line ∧
        writeTarget? line = some other ∧ other.table ≠ write.table) ∧
      ∀ second : LineContext, second.lines = context.lines →
        (checkMultiTableWrite second).isSome → second.enclosing? isFunctionStart = some start →
          second.index = context.index := by
  obtain ⟨start, last, unwrapped⟩ := checkMultiTableWrite_isSome_iff.mp reported
  have first := unwrapped.first
  obtain ⟨line, here, written⟩ := Option.bind_eq_some_iff.mp (Option.some_get first.writes).symm
  obtain ⟨write, found, table⟩ := Option.map_eq_some_iff.mp written
  have cut := (LineContext.functionScope?_eq_some_iff (lt_of_tableAt? first.writes)).mpr
    ⟨start, last, unwrapped.starts, unwrapped.ends, rfl⟩
  refine ⟨start, _, line, write, unwrapped.starts, cut, rfl, here, found, ?quiet, ?plain, ?other,
    ?once⟩
  case quiet =>
    intro place line after before there
    have quiet := first.quiet place after before
    rw [tableAt?, there] at quiet
    exact Option.map_eq_none_iff.mp quiet
  case plain =>
    intro line inside
    obtain ⟨place, after, before, there⟩ := LineContext.mem_stretch.mp inside
    exact Bool.eq_false_iff.mpr fun marker =>
      unwrapped.plain place after before ⟨line, there, marker⟩
  case other =>
    obtain ⟨place, later, before, other, there, differs⟩ := unwrapped.exists_later
    obtain ⟨line', inside, written'⟩ := Option.bind_eq_some_iff.mp there
    obtain ⟨write', found', rfl⟩ := Option.map_eq_some_iff.mp written'
    have after := first.after
    have within : (context.stretch start last).target < place - start := by
      simp only [LineContext.stretch]
      omega
    refine ⟨place - start, line', write', within, ?_, found', ?_⟩
    · rw [LineContext.getElem?_stretch (by omega) before, inside]
    · intro same
      exact differs (by rw [same, table, Option.some_get])
  case once =>
    intro second sameLines again starts
    obtain ⟨start', last', unwrapped'⟩ := checkMultiTableWrite_isSome_iff.mp again
    obtain rfl := Option.some.inj (starts.symm.trans unwrapped'.starts)
    have first' := unwrapped'.first
    rw [sameLines] at first'
    exact first'.eq first

def twoTables : List Text :=
  ["function pay(order) \x7b", "  db.order.create(order);", "  db.payment.create(order);",
    "\x7d"].map String.toList

theorem checkMultiTableWrite_sound_twoTables :
    (checkMultiTableWrite ⟨twoTables, 1, {}, "pay.ts"⟩).isSome ∧
      ∀ second : LineContext, second.lines = twoTables → (checkMultiTableWrite second).isSome →
        second.enclosing? isFunctionStart = some 0 → second.index = 1 := by
  have reported : (checkMultiTableWrite ⟨twoTables, 1, {}, "pay.ts"⟩).isSome := by
    decide +kernel
  have start : (LineContext.mk twoTables 1 {} "pay.ts").enclosing? isFunctionStart = some 0 := by
    decide +kernel
  obtain ⟨start', scope, line, write, starts, -, -, -, -, -, -, -, once⟩ :=
    checkMultiTableWrite_sound reported
  obtain rfl := Option.some.inj (start.symm.trans starts)
  exact ⟨reported, once⟩

/-! ## Functions without a finding -/

def LineContext.atLine (context : LineContext) (place : Nat) : LineContext :=
  { context with index := place }

def FunctionScope.Covers (scope : FunctionScope) (place : Nat) : Prop :=
  scope.start ≤ place ∧ place < scope.start + scope.lines.length

/-- The first line behind a write that writes to another table. -/
structure NextTable (lines : List Text) (first other : Nat) : Prop where
  after : first < other
  writes : (tableAt? lines other).isSome
  differs : tableAt? lines other ≠ tableAt? lines first
  nearest : ∀ later, first < later → (tableAt? lines later).isSome →
    tableAt? lines later ≠ tableAt? lines first → other ≤ later

theorem exists_nextTable {lines : List Text} {first later : Nat} (after : first < later)
    (writes : (tableAt? lines later).isSome)
    (differs : tableAt? lines later ≠ tableAt? lines first) :
    ∃ other ≤ later, NextTable lines first other := by
  classical
  have found : ∃ later, first < later ∧ (tableAt? lines later).isSome ∧
      tableAt? lines later ≠ tableAt? lines first := ⟨later, after, writes, differs⟩
  obtain ⟨behind, writes', differs'⟩ := Nat.find_spec found
  exact ⟨Nat.find found, Nat.find_min' found ⟨after, writes, differs⟩, behind, writes', differs',
    fun later after writes differs => Nat.find_min' found ⟨after, writes, differs⟩⟩

theorem exists_firstWrite {lines : List Text} {place : Nat} (after : start ≤ place)
    (writes : (tableAt? lines place).isSome) : ∃ first ≤ place, FirstWrite lines start first := by
  classical
  have found : ∃ place, start ≤ place ∧ (tableAt? lines place).isSome := ⟨place, after, writes⟩
  obtain ⟨after', writes'⟩ := Nat.find_spec found
  refine ⟨Nat.find found, Nat.find_min' found ⟨after, writes⟩, after', writes',
    fun before from_ less => ?_⟩
  rw [← Option.not_isSome_iff_eq_none]
  exact fun writes => Nat.find_min found less ⟨from_, writes⟩

theorem covers_stretch {place : Nat} (inside : last < context.lines.length)
    (ordered : start ≤ last) :
    (context.stretch start last).Covers place ↔ start ≤ place ∧ place ≤ last := by
  have size := length_stretch inside (Nat.le_succ_of_le ordered)
  simp only [FunctionScope.Covers, LineContext.stretch] at size ⊢
  omega

theorem exists_nextTable_of_several {first : Nat}
    (firstWrite : FirstWrite context.lines start first)
    (several : ∃ one ∈ (context.stretch start last).writes,
      ∃ other ∈ (context.stretch start last).writes, one.2 ≠ other.2) :
    ∃ other ≤ last, NextTable context.lines first other := by
  have behind {place : Nat} {table : Text} (after : start ≤ place) (before : place ≤ last)
      (there : tableAt? context.lines place = some table)
      (differs : tableAt? context.lines first ≠ some table) :
      ∃ other ≤ last, NextTable context.lines first other := by
    have writes := Option.isSome_of_eq_some there
    have later : first < place := Nat.lt_of_le_of_ne (firstWrite.le after writes) fun same =>
      differs (same ▸ there)
    obtain ⟨other, near, next⟩ := exists_nextTable later writes fun same =>
      differs (same.symm.trans there)
    exact ⟨other, Nat.le_trans near before, next⟩
  obtain ⟨one, among, two, among', differ⟩ := several
  obtain ⟨place, after, before, there⟩ := mem_tables_stretch.mp (List.mem_map_of_mem among)
  obtain ⟨place', after', before', there'⟩ := mem_tables_stretch.mp (List.mem_map_of_mem among')
  by_cases same : tableAt? context.lines first = some one.2
  · exact behind after' before' there' fun same' => differ (Option.some.inj (same.symm.trans same'))
  · exact behind after before there same

/-- The first write stands in the function itself, and its block is open until the next table. -/
structure ReachesNext (context : LineContext) (start first other : Nat) : Prop where
  own : (context.atLine first).enclosing? isFunctionStart = some start
  near : other ≤ first + context.window.scanLimit
  stays : ∀ between, first ≤ between → between < other →
    0 < depthOver context.lines start between

theorem reachesNext_of_unwrapped {first other : Nat} (next : NextTable context.lines first other)
    (unwrapped : Unwrapped (context.atLine first) start last) :
    ReachesNext context start first other := by
  obtain ⟨later, after, before, table, there, differs⟩ := unwrapped.exists_later
  have nearest := next.nearest later after (Option.isSome_of_eq_some there)
    (fun same => differs (same.symm.trans there))
  obtain ⟨reached, stays⟩ := unwrapped.ends.le_iff.mp (Nat.le_trans nearest before)
  rw [LineContext.reach] at reached
  exact ⟨unwrapped.starts, Nat.le_trans reached (Nat.min_le_left ..), stays⟩

theorem last_le_of_earlier {first last' : Nat} (before : first ≤ context.index)
    (ends : context.Ends start last) (ends' : (context.atLine first).Ends start last') :
    last' ≤ last := by
  have within := ends'.within
  refine ends.le_iff.mpr ⟨?_, fun between after less => ends'.stays between ?_ less⟩
  · simp only [LineContext.reach, LineContext.atLine] at within ⊢
    omega
  · exact Nat.le_trans before after

theorem unwrapped_of_reachesNext {first other : Nat} (before : first ≤ context.index)
    (ends : context.Ends start last)
    (plain : ∀ place, start ≤ place → place ≤ last → ¬ Marked context.lines place)
    (firstWrite : FirstWrite context.lines start first) (next : NextTable context.lines first other)
    (reaches : ReachesNext context start first other) :
    ∃ last, Unwrapped (context.atLine first) start last := by
  have inside : first < context.lines.length := lt_of_tableAt? firstWrite.writes
  obtain ⟨last', ends', -⟩ := LineContext.functionScope?_of_enclosing? inside reaches.own
  have reached : other ≤ (context.atLine first).reach := by
    have inside' := lt_of_tableAt? next.writes
    have near := reaches.near
    simp only [LineContext.reach, LineContext.atLine]
    omega
  refine ⟨last', reaches.own, ends', firstWrite, fun place after within => ?_, other,
    ?_, ?_, ?_, ?_⟩
  · exact plain place after (Nat.le_trans within (last_le_of_earlier before ends ends'))
  · exact Nat.le_trans firstWrite.after (Nat.le_of_lt next.after)
  · exact ends'.le_iff.mpr ⟨reached, reaches.stays⟩
  · exact next.writes
  · exact next.differs

/-- A scope without marker in which several tables are written has a finding exactly if the search
from its first write comes to the next table, or a line of another function has one. -/
theorem checkMultiTableWrite_in_scope_iff (writes : (writeTarget? context.line).isSome)
    (cut : functionScope? context = some scope) (plain : scope.isTransactional = false)
    (several : ∃ one ∈ scope.writes, ∃ other ∈ scope.writes, one.2 ≠ other.2) :
    ∃ first other, FirstWrite context.lines scope.start first ∧
      NextTable context.lines first other ∧ scope.Covers first ∧ scope.Covers other ∧
      ((∃ place, scope.Covers place ∧ (checkMultiTableWrite (context.atLine place)).isSome) ↔
        ReachesNext context scope.start first other ∨
          ∃ place inner, scope.Covers place ∧
            (context.atLine place).enclosing? isFunctionStart = some inner ∧ inner ≠ scope.start ∧
            (checkMultiTableWrite (context.atLine place)).isSome) := by
  have here : (tableAt? context.lines context.index).isSome := by
    rwa [tableAt?_index, Option.isSome_map]
  have inside := lt_of_tableAt? here
  obtain ⟨start, last, starts, ends, rfl⟩ := (LineContext.functionScope?_eq_some_iff inside).mp cut
  have after := LineContext.start_le_index starts
  have covers {place : Nat} := @covers_stretch context start last place (ends.lt_length inside)
    (Nat.le_trans after ends.after)
  obtain ⟨first, before, firstWrite⟩ := exists_firstWrite after here
  obtain ⟨other, within, next⟩ := exists_nextTable_of_several firstWrite several
  have plain := isTransactional_stretch.mp plain
  refine ⟨first, other, firstWrite, next, covers.mpr ⟨firstWrite.after, ?_⟩,
    covers.mpr ⟨?_, within⟩, ?_⟩
  · exact Nat.le_trans before ends.after
  · exact Nat.le_trans firstWrite.after (Nat.le_of_lt next.after)
  constructor
  · rintro ⟨place, covered, reported⟩
    obtain ⟨inner, last', unwrapped⟩ := checkMultiTableWrite_isSome_iff.mp reported
    by_cases same : inner = start
    · obtain rfl := same
      obtain rfl : place = first := unwrapped.first.eq firstWrite
      exact .inl (reachesNext_of_unwrapped next unwrapped)
    · exact .inr ⟨place, inner, covered, unwrapped.starts, same, reported⟩
  · rintro (reaches | ⟨place, -, covered, -, -, reported⟩)
    · have unwrapped := unwrapped_of_reachesNext before ends plain firstWrite next reaches
      exact ⟨first, covers.mpr ⟨firstWrite.after, Nat.le_trans before ends.after⟩,
        checkMultiTableWrite_isSome_iff.mpr ⟨start, unwrapped⟩⟩
    · exact ⟨place, covered, reported⟩

def writeInLoop : List Text :=
  ["function pay(all) \x7b", "  all.forEach((one) => \x7b", "    db.item.create(one);", "  \x7d);",
    "  db.payment.create(all);", "\x7d"].map String.toList

theorem checkMultiTableWrite_in_writeInLoop :
    ∃ scope, functionScope? ⟨writeInLoop, 4, {}, "pay.ts"⟩ = some scope ∧
      scope.isTransactional = false ∧ scope.writes.map (·.2) =
        ["item", "payment"].map String.toList ∧
      ∀ place, scope.Covers place →
        ¬ (checkMultiTableWrite ⟨writeInLoop, place, {}, "pay.ts"⟩).isSome := by
  have writes : (writeTarget? (LineContext.mk writeInLoop 4 {} "pay.ts").line).isSome := by
    decide +kernel
  have cut : functionScope? ⟨writeInLoop, 4, {}, "pay.ts"⟩ = some ⟨0, writeInLoop, 4⟩ := by
    decide +kernel
  have plain : (FunctionScope.mk 0 writeInLoop 4).isTransactional = false := by decide +kernel
  have tables : (FunctionScope.mk 0 writeInLoop 4).writes =
      [(2, "item".toList), (4, "payment".toList)] := by
    decide +kernel
  have several : ∃ one ∈ (FunctionScope.mk 0 writeInLoop 4).writes,
      ∃ other ∈ (FunctionScope.mk 0 writeInLoop 4).writes, one.2 ≠ other.2 := by
    rw [tables]
    exact ⟨_, .head _, _, .tail _ (.head _), by decide⟩
  obtain ⟨first, other, firstWrite, -, -, -, reported⟩ :=
    checkMultiTableWrite_in_scope_iff writes cut plain several
  have loopWrite : FirstWrite writeInLoop 0 2 :=
    ⟨Nat.zero_le 2, by decide +kernel, by decide +kernel⟩
  have inLoop : (LineContext.mk writeInLoop 2 {} "pay.ts").enclosing? isFunctionStart = some 1 := by
    decide +kernel
  have loop : ∀ place < 6, (LineContext.mk writeInLoop place {} "pay.ts").enclosing?
      isFunctionStart =
      some 0 ∨ (checkMultiTableWrite ⟨writeInLoop, place, {}, "pay.ts"⟩).isSome = false := by
    decide +kernel
  refine ⟨_, cut, plain, by rw [tables]; rfl, fun place covered found => ?_⟩
  rcases reported.mp ⟨place, covered, found⟩ with
    reaches | ⟨other, inner, covered, starts, apart, found⟩
  · obtain rfl := firstWrite.eq loopWrite
    exact absurd (Option.some.inj (inLoop.symm.trans reaches.own)) Nat.one_ne_zero
  · rcases loop other covered.2 with outer | quiet
    · exact apart (Option.some.inj (starts.symm.trans outer))
    · exact absurd found (Bool.eq_false_iff.mp quiet)

/-! ## Outer clients -/

theorem exists_line_of_writeTarget? {write : Write}
    (found : writeTarget? context.line = some write) :
    ∃ line, context.lines[context.index]? = some line := by
  have writes : (tableAt? context.lines context.index).isSome := by
    rw [tableAt?_index, found]
    rfl
  exact ⟨_, List.getElem?_eq_getElem (lt_of_tableAt? writes)⟩

theorem startLine_functionScope? {line : Text} (here : context.lines[context.index]? = some line) :
    (functionScope? context).map (fun scope => transactionMarker.occurs scope.startLine) =
      some true ↔
      ∃ start, context.enclosing? isFunctionStart = some start ∧ Marked context.lines start := by
  obtain ⟨inside, -⟩ := List.getElem?_eq_some_iff.mp here
  cases found : context.enclosing? isFunctionStart with
  | none => simp [functionScope?, found]
  | some start =>
      obtain ⟨last, ends, cut⟩ := LineContext.functionScope?_of_enclosing? inside found
      have ordered := Nat.le_trans (LineContext.start_le_index found) ends.after
      have first : (context.stretch start last).startLine = (context.lines[start]?).getD [] := by
        have same := @LineContext.getElem?_stretch context _ _ _ (Nat.le_refl start) ordered
        rw [Nat.sub_self] at same
        rw [FunctionScope.startLine, ← same, List.headD_eq_head?_getD, List.head?_eq_getElem?]
      have within : start < context.lines.length :=
        Nat.lt_of_le_of_lt ordered (ends.lt_length inside)
      simp [cut, first, Marked, within]

theorem checkOuterClient_iff_marked {write : Write}
    (found : writeTarget? context.line = some write)
    (outer : outerClient.occurs write.client = true) :
    (checkOuterClient context).isSome ↔
      ∃ start, context.enclosing? isFunctionStart = some start ∧ Marked context.lines start := by
  obtain ⟨line, here⟩ := exists_line_of_writeTarget? found
  rw [checkOuterClient_isSome, startLine_functionScope? here]
  exact and_iff_right ⟨write, found, outer⟩

/-- A start with a transaction marker, whose block is open until the line is reached. -/
structure InTransaction (context : LineContext) (opening : Nat) : Prop where
  before : opening ≤ context.index
  within : context.index ≤ opening + context.window.scanLimit
  starts : ∃ line, context.lines[opening]? = some line ∧ isFunctionStart line = true
  marked : Marked context.lines opening
  stays : StaysOpen context.lines opening context.index

theorem depthOver_self {lines : List Text} {index : Nat} {line : Text}
    (here : lines[index]? = some line) : depthOver lines index index = -braceDelta line := by
  obtain ⟨inside, rfl⟩ := List.getElem?_eq_some_iff.mp here
  rw [depthOver, ← List.take_append_getElem inside, List.drop_left' (by simp; omega)]
  simp [openDepth]

theorem InTransaction.balanced {opening : Nat} {line : Text}
    (inside : InTransaction context opening) (here : context.lines[context.index]? = some line)
    (one : depthOver context.lines opening opening = 1) (closes : braceDelta line ≤ 0) :
    0 ≤ depthOver context.lines (opening + 1) context.index := by
  have through := depthOver_add context.lines (Nat.le_succ opening) inside.before
  rcases Nat.eq_or_lt_of_le inside.before with same | later
  · rw [← same] at through ⊢
    omega
  · have stays := inside.stays (context.index - 1) (by omega) (by omega)
    have last := @depthOver_add context.lines opening (context.index - 1) context.index (by omega)
      (by omega)
    rw [show context.index - 1 + 1 = context.index by omega, depthOver_self here] at last
    omega

theorem encloses_opening_iff {opening : Nat} (inside : InTransaction context opening)
    (here : context.index < context.lines.length) :
    Encloses isFunctionStart context.lines context.index context.window.scanLimit opening ↔
      0 ≤ depthOver context.lines (opening + 1) context.index := by
  have index : scanned context.lines context.index = context.index :=
    Nat.min_eq_left (by omega)
  constructor
  · exact Encloses.balanced
  · intro balanced
    exact ⟨Nat.le_trans inside.before (Nat.le_of_eq index.symm),
      Nat.le_trans (Nat.le_of_eq index) inside.within, inside.starts, balanced⟩

/-- Inside the open block of a marked start, a write through an outer client is found unless the
nearest start is another one without a marker, or no start encloses the line. -/
theorem checkOuterClient_in_transaction_iff {write : Write} {opening : Nat}
    (found : writeTarget? context.line = some write)
    (outer : outerClient.occurs write.client = true) (inside : InTransaction context opening) :
    ((checkOuterClient context).isSome ↔
      (∀ inner, opening < inner → context.enclosing? isFunctionStart = some inner →
        Marked context.lines inner) ∧
      (0 ≤ depthOver context.lines (opening + 1) context.index ∨
        ∃ other ≠ opening, context.enclosing? isFunctionStart = some other ∧
          Marked context.lines other)) ∧
      (depthOver context.lines opening opening = 1 → braceDelta context.line ≤ 0 →
        0 ≤ depthOver context.lines (opening + 1) context.index) := by
  obtain ⟨line, here⟩ := exists_line_of_writeTarget? found
  obtain ⟨within, -⟩ := List.getElem?_eq_some_iff.mp here
  rw [checkOuterClient_iff_marked found outer]
  refine ⟨⟨?marked, ?reported⟩, fun one closes => inside.balanced here one ?_⟩
  case marked =>
    rintro ⟨start, starts, marked⟩
    refine ⟨fun inner _ starts' => Option.some.inj (starts.symm.trans starts') ▸ marked, ?_⟩
    by_cases same : start = opening
    · obtain rfl := same
      exact .inl (enclosingStart?_eq_some_iff.mp starts).1.balanced
    · exact .inr ⟨start, same, starts, marked⟩
  case reported =>
    rintro ⟨nested, balanced | ⟨other, -, starts, marked⟩⟩
    · have encloses := (encloses_opening_iff inside within).mpr balanced
      obtain ⟨start, starts, after⟩ := exists_enclosingStart?_of_encloses encloses
      rcases Nat.eq_or_lt_of_le after with rfl | later
      · exact ⟨_, starts, inside.marked⟩
      · exact ⟨start, starts, nested start later starts⟩
    · exact ⟨other, starts, marked⟩
  · rwa [LineContext.line, here] at closes

def loopInTransaction : List Text :=
  ["prisma.$transaction((tx) => \x7b", "  all.forEach((one) => \x7b",
    "    prisma.item.create(one);", "  \x7d);", "\x7d);"].map String.toList

theorem checkOuterClient_in_loopInTransaction :
    InTransaction ⟨loopInTransaction, 2, {}, "pay.ts"⟩ 0 ∧
      0 ≤ depthOver loopInTransaction 1 2 ∧
      (writeTarget? "    prisma.item.create(one);".toList).map (·.client) =
        some "prisma".toList ∧
      ¬ (checkOuterClient ⟨loopInTransaction, 2, {}, "pay.ts"⟩).isSome := by
  have found : writeTarget? (LineContext.mk loopInTransaction 2 {} "pay.ts").line =
      some ⟨"prisma".toList, "item".toList⟩ := by
    decide +kernel
  have outer : outerClient.occurs "prisma".toList = true := by decide +kernel
  have inside : InTransaction ⟨loopInTransaction, 2, {}, "pay.ts"⟩ 0 :=
    { before := Nat.zero_le 2
      within := by decide
      starts := ⟨_, rfl, by decide +kernel⟩
      marked := ⟨_, rfl, by decide +kernel⟩
      stays := fun last _ less => by
        have each : ∀ last < 2, 0 < depthOver loopInTransaction 0 last := by decide +kernel
        exact each last less }
  have nearest : (LineContext.mk loopInTransaction 2 {} "pay.ts").enclosing? isFunctionStart =
      some 1 := by
    decide +kernel
  have loop : transactionMarker.occurs "  all.forEach((one) => \x7b".toList = false := by
    decide +kernel
  obtain ⟨reported, balanced⟩ := checkOuterClient_in_transaction_iff found outer inside
  refine ⟨inside, balanced (by decide +kernel) (by decide +kernel), by decide +kernel,
    fun fires => ?_⟩
  obtain ⟨line, here, marked⟩ := (reported.mp fires).1 1 Nat.one_pos nearest
  obtain rfl := Option.some.inj (here : some _ = some line)
  exact absurd marked (Bool.eq_false_iff.mp loop)

end Compliance
