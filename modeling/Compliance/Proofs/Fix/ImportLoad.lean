import Compliance.Proofs.Fix.Gain
import Compliance.Proofs.Fix.ImportEntries

/-!
# The load of an import

Adding the import of a framework exception raises the load of a content by one
line at most.
-/

namespace Compliance

theorem load_set {lines : List Text} {index : Nat} {line : Text} (here : lines[index]? = some line)
    (new : Text) : load (lines.set index new) + lineLoad line = load lines + lineLoad new := by
  induction lines generalizing index with
  | nil => simp at here
  | cons first lines ih =>
      cases index with
      | zero =>
          obtain rfl : first = line := by simpa using here
          simp only [List.set_cons_zero, load_cons]
          omega
      | succ index =>
          have := ih (by simpa using here)
          simp only [List.set_cons_succ, load_cons]
          omega

theorem load_insert (lines : List Text) (index : Nat) (new : Text) :
    load (lines.take index ++ new :: lines.drop index) = load lines + lineLoad new := by
  have split : load lines = load (lines.take index) + load (lines.drop index) := by
    rw [← load_append, List.take_append_drop]
  rw [split, load_append, load_cons]
  omega

theorem lineLoad_le_of_seams {old new : Text} (nonempty : solid old ≠ [])
    (lower : seams (solid new) ≤ seams (solid old)) : lineLoad new ≤ lineLoad old := by
  have : (solid old).isEmpty = false := by simpa using nonempty
  simp only [lineLoad, this, Bool.false_eq_true, if_false]
  split <;> omega

structure Prerequisite.Light (needed : Prerequisite) : Prop where
  inert : Inert needed.symbol.toList
  isSolid : solid needed.symbol.toList = needed.symbol.toList
  oneWord : '\n' ∉ needed.symbol.toList
  statement : lineLoad needed.statement ≤ 1
  oneLine : '\n' ∉ needed.statement

theorem light_of_mem_standard {fix : FixPattern} (listed : fix ∈ Registry.standard)
    {needed : Prerequisite} (requires : fix.prerequisite = some needed) : needed.Light := by
  cases builtIn_of_mem_standard listed with
  | exception pair =>
      obtain rfl := Option.some.inj requires
      rcases name_of_listed pair with rfl | rfl | rfl | rfl <;> constructor <;> decide
  | rethrow | wrapLiteral | upgradeUrl | dropDebugger | transactionClient => cases requires

namespace Prerequisite

variable {needed : Prerequisite}

theorem Light.inert_comma (light : needed.Light) : Inert (',' :: needed.symbol.toList) := by
  obtain ⟨nothing, head, last⟩ := light.inert
  refine ⟨?_, rfl, ?_⟩
  · rw [seams_cons, joint_eq_zero_of_last rfl, nothing]
  · cases shape : needed.symbol.toList with
    | nil => simp [shape] at head
    | cons c symbol => simpa [shape] using last

theorem Light.solid_comma (light : needed.Light) :
    solid (',' :: ' ' :: needed.symbol.toList) = ',' :: needed.symbol.toList := by
  have spaced : solid (' ' :: needed.symbol.toList) = solid needed.symbol.toList := rfl
  calc solid (',' :: ' ' :: needed.symbol.toList)
      = ',' :: solid (' ' :: needed.symbol.toList) := rfl
    _ = ',' :: needed.symbol.toList := by rw [spaced, light.isSolid]

theorem Light.solid_extendNames (light : needed.Light) (names : Text) :
    ∃ added, Inert added ∧
      solid (extendNames needed.symbol.toList (Text.trim names)) = solid names ++ added := by
  unfold extendNames
  split
  · next empty =>
      refine ⟨needed.symbol.toList, light.inert, ?_⟩
      have none : solid names = [] := by
        rw [← solid_trim, List.isEmpty_iff.mp empty, solid_nil]
      rw [light.isSolid, none, List.nil_append]
  · split
    · refine ⟨needed.symbol.toList, light.inert, ?_⟩
      have spaced : solid (' ' :: needed.symbol.toList) = needed.symbol.toList := light.isSolid
      rw [solid_append, solid_trim, spaced]
    · exact ⟨_, light.inert_comma, by rw [solid_append, solid_trim, light.solid_comma]⟩

theorem Light.lineLoad_oneLine (light : needed.Light) (head names tail : Text) :
    lineLoad (head ++ "\x7b ".toList ++ extendNames needed.symbol.toList (Text.trim names) ++
        " \x7d".toList ++ tail) ≤ lineLoad (head ++ ('\x7b' :: (names ++ ('\x7d' :: tail)))) := by
  obtain ⟨added, inert, extended⟩ := light.solid_extendNames names
  have old : solid (head ++ ('\x7b' :: (names ++ ('\x7d' :: tail)))) =
      (solid head ++ ('\x7b' :: solid names)) ++ ([] ++ '\x7d' :: solid tail) := by
    simp [solid, isBlank]
  have new : solid (head ++ "\x7b ".toList ++ extendNames needed.symbol.toList (Text.trim names) ++
      " \x7d".toList ++ tail) =
      (solid head ++ ('\x7b' :: solid names)) ++ (added ++ '\x7d' :: solid tail) := by
    rw [solid_append, solid_append, solid_append, solid_append, extended]
    simp [solid, isBlank]
  apply lineLoad_le_of_seams
  · simp [old]
  · rw [old, new]
    exact inert.seams_le _ [] _

theorem Light.lineLoad_closing (light : needed.Light) (names tail : Text) :
    lineLoad (dropCommas (Text.trimEnd names) ++ ',' :: ' ' :: needed.symbol.toList ++
        " \x7d".toList ++ tail) ≤ lineLoad (names ++ ('\x7d' :: tail)) := by
  obtain ⟨commas, kept, -⟩ := dropCommas_append (Text.trimEnd names)
  have old : solid (names ++ ('\x7d' :: tail)) =
      solid (dropCommas (Text.trimEnd names)) ++ (solid commas ++ '\x7d' :: solid tail) := by
    rw [← List.append_assoc, ← solid_append, ← kept, solid_append, solid_trimEnd]
    rfl
  have new : solid (dropCommas (Text.trimEnd names) ++ ',' :: ' ' :: needed.symbol.toList ++
      " \x7d".toList ++ tail) = solid (dropCommas (Text.trimEnd names)) ++
        ((',' :: needed.symbol.toList) ++ '\x7d' :: solid tail) := by
    rw [solid_append, solid_append, solid_append, light.solid_comma]
    simp [solid, isBlank]
  apply lineLoad_le_of_seams
  · simp [old]
  · rw [old, new]
    exact light.inert_comma.seams_le _ _ _

theorem Light.lineLoad_entry (light : needed.Light) {indent : Text}
    (blank : ∀ c ∈ indent, isBlank c = true) :
    lineLoad (indent ++ needed.symbol.toList ++ [',']) ≤ 1 := by
  have comma : Inert [','] := by decide
  have shape : solid (indent ++ needed.symbol.toList ++ [',']) =
      needed.symbol.toList ++ ([','] ++ []) := by
    rw [solid_append, solid_append, solid_eq_nil blank, light.isSolid]
    rfl
  rw [lineLoad, shape, comma.seams_between, light.inert.1]
  simp [seams]

theorem lineLoad_comma (line : Text) (holds : solid line ≠ []) :
    lineLoad (Text.trimEnd line ++ [',']) ≤ lineLoad line := by
  have comma : Inert [','] := by decide
  have shape : solid (Text.trimEnd line ++ [',']) = solid line ++ ([','] ++ []) := by
    rw [solid_append, solid_trimEnd]
    rfl
  apply lineLoad_le_of_seams holds
  rw [shape, comma.seams_between]
  simp [seams]

/-! ## Contents -/

structure Grown (lines new : List Text) : Prop where
  nonempty : new ≠ []
  clean : Clean new
  load_le : load new ≤ load lines + 1

theorem grown_set {lines : List Text} (clean : Clean lines) {index : Nat} {line new : Text}
    (here : lines[index]? = some line) (lower : lineLoad new ≤ lineLoad line) (one : '\n' ∉ new) :
    Grown lines (lines.set index new) where
  nonempty := by
    intro none
    have empty : lines.length = 0 := by rw [← List.length_set, none, List.length_nil]
    simp [List.length_eq_zero_iff.mp empty] at here
  clean := clean.set index one
  load_le := by
    have := load_set here new
    omega

theorem grown_insert {lines : List Text} (clean : Clean lines) (index : Nat) {new : Text}
    (light : lineLoad new ≤ 1) (one : '\n' ∉ new) :
    Grown lines (lines.take index ++ new :: lines.drop index) where
  nonempty := by simp
  clean := clean.insert index one
  load_le := by
    rw [load_insert]
    omega

theorem Light.grown_addEntry (light : needed.Light) {lines : List Text} (clean : Clean lines)
    (start close : Nat) :
    ∃ new, (needed.addEntry lines start close).content = Text.unpieces new ∧ Grown lines new := by
  obtain ⟨indent, blank, oneIndent, cases⟩ := needed.addEntry_cases clean start close
  have weight := light.lineLoad_entry blank
  have one : '\n' ∉ indent ++ needed.symbol.toList ++ [','] := by simp [oneIndent, light.oneWord]
  rcases cases with ⟨-, shape⟩ | ⟨line, found, ⟨-, other, here, visible, -⟩, shape⟩
  · rw [shape]
    exact ⟨_, rfl, grown_insert clean close weight one⟩
  · obtain rfl : line = other := Option.some.inj (found.symm.trans here)
    have holds : solid line ≠ [] := fun none => visible (solid_eq_nil_iff.mp none)
    have oneAbove := not_mem_comma (clean line (List.mem_of_getElem? found))
    rw [shape]
    refine ⟨_, rfl, by simp, (clean.set _ oneAbove).insert close one, ?_⟩
    have replaced := load_set found (Text.trimEnd line ++ [','])
    have comma := lineLoad_comma line holds
    rw [load_insert]
    omega

theorem Light.grown (light : needed.Light) {lines : List Text} (clean : Clean lines)
    {edit : ImportEdit} (isEdit : needed.Edit lines edit) :
    ∃ new, edit.content = Text.unpieces new ∧ Grown lines new := by
  have oneWord := light.oneWord
  cases isEdit with
  | @oneLine index head names tail here =>
      have line := clean _ (List.mem_of_getElem? here)
      exact ⟨_, rfl, grown_set clean here (light.lineLoad_oneLine head names tail)
        (not_mem_oneLine oneWord line)⟩
  | @closing _ close names tail here =>
      have line := clean _ (List.mem_of_getElem? here)
      exact ⟨_, rfl, grown_set clean here (light.lineLoad_closing names tail)
        (not_mem_closing oneWord line)⟩
  | entry => exact light.grown_addEntry clean _ _
  | statement index => exact ⟨_, rfl, grown_insert clean index light.statement light.oneLine⟩

theorem Light.load_ensure?_le (light : needed.Light) {content : Text} {edit : ImportEdit}
    (h : needed.ensure? content = some edit) :
    load (Text.pieces edit.content) ≤ load (Text.pieces content) + 1 := by
  have clean : Clean (Text.pieces content) := fun _ => Text.not_mem_of_mem_pieces
  obtain ⟨new, shape, grown⟩ := light.grown clean (edit_of_ensure? h)
  rw [shape, Text.pieces_unpieces grown.nonempty grown.clean]
  exact grown.load_le

end Prerequisite

end Compliance
