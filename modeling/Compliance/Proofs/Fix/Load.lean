import Mathlib.Data.List.TakeWhile
import Compliance.Count
import Compliance.Rule.Basic

/-!
# The load of a content

A number that every built-in fix lowers.  It is read off the text without its
blanks: certain pairs of neighbours carry a load, one for each thing that a fix
takes away, and a line that is not blank carries one more.  A thrown literal
weighs more than the generic error into which it is wrapped, and that error weighs
more than the line that its import may add.
-/

namespace Compliance

def opensSeam (c : Char) : Bool := ['w', 'r', 'p', 'a', '\x7b'].contains c

def closesSeam (c : Char) : Bool := quotes.has c || ['(', ':', '.', '\x7d'].contains c

/-- The load of two neighbours: a literal after `throw`, a parenthesis after `Error`, the colon
of `http:`, the dot of `prisma.` and an empty block. -/
def seam (first second : Char) : Nat :=
  if first = 'w' ∧ quotes.has second = true then 4
  else if first = 'r' ∧ second = '(' then 2
  else if first = 'p' ∧ second = ':' then 1
  else if first = 'a' ∧ second = '.' then 1
  else if first = '\x7b' ∧ second = '\x7d' then 1
  else 0

theorem seam_eq_zero_of_not_opens {first : Char} (h : opensSeam first = false) (second : Char) :
    seam first second = 0 := by
  simp only [opensSeam, List.contains_eq_mem, List.mem_cons, List.not_mem_nil, or_false,
    decide_eq_false_iff_not, not_or] at h
  simp [seam, h]

theorem seam_eq_zero_of_not_closes {second : Char} (h : closesSeam second = false)
    (first : Char) : seam first second = 0 := by
  simp only [closesSeam, List.contains_eq_mem, List.mem_cons, List.not_mem_nil, or_false,
    Bool.or_eq_false_iff, decide_eq_false_iff_not, not_or] at h
  simp [seam, h]

def seams : Text → Nat
  | [] => 0
  | [_] => 0
  | first :: second :: rest => seam first second + seams (second :: rest)

def joint (before after : Text) : Nat :=
  match before.getLast?, after.head? with
  | some first, some second => seam first second
  | _, _ => 0

@[simp] theorem joint_nil_left (after : Text) : joint [] after = 0 := rfl

@[simp] theorem joint_nil_right (before : Text) : joint before [] = 0 := by
  simp [joint]

theorem seams_cons (c : Char) (rest : Text) : seams (c :: rest) = joint [c] rest + seams rest := by
  cases rest with
  | nil => rfl
  | cons next rest => rfl

theorem seams_append (before after : Text) :
    seams (before ++ after) = seams before + joint before after + seams after := by
  induction before with
  | nil => simp [seams]
  | cons c before ih =>
      rw [List.cons_append, seams_cons, seams_cons, ih]
      cases before with
      | nil => simp [seams]
      | cons next before =>
          have same : joint (c :: next :: before) after = joint (next :: before) after := by
            simp [joint]
          have first : joint [c] (next :: before ++ after) = joint [c] (next :: before) := rfl
          rw [same, first]
          omega

theorem joint_eq_zero_of_head {before after : Text}
    (h : after.head?.all (!closesSeam ·) = true) : joint before after = 0 := by
  unfold joint
  cases before.getLast? with
  | none => rfl
  | some first =>
      cases head : after.head? with
      | none => rfl
      | some second =>
          rw [head] at h
          exact seam_eq_zero_of_not_closes (by simpa using h) first

theorem joint_eq_zero_of_last {before after : Text}
    (h : before.getLast?.all (!opensSeam ·) = true) : joint before after = 0 := by
  unfold joint
  cases last : before.getLast? with
  | none => rfl
  | some first =>
      cases after.head? with
      | none => rfl
      | some second =>
          rw [last] at h
          exact seam_eq_zero_of_not_opens (by simpa using h) second

theorem seams_sides_le (before middle after : Text) :
    seams before + seams after ≤ seams (before ++ (middle ++ after)) := by
  rw [seams_append, seams_append]
  omega

theorem seams_append_of_silent {text : Text} (silent : ∀ c ∈ text, closesSeam c = false)
    (before : Text) : seams (before ++ text) = seams before := by
  have head {text : Text} (h : ∀ c ∈ text, closesSeam c = false) (before : Text) :
      joint before text = 0 := by
    apply joint_eq_zero_of_head
    cases text with
    | nil => rfl
    | cons c text => simp [h c (by simp)]
  have inside : seams text = 0 := by
    induction text with
    | nil => rfl
    | cons c text ih =>
        have rest : ∀ x ∈ text, closesSeam x = false := fun x here => silent x (by simp [here])
        rw [seams_cons, head rest, ih rest]
  rw [seams_append, head silent, inside]
  omega

/-! ## Texts that carry nothing -/

/-- A text that makes no loaded pair, neither inside nor with its neighbours. -/
def Inert (text : Text) : Prop :=
  seams text = 0 ∧ text.head?.any (!closesSeam ·) = true ∧ text.getLast?.any (!opensSeam ·) = true

instance (text : Text) : Decidable (Inert text) := by
  unfold Inert
  infer_instance

theorem Inert.seams_between {text : Text} (inert : Inert text) (before after : Text) :
    seams (before ++ (text ++ after)) = seams before + seams after := by
  obtain ⟨nothing, head, last⟩ := inert
  have start : joint before (text ++ after) = 0 := by
    apply joint_eq_zero_of_head
    cases text with
    | nil => simp at head
    | cons c text => simpa using head
  have stop : joint text after = 0 := by
    apply joint_eq_zero_of_last
    cases shape : text.getLast? with
    | none => rfl
    | some c => simpa [shape] using last
  rw [seams_append, start, seams_append, stop, nothing]
  omega

theorem Inert.seams_le {text : Text} (inert : Inert text) (before middle after : Text) :
    seams (before ++ (text ++ after)) ≤ seams (before ++ (middle ++ after)) := by
  rw [inert.seams_between]
  exact seams_sides_le before middle after

/-- Wherever `old` stands, putting `new` in its place lowers the load by `gain` or more. -/
def Lighter (gain : Nat) (old new : Text) : Prop :=
  ∀ before after, seams (before ++ (new ++ after)) + gain ≤ seams (before ++ (old ++ after))

theorem lighter_of_inside {gain : Nat} {old new : Text} (nonempty : new ≠ [])
    (start : ∀ before, joint before new ≤ joint before old)
    (stop : ∀ after, joint new after ≤ joint old after)
    (inside : seams new + gain ≤ seams old) : Lighter gain old new := by
  intro before after
  have meets : joint before (new ++ after) = joint before new := by
    obtain ⟨c, new, rfl⟩ := List.exists_cons_of_ne_nil nonempty
    rfl
  have meetsOld : joint before old ≤ joint before (old ++ after) := by
    cases old with
    | nil => simp
    | cons c old => exact Nat.le_refl _
  have := start before
  have := stop after
  rw [seams_append before, seams_append new, seams_append before, seams_append old, meets]
  omega

theorem Lighter.append {gain : Nat} {old new : Text} (lighter : Lighter gain old new)
    (before after : Text) : Lighter gain (before ++ (old ++ after)) (before ++ (new ++ after)) := by
  intro outerBefore outerAfter
  have := lighter (outerBefore ++ before) (after ++ outerAfter)
  simpa only [List.append_assoc] using this

theorem Lighter.trans {gain more : Nat} {old middle new : Text} (first : Lighter gain old middle)
    (second : Lighter more middle new) : Lighter (gain + more) old new := by
  intro before after
  have := first before after
  have := second before after
  omega

theorem joint_le_of_head {old new : Text} (same : new.head? = old.head?) (before : Text) :
    joint before new ≤ joint before old := by
  simp [joint, same]

theorem joint_le_of_last {old new : Text} (same : new.getLast? = old.getLast?) (after : Text) :
    joint new after ≤ joint old after := by
  simp [joint, same]

def solid (text : Text) : Text := text.filter fun c => !isBlank c

@[simp] theorem solid_nil : solid [] = [] := rfl

@[simp] theorem solid_append (first second : Text) :
    solid (first ++ second) = solid first ++ solid second := List.filter_append ..

theorem solid_eq_nil_iff {text : Text} : solid text = [] ↔ ∀ c ∈ text, isBlank c = true := by
  simp [solid]

theorem solid_eq_nil {text : Text} (blank : ∀ c ∈ text, isBlank c = true) : solid text = [] :=
  solid_eq_nil_iff.mpr blank

theorem solid_dropWhile (text : Text) : solid (text.dropWhile isBlank) = solid text := by
  induction text with
  | nil => rfl
  | cons c text ih =>
      cases blank : isBlank c with
      | true => simpa [blank, solid] using ih
      | false => simp [blank]

theorem solid_reverse (text : Text) : solid text.reverse = (solid text).reverse :=
  List.filter_reverse

theorem solid_trimEnd (text : Text) : solid (Text.trimEnd text) = solid text := by
  rw [Text.trimEnd, solid_reverse, solid_dropWhile, solid_reverse, List.reverse_reverse]

theorem solid_trim (text : Text) : solid (Text.trim text) = solid text := by
  rw [Text.trim, solid_trimEnd, Text.trimStart, solid_dropWhile]

theorem mem_trimEnd {c : Char} {text : Text} (here : c ∈ Text.trimEnd text) : c ∈ text := by
  simp only [Text.trimEnd, List.mem_reverse] at here
  exact List.mem_reverse.mp ((List.dropWhile_sublist isBlank).subset here)

theorem mem_trim {c : Char} {text : Text} (here : c ∈ Text.trim text) : c ∈ text :=
  (List.dropWhile_sublist isBlank).subset (mem_trimEnd here)

def lineLoad (line : Text) : Nat :=
  seams (solid line) + if (solid line).isEmpty then 0 else 1

def load (lines : List Text) : Nat := sumOf (lines.map lineLoad)

theorem load_cons (line : Text) (lines : List Text) :
    load (line :: lines) = lineLoad line + load lines := rfl

theorem load_append (lines others : List Text) :
    load (lines ++ others) = load lines + load others := by
  induction lines with
  | nil => simp [load, sumOf]
  | cons line lines ih =>
      rw [List.cons_append, load_cons, load_cons, ih]
      omega

theorem lineLoad_pos {line : Text} (h : solid line ≠ []) : 0 < lineLoad line := by
  cases shape : solid line with
  | nil => exact absurd shape h
  | cons c rest => simp [lineLoad, shape]

end Compliance
