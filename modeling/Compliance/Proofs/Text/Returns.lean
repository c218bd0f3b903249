import Compliance.Proofs.Text.Pieces

/-!
# Carriage returns at the ends of lines

A text with carriage returns in front of its newlines has the lines of the text without
them.  Two lists of pieces are compared that differ in these carriage returns only, and it is
kept whether any newline goes without one.
-/

namespace Compliance

namespace Text

def crlf (text : Text) : Text := text.flatMap fun c => if c = '\n' then ['\r', '\n'] else [c]

theorem crlf_append (first second : Text) : crlf (first ++ second) = crlf first ++ crlf second :=
  List.flatMap_append

theorem crlf_of_no_newline {text : Text} (one : '\n' ∉ text) : crlf text = text := by
  induction text with
  | nil => rfl
  | cons c text ih =>
      simp only [List.mem_cons, not_or] at one
      have other : c ≠ '\n' := fun same => one.1 same.symm
      have rest := ih one.2
      rw [crlf] at rest ⊢
      rw [List.flatMap_cons, rest, if_neg other]
      rfl

theorem crlf_newline {piece : Text} (one : '\n' ∉ piece) (rest : Text) :
    crlf (piece ++ '\n' :: rest) = (piece ++ ['\r']) ++ '\n' :: crlf rest := by
  rw [crlf_append, crlf_of_no_newline one, List.append_assoc]
  rfl

end Text

/-- The pieces differ in carriage returns at their ends only, and the last pieces not at all.  The
flag says that all pieces but the last have a carriage return. -/
inductive Carries : Bool → List Text → List Text → Prop
  | last (piece : Text) : Carries true [piece] [piece]
  | bare {full : Bool} {lines returned : List Text} (line : Text)
      (rest : Carries full lines returned) : Carries false (line :: lines) (line :: returned)
  | carried {full : Bool} {lines returned : List Text} (line : Text)
      (rest : Carries full lines returned) :
      Carries full (line :: lines) ((line ++ ['\r']) :: returned)

def Plain (lines : List Text) : Prop := ∀ line ∈ lines, '\r' ∉ line

theorem Plain.set {lines : List Text} (plain : Plain lines) (index : Nat) {new : Text}
    (free : '\r' ∉ new) : Plain (lines.set index new) := by
  intro line here
  rcases List.mem_or_eq_of_mem_set here with here | rfl
  · exact plain line here
  · exact free

theorem Plain.insert {lines : List Text} (plain : Plain lines) (index : Nat) {new : Text}
    (free : '\r' ∉ new) : Plain (lines.take index ++ new :: lines.drop index) := by
  simp only [Plain, List.forall_mem_append, List.forall_mem_cons]
  exact ⟨fun line here => plain line (List.mem_of_mem_take here), free,
    fun line here => plain line (List.mem_of_mem_drop here)⟩

namespace Carries

variable {full : Bool} {lines returned : List Text} {line : Text} {index : Nat}

theorem length_eq (carries : Carries full lines returned) : returned.length = lines.length := by
  induction carries with
  | last => rfl
  | bare line rest ih => simp [ih]
  | carried line rest ih => simp [ih]

theorem ne_nil (carries : Carries full lines returned) : lines ≠ [] ∧ returned ≠ [] := by
  cases carries <;> simp

theorem pieces_crlf (text : Text) :
    Carries true (Text.pieces text) (Text.pieces (Text.crlf text)) := by
  have joined (lines : List Text) (nonempty : lines ≠ []) (clean : ∀ line ∈ lines, '\n' ∉ line) :
      Carries true lines (Text.pieces (Text.crlf (Text.unpieces lines))) := by
    induction lines with
    | nil => exact absurd rfl nonempty
    | cons line lines ih =>
        have one := clean line (by simp)
        cases lines with
        | nil =>
            rw [Text.unpieces, Text.crlf_of_no_newline one, Text.pieces_of_no_newline one]
            exact .last line
        | cons next lines =>
            have rest := ih (by simp) fun other here => clean other (by simp [here])
            have ended : '\n' ∉ line ++ ['\r'] := by simp [one]
            rw [Text.unpieces, Text.crlf_newline one, Text.pieces_append_newline ended]
            · exact .carried line rest
            · simp
  have all := joined (Text.pieces text) (Text.pieces_ne_nil text) fun _ =>
      Text.not_mem_of_mem_pieces
  rwa [Text.unpieces_pieces] at all

theorem unpieces_eq (carries : Carries full lines returned) (whole : full = true)
    (clean : ∀ line ∈ lines, '\n' ∉ line) :
    Text.unpieces returned = Text.crlf (Text.unpieces lines) := by
  induction carries with
  | last piece => exact (Text.crlf_of_no_newline (clean piece (by simp))).symm
  | bare line rest ih => cases whole
  | @carried _ lines returned line rest ih =>
      have joined := ih whole fun other here => clean other (by simp [here])
      obtain ⟨some, some'⟩ := rest.ne_nil
      rw [Text.unpieces, Text.unpieces, Text.crlf_newline (clean line (by simp)), joined]
      · exact some
      · exact some'

theorem of_cons {first : Text} (whole : Carries true lines (first :: returned))
    (some : returned ≠ []) :
    (∃ line, first = line ++ ['\r']) ∧ ∃ others, Carries true others returned := by
  cases whole with
  | last => exact absurd rfl some
  | carried line rest => exact ⟨⟨line, rfl⟩, _, rest⟩

theorem flag_eq_true {others : List Text} (carries : Carries full lines returned)
    (plain : Plain lines) (whole : Carries true others returned) : full = true := by
  induction carries generalizing others with
  | last => rfl
  | bare line rest ih =>
      obtain ⟨⟨other, rfl⟩, -⟩ := whole.of_cons rest.ne_nil.2
      exact absurd (by simp) (plain _ List.mem_cons_self)
  | carried line rest ih =>
      obtain ⟨-, others, whole⟩ := whole.of_cons rest.ne_nil.2
      exact ih (fun other here => plain other (by simp [here])) whole

theorem unpieces_ne (carries : Carries false lines returned) (plain : Plain lines)
    (clean : ∀ line ∈ returned, '\n' ∉ line) (text : Text) :
    Text.unpieces returned ≠ Text.crlf text := by
  intro same
  have whole := pieces_crlf text
  rw [← same, Text.pieces_unpieces carries.ne_nil.2 clean] at whole
  exact Bool.false_ne_true (carries.flag_eq_true plain whole)

theorem linesOfPieces_eq (carries : Carries full lines returned) (plain : Plain lines) :
    Text.linesOfPieces returned = Text.linesOfPieces lines := by
  have dropped {line : Text} (none : '\r' ∉ line) : Text.dropCarriage line = line := by
    refine if_neg fun last => none (List.mem_of_getLast? last)
  induction carries with
  | last => rfl
  | @bare _ lines returned line rest ih =>
      have same := ih fun other here => plain other (by simp [here])
      obtain ⟨some, some'⟩ := rest.ne_nil
      rw [Text.linesOfPieces, Text.linesOfPieces, same]
      · exact some
      · exact some'
  | @carried _ lines returned line rest ih =>
      have same := ih fun other here => plain other (by simp [here])
      obtain ⟨some, some'⟩ := rest.ne_nil
      have one : Text.dropCarriage (line ++ ['\r']) = line := by simp [Text.dropCarriage]
      rw [Text.linesOfPieces, Text.linesOfPieces, same, one, dropped (plain line (by simp))]
      · exact some
      · exact some'

theorem clean (carries : Carries full lines returned) (clean : ∀ line ∈ lines, '\n' ∉ line) :
    ∀ line ∈ returned, '\n' ∉ line := by
  induction carries with
  | last => exact clean
  | bare line rest ih =>
      simp only [List.forall_mem_cons] at clean ⊢
      exact ⟨clean.1, ih clean.2⟩
  | carried line rest ih =>
      simp only [List.forall_mem_cons] at clean ⊢
      exact ⟨by simp [clean.1], ih clean.2⟩

/-! ## One place -/

/-- What stands at one place of both lists, and what becomes of them when the line there is
replaced: with the line end as it was, or on a line of its own without one. -/
structure At (full : Bool) (lines returned : List Text) (index : Nat)
    (line ending : Text) : Prop where
  cases : ending = [] ∨ ending = ['\r']
  here : returned[index]? = some (line ++ ending)
  final : index + 1 = lines.length → ending = []
  kept : ∀ new, Carries full (lines.set index new) (returned.set index (new ++ ending))
  lost : index + 1 < lines.length →
  ∀ new, Carries false (lines.set index new) (returned.set index new)

theorem exists_at (carries : Carries full lines returned) (here : lines[index]? = some line) :
    ∃ ending, At full lines returned index line ending := by
  induction carries generalizing index with
  | last piece =>
      cases index with
      | zero =>
          obtain rfl := Option.some.inj here
          exact ⟨[], .inl rfl, by simp, fun _ => rfl, fun new => by simpa using .last new, by simp⟩
      | succ index => simp at here
  | @bare full lines returned first rest ih =>
      cases index with
      | zero =>
          obtain rfl := Option.some.inj here
          exact ⟨[], .inl rfl, by simp, fun _ => rfl, fun new => by simpa using .bare new rest,
            fun _ new => .bare new rest⟩
      | succ index =>
          obtain ⟨ending, cases, there, final, kept, lost⟩ := ih here
          refine ⟨ending, cases, there, fun last => final (by simpa using last), fun new => ?_,
            fun more new => ?_⟩
          · exact .bare first (kept new)
          · exact .bare first (lost (by simpa using more) new)
  | @carried full lines returned first rest ih =>
      cases index with
      | zero =>
          obtain rfl := Option.some.inj here
          obtain ⟨some, -⟩ := rest.ne_nil
          refine ⟨['\r'], .inr rfl, rfl, fun last => ?_, fun new => .carried new rest,
            fun _ new => .bare new rest⟩
          exact absurd (List.length_eq_zero_iff.mp (by simpa using last.symm)) some
      | succ index =>
          obtain ⟨ending, cases, there, final, kept, lost⟩ := ih here
          refine ⟨ending, cases, there, fun last => final (by simpa using last), fun new => ?_,
            fun more new => ?_⟩
          · exact .carried first (kept new)
          · exact .carried first (lost (by simpa using more) new)

theorem insert (carries : Carries full lines returned) (inside : index ≤ lines.length)
    (new : Text) :
    Carries false (lines.take index ++ new :: lines.drop index)
      (returned.take index ++ new :: returned.drop index) := by
  induction carries generalizing index with
  | last piece =>
      cases index with
      | zero => exact .bare new (.last piece)
      | succ index =>
          obtain rfl : index = 0 := by simpa using inside
          exact .bare piece (.last new)
  | bare line rest ih =>
      cases index with
      | zero => exact .bare new (.bare line rest)
      | succ index => exact .bare line (ih (by simpa using inside))
  | carried line rest ih =>
      cases index with
      | zero => exact .bare new (.carried line rest)
      | succ index => exact .carried line (ih (by simpa using inside))

end Carries

/-- The second text has more carriage returns than the first one, each in front of a newline. -/
inductive Returned : Text → Text → Prop
  | nil : Returned [] []
  | same {text other : Text} (c : Char) (rest : Returned text other) :
      Returned (c :: text) (c :: other)
  | newline {text other : Text} (rest : Returned text other) :
      Returned ('\n' :: text) ('\r' :: '\n' :: other)

namespace Returned

variable {text other first second front back : Text}

theorem refl (text : Text) : Returned text text := by
  induction text with
  | nil => exact .nil
  | cons c text ih => exact .same c ih

theorem append (one : Returned text other) (two : Returned first second) :
    Returned (text ++ first) (other ++ second) := by
  induction one with
  | nil => exact two
  | same c rest ih => exact .same c ih
  | newline rest ih => exact .newline ih

theorem of_carries {full : Bool} {lines returned : List Text}
    (carries : Carries full lines returned) :
    Returned (Text.unpieces lines) (Text.unpieces returned) := by
  induction carries with
  | last piece => exact refl piece
  | @bare _ lines returned line rest ih =>
      obtain ⟨some, some'⟩ := rest.ne_nil
      rw [Text.unpieces, Text.unpieces]
      · exact (refl line).append (.same '\n' ih)
      · exact some'
      · exact some
  | @carried _ lines returned line rest ih =>
      obtain ⟨some, some'⟩ := rest.ne_nil
      rw [Text.unpieces, Text.unpieces, List.append_assoc]
      · exact (refl line).append (.newline ih)
      · exact some'
      · exact some

theorem split (returned : Returned (front ++ back) other) :
    ∃ first second, other = first ++ second ∧ Returned front first ∧ Returned back second := by
  induction front generalizing other with
  | nil => exact ⟨[], other, rfl, .nil, returned⟩
  | cons c front ih =>
      cases returned with
      | same c rest =>
          obtain ⟨first, second, rfl, one, two⟩ := ih rest
          exact ⟨c :: first, second, rfl, .same c one, two⟩
      | newline rest =>
          obtain ⟨first, second, rfl, one, two⟩ := ih rest
          exact ⟨'\r' :: '\n' :: first, second, rfl, .newline one, two⟩

theorem unsplit {c : Char} (visible : c ≠ '\n') (returned : Returned text (first ++ c :: second)) :
    ∃ front back, text = front ++ back ∧ Returned front first ∧ Returned back (c :: second) := by
  have start {text : Text} (whole : Returned text ([] ++ c :: second)) :
      ∃ front back, text = front ++ back ∧ Returned front [] ∧ Returned back (c :: second) :=
    ⟨[], text, rfl, .nil, whole⟩
  generalize shape : first ++ c :: second = other at returned
  induction returned generalizing first with
  | nil => simp at shape
  | @same text other d rest ih =>
      cases first with
      | nil => exact start (shape ▸ .same d rest)
      | cons e first =>
          obtain ⟨rfl, later⟩ := List.cons.inj shape
          obtain ⟨front, back, rfl, one, two⟩ := ih later
          exact ⟨e :: front, back, rfl, .same e one, two⟩
  | @newline text other rest ih =>
      cases first with
      | nil => exact start (shape ▸ .newline rest)
      | cons d first =>
          obtain ⟨rfl, later⟩ := List.cons.inj shape
          cases first with
          | nil => exact absurd (List.cons.inj later).1 visible
          | cons e first =>
              obtain ⟨rfl, last⟩ := List.cons.inj later
              obtain ⟨front, back, rfl, one, two⟩ := ih last
              exact ⟨'\n' :: front, back, rfl, .newline one, two⟩

theorem eq_of_no_newline (returned : Returned text other) (one : '\n' ∉ text) : other = text := by
  induction returned with
  | nil => rfl
  | same c rest ih => rw [ih (by simp_all)]
  | newline => simp at one

theorem unsplit_plain (plain : '\r' ∉ first) (returned : Returned text (first ++ second)) :
    ∃ back, text = first ++ back ∧ Returned back second := by
  induction first generalizing text with
  | nil => exact ⟨text, rfl, returned⟩
  | cons c first ih =>
      simp only [List.mem_cons, not_or] at plain
      generalize shape : c :: first ++ second = other at returned
      cases returned with
      | nil => cases shape
      | same d rest =>
          obtain ⟨rfl, rfl⟩ := List.cons.inj shape
          obtain ⟨back, rfl, two⟩ := ih plain.2 rest
          exact ⟨back, rfl, two⟩
      | newline rest => exact absurd (List.cons.inj shape).1.symm plain.1

theorem mem_iff (returned : Returned text other) {c : Char} (visible : c ≠ '\r') :
    c ∈ other ↔ c ∈ text := by
  induction returned with
  | nil => rfl
  | same d rest ih => rw [List.mem_cons, List.mem_cons, ih]
  | newline rest ih => simp [visible, ih]

theorem eq_nil_iff (returned : Returned text other) : other = [] ↔ text = [] := by
  cases returned <;> simp

theorem getLast?_eq (returned : Returned text other) : other.getLast? = text.getLast? := by
  have last {c : Char} {text other : Text} (same : other.getLast? = text.getLast?) :
      (c :: other).getLast? = (c :: text).getLast? := by
    rw [List.getLast?_cons, List.getLast?_cons, same]
  induction returned with
  | nil => rfl
  | same c rest ih => exact last ih
  | @newline text other rest ih =>
      rw [List.getLast?_cons_cons]
      exact last ih

theorem head?_map_eq (returned : Returned text other) {α : Type} (view : Char → α)
    (blind : view '\r' = view '\n') : other.head?.map view = text.head?.map view := by
  cases returned <;> simp [blind]

theorem all_iff (returned : Returned text other) {view : Char → Bool}
    (blind : view '\r' = view '\n') :
    (∀ c ∈ other, view c = true) ↔ ∀ c ∈ text, view c = true := by
  induction returned with
  | nil => rfl
  | same c rest ih => rw [List.forall_mem_cons, List.forall_mem_cons, ih]
  | newline rest ih => simp [blind, ih]

end Returned

end Compliance
