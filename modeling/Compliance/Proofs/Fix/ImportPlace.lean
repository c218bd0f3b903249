import Compliance.Proofs.Fix.ImportEntries

/-!
# The place of a new import

A new import goes behind the last import of the content.  The scan for that line tells
by three signs that a statement is complete; a last import that shows none of them
is taken for one that goes on, and the new import lands elsewhere.
-/

namespace Compliance

open Prerequisite

variable {isOpen : Bool} {last : Option Nat} {index place : Nat} {line : Text}
    {lines later : List Text}

def opensImport (line : Text) : Bool :=
  (Text.trimStart line).beginsWith "import ".toList ||
    (Text.trimStart line).beginsWith "import\x7b".toList

/-- The line shows a sign that its statement is complete. -/
def looksComplete (line : Text) : Bool :=
  Text.contains (Text.trimStart line) " from ".toList ||
    (Text.trimStart line).endsWith ";".toList ||
    (Text.trimStart line).beginsWith "import '".toList

theorem lastImportEnd?_opening (opens : opensImport line = true) :
    lastImportEnd? isOpen last index (line :: lines) =
      lastImportEnd? (!looksComplete line) (if looksComplete line then some index else last)
        (index + 1) lines := by
  rw [lastImportEnd?]
  exact if_pos opens

theorem lastImportEnd?_other (other : opensImport line = false) :
    lastImportEnd? isOpen last index (line :: lines) =
      if isOpen && Text.contains (Text.trimStart line) "from ".toList then
        lastImportEnd? false (some index) (index + 1) lines
      else lastImportEnd? isOpen last (index + 1) lines := by
  rw [lastImportEnd?]
  exact if_neg (ne_true_of_eq_false other)

theorem lastImportEnd?_cons (behind : ∀ place, last = some place → place < index) :
    ∃ nextOpen nextLast, lastImportEnd? isOpen last index (line :: lines) =
        lastImportEnd? nextOpen nextLast (index + 1) lines ∧
      ∀ place, nextLast = some place → place < index + 1 := by
  have before : ∀ place, last = some place → place < index + 1 := by
    intro place here
    have := behind place here
    omega
  have now : ∀ place, some index = some place → place < index + 1 := by
    intro place here
    cases here
    omega
  cases opens : opensImport line with
  | true =>
      rw [lastImportEnd?_opening opens]
      refine ⟨_, _, rfl, ?_⟩
      split
      · exact now
      · exact before
  | false =>
      rw [lastImportEnd?_other opens]
      split
      · exact ⟨_, _, rfl, now⟩
      · exact ⟨_, _, rfl, before⟩

theorem lastImportEnd?_append (behind : ∀ place, last = some place → place < index)
    (lines later : List Text) :
    ∃ nextOpen nextLast, lastImportEnd? isOpen last index (lines ++ later) =
        lastImportEnd? nextOpen nextLast (index + lines.length) later ∧
      ∀ place, nextLast = some place → place < index + lines.length := by
  induction lines generalizing isOpen last index with
  | nil => exact ⟨isOpen, last, rfl, behind⟩
  | cons line lines ih =>
      obtain ⟨nextOpen, nextLast, moved, next⟩ :=
        @lastImportEnd?_cons isOpen last index line (lines ++ later) behind
      obtain ⟨finalOpen, finalLast, rest, final⟩ := @ih nextOpen nextLast (index + 1) next
      have length : index + 1 + lines.length = index + (line :: lines).length := by
        simp only [List.length_cons]
        omega
      rw [length] at rest final
      exact ⟨finalOpen, finalLast, moved.trans rest, final⟩

theorem lastImportEnd?_lt (h : lastImportEnd? false none 0 lines = some place) :
    place < lines.length := by
  obtain ⟨nextOpen, nextLast, moved, bound⟩ :=
    @lastImportEnd?_append false none 0 (by simp) lines []
  rw [List.append_nil, h] at moved
  have := bound place moved.symm
  omega

theorem lastImportEnd?_of_closed (quiet : ∀ line ∈ lines, opensImport line = false) :
    lastImportEnd? false last index lines = last := by
  induction lines generalizing index with
  | nil => rfl
  | cons line lines ih =>
      rw [lastImportEnd?_other (quiet line (by simp))]
      exact ih fun other here => quiet other (by simp [here])

theorem lastImportEnd?_of_open (quiet : ∀ line ∈ lines, opensImport line = false)
    (h : lastImportEnd? true last index lines = some place) :
      last = some place ∨ index ≤ place := by
  induction lines generalizing index with
  | nil => exact .inl h
  | cons line lines ih =>
      have below : ∀ other ∈ lines, opensImport other = false := fun other here =>
        quiet other (by simp [here])
      rw [lastImportEnd?_other (quiet line (by simp))] at h
      split at h
      · rw [lastImportEnd?_of_closed below] at h
        cases h
        exact .inr (Nat.le_refl _)
      · rcases ih below h with same | behind
        · exact .inl same
        · right
          omega

/-- Only the last import counts: the scan ends at it exactly if it looks complete. -/
theorem lastImportEnd?_eq_iff (earlier : List Text) (opens : opensImport line = true)
    (quiet : ∀ other ∈ later, opensImport other = false) :
    lastImportEnd? false none 0 (earlier ++ line :: later) = some earlier.length ↔
      looksComplete line = true := by
  obtain ⟨nextOpen, nextLast, moved, behind⟩ :=
    @lastImportEnd?_append false none 0 (by simp) earlier (line :: later)
  rw [Nat.zero_add] at moved behind
  rw [moved, lastImportEnd?_opening opens]
  cases complete : looksComplete line with
  | true => simp [lastImportEnd?_of_closed quiet]
  | false =>
      simp only [Bool.not_false, Bool.false_eq_true, if_false, iff_false]
      intro found
      rcases lastImportEnd?_of_open quiet found with same | below
      · exact Nat.lt_irrefl _ (behind _ same)
      · omega

/-! ## Statements on one line -/

def StartsImport (line : Text) : Prop :=
  ∃ rest, Text.trimStart line = "import".toList ++ rest ∧ Fresh rest

structure QuotedModule (quote : Char) (text : Text) : Prop where
  quotes : quote ∈ ['\'', '\x22']
  shape : ∃ name ending, text = quote :: (name ++ quote :: ending) ∧ quote ∉ name ∧
    ending ∈ [[], [';'], ['\r'], [';', '\r']]

/-- A complete import statement on one line. -/
inductive CompleteImport : Text → Prop
  | bindings {indent names gap module : Text} {quote : Char} (blank : Blank indent)
      (start : ∃ rest, names = ' ' :: rest ∨ names = '\x7b' :: rest) (blankGap : Blank gap)
      (quoted : QuotedModule quote module) :
      CompleteImport (indent ++
        ("import".toList ++ (names ++ (" from ".toList ++ (gap ++ module)))))
  | bare {indent module : Text} {quote : Char} (blank : Blank indent)
      (quoted : QuotedModule quote module) :
      CompleteImport (indent ++ ("import ".toList ++ module))

/-- A bare import in double quotes that neither ends in a semicolon nor has ` from ` in it. -/
def Overlooked (line : Text) : Prop :=
  (∃ rest, Text.trimStart line = "import \x22".toList ++ rest) ∧
    (Text.trimStart line).endsWith ";".toList = false ∧
    Text.contains (Text.trimStart line) " from ".toList = false

theorem Text.beginsWith_iff {text start : Text} :
    Text.beginsWith text start = true ↔ ∃ rest, text = start ++ rest := by
  rw [Text.beginsWith, List.isPrefixOf_iff_prefix]
  exact exists_congr fun _ => eq_comm

theorem Text.contains_append (before part after : Text) :
    Text.contains (before ++ (part ++ after)) part = true := by
  induction before with
  | nil =>
      cases shape : part ++ after with
      | nil => simp [Text.contains, (List.append_eq_nil_iff.mp shape).1]
      | cons c rest =>
          have starts : part.isPrefixOf (c :: rest) = true := by
            rw [← shape]
            exact List.isPrefixOf_iff_prefix.mpr (List.prefix_append ..)
          simp [Text.contains, starts]
  | cons c before ih => simp [Text.contains, ih]

theorem opensImport_iff :
    opensImport line = true ↔
      ∃ rest, Text.trimStart line = "import ".toList ++ rest ∨
        Text.trimStart line = "import\x7b".toList ++ rest := by
  rw [opensImport, Bool.or_eq_true, Text.beginsWith_iff, Text.beginsWith_iff, exists_or]

theorem startsImport_of_opensImport (opens : opensImport line = true) : StartsImport line := by
  have spaced : "import ".toList = "import".toList ++ [' '] := by decide
  have braced : "import\x7b".toList = "import".toList ++ ['\x7b'] := by decide
  obtain ⟨rest, shape | shape⟩ := opensImport_iff.mp opens
  · rw [spaced, List.append_assoc] at shape
    exact ⟨_, shape, fresh_cons.mpr (by decide)⟩
  · rw [braced, List.append_assoc] at shape
    exact ⟨_, shape, fresh_cons.mpr (by decide)⟩

namespace CompleteImport

theorem trimStart_cases (complete : CompleteImport line) :
    (∃ before after, Text.trimStart line = before ++ (" from ".toList ++ after) ∧
        ∃ rest, Text.trimStart line = "import ".toList ++ rest ∨
          Text.trimStart line = "import\x7b".toList ++ rest) ∨
      ∃ quote module, Text.trimStart line =
        "import ".toList ++ module ∧ QuotedModule quote module := by
  have spaced : "import ".toList = "import".toList ++ [' '] := by decide
  have braced : "import\x7b".toList = "import".toList ++ ['\x7b'] := by decide
  cases complete with
  | @bindings indent names gap module quote blank start blankGap quoted =>
      left
      rw [trimStart_keyword blank]
      refine ⟨"import".toList ++ names, gap ++ module, by simp only [List.append_assoc], ?_⟩
      obtain ⟨rest, rfl | rfl⟩ := start
      · exact ⟨_, .inl (by rw [spaced, List.append_assoc]; rfl)⟩
      · exact ⟨_, .inr (by rw [braced, List.append_assoc]; rfl)⟩
  | @bare indent module quote blank quoted =>
      right
      rw [spaced, List.append_assoc, trimStart_keyword blank]
      exact ⟨quote, module, rfl, quoted⟩

theorem opensImport (complete : CompleteImport line) : opensImport line = true := by
  apply opensImport_iff.mpr
  rcases complete.trimStart_cases with ⟨_, _, -, start⟩ | ⟨_, module, shape, -⟩
  · exact start
  · exact ⟨module, .inl shape⟩

theorem looksComplete_iff (complete : CompleteImport line) :
    looksComplete line = true ↔ ¬ Overlooked line := by
  unfold looksComplete Overlooked
  rcases complete.trimStart_cases with ⟨before, after, shape, -⟩ | ⟨quote, module, shape, quoted⟩
  · have named : Text.contains (Text.trimStart line) " from ".toList = true := by
      rw [shape]
      exact Text.contains_append before _ after
    refine iff_of_true ?_ fun overlooked => ?_
    · rw [named, Bool.true_or, Bool.true_or]
    · exact absurd (named.symm.trans overlooked.2.2) (by decide)
  · have single : "import '".toList = "import ".toList ++ ['\''] := by decide
    have double : "import \x22".toList = "import ".toList ++ ['\x22'] := by decide
    obtain ⟨name, ending, rfl, -, -⟩ := quoted.shape
    have isQuote := quoted.quotes
    simp only [List.mem_cons, List.not_mem_nil, or_false] at isQuote
    have begins {start : Char}
        (here : ∃ rest, Text.trimStart line = "import ".toList ++ [start] ++ rest) :
        start = quote := by
      obtain ⟨rest, same⟩ := here
      rw [shape, List.append_assoc] at same
      exact (List.cons.inj (List.append_cancel_left same)).1.symm
    rcases isQuote with rfl | rfl
    · refine iff_of_true ?_ fun overlooked => ?_
      · have start : (Text.trimStart line).beginsWith "import '".toList = true :=
          Text.beginsWith_iff.mpr ⟨_, by rw [shape, single, List.append_assoc]; rfl⟩
        rw [start, Bool.or_true]
      · rw [double] at overlooked
        exact absurd (begins overlooked.1) (by decide)
    · have start : (Text.trimStart line).beginsWith "import '".toList = false := by
        rw [Bool.eq_false_iff]
        intro begun
        rw [single] at begun
        exact absurd (begins (Text.beginsWith_iff.mp begun)) (by decide)
      have quotes : ∃ rest, Text.trimStart line = "import \x22".toList ++ rest :=
        ⟨_, by rw [shape, double, List.append_assoc]; rfl⟩
      rw [start, Bool.or_false, and_iff_right quotes, Bool.or_eq_true, and_comm, not_and_or,
        Bool.not_eq_false, Bool.not_eq_false]

end CompleteImport

/-! ## The new line -/

theorem opensImport_eq_false (other : ¬ StartsImport line) : opensImport line = false := by
  rw [Bool.eq_false_iff]
  exact fun opens => other (startsImport_of_opensImport opens)

/-- Where imports are complete statements on one line, a new import is put in at the top if there is
none, and otherwise directly behind the last one exactly if that one is not overlooked. -/
theorem place_of_inserted {needed : Prerequisite} {content : Text} {edit : ImportEdit}
    (complete : ∀ line ∈ Text.pieces content, StartsImport line → CompleteImport line)
    (found : needed.ensure? content = some edit) (before : edit.before = [])
    (after : edit.after = needed.statement) :
    edit = insertLine (Text.pieces content) (edit.line - 1) needed.statement ∧
      ((∀ line ∈ Text.pieces content, ¬ StartsImport line) → edit.line = 1) ∧
      ∀ earlier line later, Text.pieces content = earlier ++ line :: later → StartsImport line →
        (∀ other ∈ later, ¬ StartsImport other) →
          (edit.line = earlier.length + 2 ↔ ¬ Overlooked line) := by
  have clean : Clean (Text.pieces content) := fun _ => Text.not_mem_of_mem_pieces
  have inserted := (edit_of_ensure? found).inserted clean before after
  generalize Text.pieces content = lines at complete clean inserted ⊢
  have place : edit.line = ((lastImportEnd? false none 0 lines).map (· + 1)).getD 0 + 1 := by
    rw [inserted]
    rfl
  refine ⟨?_, ?_, ?_⟩
  · rw [place, Nat.add_sub_cancel]
    exact inserted
  · intro without
    have nothing := @lastImportEnd?_of_closed none 0 lines fun line here =>
      opensImport_eq_false (without line here)
    rw [place, nothing]
    rfl
  · rintro earlier line later rfl starts last
    have isComplete := complete line (by simp) starts
    have ends := lastImportEnd?_eq_iff earlier isComplete.opensImport fun other here =>
      opensImport_eq_false (last other here)
    rw [← isComplete.looksComplete_iff, ← ends, place]
    cases lastImportEnd? false none 0 (earlier ++ line :: later) with
    | none => simp
    | some found => simp

def metadataImport : Text := "import \x22reflect-metadata\x22".toList

def overlookedLines : List Text :=
  metadataImport :: ["", "function load() \x7b", "  // copied from the old loader",
    "  throw new NotFoundException('x');", "\x7d"].map String.toList

theorem completeImport_metadataImport : CompleteImport metadataImport := by
  have quoted : QuotedModule '\x22' "\x22reflect-metadata\x22".toList :=
    ⟨by decide, "reflect-metadata".toList, [], by decide, by decide, by decide⟩
  have shape : metadataImport = [] ++ ("import ".toList ++ "\x22reflect-metadata\x22".toList) := by
    decide
  rw [shape]
  exact .bare (by simp [Blank]) quoted

theorem place_of_overlooked :
    (∀ line ∈ Text.pieces (Text.unpieces overlookedLines), StartsImport line →
      CompleteImport line) ∧
      ∃ edit, notFound.ensure? (Text.unpieces overlookedLines) = some edit ∧ edit.before = [] ∧
        edit.after = notFound.statement ∧ edit.line = 5 ∧
        (edit.line = ([] : List Text).length + 2 ↔ ¬ Overlooked metadataImport) := by
  have split : Text.pieces (Text.unpieces overlookedLines) = [] ++ overlookedLines := by
    decide +kernel
  have others : ∀ line ∈ overlookedLines.tail, ¬ StartsImport line := by
    have quiet : ∀ line ∈ overlookedLines.tail,
        (Text.trimStart line).beginsWith "import".toList = false := by
      decide
    rintro line here ⟨rest, shape, -⟩
    exact absurd ((Text.beginsWith_iff.mpr ⟨rest, shape⟩).symm.trans (quiet line here)) (by decide)
  have complete : ∀ line ∈ Text.pieces (Text.unpieces overlookedLines),
      StartsImport line → CompleteImport line := by
    intro line here starts
    rw [split] at here
    rcases List.mem_cons.mp here with rfl | here
    · exact completeImport_metadataImport
    · exact absurd starts (others line here)
  have found : ∃ edit, notFound.ensure? (Text.unpieces overlookedLines) = some edit ∧
      edit.before = [] ∧ edit.after = notFound.statement ∧ edit.line = 5 := by
    decide +kernel
  obtain ⟨edit, found, before, after, line⟩ := found
  have placed := (place_of_inserted complete found before after).2.2 [] metadataImport
    overlookedLines.tail split
      (startsImport_of_opensImport completeImport_metadataImport.opensImport) others
  exact ⟨complete, edit, found, before, after, line, placed⟩

end Compliance
