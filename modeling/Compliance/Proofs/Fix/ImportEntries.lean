import Compliance.Proofs.Fix.ImportEdits

/-!
# Entries of imports

An entry for the symbol goes in front of the closing line of an import.  The entry above it
gets a comma if it has none.
-/

namespace Compliance

def notFound : Prerequisite := ⟨"NotFoundException", "@nestjs/common"⟩

def Clean (lines : List Text) : Prop := ∀ line ∈ lines, '\n' ∉ line

theorem Clean.set {lines : List Text} (clean : Clean lines) (index : Nat) {new : Text}
    (h : '\n' ∉ new) : Clean (lines.set index new) := by
  intro line here
  rcases List.mem_or_eq_of_mem_set here with here | rfl
  · exact clean line here
  · exact h

theorem Clean.insert {lines : List Text} (clean : Clean lines) (index : Nat) {new : Text}
    (h : '\n' ∉ new) : Clean (lines.take index ++ new :: lines.drop index) := by
  intro line here
  rcases List.mem_append.mp here with here | here
  · exact clean line (List.mem_of_mem_take here)
  · rcases List.mem_cons.mp here with rfl | here
    · exact h
    · exact clean line (List.mem_of_mem_drop here)

theorem trimStart_keyword {indent : Text} (blank : Blank indent) (rest : Text) :
    Text.trimStart (indent ++ ("import".toList ++ rest)) = "import".toList ++ rest := by
  have letters : "import".toList = 'i' :: "mport".toList := by decide
  rw [letters, List.cons_append]
  exact trimStart_indent blank (by decide)

/-- The line above the closing one is an entry, and no comma ends it. -/
def LacksComma (lines : List Text) (start close : Nat) : Prop :=
  start < close - 1 ∧ ∃ line, lines[close - 1]? = some line ∧ ¬ Blank line ∧
    (Text.trimEnd line).endsWith ",".toList = false

namespace Prerequisite

theorem mem_extendNames {symbol names : Text} {c : Char} (here : c ∈ extendNames symbol names) :
    c ∈ names ∨ c ∈ symbol ∨ c = ' ' ∨ c = ',' := by
  unfold extendNames at here
  split at here
  · exact .inr (.inl here)
  · split at here
    · rcases List.mem_append.mp here with here | here
      · exact .inl here
      · rcases List.mem_cons.mp here with rfl | here <;> simp [*]
    · rcases List.mem_append.mp here with here | here
      · exact .inl here
      · rcases List.mem_cons.mp here with rfl | here
        · simp
        · rcases List.mem_cons.mp here with rfl | here <;> simp [*]

theorem dropCommas_append (text : Text) :
    ∃ commas, text = dropCommas text ++ commas ∧ ∀ c ∈ commas, c = ',' := by
  refine ⟨(text.reverse.takeWhile (· = ',')).reverse, ?_, fun c here => ?_⟩
  · rw [dropCommas, ← List.reverse_append, List.takeWhile_append_dropWhile, List.reverse_reverse]
  · simpa using List.mem_takeWhile_imp (List.mem_reverse.mp here)

theorem mem_dropCommas {text : Text} {c : Char} (here : c ∈ dropCommas text) : c ∈ text := by
  obtain ⟨commas, shape, -⟩ := dropCommas_append text
  rw [shape]
  exact List.mem_append_left _ here

section Foreign

/-! An edit brings in no character but those of the symbol, braces, commas and spaces. -/

variable {c : Char} {symbol head names tail line : Text}

theorem foreign_oneLine (foreign : c ∉ ['\x7b', '\x7d', ',', ' ']) (oneWord : c ∉ symbol)
    (line : c ∉ head ++ ('\x7b' :: (names ++ ('\x7d' :: tail)))) :
    c ∉ head ++ "\x7b ".toList ++ extendNames symbol (Text.trim names) ++
      " \x7d".toList ++ tail := by
  have opened : "\x7b ".toList = ['\x7b', ' '] := by decide
  have closed : " \x7d".toList = [' ', '\x7d'] := by decide
  simp only [opened, closed, List.mem_append, List.mem_cons, List.not_mem_nil, or_false, not_or]
    at foreign line ⊢
  refine ⟨⟨⟨⟨line.1, foreign.1, foreign.2.2.2⟩, ?_⟩, foreign.2.2.2, foreign.2.1⟩, line.2.2.2.2⟩
  intro here
  rcases mem_extendNames here with here | here | here | here
  · exact line.2.2.1 (mem_trim here)
  · exact oneWord here
  · exact foreign.2.2.2 here
  · exact foreign.2.2.1 here

theorem foreign_closing (foreign : c ∉ ['\x7b', '\x7d', ',', ' ']) (oneWord : c ∉ symbol)
    (line : c ∉ names ++ ('\x7d' :: tail)) :
    c ∉ dropCommas (Text.trimEnd names) ++ ',' :: ' ' :: symbol ++ " \x7d".toList ++ tail := by
  have closed : " \x7d".toList = [' ', '\x7d'] := by decide
  simp only [closed, List.mem_append, List.mem_cons, List.not_mem_nil, or_false, not_or]
    at foreign line ⊢
  exact ⟨⟨⟨fun here => line.1 (mem_trimEnd (mem_dropCommas here)), foreign.2.2.1, foreign.2.2.2,
    oneWord⟩, foreign.2.2.2, foreign.2.1⟩, line.2.2⟩

theorem foreign_comma (foreign : c ≠ ',') (one : c ∉ line) : c ∉ Text.trimEnd line ++ [','] := by
  intro here
  rcases List.mem_append.mp here with here | here
  · exact one (mem_trimEnd here)
  · exact foreign (List.mem_singleton.mp here)

theorem not_mem_oneLine (oneWord : '\n' ∉ symbol)
    (line : '\n' ∉ head ++ ('\x7b' :: (names ++ ('\x7d' :: tail)))) :
    '\n' ∉ head ++ "\x7b ".toList ++ extendNames symbol (Text.trim names) ++
      " \x7d".toList ++ tail :=
  foreign_oneLine (by decide) oneWord line

theorem not_mem_closing (oneWord : '\n' ∉ symbol) (line : '\n' ∉ names ++ ('\x7d' :: tail)) :
    '\n' ∉ dropCommas (Text.trimEnd names) ++ ',' :: ' ' :: symbol ++ " \x7d".toList ++ tail :=
  foreign_closing (by decide) oneWord line

theorem not_mem_comma (one : '\n' ∉ line) : '\n' ∉ Text.trimEnd line ++ [','] :=
  foreign_comma (by decide) one

end Foreign

/-! ## Entries -/

variable {needed : Prerequisite} {lines : List Text} {start close : Nat}

theorem addEntry_cases (needed : Prerequisite) (clean : Clean lines) (start close : Nat) :
    ∃ indent, Blank indent ∧ '\n' ∉ indent ∧
      ((¬ LacksComma lines start close ∧ needed.addEntry lines start close =
          insertLine lines close (indent ++ needed.symbol.toList ++ [','])) ∨
        ∃ line, lines[close - 1]? = some line ∧ LacksComma lines start close ∧
          needed.addEntry lines start close =
            insertLine (lines.set (close - 1) (Text.trimEnd line ++ [','])) close
              (indent ++ needed.symbol.toList ++ [','])) := by
  by_cases level : start < close - 1
  · have inLine {line : Text} (found : lines[close - 1]? = some line) :
        '\n' ∉ (Text.trimEnd line).takeWhile isBlank := fun here =>
      clean line (List.mem_of_getElem? found) (mem_trimEnd (List.takeWhile_subset _ here))
    refine ⟨(Text.trimEnd ((lines[close - 1]?).getD [])).takeWhile isBlank,
      fun c here => List.mem_takeWhile_imp here, ?_⟩
    cases found : lines[close - 1]? with
    | none =>
        refine ⟨by simp [Text.trimEnd],
          .inl ⟨fun ⟨_, line, here, _⟩ => by simp [found] at here, ?_⟩⟩
        simp only [addEntry, if_pos level, found]
        rfl
    | some line =>
        have lacking : (!(Text.trimEnd line).endsWith ",".toList &&
            !(Text.trim (Text.trimEnd line)).isEmpty) = true ↔ LacksComma lines start close := by
          have blank : Text.trim (Text.trimEnd line) = [] ↔ Blank line := by
            rw [trim_eq_nil_iff, Blank, Blank, ← solid_eq_nil_iff, solid_trimEnd, solid_eq_nil_iff]
          simp [LacksComma, level, found, blank, and_comm]
        simp only [addEntry, if_pos level, found, Option.getD_some]
        refine ⟨inLine found, ?_⟩
        by_cases lacks : LacksComma lines start close
        · exact .inr ⟨line, rfl, lacks, by rw [if_pos (lacking.mpr lacks)]⟩
        · exact .inl ⟨lacks, by rw [if_neg (fun holds => lacks (lacking.mp holds))]⟩
  · refine ⟨"  ".toList, List.all_eq_true.mp (by decide), by decide,
      .inl ⟨fun lacks => level lacks.1, ?_⟩⟩
    rw [addEntry, if_neg level]
    rfl

theorem ne_statement_of_comma (needed : Prerequisite) (text : Text) :
    text ++ [','] ≠ needed.statement := by
  have ending : "';".toList = ['\'', ';'] := by decide
  intro same
  unfold statement at same
  rw [ending] at same
  generalize "import \x7b ".toList ++ needed.symbol.toList ++ " \x7d from '".toList ++
    needed.module.toList = front at same
  have last := congrArg List.getLast? same
  simp at last

theorem Edit.inserted {edit : ImportEdit} (isEdit : needed.Edit lines edit) (clean : Clean lines)
    (before : edit.before = []) (after : edit.after = needed.statement) :
    edit = insertLine lines (((lastImportEnd? false none 0 lines).map (· + 1)).getD 0)
      needed.statement := by
  cases isEdit with
  | oneLine => simp [replaceLine] at before
  | closing => simp [replaceLine] at before
  | @entry start close names tail here block blank source isBlock =>
      obtain ⟨indent, -, -, ⟨-, shape⟩ | ⟨line, -, -, shape⟩⟩ :=
        needed.addEntry_cases clean start close
      · rw [shape] at after
        exact absurd after (needed.ne_statement_of_comma _)
      · rw [shape] at after
        exact absurd after (needed.ne_statement_of_comma _)
  | statement index place => rw [place]

end Prerequisite

end Compliance
