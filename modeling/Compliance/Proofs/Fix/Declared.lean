import Compliance.Proofs.Fix.ImportHome
import Compliance.Proofs.Fix.Usage

/-!
# Introduced exceptions are declared

The fixes leave every exception that they introduce in use.  Where no text reads like an import of
it when its import is due, one is added, and it declares the exception in the end if the
place was code.  An import that stood in code already stays, unless the statement of
another exception comes to stand inside it.
-/

namespace Compliance

variable {symbol source gap content module : Text} {needed : Prerequisite} {edit : ImportEdit}

/-- The edit adds the symbol to an import that stands in code, with this gap in front of its
braces, or puts the statement on a line that starts in code. -/
inductive Lands (needed : Prerequisite) (content : Text) : ImportEdit → Text → Prop
  | merged {front gap names extended tail : Text} {edit : ImportEdit}
      (merged : Merged needed (Text.pieces content) edit front gap names extended tail)
      (live : InCode front)
      (ended : InCode (front ++ ("import".toList ++ (gap ++ '\x7b' :: names)))) :
      Lands needed content edit gap
  | placed (index : Nat) (live : InCode (Text.above ((Text.pieces content).take index))) :
      Lands needed content (insertLine (Text.pieces content) index needed.statement) [' ']

theorem Lands.declares (isName : Identifier needed.symbol.toList)
    (lands : Lands needed content edit gap) :
    ∃ source, Sourced needed.module.toList source ∧
      Declares gap needed.symbol.toList source edit.content := by
  cases lands with
  | merged merged live ended => exact merged.declares isName live ended
  | placed index live =>
      exact ⟨_, ⟨'\'', '\'', by decide, by decide, rfl⟩,
        declares_statement isName _ ((Text.pieces content).drop index) live⟩

def Prerequisite.ensured (needed : Prerequisite) (content : Text) : Text :=
  match needed.ensure? content with
  | none => content
  | some edit => edit.content

theorem importPhase_cons (needed : Prerequisite) (others : List Prerequisite) (content : Text) :
    (importPhase (needed :: others) content).1 =
      (importPhase others (needed.ensured content)).1 := by
  rw [importPhase, Prerequisite.ensured]
  cases needed.ensure? content <;> rfl

/-- While the imports are added one after the other, the statement of one of them comes to stand
inside an import of the symbol. -/
def Severed (needed : List Prerequisite) (content gap symbol source : Text) : Prop :=
  ∃ earlier other later edit, needed = earlier ++ other :: later ∧
    other.ensure? (importPhase earlier content).1 = some edit ∧
    Severs other.statement gap symbol source edit.content

theorem Severed.cons {others : List Prerequisite}
    (severed : Severed others (needed.ensured content) gap symbol source) :
    Severed (needed :: others) content gap symbol source := by
  obtain ⟨earlier, other, later, edit, rfl, found, severs⟩ := severed
  exact ⟨needed :: earlier, other, later, edit, rfl, by rwa [importPhase_cons], severs⟩

open Pattern

/-- An import of values that stands in code lists the symbol, with `from` behind its braces. -/
def Imported (symbol text : Text) : Prop := ∃ gap, Blank gap ∧ Declares gap symbol [] text

def valueImport (symbol : Text) : Pattern :=
  textStart ++ lit "import" ++ blanks ++ lit "\x7b" ++ many insideBraces ++ ofText symbol ++
    many insideBraces ++ lit "\x7d" ++ blanks ++ lit "from"

def readsImport (symbol : Text) : Zone → Text → Bool
  | _, [] => false
  | zone, c :: rest =>
      (zone.settled = .code && "import".toList.isPrefixOf (c :: rest) &&
          (valueImport symbol).occurs (c :: rest)) ||
        readsImport symbol (zone.next c) rest

theorem occurs_valueImport {names rest first : Text} (blank : Blank gap) (opened : '\x7d' ∉ names)
    (closed : '\x7d' ∉ rest) (blankFirst : Blank first) (more : Text) :
    (valueImport symbol).occurs ("import".toList ++ (gap ++ '\x7b' ::
      ((names ++ (symbol ++ rest)) ++ '\x7d' :: (first ++ ("from".toList ++ more))))) = true := by
  have isPlain : (valueImport symbol).plain = true := by
    simp only [valueImport, plain_append, plain_ofText]
    decide
  have split : "import".toList ++ (gap ++ '\x7b' :: ((names ++ (symbol ++ rest)) ++
      '\x7d' :: (first ++ ("from".toList ++ more)))) =
        ([] ++ "import".toList ++ gap ++ "\x7b".toList ++ names ++ symbol ++ rest ++
          "\x7d".toList ++ first ++ "from".toList) ++ more := by
    simp
  refine (occurs_iff isPlain).mpr ⟨[], _, (List.nil_append _).symm, _, more, [], split, ?_⟩
  simp only [valueImport, reads_append_lit, reads_append_blanks, reads_append_many,
    reads_append_ofText]
  exact ⟨_, rfl, _, first, rfl, blankFirst, _, rfl, _, rest, rfl,
    (all_noneOf_iff rfl).mpr closed, _, rfl, _, names, rfl, (all_noneOf_iff rfl).mpr opened, _,
    rfl, _, gap, rfl, blank, _, rfl, by simp⟩

theorem readsImport_append {front rest : Text} {zone : Zone}
    (live : (zone.after front).settled = .code) (begins : "import".toList <+: rest)
    (occurs : (valueImport symbol).occurs rest = true) :
    readsImport symbol zone (front ++ rest) = true := by
  induction front generalizing zone with
  | nil =>
      obtain ⟨c, rest, rfl⟩ : ∃ c rest', rest = c :: rest' := by
        obtain ⟨more, rfl⟩ := begins
        exact ⟨_, _, rfl⟩
      rw [Zone.after_nil] at live
      simp only [List.nil_append, readsImport, live, List.isPrefixOf_iff_prefix.mpr begins, occurs]
      rfl
  | cons d front ih => simp [readsImport, ih live]

theorem Imported.readsImport {text : Text} (imported : Imported symbol text) :
    readsImport symbol .code text = true := by
  obtain ⟨gap, blank, front, names, rest, first, second, more, parts, rfl⟩ := imported
  refine readsImport_append parts.live ⟨_, rfl⟩ ?_
  have occurs := @occurs_valueImport symbol gap names rest first blank parts.opened parts.closed
    parts.blanks.1 (second ++ more)
  simpa [importBody] using occurs

end Compliance
