import Compliance.Proofs.Fix.EmptyHandlers
import Compliance.Proofs.Fix.Termination

/-!
# Exceptions stay in use

A fix that introduces an exception leaves a call of its constructor on the line, and no
fix that is tried on that line later breaks the call.
-/

namespace Compliance

open Pattern

variable {behind word rest needle new : Text} {marks : List Mark}

/-- The replacement of a word keeps a needle that lies in the word, and no needle lies across the
borders of the word. -/
structure Spares (needle word new : Text) : Prop where
  start : ∀ front back, needle = front ++ back → front ≠ [] → back ≠ [] →
    ¬ back <+: word ∧ ¬ word <+: back
  stop : ∀ front back, needle = front ++ back → front ≠ [] → back ≠ [] → ¬ front <:+ word
  inside : needle <:+: word → needle <:+: new

theorem infix_splice {pattern : Pattern} {replacement : Match → Text}
    (each : ∀ {behind word rest marks}, pattern.Reads behind word rest marks →
      Spares needle word (replacement (.of behind word rest marks)))
    {behind ahead : Text} {found : List Match} (cuts : pattern.Cuts behind ahead found)
    (here : needle <:+: ahead) : needle <:+: splice replacement (.between behind ahead) found := by
  induction cuts with
  | rest => exact here
  | found gap word rest quiet place reads later ih =>
      have spares := each reads
      rw [splice_of]
      rcases List.infix_append_iff_ne_nil.mp here with
        here | here | ⟨front, back, some, some', split, -, start⟩
      · exact List.infix_append_of_infix_left here
      · refine List.infix_append_of_infix_right ?_
        rcases List.infix_append_iff_ne_nil.mp here with
          here | here | ⟨front, back, some, some', split, stop, -⟩
        · exact List.infix_append_of_infix_left (spares.inside here)
        · exact List.infix_append_of_infix_right (ih here)
        · exact absurd stop (spares.stop front back split some some')
      · have apart := spares.start front back split some some'
        rcases List.prefix_or_prefix_of_prefix start (List.prefix_append word rest) with
          inside | whole
        · exact absurd inside apart.1
        · exact absurd whole apart.2

def constructorCall (exception : String) : Text := ' ' :: (exception.toList ++ ['('])

/-- No proper end of the call goes together with the start of the word. -/
def Foreign (exception : String) (start : Text) : Prop :=
  ∀ back ∈ (constructorCall exception).tails.tail, back ≠ [] → ¬ back <+: start ∧ ¬ start <+: back

instance (exception : String) (start : Text) : Decidable (Foreign exception start) :=
  inferInstanceAs (Decidable (∀ back ∈ _, _ → _))

variable {exception : String} {keyword : Pattern}

theorem foreign_of_listed (listed : (exception, keyword) ∈ exceptionKeywords) :
    Foreign exception "throw".toList ∧ Foreign exception "catch".toList ∧
      Foreign exception "http://".toList ∧ Foreign exception "prisma.".toList ∧
      Foreign exception "this.".toList := by
  rcases name_of_listed listed with rfl | rfl | rfl | rfl <;> decide

theorem Foreign.start {start tail : Text} (foreign : Foreign exception start) (front back : Text)
    (split : constructorCall exception = front ++ back) (some : front ≠ []) (some' : back ≠ []) :
    ¬ back <+: start ++ tail ∧ ¬ start ++ tail <+: back := by
  have isTail : back ∈ (constructorCall exception).tails.tail := by
    obtain ⟨c, front, rfl⟩ := List.exists_cons_of_ne_nil some
    rw [split]
    exact (List.mem_tails _ _).mpr (List.suffix_append front back)
  have apart := foreign back isTail some'
  refine ⟨fun inside => ?_, fun whole => ?_⟩
  · rcases List.prefix_or_prefix_of_prefix inside (List.prefix_append start tail) with short | long
    · exact apart.1 short
    · exact apart.2 long
  · exact apart.2 ((List.prefix_append start tail).trans whole)

def initials : Text := ['N', 'U', 'F', 'B']

theorem initial_of_listed (listed : (exception, keyword) ∈ exceptionKeywords) :
    ∃ c ∈ initials, ∃ tail, constructorCall exception = ' ' :: c :: tail := by
  rcases name_of_listed listed with rfl | rfl | rfl | rfl <;> exact ⟨_, by decide, _, rfl⟩

def Mute (text : Text) : Prop := ∀ c ∈ text, c ∉ initials

instance (text : Text) : Decidable (Mute text) := List.decidableBAll _ text

theorem Mute.append {first second : Text} (one : Mute first) (other : Mute second) :
    Mute (first ++ second) :=
  List.forall_mem_append.mpr ⟨one, other⟩

theorem mute_of_blank {text : Text} (blank : Blank text) : Mute text := by
  intro c here initial
  have isBlank := blank c here
  simp only [initials, List.mem_cons, List.not_mem_nil, or_false] at initial
  rcases initial with rfl | rfl | rfl | rfl <;> revert isBlank <;> decide

theorem not_infix_of_mute (listed : (exception, keyword) ∈ exceptionKeywords) {text : Text}
    (mute : Mute text) : ¬ constructorCall exception <:+: text := by
  obtain ⟨c, initial, tail, shape⟩ := initial_of_listed listed
  exact fun inside => mute c (inside.subset (by simp [shape])) initial

theorem not_mem_constructorCall (listed : (exception, keyword) ∈ exceptionKeywords) :
    ')' ∉ constructorCall exception ∧ '\x7d' ∉ constructorCall exception ∧
      ∀ c, quotes.has c = true → c ∉ constructorCall exception := by
  have quote : '\'' ∉ constructorCall exception ∧ '"' ∉ constructorCall exception ∧
      '\x60' ∉ constructorCall exception ∧ ')' ∉ constructorCall exception ∧
      '\x7d' ∉ constructorCall exception := by
    rcases name_of_listed listed with rfl | rfl | rfl | rfl <;> decide
  refine ⟨quote.2.2.2.1, quote.2.2.2.2, fun c has => ?_⟩
  rcases mem_quotes.mp has with rfl | rfl | rfl
  · exact quote.1
  · exact quote.2.1
  · exact quote.2.2.1

theorem not_suffix_of_last {body : Text} {c : Char} (outside : c ∉ needle) (front back : Text)
    (split : needle = front ++ back) (some : front ≠ []) : ¬ front <:+ body ++ [c] := by
  rintro ⟨before, same⟩
  obtain ⟨init, last, rfl⟩ := (List.eq_nil_or_concat' front).resolve_left some
  rw [← List.append_assoc] at same
  obtain ⟨-, same⟩ := List.append_inj' same rfl
  obtain rfl := List.singleton_inj.mp same
  exact outside (by simp [split])

/-! ## Matches of the built-in fixes -/

theorem mute_of_errorHead {head : Text} (isHead : ErrorHead head) : Mute head := by
  obtain ⟨one, two, three, rfl, ⟨-, space⟩, ⟨-, gap⟩, blank⟩ := isHead
  have fixed : Mute "throw".toList ∧ Mute "new".toList ∧ Mute "Error".toList ∧ Mute ['('] := by
    decide
  obtain ⟨first, second, third, last⟩ := fixed
  exact first.append ((mute_of_blank space).append (second.append ((mute_of_blank gap).append
    (third.append ((mute_of_blank blank).append last)))))

theorem spares_exceptionFix (listed : (exception, keyword) ∈ exceptionKeywords) {other : String}
    {words : Pattern} (listed' : (other, words) ∈ exceptionKeywords)
    (reads : (errorWithKeyword words).Reads behind word rest marks) :
    Spares (constructorCall exception) word
      ((exceptionFix other words).replace (.of behind word rest marks)) := by
  obtain ⟨-, -, -, noGroups⟩ := inert_exception listed'
  obtain ⟨head, before, quoted, after, rfl, isHead, blankBefore, blankAfter,
    ⟨first, inside, last, rfl, hasFirst, hasLast⟩, group⟩ :=
    shape_of_reads_errorWithKeyword noGroups reads
  obtain ⟨closing, -, quote⟩ := not_mem_constructorCall listed
  rw [replace_exceptionFix listed', group]
  constructor
  · obtain ⟨one, two, three, rfl, -⟩ := isHead
    simp only [List.append_assoc]
    exact (foreign_of_listed listed).1.start
  · intro front back split some _
    simp only [← List.append_assoc]
    exact not_suffix_of_last closing front back split some
  · intro here
    simp only [List.cons_append, List.append_assoc, List.nil_append] at here
    rw [← List.append_assoc] at here
    rcases infix_of_append_cons (quote first hasFirst) here with here | here
    · exact absurd here
        (not_infix_of_mute listed ((mute_of_errorHead isHead).append (mute_of_blank blankBefore)))
    · rcases infix_of_append_cons (quote last hasLast) here with here | here
      · refine here.trans ⟨"throw new ".toList ++ (other.toList ++ ['(', first]), [last, ')'], ?_⟩
        simp
      · exact absurd here (not_infix_of_mute listed ((mute_of_blank blankAfter).append (by decide)))

theorem spares_wrapLiteralFix (listed : (exception, keyword) ∈ exceptionKeywords)
    (reads : thrownLiteral.Reads behind word rest marks) :
    Spares (constructorCall exception) word
      (wrapLiteralFix.replace (.of behind word rest marks)) := by
  obtain ⟨gap, literal, rfl, ⟨-, blank⟩, ⟨first, body, last, rfl, hasFirst, -, hasLast⟩, -, rfl⟩ :=
    reads_thrownLiteral.mp reads
  obtain ⟨-, -, quote⟩ := not_mem_constructorCall listed
  have keyword : Mute "throw".toList := by decide
  rw [replace_wrapLiteralFix, Match.group, group?_oneGroup Nat.one_ne_zero, Option.getD_some]
  constructor
  · exact (foreign_of_listed listed).1.start
  · intro front back split some _
    have shape : "throw".toList ++ (gap ++ first :: (body ++ [last])) =
        "throw".toList ++ (gap ++ first :: body) ++ [last] := by simp
    rw [shape]
    exact not_suffix_of_last (quote last hasLast) front back split some
  · intro here
    rw [← List.append_assoc] at here
    rcases infix_of_append_cons (quote first hasFirst) here with here | here
    · exact absurd here (not_infix_of_mute listed (keyword.append (mute_of_blank blank)))
    · rcases infix_of_append_cons (quote last hasLast) here with here | here
      · refine here.trans ⟨"throw new Error(".toList ++ [first], [last, ')'], ?_⟩
        simp
      · exact absurd here (not_infix_of_mute listed (by decide))

theorem spares_of_no_blank {start tail : Text} (foreign : Foreign exception start)
    (noBlank : ' ' ∉ start ++ tail) (new : Text) :
    Spares (constructorCall exception) (start ++ tail) new where
  start := foreign.start
  stop := by
    intro front back split some _ inside
    obtain ⟨c, front, rfl⟩ := List.exists_cons_of_ne_nil some
    obtain ⟨rfl, -⟩ := List.cons.inj split
    exact noBlank (inside.subset (by simp))
  inside := fun here => absurd (here.subset (by simp [constructorCall])) noBlank

theorem spares_upgradeUrlFix (listed : (exception, keyword) ∈ exceptionKeywords)
    (reads : httpUrl.Reads behind word rest marks) :
    Spares (constructorCall exception) word
      (upgradeUrlFix.replace (.of behind word rest marks)) := by
  obtain ⟨host, rfl, ⟨-, all⟩, -⟩ := reads_httpUrl.mp reads
  refine spares_of_no_blank (foreign_of_listed listed).2.2.1 ?_ _
  rw [List.mem_append, not_or]
  refine ⟨by decide, fun here => ?_⟩
  have := all ' ' here
  revert this
  decide

theorem spares_transactionClientFix (listed : (exception, keyword) ∈ exceptionKeywords)
    (reads : outerClientWrite.Reads behind word rest marks) :
    Spares (constructorCall exception) word
      (transactionClientFix.replace (.of behind word rest marks)) := by
  obtain ⟨head, table, verb, rfl, isHead, ⟨-, isName⟩, ⟨text, isVerb, rfl⟩, -, -⟩ :=
    shape_of_reads_outerClientWrite reads
  have noBlank : ' ' ∉ table ++ '.' :: text.toList := by
    simp only [List.mem_append, List.mem_cons, not_or]
    refine ⟨fun here => ?_, by decide, ?_⟩
    · have := isName ' ' here
      revert this
      decide
    · exact (show ∀ text ∈ verbs, ' ' ∉ text.toList by decide) text isVerb
  rcases isHead with rfl | rfl
  · refine spares_of_no_blank (foreign_of_listed listed).2.2.2.1 ?_ _
    rw [List.mem_append, not_or]
    exact ⟨by decide, noBlank⟩
  · have shape : "this.prisma.".toList ++ (table ++ '.' :: text.toList) =
        "this.".toList ++ ("prisma.".toList ++ (table ++ '.' :: text.toList)) := rfl
    rw [shape]
    refine spares_of_no_blank (foreign_of_listed listed).2.2.2.2 ?_ _
    rw [List.mem_append, List.mem_append, not_or, not_or]
    exact ⟨by decide, by decide, noBlank⟩

theorem infix_of_parenthesis (listed : (exception, keyword) ∈ exceptionKeywords)
    {head inner : Text} (mute : Mute head)
    (here : constructorCall exception <:+: head ++ '(' :: inner) :
    constructorCall exception <:+: '(' :: inner := by
  obtain ⟨c, initial, tail, shape⟩ := initial_of_listed listed
  rcases List.infix_append_iff_ne_nil.mp here with
    here | here | ⟨front, back, some, some', split, stop, start⟩
  · exact absurd here (not_infix_of_mute listed mute)
  · exact here
  · obtain ⟨d, front, rfl⟩ := List.exists_cons_of_ne_nil some
    obtain ⟨-, split⟩ := List.cons.inj (shape.symm.trans split)
    cases front with
    | nil =>
        obtain rfl : c :: tail = back := split
        obtain ⟨after, same⟩ := start
        obtain ⟨rfl, -⟩ := List.cons.inj same
        exact absurd initial (by decide)
    | cons d' front =>
        obtain ⟨rfl, -⟩ := List.cons.inj split
        exact absurd initial (mute c (stop.subset (by simp)))

theorem mute_of_emptyBlock {block : Text} (isBlock : EmptyBlock block) : Mute block := by
  obtain ⟨before, inside, rfl, blankBefore, blankInside⟩ := isBlock
  have braces : Mute ['\x7b'] ∧ Mute ['\x7d'] := by decide
  exact (mute_of_blank blankBefore).append
    (braces.1.append ((mute_of_blank blankInside).append braces.2))

theorem spares_rethrowFix (listed : (exception, keyword) ∈ exceptionKeywords)
    (reads : emptyHandler.Reads behind word rest marks) :
    Spares (constructorCall exception) word (rethrowFix.replace (.of behind word rest marks)) := by
  obtain ⟨parenthesis, brace, -⟩ := not_mem_constructorCall listed
  have keyword : Mute "catch".toList := by decide
  have stop {text block : Text} (isBlock : EmptyBlock block) (front back : Text)
      (split : constructorCall exception = front ++ back) (some : front ≠ []) :
      ¬ front <:+ text ++ block := by
    obtain ⟨before, inside, rfl, -⟩ := isBlock
    have shape : text ++ (before ++ '\x7b' :: (inside ++ ['\x7d'])) =
        (text ++ (before ++ '\x7b' :: inside)) ++ ['\x7d'] := by simp
    rw [shape]
    exact not_suffix_of_last brace front back split some
  change Spares _ word (rethrow _)
  rcases shape_of_reads_emptyHandler reads with
    ⟨gap, binding, name, block, rfl, blank, isBinding, isBlock, parameter, bound⟩ |
      ⟨gap, block, rfl, blank, isBlock, -⟩
  · obtain ⟨inner, rfl, -, -, same⟩ := rethrow_of_binding parameter bound isBinding
    refine ⟨(foreign_of_listed listed).2.1.start, fun front back split some _ => ?_, fun here => ?_⟩
    · rw [← List.append_assoc, ← List.append_assoc]
      exact stop isBlock front back split some
    · have shape : "catch".toList ++ (gap ++ ('(' :: (inner ++ [')']) ++ block)) =
          ("catch".toList ++ gap ++ '(' :: inner) ++ ')' :: block := by simp
      rw [shape] at here
      rw [same]
      rcases infix_of_append_cons parenthesis here with here | here
      · refine (infix_of_parenthesis listed (keyword.append (mute_of_blank blank)) here).trans ?_
        rw [rethrowing_eq]
        refine ⟨"catch ".toList, ')' :: (" \x7b throw ".toList ++ (name ++ "; \x7d".toList)), ?_⟩
        simp only [List.append_assoc, List.cons_append, List.nil_append]
      · exact absurd here (not_infix_of_mute listed (mute_of_emptyBlock isBlock))
  · refine ⟨(foreign_of_listed listed).2.1.start, fun front back split some _ => ?_, fun here => ?_⟩
    · rw [← List.append_assoc]
      exact stop isBlock front back split some
    · exact absurd here (not_infix_of_mute listed
        (keyword.append ((mute_of_blank blank).append (mute_of_emptyBlock isBlock))))

theorem not_mem_of_dropDebuggerFix {line new : Text}
    (changed : dropDebuggerFix.applyLine? line = some new) : '(' ∉ line := by
  have occurs : debuggerLine.occurs line = true := by
    by_contra never
    simp [FixPattern.applyLine?, dropDebuggerFix, never] at changed
  obtain ⟨gap, _, rfl, word, rest, marks, rfl, reads⟩ := (occurs_iff (by decide)).mp occurs
  have outside {text : Text} (blank : Blank text) : '(' ∉ text := fun here =>
    absurd (blank _ here) (by decide)
  simp only [debuggerLine, reads_append_textEnd, reads_append_blanks, reads_append_opt,
    reads_append_lit, reads_textStart] at reads
  obtain ⟨rfl, _, last, rfl, blankLast, reads⟩ := reads
  rcases reads with
    ⟨_, rfl, _, middle, rfl, blankMiddle, _, rfl, _, first, rfl, blankFirst, rfl, -, none⟩ |
    ⟨_, middle, rfl, blankMiddle, _, rfl, _, first, rfl, blankFirst, rfl, -, none⟩ <;>
  · obtain rfl : gap = [] := by simpa using none
    simp [outside blankFirst, outside blankMiddle, outside blankLast]

/-! ## Lines -/

/-- No built-in fix breaks a call that stands on the line. -/
theorem infix_of_applyLine? (listed : (exception, keyword) ∈ exceptionKeywords) {fix : FixPattern}
    (standard : fix ∈ Registry.standard) {line new : Text}
    (changed : fix.applyLine? line = some new) (here : constructorCall exception <:+: line) :
    constructorCall exception <:+: new := by
  have keeps (isPlain : fix.matcher.pattern.plain = true)
      (takes : fix.matcher.pattern.nullable = false)
      (each : ∀ {behind word rest marks}, fix.matcher.pattern.Reads behind word rest marks →
        Spares (constructorCall exception) word (fix.replace (.of behind word rest marks))) :
      constructorCall exception <:+: new := by
    obtain ⟨rfl, -⟩ := applyLine?_eq_some changed
    exact infix_splice each (cuts_allMatches isPlain takes line) here
  cases builtIn_of_mem_standard standard with
  | exception pair =>
      obtain ⟨isPlain, takes⟩ := plain_errorWithKeyword pair
      exact keeps isPlain takes (spares_exceptionFix listed pair)
  | rethrow => exact keeps (by decide) (by decide) (spares_rethrowFix listed)
  | wrapLiteral => exact keeps (by decide) (by decide) (spares_wrapLiteralFix listed)
  | upgradeUrl => exact keeps (by decide) (by decide) (spares_upgradeUrlFix listed)
  | dropDebugger =>
      refine absurd (here.subset ?_) (not_mem_of_dropDebuggerFix changed)
      simp [constructorCall]
  | transactionClient => exact keeps (by decide) (by decide) (spares_transactionClientFix listed)

theorem infix_of_exceptionFix (listed : (exception, keyword) ∈ exceptionKeywords)
    {line new : Text} (changed : (exceptionFix exception keyword).applyLine? line = some new) :
    constructorCall exception <:+: new := by
  obtain ⟨rfl, differs⟩ := applyLine?_eq_some changed
  obtain ⟨isPlain, takes⟩ := plain_errorWithKeyword listed
  have cuts := cuts_allMatches isPlain takes line
  change constructorCall exception <:+:
    splice _ (.between [] line) ((errorWithKeyword keyword).allMatches line)
  change splice _ (.between [] line) ((errorWithKeyword keyword).allMatches line) ≠ line at differs
  generalize (errorWithKeyword keyword).allMatches line = found at cuts differs ⊢
  cases cuts with
  | rest => exact absurd rfl differs
  | found gap word rest quiet here reads later =>
      rw [splice_of, replace_exceptionFix listed]
      refine List.infix_append_of_infix_right (List.infix_append_of_infix_left ?_)
      generalize Match.group _ 1 = message
      exact ⟨"throw new".toList, message ++ [')'], by simp [constructorCall]⟩

/-- The record of a fix that throws the exception. -/
def AppliedFix.Introduces (record : AppliedFix) (exception : String) : Prop :=
  record.description = "Replace generic Error with " ++ exception

instance (record : AppliedFix) (exception : String) : Decidable (record.Introduces exception) :=
  inferInstanceAs (Decidable (_ = _))

theorem exceptionFix_of_introduces {fix : FixPattern} (standard : fix ∈ Registry.standard)
    (listed : (exception, keyword) ∈ exceptionKeywords) {line : Nat} {before after : Text}
    (introduces : (fix.record line before after).Introduces exception) :
    ∃ words, (exception, words) ∈ exceptionKeywords ∧ fix = exceptionFix exception words := by
  change fix.description = _ at introduces
  cases builtIn_of_mem_standard standard with
  | @exception other words pair =>
      obtain rfl : other = exception := by
        have same := congrArg String.toList introduces
        simp only [exceptionFix, String.toList_append, List.append_cancel_left_eq] at same
        exact String.toList_inj.mp same
      exact ⟨words, pair, rfl⟩
  | rethrow | wrapLiteral | upgradeUrl | dropDebugger | transactionClient =>
      rcases name_of_listed listed with rfl | rfl | rfl | rfl <;>
        exact absurd introduces (by decide)

/-- Imports are asked for exceptions only, for all that some record introduces, and each of them is
called on some line. -/
structure Progress.InUse (progress : Progress) : Prop where
  exceptions : ∀ needed ∈ progress.needed, ∃ exception keyword,
    (exception, keyword) ∈ exceptionKeywords ∧ needed = ⟨exception, "@nestjs/common"⟩
  asked : ∀ record ∈ progress.fixes, ∀ {exception keyword},
    (exception, keyword) ∈ exceptionKeywords → record.Introduces exception →
      ⟨exception, "@nestjs/common"⟩ ∈ progress.needed
  called : ∀ needed ∈ progress.needed, ∃ line ∈ progress.lines,
    constructorCall needed.symbol <:+: line

theorem mem_of_infix_set {lines : List Text} {index : Nat} {line new : Text}
    (here : lines[index]? = some line) (keeps : needle <:+: line → needle <:+: new)
    (holds : ∃ line ∈ lines, needle <:+: line) :
    ∃ line ∈ lines.set index new, needle <:+: line := by
  obtain ⟨other, mem, inside⟩ := holds
  obtain ⟨place, there⟩ := List.mem_iff_getElem?.mp mem
  by_cases same : index = place
  · subst same
    obtain rfl := Option.some.inj (there.symm.trans here)
    exact ⟨new, List.mem_set (List.getElem?_eq_some_iff.mp here).1 new, keeps inside⟩
  · exact ⟨other, List.mem_iff_getElem?.mpr ⟨place, by rwa [List.getElem?_set_ne same]⟩, inside⟩

theorem exceptionFix_of_prerequisite {fix : FixPattern} (standard : fix ∈ Registry.standard)
    {needed : Prerequisite} (requires : fix.prerequisite = some needed) :
    ∃ exception keyword, (exception, keyword) ∈ exceptionKeywords ∧
      fix = exceptionFix exception keyword ∧ needed = ⟨exception, "@nestjs/common"⟩ := by
  cases builtIn_of_mem_standard standard with
  | @exception exception keyword pair =>
      exact ⟨exception, keyword, pair, rfl, (Option.some.inj requires).symm⟩
  | rethrow | wrapLiteral | upgradeUrl | dropDebugger | transactionClient => cases requires

theorem Progress.InUse.attempt {progress : Progress} (inUse : progress.InUse) {fix : FixPattern}
    (standard : fix ∈ Registry.standard) (line : Nat) : (progress.attempt fix line).InUse := by
  rcases progress.attempt_cases fix line with same | ⟨before, after, -, here, changed, moved⟩
  · rwa [same]
  have inside : line - 1 < progress.lines.length := (List.getElem?_eq_some_iff.mp here).1
  have asks {needed : Prerequisite} : needed ∈ (fix.prerequisite.map fun needed =>
      needed.insert progress.needed).getD progress.needed ↔
        fix.prerequisite = some needed ∨ needed ∈ progress.needed := by
    cases fix.prerequisite with
    | none => simp
    | some first => simp [Prerequisite.mem_insert, eq_comm]
  rw [moved]
  constructor
  · intro needed wanted
    rcases asks.mp wanted with requires | wanted
    · obtain ⟨exception, keyword, pair, -, same⟩ := exceptionFix_of_prerequisite standard requires
      exact ⟨exception, keyword, pair, same⟩
    · exact inUse.exceptions needed wanted
  · intro record made exception keyword listed introduces
    rcases List.mem_append.mp made with made | made
    · exact asks.mpr (.inr (inUse.asked record made listed introduces))
    · obtain rfl := List.mem_singleton.mp made
      obtain ⟨words, pair, rfl⟩ := exceptionFix_of_introduces standard listed introduces
      exact asks.mpr (.inl rfl)
  · intro needed wanted
    rcases asks.mp wanted with requires | wanted
    · obtain ⟨exception, keyword, pair, rfl, rfl⟩ := exceptionFix_of_prerequisite standard requires
      exact ⟨after, List.mem_set inside after, infix_of_exceptionFix pair changed⟩
    · obtain ⟨exception, keyword, pair, rfl⟩ := inUse.exceptions needed wanted
      exact mem_of_infix_set here (infix_of_applyLine? pair standard changed)
        (inUse.called _ wanted)

theorem inUse_patternPhase (options : CorrectionOptions) (content : Text) (places : List Place) :
    (patternPhase .standard options content places).InUse := by
  apply patternPhase_induction
  · exact ⟨by simp, by simp, by simp⟩
  · intro progress fix line tried inUse
    exact inUse.attempt (mem_attempts.mp tried).1 line

end Compliance
