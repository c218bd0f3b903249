import Compliance.Proofs.Fix.Shape

/-!
# What a fix gains

Every match of a built-in fix is replaced by a text that carries less, or it
stays as it is.  So a line that a fix changes loses load, and one that now needs
an import loses at least two.
-/

namespace Compliance

open Pattern

variable {behind word rest : Text} {marks : List Mark}

theorem replace_exceptionFix {exception : String} {keyword : Pattern}
    (listed : (exception, keyword) ∈ exceptionKeywords) (found : Match) :
    (exceptionFix exception keyword).replace found =
      "throw new ".toList ++ (exception.toList ++ ('(' :: (found.group 1 ++ [')']))) := by
  simp only [exceptionKeywords, List.mem_cons, Prod.mk.injEq, List.not_mem_nil, or_false] at listed
  rcases listed with ⟨rfl, rfl⟩ | ⟨rfl, rfl⟩ | ⟨rfl, rfl⟩ | ⟨rfl, rfl⟩ <;> rfl

theorem replace_wrapLiteralFix (found : Match) :
    wrapLiteralFix.replace found = "throw new Error(".toList ++ (found.group 1 ++ [')']) := rfl

theorem replace_dropDebuggerFix (found : Match) : dropDebuggerFix.replace found = [] := rfl

theorem replace_transactionClientFix (found : Match) :
    transactionClientFix.replace found =
      "tx.".toList ++ (found.group 1 ++ ('.' :: (found.group 2 ++ []))) := rfl

structure Improves (gain : Nat) (old new : Text) : Prop where
  lighter : Lighter gain (solid old) (solid new)
  oneLine : '\n' ∉ old → '\n' ∉ new

namespace Improves

variable {gain : Nat} {old middle new : Text}

theorem append (improves : Improves gain old new) (before after : Text) :
    Improves gain (before ++ (old ++ after)) (before ++ (new ++ after)) := by
  constructor
  · simp only [solid_append]
    exact improves.lighter.append _ _
  · intro fresh
    simp only [List.mem_append, not_or] at fresh ⊢
    exact ⟨fresh.1, improves.oneLine fresh.2.1, fresh.2.2⟩

theorem trans (first : Improves gain old middle) (second : Improves gain middle new) :
    Improves gain old new := by
  constructor
  · intro before after
    have := first.lighter.trans second.lighter before after
    omega
  · exact fun fresh => second.oneLine (first.oneLine fresh)

theorem lineLoad_le (improves : Improves (gain + 1) old new) :
    lineLoad new + (gain + 1) ≤ lineLoad old := by
  have lower := improves.lighter [] []
  simp only [List.nil_append, List.append_nil] at lower
  cases shape : solid old with
  | nil => simp [shape, seams] at lower
  | cons c rest =>
      rw [shape] at lower
      simp only [lineLoad, shape, List.isEmpty_cons, Bool.false_eq_true, if_false]
      split <;> omega

end Improves

theorem solid_errorHead {head : Text} (h : ErrorHead head) :
    solid head = "thrownewError(".toList := by
  obtain ⟨first, second, third, rfl, ⟨-, space⟩, ⟨-, gap⟩, blank⟩ := h
  simp only [solid_append, solid_eq_nil space, solid_eq_nil gap, solid_eq_nil blank]
  decide

theorem shape_of_reads_errorWithKeyword {keyword : Pattern} (noGroups : keyword.groupless = true)
    (reads : (errorWithKeyword keyword).Reads behind word rest marks) :
    ∃ head before quoted after, word = head ++ (before ++ (quoted ++ (after ++ [')']))) ∧
      ErrorHead head ∧ Blank before ∧ Blank after ∧
      (∃ first inside last, quoted = first :: (inside ++ [last]) ∧ quotes.has first = true ∧
        quotes.has last = true) ∧
      (Match.of behind word rest marks).group 1 = quoted := by
  obtain ⟨head, before, quoted, after, inner, rfl, isHead, -, blankBefore, held, blankAfter, rfl⟩ :=
    reads_errorWithKeyword.mp reads
  obtain ⟨first, early, middle, late, last, rfl, hasFirst, -, readsKeyword, -, hasLast⟩ :=
    reads_quotedMessage.mp held
  obtain rfl := readsKeyword.marks_eq_nil noGroups
  exact ⟨head, before, _, after, rfl, isHead, blankBefore, blankAfter,
    ⟨first, early ++ (middle ++ late), last, by simp, hasFirst, hasLast⟩,
    group_oneGroup Nat.one_ne_zero⟩

theorem inert_exception {exception : String} {keyword : Pattern}
    (listed : (exception, keyword) ∈ exceptionKeywords) :
    Inert exception.toList ∧ solid exception.toList = exception.toList ∧
      '\n' ∉ exception.toList ∧ keyword.groupless = true := by
  simp only [exceptionKeywords, List.mem_cons, Prod.mk.injEq, List.not_mem_nil, or_false] at listed
  rcases listed with ⟨rfl, rfl⟩ | ⟨rfl, rfl⟩ | ⟨rfl, rfl⟩ | ⟨rfl, rfl⟩ <;> decide

theorem plain_errorWithKeyword {exception : String} {keyword : Pattern}
    (listed : (exception, keyword) ∈ exceptionKeywords) :
    (errorWithKeyword keyword).plain = true ∧ (errorWithKeyword keyword).nullable = false := by
  simp only [exceptionKeywords, List.mem_cons, Prod.mk.injEq, List.not_mem_nil, or_false] at listed
  rcases listed with ⟨-, rfl⟩ | ⟨-, rfl⟩ | ⟨-, rfl⟩ | ⟨-, rfl⟩ <;> decide

theorem mem_quotes {c : Char} : quotes.has c = true ↔ c = '\'' ∨ c = '"' ∨ c = '`' := by
  simp [quotes, CharSet.anyOf, CharSet.ofText, CharSet.has]

/-! ## Lighter pieces -/

theorem lighter_error {exception : Text} (inert : Inert exception) :
    Lighter 2 "thrownewError(".toList ("thrownew".toList ++ (exception ++ ['('])) := by
  have last : ("thrownew".toList ++ (exception ++ ['('])).getLast? = some '(' := by
    rw [← List.append_assoc, List.getLast?_concat]
  apply lighter_of_inside
  · simp
  · exact joint_le_of_head rfl
  · exact joint_le_of_last last
  · rw [inert.seams_between]
    decide

theorem lighter_throw {quote : Char} (has : quotes.has quote = true) :
    Lighter 2 ("throw".toList ++ [quote]) ("thrownewError(".toList ++ [quote]) := by
  rcases mem_quotes.mp has with rfl | rfl | rfl <;>
    exact lighter_of_inside (by simp) (joint_le_of_head rfl) (joint_le_of_last rfl) (by decide)

theorem lighter_closing {quote : Char} (has : quotes.has quote = true) :
    Lighter 0 [quote] [quote, ')'] := by
  apply lighter_of_inside
  · simp
  · exact joint_le_of_head rfl
  · intro after
    rw [joint_eq_zero_of_last (by simp [opensSeam])]
    exact Nat.zero_le _
  · rcases mem_quotes.mp has with rfl | rfl | rfl <;> decide

theorem lighter_literal {first last : Char} (hasFirst : quotes.has first = true)
    (hasLast : quotes.has last = true) (body : Text) :
    Lighter 2 ("throw".toList ++ ([first] ++ (body ++ [last])))
      ("thrownewError(".toList ++ ([first] ++ (body ++ [last, ')']))) := by
  have opened := (lighter_throw hasFirst).append [] (body ++ [last])
  have closed := (lighter_closing hasLast).append ("thrownewError(".toList ++ ([first] ++ body)) []
  simp only [List.nil_append, List.append_nil, List.append_assoc] at opened closed
  exact opened.trans closed

theorem lighter_scheme : Lighter 1 "http://".toList "https://".toList :=
  lighter_of_inside (by simp) (joint_le_of_head rfl) (joint_le_of_last rfl) (by decide)

theorem lighter_client {head : Text} (isHead : ClientHead head) :
    Lighter 1 head "tx.".toList := by
  have start : ∀ before, joint before "tx.".toList = 0 := fun before =>
    joint_eq_zero_of_head (by decide)
  rcases isHead with rfl | rfl <;>
    exact lighter_of_inside (by simp) (fun before => start before ▸ Nat.zero_le _)
      (joint_le_of_last rfl) (by decide)

theorem lighter_block {name : Text} (silent : ∀ c ∈ name, closesSeam c = false) :
    Lighter 1 "\x7b\x7d".toList ("\x7bthrow".toList ++ (name ++ ";\x7d".toList)) := by
  have last : ("\x7bthrow".toList ++ (name ++ ";\x7d".toList)).getLast? = some '\x7d' := by
    have split : ";\x7d".toList = [';'] ++ ['\x7d'] := rfl
    rw [split, ← List.append_assoc, ← List.append_assoc, List.getLast?_concat]
  apply lighter_of_inside
  · simp
  · exact joint_le_of_head rfl
  · exact joint_le_of_last last
  · have quiet : ∀ c ∈ name ++ [';'], closesSeam c = false := by
      intro c here
      rcases List.mem_append.mp here with here | here
      · exact silent c here
      · obtain rfl := List.mem_singleton.mp here
        decide
    have split : "\x7bthrow".toList ++ (name ++ ";\x7d".toList) =
        ("\x7bthrow".toList ++ (name ++ [';'])) ++ ['\x7d'] := by simp
    have meets : joint ("\x7bthrow".toList ++ (name ++ [';'])) ['\x7d'] = 0 := by
      apply joint_eq_zero_of_last
      rw [← List.append_assoc, List.getLast?_concat]
      decide
    rw [split, seams_append, meets, seams_append_of_silent quiet]
    decide

theorem closesSeam_eq_false_of_name {c : Char} (h : nameChars.has c = true) :
    closesSeam c = false := by
  cases closes : closesSeam c with
  | false => rfl
  | true =>
      simp only [closesSeam, Bool.or_eq_true, mem_quotes, List.contains_eq_mem, List.mem_cons,
        List.not_mem_nil, or_false, decide_eq_true_eq] at closes
      rcases closes with (rfl | rfl | rfl) | rfl | rfl | rfl | rfl <;> revert h <;> decide

theorem improves_exceptionFix {exception : String} {keyword : Pattern}
    (listed : (exception, keyword) ∈ exceptionKeywords)
    (reads : (errorWithKeyword keyword).Reads behind word rest marks) :
    Improves 2 word
      ((exceptionFix exception keyword).replace (.of behind word rest marks)) := by
  obtain ⟨inert, isSolid, oneLine, noGroups⟩ := inert_exception listed
  obtain ⟨head, before, quoted, after, rfl, isHead, blankBefore, blankAfter, -, group⟩ :=
    shape_of_reads_errorWithKeyword noGroups reads
  rw [replace_exceptionFix listed, group]
  constructor
  · have new : solid ("throw new ".toList ++ (exception.toList ++ ('(' :: (quoted ++ [')'])))) =
        [] ++ (("thrownew".toList ++ (exception.toList ++ ['('])) ++ (solid quoted ++ [')'])) := by
      have start : solid "throw new ".toList = "thrownew".toList := by decide
      have tail : solid ('(' :: (quoted ++ [')'])) = '(' :: (solid quoted ++ [')']) :=
        solid_append ['('] (quoted ++ [')']) ▸ solid_append quoted [')'] ▸ rfl
      simp only [solid_append, start, tail, isSolid, List.append_assoc, List.nil_append,
        List.singleton_append]
    have old : solid (head ++ (before ++ (quoted ++ (after ++ [')'])))) =
        [] ++ ("thrownewError(".toList ++ (solid quoted ++ [')'])) := by
      simp only [solid_append, solid_errorHead isHead, solid_eq_nil blankBefore,
        solid_eq_nil blankAfter]
      rfl
    rw [new, old]
    exact (lighter_error inert).append _ _
  · intro fresh
    simp only [List.mem_append, List.mem_cons, not_or] at fresh ⊢
    exact ⟨by decide, oneLine, by decide, fresh.2.2.1, by decide⟩

theorem solid_quoted {literal : Text} (quoted : Quoted literal) :
    ∃ first body last, solid literal = [first] ++ (body ++ [last]) ∧
      quotes.has first = true ∧ quotes.has last = true := by
  have stays {c : Char} (h : quotes.has c = true) : solid [c] = [c] := by
    rcases mem_quotes.mp h with rfl | rfl | rfl <;> decide
  obtain ⟨first, body, last, rfl, hasFirst, -, hasLast⟩ := quoted
  refine ⟨first, solid body, last, ?_, hasFirst, hasLast⟩
  rw [← List.singleton_append, solid_append, solid_append, stays hasFirst, stays hasLast]

theorem improves_wrapLiteralFix (reads : thrownLiteral.Reads behind word rest marks) :
    Improves 2 word (wrapLiteralFix.replace (.of behind word rest marks)) := by
  obtain ⟨gap, literal, rfl, ⟨-, blank⟩, quoted, -, rfl⟩ := reads_thrownLiteral.mp reads
  rw [replace_wrapLiteralFix, Match.group, group?_oneGroup Nat.one_ne_zero, Option.getD_some]
  constructor
  · obtain ⟨first, body, last, shape, hasFirst, hasLast⟩ := solid_quoted quoted
    have old : solid ("throw".toList ++ (gap ++ literal)) =
        "throw".toList ++ ([first] ++ (body ++ [last])) := by
      rw [solid_append, solid_append, solid_eq_nil blank, shape]
      rfl
    have new : solid ("throw new Error(".toList ++ (literal ++ [')'])) =
        "thrownewError(".toList ++ ([first] ++ (body ++ [last, ')'])) := by
      rw [solid_append, solid_append, shape]
      simp only [List.append_assoc]
      rfl
    rw [old, new]
    exact lighter_literal hasFirst hasLast body
  · intro fresh
    simp only [List.mem_append, not_or] at fresh ⊢
    exact ⟨by decide, fresh.2.2, by decide⟩

theorem improves_upgradeUrlFix (reads : httpUrl.Reads behind word rest marks) :
    upgradeUrlFix.replace (.of behind word rest marks) = word ∨
      Improves 1 word (upgradeUrlFix.replace (.of behind word rest marks)) := by
  obtain ⟨host, rfl, -, rfl⟩ := reads_httpUrl.mp reads
  change upgradeUrl _ = _ ∨ Improves 1 _ (upgradeUrl _)
  rw [upgradeUrl, Match.group, group?_oneGroup Nat.one_ne_zero, Option.getD_some]
  split
  · exact .inl (Match.text_of ..)
  · right
    constructor
    · rw [solid_append, solid_append]
      exact lighter_scheme.append [] (solid host)
    · intro fresh
      simp only [List.mem_append, not_or] at fresh ⊢
      exact ⟨by decide, fresh.2⟩

theorem improves_transactionClientFix (reads : outerClientWrite.Reads behind word rest marks) :
    Improves 1 word (transactionClientFix.replace (.of behind word rest marks)) := by
  obtain ⟨head, table, verb, rfl, isHead, -, -, first, second⟩ :=
    shape_of_reads_outerClientWrite reads
  rw [replace_transactionClientFix, first, second, List.append_nil]
  constructor
  · have same : solid head = head := by
      rcases isHead with rfl | rfl <;> decide
    rw [solid_append head, solid_append "tx.".toList, same]
    exact (lighter_client isHead).append [] (solid (table ++ '.' :: verb))
  · intro fresh
    simp only [List.mem_append, not_or] at fresh ⊢
    exact ⟨by decide, fresh.2⟩

theorem solid_emptyBlock {block : Text} (isBlock : EmptyBlock block) :
    solid block = "\x7b\x7d".toList := by
  obtain ⟨before, inside, rfl, blankBefore, blankInside⟩ := isBlock
  have stays (c : Char) (h : isBlank c = false) (text : Text) :
      solid (c :: text) = c :: solid text := by
    simp [solid, h]
  rw [solid_append, solid_eq_nil blankBefore, stays _ (by decide), solid_append,
    solid_eq_nil blankInside]
  decide

theorem improves_rethrowFix (reads : emptyHandler.Reads behind word rest marks) :
    Improves 1 word (rethrowFix.replace (.of behind word rest marks)) := by
  change Improves 1 word (rethrow _)
  rcases shape_of_reads_emptyHandler reads with
    ⟨gap, binding, name, block, rfl, blank, isBinding, isBlock, first, second⟩ |
      ⟨gap, block, rfl, blank, isBlock, none⟩
  · obtain ⟨early, late, type, shape, -, isName, -⟩ := isBinding
    rw [rethrow, first, second]
    constructor
    · have old : solid ("catch".toList ++ (gap ++ (binding ++ block))) =
          ("catch".toList ++ solid binding) ++ ("\x7b\x7d".toList ++ []) := by
        rw [solid_append, solid_append, solid_append, solid_eq_nil blank, solid_emptyBlock isBlock]
        simp only [List.nil_append, List.append_assoc, List.append_nil]
        rfl
      have new : solid ("catch ".toList ++ Text.trim binding ++ " \x7b throw ".toList ++ name ++
          "; \x7d".toList) = ("catch".toList ++ solid binding) ++
            (("\x7bthrow".toList ++ (solid name ++ ";\x7d".toList)) ++ []) := by
        rw [solid_append, solid_append, solid_append, solid_append, solid_trim]
        simp only [List.append_assoc, List.append_nil]
        rfl
      have silent : ∀ c ∈ solid name, closesSeam c = false := fun c here =>
        closesSeam_eq_false_of_name (isName.2 c (List.mem_filter.mp here).1)
      rw [old, new]
      exact (lighter_block silent).append _ _
    · intro fresh
      have inBinding : '\n' ∉ binding := fun here => fresh (by simp [here])
      have inName : '\n' ∉ name := fun here => inBinding (by simp [shape, here])
      simp only [List.mem_append, not_or]
      exact ⟨⟨⟨⟨by decide, fun here => inBinding (mem_trim here)⟩, by decide⟩, inName⟩, by decide⟩
  · rw [rethrow, none]
    change Improves 1 _ "catch (error) \x7b throw error; \x7d".toList
    have old : solid ("catch".toList ++ (gap ++ block)) = "catch\x7b\x7d".toList := by
      rw [solid_append, solid_append, solid_eq_nil blank, solid_emptyBlock isBlock]
      decide
    constructor
    · rw [old]
      exact lighter_of_inside (by decide) (joint_le_of_head (by decide))
        (joint_le_of_last (by decide)) (by decide)
    · exact fun _ => by decide

/-! ## Lines -/

theorem improves_splice {pattern : Pattern} {replacement : Match → Text} {gain : Nat}
    (each : ∀ {behind word rest marks}, pattern.Reads behind word rest marks →
      replacement (.of behind word rest marks) = word ∨
        Improves gain word (replacement (.of behind word rest marks)))
    {behind ahead : Text} {found : List Match} (cuts : pattern.Cuts behind ahead found) :
    splice replacement (.between behind ahead) found = ahead ∨
      Improves gain ahead (splice replacement (.between behind ahead) found) := by
  induction cuts with
  | rest => exact .inl rfl
  | found gap word rest quiet here reads later ih =>
      rw [splice_of]
      rcases each reads with same | better
      · rw [same]
        rcases ih with done | better
        · exact .inl (by rw [done])
        · right
          simpa using better.append (gap ++ word) []
      · right
        have first := better.append gap rest
        rcases ih with done | more
        · rwa [done]
        · refine first.trans ?_
          simpa using more.append (gap ++ replacement _) []

theorem applyLine?_eq_some {fix : FixPattern} {line new : Text}
    (changed : fix.applyLine? line = some new) :
    new = fix.matcher.pattern.replaceAll fix.replace line ∧ new ≠ line := by
  simp only [FixPattern.applyLine?] at changed
  split at changed
  · split at changed
    · simp at changed
    · next differs =>
        obtain rfl := Option.some.inj changed
        exact ⟨rfl, differs⟩
  · simp at changed

theorem applyLine?_eq_ite {fix : FixPattern} (isPlain : fix.matcher.pattern.plain = true)
    (takes : fix.matcher.pattern.nullable = false) (line : Text) :
    fix.applyLine? line =
      if fix.matcher.pattern.replaceAll fix.replace line = line then none
      else some (fix.matcher.pattern.replaceAll fix.replace line) := by
  rw [FixPattern.applyLine?]
  split
  · rfl
  · next absent =>
      have none := allMatches_eq_nil isPlain takes (Bool.eq_false_iff.mpr absent)
      rw [replaceAll, none, if_pos]
      rfl

theorem improves_of_applyLine? {fix : FixPattern} {gain : Nat}
    (isPlain : fix.matcher.pattern.plain = true) (takes : fix.matcher.pattern.nullable = false)
    (each : ∀ {behind word rest marks}, fix.matcher.pattern.Reads behind word rest marks →
      fix.replace (.of behind word rest marks) = word ∨
        Improves gain word (fix.replace (.of behind word rest marks)))
    {line new : Text} (changed : fix.applyLine? line = some new) : Improves gain line new := by
  obtain ⟨rfl, differs⟩ := applyLine?_eq_some changed
  rcases improves_splice each (cuts_allMatches isPlain takes line) with same | improves
  · exact absurd same differs
  · exact improves

theorem replaceAll_debuggerLine {line : Text} (occurs : debuggerLine.occurs line = true) :
    debuggerLine.replaceAll dropDebuggerFix.replace line = [] ∧ solid line ≠ [] := by
  have isPlain : debuggerLine.plain = true := by decide
  have cuts := cuts_allMatches isPlain (by decide) line
  change splice _ (.between [] line) (debuggerLine.allMatches line) = [] ∧ _
  generalize debuggerLine.allMatches line = found at cuts
  cases cuts with
  | rest quiet => exact absurd ((occurs_iff isPlain).mp occurs) quiet
  | found gap word rest quiet here reads later =>
      obtain ⟨start, ended, holds⟩ := eq_nil_of_reads_debuggerLine reads
      obtain rfl : gap = [] := by simpa using start
      refine ⟨?_, by simp [holds]⟩
      cases later with
      | rest => rw [splice_of, replace_dropDebuggerFix, splice_nil, ended]; rfl
      | found gap' word' rest' quiet' here' reads' later' =>
          obtain ⟨start', -, -⟩ := eq_nil_of_reads_debuggerLine reads'
          have := reads.ne_nil (by decide)
          simp [this] at start'

theorem applyLine?_dropDebugger (line : Text) :
    dropDebuggerFix.applyLine? line = if debuggerLine.occurs line then some [] else none := by
  change (if debuggerLine.occurs line then
    (let changed := debuggerLine.replaceAll dropDebuggerFix.replace line
      if changed = line then none else some changed) else none) = _
  split
  · next occurs =>
      obtain ⟨whole, holds⟩ := replaceAll_debuggerLine occurs
      rw [whole]
      refine if_neg fun same => holds ?_
      rw [← same]
      rfl
  · rfl

theorem applyLine?_dropDebuggerFix {line new : Text}
    (changed : dropDebuggerFix.applyLine? line = some new) : new = [] ∧ solid line ≠ [] := by
  rw [applyLine?_dropDebugger] at changed
  split at changed
  · next occurs => exact ⟨(Option.some.inj changed).symm, (replaceAll_debuggerLine occurs).2⟩
  · cases changed

def gainOf (fix : FixPattern) : Nat := if fix.prerequisite.isSome then 2 else 1

theorem lineLoad_applyLine? {fix : FixPattern} (listed : fix ∈ Registry.standard)
    {line new : Text} (changed : fix.applyLine? line = some new) :
    lineLoad new + gainOf fix ≤ lineLoad line ∧ ('\n' ∉ line → '\n' ∉ new) := by
  have weigh {gain : Nat} (improves : Improves (gain + 1) line new)
      (enough : gainOf fix ≤ gain + 1) :
      lineLoad new + gainOf fix ≤ lineLoad line ∧ ('\n' ∉ line → '\n' ∉ new) :=
    ⟨by have := improves.lineLoad_le; omega, improves.oneLine⟩
  cases builtIn_of_mem_standard listed with
  | exception pair =>
      obtain ⟨isPlain, takes⟩ := plain_errorWithKeyword pair
      exact weigh (improves_of_applyLine? isPlain takes
        (fun reads => .inr (improves_exceptionFix pair reads)) changed) (Nat.le_refl _)
  | rethrow =>
      exact weigh (improves_of_applyLine? (by decide) (by decide)
        (fun reads => .inr (improves_rethrowFix reads)) changed) (Nat.le_refl _)
  | wrapLiteral =>
      exact weigh (improves_of_applyLine? (by decide) (by decide)
        (fun reads => .inr (improves_wrapLiteralFix reads)) changed) (by decide)
  | upgradeUrl =>
      exact weigh (improves_of_applyLine? (by decide) (by decide)
        improves_upgradeUrlFix changed) (Nat.le_refl _)
  | dropDebugger =>
      obtain ⟨rfl, holds⟩ := applyLine?_dropDebuggerFix changed
      exact ⟨lineLoad_pos holds, fun _ => by simp⟩
  | transactionClient =>
      exact weigh (improves_of_applyLine? (by decide) (by decide)
        (fun reads => .inr (improves_transactionClientFix reads)) changed) (Nat.le_refl _)

end Compliance
