import Compliance.Proofs.Fix.Replay
import Compliance.Proofs.Fix.ThrowLines
import Compliance.Proofs.Pattern.Alike

/-!
# The exception for a message

Which exception takes the place of a generic error: the first one a keyword of which occurs in the
message.  The fixes for generic errors are tried one after the other on the same line, and none
of them matches what one before it has written.
-/

namespace Compliance

open Pattern

variable {behind word rest : Text} {marks : List Mark} {exception other : String}
    {keyword : Pattern}

/-- What counts as a keyword does not depend on what stands around it, and it holds no quotes. -/
structure Keyword (keyword : Pattern) : Prop where
  isPlain : keyword.plain = true
  edgeless : keyword.edgesIn (fun _ => false) = true
  groupless : keyword.groupless = true
  unquoted : ∀ quote, quotes.has quote = true → keyword.avoids quote = true

theorem keyword_of_listed (listed : (exception, keyword) ∈ exceptionKeywords) :
    Keyword keyword := by
  have quoteless (single : keyword.avoids '\'' = true) (double : keyword.avoids '"' = true)
      (tick : keyword.avoids '\x60' = true) :
      ∀ quote, quotes.has quote = true → keyword.avoids quote = true := by
    intro quote isQuote
    rcases mem_quotes.mp isQuote with rfl | rfl | rfl
    · exact single
    · exact double
    · exact tick
  simp only [exceptionKeywords, List.mem_cons, Prod.mk.injEq, List.not_mem_nil, or_false] at listed
  rcases listed with ⟨-, rfl⟩ | ⟨-, rfl⟩ | ⟨-, rfl⟩ | ⟨-, rfl⟩ <;>
    exact ⟨by decide, by decide, by decide,
      quoteless (by decide +kernel) (by decide +kernel) (by decide +kernel)⟩

theorem Keyword.occurs_of_reads (isKeyword : Keyword keyword)
    (reads : keyword.Reads behind word rest marks) (early late : Text) :
    keyword.occurs (early ++ (word ++ late)) = true := by
  obtain ⟨others, reads⟩ := reads.anywhere isKeyword.edgeless (early.reverse ++ []) late
  exact (occurs_iff isKeyword.isPlain).mpr ⟨early, _, rfl, word, late, others, rfl, reads⟩

theorem Keyword.exists_reads (isKeyword : Keyword keyword) {text : Text}
    (occurs : keyword.occurs text = true) :
    ∃ early word late, text = early ++ (word ++ late) ∧
      ∀ behind rest, ∃ marks, keyword.Reads behind word rest marks := by
  obtain ⟨early, _, rfl, word, late, marks, rfl, reads⟩ := (occurs_iff isKeyword.isPlain).mp occurs
  exact ⟨early, word, late, rfl, reads.anywhere isKeyword.edgeless⟩

/-- A message in quotes, and what stands before and after on a line that throws it and throws
nothing else. -/
structure ThrownMessage where
  before : Text
  quote : Char
  message : Text
  after : Text
  isQuote : quotes.has quote = true
  unquoted : ∀ c ∈ message, quotes.has c = false
  fresh : Fresh before.reverse
  aloneBefore : ¬ "throw".toList <:+: before
  aloneMessage : ¬ "throw".toList <:+: message
  aloneAfter : ¬ "throw".toList <:+: after

namespace ThrownMessage

variable (thrown : ThrownMessage)

def arguments : Text :=
  '(' :: thrown.quote :: (thrown.message ++ thrown.quote :: ')' :: thrown.after)

def line (error : String) : Text :=
  thrown.before ++ ("throw new ".toList ++ (error.toList ++ thrown.arguments))

variable {thrown}

theorem lone (silent : ¬ "throw".toList <:+: " new ".toList ++ (other.toList ++ ['('])) :
    LoneThrow thrown.before (" new ".toList ++ (other.toList ++ thrown.arguments)) := by
  have closed : ¬ "throw".toList <:+: ')' :: thrown.after := fun here =>
    (@infix_of_append_cons _ [] _ _ (by decide) here).elim (by decide) thrown.aloneAfter
  have tail := not_infix_quoted thrown.isQuote silent thrown.aloneMessage closed
  exact ⟨thrown.aloneBefore, by simpa [arguments] using tail⟩

end ThrownMessage

theorem throws_errorWithKeyword (listed : (exception, keyword) ∈ exceptionKeywords) :
    Throws (errorWithKeyword keyword) where
  isPlain := (plain_errorWithKeyword listed).1
  takes := (plain_errorWithKeyword listed).2
  starts reads := by
    obtain ⟨_, _, _, _, _, rfl, ⟨_, _, _, rfl, -⟩, -⟩ := reads_errorWithKeyword.mp reads
    simp only [List.append_assoc]
    exact List.prefix_append _ _

theorem tail_of_errorHead {head more : Text} {c : Char} (isHead : ErrorHead head)
    (visible : isBlank c = false) (shape : "throw new ".toList ++ c :: more = head ++ rest) :
    c = 'E' ∧ ∃ gap, Blank gap ∧ more = "rror".toList ++ (gap ++ '(' :: rest) := by
  obtain ⟨first, second, third, rfl, ⟨-, blankFirst⟩, ⟨-, blankSecond⟩, blankThird⟩ := isHead
  have behindThrow : [' '] ++ 'n' :: ("ew ".toList ++ c :: more) = first ++ 'n' :: ("ew".toList ++
      (second ++ ("Error".toList ++ (third ++ '(' :: rest)))) :=
    @List.append_cancel_left _ "throw".toList _ _ (by simpa using shape)
  obtain ⟨-, -, behindNew⟩ := cut_of_blank (by decide) blankFirst (by decide)
      (by decide) behindThrow
  have error : [' '] ++ c :: more = second ++ 'E' :: ("rror".toList ++ (third ++ '(' :: rest)) :=
    @List.append_cancel_left _ "ew".toList _ _ (by simpa using behindNew)
  obtain ⟨-, rfl, rfl⟩ := cut_of_blank (by decide) blankSecond visible (by decide) error
  exact ⟨rfl, third, blankThird, rfl⟩

namespace ThrownMessage

variable {thrown : ThrownMessage}

theorem of_reads (isKeyword : Keyword keyword)
    (reads : (errorWithKeyword keyword).Reads behind word rest marks)
    (shape : "throw new ".toList ++ ("Error".toList ++ thrown.arguments) = word ++ rest) :
    keyword.occurs thrown.message = true ∧ rest = thrown.after ∧
      (Match.of behind word rest marks).group 1 =
        thrown.quote :: (thrown.message ++ [thrown.quote]) := by
  obtain ⟨head, before, _, gap, inner, rfl, isHead, -, blankBefore, held, blankGap, rfl⟩ :=
    reads_errorWithKeyword.mp reads
  obtain ⟨first, early, middle, late, last, rfl, isFirst, freeEarly, readsKeyword,
      freeLate, isLast⟩ :=
    reads_quotedMessage.mp held
  obtain rfl := readsKeyword.marks_eq_nil isKeyword.groupless
  have freeMiddle : ∀ c ∈ middle, quotes.has c = false := by
    intro c here
    by_contra quoted
    exact readsKeyword.not_mem (isKeyword.unquoted c (by simpa using quoted)) here
  have free : ∀ c ∈ early ++ (middle ++ late), quotes.has c = false :=
    List.forall_mem_append.mpr ⟨freeEarly, List.forall_mem_append.mpr ⟨freeMiddle, freeLate⟩⟩
  simp only [List.append_assoc] at shape
  obtain ⟨-, third, blankThird, tail⟩ := tail_of_errorHead isHead (c := 'E') (by decide) shape
  obtain ⟨-, -, inside⟩ := @cut_of_blank [] '(' _ _ _ _ (by decide) blankThird
      (by decide) (by decide) (List.append_cancel_left tail)
  obtain ⟨-, same, inside⟩ := @cut_of_blank [] thrown.quote _ _ _ _ (by decide) blankBefore
    (isBlank_of_quote thrown.isQuote) (isBlank_of_quote isFirst) (by simpa using inside)
  obtain ⟨message, same', closing⟩ := cut_unique thrown.unquoted free thrown.isQuote isLast
    (by simpa using inside)
  obtain ⟨-, -, after⟩ := @cut_of_blank [] ')' _ _ _ _ (by decide) blankGap (by decide) (by decide)
    closing
  refine ⟨message ▸ isKeyword.occurs_of_reads readsKeyword early late, after.symm, ?_⟩
  refine (group_oneGroup Nat.one_ne_zero).trans ?_
  rw [← same, ← same', message]
  simp

theorem readsAt_iff (isKeyword : Keyword keyword) :
    (errorWithKeyword keyword).ReadsAt thrown.before.reverse
        ("throw new ".toList ++ ("Error".toList ++ thrown.arguments)) ↔
      keyword.occurs thrown.message = true := by
  constructor
  · rintro ⟨word, rest, marks, shape, reads⟩
    exact (of_reads isKeyword reads shape).1
  · intro occurs
    obtain ⟨early, middle, late, message, anywhere⟩ := isKeyword.exists_reads occurs
    have free := thrown.unquoted
    rw [message] at free
    have head : ErrorHead "throw new Error(".toList :=
      ⟨[' '], [' '], [], rfl, ⟨by simp, by decide⟩, ⟨by simp, by decide⟩, by decide⟩
    obtain ⟨marks, held⟩ := anywhere (early.reverse ++ thrown.quote ::
      ([].reverse ++ ("throw new Error(".toList.reverse ++ thrown.before.reverse)))
      (late ++ thrown.quote :: ([] ++ ')' :: thrown.after))
    refine ⟨"throw new Error(".toList ++ ([] ++ (thrown.quote ::
        (early ++ (middle ++ (late ++ [thrown.quote]))) ++ ([] ++ [')']))), thrown.after, _,
      by simp [arguments, message], reads_errorWithKeyword.mpr ⟨_, [], _, [], marks, rfl, head,
        thrown.fresh, by decide, reads_quotedMessage.mpr ⟨thrown.quote, early, middle, late,
          thrown.quote, rfl, thrown.isQuote, fun c here => free c (by simp [here]), held,
          fun c here => free c (by simp [here]), thrown.isQuote⟩, by decide, rfl⟩⟩

/-! ## The fixes on a line -/

theorem silent_error : ¬ "throw".toList <:+: " new ".toList ++ ("Error".toList ++ ['(']) := by
  decide

theorem silent_exception (listed : (exception, keyword) ∈ exceptionKeywords) :
    ¬ "throw".toList <:+: " new ".toList ++ (exception.toList ++ ['(']) := by
  rcases name_of_listed listed with rfl | rfl | rfl | rfl <;> decide

theorem initial_of_exception (listed : (exception, keyword) ∈ exceptionKeywords) :
    ∃ c tail, exception.toList = c :: tail ∧ isBlank c = false ∧ c ≠ 'E' := by
  rcases name_of_listed listed with rfl | rfl | rfl | rfl <;>
    exact ⟨_, _, rfl, by decide, by decide⟩

/-- A fix for generic errors introduces its exception exactly if the message has its keyword. -/
theorem applyLine?_error (thrown : ThrownMessage)
    (listed : (exception, keyword) ∈ exceptionKeywords) :
    (exceptionFix exception keyword).applyLine? (thrown.line "Error") =
      if keyword.occurs thrown.message then some (thrown.line exception) else none := by
  have isKeyword := keyword_of_listed listed
  have throws : Throws (exceptionFix exception keyword).matcher.pattern :=
    throws_errorWithKeyword listed
  have lone := thrown.lone silent_error
  split
  · next occurs =>
      refine lone.applyLine?_eq_some throws ((readsAt_iff isKeyword).mpr occurs) ?_ ?_
      · intro word rest marks shape reads
        obtain ⟨-, rfl, group⟩ := of_reads isKeyword reads shape
        rw [replace_exceptionFix listed, group]
        simp [arguments]
      · intro same
        obtain ⟨c, tail, spelled, -, differs⟩ := initial_of_exception listed
        have named : exception.toList ++ thrown.arguments = "Error".toList ++ thrown.arguments :=
          @List.append_cancel_left _ "throw new ".toList _ _ same
        rw [spelled] at named
        exact differs (List.cons.inj named).1
  · next absent =>
      exact lone.applyLine?_eq_none throws fun reads => absent ((readsAt_iff isKeyword).mp reads)

theorem applyLine?_exception (thrown : ThrownMessage)
    (listed : (exception, keyword) ∈ exceptionKeywords) {written : String} {its : Pattern}
    (introduces : (written, its) ∈ exceptionKeywords) :
    (exceptionFix exception keyword).applyLine? (thrown.line written) = none := by
  have throws : Throws (exceptionFix exception keyword).matcher.pattern :=
    throws_errorWithKeyword listed
  refine (thrown.lone (silent_exception introduces)).applyLine?_eq_none throws ?_
  rintro ⟨word, rest, marks, shape, reads⟩
  obtain ⟨head, before, quoted, gap, inner, rfl, isHead, -⟩ := reads_errorWithKeyword.mp reads
  obtain ⟨c, tail, spelled, visible, differs⟩ := initial_of_exception introduces
  rw [spelled] at shape
  simp only [List.append_assoc] at shape
  exact differs (tail_of_errorHead isHead visible shape).1

end ThrownMessage

/-- The fixes that introduce the exceptions, tried one after the other on a line. -/
def Progress.introduce (progress : Progress) (pairs : List (String × Pattern)) (line : Nat) :
    Progress :=
  pairs.foldl (fun progress pair => progress.attempt (exceptionFix pair.1 pair.2) line) progress

theorem targetLines_single (ruleId other : String) (line : Nat) :
    targetLines [⟨ruleId, line⟩] other = if sameName ruleId other then [line] else [] := by
  cases same : sameName ruleId other with
  | false => simp [targetLines, same]
  | true => simp [targetLines, same, List.eraseDups_cons]

theorem patternPhase_genericError {options : CorrectionOptions}
    (allowed : options.allows "ERR001" = true) (content : Text) (line : Nat) :
    patternPhase Registry.standard options content [⟨"ERR001", line⟩] =
      Progress.introduce ⟨Text.pieces content, [], []⟩ exceptionKeywords line := by
  have introducing : ∀ fix ∈ exceptionKeywords.map fun pair => exceptionFix pair.1 pair.2,
      options.allows fix.ruleId = true := by
    intro fix listed
    obtain ⟨pair, -, rfl⟩ := List.mem_map.mp listed
    exact allowed
  have others : ∀ fix ∈ [rethrowFix, wrapLiteralFix, upgradeUrlFix, dropDebuggerFix,
      transactionClientFix], targetLines [⟨"ERR001", line⟩] fix.ruleId = [] := by
    intro fix listed
    rw [targetLines_single]
    simp only [List.mem_cons, List.not_mem_nil, or_false] at listed
    rcases listed with rfl | rfl | rfl | rfl | rfl <;> exact if_neg (by decide)
  have tried : attempts Registry.standard options [⟨"ERR001", line⟩] =
      exceptionKeywords.map fun pair => (exceptionFix pair.1 pair.2, line) := by
    have single : targetLines [⟨"ERR001", line⟩] "ERR001" = [line] := by
      rw [targetLines_single]
      exact if_pos (by decide)
    have none : ([rethrowFix, wrapLiteralFix, upgradeUrlFix, dropDebuggerFix,
        transactionClientFix].filter fun fix => options.allows fix.ruleId).flatMap (fun fix =>
          (targetLines [⟨"ERR001", line⟩] fix.ruleId).map fun line => (fix, line)) = [] := by
      rw [List.flatMap_eq_nil_iff]
      intro fix here
      rw [others fix (List.mem_filter.mp here).1]
      rfl
    rw [attempts, Registry.standard, List.filter_append, List.flatMap_append, none, List.append_nil,
      List.filter_eq_self.mpr introducing, List.flatMap_map, List.map_eq_flatMap]
    simp only [exceptionFix, single, List.map_cons, List.map_nil]
  rw [patternPhase, tried, List.foldl_map]
  rfl

variable {thrown : ThrownMessage} {lines : List Text} {number : Nat}
  {pairs : List (String × Pattern)}

theorem introduce_exception {written : String} {its : Pattern}
    (introduces : (written, its) ∈ exceptionKeywords)
    (listed : ∀ pair ∈ pairs, pair ∈ exceptionKeywords) {progress : Progress}
    (here : progress.lines[number]? = some (thrown.line written)) :
    progress.introduce pairs (number + 1) = progress := by
  induction pairs with
  | nil => rfl
  | cons pair pairs ih =>
      have untouched := thrown.applyLine?_exception (listed pair (by simp)) introduces
      have same : progress.attempt (exceptionFix pair.1 pair.2) (number + 1) = progress := by
        simp [Progress.attempt, here, untouched]
      rw [Progress.introduce, List.foldl_cons, same]
      exact ih fun other inside => listed other (by simp [inside])

theorem introduce_error (listed : ∀ pair ∈ pairs, pair ∈ exceptionKeywords)
    (here : lines[number]? = some (thrown.line "Error")) :
    Progress.introduce ⟨lines, [], []⟩ pairs (number + 1) =
      match pairs.find? fun pair => pair.2.occurs thrown.message with
      | none => ⟨lines, [], []⟩
      | some (exception, _) =>
          ⟨lines.set number (thrown.line exception),
            [⟨"ERR001", number + 1, thrown.line "Error", thrown.line exception,
              "Replace generic Error with " ++ exception⟩],
            [⟨exception, "@nestjs/common"⟩]⟩ := by
  induction pairs with
  | nil => rfl
  | cons pair pairs ih =>
      have introduces := listed pair (by simp)
      have changed := thrown.applyLine?_error introduces
      have rest : ∀ other ∈ pairs, other ∈ exceptionKeywords :=
        fun other inside => listed other (by simp [inside])
      rw [Progress.introduce, List.foldl_cons, List.find?_cons]
      cases occurs : pair.2.occurs thrown.message with
      | false =>
          have same : Progress.attempt ⟨lines, [], []⟩ (exceptionFix pair.1 pair.2) (number + 1) =
              ⟨lines, [], []⟩ := by
            simp [Progress.attempt, here, changed, occurs]
          rw [same]
          exact ih rest
      | true =>
          have moved : Progress.attempt ⟨lines, [], []⟩ (exceptionFix pair.1 pair.2) (number + 1) =
              ⟨lines.set number (thrown.line pair.1),
                [⟨"ERR001", number + 1, thrown.line "Error", thrown.line pair.1,
                  "Replace generic Error with " ++ pair.1⟩],
                [⟨pair.1, "@nestjs/common"⟩]⟩ := by
            rw [occurs, if_pos rfl] at changed
            simp only [Progress.attempt, Nat.add_eq_zero_iff, Nat.one_ne_zero, and_false, if_false,
              Nat.add_sub_cancel, here, changed]
            rfl
          have inside := (List.getElem?_eq_some_iff.mp here).1
          rw [moved]
          exact introduce_exception introduces rest (List.getElem?_set_self inside)

/-! ## The step -/

/-- One application of the standard registry to a reported generic error, the only one thrown on its
line, introduces the first exception whose keyword occurs in the message, before any import, and
nothing else; without such a keyword it changes nothing. -/
theorem applyFixes_genericError {options : CorrectionOptions}
    (allowed : options.allows "ERR001" = true)
    {content : Text} (here : (Text.pieces content)[number]? = some (thrown.line "Error")) :
    applyFixes Registry.standard options content [⟨"ERR001", number + 1⟩] =
      match exceptionKeywords.find? fun pair => pair.2.occurs thrown.message with
      | none => (content, [])
      | some (exception, _) =>
          let imports := importPhase [⟨exception, "@nestjs/common"⟩]
            (Text.unpieces ((Text.pieces content).set number (thrown.line exception)))
          (imports.1, ⟨"ERR001", number + 1, thrown.line "Error", thrown.line exception,
            "Replace generic Error with " ++ exception⟩ :: imports.2) := by
  have phase := patternPhase_genericError allowed content (number + 1)
  rw [introduce_error (fun pair => id) here] at phase
  rw [applyFixes, phase]
  cases exceptionKeywords.find? fun pair => pair.2.occurs thrown.message with
  | none => simp [importPhase, Text.unpieces_pieces]
  | some pair => rfl

def credentialsMessage : ThrownMessage where
  before := []
  quote := '\''
  message := "Invalid credentials".toList
  after := [';']
  isQuote := by decide
  unquoted := by
    have plain : "Invalid credentials".toList.all (!quotes.has ·) = true := by decide
    exact fun c here => by simpa using List.all_eq_true.mp plain c here
  fresh := rfl
  aloneBefore := by decide
  aloneMessage := by decide
  aloneAfter := by decide

theorem applyFixes_credentialsMessage :
    unauthorizedKeyword.occurs credentialsMessage.message = true ∧
      badRequestKeyword.occurs credentialsMessage.message = true ∧
      applyFixes Registry.standard {} (credentialsMessage.line "Error") [⟨"ERR001", 1⟩] =
        ("import \x7b UnauthorizedException \x7d from '@nestjs/common';\n".toList ++
            "throw new UnauthorizedException('Invalid credentials');".toList,
          [⟨"ERR001", 1, "throw new Error('Invalid credentials');".toList,
              "throw new UnauthorizedException('Invalid credentials');".toList,
              "Replace generic Error with UnauthorizedException"⟩,
            ⟨"PREREQ", 1, [],
              "import \x7b UnauthorizedException \x7d from '@nestjs/common';".toList,
              "Add missing import of UnauthorizedException from @nestjs/common"⟩]) := by
  have here : (Text.pieces (credentialsMessage.line "Error"))[0]? =
      some (credentialsMessage.line "Error") := by decide
  refine ⟨by decide +kernel, by decide +kernel, (applyFixes_genericError rfl here).trans ?_⟩
  decide +kernel

end Compliance
