import Compliance.Proofs.Fix.ThrownLiterals
import Compliance.Proofs.Fix.PlainUrls
import Compliance.Proofs.Fix.EmptyHandlers
import Compliance.Proofs.Fix.OuterClients

/-!
# What fixes leave behind

Five fixes are meant to remove the finding on the line that they change.  For each of
them, the finding stays exactly if something is left on the line that the rule sees
and the fix does not match.
-/

namespace Compliance

open Pattern

variable {behind word rest : Text} {marks : List Mark} {context : LineContext} {line new : Text}

def CodeStart (text : Text) : Prop :=
  ∃ c others, text = c :: others ∧ isBlank c = false ∧ c ≠ '/' ∧ c ≠ '*'

theorem isComment_append {gap text : Text} (code : CodeStart text) (rest : Text) :
    isComment (gap ++ (text ++ rest)) = isComment gap := by
  obtain ⟨c, others, rfl, visible, slash, star⟩ := code
  exact isComment_append_cons visible slash star

theorem isComment_of_applyLine? {fix : FixPattern} (isPlain : fix.matcher.pattern.plain = true)
    (takes : fix.matcher.pattern.nullable = false)
    (code : ∀ {behind word rest marks}, fix.matcher.pattern.Reads behind word rest marks →
      CodeStart word ∧ CodeStart (fix.replace (.of behind word rest marks)))
    (changed : fix.applyLine? line = some new) : isComment new = isComment line := by
  obtain ⟨rfl, differs⟩ := applyLine?_eq_some changed
  have cuts := cuts_allMatches isPlain takes line
  change isComment (splice _ (.between [] line) (fix.matcher.pattern.allMatches line)) = _
  generalize fix.matcher.pattern.allMatches line = found at cuts
  cases cuts with
  | rest => rfl
  | found gap word rest quiet here reads later =>
      obtain ⟨before, after⟩ := code reads
      rw [splice_of, isComment_append before, isComment_append after]

/-- A literal is thrown outside the matches of the fix, or inside a literal that it wraps. -/
def LiteralLeft (line : Text) : Prop :=
  (∃ gap ∈ thrownLiteral.gaps line, throwLiteral.occurs gap = true) ∨
    ∃ wrapped ∈ thrownLiteral.allMatches line, throwLiteral.occurs (wrapped.group 1) = true

/-- Before, between or behind the `://` of the upgraded URLs, a plain URL names a remote host. -/
def UrlLeft (line : Text) : Prop :=
  ∃ part ∈ upgradedParts [] (Cursor.start line) (httpUrl.allMatches line),
    ∃ host ∈ httpHosts part, isLocalHost host = false

/-- An empty handler stands outside the matches of the fix or in the parameter of one, or the line
leaves a handler open behind the last match. -/
def HandlerLeft (line : Text) (following : List Text) : Prop :=
  (∃ gap ∈ emptyHandler.gaps line, catchEmpty.occurs gap = true) ∨
    (∃ handler ∈ emptyHandler.allMatches line, ∃ binding,
      handler.group? 1 = some binding ∧ catchEmpty.occurs binding = true) ∨
    (∃ gap, (emptyHandler.gaps line).getLast? = some gap ∧ catchOpen.occurs gap = true) ∧
      closesAtOnce following = true

def WriteLeft (new : Text) : Prop :=
  ∃ write, writeTarget? new = some write ∧ outerClient.occurs write.client = true

/-- What is left for a rule when its fix turned the line of a context into `new`. -/
def Leftover (ruleId : String) (context : LineContext) (new : Text) : Prop :=
  match ruleId with
  | "ERR002" => HandlerLeft context.line context.followingLines
  | "ERR005" => LiteralLeft context.line
  | "SEC004" => UrlLeft context.line
  | "TXN002" => WriteLeft new
  | _ => False

theorem reports_iff {rule : Rule} {find : LineContext → Option Finding}
    (total : rule.check = .total find) : rule.Reports context ↔ (find context).isSome := by
  simp [Rule.Reports, total, Check.total, Option.isSome_iff_exists]

theorem checkThrowLiteral_isSome :
    (checkThrowLiteral context).isSome ↔
      isComment context.line = false ∧ throwLiteral.occurs context.line = true := by
  rw [checkThrowLiteral]
  cases isComment context.line <;> cases throwLiteral.occurs context.line <;> simp

theorem checkEmptyCatch_isSome :
    (checkEmptyCatch context).isSome ↔
      isComment context.line = false ∧ (catchEmpty.occurs context.line = true ∨
        catchOpen.occurs context.line = true ∧ closesAtOnce context.followingLines = true) := by
  simp only [checkEmptyCatch]
  cases isComment context.line <;> simp

theorem checkPlainHttp_isSome :
    (checkPlainHttp context).isSome ↔
      isComment context.line =
        false ∧ ∃ host ∈ httpHosts context.line, isLocalHost host = false := by
  rw [checkPlainHttp]
  cases isComment context.line <;> simp

theorem checkOuterClient_isSome :
    (checkOuterClient context).isSome ↔ WriteLeft context.line ∧
      (functionScope? context).map (fun scope => transactionMarker.occurs scope.startLine) =
        some true := by
  simp only [checkOuterClient, WriteLeft]
  cases writeTarget? context.line with
  | none => simp
  | some write =>
      cases outer : outerClient.occurs write.client with
      | false => simp [outer]
      | true =>
          cases functionScope? context with
          | none => simp [outer]
          | some scope =>
              cases marker : transactionMarker.occurs scope.startLine <;> simp [outer, marker]

theorem here_of_applyLine? {fix : FixPattern} (isPlain : fix.matcher.pattern.plain = true)
    (takes : fix.matcher.pattern.nullable = false)
    (changed : fix.applyLine? context.line = some new) :
    context.lines[context.index]? = some context.line := by
  have nonempty : context.line ≠ [] := by
    intro empty
    obtain ⟨same, differs⟩ := applyLine?_eq_some changed
    have cuts := cuts_allMatches isPlain takes context.line
    change new = splice _ (.between [] context.line)
      (fix.matcher.pattern.allMatches context.line) at same
    generalize fix.matcher.pattern.allMatches context.line = found at cuts same
    generalize context.line = line at *
    cases cuts with
    | rest => exact differs same
    | found gap word rest quiet here reads later => simp [reads.ne_nil takes] at empty
  cases found : context.lines[context.index]? with
  | none => simp [LineContext.line, found] at nonempty
  | some line => simp [LineContext.line, found]

theorem codeStart_cons {c : Char} (others : Text)
    (visible : (isBlank c = false ∧ c ≠ '/' ∧ c ≠ '*')) : CodeStart (c :: others) :=
  ⟨c, others, rfl, visible⟩

/-! ### Thrown literals -/

theorem reports_wrapLiteralFix (reported : (checkThrowLiteral context).isSome)
    (changed : wrapLiteralFix.applyLine? context.line = some new) :
    (checkThrowLiteral (context.withLine new)).isSome ↔ LiteralLeft context.line := by
  have here := here_of_applyLine? (by decide) (by decide) changed
  have comment : isComment new = isComment context.line := by
    refine isComment_of_applyLine? (by decide) (by decide) (fun reads => ?_) changed
    obtain ⟨gap, literal, rfl, -⟩ := reads_thrownLiteral.mp reads
    exact ⟨codeStart_cons _ (by decide), codeStart_cons _ (by decide)⟩
  rw [checkThrowLiteral_isSome] at reported ⊢
  rw [LineContext.line_withLine here, comment, occurs_of_wrapLiteralFix changed, LiteralLeft]
  exact and_iff_right reported.1

theorem reports_upgradeUrlFix (reported : (checkPlainHttp context).isSome)
    (changed : upgradeUrlFix.applyLine? context.line = some new) :
    (checkPlainHttp (context.withLine new)).isSome ↔ UrlLeft context.line := by
  have here := here_of_applyLine? (by decide) (by decide) changed
  have comment : isComment new = isComment context.line := by
    refine isComment_of_applyLine? (by decide) (by decide) (fun reads => ?_) changed
    obtain ⟨host, rfl, -, rfl⟩ := reads_httpUrl.mp reads
    refine ⟨codeStart_cons _ (by decide), ?_⟩
    change CodeStart (upgradeUrl _)
    rw [upgradeUrl, Match.text_of]
    split
    · exact codeStart_cons _ (by decide)
    · exact codeStart_cons _ (by decide)
  rw [checkPlainHttp_isSome] at reported ⊢
  rw [LineContext.line_withLine here, comment, httpHosts_of_upgradeUrlFix changed, UrlLeft]
  simp only [List.mem_flatMap, reported.1, true_and]
  constructor
  · rintro ⟨host, ⟨part, inside, here⟩, remote⟩
    exact ⟨part, inside, host, here, remote⟩
  · rintro ⟨part, inside, host, here, remote⟩
    exact ⟨host, ⟨part, inside, here⟩, remote⟩

theorem reports_rethrowFix (reported : (checkEmptyCatch context).isSome)
    (changed : rethrowFix.applyLine? context.line = some new) :
    (checkEmptyCatch (context.withLine new)).isSome ↔
      HandlerLeft context.line context.followingLines := by
  have here := here_of_applyLine? (by decide) (by decide) changed
  have comment : isComment new = isComment context.line := by
    refine isComment_of_applyLine? (by decide) (by decide) (fun reads => ?_) changed
    obtain ⟨inner, name, -, -, same, -⟩ := rethrow_of_reads reads
    change _ ∧ CodeStart (rethrow _)
    rw [same]
    refine ⟨?_, codeStart_cons _ (by decide)⟩
    rcases shape_of_reads_emptyHandler reads with ⟨_, _, _, _, rfl, -⟩ | ⟨_, _, rfl, -⟩
    · exact codeStart_cons _ (by decide)
    · exact codeStart_cons _ (by decide)
  obtain ⟨closed, opened⟩ := occurs_of_rethrowFix changed
  rw [checkEmptyCatch_isSome] at reported ⊢
  rw [LineContext.line_withLine here, LineContext.followingLines_withLine, comment, closed, opened,
    HandlerLeft, or_assoc]
  exact and_iff_right reported.1

theorem not_reports_dropDebuggerFix
    (changed : dropDebuggerFix.applyLine? context.line = some new) :
    ¬ (checkDebugger (context.withLine new)).isSome := by
  have here := here_of_applyLine? (by decide) (by decide) changed
  obtain ⟨rfl, -⟩ := applyLine?_dropDebuggerFix changed
  have none : debuggerLine.occurs [] = false := by decide
  simp [checkDebugger, LineContext.line_withLine here, none]

theorem reports_transactionClientFix (reported : (checkOuterClient context).isSome)
    (changed : transactionClientFix.applyLine? context.line = some new) :
    (checkOuterClient (context.withLine new)).isSome ↔ WriteLeft new := by
  have here := here_of_applyLine? (by decide) (by decide) changed
  rw [checkOuterClient_isSome] at reported ⊢
  rw [LineContext.line_withLine here,
    startLine_withLine here (view_of_transactionClientFix isFunctionStart_renamed changed)
      (view_of_transactionClientFix braceDelta_renamed changed)
      (view_of_transactionClientFix occurs_transactionMarker_renamed changed)]
  exact and_iff_left reported.2

/-- The rules whose fixes are meant to remove the finding on a line. -/
def wholeFixes : List String := ["ERR002", "ERR005", "SEC004", "MAINT004", "TXN002"]

theorem check_of_get? {ruleId : String} {rule : Rule} {find : LineContext → Option Finding}
    (listed : (Catalog.standard.get? ruleId).map (·.check) = some (.total find))
    (judges : Catalog.standard.get? ruleId = some rule) : rule.check = .total find := by
  rw [judges] at listed
  exact Option.some.inj listed

/-- A fix that is meant to remove a finding leaves it exactly where something is left over. -/
theorem reports_withLine_iff {fix : FixPattern} {rule : Rule} (listed : fix ∈ Registry.standard)
    (whole : fix.ruleId ∈ wholeFixes) (judges : Catalog.standard.get? fix.ruleId = some rule)
    (reported : rule.Reports context) (changed : fix.applyLine? context.line = some new) :
    rule.Reports (context.withLine new) ↔ Leftover fix.ruleId context new := by
  rcases List.mem_append.mp listed with listed | listed
  · obtain ⟨⟨exception, keyword⟩, -, rfl⟩ := List.mem_map.mp listed
    exact absurd whole (show "ERR001" ∉ wholeFixes by decide)
  · simp only [List.mem_cons, List.not_mem_nil, or_false] at listed
    rcases listed with rfl | rfl | rfl | rfl | rfl
    · rw [reports_iff (check_of_get? (by rfl) judges)] at reported ⊢
      exact reports_rethrowFix reported changed
    · rw [reports_iff (check_of_get? (by rfl) judges)] at reported ⊢
      exact reports_wrapLiteralFix reported changed
    · rw [reports_iff (check_of_get? (by rfl) judges)] at reported ⊢
      exact reports_upgradeUrlFix reported changed
    · rw [reports_iff (check_of_get? (by rfl) judges)]
      exact iff_of_false (not_reports_dropDebuggerFix changed) id
    · rw [reports_iff (check_of_get? (by rfl) judges)] at reported ⊢
      exact reports_transactionClientFix reported changed

def nestedThrow : LineContext := ⟨["throw 'please throw ';".toList], 0, {}, "svc.ts"⟩

theorem reports_withLine_of_nested_throw :
    ∃ rule, Catalog.standard.get? wrapLiteralFix.ruleId = some rule ∧ rule.Reports nestedThrow ∧
      wrapLiteralFix.applyLine? nestedThrow.line =
        some "throw new Error('please throw ');".toList ∧
      rule.Reports (nestedThrow.withLine "throw new Error('please throw ');".toList) := by
  obtain ⟨rule, judges⟩ := Option.isSome_iff_exists.mp
    (show (Catalog.standard.get? wrapLiteralFix.ruleId).isSome from rfl)
  have total : rule.check = .total checkThrowLiteral := check_of_get? (by rfl) judges
  have reported : rule.Reports nestedThrow := (reports_iff total).mpr (by decide +kernel)
  have changed : wrapLiteralFix.applyLine? nestedThrow.line =
      some "throw new Error('please throw ');".toList := by decide +kernel
  have left : LiteralLeft nestedThrow.line := by
    have inside : (thrownLiteral.allMatches nestedThrow.line).any
        (fun wrapped => throwLiteral.occurs (wrapped.group 1)) = true := by decide +kernel
    exact .inr (by simpa using inside)
  have listed : wrapLiteralFix ∈ Registry.standard := by simp [Registry.standard]
  have whole : wrapLiteralFix.ruleId ∈ wholeFixes := by decide
  exact ⟨rule, judges, reported, changed,
    (reports_withLine_iff listed whole judges reported changed).mpr left⟩

end Compliance
