import Compliance.Proofs.Line.Blocks
import Compliance.Proofs.Line.Calls
import Compliance.Proofs.Pattern.Longer
import Compliance.Rule.Catalog

/-!
# Rules and the window ahead

Five rules fire where something is missing from the lines ahead: an option of a call, or the
handler of a promise.  The more lines they see, the more they find there, so what they report with
a larger window they report with a smaller one too.  Two rules judge the body of a block; once it
is closed within the window, they give the same answer with any larger one.
-/

namespace Compliance

open Pattern

namespace Pattern

def isWordEdge : Edge → Bool
  | .word _ => true
  | _ => false

/-- The second text is the first one, or goes on behind it with no word character. -/
def GoesOn (first second : Text) : Prop :=
  first = second ∨ ∃ c more, isWord c = false ∧ second = first ++ c :: more

theorem GoesOn.append {first second : Text} (goesOn : GoesOn first second) (word : Text) :
    GoesOn (word ++ first) (word ++ second) := by
  rcases goesOn with rfl | ⟨c, more, other, rfl⟩
  · exact .inl rfl
  · exact .inr ⟨c, more, other, (List.append_assoc ..).symm⟩

theorem GoesOn.any_eq {first second : Text} (goesOn : GoesOn first second) :
    first.head?.any isWord = second.head?.any isWord := by
  rcases goesOn with rfl | ⟨c, more, other, rfl⟩
  · rfl
  · cases first with
    | nil => simp [other]
    | cons d first => rfl

theorem blurs_goesOn : Blurs isWordEdge GoesOn where
  append := GoesOn.append
  holds_eq := by
    intro condition behind before rest after known back front
    cases condition with
    | word kind => rw [Edge.holds, Edge.holds, back.any_eq, front.any_eq]
    | _ => cases known

theorem occurs_append {pattern : Pattern} (isPlain : pattern.plain = true)
    (edges : pattern.edgesIn isWordEdge = true) {text : Text} {c : Char} (other : isWord c = false)
    (more : Text) (occurs : pattern.occurs text = true) :
    pattern.occurs (text ++ c :: more) = true := by
  rw [occurs_iff isPlain] at occurs ⊢
  obtain ⟨gap, later, rfl, word, rest, marks, rfl, reads⟩ := occurs
  have front : GoesOn rest (rest ++ c :: more) := .inr ⟨c, more, other, rfl⟩
  obtain ⟨others, reads'⟩ := reads.moved_of blurs_goesOn edges (.inl rfl) front
  exact ⟨gap, word ++ (rest ++ c :: more), by simp, word, rest ++ c :: more, others, rfl, reads'⟩

end Pattern

def LineContext.seeing (context : LineContext) (following : Nat) : LineContext :=
  { context with window := { context.window with following := following } }

variable {context : LineContext} {fewer more : Nat} {finding : Finding}

theorem exists_followingLines_append (context : LineContext) (le : fewer ≤ more) :
    ∃ rest, (context.seeing more).followingLines =
      (context.seeing fewer).followingLines ++ rest := by
  let ahead := context.lines.drop (context.index + 1)
  have cut := List.take_append_drop fewer (ahead.take more)
  rw [List.take_take, Nat.min_eq_left le] at cut
  exact ⟨(ahead.take more).drop fewer, cut.symm⟩

theorem exists_callText_append (context : LineContext) (le : fewer ≤ more) (line : Text) :
    ∃ rest, callText line (context.seeing more).followingLines =
      callText line (context.seeing fewer).followingLines ++ Text.below rest := by
  obtain ⟨lines, shape⟩ := exists_followingLines_append context le
  rw [shape]
  exact callText_append line _ lines

theorem occurs_callText {option : Pattern} (isPlain : option.plain = true)
    (edges : option.edgesIn isWordEdge = true) (le : fewer ≤ more) {line : Text}
    (occurs : option.occurs (callText line (context.seeing fewer).followingLines) = true) :
    option.occurs (callText line (context.seeing more).followingLines) = true := by
  obtain ⟨rest, shape⟩ := exists_callText_append context le line
  rw [shape]
  cases rest with
  | nil => simpa [Text.below] using occurs
  | cons next rest => exact occurs_append isPlain edges (by decide) _ occurs

theorem reported_with_fewer {option : Pattern} (isPlain : option.plain = true)
    (edges : option.edgesIn isWordEdge = true) (le : fewer ≤ more) {line : Text} {passed : Bool}
    {found : Option Finding}
    (reported : (if passed then none
      else if option.occurs (callText line (context.seeing more).followingLines) then none
      else found) = some finding) :
    (if passed then none
      else if option.occurs (callText line (context.seeing fewer).followingLines) then none
      else found) = some finding := by
  rw [Option.ite_none_left_eq_some, Option.ite_none_left_eq_some] at reported ⊢
  obtain ⟨looked, missing, same⟩ := reported
  exact ⟨looked, fun occurs => missing (occurs_callText isPlain edges le occurs), same⟩

theorem blockBody_with_more {opening : Text} (le : fewer ≤ more)
    (closed : ClosedWithin opening (context.seeing fewer).followingLines) :
    blockBody opening (context.seeing more).followingLines =
      blockBody opening (context.seeing fewer).followingLines := by
  obtain ⟨rest, shape⟩ := exists_followingLines_append context le
  rw [shape]
  exact blockBody_append_of_closedWithin closed rest

theorem checkLogOnlyCatch_with_more (le : fewer ≤ more)
    (closed : ∀ found, catchOpen.find? context.line = some found →
      ClosedWithin found.start.ahead (context.seeing fewer).followingLines) :
    checkLogOnlyCatch (context.seeing more) = checkLogOnlyCatch (context.seeing fewer) := by
  change (catchOpen.find? context.line).bind _ = (catchOpen.find? context.line).bind _
  cases head : catchOpen.find? context.line with
  | none => rfl
  | some found => simp only [Option.bind_some, blockBody_with_more le (closed found head)]

theorem checkAwaitInLoop_with_more (le : fewer ≤ more)
    (closed : ClosedWithin context.line (context.seeing fewer).followingLines) :
    checkAwaitInLoop (context.seeing more) = checkAwaitInLoop (context.seeing fewer) := by
  have line (following : Nat) : (context.seeing following).line = context.line := rfl
  simp only [checkAwaitInLoop, line, blockBody_with_more le closed]

/-! ## The rules -/

theorem checkUnboundedQuery_with_fewer (le : fewer ≤ more)
    (reported : checkUnboundedQuery (context.seeing more) = some finding) :
    checkUnboundedQuery (context.seeing fewer) = some finding := by
  unfold checkUnboundedQuery at reported ⊢
  exact reported_with_fewer (by decide) (by decide) le reported

theorem checkHttpTimeout_with_fewer (le : fewer ≤ more)
    (reported : checkHttpTimeout (context.seeing more) = some finding) :
    checkHttpTimeout (context.seeing fewer) = some finding := by
  unfold checkHttpTimeout at reported ⊢
  exact reported_with_fewer (by decide) (by decide) le reported

theorem checkRawQuery_with_fewer (le : fewer ≤ more)
    (reported : checkRawQuery (context.seeing more) = some finding) :
    checkRawQuery (context.seeing fewer) = some finding := by
  unfold checkRawQuery at reported ⊢
  exact reported_with_fewer (by decide) (by decide) le reported

theorem checkModelQuery_with_fewer (le : fewer ≤ more)
    (reported : checkModelQuery (context.seeing more) = some finding) :
    checkModelQuery (context.seeing fewer) = some finding := by
  simp only [checkModelQuery, Option.ite_none_left_eq_some, Option.bind_eq_some_iff] at reported ⊢
  obtain ⟨looked, found, query, owned, missing, same⟩ := reported
  exact ⟨looked, found, query, owned,
    fun occurs => missing (occurs_callText (by decide) (by decide) le occurs), same⟩

theorem checkUnhandledPromise_with_fewer (le : fewer ≤ more)
    (reported : checkUnhandledPromise (context.seeing more) = some finding) :
    checkUnhandledPromise (context.seeing fewer) = some finding := by
  obtain ⟨rest, shape⟩ := exists_followingLines_append context le
  simp only [checkUnhandledPromise, Option.ite_none_left_eq_some] at reported ⊢
  obtain ⟨looked, dropped, unhandled, same⟩ := reported
  refine ⟨looked, dropped, fun handled => unhandled ?_, same⟩
  rw [shape, List.take_append, List.any_append, ← Bool.or_assoc, Bool.or_eq_true]
  exact .inl handled

def lookingAhead : List String := ["PERF003", "REL002", "TEN001", "TEN002", "ERR004"]

/-- The text of a call is its line with the shortest run of lines that balances it, so that more
lines ahead only make it longer; and what the five rules report with more lines ahead they report
with fewer. -/
theorem check_with_fewer_lines (context : LineContext) (le : fewer ≤ more) :
    (∀ line following, ∃ count, IsLeast (callEnds line following) count ∧
      callText line following = Text.unpieces (line :: following.take count)) ∧
    (∀ line, callText line (context.seeing fewer).followingLines <+:
      callText line (context.seeing more).followingLines) ∧
    ∀ id ∈ lookingAhead, ∃ rule, Catalog.standard.get? id = some rule ∧
      ∀ finding, rule.check (context.seeing more) = .ok (some finding) →
        rule.check (context.seeing fewer) = .ok (some finding) := by
  refine ⟨callText_eq, fun line => ?_, ?_⟩
  · obtain ⟨rest, shape⟩ := exists_callText_append context le line
    exact ⟨_, shape.symm⟩
  · have total {find : LineContext → Option Finding}
        (reports : ∀ finding, find (context.seeing more) = some finding →
          find (context.seeing fewer) = some finding) (finding : Finding)
        (reported : Check.total find (context.seeing more) = .ok (some finding)) :
        Check.total find (context.seeing fewer) = .ok (some finding) :=
      congrArg Except.ok (reports finding (Except.ok.inj reported))
    simp only [lookingAhead, List.forall_mem_cons]
    refine ⟨⟨_, rfl, ?_⟩, ⟨_, rfl, ?_⟩, ⟨_, rfl, ?_⟩, ⟨_, rfl, ?_⟩, ⟨_, rfl, ?_⟩, nofun⟩
    · exact total fun finding => checkUnboundedQuery_with_fewer le
    · exact total fun finding => checkHttpTimeout_with_fewer le
    · exact total fun finding => checkModelQuery_with_fewer le
    · exact total fun finding => checkRawQuery_with_fewer le
    · exact total fun finding => checkUnhandledPromise_with_fewer le

def limitedQuery : LineContext where
  lines := ["prisma.order.findMany(\x7b", "  where: \x7b tenantId \x7d,", "  take: 5,",
    "\x7d);"].map String.toList
  index := 0
  window := {}
  filename := "orders.ts"

theorem check_with_fewer_lines_of_limitedQuery :
    ∃ rule finding, Catalog.standard.get? "PERF003" = some rule ∧
      rule.check (limitedQuery.seeing 0) = .ok (some finding) ∧
      rule.check (limitedQuery.seeing 1) = .ok (some finding) ∧
      rule.check (limitedQuery.seeing 2) = .ok none := by
  obtain ⟨-, -, rules⟩ := check_with_fewer_lines limitedQuery (show 0 ≤ 1 by decide)
  obtain ⟨rule, found, fires⟩ := rules "PERF003" (by decide)
  have check : some rule.check = some (.total checkUnboundedQuery) :=
    (congrArg (·.map Rule.check) found).symm
  have check : rule.check = .total checkUnboundedQuery := Option.some.inj check
  have one : rule.check (limitedQuery.seeing 1) =
      .ok (some ⟨"findMany without pagination", some "Add take/skip or cursor pagination"⟩) := by
    rw [check]
    decide +kernel
  have two : rule.check (limitedQuery.seeing 2) = .ok none := by
    rw [check]
    decide +kernel
  exact ⟨rule, _, found, fires _ one, one, two⟩

end Compliance
