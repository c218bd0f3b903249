import Compliance.Proofs.Pattern.Words
import Compliance.Proofs.Line.Enclosing
import Compliance.Fix.Registry

/-!
# What a fix keeps of a line

A fix keeps the stretches of a line outside its matches.  Here are these
stretches, the context in which one line is replaced, and what such a
replacement leaves as it was.
-/

namespace Compliance

def outside : Cursor → List Match → List Text
  | place, [] => [place.ahead]
  | place, found :: others => place.upTo found.start :: outside found.stop others

def Pattern.gaps (pattern : Pattern) (text : Text) : List Text :=
  outside (Cursor.start text) (pattern.allMatches text)

@[simp] theorem outside_nil (behind ahead : Text) : outside (.between behind ahead) [] = [ahead] :=
  rfl

@[simp] theorem outside_of (behind gap word rest : Text) (marks : List Mark)
    (others : List Match) :
    outside (.between behind (gap ++ (word ++ rest)))
        (.of (gap.reverse ++ behind) word rest marks :: others) =
      gap :: outside (.between (word.reverse ++ (gap.reverse ++ behind)) rest) others := by
  simp [outside, Match.of, Cursor.upTo, Cursor.between]

theorem outside_ne_nil (place : Cursor) (found : List Match) : outside place found ≠ [] := by
  cases found <;> simp [outside]

/-- The same place in the same file, where another text stands on the line. -/
def LineContext.withLine (context : LineContext) (line : Text) : LineContext :=
  { context with lines := context.lines.set context.index line }

theorem LineContext.line_withLine {context : LineContext} {before : Text}
    (here : context.lines[context.index]? = some before) (line : Text) :
    (context.withLine line).line = line := by
  have inside : context.index < context.lines.length := by
    rw [List.getElem?_eq_some_iff] at here
    exact here.1
  simp [LineContext.line, withLine, inside]

theorem LineContext.followingLines_withLine (context : LineContext) (line : Text) :
    (context.withLine line).followingLines = context.followingLines := by
  simp only [followingLines, withLine]
  rw [List.drop_set_of_lt (Nat.lt_succ_self context.index)]

def Rule.Reports (rule : Rule) (context : LineContext) : Prop :=
  ∃ finding, rule.check context = .ok (some finding)

theorem trimStart_append_cons {gap rest : Text} {c : Char} (visible : isBlank c = false) :
    Text.trimStart (gap ++ c :: rest) = Text.trimStart gap ++ c :: rest := by
  unfold Text.trimStart
  induction gap with
  | nil => simp [visible]
  | cons first gap ih =>
      cases blank : isBlank first with
      | true => simpa [blank] using ih
      | false => simp [blank]

theorem isComment_append_cons {gap rest : Text} {c : Char} (visible : isBlank c = false)
    (slash : c ≠ '/') (star : c ≠ '*') : isComment (gap ++ c :: rest) = isComment gap := by
  simp only [isComment, trimStart_append_cons visible, Text.beginsWith]
  cases Text.trimStart gap with
  | nil => simp [List.isPrefixOf, slash.symm, star.symm]
  | cons first others =>
      cases others with
      | nil => simp [List.isPrefixOf, slash.symm, star.symm]
      | cons second others => simp [List.isPrefixOf]

section Scope

variable {context : LineContext} {line new : Text}

theorem here_withLine (here : context.lines[context.index]? = some line) (new : Text) :
    (context.withLine new).lines[context.index]? = some new := by
  obtain ⟨inside, -⟩ := List.getElem?_eq_some_iff.mp here
  simp [LineContext.withLine, inside]

theorem enclosing?_withLine (here : context.lines[context.index]? = some line)
    {isStart : Text → Bool} (starts : isStart new = isStart line)
    (braces : braceDelta new = braceDelta line) :
    (context.withLine new).enclosing? isStart = context.enclosing? isStart := by
  have size : (context.withLine new).lines.length = context.lines.length := by
    simp [LineContext.withLine]
  have before : (context.withLine new).lines.take context.index =
      context.lines.take context.index := by
    simp [LineContext.withLine, List.take_set_of_le]
  simp only [LineContext.enclosing?, enclosingStart?, size]
  change Option.map _ (stepsBack _ _ (backward (context.withLine new).lines context.index
    context.window.scanLimit)) = _
  rw [backward_eq (here_withLine here new), backward_eq here, before, stepsBack, stepsBack, starts,
    braces]
  rfl

theorem headD_throughClosing (head : List Text) (depth : Int) {lines : List Text} {index : Nat}
    (here : lines[index]? = some line) (limit : Nat) :
    (head ++ throughClosing depth ((lines.drop index).take (limit + 1))).headD [] =
      head.headD line := by
  rw [drop_eq_cons here, List.take_succ_cons]
  cases head with
  | nil =>
      simp only [List.nil_append, throughClosing]
      split <;> rfl
  | cons first head => rfl

theorem startLine_withLine (here : context.lines[context.index]? = some line)
    (starts : isFunctionStart new = isFunctionStart line)
    (braces : braceDelta new = braceDelta line) {view : Text → Bool}
    (same : view new = view line) :
    (functionScope? (context.withLine new)).map (fun scope => view scope.startLine) =
      (functionScope? context).map fun scope => view scope.startLine := by
  have head (start : Nat) : (((context.withLine new).lines.drop start).take
      (context.index - start)) = (context.lines.drop start).take (context.index - start) := by
    rw [LineContext.withLine, List.drop_set]
    split
    · rfl
    · rw [List.take_set_of_le (Nat.le_refl _)]
  simp only [functionScope?, Option.map_map, enclosing?_withLine here starts braces]
  congr 1
  funext start
  have first := headD_throughClosing (((context.withLine new).lines.drop start).take
    (context.index - start)) (openDepth (((context.withLine new).lines.drop start).take
      (context.index - start))) (here_withLine here new) context.window.scanLimit
  have second := headD_throughClosing ((context.lines.drop start).take (context.index - start))
    (openDepth ((context.lines.drop start).take (context.index - start))) here
    context.window.scanLimit
  refine (congrArg view first).trans (Eq.trans ?_ (congrArg view second).symm)
  rw [head]
  cases (context.lines.drop start).take (context.index - start) with
  | nil => exact same
  | cons _ _ => rfl

end Scope

end Compliance
