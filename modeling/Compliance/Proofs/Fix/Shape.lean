import Compliance.Fix.Registry
import Compliance.Proofs.Fix.Load
import Compliance.Proofs.Pattern.Words

/-!
# The shape of what fixes match

For each built-in fix, the pieces of a word that its pattern reads, the texts of
the groups, and the text that takes the place of the match.
-/

namespace Compliance

open Pattern

variable {behind word rest : Text} {marks : List Mark}

/-- One case for each built-in fix, and one for those that introduce an exception. -/
inductive BuiltIn : FixPattern → Prop
  | exception {exception : String} {keyword : Pattern}
      (listed : (exception, keyword) ∈ exceptionKeywords) : BuiltIn (exceptionFix exception keyword)
  | rethrow : BuiltIn rethrowFix
  | wrapLiteral : BuiltIn wrapLiteralFix
  | upgradeUrl : BuiltIn upgradeUrlFix
  | dropDebugger : BuiltIn dropDebuggerFix
  | transactionClient : BuiltIn transactionClientFix

theorem builtIn_of_mem_standard {fix : FixPattern} (standard : fix ∈ Registry.standard) :
    BuiltIn fix := by
  rcases List.mem_append.mp standard with introduces | single
  · obtain ⟨⟨exception, keyword⟩, listed, rfl⟩ := List.mem_map.mp introduces
    exact .exception listed
  · simp only [List.mem_cons, List.not_mem_nil, or_false] at single
    rcases single with rfl | rfl | rfl | rfl | rfl <;> constructor

theorem name_of_listed {exception : String} {keyword : Pattern}
    (listed : (exception, keyword) ∈ exceptionKeywords) :
    exception = "NotFoundException" ∨ exception = "UnauthorizedException" ∨
      exception = "ForbiddenException" ∨ exception = "BadRequestException" := by
  simp only [exceptionKeywords, List.mem_cons, Prod.mk.injEq, List.not_mem_nil, or_false] at listed
  exact listed.imp And.left (Or.imp And.left (Or.imp And.left And.left))

def Fresh (behind : Text) : Prop := behind.head?.any isWord = false

def Quoted (literal : Text) : Prop :=
  ∃ first body last, literal = first :: (body ++ [last]) ∧ quotes.has first = true ∧
    (∀ c ∈ body, quotes.has c = false) ∧ quotes.has last = true

def ErrorHead (head : Text) : Prop :=
  ∃ first second third, head = "throw".toList ++ (first ++ ("new".toList ++ (second ++
      ("Error".toList ++ (third ++ ['(']))))) ∧
    (first ≠ [] ∧ Blank first) ∧ (second ≠ [] ∧ Blank second) ∧ Blank third

theorem reads_throwNewError :
    throwNewError.Reads behind word rest marks ↔ ErrorHead word ∧ Fresh behind ∧ marks = [] := by
  simp only [throwNewError, reads_append_lit, reads_append_blanks, reads_append_blanks1,
    reads_wordEdge]
  constructor
  · rintro ⟨_, rfl, _, third, rfl, blank, _, rfl, _, second, rfl, gap, _, rfl, _, first, rfl,
      space, _, rfl, rfl, rfl, edge⟩
    exact ⟨⟨first, second, third, by simp, space, gap, blank⟩,
      by simpa [Fresh, isWord] using edge, rfl⟩
  · rintro ⟨⟨first, second, third, rfl, space, gap, blank⟩, fresh, rfl⟩
    refine ⟨_, by simp, _, third, rfl, blank, _, rfl, _, second, rfl, gap, _, rfl, _, first,
      rfl, space, [], rfl, rfl, rfl, ?_⟩
    simpa [Fresh, isWord] using fresh

def quotedMessage (keyword : Pattern) : Pattern :=
  single quotes ++ many (.compl quotes) ++ keyword ++ many (.compl quotes) ++ single quotes

theorem reads_quotedMessage {keyword : Pattern} :
    (quotedMessage keyword).Reads behind word rest marks ↔
      ∃ first early middle late last, word = first :: (early ++ (middle ++ (late ++ [last]))) ∧
        quotes.has first = true ∧ (∀ c ∈ early, quotes.has c = false) ∧
        keyword.Reads (early.reverse ++ first :: behind) middle (late ++ last :: rest) marks ∧
        (∀ c ∈ late, quotes.has c = false) ∧ quotes.has last = true := by
  have free {run : Text} : (∀ c ∈ run, quotes.compl.has c = true) ↔ ∀ c ∈ run,
      quotes.has c = false := by
    simp [CharSet.has]
  simp only [quotedMessage, reads_append_single, reads_append_many, free]
  constructor
  · rintro ⟨_, last, rfl, hasLast, _, late, rfl, freeLate, reads⟩
    obtain ⟨_, middle, _, inner, rfl, rfl, opening, held⟩ := (reads_append _ _).mp reads
    obtain ⟨_, early, rfl, freeEarly, first, hasFirst, rfl, rfl⟩ :=
      (reads_append_many (single quotes) _).mp opening
    exact ⟨first, early, middle, late, last, by simp, hasFirst, free.mp freeEarly,
      by simpa using held, freeLate, hasLast⟩
  · rintro ⟨first, early, middle, late, last, rfl, hasFirst, freeEarly, reads, freeLate, hasLast⟩
    refine ⟨first :: (early ++ (middle ++ late)), last, by simp, hasLast,
      first :: (early ++ middle),
      late, by simp, freeLate, (reads_append _ _).mpr ⟨first :: early, middle, [], marks, by simp,
        rfl, ?_, by simpa using reads⟩⟩
    exact (reads_append_many (single quotes) _).mpr
      ⟨[first], early, rfl, free.mpr freeEarly, first, hasFirst, rfl, rfl⟩

theorem reads_errorWithKeyword {keyword : Pattern} :
    (errorWithKeyword keyword).Reads behind word rest marks ↔
      ∃ head before quoted after inner, word = head ++ (before ++ (quoted ++ (after ++ [')']))) ∧
        ErrorHead head ∧ Fresh behind ∧ Blank before ∧
        (quotedMessage keyword).Reads (before.reverse ++ (head.reverse ++ behind)) quoted
          (after ++ ')' :: rest) inner ∧ Blank after ∧
        marks = ⟨true, 1, .between (before.reverse ++ (head.reverse ++ behind))
            (quoted ++ (after ++ ')' :: rest))⟩ :: inner ++
          [⟨false, 1, .between (quoted.reverse ++ (before.reverse ++ (head.reverse ++ behind)))
            (after ++ ')' :: rest)⟩] := by
  have shape : errorWithKeyword keyword =
      throwNewError ++ blanks ++ group 1 (quotedMessage keyword) ++ blanks ++ lit ")" := rfl
  simp only [shape, reads_append_lit, reads_append_blanks, reads_append_group, reads_throwNewError]
  constructor
  · rintro ⟨_, rfl, _, after, rfl, blankAfter, _, quoted, _, inner, rfl, rfl, reads, head, before,
      rfl, blankBefore, isHead, fresh, rfl⟩
    exact ⟨head, before, quoted, after, inner, by simp, isHead, fresh, blankBefore,
      by simpa using reads, blankAfter, by simp⟩
  · rintro ⟨head, before, quoted, after, inner, rfl, isHead, fresh, blankBefore, reads,
      blankAfter, rfl⟩
    exact ⟨head ++ (before ++ (quoted ++ after)), by simp, head ++ (before ++ quoted),
      after, by simp,
      blankAfter, head ++ before, quoted, [], inner, by simp, by simp, by simpa using reads, head,
      before, rfl, blankBefore, isHead, fresh, rfl⟩

/-! ## Thrown literals -/

theorem reads_thrownLiteral :
    thrownLiteral.Reads behind word rest marks ↔
      ∃ gap literal, word = "throw".toList ++ (gap ++ literal) ∧ (gap ≠ [] ∧ Blank gap) ∧
        Quoted literal ∧ Fresh behind ∧
        marks = oneGroup 1 (gap.reverse ++ ("throw".toList.reverse ++ behind)) literal rest := by
  simp only [thrownLiteral, reads_append_group, reads_append_single, reads_append_many,
    reads_append_blanks1, reads_wordEdge_lit, reads_single]
  constructor
  · rintro ⟨_, _, _, _, rfl, rfl, ⟨_, last, rfl, hasLast, _, body, rfl, plain, first, hasFirst,
      rfl, rfl⟩, _, gap, rfl, isGap, rfl, rfl, edge⟩
    refine ⟨gap, first :: (body ++ [last]), by simp, isGap, ⟨first, body, last, rfl, hasFirst,
      fun c here => by simpa [CharSet.has] using plain c here, hasLast⟩, ?_, by simp [oneGroup]⟩
    simpa [Fresh, isWord] using edge
  · rintro ⟨gap, _, rfl, isGap, ⟨first, body, last, rfl, hasFirst, plain, hasLast⟩, fresh, rfl⟩
    refine ⟨"throw".toList ++ gap, first :: (body ++ [last]), [], [], by simp,
      by simp [oneGroup], ⟨first :: body, last, by simp, hasLast, [first], body, rfl,
        fun c here => by simpa [CharSet.has] using plain c here, first, hasFirst, rfl, rfl⟩,
      "throw".toList, gap, rfl, isGap, rfl, rfl, ?_⟩
    simpa [Fresh, isWord] using fresh

theorem reads_httpUrl :
    httpUrl.Reads behind word rest marks ↔
      ∃ host, word = "http://".toList ++ host ∧ (host ≠ [] ∧ ∀ c ∈ host, hostChars.has c = true) ∧
        marks = oneGroup 1 ("http://".toList.reverse ++ behind) host rest := by
  simp only [httpUrl, reads_append_group, reads_lit, reads_many1]
  constructor
  · rintro ⟨_, host, _, _, rfl, rfl, ⟨nonempty, all, rfl⟩, rfl, rfl⟩
    exact ⟨host, rfl, ⟨nonempty, all⟩, by simp [oneGroup]⟩
  · rintro ⟨host, rfl, ⟨nonempty, all⟩, rfl⟩
    exact ⟨"http://".toList, host, [], [], rfl, by simp [oneGroup], ⟨nonempty, all, rfl⟩, rfl, rfl⟩

theorem eq_nil_of_reads_debuggerLine (reads : debuggerLine.Reads behind word rest marks) :
    behind = [] ∧ rest = [] ∧ solid word ≠ [] := by
  simp only [debuggerLine, reads_append_textEnd, reads_append_blanks, reads_append_opt,
    reads_append_lit, reads_textStart] at reads
  obtain ⟨rfl, _, _, rfl, -, reads⟩ := reads
  rcases reads with ⟨_, rfl, reads⟩ | reads
  · obtain ⟨_, _, rfl, -, _, rfl, _, _, rfl, -, -, -, rfl⟩ := reads
    refine ⟨rfl, rfl, fun nothing => ?_⟩
    have := solid_eq_nil_iff.mp nothing 'd' (by simp)
    revert this
    decide
  · obtain ⟨_, _, rfl, -, _, rfl, _, _, rfl, -, -, -, rfl⟩ := reads
    refine ⟨rfl, rfl, fun nothing => ?_⟩
    have := solid_eq_nil_iff.mp nothing 'd' (by simp)
    revert this
    decide

def ClientHead (head : Text) : Prop := head = "prisma.".toList ∨ head = "this.prisma.".toList

def Name (name : Text) : Prop := name ≠ [] ∧ ∀ c ∈ name, nameChars.has c = true

def verbs : List String :=
  ["create", "createMany", "update", "updateMany", "upsert", "delete", "deleteMany"]

theorem shape_of_reads_outerClientWrite (reads : outerClientWrite.Reads behind word rest marks) :
    ∃ head table verb, word = head ++ (table ++ ('.' :: verb)) ∧ ClientHead head ∧ Name table ∧
      (∃ text ∈ verbs, verb = text.toList) ∧
      (Match.of behind word rest marks).group 1 = table ∧
      (Match.of behind word rest marks).group 2 = verb := by
  simp only [outerClientWrite, writeVerbs, reads_append_wordEdge, reads_append_group,
    reads_append_lit, reads_words, reads_many1, reads_opt, reads_wordEdge] at reads
  obtain ⟨-, _, verb, _, _, rfl, rfl, ⟨listed, rfl⟩, _, rfl, _, table, _, _, rfl, rfl,
    ⟨nonempty, all, rfl⟩, _, rfl, -, before⟩ := reads
  rcases before with ⟨_, rfl, rfl, rfl, -⟩ | ⟨rfl, rfl⟩
  · exact ⟨"this.prisma.".toList, table, verb, by simp, .inr rfl, ⟨nonempty, all⟩, listed,
      by simp [Match.group, Match.group?, lastSpan], by simp [Match.group, Match.group?, lastSpan]⟩
  · exact ⟨"prisma.".toList, table, verb, by simp, .inl rfl, ⟨nonempty, all⟩, listed,
      by simp [Match.group, Match.group?, lastSpan], by simp [Match.group, Match.group?, lastSpan]⟩

def Binding (name binding : Text) : Prop :=
  ∃ before after type, binding = '(' :: (before ++ (name ++ (after ++ (type ++ [')'])))) ∧
    Blank before ∧ Name name ∧ Blank after ∧
    (type = [] ∨ ∃ ascribed, type = ':' :: ascribed ∧ ∀ c ∈ ascribed, c ≠ ')')

def EmptyBlock (block : Text) : Prop :=
  ∃ before inside, block = before ++ ('\x7b' :: (inside ++ ['\x7d'])) ∧ Blank before ∧ Blank inside

def handlerBinding : Pattern :=
  lit "(" ++ blanks ++ group 2 (many1 nameChars) ++ blanks ++
    opt (lit ":" ++ many (.noneOf ")")) ++ lit ")"

theorem reads_handlerBinding (reads : handlerBinding.Reads behind word rest marks) :
    ∃ name before after, Binding name word ∧ marks = oneGroup 2 before name after := by
  simp only [handlerBinding, reads_append_lit, reads_append_opt] at reads
  obtain ⟨_, rfl, reads⟩ := reads
  have named {word rest : Text} {marks : List Mark}
      (reads : (lit "(" ++ blanks ++ group 2 (many1 nameChars) ++ blanks).Reads behind word rest
        marks) : ∃ before name after, word = '(' :: (before ++ (name ++ after)) ∧ Blank before ∧
          Name name ∧ Blank after ∧
          marks = oneGroup 2 (before.reverse ++ '(' :: behind) name (after ++ rest) := by
    simp only [reads_append_blanks, reads_append_group, reads_many1, reads_lit] at reads
    obtain ⟨_, after, rfl, blankAfter, _, name, _, _, rfl, rfl, ⟨nonempty, all, rfl⟩, _, before,
      rfl, blankBefore, rfl, rfl⟩ := reads
    exact ⟨before, name, after, by simp, blankBefore, ⟨nonempty, all⟩, blankAfter,
      by simp [oneGroup]⟩
  rcases reads with reads | reads
  · rw [reads_append] at reads
    obtain ⟨_, _, _, _, rfl, rfl, reads, type⟩ := reads
    simp only [reads_append_many, reads_lit] at type
    obtain ⟨_, ascribed, rfl, closed, rfl, rfl⟩ := type
    obtain ⟨before, name, after, rfl, blankBefore, isName, blankAfter, rfl⟩ := named reads
    refine ⟨name, _, _, ⟨before, after, ':' :: ascribed, by simp, blankBefore, isName,
      blankAfter, .inr ⟨ascribed, rfl, fun c here => ?_⟩⟩, List.append_nil _⟩
    simpa [CharSet.noneOf, CharSet.anyOf, CharSet.ofText, CharSet.has] using closed c here
  · obtain ⟨before, name, after, rfl, blankBefore, isName, blankAfter, rfl⟩ := named reads
    exact ⟨name, _, _, ⟨before, after, [], by simp, blankBefore, isName, blankAfter, .inl rfl⟩,
      rfl⟩

theorem emptyHandler_eq :
    emptyHandler = wordEdge ++ lit "catch" ++ blanks ++ opt (group 1 handlerBinding) ++ blanks ++
      lit "\x7b" ++ blanks ++ lit "\x7d" := rfl

theorem shape_of_reads_emptyHandler (reads : emptyHandler.Reads behind word rest marks) :
    (∃ gap binding name block, word = "catch".toList ++ (gap ++ (binding ++ block)) ∧ Blank gap ∧
      Binding name binding ∧ EmptyBlock block ∧
      (Match.of behind word rest marks).group? 1 = some binding ∧
      (Match.of behind word rest marks).group? 2 = some name) ∨
    (∃ gap block, word = "catch".toList ++ (gap ++ block) ∧ Blank gap ∧ EmptyBlock block ∧
      (Match.of behind word rest marks).group? 1 = none) := by
  simp only [emptyHandler_eq, reads_append_lit, reads_append_blanks, reads_append_opt] at reads
  obtain ⟨_, rfl, _, inside, rfl, blankInside, _, rfl, _, before, rfl, blankBefore, reads⟩ := reads
  have block : EmptyBlock (before ++ '\x7b' :: (inside ++ ['\x7d'])) :=
    ⟨before, inside, rfl, blankBefore, blankInside⟩
  rcases reads with reads | reads
  · simp only [reads_append_group, reads_append_blanks, reads_append_lit, reads_wordEdge] at reads
    obtain ⟨_, binding, _, _, rfl, rfl, reads, _, gap, rfl, blankGap, _, rfl, rfl, rfl, -⟩ := reads
    obtain ⟨name, early, late, isBinding, rfl⟩ := reads_handlerBinding reads
    refine .inl ⟨gap, binding, name, _, by simp, blankGap, isBinding, block, ?_, ?_⟩
    · have split (x y z w : Mark) : [] ++ x :: [y, z] ++ [w] = [] ++ x :: ([y, z] ++ w :: []) := rfl
      exact Match.group?_of (by decide) (split ..) (by simp) (by simp) (by simp)
    · have split (x y z w : Mark) : [] ++ x :: [y, z] ++ [w] = [x] ++ y :: ([] ++ z :: [w]) := rfl
      exact Match.group?_of (by decide) (split ..) (by simp) (by simp) (by simp)
  · simp only [reads_wordEdge] at reads
    obtain ⟨_, gap, rfl, blankGap, _, rfl, rfl, rfl, -⟩ := reads
    exact .inr ⟨gap, _, by simp, blankGap, block, by simp [Match.group?, lastSpan]⟩

end Compliance
