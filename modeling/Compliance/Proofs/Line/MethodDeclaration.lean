import Compliance.Proofs.Pattern.Words
import Compliance.Proofs.Pattern.Alike
import Compliance.Line.Marks

/-!
# Lines that declare a method

A declaration is a head up to the name of the method and a signature up to the end of
the line.  The head is read without looking at the signature, so the declared name
depends only on what stands before the first parenthesis or angle bracket and on
whether the rest is a signature.
-/

namespace Compliance

open Pattern

variable {behind word rest : Text} {marks : List Mark}

def methodHead : Pattern :=
  textStart ++ blanks ++ repeated (methodModifier ++ blanks1) ++
    group 1 (single (.range 'A' 'Z' ∪ .range 'a' 'z' ∪ .anyOf "_$") ++ many nameChars) ++ blanks

def methodTail : Pattern :=
  opt (lit "<" ++ many (.noneOf ">") ++ lit ">") ++ blanks ++ lit "(" ++ many (.noneOf ";") ++
    lit ")" ++ blanks ++ opt (lit ":" ++ blanks ++ many1 (.noneOf "=\x7b;")) ++ lit "\x7b" ++
    blanks ++ textEnd

theorem best_append (first second : Pattern) (rest : Sequel) (isPlain : first.plain = true) :
    (first ++ second).best rest = first.best (second.best rest) :=
  best_seq first second rest isPlain

theorem best_methodDeclaration (rest : Sequel) :
    methodDeclaration.best rest = methodHead.best (methodTail.best rest) := by
  simp (disch := decide) only [methodDeclaration, methodHead, methodTail, best_append]

def TypeParameters (text : Text) : Prop :=
  Blank text ∨ ∃ inner space, text = '<' :: (inner ++ '>' :: space) ∧ '>' ∉ inner ∧ Blank space

def ReturnType (text : Text) : Prop :=
  Blank text ∨ ∃ space type, text = space ++ ':' :: type ∧ Blank space ∧ type ≠ [] ∧
    ∀ c ∈ type, (CharSet.noneOf "=\x7b;").has c = true

def Signature (text : Text) : Prop :=
  ∃ types parameters type after,
    text = types ++ '(' :: (parameters ++ ')' :: (type ++ '\x7b' :: after)) ∧ TypeParameters types ∧
      ';' ∉ parameters ∧ ReturnType type ∧ Blank after

theorem reads_typeList :
    (opt (lit "<" ++ many (.noneOf ">") ++ lit ">")).Reads behind word rest marks ↔
      (word = [] ∨ ∃ inner, word = '<' :: (inner ++ ['>']) ∧ '>' ∉ inner) ∧ marks = [] := by
  simp only [reads_opt, reads_append_lit, reads_append_many, reads_lit,
    all_noneOf_iff (show ">".toList = ['>'] from rfl)]
  constructor
  · rintro (⟨_, rfl, _, inner, rfl, free, rfl, rfl⟩ | ⟨rfl, rfl⟩)
    · exact ⟨.inr ⟨inner, rfl, free⟩, rfl⟩
    · exact ⟨.inl rfl, rfl⟩
  · rintro ⟨rfl | ⟨inner, rfl, free⟩, rfl⟩
    · exact .inr ⟨rfl, rfl⟩
    · exact .inl ⟨'<' :: inner, rfl, ['<'], inner, rfl, free, rfl, rfl⟩

theorem reads_ascription :
    (opt (lit ":" ++ blanks ++ many1 (.noneOf "=\x7b;"))).Reads behind word rest marks ↔
      (word = [] ∨ ∃ type, word = ':' :: type ∧ type ≠ [] ∧
        ∀ c ∈ type, (CharSet.noneOf "=\x7b;").has c = true) ∧ marks = [] := by
  simp only [reads_opt, reads_append_blanks, reads_append_many1, reads_lit]
  constructor
  · rintro (⟨_, name, rfl, ⟨nonempty, all⟩, _, space, rfl, blank, rfl, rfl⟩ | ⟨rfl, rfl⟩)
    · refine ⟨.inr ⟨space ++ name, by simp, by simp [nonempty], fun c here => ?_⟩, rfl⟩
      rcases List.mem_append.mp here with here | here
      · have visible : c ≠ '=' ∧ c ≠ '\x7b' ∧ c ≠ ';' := by
          refine ⟨?_, ?_, ?_⟩ <;> rintro rfl <;> exact absurd (blank _ here) (by decide)
        simp [CharSet.noneOf, CharSet.anyOf, CharSet.ofText, CharSet.has, visible]
      · exact all c here
    · exact ⟨.inl rfl, rfl⟩
  · rintro ⟨rfl | ⟨type, rfl, nonempty, all⟩, rfl⟩
    · exact .inr ⟨rfl, rfl⟩
    · exact .inl ⟨[':'], type, rfl, ⟨nonempty, all⟩, [':'], [], rfl, by simp, rfl, rfl⟩

theorem readsAt_methodTail : methodTail.ReadsAt behind rest ↔ Signature rest := by
  simp only [ReadsAt, methodTail, reads_append_textEnd, reads_append_blanks, reads_append_lit,
    reads_append_many, reads_append_of_token _ reads_ascription, reads_typeList,
    all_noneOf_iff (show ";".toList = [';'] from rfl)]
  constructor
  · rintro ⟨_, _, _, rfl, rfl, _, after, rfl, blank, _, rfl, _, type, rfl, isType, _, space, rfl,
      blankSpace, _, rfl, _, parameters, rfl, free, _, rfl, types, gap, rfl, blankGap, isTypes, rfl⟩
    refine ⟨types ++ gap, parameters, space ++ type, after, by simp, ?_, free, ?_, blank⟩
    · rcases isTypes with rfl | ⟨inner, rfl, open_⟩
      · exact .inl blankGap
      · exact .inr ⟨inner, gap, by simp, open_, blankGap⟩
    · rcases isType with rfl | ⟨name, rfl, isName⟩
      · exact .inl (by simpa [Blank] using blankSpace)
      · exact .inr ⟨space, name, rfl, blankSpace, isName⟩
  · rintro ⟨lead, parameters, trail, after, rfl, isLead, free, isTrail, blank⟩
    obtain ⟨types, gap, rfl, isTypes, blankGap⟩ : ∃ types gap, lead = types ++ gap ∧
        (types = [] ∨ ∃ inner, types = '<' :: (inner ++ ['>']) ∧ '>' ∉ inner) ∧ Blank gap := by
      rcases isLead with blank | ⟨inner, space, rfl, open_, blank⟩
      · exact ⟨[], lead, rfl, .inl rfl, blank⟩
      · exact ⟨'<' :: (inner ++ ['>']), space, by simp, .inr ⟨inner, rfl, open_⟩, blank⟩
    obtain ⟨space, type, rfl, isType, blankSpace⟩ : ∃ space type, trail = space ++ type ∧
        (type = [] ∨ ∃ name, type = ':' :: name ∧ name ≠ [] ∧
          ∀ c ∈ name, (CharSet.noneOf "=\x7b;").has c = true) ∧ Blank space := by
      rcases isTrail with blank | ⟨space, name, rfl, blank, isName⟩
      · exact ⟨trail, [], by simp, .inl rfl, blank⟩
      · exact ⟨space, ':' :: name, rfl, .inr ⟨name, rfl, isName⟩, blank⟩
    exact ⟨_, [], [], by simp, rfl, _, after, rfl, blank, _, rfl, _, type, rfl, isType,
      _, space, rfl,
      blankSpace, _, rfl, _, parameters, rfl, free, _, rfl, types, gap, rfl, blankGap, isTypes, rfl⟩

/-! ## Declared names -/

def declaredName? (line : Text) : Option Text :=
  (methodDeclaration.find? line).bind (·.group? 1)

theorem marks_of_reads_methodDeclaration (reads : methodDeclaration.Reads behind word rest marks) :
    behind = [] ∧ ∃ before name after, marks = oneGroup 1 before name after := by
  simp only [methodDeclaration, reads_append_textEnd, reads_append_blanks, reads_append_lit,
    reads_append_many, reads_append_of_token _ reads_ascription,
    reads_append_of_token _ reads_typeList, reads_append_group] at reads
  obtain ⟨-, _, _, -, -, _, -, _, _, -, -, _, _, -, -, _, -, _, _, -, -, _, -, _, _, -,
      -, _, _, -, -,
    _, _, -, -, before, name, headMarks, inner, -, rfl, readsName, readsHead⟩ := reads
  obtain ⟨_, _, -, -, readsName⟩ := readsName
  obtain rfl : inner = [] := readsName.marks_eq_nil rfl
  obtain rfl : headMarks = [] := readsHead.marks_eq_nil (by decide)
  simp only [reads_append, reads_textStart] at readsHead
  obtain ⟨_, _, _, _, -, -, ⟨_, _, _, _, -, -, ⟨-, -, rfl⟩, -⟩, -⟩ := readsHead
  exact ⟨rfl, _, name, _, rfl⟩

theorem find?_methodDeclaration (line : Text) :
    methodDeclaration.find? line = methodDeclaration.matchAt [] line := by
  have silent (c : Char) (behind later : Text) :
      methodDeclaration.matchAt (c :: behind) later = none := by
    rw [matchAt_eq_none_iff (by decide)]
    rintro ⟨word, rest, marks, -, reads⟩
    simpa using (marks_of_reads_methodDeclaration reads).1
  have nowhere (c : Char) (behind ahead : Text) :
      (methodDeclaration.matchesFrom (c :: behind) ahead).findSome? id = none := by
    induction ahead generalizing c behind with
    | nil => simp [matchesFrom, silent]
    | cons next ahead ih =>
        rw [matchesFrom, silent]
        exact ih next (c :: behind)
  rw [find?, matchesByPlace_eq]
  cases line with
  | nil => simp [matchesFrom]
  | cons c line =>
      rw [matchesFrom, List.findSome?_cons, nowhere]
      cases methodDeclaration.matchAt [] (c :: line) <;> rfl

theorem best_methodTail_isSome (behind ahead : Text) :
    (methodTail.best finish behind ahead).isSome ↔ Signature ahead := by
  have reads : methodTail.ReadsAt behind ahead ↔ Signature ahead := readsAt_methodTail
  rw [← reads, ← matchAt_isSome_iff (by decide), matchAt, Option.isSome_map]

theorem trail_methodTail {ahead later : Text} (same : Signature ahead ↔ Signature later)
    (behind : Text) :
    trail (methodTail.best finish behind ahead) = trail (methodTail.best finish behind later) := by
  have unmarked {text : Text} {outcome : Outcome}
      (found : methodTail.best finish behind text = some outcome) : outcome.marks = [] := by
    obtain ⟨word, rest, marks, final, -, reads, done, rfl⟩ := reaches_of_best (by decide) found
    obtain rfl : _ = final := Option.some.inj done
    simp [reads.marks_eq_nil (by decide)]
  rw [← best_methodTail_isSome behind, ← best_methodTail_isSome behind] at same
  cases first : methodTail.best finish behind ahead with
  | none =>
      cases second : methodTail.best finish behind later with
      | none => rfl
      | some outcome => simp [first, second] at same
  | some outcome =>
      cases second : methodTail.best finish behind later with
      | none => simp [first, second] at same
      | some other => simp [trail, unmarked first, unmarked second]

theorem split_of_declaration {line : Text}
    (found : (methodDeclaration.best finish [] line).isSome) :
    ∃ stop head rest, (stop = '(' ∨ stop = '<') ∧ line = head ++ stop :: rest ∧ '.' ∉ head ∧
      stop ∉ head := by
  obtain ⟨outcome, found⟩ := Option.isSome_iff_exists.mp found
  rw [best_methodDeclaration] at found
  obtain ⟨word, later, marks, final, rfl, reads, rest, -⟩ := reaches_of_best (by decide) found
  have signed := (best_methodTail_isSome (word.reverse ++ []) later).mp (by rw [rest]; rfl)
  obtain ⟨types, parameters, type, after, rfl, isTypes, -⟩ := signed
  have dot := reads.not_mem (show methodHead.avoids '.' = true by decide)
  rcases isTypes with blank | ⟨inner, space, rfl, -, -⟩
  · have stop := reads.not_mem (show methodHead.avoids '(' = true by decide)
    have noDot : '.' ∉ types := fun here => absurd (blank _ here) (by decide)
    have noStop : '(' ∉ types := fun here => absurd (blank _ here) (by decide)
    exact ⟨'(', word ++ types, _, .inl rfl, by simp; rfl, by simp [dot, noDot],
      by simp [stop, noStop]⟩
  · have stop := reads.not_mem (show methodHead.avoids '<' = true by decide)
    exact ⟨'<', word, _, .inr rfl, by simp; rfl, dot, stop⟩

theorem group?_of_trail {line : Text} {found : Match}
    (here : methodDeclaration.matchAt [] line = some found) :
    ∃ before name, trail (methodDeclaration.best finish [] line) =
        some [(true, 1, before), (false, 1, name.reverse ++ before)] ∧ found.group? 1 =
          some name := by
  obtain ⟨word, rest, marks, rfl, reads, rfl⟩ := reads_of_matchAt (by decide) here
  obtain ⟨-, before, name, after, rfl⟩ := marks_of_reads_methodDeclaration reads
  refine ⟨before, name, ?_, group?_oneGroup (by decide) before name after⟩
  obtain ⟨outcome, best, same⟩ := Option.map_eq_some_iff.mp here
  have marks : outcome.marks = oneGroup 1 before name after := congrArg Match.marks same
  simp [best, trail, marks, oneGroup, Cursor.between]

end Compliance
