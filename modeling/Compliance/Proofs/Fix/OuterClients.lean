import Compliance.Proofs.Fix.Gain
import Compliance.Proofs.Fix.Kept
import Compliance.Proofs.Line.Marks
import Compliance.Proofs.Line.MethodDeclaration

/-!
# Outer clients after their fix

Routing writes through the transaction client changes the name of a client before a
member access and nothing else.  Whether a line starts a function, opens a
transaction or opens braces does not depend on such a name.
-/

namespace Compliance

open Pattern

variable {behind word rest : Text} {marks : List Mark}

def clientNames : List Text := ["prisma", "this.prisma", "tx"].map String.toList

def closings : Text := ['(', '\x7b', 'n']

variable {client other front back : Text}

theorem any_head?_append {ok : Char → Bool} {text : Text} (starts : text.head?.any ok = true)
    (rest : Text) : (text ++ rest).head?.any ok = true := by
  cases text with
  | nil => simp at starts
  | cons c text => exact starts

theorem similar_client (isClient : client ∈ clientNames) (isOther : other ∈ clientNames)
    (rest after : Text) : Similar (client ++ rest) (other ++ after) := by
  have starts : ∀ name ∈ clientNames, name.head?.any isWord = true := by decide
  exact .inr ⟨any_head?_append (starts client isClient) rest,
    any_head?_append (starts other isOther) after⟩

theorem similar_client_reverse (isClient : client ∈ clientNames) (isOther : other ∈ clientNames)
    (front behind : Text) :
    Similar ((front ++ client).reverse ++ behind) ((front ++ other).reverse ++ behind) := by
  have starts : ∀ name ∈ clientNames, name.reverse.head?.any isWord = true := by decide
  rw [List.reverse_append, List.reverse_append, List.append_assoc, List.append_assoc]
  exact .inr ⟨any_head?_append (starts client isClient) _,
    any_head?_append (starts other isOther) _⟩

theorem not_mem_closings (isClient : client ∈ clientNames) {c : Char} (here : c ∈ client) :
    c ∉ closings := by
  have none : ∀ name ∈ clientNames, name.all (· ∉ closings) = true := by decide
  exact of_decide_eq_true (List.all_eq_true.mp (none client isClient) c here)

/-- No word of the pattern crosses a member access, or ends in the name of a client. -/
structure Pattern.Detached (pattern : Pattern) : Prop where
  sees : pattern.seesWords = true
  crosses {behind word rest : Text} {marks : List Mark} :
    pattern.Reads behind word rest marks → '.' ∉ word.tail
  ends {behind word rest : Text} {marks : List Mark} :
    pattern.Reads behind word rest marks → ∃ start c, word = start ++ [c] ∧ c ∈ closings

theorem Pattern.Detached.before_client {pattern : Pattern} (detached : pattern.Detached)
    (isClient : client ∈ clientNames) {gap left : Text} (started : left ≠ [])
    (shape : front ++ client = gap ++ left) (split : word ++ rest = left ++ '.' :: back)
    (reads : pattern.Reads behind word rest marks) :
    ∃ later, front = gap ++ (word ++ later) ∧ rest = later ++ (client ++ '.' :: back) := by
  obtain ⟨more, rfl, after⟩ : ∃ more, left = word ++ more ∧ rest = more ++ '.' :: back := by
    rcases List.append_eq_append_iff.mp split with ⟨more, rfl, after⟩ | ⟨more, rfl, after⟩
    · exact ⟨more, rfl, after⟩
    · cases more with
      | nil => exact ⟨[], by simp, by simpa using after.symm⟩
      | cons c more =>
          obtain ⟨first, others, rfl⟩ := List.exists_cons_of_ne_nil started
          obtain ⟨rfl, -⟩ := List.cons.inj after
          have crossed := detached.crosses reads
          simp at crossed
  obtain ⟨start, c, rfl, isClosing⟩ := detached.ends reads
  have outside : c ∉ client := fun here => not_mem_closings isClient here isClosing
  have shape : front ++ client = (gap ++ start) ++ c :: more := by simpa using shape
  rcases List.append_eq_append_iff.mp shape with ⟨last, -, here⟩ | ⟨last, rfl, here⟩
  · exact absurd (by simp [here]) outside
  · cases last with
    | nil =>
        obtain rfl : c :: more = client := here
        simp at outside
    | cons next last =>
        obtain ⟨rfl, rfl⟩ := List.cons.inj here
        exact ⟨last, by simp, by simpa using after⟩

theorem Pattern.Detached.occursAfter_client {pattern : Pattern} (detached : pattern.Detached)
    (isClient : client ∈ clientNames) (isOther : other ∈ clientNames)
    (occurs : pattern.OccursAfter behind (front ++ (client ++ '.' :: back))) :
    pattern.OccursAfter behind (front ++ (other ++ '.' :: back)) := by
  obtain ⟨gap, _, split, word, rest, marks, rfl, reads⟩ := occurs
  have behindMember (more : Text) (here : '.' :: back = more ++ (word ++ rest))
      (same : gap = (front ++ client) ++ more) :
      pattern.OccursAfter behind (front ++ (other ++ '.' :: back)) := by
    subst same
    have similar := (similar_client_reverse isClient isOther front behind).append more.reverse
    obtain ⟨others, reads⟩ := Reads.moved detached.sees (by simpa using similar) (.inl rfl) reads
    refine ⟨(front ++ other) ++ more, word ++ rest, by simp [here], word, rest, others, rfl, ?_⟩
    simpa using reads
  rw [← List.append_assoc] at split
  rcases List.append_eq_append_iff.mp split with ⟨more, same, here⟩ | ⟨left, shape, split⟩
  · exact behindMember more here same
  · rcases List.eq_nil_or_concat left with rfl | ⟨_, _, rfl⟩
    · exact behindMember [] split.symm (by simpa using shape.symm)
    · obtain ⟨later, rfl, rfl⟩ := detached.before_client isClient (by simp) shape split reads
      have similar := (similar_client isClient isOther ('.' :: back) ('.' :: back)).append later
      obtain ⟨others, reads⟩ := Reads.moved detached.sees (.inl rfl) similar reads
      exact ⟨gap, word ++ (later ++ (other ++ '.' :: back)), by simp, word, _, others, rfl, reads⟩

theorem Pattern.Detached.occurs_client {pattern : Pattern} (detached : pattern.Detached)
    (isPlain : pattern.plain = true) (isClient : client ∈ clientNames)
    (isOther : other ∈ clientNames) (front back : Text) :
    pattern.occurs (front ++ (client ++ '.' :: back)) =
      pattern.occurs (front ++ (other ++ '.' :: back)) := by
  rw [Bool.eq_iff_iff, occurs_iff isPlain, occurs_iff isPlain]
  exact ⟨detached.occursAfter_client isClient isOther, detached.occursAfter_client isOther isClient⟩

theorem detached_functionKeyword : functionKeyword.Detached where
  sees := by decide
  crosses reads here := reads.not_mem (show functionKeyword.avoids '.' = true by decide)
    (List.mem_of_mem_tail here)
  ends reads := by
    rw [functionKeyword, reads_append_lit] at reads
    obtain ⟨start, rfl, -⟩ := reads
    exact ⟨start, '(', rfl, by decide⟩

theorem detached_arrowBlock : arrowBlock.Detached where
  sees := by decide
  crosses reads here := reads.not_mem (show arrowBlock.avoids '.' = true by decide)
    (List.mem_of_mem_tail here)
  ends reads := by
    rw [arrowBlock, reads_append_lit] at reads
    obtain ⟨start, rfl, -⟩ := reads
    exact ⟨start, '\x7b', rfl, by decide⟩

theorem detached_transactionMarker : transactionMarker.Detached where
  sees := by decide
  crosses reads := by
    simp only [transactionMarker, reads_alt, reads_append_wordEdge, reads_append_lit,
      reads_append_blanks, reads_lit] at reads
    rcases reads with ⟨-, rfl, -⟩ | ⟨_, rfl, _, gap, rfl, blank, rfl, -⟩
    · decide
    · have outside : '.' ∉ gap := fun here => absurd (blank _ here) (by decide)
      have rest : '.' ∉ "transaction".toList ++ gap ++ "(".toList := by
        simp [outside]
      exact rest
  ends reads := by
    simp only [transactionMarker, reads_alt, reads_append_wordEdge, reads_append_lit,
      reads_lit] at reads
    rcases reads with ⟨-, rfl, -⟩ | ⟨start, rfl, -⟩
    · exact ⟨"$transactio".toList, 'n', rfl, by decide⟩
    · exact ⟨start, '(', rfl, by decide⟩

/-! ## Signatures with another client -/

/-- The texts differ in the name of one client before a member access. -/
def Renamed (client other old new : Text) : Prop :=
  ∃ front back, old = front ++ (client ++ '.' :: back) ∧ new = front ++ (other ++ '.' :: back)

theorem not_renamed {old new : Text} (plain : '.' ∉ old) : ¬ Renamed client other old new := by
  rintro ⟨front, back, rfl, -⟩
  simp at plain

theorem not_renamed_of_blank {old new : Text} (blank : Blank old) :
    ¬ Renamed client other old new :=
  not_renamed fun here => absurd (blank _ here) (by decide)

theorem Renamed.ne_nil {old new : Text} (renamed : Renamed client other old new) : new ≠ [] := by
  obtain ⟨front, back, -, rfl⟩ := renamed
  simp

theorem Renamed.all {old new : Text} {ok : Char → Prop} (renamed : Renamed client other old new)
    (name : ∀ c ∈ other, ok c) (all : ∀ c ∈ old, ok c) : ∀ c ∈ new, ok c := by
  obtain ⟨front, back, rfl, rfl⟩ := renamed
  simp only [List.mem_append, List.mem_cons] at all ⊢
  rintro c (here | here | here)
  · exact all c (.inl here)
  · exact name c here
  · exact all c (.inr (.inr here))

theorem Renamed.split {before after new : Text} {c : Char} (outside : c ∉ client ++ ['.'])
    (renamed : Renamed client other (before ++ c :: after) new) :
    (∃ first, Renamed client other before first ∧ new = first ++ c :: after) ∨
      ∃ last, Renamed client other after last ∧ new = before ++ c :: last := by
  obtain ⟨front, back, split, rfl⟩ := renamed
  rcases List.append_eq_append_iff.mp split with ⟨left, rfl, here⟩ | ⟨left, rfl, here⟩
  · cases left with
    | nil =>
        have first : c ∈ client ++ ['.'] := by
          cases client with
          | nil => simp [(List.cons.inj here).1]
          | cons x client => simp [(List.cons.inj here).1]
        exact absurd first outside
    | cons x left =>
        obtain ⟨rfl, rfl⟩ := List.cons.inj here
        exact .inr ⟨left ++ (other ++ '.' :: back), ⟨left, back, rfl, rfl⟩, by simp⟩
  · have here : (client ++ ['.']) ++ back = left ++ c :: after := by simpa using here
    rcases List.append_eq_append_iff.mp here with ⟨more, rfl, rfl⟩ | ⟨more, same, here⟩
    · exact .inl ⟨front ++ (other ++ '.' :: more), ⟨front, more, by simp, rfl⟩, by simp⟩
    · cases more with
      | nil =>
          obtain rfl : c :: after = back := here
          obtain rfl : left = client ++ ['.'] := by simpa using same.symm
          exact .inl ⟨front ++ (other ++ ['.']), ⟨front, [], by simp, by simp⟩, by simp⟩
      | cons x more =>
          obtain ⟨rfl, rfl⟩ := List.cons.inj here
          exact absurd (by simp [same]) outside

theorem outside_client (isClient : client ∈ clientNames) {c : Char}
    (isMark : c ∈ "()<>:\x7b;=".toList) : c ∉ client ++ ['.'] := by
  have none : ∀ name ∈ clientNames, "()<>:\x7b;=".toList.all (· ∉ name ++ ['.']) = true := by
    decide
  exact of_decide_eq_true (List.all_eq_true.mp (none client isClient) c isMark)

theorem ne_of_mem_client (isClient : client ∈ clientNames) {mark : Char}
    (isMark : mark ∈ "()<>:\x7b;=".toList) : ∀ c ∈ client, c ≠ mark := by
  intro c here same
  subst same
  exact outside_client isClient isMark (by simp [here])

theorem TypeParameters.renamed {old new : Text} (isClient : client ∈ clientNames)
    (isOther : other ∈ clientNames) (change : Renamed client other old new)
    (types : TypeParameters old) : TypeParameters new := by
  rcases types with blank | ⟨inner, space, rfl, free, blank⟩
  · exact absurd change (not_renamed_of_blank blank)
  · have change : Renamed client other ([] ++ '<' :: (inner ++ '>' :: space)) new := change
    rcases change.split (outside_client isClient (by decide)) with
      ⟨_, nothing, -⟩ | ⟨_, later, rfl⟩
    · exact absurd nothing (not_renamed (by simp))
    · rcases later.split (outside_client isClient (by decide)) with
        ⟨inside, within, rfl⟩ | ⟨_, nothing, -⟩
      · have free : ∀ c ∈ inside, c ≠ '>' :=
          within.all (ne_of_mem_client isOther (by decide)) fun c here same => free (same ▸ here)
        exact .inr ⟨inside, space, rfl, fun here => free _ here rfl, blank⟩
      · exact absurd nothing (not_renamed_of_blank blank)

theorem ReturnType.renamed {old new : Text} (isClient : client ∈ clientNames)
    (isOther : other ∈ clientNames) (change : Renamed client other old new)
    (type : ReturnType old) : ReturnType new := by
  rcases type with blank | ⟨space, type, rfl, blank, nonempty, all⟩
  · exact absurd change (not_renamed_of_blank blank)
  · rcases change.split (outside_client isClient (by decide)) with
      ⟨_, nothing, -⟩ | ⟨name, within, rfl⟩
    · exact absurd nothing (not_renamed_of_blank blank)
    · have names : ∀ name ∈ clientNames, name.all (CharSet.noneOf "=\x7b;").has = true := by decide
      exact .inr ⟨space, name, rfl, blank, within.ne_nil,
        within.all (List.all_eq_true.mp (names other isOther)) all⟩

theorem Signature.renamed {old new : Text} (isClient : client ∈ clientNames)
    (isOther : other ∈ clientNames) (change : Renamed client other old new)
    (signature : Signature old) : Signature new := by
  obtain ⟨types, parameters, type, after, rfl, isTypes, free, isType, blank⟩ := signature
  rcases change.split (outside_client isClient (by decide)) with
    ⟨first, within, rfl⟩ | ⟨_, later, rfl⟩
  · exact ⟨first, parameters, type, after, rfl, isTypes.renamed isClient isOther within, free,
      isType, blank⟩
  rcases later.split (outside_client isClient (by decide)) with
    ⟨second, within, rfl⟩ | ⟨_, last, rfl⟩
  · have free : ∀ c ∈ second, c ≠ ';' :=
      within.all (ne_of_mem_client isOther (by decide)) fun c here same => free (same ▸ here)
    exact ⟨types, second, type, after, rfl, isTypes, fun here => free _ here rfl, isType, blank⟩
  rcases last.split (outside_client isClient (by decide)) with
    ⟨third, within, rfl⟩ | ⟨_, nothing, -⟩
  · exact ⟨types, parameters, third, after, rfl, isTypes, free,
      isType.renamed isClient isOther within, blank⟩
  · exact absurd nothing (not_renamed_of_blank blank)

/-! ## Starts of functions -/

theorem trail_methodDeclaration {old new : Text} (isClient : client ∈ clientNames)
    (isOther : other ∈ clientNames) (change : Renamed client other old new)
    (found : (methodDeclaration.best finish [] old).isSome) :
    trail (methodDeclaration.best finish [] old) =
      trail (methodDeclaration.best finish [] new) := by
  obtain ⟨stop, head, rest, isStop, rfl, dot, clear⟩ := split_of_declaration found
  have mark : stop ∈ "()<>:\x7b;=".toList := by
    rcases isStop with rfl | rfl <;> decide
  have free : methodHead.avoids stop = true := by
    rcases isStop with rfl | rfl <;> decide
  rcases change.split (outside_client isClient mark) with
    ⟨_, nothing, -⟩ | ⟨last, ⟨front, back, rfl, rfl⟩, rfl⟩
  · exact absurd nothing (not_renamed dot)
  have tail : Alike stop (front ++ (client ++ '.' :: back)) (front ++ (other ++ '.' :: back))
      (methodTail.best finish) (methodTail.best finish) := by
    intro behind word _
    have renamed (one two : Text) :
        Renamed one two (word ++ stop :: (front ++ (one ++ '.' :: back)))
        (word ++ stop :: (front ++ (two ++ '.' :: back))) :=
      ⟨word ++ stop :: front, back, by simp, by simp⟩
    exact trail_methodTail ⟨(·.renamed isClient isOther (renamed client other)),
      (·.renamed isOther isClient (renamed other client))⟩ behind
  rw [best_methodDeclaration]
  exact alike_best (by decide) free tail [] head clear

theorem Renamed.symm {old new : Text} (change : Renamed client other old new) :
    Renamed other client new old := by
  obtain ⟨front, back, rfl, rfl⟩ := change
  exact ⟨front, back, rfl, rfl⟩

theorem declaredName?_renamed {old new : Text} (isClient : client ∈ clientNames)
    (isOther : other ∈ clientNames) (change : Renamed client other old new) :
    declaredName? old = declaredName? new := by
  have same : trail (methodDeclaration.best finish [] old) =
      trail (methodDeclaration.best finish [] new) := by
    cases first : methodDeclaration.best finish [] old with
    | some outcome =>
        rw [← first]
        exact trail_methodDeclaration isClient isOther change (by rw [first]; rfl)
    | none =>
        cases second : methodDeclaration.best finish [] new with
        | none => rfl
        | some outcome =>
            rw [← first, ← second]
            exact (trail_methodDeclaration isOther isClient change.symm (by rw [second]; rfl)).symm
  have nowhere {line : Text} (none : methodDeclaration.matchAt [] line = none) :
      trail (methodDeclaration.best finish [] line) = .none := by
    rw [Option.map_eq_none_iff.mp none]
    rfl
  rw [declaredName?, declaredName?, find?_methodDeclaration, find?_methodDeclaration]
  cases first : methodDeclaration.matchAt [] old with
  | none =>
      cases second : methodDeclaration.matchAt [] new with
      | none => rfl
      | some found =>
          obtain ⟨before, name, way, -⟩ := group?_of_trail second
          rw [nowhere first, way] at same
          cases same
  | some found =>
      obtain ⟨before, name, way, group⟩ := group?_of_trail first
      cases second : methodDeclaration.matchAt [] new with
      | none =>
          rw [nowhere second, way] at same
          cases same
      | some other =>
          obtain ⟨before', name', way', group'⟩ := group?_of_trail second
          rw [way, way'] at same
          simp only [Option.some.injEq, List.cons.injEq, Prod.mk.injEq, true_and, and_true] at same
          obtain ⟨rfl, same⟩ := same
          have same : name = name' := by simpa using same
          simp [group, group', same]

theorem isFunctionStart_renamed {old new : Text} (isClient : client ∈ clientNames)
    (isOther : other ∈ clientNames) (change : Renamed client other old new) :
    isFunctionStart old = isFunctionStart new := by
  have declared := declaredName?_renamed isClient isOther change
  obtain ⟨front, back, rfl, rfl⟩ := change
  simp only [declaredName?] at declared
  rw [isFunctionStart, isFunctionStart, declared,
    detached_functionKeyword.occurs_client (by decide) isClient isOther,
    detached_arrowBlock.occurs_client (by decide) isClient isOther]

theorem occurs_transactionMarker_renamed {old new : Text} (isClient : client ∈ clientNames)
    (isOther : other ∈ clientNames) (change : Renamed client other old new) :
    transactionMarker.occurs old = transactionMarker.occurs new := by
  obtain ⟨front, back, rfl, rfl⟩ := change
  exact detached_transactionMarker.occurs_client (by decide) isClient isOther front back

theorem braceDelta_renamed {old new : Text} (isClient : client ∈ clientNames)
    (isOther : other ∈ clientNames) (change : Renamed client other old new) :
    braceDelta old = braceDelta new := by
  have opening : ∀ name ∈ clientNames, name.count '\x7b' = 0 := by decide
  have closing : ∀ name ∈ clientNames, name.count '\x7d' = 0 := by decide
  obtain ⟨front, back, rfl, rfl⟩ := change
  simp only [braceDelta_eq, List.count_append, opening client isClient, opening other isOther,
    closing client isClient, closing other isOther]

theorem client_of_head {head : Text} (isHead : ClientHead head) :
    ∃ client ∈ clientNames, head = client ++ ['.'] := by
  rcases isHead with rfl | rfl
  · exact ⟨"prisma".toList, by decide, rfl⟩
  · exact ⟨"this.prisma".toList, by decide, rfl⟩

theorem splice_transactionClientFix {α : Type} {view : Text → α}
    (same : ∀ {client other old new : Text}, client ∈ clientNames → other ∈ clientNames →
      Renamed client other old new → view old = view new) {ahead : Text} {found : List Match}
    (cuts : outerClientWrite.Cuts behind ahead found) (kept : Text) :
    view (kept ++ splice transactionClientFix.replace (.between behind ahead) found) =
      view (kept ++ ahead) := by
  induction cuts generalizing kept with
  | rest => rfl
  | found gap word rest quiet here reads later ih =>
      obtain ⟨_, table, verb, rfl, isHead, -, -, first, second⟩ :=
        shape_of_reads_outerClientWrite reads
      obtain ⟨client, isClient, rfl⟩ := client_of_head isHead
      rw [splice_of, replace_transactionClientFix, first, second, List.append_nil]
      have routed := ih (kept ++ (gap ++ ("tx.".toList ++ (table ++ '.' :: verb))))
      have back : Renamed "tx".toList client
          (kept ++ (gap ++ ("tx.".toList ++ (table ++ '.' :: verb))) ++ rest)
          (kept ++ (gap ++ (client ++ ['.'] ++ (table ++ '.' :: verb) ++ rest))) :=
        ⟨kept ++ gap, table ++ '.' :: verb ++ rest, by simp, by simp⟩
      rw [← same (by decide) isClient back, ← routed]
      simp only [List.append_assoc]

theorem view_of_transactionClientFix {α : Type} {view : Text → α}
    (same : ∀ {client other old new : Text}, client ∈ clientNames → other ∈ clientNames →
      Renamed client other old new → view old = view new) {line new : Text}
    (changed : transactionClientFix.applyLine? line = some new) : view new = view line := by
  obtain ⟨rfl, -⟩ := applyLine?_eq_some changed
  exact splice_transactionClientFix same (cuts_allMatches (by decide) (by decide) line) []

end Compliance
