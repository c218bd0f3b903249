import Compliance.Proofs.Fix.Gain
import Compliance.Proofs.Text.Blanks

/-!
# Lines with one throw

A fix whose matches all start with `throw` looks at one place of a line in which the word
stands once.  It replaces what its pattern reads there, or it leaves the line as it is.
For a literal thrown at that place, this tells how much of it the fix wraps.
-/

namespace Compliance

open Pattern

variable {before after gap later more : Text}

/-- Neither text holds the word `throw`, so with the word between them it stands there only. -/
structure LoneThrow (before after : Text) : Prop where
  before : ¬ "throw".toList <:+: before
  after : ¬ "throw".toList <:+: after

theorem nil_or_prefix_of_throw
    (shape : "throw".toList ++ later = more ++ ("throw".toList ++ after)) :
    more = [] ∨ "throw".toList <+: more := by
  cases more with
  | nil => exact .inl rfl
  | cons c more =>
      have split : 't' :: ("hrow".toList ++ later) =
          c :: (more ++ 't' :: ("hrow".toList ++ after)) :=
        shape
      obtain ⟨rfl, rest⟩ := List.cons.inj split
      obtain ⟨between, rfl, -⟩ := behind_of_not_mem (by decide) rest
      exact .inr ⟨between, rfl⟩

theorem LoneThrow.place_eq (lone : LoneThrow before after)
    (shape : before ++ ("throw".toList ++ after) = gap ++ ("throw".toList ++ later)) :
    gap = before ∧ later = after := by
  rcases List.append_eq_append_iff.mp shape with ⟨more, rfl, same⟩ | ⟨more, rfl, same⟩
  · rcases nil_or_prefix_of_throw same with rfl | ⟨tail, rfl⟩
    · exact ⟨by simp, (List.append_cancel_left same).symm⟩
    · rw [List.append_assoc] at same
      exact absurd ⟨tail, later, by simpa using (List.append_cancel_left same).symm⟩ lone.after
  · rcases nil_or_prefix_of_throw same with rfl | ⟨tail, rfl⟩
    · exact ⟨by simp, List.append_cancel_left same⟩
    · exact absurd ⟨gap, tail, by simp⟩ lone.before

structure Throws (pattern : Pattern) : Prop where
  isPlain : pattern.plain = true
  takes : pattern.nullable = false
  starts {behind word rest : Text} {marks : List Mark} :
    pattern.Reads behind word rest marks → "throw".toList <+: word

theorem LoneThrow.allMatches_eq (lone : LoneThrow before after) {pattern : Pattern}
    (throws : Throws pattern) :
    pattern.allMatches (before ++ ("throw".toList ++ after)) =
      (pattern.matchAt before.reverse ("throw".toList ++ after)).toList := by
  have cuts := cuts_allMatches throws.isPlain throws.takes (before ++ ("throw".toList ++ after))
  generalize shape : before ++ ("throw".toList ++ after) = line at cuts
  generalize pattern.allMatches line = found at cuts
  cases cuts with
  | rest quiet =>
      have unread : pattern.matchAt before.reverse ("throw".toList ++ after) = none :=
        (matchAt_eq_none_iff throws.isPlain).mpr fun reads =>
          quiet ⟨before, _, shape.symm, by simpa using reads⟩
      rw [unread]
      rfl
  | found gap word rest quiet here reads others =>
      obtain ⟨tail, rfl⟩ := throws.starts reads
      rw [List.append_assoc] at shape here
      obtain ⟨rfl, rfl⟩ := lone.place_eq shape
      rw [List.append_nil] at here others reads ⊢
      rw [here]
      cases others with
      | rest => rfl
      | found next other last silent there reads' =>
          obtain ⟨end', rfl⟩ := throws.starts reads'
          exact absurd ⟨tail ++ next, end' ++ last, by simp⟩ lone.after

variable {fix : FixPattern} {new : Text}

theorem LoneThrow.applyLine?_eq_none (lone : LoneThrow before after)
    (throws : Throws fix.matcher.pattern)
    (unread : ¬ fix.matcher.pattern.ReadsAt before.reverse ("throw".toList ++ after)) :
    fix.applyLine? (before ++ ("throw".toList ++ after)) = none := by
  have absent := (matchAt_eq_none_iff throws.isPlain).mpr unread
  rw [applyLine?_eq_ite throws.isPlain throws.takes, replaceAll, lone.allMatches_eq throws, absent,
    if_pos]
  rfl

theorem LoneThrow.applyLine?_eq_some (lone : LoneThrow before after)
    (throws : Throws fix.matcher.pattern)
    (readsAt : fix.matcher.pattern.ReadsAt before.reverse ("throw".toList ++ after))
    (replaced : ∀ {word rest : Text} {marks : List Mark}, "throw".toList ++ after = word ++ rest →
      fix.matcher.pattern.Reads before.reverse word rest marks →
        fix.replace (.of before.reverse word rest marks) ++ rest = new)
    (differs : new ≠ "throw".toList ++ after) :
    fix.applyLine? (before ++ ("throw".toList ++ after)) = some (before ++ new) := by
  obtain ⟨found, here⟩ := Option.isSome_iff_exists.mp
      ((matchAt_isSome_iff throws.isPlain).mpr readsAt)
  obtain ⟨word, rest, marks, shape, reads, rfl⟩ := reads_of_matchAt throws.isPlain here
  have whole : fix.matcher.pattern.replaceAll fix.replace (before ++ ("throw".toList ++ after)) =
      before ++ new := by
    rw [replaceAll, lone.allMatches_eq throws, here, shape]
    have cut := splice_of fix.replace [] before word rest marks []
    rw [List.append_nil, splice_nil, replaced shape reads] at cut
    exact cut
  rw [applyLine?_eq_ite throws.isPlain throws.takes, whole, if_neg]
  exact fun same => differs (List.append_cancel_left same)

/-! ## Wrapped literals -/

theorem throws_thrownLiteral : Throws thrownLiteral where
  isPlain := by decide
  takes := by decide
  starts reads := by
    obtain ⟨gap, literal, rfl, -⟩ := reads_thrownLiteral.mp reads
    exact List.prefix_append _ _

theorem isBlank_of_quote {quote : Char} (isQuote : quotes.has quote = true) :
    isBlank quote = false := by
  rcases mem_quotes.mp isQuote with rfl | rfl | rfl <;> decide

section Literal

variable {quote last : Char} {inside left body : Text}

/-- A literal ends at the first quote, whichever quote opens it. -/
theorem reads_thrownLiteral_at {behind word rest : Text} {marks : List Mark}
    (isQuote : quotes.has quote = true) (free : ∀ c ∈ inside, quotes.has c = false)
    (isLast : quotes.has last = true)
    (shape : "throw ".toList ++ quote :: (inside ++ last :: left) = word ++ rest)
    (reads : thrownLiteral.Reads behind word rest marks) :
    wrapLiteralFix.replace (.of behind word rest marks) =
      "throw new Error(".toList ++ (quote :: (inside ++ [last]) ++ [')']) ∧ rest = left := by
  obtain ⟨gap, _, rfl, ⟨-, blank⟩, ⟨first, body, final, rfl, isFirst, plain, isFinal⟩, -, rfl⟩ :=
    reads_thrownLiteral.mp reads
  have behindThrow : [' '] ++ quote :: (inside ++ last :: left) =
      gap ++ first :: (body ++ final :: rest) := by
    have whole : "throw".toList ++ ([' '] ++ quote :: (inside ++ last :: left)) =
        "throw".toList ++ (gap ++ first :: (body ++ final :: rest)) := by simpa using shape
    exact List.append_cancel_left whole
  obtain ⟨rfl, rfl, inner⟩ := cut_of_blank (by decide) blank (isBlank_of_quote isQuote)
    (isBlank_of_quote isFirst) behindThrow
  obtain ⟨rfl, rfl, rfl⟩ := cut_unique free plain isLast isFinal inner
  rw [replace_wrapLiteralFix, group_oneGroup Nat.one_ne_zero]
  exact ⟨rfl, rfl⟩

theorem not_infix_quoted {front : Text} (isQuote : quotes.has quote = true)
    (aloneFront : ¬ "throw".toList <:+: front) (aloneBody : ¬ "throw".toList <:+: body)
    (aloneAfter : ¬ "throw".toList <:+: after) :
    ¬ "throw".toList <:+: front ++ quote :: (body ++ quote :: after) := by
  have outside : quote ∉ "throw".toList := by
    rcases mem_quotes.mp isQuote with rfl | rfl | rfl <;> decide
  intro here
  rcases infix_of_append_cons outside here with here | here
  · exact aloneFront here
  · exact (infix_of_append_cons outside here).elim aloneBody aloneAfter

theorem append_of_split (split : body ++ [quote] = inside ++ last :: left) (tail : Text) :
    body ++ quote :: tail = inside ++ last :: (left ++ tail) := by
  have joined := congrArg (· ++ tail) split
  simpa using joined

theorem left_eq_nil_iff (split : body ++ [quote] = inside ++ last :: left)
    (isQuote : quotes.has quote = true) (free : ∀ c ∈ inside, quotes.has c = false)
    (isLast : quotes.has last = true) : left = [] ↔ ∀ c ∈ body, quotes.has c = false := by
  constructor
  · rintro rfl
    rw [(List.append_inj' split rfl).1]
    exact free
  · intro plain
    exact (cut_unique plain free isQuote isLast split).2.2.symm

theorem parenthesis_eq_iff (split : body ++ [quote] = inside ++ last :: left)
    (isQuote : quotes.has quote = true) (after : Text) :
    ')' :: (left ++ after) = left ++ ')' :: after ↔ left = [] := by
  refine ⟨fun same => ?_, fun none => by rw [none]; rfl⟩
  rcases List.eq_nil_or_concat' left with none | ⟨init, final, rfl⟩
  · exact none
  · have closing : (body ++ [quote]) = (inside ++ last :: init) ++ [final] := by simpa using split
    obtain rfl := List.singleton_inj.mp (List.append_inj' closing rfl).2
    have shifted : (')' :: init) ++ quote :: after = (init ++ [quote]) ++ ')' :: after := by
      simpa using same
    obtain ⟨rfl, -⟩ := List.cons.inj (List.append_inj' shifted rfl).2
    exact absurd isQuote (by decide)

theorem applyLine?_literal (split : body ++ [quote] = inside ++ last :: left)
    (isQuote : quotes.has quote = true) (free : ∀ c ∈ inside, quotes.has c = false)
    (isLast : quotes.has last = true) (fresh : Fresh before.reverse)
    (lone : LoneThrow before (' ' :: quote :: (body ++ quote :: after))) :
    wrapLiteralFix.applyLine? (before ++ ("throw ".toList ++ quote :: (body ++ quote :: after))) =
      some (before ++ ("throw new Error(".toList ++
        quote :: (inside ++ last :: ')' :: (left ++ after)))) := by
  have rejoined := append_of_split split after
  refine lone.applyLine?_eq_some throws_thrownLiteral ?readsAt ?replaced ?differs
  case readsAt =>
    refine ⟨"throw".toList ++ ([' '] ++ quote :: (inside ++ [last])), left ++ after, _,
      by simp [rejoined], reads_thrownLiteral.mpr ⟨[' '], _, rfl, ⟨by simp, by decide⟩,
        ⟨quote, inside, last, rfl, isQuote, free, isLast⟩, fresh, rfl⟩⟩
  case replaced =>
    intro word rest marks shape reads
    rw [rejoined] at shape
    obtain ⟨replaced, rfl⟩ := reads_thrownLiteral_at isQuote free isLast shape reads
    simp [replaced]
  case differs =>
    intro same
    have behindThrow : 'n' :: ("ew Error(".toList ++ quote ::
        (inside ++ last :: ')' :: (left ++ after))) =
        quote :: (body ++ quote :: after) := @List.append_cancel_left _ "throw ".toList _ _ same
    obtain ⟨rfl, -⟩ := List.cons.inj behindThrow
    exact absurd isQuote (by decide)

/-- Whichever quote opens a thrown literal, the fix wraps it up to the first quote of any kind,
and so it wraps the literal whole exactly if there is no other quote in it. -/
theorem wrapLiteralFix_whole_iff {before body after : Text} {quote : Char}
    (isQuote : quotes.has quote = true) (fresh : Fresh before.reverse)
    (aloneBefore : ¬ "throw".toList <:+: before) (aloneBody : ¬ "throw".toList <:+: body)
    (aloneAfter : ¬ "throw".toList <:+: after) :
    (∃ inside last left, body ++ [quote] = inside ++ last :: left ∧
      (∀ c ∈ inside, quotes.has c = false) ∧ quotes.has last = true ∧
      wrapLiteralFix.applyLine? (before ++ ("throw ".toList ++ quote :: (body ++ quote :: after))) =
        some (before ++ ("throw new Error(".toList ++
          quote :: (inside ++ last :: ')' :: (left ++ after))))) ∧
    (wrapLiteralFix.applyLine? (before ++ ("throw ".toList ++ quote :: (body ++ quote :: after))) =
        some (before ++ ("throw new Error(".toList ++ quote :: (body ++ quote :: ')' :: after))) ↔
      ∀ c ∈ body, quotes.has c = false) := by
  obtain ⟨last, cut⟩ := Option.isSome_iff_exists.mp
    (show ((body ++ [quote]).find? quotes.has).isSome by simp [isQuote])
  obtain ⟨isLast, inside, left, split, plain⟩ := List.find?_eq_some_iff_append.mp cut
  have free : ∀ c ∈ inside, quotes.has c = false := fun c here => by simpa using plain c here
  have changed := applyLine?_literal split isQuote free isLast fresh ⟨aloneBefore,
    @not_infix_quoted _ _ _ [' '] isQuote (by decide) aloneBody aloneAfter⟩
  refine ⟨⟨inside, last, left, split, free, isLast, changed⟩, ?_⟩
  rw [changed, append_of_split split, ← left_eq_nil_iff split isQuote free isLast,
    ← parenthesis_eq_iff split isQuote after]
  simp

theorem wrapLiteralFix_of_apostrophe :
    wrapLiteralFix.applyLine? "throw \x22it's late\x22;".toList =
        some "throw new Error(\x22it')s late\x22;".toList ∧
      wrapLiteralFix.applyLine? "throw \x22it's late\x22;".toList ≠
        some "throw new Error(\x22it's late\x22);".toList := by
  have changed : wrapLiteralFix.applyLine? "throw \x22it's late\x22;".toList =
      some "throw new Error(\x22it')s late\x22;".toList := by decide +kernel
  have whole := (@wrapLiteralFix_whole_iff [] "it's late".toList [';'] '"' (by decide)
      rfl (by decide) (by decide) (by decide)).2
  refine ⟨changed, fun same => ?_⟩
  have quote := whole.mp same '\'' (by decide)
  exact absurd quote (by decide)

end Literal

end Compliance
