import Compliance.Proofs.Pattern.Matches

/-!
# Readings of common parts

Texts, runs of characters, choices of words and groups, each with the words it
reads.  With these equations a reading of a concrete pattern turns into the
pieces of the word, and the groups of a match into some of those pieces.
-/

namespace Compliance

def Blank (text : Text) : Prop := ∀ c ∈ text, isBlank c = true

theorem all_noneOf_iff {stop : Char} {text : String} (only : text.toList = [stop]) {run : Text} :
    (∀ c ∈ run, (CharSet.noneOf text).has c = true) ↔ stop ∉ run := by
  have has (c : Char) : (CharSet.noneOf text).has c = true ↔ c ≠ stop := by
    simp [CharSet.noneOf, CharSet.anyOf, CharSet.ofText, CharSet.has, only]
  simp only [has]
  exact ⟨fun all here => all stop here rfl, fun none c here same => none (same ▸ here)⟩

namespace Pattern

variable {behind word rest : Text} {marks : List Mark}

@[simp] theorem reads_append (first second : Pattern) :
    (first ++ second).Reads behind word rest marks ↔
      ∃ head tail headMarks tailMarks, word = head ++ tail ∧ marks = headMarks ++ tailMarks ∧
        first.Reads behind head (tail ++ rest) headMarks ∧
        second.Reads (head.reverse ++ behind) tail rest tailMarks := Iff.rfl

@[simp] theorem reads_single (chars : CharSet) :
    (single chars).Reads behind word rest marks ↔
      ∃ c, chars.has c = true ∧ word = [c] ∧ marks = [] := Iff.rfl

@[simp] theorem reads_alt (first second : Pattern) :
    (alt first second).Reads behind word rest marks ↔
      first.Reads behind word rest marks ∨ second.Reads behind word rest marks := Iff.rfl

@[simp] theorem reads_opt (body : Pattern) :
    (opt body).Reads behind word rest marks ↔
      body.Reads behind word rest marks ∨ word = [] ∧ marks = [] := Iff.rfl

@[simp] theorem reads_wordEdge :
    wordEdge.Reads behind word rest marks ↔
      word = [] ∧ marks = [] ∧ (behind.head?.any isWord != rest.head?.any isWord) = true :=
  Iff.rfl

@[simp] theorem reads_textStart :
    textStart.Reads behind word rest marks ↔ word = [] ∧ marks = [] ∧ behind = [] := by
  simp [textStart, Reads, Edge.holds]

@[simp] theorem reads_textEnd :
    textEnd.Reads behind word rest marks ↔ word = [] ∧ marks = [] ∧ rest = [] := by
  simp [textEnd, Reads, Edge.holds]

private theorem reads_foldl_char (text : Text) (first : Pattern) :
    ((text.map char).foldl seq first).Reads behind word rest marks ↔
      ∃ head, word = head ++ text ∧ first.Reads behind head (text ++ rest) marks := by
  induction text generalizing first with
  | nil => simp
  | cons c text ih =>
      simp only [List.map_cons, List.foldl_cons, ih]
      constructor
      · rintro ⟨_, rfl, head, _, headMarks, _, rfl, rfl, reads, x, same, rfl, rfl⟩
        obtain rfl : x = c := by simpa [CharSet.has] using same
        exact ⟨head, by simp, by simpa using reads⟩
      · rintro ⟨head, rfl, reads⟩
        exact ⟨head ++ [c], by simp, head, [c], marks, [], rfl, by simp, by simpa using reads,
          c, by simp [CharSet.has], rfl, rfl⟩

@[simp] theorem reads_ofText (text : Text) :
    (ofText text).Reads behind word rest marks ↔ word = text ∧ marks = [] := by
  cases text with
  | nil => exact Iff.rfl
  | cons c text =>
      simp only [ofText, List.map_cons, inTurn, reads_foldl_char]
      constructor
      · rintro ⟨_, rfl, x, same, rfl, rfl⟩
        obtain rfl : x = c := by simpa [CharSet.has] using same
        exact ⟨rfl, rfl⟩
      · rintro ⟨rfl, rfl⟩
        exact ⟨[c], rfl, c, by simp [CharSet.has], rfl, rfl⟩

@[simp] theorem reads_lit (text : String) :
    (lit text).Reads behind word rest marks ↔ word = text.toList ∧ marks = [] :=
  reads_ofText text.toList

@[simp] theorem reads_words (texts : List String) :
    (words texts).Reads behind word rest marks ↔
      (∃ text ∈ texts, word = text.toList) ∧ marks = [] := by
  induction texts with
  | nil => simp [words, oneOf, Reads]
  | cons text texts ih =>
      cases texts with
      | nil => simp [words, oneOf]
      | cons next texts =>
          have choice : words (text :: next :: texts) = alt (lit text) (words (next :: texts)) :=
            rfl
          rw [choice, reads_alt, ih]
          simp only [reads_lit, List.mem_cons]
          constructor
          · rintro (⟨rfl, rfl⟩ | ⟨⟨other, listed, rfl⟩, rfl⟩)
            · exact ⟨⟨text, .inl rfl, rfl⟩, rfl⟩
            · exact ⟨⟨other, .inr listed, rfl⟩, rfl⟩
          · rintro ⟨⟨other, rfl | listed, rfl⟩, rfl⟩
            · exact .inl ⟨rfl, rfl⟩
            · exact .inr ⟨⟨other, listed, rfl⟩, rfl⟩

@[simp] theorem plain_append (first second : Pattern) :
    (first ++ second).plain = (first.plain && second.plain) := rfl

@[simp] theorem plain_ofText (text : Text) : (ofText text).plain = true := by
  have fold (text : Text) (first : Pattern) (h : first.plain = true) :
      ((text.map char).foldl seq first).plain = true := by
    induction text generalizing first with
    | nil => exact h
    | cons c text ih => exact ih _ (by simp [plain, char, h])
  cases text with
  | nil => rfl
  | cons c text => exact fold text (char c) rfl

/-! ## Runs -/

theorem rounds_single_iff (chars : CharSet) :
    Rounds (single chars).Reads behind word rest marks ↔
      (∀ c ∈ word, chars.has c = true) ∧ marks = [] := by
  constructor
  · intro rounds
    induction rounds with
    | done => simp
    | more reads _ ih =>
        obtain ⟨c, has, rfl, rfl⟩ := reads
        simpa [has, ih.2] using ih.1
  · rintro ⟨all, rfl⟩
    induction word generalizing behind with
    | nil => exact .done behind rest
    | cons c word ih =>
        have head : (single chars).Reads behind [c] (word ++ rest) [] :=
          ⟨c, all c (by simp), rfl, rfl⟩
        have tail : Rounds (single chars).Reads ([c].reverse ++ behind) word rest [] :=
          ih fun x listed => all x (by simp [listed])
        exact .more head tail

@[simp] theorem reads_many (chars : CharSet) :
    (many chars).Reads behind word rest marks ↔
      (∀ c ∈ word, chars.has c = true) ∧ marks = [] :=
  rounds_single_iff chars

@[simp] theorem reads_many1 (chars : CharSet) :
    (many1 chars).Reads behind word rest marks ↔
      word ≠ [] ∧ (∀ c ∈ word, chars.has c = true) ∧ marks = [] := by
  constructor
  · rintro ⟨_, tail, _, _, rfl, rfl, ⟨c, has, rfl, rfl⟩, rounds⟩
    obtain ⟨all, rfl⟩ := (rounds_single_iff chars).mp rounds
    simpa [has] using all
  · rintro ⟨nonempty, all, rfl⟩
    obtain ⟨c, word, rfl⟩ := List.exists_cons_of_ne_nil nonempty
    exact ⟨[c], word, [], [], rfl, rfl, ⟨c, all c (by simp), rfl, rfl⟩,
      (rounds_single_iff chars).mpr ⟨fun x listed => all x (by simp [listed]), rfl⟩⟩

@[simp] theorem reads_blanks :
    blanks.Reads behind word rest marks ↔ (∀ c ∈ word, isBlank c = true) ∧ marks = [] :=
  reads_many .blank

@[simp] theorem reads_blanks1 :
    blanks1.Reads behind word rest marks ↔
      word ≠ [] ∧ (∀ c ∈ word, isBlank c = true) ∧ marks = [] :=
  reads_many1 .blank

@[simp] theorem reads_group (index : Nat) (body : Pattern) :
    (group index body).Reads behind word rest marks ↔
      ∃ inner, body.Reads behind word rest inner ∧
        marks = ⟨true, index, .between behind (word ++ rest)⟩ :: inner ++
          [⟨false, index, .between (word.reverse ++ behind) rest⟩] := Iff.rfl

def groupless : Pattern → Bool
  | seq first second => first.groupless && second.groupless
  | alt first second => first.groupless && second.groupless
  | star _ body => body.groupless
  | plus _ body => body.groupless
  | group _ _ => false
  | _ => true

theorem Reads.marks_eq_nil {pattern : Pattern} (none : pattern.groupless = true)
    (reads : pattern.Reads behind word rest marks) : marks = [] := by
  have rounds_eq_nil {body : Pattern} (sound : ∀ {behind word rest : Text} {marks : List Mark},
      body.Reads behind word rest marks → marks = []) {behind word rest : Text}
      {marks : List Mark} (rounds : Rounds body.Reads behind word rest marks) : marks = [] := by
    induction rounds with
    | done => rfl
    | more reads _ ih => simp [sound reads, ih]
  induction pattern generalizing behind word rest marks with
  | empty => exact reads.2
  | never => exact reads.elim
  | single chars =>
      obtain ⟨c, -, -, rfl⟩ := reads
      rfl
  | seq first second ihFirst ihSecond =>
      obtain ⟨noneFirst, noneSecond⟩ := Bool.and_eq_true_iff.mp none
      obtain ⟨head, tail, headMarks, tailMarks, -, rfl, readsHead, readsTail⟩ := reads
      simp [ihFirst noneFirst readsHead, ihSecond noneSecond readsTail]
  | alt first second ihFirst ihSecond =>
      obtain ⟨noneFirst, noneSecond⟩ := Bool.and_eq_true_iff.mp none
      rcases reads with reads | reads
      · exact ihFirst noneFirst reads
      · exact ihSecond noneSecond reads
  | star greedy body ih => exact rounds_eq_nil (ih none) reads
  | plus greedy body ih =>
      obtain ⟨head, tail, headMarks, tailMarks, -, rfl, readsHead, rounds⟩ := reads
      simp [ih none readsHead, rounds_eq_nil (ih none) rounds]
  | group index body ih => simp [groupless] at none
  | edge condition => exact reads.2.1

/-! ## Sequences

A sequence leans to the left, so its parts are read off from the last one to the first. -/

theorem reads_append_of_token {token : Pattern} {Word : Text → Prop} (first : Pattern)
    (reads : ∀ {behind word rest : Text} {marks : List Mark},
      token.Reads behind word rest marks ↔ Word word ∧ marks = []) :
    (first ++ token).Reads behind word rest marks ↔
      ∃ head tail, word = head ++ tail ∧ Word tail ∧
        first.Reads behind head (tail ++ rest) marks := by
  simp only [reads_append, reads]
  constructor
  · rintro ⟨head, tail, headMarks, _, rfl, rfl, readsHead, readsTail, rfl⟩
    exact ⟨head, tail, rfl, readsTail, by simpa using readsHead⟩
  · rintro ⟨head, tail, rfl, readsTail, readsHead⟩
    exact ⟨head, tail, marks, [], rfl, by simp, readsHead, readsTail, rfl⟩

theorem reads_append_lit (first : Pattern) (text : String) :
    (first ++ lit text).Reads behind word rest marks ↔
      ∃ head, word = head ++ text.toList ∧
        first.Reads behind head (text.toList ++ rest) marks :=
  (reads_append_of_token first (reads_lit text)).trans (by grind)

theorem reads_append_ofText (first : Pattern) (text : Text) :
    (first ++ ofText text).Reads behind word rest marks ↔
      ∃ head, word = head ++ text ∧ first.Reads behind head (text ++ rest) marks :=
  (reads_append_of_token first (reads_ofText text)).trans (by grind)

theorem reads_append_many (first : Pattern) (chars : CharSet) :
    (first ++ many chars).Reads behind word rest marks ↔
      ∃ head run, word = head ++ run ∧ (∀ c ∈ run, chars.has c = true) ∧
        first.Reads behind head (run ++ rest) marks :=
  reads_append_of_token first (reads_many chars)

theorem reads_append_many1 (first : Pattern) (chars : CharSet) :
    (first ++ many1 chars).Reads behind word rest marks ↔
      ∃ head run, word = head ++ run ∧ (run ≠ [] ∧ ∀ c ∈ run, chars.has c = true) ∧
        first.Reads behind head (run ++ rest) marks :=
  reads_append_of_token first (by simp [and_assoc])

theorem reads_append_blanks (first : Pattern) :
    (first ++ blanks).Reads behind word rest marks ↔
      ∃ head run, word = head ++ run ∧ (∀ c ∈ run, isBlank c = true) ∧
        first.Reads behind head (run ++ rest) marks :=
  reads_append_of_token first reads_blanks

theorem reads_append_blanks1 (first : Pattern) :
    (first ++ blanks1).Reads behind word rest marks ↔
      ∃ head run, word = head ++ run ∧ (run ≠ [] ∧ ∀ c ∈ run, isBlank c = true) ∧
        first.Reads behind head (run ++ rest) marks :=
  reads_append_of_token first (by simp [and_assoc])

theorem reads_append_single (first : Pattern) (chars : CharSet) :
    (first ++ single chars).Reads behind word rest marks ↔
      ∃ head c, word = head ++ [c] ∧ chars.has c = true ∧
        first.Reads behind head (c :: rest) marks := by
  have token {behind word rest : Text} {marks : List Mark} :
      (single chars).Reads behind word rest marks ↔
        (∃ c, chars.has c = true ∧ word = [c]) ∧ marks = [] := by
    rw [reads_single]
    grind
  exact (reads_append_of_token first token).trans (by grind)

theorem reads_append_wordEdge (first : Pattern) :
    (first ++ wordEdge).Reads behind word rest marks ↔
      ((word.reverse ++ behind).head?.any isWord != rest.head?.any isWord) = true ∧
        first.Reads behind word rest marks := by
  simp only [reads_append, reads_wordEdge]
  constructor
  · rintro ⟨head, _, headMarks, _, rfl, rfl, reads, rfl, rfl, edge⟩
    exact ⟨by simpa using edge, by simpa using reads⟩
  · rintro ⟨edge, reads⟩
    exact ⟨word, [], marks, [], by simp, by simp, reads, rfl, rfl, edge⟩

theorem reads_append_textEnd (first : Pattern) :
    (first ++ textEnd).Reads behind word rest marks ↔
      rest = [] ∧ first.Reads behind word rest marks := by
  simp only [reads_append, reads_textEnd]
  constructor
  · rintro ⟨head, _, headMarks, _, rfl, rfl, reads, rfl, rfl, rfl⟩
    exact ⟨rfl, by simpa using reads⟩
  · rintro ⟨rfl, reads⟩
    exact ⟨word, [], marks, [], by simp, by simp, reads, rfl, rfl, rfl⟩

theorem reads_append_opt (first body : Pattern) :
    (first ++ opt body).Reads behind word rest marks ↔
      (first ++ body).Reads behind word rest marks ∨ first.Reads behind word rest marks := by
  simp only [reads_append, reads_opt]
  constructor
  · rintro ⟨head, tail, headMarks, tailMarks, rfl, rfl, readsHead, readsTail | ⟨rfl, rfl⟩⟩
    · exact .inl ⟨head, tail, headMarks, tailMarks, rfl, rfl, readsHead, readsTail⟩
    · exact .inr (by simpa using readsHead)
  · rintro (⟨head, tail, headMarks, tailMarks, rfl, rfl, readsHead, readsTail⟩ | reads)
    · exact ⟨head, tail, headMarks, tailMarks, rfl, rfl, readsHead, .inl readsTail⟩
    · exact ⟨word, [], marks, [], by simp, by simp, reads, .inr ⟨rfl, rfl⟩⟩

theorem reads_append_group (first : Pattern) (index : Nat) (body : Pattern) :
    (first ++ group index body).Reads behind word rest marks ↔
      ∃ head inside headMarks inner, word = head ++ inside ∧
        marks = headMarks ++ ⟨true, index, .between (head.reverse ++ behind) (inside ++ rest)⟩ ::
          inner ++ [⟨false, index, .between (inside.reverse ++ (head.reverse ++ behind)) rest⟩] ∧
        body.Reads (head.reverse ++ behind) inside rest inner ∧
        first.Reads behind head (inside ++ rest) headMarks := by
  simp only [reads_append, reads_group]
  constructor
  · rintro ⟨head, inside, headMarks, _, rfl, rfl, readsHead, inner, readsInner, rfl⟩
    exact ⟨head, inside, headMarks, inner, rfl, by simp, readsInner, readsHead⟩
  · rintro ⟨head, inside, headMarks, inner, rfl, rfl, readsInner, readsHead⟩
    exact ⟨head, inside, headMarks, _, rfl, by simp, readsHead, inner, readsInner, rfl⟩

theorem reads_wordEdge_lit (text : String) :
    (wordEdge ++ lit text).Reads behind word rest marks ↔
      word = text.toList ∧ marks = [] ∧
        (behind.head?.any isWord != (text.toList ++ rest).head?.any isWord) = true := by
  rw [reads_append_lit]
  simp only [reads_wordEdge]
  grind

/-! ## The best way through texts and runs -/

def along (text : Text) (rest : Sequel) : Sequel := fun behind ahead =>
  if text.isPrefixOf ahead then rest (text.reverse ++ behind) (ahead.drop text.length) else none

theorem best_char_along (c : Char) (text : Text) (rest : Sequel) :
    (char c).best (along text rest) = along (c :: text) rest := by
  funext behind ahead
  cases ahead with
  | nil => simp [char, along]
  | cons first ahead =>
      by_cases same : first = c
      · subst same
        simp [char, along, CharSet.has]
      · have other : ¬ c = first := fun h => same h.symm
        simp [char, along, CharSet.has, same, other]

theorem best_foldl_char (text : Text) {first : Pattern} (isPlain : first.plain = true)
    (rest : Sequel) :
    ((text.map char).foldl seq first).best rest = first.best (along text rest) := by
  induction text generalizing first with
  | nil =>
      have nothing : along [] rest = rest := by
        funext behind ahead
        simp [along]
      rw [nothing]
      rfl
  | cons c text ih =>
      have plain : (seq first (char c)).plain = true := by simp [plain, isPlain, char]
      rw [List.map_cons, List.foldl_cons, ih plain, best_seq _ _ _ isPlain, best_char_along]

theorem best_ofText (text : Text) (rest : Sequel) : (ofText text).best rest = along text rest := by
  cases text with
  | nil =>
      funext behind ahead
      simp [ofText, inTurn, along]
  | cons c text =>
      rw [ofText, List.map_cons, inTurn, best_foldl_char text (by rfl), best_char_along]

theorem best_many_of_total {chars : CharSet} {rest : Sequel}
    (total : ∀ behind ahead, (rest behind ahead).isSome) {run after : Text}
    (all : ∀ c ∈ run, chars.has c = true) (stops : after.head?.all (!chars.has ·) = true)
    (behind : Text) :
    (many chars).best rest behind (run ++ after) = rest (run.reverse ++ behind) after := by
  induction run generalizing behind with
  | nil =>
      rw [many, best_star true _ rest rfl]
      cases after with
      | nil => simp [preferring]
      | cons c after =>
          have : chars.has c = false := by simpa using stops
          simp [preferring, this]
  | cons c run ih =>
      have rest_run := ih (fun x here => all x (by simp [here])) (c :: behind)
      obtain ⟨outcome, found⟩ :=
        Option.isSome_iff_exists.mp (total (run.reverse ++ c :: behind) after)
      rw [many] at rest_run
      rw [many, best_star true _ rest rfl, List.cons_append, best_single_cons,
        all c (by simp), if_pos rfl, rest_run, found]
      simp [preferring, found]
end Pattern

namespace Match

@[simp] theorem upTo_between (behind word rest : Text) :
    (Cursor.between behind (word ++ rest)).upTo (.between (word.reverse ++ behind) rest) =
      word := by
  simp [Cursor.upTo, Cursor.between]

theorem lastSpan_append {index : Nat} {marks : List Mark}
    (others : ∀ mark ∈ marks, mark.index ≠ index) (opened : Option Cursor)
    (found : Option (Cursor × Cursor)) (more : List Mark) :
    lastSpan index opened found (marks ++ more) = lastSpan index opened found more := by
  induction marks with
  | nil => rfl
  | cons mark marks ih =>
      have differs := others mark (by simp)
      simp only [List.cons_append, lastSpan, if_pos differs]
      exact ih fun other here => others other (by simp [here])

theorem group?_of {index : Nat} {behind word rest before inside after : Text}
    {marks earlier inner others : List Mark} (positive : index ≠ 0)
    (here : marks = earlier ++ ⟨true, index, .between before (inside ++ after)⟩ :: (inner ++
      ⟨false, index, .between (inside.reverse ++ before) after⟩ :: others))
    (notEarlier : ∀ mark ∈ earlier, mark.index ≠ index)
    (notInner : ∀ mark ∈ inner, mark.index ≠ index)
    (notOthers : ∀ mark ∈ others, mark.index ≠ index) :
    (of behind word rest marks).group? index = some inside := by
  have last := lastSpan_append notOthers none (some (.between before (inside ++ after),
    .between (inside.reverse ++ before) after)) []
  simp only [List.append_nil] at last
  subst here
  simp [group?, positive, lastSpan, lastSpan_append notEarlier, lastSpan_append notInner, last]

end Match

def oneGroup (index : Nat) (before inside after : Text) : List Mark :=
  [⟨true, index, .between before (inside ++ after)⟩,
    ⟨false, index, .between (inside.reverse ++ before) after⟩]

section

variable {behind word rest : Text}

theorem group?_oneGroup {index : Nat} (positive : index ≠ 0) (before inside after : Text) :
    (Match.of behind word rest (oneGroup index before inside after)).group? index =
      some inside := by
  have nothing : ∀ mark ∈ ([] : List Mark), mark.index ≠ index := by simp
  have split : oneGroup index before inside after = [] ++ _ :: ([] ++ _ :: []) := rfl
  exact Match.group?_of positive split nothing nothing nothing

theorem group_oneGroup {index : Nat} (positive : index ≠ 0) {before inside after : Text} :
    (Match.of behind word rest (oneGroup index before inside after)).group index = inside := by
  rw [Match.group, group?_oneGroup positive, Option.getD_some]

end

end Compliance
