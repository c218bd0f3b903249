import Compliance.Proofs.Fix.Gain
import Compliance.Proofs.Fix.Kept
import Compliance.Proofs.Text.Stretches

/-!
# Empty handlers after their fix

Where an empty handler stands on a line whose empty handlers were made to
rethrow: in a stretch that the fix did not match, or inside the parameter of one that
it did.
-/

namespace Compliance

open Pattern

variable {behind word rest : Text} {marks : List Mark}

def Bare (behind : Text) : Prop :=
  behind.head?.all (CharSet.compl (.one '.' ∪ nameChars)).has = true

def Parameters (binding : Text) : Prop :=
  binding = [] ∨ ∃ body, binding = '(' :: (body ++ [')']) ∧ ')' ∉ body

/-- The text starts with a handler, and what follows its opening brace has the property. -/
def HandlerAt (tail : Text → Prop) (ahead : Text) : Prop :=
  ∃ gap binding before after,
    ahead = "catch".toList ++ (gap ++ (binding ++ (before ++ '\x7b' :: after))) ∧ Blank gap ∧
      Parameters binding ∧ Blank before ∧ tail after

def Caught (tail : Text → Prop) (behind ahead : Text) : Prop :=
  ∃ front back, ahead = front ++ back ∧ Bare (front.reverse ++ behind) ∧ HandlerAt tail back

def Closes (after : Text) : Prop := ∃ inside rest, after = inside ++ '\x7d' :: rest ∧ Blank inside

def Lead (behind lead : Text) : Prop :=
  (lead = [] ∧ behind = []) ∨
    ∃ c, lead = [c] ∧ (CharSet.compl (.one '.' ∪ nameChars)).has c = true

theorem reads_freshWord :
    freshWord.Reads behind word rest marks ↔ Lead behind word ∧ marks = [] := by
  simp only [freshWord, reads_alt, reads_textStart, reads_single, Lead]
  constructor
  · rintro (⟨rfl, rfl, rfl⟩ | ⟨c, has, rfl, rfl⟩)
    · exact ⟨.inl ⟨rfl, rfl⟩, rfl⟩
    · exact ⟨.inr ⟨c, rfl, has⟩, rfl⟩
  · rintro ⟨⟨rfl, rfl⟩ | ⟨c, rfl, has⟩, rfl⟩
    · exact .inl ⟨rfl, rfl, rfl⟩
    · exact .inr ⟨c, has, rfl, rfl⟩

theorem reads_catchBinding :
    catchBinding.Reads behind word rest marks ↔ Parameters word ∧ marks = [] := by
  simp only [catchBinding, reads_opt, reads_append_lit, reads_append_many, reads_lit,
    all_noneOf_iff (show ")".toList = [')'] from rfl), Parameters]
  constructor
  · rintro (⟨_, rfl, _, body, rfl, open_, rfl, rfl⟩ | ⟨rfl, rfl⟩)
    · exact ⟨.inr ⟨body, rfl, open_⟩, rfl⟩
    · exact ⟨.inl rfl, rfl⟩
  · rintro ⟨rfl | ⟨body, rfl, open_⟩, rfl⟩
    · exact .inr ⟨rfl, rfl⟩
    · exact .inl ⟨'(' :: body, rfl, ['('], body, rfl, open_, rfl, rfl⟩

theorem reads_catchHead :
    catchHead.Reads behind word rest marks ↔
      ∃ lead gap binding before,
        word = lead ++ ("catch".toList ++ (gap ++ (binding ++ (before ++ ['\x7b'])))) ∧
        Lead behind lead ∧ Blank gap ∧ Parameters binding ∧ Blank before ∧ marks = [] := by
  simp only [catchHead, reads_append_lit, reads_append_blanks,
    reads_append_of_token _ reads_catchBinding, reads_freshWord]
  constructor
  · rintro ⟨_, rfl, _, before, rfl, blank, _, binding, rfl, isBinding, _, gap, rfl,
      isGap, lead, rfl, isLead, rfl⟩
    exact ⟨lead, gap, binding, before, by simp, isLead, isGap, isBinding, blank, rfl⟩
  · rintro ⟨lead, gap, binding, before, rfl, isLead, isGap, isBinding, blank, rfl⟩
    exact ⟨lead ++ ("catch".toList ++ (gap ++ (binding ++ before))), by simp,
      lead ++ ("catch".toList ++ (gap ++ binding)), before, by simp, blank,
      lead ++ ("catch".toList ++ gap), binding, by simp, isBinding, lead ++ "catch".toList, gap,
      by simp, isGap, lead, rfl, isLead, rfl⟩

theorem bare_nil : Bare [] := rfl

theorem caught_iff_lead {tail : Text → Prop} {text : Text} :
    Caught tail [] text ↔
      ∃ gap lead back, text = gap ++ (lead ++ back) ∧ Lead gap.reverse lead ∧
        HandlerAt tail back := by
  constructor
  · rintro ⟨front, back, rfl, bare, handler⟩
    rcases List.eq_nil_or_concat front with rfl | ⟨gap, c, rfl⟩
    · exact ⟨[], [], back, rfl, .inl ⟨rfl, rfl⟩, handler⟩
    · exact ⟨gap, [c], back, by simp, .inr ⟨c, rfl, by simpa [Bare] using bare⟩, handler⟩
  · rintro ⟨gap, lead, back, rfl, ⟨rfl, start⟩ | ⟨c, rfl, has⟩, handler⟩
    · obtain rfl := List.reverse_eq_nil_iff.mp start
      exact ⟨[], back, rfl, bare_nil, handler⟩
    · exact ⟨gap ++ [c], back, by simp, by simpa [Bare] using has, handler⟩

theorem occurs_catchEmpty {text : Text} :
    catchEmpty.occurs text = true ↔ Caught Closes [] text := by
  rw [occurs_iff (by decide), caught_iff_lead]
  simp only [OccursAfter, ReadsAt, catchEmpty, reads_append_lit, reads_append_blanks,
    reads_catchHead, List.append_nil]
  constructor
  · rintro ⟨gap, _, rfl, _, rest, _, rfl, _, rfl, _, inside, rfl, blank, lead, space, binding,
      before, rfl, isLead, isGap, isBinding, blankBefore, rfl⟩
    exact ⟨gap, lead, "catch".toList ++ (space ++ (binding ++ (before ++ '\x7b' :: (inside ++
      '\x7d' :: rest)))), by simp, isLead, space, binding, before, inside ++ '\x7d' :: rest, rfl,
      isGap, isBinding, blankBefore, inside, rest, rfl, blank⟩
  · rintro ⟨gap, lead, _, rfl, isLead, space, binding, before, _, rfl, isGap, isBinding,
      blankBefore, inside, rest, rfl, blank⟩
    exact ⟨gap, _, rfl, lead ++ ("catch".toList ++ (space ++ (binding ++ (before ++ ['\x7b'])))) ++
      inside ++ ['\x7d'], rest, [], by simp, _, rfl, _, inside, rfl, blank, lead, space, binding,
      before, rfl, isLead, isGap, isBinding, blankBefore, rfl⟩

theorem occurs_catchOpen {text : Text} : catchOpen.occurs text = true ↔ Caught Blank [] text := by
  rw [occurs_iff (by decide), caught_iff_lead]
  simp only [OccursAfter, ReadsAt, catchOpen, reads_append_textEnd, reads_append_blanks,
    reads_catchHead, List.append_nil]
  constructor
  · rintro ⟨gap, _, rfl, _, _, _, rfl, rfl, _, after, rfl, blank, lead, space, binding, before, rfl,
      isLead, isGap, isBinding, blankBefore, rfl⟩
    exact ⟨gap, lead, "catch".toList ++ (space ++ (binding ++ (before ++ '\x7b' :: after))),
      by simp, isLead, space, binding, before, after, rfl, isGap, isBinding, blankBefore, blank⟩
  · rintro ⟨gap, lead, _, rfl, isLead, space, binding, before, after, rfl, isGap, isBinding,
      blankBefore, blank⟩
    exact ⟨gap, _, rfl, lead ++ ("catch".toList ++ (space ++ (binding ++ (before ++ ['\x7b'])))) ++
      after, [], [], by simp, rfl, _, after, rfl, blank, lead, space, binding, before, rfl, isLead,
      isGap, isBinding, blankBefore, rfl⟩

/-! ## Walls -/

/-- Of a text that goes on with a visible character, `tail` asks no more than `within` of the part
before that character. -/
structure Cutting (tail within : Text → Prop) : Prop where
  cut {before after : Text} {c : Char} :
    isBlank c = false → c ≠ '\x7d' → (tail (before ++ c :: after) ↔ within before)
  notBlank {before : Text} : Blank before → ¬ within before

/-- No handler that starts before the character goes on beyond it. -/
structure Wall (tail : Text → Prop) (c : Char) (rest : Text) : Prop where
  visible : isBlank c = false
  mark : c ≠ '(' ∧ c ≠ '\x7b' ∧ c ≠ '\x7d'
  letters : ∀ part ∈ ["atch", "tch", "ch", "h"], ¬ part.toList <+: c :: rest
  stuck {body before after : Text} : c :: rest = body ++ ')' :: (before ++ '\x7b' :: after) →
    ')' ∉ body → Blank before → ¬ tail after

theorem append_of_blank {gap more front rest : Text} {c : Char} (blank : Blank gap)
    (visible : isBlank c = false) (split : front ++ c :: rest = gap ++ more) :
    ∃ left, front = gap ++ left ∧ more = left ++ c :: rest := by
  rcases List.append_eq_append_iff.mp split with ⟨left, rfl, here⟩ | ⟨left, rfl, rfl⟩
  · cases left with
    | nil => exact ⟨[], by simp, by simpa using here.symm⟩
    | cons first left =>
        obtain ⟨rfl, -⟩ := List.cons.inj here
        have := blank c (by simp)
        simp [visible] at this
  · exact ⟨left, rfl, rfl⟩

theorem append_of_keyword {more front rest : Text} {c : Char} (nonempty : front ≠ [])
    (letters : ∀ part ∈ ["atch", "tch", "ch", "h"], ¬ part.toList <+: c :: rest)
    (split : front ++ c :: rest = "catch".toList ++ more) :
    ∃ left, front = "catch".toList ++ left ∧ more = left ++ c :: rest := by
  rcases List.append_eq_append_iff.mp split with ⟨left, shape, here⟩ | ⟨left, rfl, rfl⟩
  · have drop : "catch".toList.drop front.length = left := by rw [shape, List.drop_left]
    have size : front.length ≤ 5 := by
      have := congrArg List.length shape
      simp only [List.length_append] at this
      change 5 = _ at this
      omega
    have some : 0 < front.length := List.length_pos_iff.mpr nonempty
    have starts : left <+: c :: rest := ⟨more, here.symm⟩
    have cases : front.length = 1 ∨ front.length = 2 ∨ front.length = 3 ∨ front.length = 4 ∨
        front.length = 5 := by omega
    rcases cases with one | one | one | one | one <;> rw [one] at drop <;> subst drop
    · exact absurd starts (letters "atch" (by simp))
    · exact absurd starts (letters "tch" (by simp))
    · exact absurd starts (letters "ch" (by simp))
    · exact absurd starts (letters "h" (by simp))
    · refine ⟨[], ?_, here.symm⟩
      rw [List.append_nil, shape]
      exact (List.append_nil front).symm
  · exact ⟨left, rfl, rfl⟩

theorem append_of_parameters {tail : Text → Prop}
    {binding before after front rest : Text} {c : Char}
    (wall : Wall tail c rest) (isBinding : Parameters binding) (blank : Blank before)
    (holds : tail after) (split : front ++ c :: rest = binding ++ (before ++ '\x7b' :: after)) :
    ∃ left, front = binding ++ left ∧ before ++ '\x7b' :: after = left ++ c :: rest := by
  rcases isBinding with rfl | ⟨body, rfl, closed⟩
  · exact ⟨front, rfl, split.symm⟩
  · cases front with
    | nil =>
        obtain ⟨rfl, -⟩ := List.cons.inj split
        exact absurd rfl wall.mark.1
    | cons first front =>
        simp only [List.cons_append, List.cons.injEq, List.append_assoc] at split
        obtain ⟨rfl, split⟩ := split
        rcases List.append_eq_append_iff.mp split with ⟨left, rfl, here⟩ | ⟨left, rfl, here⟩
        · have outside : ')' ∉ left := fun inside => closed (by simp [inside])
          exact absurd holds (wall.stuck here outside blank)
        · cases left with
          | nil =>
              have start : c :: rest = [] ++ ')' :: (before ++ '\x7b' :: after) := here.symm
              exact absurd holds (wall.stuck start (by simp) blank)
          | cons next left =>
              simp only [List.cons_append, List.cons.injEq, List.nil_append] at here
              obtain ⟨rfl, here⟩ := here
              exact ⟨left, by simp, here⟩

theorem handlerAt_append {tail within : Text → Prop} (cutting : Cutting tail within)
    {front rest : Text} {c : Char} (nonempty : front ≠ []) (wall : Wall tail c rest) :
    HandlerAt tail (front ++ c :: rest) ↔ HandlerAt within front := by
  constructor
  · rintro ⟨gap, binding, before, after, split, blankGap, isBinding, blank, holds⟩
    obtain ⟨front, rfl, afterWord⟩ := append_of_keyword nonempty wall.letters split
    obtain ⟨front, rfl, afterGap⟩ := append_of_blank blankGap wall.visible afterWord.symm
    obtain ⟨front, rfl, afterBinding⟩ :=
      append_of_parameters wall isBinding blank holds afterGap.symm
    obtain ⟨front, rfl, block⟩ := append_of_blank blank wall.visible afterBinding.symm
    cases front with
    | nil =>
        obtain ⟨rfl, -⟩ := List.cons.inj block
        exact absurd rfl wall.mark.2.1
    | cons first front =>
        simp only [List.cons_append, List.cons.injEq] at block
        obtain ⟨rfl, rfl⟩ := block
        exact ⟨gap, binding, before, front, rfl, blankGap, isBinding, blank,
          (cutting.cut wall.visible wall.mark.2.2).mp holds⟩
  · rintro ⟨gap, binding, before, after, rfl, blankGap, isBinding, blank, holds⟩
    exact ⟨gap, binding, before, after ++ c :: rest, by simp, blankGap, isBinding, blank,
      (cutting.cut wall.visible wall.mark.2.2).mpr holds⟩

theorem caught_append {tail within : Text → Prop} (cutting : Cutting tail within)
    {front rest : Text} {c : Char} (wall : Wall tail c rest) :
    Caught tail behind (front ++ c :: rest) ↔
      Caught within behind front ∨ Caught tail (front.reverse ++ behind) (c :: rest) := by
  constructor
  · rintro ⟨first, back, split, bare, handler⟩
    rcases List.append_eq_append_iff.mp split with ⟨left, rfl, here⟩ | ⟨left, rfl, rfl⟩
    · exact .inr ⟨left, back, here, by simpa using bare, handler⟩
    · cases left with
      | nil => exact .inr ⟨[], c :: rest, rfl, by simpa using bare, handler⟩
      | cons next left =>
          exact .inl ⟨first, next :: left, rfl, bare,
            (handlerAt_append cutting (by simp) wall).mp handler⟩
  · rintro (⟨first, back, rfl, bare, handler⟩ | ⟨first, back, split, bare, handler⟩)
    · have nonempty : back ≠ [] := by
        rintro rfl
        obtain ⟨gap, binding, before, after, here, -⟩ := handler
        simp at here
      exact ⟨first, back ++ c :: rest, by simp, bare,
        (handlerAt_append cutting nonempty wall).mpr handler⟩
    · exact ⟨front ++ first, back, by simp [split], by simpa using bare, handler⟩

theorem caught_cons {tail : Text → Prop} {c : Char} {rest : Text}
    (none : ¬ HandlerAt tail (c :: rest)) :
    Caught tail behind (c :: rest) ↔ Caught tail (c :: behind) rest := by
  constructor
  · rintro ⟨front, back, split, bare, handler⟩
    cases front with
    | nil =>
        subst split
        exact absurd handler none
    | cons first front =>
        obtain ⟨rfl, rfl⟩ := List.cons.inj split
        exact ⟨front, back, rfl, by simpa using bare, handler⟩
  · rintro ⟨front, back, rfl, bare, handler⟩
    exact ⟨c :: front, back, rfl, by simpa using bare, handler⟩

theorem not_handlerAt_of_head {tail : Text → Prop} {c : Char} {rest : Text}
    (differs : ¬ "ca".toList <+: c :: rest) : ¬ HandlerAt tail (c :: rest) := by
  rintro ⟨gap, binding, before, after, split, -⟩
  apply differs
  rw [split]
  exact ⟨_, rfl⟩

theorem caught_skip {tail : Text → Prop} {text : Text} (none : 'c' ∉ text) (rest : Text) :
    Caught tail behind (text ++ rest) ↔ Caught tail (text.reverse ++ behind) rest := by
  induction text generalizing behind with
  | nil => rfl
  | cons c text ih =>
      simp only [List.mem_cons, not_or] at none
      have differs : ¬ "ca".toList <+: c :: (text ++ rest) := by
        simp [List.cons_prefix_cons, none.1]
      rw [List.cons_append, caught_cons (not_handlerAt_of_head differs), ih none.2]
      simp

theorem caught_of_bare {tail : Text → Prop} {ahead : Text} (bare : Bare behind) :
    Caught tail behind ahead ↔ Caught tail [] ahead := by
  have same (front : Text) : Bare (front.reverse ++ behind) ↔ Bare (front.reverse ++ []) := by
    cases front.reverse with
    | nil => simpa [Bare] using bare
    | cons c others => simp [Bare]
  simp only [Caught, same]

/-! ## Rethrowing handlers -/

def rethrowing (inner name : Text) : Text :=
  "catch (".toList ++ (inner ++ (')' :: (" \x7b throw ".toList ++ (name ++ "; \x7d".toList))))

theorem not_tail_throw {tail within : Text → Prop} (cutting : Cutting tail within)
    {before after rest : Text} (split : " \x7b throw ".toList ++ rest = before ++ '\x7b' :: after)
    (blank : Blank before) : ¬ tail after := by
  have shape : [' '] ++ '\x7b' :: ([' '] ++ 't' :: ("hrow ".toList ++ rest)) =
      before ++ '\x7b' :: after := split
  have outside : '\x7b' ∉ before := fun here => absurd (blank _ here) (by decide)
  obtain ⟨-, rfl⟩ := eq_of_append_cons shape (by simp) outside
  rw [cutting.cut (by decide) (by decide)]
  exact cutting.notBlank (by simp [Blank, isBlank])

theorem wall_catch {tail within : Text → Prop} (cutting : Cutting tail within) {inner : Text}
    (closed : ')' ∉ inner) (rest : Text) :
    Wall tail 'c' ("atch (".toList ++ (inner ++ (')' :: (" \x7b throw ".toList ++ rest)))) where
  visible := rfl
  mark := by decide
  letters := by simp [List.cons_prefix_cons]
  stuck split outside blank := by
    have shape : ("catch (".toList ++ inner) ++ ')' :: (" \x7b throw ".toList ++ rest) = _ := split
    obtain ⟨-, here⟩ := eq_of_append_cons shape (by simp [closed]) outside
    exact not_tail_throw cutting here blank

theorem wall_parenthesis {tail within : Text → Prop} (cutting : Cutting tail within) (rest : Text) :
    Wall tail ')' (" \x7b throw ".toList ++ rest) where
  visible := rfl
  mark := by decide
  letters := by simp [List.cons_prefix_cons]
  stuck split outside blank := by
    have shape : [] ++ ')' :: (" \x7b throw ".toList ++ rest) = _ := split
    obtain ⟨-, here⟩ := eq_of_append_cons shape (by simp) outside
    exact not_tail_throw cutting here blank

theorem not_handlerAt_open {within : Text → Prop} {inner : Text} (closed : ')' ∉ inner) :
    ¬ HandlerAt within ("catch (".toList ++ inner) := by
  rintro ⟨gap, binding, before, after, split, blankGap, isBinding, blank, -⟩
  have shape : "catch".toList ++ ([' '] ++ '(' :: inner) = _ := split
  have shape := List.append_cancel_left shape
  rcases isBinding with rfl | ⟨body, rfl, -⟩
  · obtain ⟨left, space, afterGap⟩ := append_of_blank blankGap (by decide) shape
    obtain ⟨last, rfl, block⟩ := append_of_blank blank (by decide) afterGap.symm
    cases last with
    | nil => exact absurd (List.cons.inj block).1 (by decide)
    | cons next last =>
        obtain ⟨rfl, -⟩ := List.cons.inj block
        have brace : '\x7b' ∈ [' '] := by simp [space]
        exact absurd brace (by decide)
  · have inside : ')' ∈ [' '] ++ '(' :: inner := by simp [shape]
    simp [closed] at inside

theorem head_of_handlerAt {tail : Text → Prop} {ahead : Text} (handler : HandlerAt tail ahead) :
    ∃ head next rest, ahead = head ++ next :: rest ∧ ';' ∉ head ∧
      (next = '(' ∨ next = '\x7b') := by
  obtain ⟨gap, binding, before, after, rfl, blankGap, isBinding, blank, -⟩ := handler
  have noStop {blanks : Text} (blank : Blank blanks) : ';' ∉ blanks := fun here =>
    absurd (blank _ here) (by decide)
  rcases isBinding with rfl | ⟨body, rfl, -⟩
  · refine ⟨"catch".toList ++ (gap ++ before), '\x7b', after, by simp, ?_, .inr rfl⟩
    simp [noStop blankGap, noStop blank]
  · refine ⟨"catch".toList ++ gap, '(', _, by simp; rfl, ?_, .inl rfl⟩
    simp [noStop blankGap]

theorem not_handlerAt_name {tail : Text → Prop} {name : Text}
    (all : ∀ c ∈ name, nameChars.has c = true) (rest : Text) :
    ¬ HandlerAt tail (name ++ ';' :: rest) := by
  intro handler
  obtain ⟨head, next, others, split, noStop, isMark⟩ := head_of_handlerAt handler
  have outside : nameChars.has next = false := by rcases isMark with rfl | rfl <;> decide
  rcases List.append_eq_append_iff.mp split with ⟨left, rfl, here⟩ | ⟨left, rfl, here⟩
  · cases left with
    | nil =>
        obtain ⟨rfl, -⟩ := List.cons.inj here
        rcases isMark with same | same <;> exact absurd same (by decide)
    | cons c left =>
        obtain ⟨rfl, -⟩ := List.cons.inj here
        simp at noStop
  · cases left with
    | nil =>
        obtain ⟨rfl, -⟩ := List.cons.inj here
        rcases isMark with same | same <;> exact absurd same (by decide)
    | cons c left =>
        obtain ⟨rfl, -⟩ := List.cons.inj here
        have inside := all next (by simp)
        simp [outside] at inside

theorem caught_name {tail : Text → Prop} {name : Text} (all : ∀ c ∈ name, nameChars.has c = true)
    (rest : Text) :
    Caught tail behind (name ++ ';' :: rest) ↔
    Caught tail (name.reverse ++ behind) (';' :: rest) := by
  induction name generalizing behind with
  | nil => rfl
  | cons c name ih =>
      have none : ¬ HandlerAt tail (c :: (name ++ ';' :: rest)) := not_handlerAt_name all rest
      rw [List.cons_append, caught_cons none, ih fun x here => all x (by simp [here])]
      simp

theorem not_handlerAt_rethrowing {tail within : Text → Prop} (cutting : Cutting tail within)
    {inner : Text} (closed : ')' ∉ inner) (rest : Text) :
    ¬ HandlerAt tail ("catch (".toList ++ (inner ++ ')' :: (" \x7b throw ".toList ++ rest))) := by
  intro handler
  rw [← List.append_assoc] at handler
  have wall := wall_parenthesis cutting rest
  exact not_handlerAt_open closed ((handlerAt_append cutting (by simp) wall).mp handler)

theorem caught_keyword {tail : Text → Prop} {rest : Text}
    (none : ¬ HandlerAt tail ("catch (".toList ++ rest)) :
    Caught tail behind ("catch (".toList ++ rest) ↔
      Caught tail ("catch (".toList.reverse ++ behind) rest := by
  have split : "catch (".toList ++ rest = 'c' :: ("at".toList ++ ('c' :: ("h (".toList ++ rest))) :=
    rfl
  have inside : ¬ HandlerAt tail ('c' :: ("h (".toList ++ rest)) :=
    not_handlerAt_of_head (by simp [List.cons_prefix_cons])
  rw [split] at none ⊢
  rw [caught_cons none, caught_skip (show 'c' ∉ "at".toList by decide), caught_cons inside,
    caught_skip (show 'c' ∉ "h (".toList by decide)]
  rfl

theorem caught_block {tail : Text → Prop} {name : Text}
    (all : ∀ c ∈ name, nameChars.has c = true) (behind later : Text) :
    Caught tail behind (')' :: (" \x7b throw ".toList ++ (name ++ ("; \x7d".toList ++ later)))) ↔
      Caught tail [] later := by
  have none : ¬ HandlerAt tail
      (')' :: (" \x7b throw ".toList ++ (name ++ ("; \x7d".toList ++ later)))) :=
    not_handlerAt_of_head (by simp [List.cons_prefix_cons])
  rw [caught_cons none, caught_skip (show 'c' ∉ " \x7b throw ".toList by decide)]
  change Caught tail _ (name ++ ';' :: (" \x7d".toList ++ later)) ↔ _
  rw [caught_name all]
  change Caught tail _ ("; \x7d".toList ++ later) ↔ _
  rw [caught_skip (show 'c' ∉ "; \x7d".toList by decide)]
  exact caught_of_bare (by rfl)

theorem catch_append (rest : Text) :
    "catch (".toList ++ rest = 'c' :: ("atch (".toList ++ rest) :=
  rfl

theorem rethrowing_append (inner name later : Text) :
    rethrowing inner name ++ later = "catch (".toList ++ (inner ++ (')' ::
      (" \x7b throw ".toList ++ (name ++ ("; \x7d".toList ++ later))))) := by
  unfold rethrowing
  generalize "catch (".toList = start
  generalize " \x7b throw ".toList = block
  generalize "; \x7d".toList = shut
  simp

theorem caught_rethrowing {tail within : Text → Prop} (cutting : Cutting tail within)
    {inner name : Text} (closed : ')' ∉ inner) (all : ∀ c ∈ name, nameChars.has c = true)
    (gap later : Text) :
    Caught tail behind (gap ++ (rethrowing inner name ++ later)) ↔
      Caught within behind gap ∨ Caught within [] inner ∨ Caught tail [] later := by
  have wall := wall_catch cutting closed (name ++ ("; \x7d".toList ++ later))
  have bare : Bare ("catch (".toList.reverse ++ (gap.reverse ++ behind)) := by
    have fresh : (CharSet.compl (.one '.' ∪ nameChars)).has '(' = true := by decide
    simpa [Bare] using fresh
  have block (behind : Text) : Caught tail behind (')' :: (" \x7b throw ".toList ++ (name ++
      ("; \x7d".toList ++ later)))) ↔ Caught tail [] later := caught_block all behind later
  have none := not_handlerAt_rethrowing cutting closed (name ++ ("; \x7d".toList ++ later))
  have parenthesis := wall_parenthesis cutting (name ++ ("; \x7d".toList ++ later))
  rw [rethrowing_append]
  generalize " \x7b throw ".toList ++ (name ++ ("; \x7d".toList ++ later)) = shut at *
  rw [catch_append, caught_append cutting wall, ← catch_append, caught_keyword none,
    caught_append cutting parenthesis, block, caught_of_bare bare]

/-! ## The rethrowing line -/

theorem cutting_closes : Cutting Closes Closes where
  cut {before after c} visible other := by
    constructor
    · rintro ⟨inside, rest, split, blank⟩
      obtain ⟨left, rfl, close⟩ := append_of_blank blank visible split
      cases left with
      | nil => exact absurd (List.cons.inj close).1.symm other
      | cons first left =>
          obtain ⟨rfl, -⟩ := List.cons.inj close
          exact ⟨inside, left, rfl, blank⟩
    · rintro ⟨inside, rest, rfl, blank⟩
      exact ⟨inside, rest ++ c :: after, by simp, blank⟩
  notBlank {before} blank := by
    rintro ⟨inside, rest, rfl, -⟩
    exact absurd (blank '\x7d' (by simp)) (by decide)

theorem cutting_blank : Cutting Blank (fun _ => False) where
  cut {before after c} visible _ := by
    refine ⟨fun blank => ?_, False.elim⟩
    simp [blank c (by simp)] at visible
  notBlank _ := id

theorem not_caught_false {text : Text} : ¬ Caught (fun _ => False) behind text := by
  rintro ⟨front, back, rfl, -, gap, binding, before, after, -, -, -, -, nothing⟩
  exact nothing

theorem caught_parameter {inner : Text} :
    Caught Closes [] ('(' :: (inner ++ [')'])) ↔ Caught Closes [] inner := by
  have wall : Wall Closes ')' [] :=
    { visible := rfl
      mark := by decide
      letters := by simp [List.cons_prefix_cons]
      stuck := by
        intro body before after split outside blank
        have short := congrArg List.length split
        simp only [List.length_append, List.length_cons, List.length_nil] at short
        omega }
  have none : ¬ HandlerAt Closes ('(' :: (inner ++ [')'])) :=
    not_handlerAt_of_head (by simp [List.cons_prefix_cons])
  have last : ¬ Caught Closes (inner.reverse ++ ['(']) [')'] := by
    have none : ¬ HandlerAt Closes [')'] := not_handlerAt_of_head (by simp [List.cons_prefix_cons])
    rw [caught_cons none]
    rintro ⟨front, back, split, -, gap, binding, before, after, rfl, -⟩
    simp at split
  have bare : Bare ['('] := by
    have fresh : (CharSet.compl (.one '.' ∪ nameChars)).has '(' = true := by decide
    simpa [Bare] using fresh
  rw [caught_cons none, caught_append cutting_closes wall, or_iff_left last, caught_of_bare bare]

theorem trim_parameter (inner : Text) :
    Text.trim ('(' :: (inner ++ [')'])) = '(' :: (inner ++ [')']) := by
  have first : isBlank '(' = false := by decide
  have last : isBlank ')' = false := by decide
  simp [Text.trim, Text.trimStart, Text.trimEnd, first, last]

theorem rethrowing_eq (inner name : Text) :
    rethrowing inner name = "catch ".toList ++ '(' :: (inner ++ [')']) ++ " \x7b throw ".toList ++
      name ++ "; \x7d".toList := by
  unfold rethrowing
  generalize "; \x7d".toList = shut
  generalize " \x7b throw ".toList = block
  have start : "catch (".toList = "catch ".toList ++ ['('] := rfl
  rw [start]
  generalize "catch ".toList = word
  simp

theorem rethrow_of_binding {found : Match} {binding name : Text}
    (parameter : found.group? 1 = some binding) (bound : found.group? 2 = some name)
    (isBinding : Binding name binding) :
    ∃ inner, binding = '(' :: (inner ++ [')']) ∧ ')' ∉ inner ∧
      (∀ c ∈ name, nameChars.has c = true) ∧ rethrow found = rethrowing inner name := by
  obtain ⟨before, after, type, rfl, blankBefore, ⟨-, all⟩, blankAfter, typed⟩ := isBinding
  have outside {blanks : Text} (blank : Blank blanks) : ')' ∉ blanks := fun here =>
    absurd (blank _ here) (by decide)
  have closedName : ')' ∉ name := fun here => absurd (all _ here) (by decide)
  have closedType : ')' ∉ type := by
    rcases typed with rfl | ⟨ascribed, rfl, closed⟩
    · simp
    · intro here
      rcases List.mem_cons.mp here with same | here
      · exact absurd same (by decide)
      · exact closed _ here rfl
  refine ⟨before ++ (name ++ (after ++ type)), by simp, ?_, all, ?_⟩
  · simp [outside blankBefore, outside blankAfter, closedName, closedType]
  · have trimmed := trim_parameter (before ++ (name ++ (after ++ type)))
    simp only [List.append_assoc] at trimmed
    rw [rethrow, parameter, bound, rethrowing_eq]
    simp only [List.append_assoc, trimmed]

theorem not_caught_nil {tail : Text → Prop} : ¬ Caught tail behind [] := by
  rintro ⟨front, back, split, -, gap, binding, before, after, rfl, -⟩
  simp at split

theorem rethrow_of_reads (reads : emptyHandler.Reads behind word rest marks) :
    ∃ inner name, ')' ∉ inner ∧ (∀ c ∈ name, nameChars.has c = true) ∧
      rethrow (.of behind word rest marks) = rethrowing inner name ∧
      (Caught Closes [] inner ↔ ∃ binding,
        (Match.of behind word rest marks).group? 1 = some binding ∧ Caught Closes [] binding) := by
  rcases shape_of_reads_emptyHandler reads with
    ⟨gap, binding, name, block, -, -, isBinding, -, parameter, bound⟩ | ⟨gap, block, -, -, -, none⟩
  · obtain ⟨inner, rfl, closed, all, same⟩ := rethrow_of_binding parameter bound isBinding
    refine ⟨inner, name, closed, all, same, ?_⟩
    simp [parameter, caught_parameter]
  · refine ⟨"error".toList, "error".toList, by decide, List.all_eq_true.mp (by decide),
      by rw [rethrow, none]; rfl, ?_⟩
    have inside : ¬ Caught Closes [] "error".toList := by
      have skip : Caught Closes [] ("error".toList ++ []) ↔ Caught Closes _ [] :=
        caught_skip (by decide) []
      rw [List.append_nil] at skip
      exact fun caught => not_caught_nil (skip.mp caught)
    rw [none]
    exact iff_of_false inside (by simp)

theorem caught_closes_splice {ahead : Text} {found : List Match}
    (cuts : emptyHandler.Cuts behind ahead found) :
    Caught Closes [] (splice rethrow (.between behind ahead) found) ↔
      (∃ gap ∈ outside (.between behind ahead) found, Caught Closes [] gap) ∨
        ∃ handler ∈ found, ∃ binding, handler.group? 1 = some binding ∧
          Caught Closes [] binding := by
  induction cuts with
  | rest => simp
  | found gap word rest quiet here reads later ih =>
      obtain ⟨inner, name, closed, all, same, inside⟩ := rethrow_of_reads reads
      rw [splice_of, outside_of, same, caught_rethrowing cutting_closes closed all, ih, inside]
      rw [← or_assoc, or_or_or_comm]
      simp only [List.mem_cons, exists_eq_or_imp]

theorem caught_blank_splice {ahead : Text} {found : List Match}
    (cuts : emptyHandler.Cuts behind ahead found) :
    Caught Blank [] (splice rethrow (.between behind ahead) found) ↔
      ∃ gap, (outside (.between behind ahead) found).getLast? = some gap ∧ Caught Blank [] gap := by
  induction cuts with
  | rest => simp
  | found gap word rest quiet here reads later ih =>
      obtain ⟨inner, name, closed, all, same, -⟩ := rethrow_of_reads reads
      rw [splice_of, outside_of, same, caught_rethrowing cutting_blank closed all, ih]
      simp only [not_caught_false, false_or, List.getLast?_cons_of_ne_nil (outside_ne_nil _ _)]

theorem occurs_of_rethrowFix {line new : Text} (changed : rethrowFix.applyLine? line = some new) :
    (catchEmpty.occurs new = true ↔
      (∃ gap ∈ emptyHandler.gaps line, catchEmpty.occurs gap = true) ∨
        ∃ handler ∈ emptyHandler.allMatches line, ∃ binding,
          handler.group? 1 = some binding ∧ catchEmpty.occurs binding = true) ∧
    (catchOpen.occurs new = true ↔
      ∃ gap, (emptyHandler.gaps line).getLast? = some gap ∧ catchOpen.occurs gap = true) := by
  obtain ⟨rfl, -⟩ := applyLine?_eq_some changed
  have cuts := cuts_allMatches (show emptyHandler.plain = true by decide) (by decide) line
  simp only [occurs_catchEmpty, occurs_catchOpen]
  exact ⟨caught_closes_splice cuts, caught_blank_splice cuts⟩

end Compliance
