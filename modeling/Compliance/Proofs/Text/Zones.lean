import Mathlib.Data.List.Basic
import Compliance.Proofs.Text.Blanks

/-!
# Comments and literals

A scan of a program text tells code from comments and literals.  It knows line and block comments,
literals in single and double quotes, which end with their line, and templates, which do not.
Blanks, names, commas and braces do not change where it stands.
-/

namespace Compliance

inductive Quote
  | single | double | template
  deriving DecidableEq

def Quote.char : Quote → Char
  | single => '\''
  | double => '"'
  | template => '\x60'

/-- Where a scan stands; `slash`, `star` and `escaped` are marks that are read halfway. -/
inductive Zone
  | code | slash | lineComment | blockComment | star
  | quoted (quote : Quote)
  | escaped (quote : Quote)
  deriving DecidableEq

namespace Zone

def opened (c : Char) : Zone :=
  if c = '/' then slash
  else if c = Quote.single.char then quoted .single
  else if c = Quote.double.char then quoted .double
  else if c = Quote.template.char then quoted .template
  else code

def next : Zone → Char → Zone
  | code, c => opened c
  | slash, c => if c = '/' then lineComment else if c = '*' then blockComment else opened c
  | lineComment, c => if c = '\n' then code else lineComment
  | blockComment, c => if c = '*' then star else blockComment
  | star, c => if c = '/' then code else if c = '*' then star else blockComment
  | quoted quote, c =>
      if c = quote.char then code
      else if c = '\\' then escaped quote
      else if c = '\n' ∧ quote ≠ .template then code
      else quoted quote
  | escaped quote, c => if c = '\n' ∧ quote ≠ .template then code else quoted quote

def settled : Zone → Zone
  | slash => code
  | star => blockComment
  | escaped quote => quoted quote
  | zone => zone

def after (zone : Zone) (text : Text) : Zone := text.foldl next zone

@[simp] theorem after_nil (zone : Zone) : zone.after [] = zone := rfl

@[simp] theorem after_cons (zone : Zone) (c : Char) (text : Text) :
    zone.after (c :: text) = (zone.next c).after text := rfl

@[simp] theorem after_append (zone : Zone) (first second : Text) :
    zone.after (first ++ second) = (zone.after first).after second :=
  List.foldl_append

end Zone

def InCode (text : Text) : Prop := (Zone.code.after text).settled = .code

instance (text : Text) : Decidable (InCode text) := inferInstanceAs (Decidable (_ = _))

def signs : Text := ['/', '*', '\\', '\'', '"', '\x60', '\n']

def Mild (text : Text) : Prop := ∀ c ∈ text, c ∉ signs

def Soft (text : Text) : Prop := ∀ c ∈ text, c ∉ signs ∨ c = '\n'

instance (text : Text) : Decidable (Mild text) := List.decidableBAll _ text

instance (text : Text) : Decidable (Soft text) := List.decidableBAll _ text

variable {front old new back first second text : Text} {c : Char} {zone : Zone}

theorem Mild.append (one : Mild first) (other : Mild second) : Mild (first ++ second) :=
  List.forall_mem_append.mpr ⟨one, other⟩

theorem Soft.append (one : Soft first) (other : Soft second) : Soft (first ++ second) :=
  List.forall_mem_append.mpr ⟨one, other⟩

theorem Mild.soft (mild : Mild text) : Soft text := fun c here => .inl (mild c here)

theorem soft_of_isBlank (blank : isBlank c = true) : c ∉ signs ∨ c = '\n' := by
  have known : signs.all (fun sign => !isBlank sign || sign == '\n') = true := by decide
  by_cases sign : c ∈ signs
  · exact .inr (by simpa [blank] using List.all_eq_true.mp known c sign)
  · exact .inl sign

theorem mild_of_soft (soft : Soft text) (one : '\n' ∉ text) : Mild text := by
  intro c here
  rcases soft c here with mild | rfl
  · exact mild
  · exact absurd here one

namespace Zone

theorem next_of_mild (mild : c ∉ signs) (zone : Zone) : zone.next c = zone.settled := by
  simp only [signs, List.mem_cons, List.not_mem_nil, or_false, not_or] at mild
  cases zone with
  | quoted quote => cases quote <;> simp [next, settled, Quote.char, mild]
  | escaped quote => cases quote <;> simp [next, settled, mild]
  | _ => simp [next, opened, settled, Quote.char, mild]

theorem settled_settled (zone : Zone) : zone.settled.settled = zone.settled := by
  cases zone <;> rfl

theorem settled_next_newline (zone : Zone) : zone.settled.next '\n' = zone.next '\n' := by
  cases zone with
  | quoted quote => rfl
  | escaped quote => cases quote <;> rfl
  | _ => rfl

theorem next_newline (zone : Zone) :
    zone.next '\n' ∈ [code, blockComment, quoted .template] := by
  cases zone with
  | quoted quote => cases quote <;> decide
  | escaped quote => cases quote <;> decide
  | _ => decide

theorem next_newline_newline (zone : Zone) : (zone.next '\n').next '\n' = zone.next '\n' :=
  (by decide : ∀ zone ∈ [code, blockComment, quoted .template], zone.next '\n' = zone) _
    zone.next_newline

theorem settled_of_newline (zone : Zone) : (zone.next '\n').settled = zone.next '\n' :=
  (by decide : ∀ zone ∈ [code, blockComment, quoted .template], zone.settled = zone) _
    zone.next_newline

theorem settled_next (soft : c ∉ signs ∨ c = '\n') (zone : Zone) :
    zone.settled.next c = zone.next c := by
  rcases soft with mild | rfl
  · rw [next_of_mild mild, next_of_mild mild, settled_settled]
  · exact zone.settled_next_newline

theorem settled_after (mild : Mild text) (zone : Zone) :
    (zone.after text).settled = zone.settled := by
  induction text generalizing zone with
  | nil => rfl
  | cons c text ih =>
      rw [after_cons, next_of_mild (mild c (by simp)), ih fun d here => mild d (by simp [here]),
        settled_settled]

theorem settled_concat (mild : c ∉ signs) (zone : Zone) (text : Text) :
    (zone.after (text ++ [c])).settled = zone.after (text ++ [c]) := by
  rw [after_append, after_cons, after_nil, next_of_mild mild, settled_settled]

theorem after_of_settled (mild : Mild text) (still : zone.settled = zone) :
    zone.after text = zone := by
  induction text with
  | nil => rfl
  | cons c text ih =>
      rw [after_cons, next_of_mild (mild c (by simp)), still]
      exact ih fun d here => mild d (by simp [here])

theorem after_newline (one : Soft first) (other : Soft second) (zone : Zone) :
    zone.after (first ++ '\n' :: second) = zone.next '\n' := by
  induction first generalizing zone with
  | nil =>
      rw [List.nil_append, after_cons]
      induction second with
      | nil => rfl
      | cons c second ih =>
          have rest := ih fun d here => other d (by simp [here])
          rcases other c (by simp) with mild | rfl
          · rw [after_cons, next_of_mild mild, settled_of_newline, rest]
          · rw [after_cons, next_newline_newline, rest]
  | cons c first ih =>
      have rest := ih (fun d here => one d (by simp [here])) (zone.next c)
      rw [List.cons_append, after_cons, rest]
      rcases one c (by simp) with mild | rfl
      · rw [next_of_mild mild, settled_next_newline]
      · exact zone.next_newline_newline

end Zone

theorem inCode_append_iff (mild : Mild text) : InCode (front ++ text) ↔ InCode front := by
  rw [InCode, Zone.after_append, Zone.settled_after mild, InCode]

/-! ## Edits -/

/-- Wherever the text behind the edit stood in code, it still does. -/
def Quiet (front old new back : Text) : Prop :=
  ∀ upTo more, back = upTo ++ more → more ≠ [] → InCode (front ++ (old ++ upTo)) →
    InCode (front ++ (new ++ upTo))

theorem Quiet.inCode {behind later upTo : Text} (quiet : Quiet front old new (behind ++ later))
    (some : later ≠ []) (start : upTo <+: behind) (inCode : InCode (front ++ (old ++ upTo))) :
    InCode (front ++ (new ++ upTo)) := by
  obtain ⟨more, rfl⟩ := start
  exact quiet upTo (more ++ later) (by simp) (by simp [some]) inCode

theorem quiet_of_eq (same : Zone.code.after (front ++ old) = Zone.code.after (front ++ new)) :
    Quiet front old new back := by
  intro upTo more _ _ inCode
  rwa [InCode, ← List.append_assoc, Zone.after_append, ← same, ← Zone.after_append,
    List.append_assoc]

theorem quiet_of_mild (mild : Mild old) (mild' : Mild new)
    (starts : ∀ c rest, back = c :: rest → c ∉ signs ∨ c = '\n') : Quiet front old new back := by
  intro upTo more shape _ inCode
  have same : (Zone.code.after (front ++ old)).settled =
      (Zone.code.after (front ++ new)).settled := by
    rw [Zone.after_append, Zone.after_append, Zone.settled_after mild, Zone.settled_after mild']
  cases upTo with
  | nil =>
      rw [InCode, List.append_nil] at inCode ⊢
      exact same.symm.trans inCode
  | cons c upTo =>
      have soft := starts c (upTo ++ more) shape
      rw [InCode, ← List.append_assoc, Zone.after_append, Zone.after_cons] at inCode ⊢
      rwa [← Zone.settled_next soft, ← same, Zone.settled_next soft]

theorem quiet_of_newline {first' second' : Text} (soft : Soft first ∧ Soft second)
    (soft' : Soft first' ∧ Soft second') :
    Quiet front (first ++ '\n' :: second) (first' ++ '\n' :: second') back := by
  apply quiet_of_eq
  rw [Zone.after_append _ front, Zone.after_append _ front, Zone.after_newline soft.1 soft.2,
    Zone.after_newline soft'.1 soft'.2]

end Compliance
