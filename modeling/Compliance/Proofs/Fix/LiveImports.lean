import Compliance.Proofs.Fix.ImportMerge
import Compliance.Proofs.Text.Stretches
import Compliance.Proofs.Text.Zones

/-!
# Imports that stand in code

An import declares a symbol if its keyword, the symbol and its closing brace stand in code.  An edit
in front of it or behind it keeps it, and so does an edit between its braces that is next to one of
them.  A statement that is put in between its keyword and its source does not.
-/

namespace Compliance

variable {symbol source front old new back gap names rest first second before : Text}

def importBody (gap inner first second : Text) : Text :=
  gap ++ '\x7b' :: (inner ++ '\x7d' :: (first ++ ("from".toList ++ second)))

/-- The parts of an import that stands in code and lists the symbol. -/
structure Declaration (front gap names symbol rest first second : Text) : Prop where
  keyword : Clear front
  isGap : ImportGap gap
  opened : '\x7d' ∉ names
  start : Clear names
  stop : Fresh rest
  closed : '\x7d' ∉ rest
  blanks : Blank first ∧ Blank second
  live : InCode front
  listed : InCode (front ++ ("import".toList ++ (gap ++ '\x7b' :: names)))
  ended : InCode (front ++ ("import".toList ++ (gap ++ '\x7b' :: (names ++ (symbol ++ rest)))))

/-- An import in code lists the symbol, with this gap in front of its braces and this source. -/
def Declares (gap symbol source text : Text) : Prop :=
  ∃ front names rest first second more, Declaration front gap names symbol rest first second ∧
    text = front ++
      ("import".toList ++ (importBody gap (names ++ (symbol ++ rest)) first second ++
        (source ++ more)))

structure Source (source : Text) : Prop where
  nonempty : source ≠ []
  solid : ∀ c ∈ source, isBlank c = false ∧ c ≠ ','
  braceless : '\x7b' ∉ source ∧ '\x7d' ∉ source

instance (source : Text) : Decidable (Source source) :=
  have : Decidable (∀ c ∈ source, isBlank c = false ∧ c ≠ ',') := List.decidableBAll _ source
  decidable_of_iff (source ≠ [] ∧ (∀ c ∈ source, isBlank c = false ∧ c ≠ ',') ∧
      '\x7b' ∉ source ∧ '\x7d' ∉ source)
    ⟨fun ⟨nonempty, solid, braceless⟩ => ⟨nonempty, solid, braceless⟩,
      fun isSource => ⟨isSource.nonempty, isSource.solid, isSource.braceless⟩⟩

/-- The edit lies between the keyword of an import of the symbol and its source. -/
def Inside (gap symbol source front old back : Text) : Prop :=
  ∃ before names rest first second more ahead behind,
    Declaration before gap names symbol rest first second ∧
    importBody gap (names ++ (symbol ++ rest)) first second = ahead ++ (old ++ behind) ∧
    front = before ++ ("import".toList ++ ahead) ∧ back = behind ++ (source ++ more)

def Uncut (source front old back : Text) : Prop :=
  old = [] → ∀ first second, source = first ++ second → first ≠ [] → second ≠ [] →
    first <:+ front → ¬ second <+: back

theorem Declares.reworded_or_inside (isSource : Source source)
    (rewords : Rewords front old new back)
    (quiet : Quiet front old new back) (uncut : Uncut source front old back)
    (declares : Declares gap symbol source (front ++ (old ++ back))) :
    Declares gap symbol source (front ++ (new ++ back)) ∨
    Inside gap symbol source front old back := by
  obtain ⟨before, names, rest, first, second, more, parts, shape⟩ := declares
  have apart : ∀ c ∈ source, c ∉ old := fun c here =>
    rewords.loose.not_mem (isSource.solid c here).1 (isSource.solid c here).2
  have bySource : front ++ (old ++ back) =
      (before ++ ("import".toList ++ importBody gap (names ++ (symbol ++ rest)) first second)) ++
        (source ++ more) := by
    simpa using shape
  rcases side_of_word bySource isSource.nonempty apart uncut with
    ⟨middle, rfl, rfl⟩ | ⟨middle, upTo, rfl⟩
  · exact .inl ⟨before, names, rest, first, second, middle ++ (new ++ back), parts, by simp⟩
  rcases rewords.side identifier_import (List.prefix_append ..) upTo.symm with
    ⟨ahead, rfl, body⟩ | ⟨ahead, rfl, rfl⟩
  · exact .inr ⟨before, names, rest, first, second, more, ahead, middle, parts, body, rfl, rfl⟩
  · -- the whole import stands behind the edit
    left
    have clear := parts.keyword
    rw [← List.append_assoc] at clear
    have keyword : Clear (front ++ (new ++ ahead)) := by
      rw [← List.append_assoc]
      refine clear.swap ?_
      rw [List.reverse_append]
      exact fresh_append (by simpa using rewords.nonempty) (rewords.stop (by simp)) _
    have still {upTo : Text} (start : upTo <+: "import".toList ++
          importBody gap (names ++ (symbol ++ rest)) first second)
        (inCode : InCode ((front ++ (old ++ ahead)) ++ upTo)) :
        InCode ((front ++ (new ++ ahead)) ++ upTo) := by
      have behind : ahead ++ upTo <+: ahead ++ ("import".toList ++
          importBody gap (names ++ (symbol ++ rest)) first second) :=
        (List.prefix_append_right_inj ahead).mpr start
      have inCode := quiet.inCode (by simp [isSource.nonempty]) behind (by simpa using inCode)
      simpa using inCode
    have live : InCode ((front ++ (new ++ ahead)) ++ []) :=
      still List.nil_prefix (by simpa using parts.live)
    refine ⟨front ++ (new ++ ahead), names, rest, first, second, more, ?_, by simp⟩
    exact { parts with
      keyword
      live := by simpa using live
      listed := still (by simp [importBody]) parts.listed
      ended := still (by simp [importBody]) parts.ended }

inductive BesideBrace (front back : Text) : Prop
  | opening {text : Text} (shape : front = text ++ ['\x7b'])
  | closing {blanks text : Text} (blank : Blank blanks) (shape : back = blanks ++ '\x7d' :: text)

theorem not_mem_link (blanks : Blank first ∧ Blank second) :
    '\x7b' ∉ first ++ ("from".toList ++ second) ∧ '\x7d' ∉ first ++ ("from".toList ++ second) := by
  obtain ⟨one, other⟩ := blanks
  simp [one.not_mem, other.not_mem, show isBlank '\x7b' = false by decide,
    show isBlank '\x7d' = false by decide]

theorem Source.brace_ahead {behind blanks more text : Text} (isSource : Source source)
    (blank : Blank blanks) (shape : behind ++ (source ++ more) = blanks ++ '\x7d' :: text) :
    ∃ others, behind = blanks ++ '\x7d' :: others := by
  obtain ⟨c, rest, rfl⟩ := List.exists_cons_of_ne_nil isSource.nonempty
  rcases List.append_eq_append_iff.mp shape with ⟨between, rfl, same⟩ | ⟨between, rfl, same⟩
  · cases between with
    | nil =>
        obtain ⟨rfl, -⟩ := List.cons.inj same
        exact absurd (by simp) isSource.braceless.2
    | cons d between =>
        obtain ⟨rfl, -⟩ := List.cons.inj same
        have visible := (isSource.solid c (by simp)).1
        exact absurd (by simp) (blank.not_mem visible)
  · cases between with
    | nil =>
        obtain ⟨rfl, -⟩ := List.cons.inj same
        exact absurd (by simp) isSource.braceless.2
    | cons d between =>
        obtain ⟨rfl, -⟩ := List.cons.inj same
        exact ⟨between, rfl⟩

theorem BesideBrace.between {ahead behind inner more : Text} (isSource : Source source)
    (beside : BesideBrace (before ++ ("import".toList ++ ahead)) (behind ++ (source ++ more)))
    (loose : Loose old) (isGap : ImportGap gap) (closed : '\x7d' ∉ inner)
    (blanks : Blank first ∧ Blank second)
    (body : importBody gap inner first second = ahead ++ (old ++ behind)) :
    ∃ upper lower, inner = upper ++ (old ++ lower) ∧ ahead = gap ++ '\x7b' :: upper ∧
      behind = lower ++ '\x7d' :: (first ++ ("from".toList ++ second)) := by
  have inOld {c : Char} := @Loose.not_mem old loose c
  obtain ⟨openGap, closedGap⟩ := isGap.not_mem
  obtain ⟨openLink, closedLink⟩ := not_mem_link blanks
  unfold importBody at body
  generalize first ++ ("from".toList ++ second) = link at body openLink closedLink ⊢
  cases beside with
  | @opening text shape =>
      obtain ⟨start, c, rfl⟩ := (List.eq_nil_or_concat' ahead).resolve_left (by
        rintro rfl
        have := congrArg List.getLast? shape
        simp at this)
      simp only [← List.append_assoc] at shape
      obtain rfl : c = '\x7b' := by simpa using (List.append_inj' shape rfl).2
      have byBrace : (gap ++ '\x7b' :: inner) ++ '\x7d' :: link =
          start ++ '\x7b' :: (old ++ behind) := by
        simpa using body
      obtain ⟨between, upTo, rest⟩ := ahead_of_not_mem (by simp [openLink]) byBrace
      obtain ⟨lower, rfl, rfl⟩ := behind_of_not_mem (inOld (by decide) (by decide)) rest
      obtain ⟨upper, rfl, rest⟩ := behind_of_not_mem openGap upTo
      cases upper with
      | nil =>
          obtain ⟨-, rfl⟩ := List.cons.inj rest
          exact ⟨[], lower, rfl, by simp, rfl⟩
      | cons d upper =>
          obtain ⟨rfl, rfl⟩ := List.cons.inj rest
          exact ⟨upper ++ ['\x7b'], lower, by simp, by simp, rfl⟩
  | @closing blanks text blank shape =>
      obtain ⟨others, rfl⟩ := isSource.brace_ahead blank shape
      have byBrace : (gap ++ '\x7b' :: inner) ++ '\x7d' :: link =
          (ahead ++ (old ++ blanks)) ++ '\x7d' :: others := by
        simpa using body
      obtain ⟨between, upTo, rest⟩ := behind_of_not_mem
        (by simp [closedGap, closed]) byBrace
      cases between with
      | cons d between =>
          obtain ⟨rfl, rfl⟩ := List.cons.inj rest
          exact absurd (by simp) closedLink
      | nil =>
          obtain ⟨-, rfl⟩ := List.cons.inj rest
          rw [List.append_nil] at upTo
          obtain ⟨upper, rfl, rfl⟩ := ahead_of_not_mem
            (List.not_mem_append (inOld (by decide) (by decide)) (blank.not_mem (by decide))) upTo
          exact ⟨upper, blanks, rfl, rfl, rfl⟩

theorem Inside.kept {gap : Text} (isName : Identifier symbol) (isSource : Source source)
    (rewords : Rewords front old new back) (quiet : Quiet front old new back)
    (beside : BesideBrace front back) (closed : '\x7d' ∉ new)
    (inside : Inside gap symbol source front old back) :
    Declares gap symbol source (front ++ (new ++ back)) := by
  obtain ⟨before, names, rest, first, second, more, ahead, behind, parts, body, rfl, rfl⟩ := inside
  have inSymbol : '\x7d' ∉ symbol := isName.not_mem (by decide)
  have noBrace : '\x7d' ∉ names ++ (symbol ++ rest) := by
    simp [parts.opened, inSymbol, parts.closed]
  obtain ⟨upper, lower, inner, rfl, rfl⟩ :=
    beside.between isSource rewords.loose parts.isGap noBrace parts.blanks body
  have inBack : lower <+: lower ++ '\x7d' ::
      (first ++ ("from".toList ++ second)) ++ (source ++ more) := by
    simp
  have still {upTo : Text} (start : upTo <+: lower)
      (inCode : InCode (before ++
        ("import".toList ++ (gap ++ '\x7b' :: (upper ++ (old ++ upTo)))))) :
      InCode (before ++ ("import".toList ++ (gap ++ '\x7b' :: (upper ++ (new ++ upTo))))) := by
    have later := quiet.inCode (by simp [isSource.nonempty])
      (start.trans (List.prefix_append lower _)) (by simpa using inCode)
    simpa using later
  have ended := parts.ended
  rw [inner] at ended
  have bySymbol : (before ++ ("import".toList ++ (gap ++ '\x7b' :: upper))) ++ (old ++ lower) =
      (before ++ ("import".toList ++ (gap ++ '\x7b' :: names))) ++ (symbol ++ rest) := by
    simp [inner]
  rcases rewords.side isName inBack bySymbol with ⟨middle, upTo, rfl⟩ | ⟨middle, upTo, rfl⟩
  · obtain rfl : upper = names ++ (symbol ++ middle) := by simpa using upTo
    have outside := parts.closed
    simp only [List.mem_append, not_or] at outside
    refine ⟨before, names, middle ++ (new ++ lower), first, second, more, ?_, by simp [importBody]⟩
    exact { parts with
      stop := parts.stop.swap (fresh_append rewords.nonempty (rewords.start (by simp)) lower)
      closed := by simp [outside, closed]
      ended := by simpa using still (List.prefix_refl lower) ended }
  · obtain rfl : names = upper ++ (old ++ middle) := by simpa using upTo
    have outside := parts.opened
    simp only [List.mem_append, not_or] at outside
    have fresh : Fresh (upper ++ new).reverse := by
      rw [List.reverse_append]
      exact fresh_append (by simpa using rewords.nonempty) (rewords.stop (by simp)) _
    have clear := parts.start
    rw [← List.append_assoc] at clear
    refine ⟨before, upper ++ (new ++ middle), rest, first, second, more, ?_, by simp [importBody]⟩
    exact { parts with
      opened := by simp [outside, closed]
      start := by
        rw [← List.append_assoc]
        exact clear.swap fresh
      listed := still (List.prefix_append middle _) parts.listed
      ended := by simpa using still (List.prefix_refl _) ended }

structure Respaces (front old new back : Text) : Prop where
  rewords : Rewords front old new back
  quiet : Quiet front old new back
  beside : BesideBrace front back
  closed : '\x7d' ∉ new

theorem BesideBrace.uncut (isSource : Source source) (beside : BesideBrace front back) :
    Uncut source front old back := by
  rintro - first second split some some' inFront ⟨later, inBack⟩
  cases beside with
  | @opening text shape =>
      obtain ⟨init, c, rfl⟩ := (List.eq_nil_or_concat' first).resolve_left some
      obtain ⟨earlier, inFront⟩ := inFront
      rw [shape, ← List.append_assoc] at inFront
      obtain rfl : c = '\x7b' := by simpa using (List.append_inj' inFront rfl).2
      exact isSource.braceless.1 (by simp [split])
  | @closing blanks text blank shape =>
      obtain ⟨c, second, rfl⟩ := List.exists_cons_of_ne_nil some'
      have inSource : c ∈ source := by simp [split]
      rw [shape] at inBack
      cases blanks with
      | nil =>
          obtain ⟨rfl, -⟩ := List.cons.inj inBack
          exact isSource.braceless.2 inSource
      | cons d blanks =>
          obtain ⟨rfl, -⟩ := List.cons.inj inBack
          exact blank.not_mem (isSource.solid c inSource).1 (by simp)

inductive Respaced (text : Text) : Text → Prop
  | refl : Respaced text text
  | step {front old new back : Text} (earlier : Respaced text (front ++ (old ++ back)))
      (respaces : Respaces front old new back) : Respaced text (front ++ (new ++ back))

variable {text : Text}

theorem Used.respaced (isName : Identifier symbol) (used : Used symbol text)
    (respaced : Respaced text new) : Used symbol new := by
  induction respaced with
  | refl => exact used
  | step earlier respaces ih => exact ih.reworded isName respaces.rewords

theorem Declares.respaced (isName : Identifier symbol) (isSource : Source source)
    (declares : Declares gap symbol source text) (respaced : Respaced text new) :
    Declares gap symbol source new := by
  induction respaced with
  | refl => exact declares
  | step earlier respaces ih =>
      obtain ⟨rewords, quiet, beside, closed⟩ := respaces
      rcases ih.reworded_or_inside isSource rewords quiet (beside.uncut isSource) with kept | inside
      · exact kept
      · exact inside.kept isName isSource rewords quiet beside closed

/-- The statement stands on a line of its own between the keyword of an import and its source. -/
def Severs (statement gap symbol source text : Text) : Prop :=
  ∃ before names rest first second more ahead behind,
    Declaration before gap names symbol rest first second ∧
    importBody gap (names ++ (symbol ++ rest)) first second = ahead ++ '\n' :: behind ∧
    text = before ++ ("import".toList ++
      (ahead ++ '\n' :: (statement ++ '\n' :: (behind ++ (source ++ more)))))

theorem Inside.severs {statement : Text} (inside : Inside gap symbol source front ['\n'] back) :
    Severs statement gap symbol source (front ++ ('\n' :: (statement ++ ['\n']) ++ back)) := by
  obtain ⟨before, names, rest, first, second, more, ahead, behind, parts, body, rfl, rfl⟩ := inside
  exact ⟨before, names, rest, first, second, more, ahead, behind, parts, body, by simp⟩

theorem Inside.ne_nil (isSource : Source source)
    (inside : Inside gap symbol source front old back) :
    front ≠ [] ∧ back ≠ [] := by
  obtain ⟨before, names, rest, first, second, more, ahead, behind, parts, body, rfl, rfl⟩ := inside
  exact ⟨by simp, by simp [isSource.nonempty]⟩

end Compliance
