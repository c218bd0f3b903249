import Compliance.Proofs.Fix.ImportLoad
import Compliance.Proofs.Fix.ImportNames
import Compliance.Proofs.Fix.LiveImports

/-!
# What an added import leaves behind

An import that is added to code declares its symbol afterwards.  Symbols stay in use and other
imports stay as well; only a statement of its own can come to stand inside another import.
-/

namespace Compliance

variable {symbol front old lead follow blanks tail text new gap names extended : Text}

theorem Clear.append {first second : Text} (nonempty : second ≠ []) (clear : Clear second) :
    Clear (first ++ second) := by
  intro c last
  obtain ⟨init, d, rfl⟩ := (List.eq_nil_or_concat' second).resolve_left nonempty
  refine clear c ?_
  rw [← List.append_assoc, List.getLast?_concat] at last
  rwa [List.getLast?_concat]

theorem clear_of_loose (loose : Loose text) : Clear text := by
  intro c last
  rcases loose c (List.mem_of_getLast? last) with blank | rfl
  · exact .inl blank
  · exact .inr (by decide)

theorem clear_above (lines : List Text) : Clear (Text.above lines) := by
  rcases List.eq_nil_or_concat' lines with rfl | ⟨init, line, rfl⟩
  · intro c last
    cases last
  · have shape : Text.above (init ++ [line]) = (Text.above init ++ line) ++ ['\n'] := by
      simp [Text.above]
    rw [shape]
    exact Clear.append (by simp) (clear_of_loose (by decide))

theorem Blank.loose (blank : Blank text) : Loose text := fun c here => .inl (blank c here)

theorem Loose.append {first second : Text} (one : Loose first) (other : Loose second) :
    Loose (first ++ second) :=
  List.forall_mem_append.mpr ⟨one, other⟩

theorem clear_indented {indent : Text} (lines : List Text) (blank : Blank indent) :
    Clear (Text.above lines ++ indent) := by
  by_cases none : indent = []
  · simpa [none] using clear_above lines
  · exact (clear_of_loose blank.loose).append none

theorem Loose.soft (loose : Loose text) : Soft text := by
  intro c here
  rcases loose c here with blank | rfl
  · exact soft_of_isBlank blank
  · exact .inl (by decide)

theorem Loose.mild (loose : Loose text) (one : '\n' ∉ text) : Mild text :=
  mild_of_soft loose.soft one

theorem Identifier.mild (isName : Identifier symbol) : Mild symbol := by
  have known : signs.all (fun sign => !isAsciiWord sign) = true := by decide
  intro c here sign
  have other : isAsciiWord c = false := by simpa using List.all_eq_true.mp known c sign
  exact isName.not_mem other here

structure Offsets (lead follow : Text) : Prop where
  loose : Loose (lead ++ follow)
  ahead : lead ≠ [] ∧ Fresh lead
  behind : follow ≠ [] ∧ Fresh follow ∧ Fresh follow.reverse

theorem Offsets.respaces (isName : Identifier symbol) (offsets : Offsets lead follow)
    (loose : Loose old) (apart : old = [] → Fresh front.reverse ∨ Fresh (blanks ++ '\x7d' :: tail))
    (blank : Blank blanks)
    (quiet : Quiet front old (lead ++ (symbol ++ follow)) (blanks ++ '\x7d' :: tail)) :
    Respaces front old (lead ++ (symbol ++ follow)) (blanks ++ '\x7d' :: tail) where
  rewords :=
    { loose, apart
      nonempty := by simp [offsets.ahead.1]
      start := fun _ => fresh_append offsets.ahead.1 offsets.ahead.2 _
      stop := fun _ => by
        rw [← List.append_assoc, List.reverse_append]
        exact fresh_append (by simpa using offsets.behind.1) offsets.behind.2.2 _ }
  quiet := quiet
  beside := .closing blank rfl
  closed := by
    have outside := offsets.loose.not_mem (show isBlank '\x7d' = false by decide) (by decide)
    have inSymbol : '\x7d' ∉ symbol := isName.not_mem (by decide)
    simp only [List.mem_append, not_or] at outside ⊢
    exact ⟨outside.1, inSymbol, outside.2⟩

theorem extendNames_append {names : Text} (some : names ≠ []) (symbol : Text) :
    ∃ lead, Prerequisite.extendNames symbol names = names ++ (lead ++ symbol) ∧ Loose lead ∧
      lead ≠ [] ∧ Fresh lead ∧ Mild lead := by
  have nonempty : names.isEmpty = false := by simpa using some
  simp only [Prerequisite.extendNames, nonempty, Bool.false_eq_true, if_false]
  split
  · exact ⟨[' '], by simp, by decide, by decide, by decide, by decide⟩
  · exact ⟨[',', ' '], by simp, by decide, by decide, by decide, by decide⟩

theorem Offsets.respaces_oneLine (isName : Identifier symbol) (offsets : Offsets lead follow)
    (mild : Mild lead ∧ Mild follow) (loose : Loose old) (one : '\n' ∉ old) :
    Respaces front old (lead ++ (symbol ++ follow)) ('\x7d' :: tail) := by
  have none : Blank [] := by simp [Blank]
  refine offsets.respaces isName loose (fun _ => .inr (fresh_cons.mpr (by decide))) none ?_
  refine quiet_of_mild (loose.mild one) (mild.1.append (isName.mild.append mild.2)) ?_
  rintro c rest shape
  obtain ⟨rfl, -⟩ := List.cons.inj shape
  exact .inl (by decide)

theorem respaces_newLine (isName : Identifier symbol) {trailing comma indent last : Text}
    (blankTrailing : Blank trailing) (isComma : comma = [] ∨ comma = [','])
    (blankIndent : Blank indent) (blank : Blank last) :
    Respaces front (trailing ++ ['\n']) ((comma ++ '\n' :: indent) ++ (symbol ++ [',', '\n']))
      (last ++ '\x7d' :: tail) := by
  have ahead : Loose comma ∧ Fresh (comma ++ ['\n']) := by
    rcases isComma with rfl | rfl <;> decide
  have lead : Loose (comma ++ '\n' :: indent) := ahead.1.append blankIndent.newline.loose
  have offsets : Offsets (comma ++ '\n' :: indent) [',', '\n'] := by
    refine ⟨lead.append (by decide), ⟨by simp, ?_⟩, by decide⟩
    have fresh := fresh_append (by simp) ahead.2 indent
    simpa using fresh
  have soft : Soft (indent ++ (symbol ++ [',', '\n'])) :=
    blankIndent.loose.soft.append (isName.mild.soft.append (by decide))
  have quiet := @quiet_of_newline front (last ++ '\x7d' :: tail) trailing [] comma _
    ⟨blankTrailing.loose.soft, by decide⟩ ⟨ahead.1.soft, soft⟩
  exact offsets.respaces isName (blankTrailing.loose.append (by decide)) (by simp) blank
    (by simpa using quiet)

theorem respaces_opening {back : Text} (blank : Blank blanks) (one : '\n' ∉ blanks) :
    Respaces (text ++ ['\x7b']) blanks [' '] back where
  rewords :=
    { loose := blank.loose
      apart := fun _ => .inl (by
        rw [List.reverse_append]
        exact fresh_cons.mpr (by decide))
      nonempty := by simp
      start := fun _ => by decide
      stop := fun _ => by decide }
  quiet := by
    have still := Zone.settled_concat (show '\x7b' ∉ signs by decide) .code text
    apply quiet_of_eq
    rw [Zone.after_append _ (text ++ _), Zone.after_append _ (text ++ _),
      Zone.after_of_settled (blank.loose.mild one) still, Zone.after_of_settled (by decide) still]
  beside := .opening rfl
  closed := by decide

theorem Extends.respaced (isName : Identifier symbol) (widened : Extends symbol names extended)
    (front gap tail : Text) :
    Respaced (importText front gap names tail) (importText front gap extended tail) := by
  have nothing : Blank [] := by simp [Blank]
  cases widened with
  | line one =>
      obtain ⟨first, last, shape, blankFirst, blankLast⟩ := trim_append names
      by_cases empty : Text.trim names = []
      · have blank := trim_eq_nil_iff.mp empty
        have offsets : Offsets [' '] [' '] := ⟨by decide, by decide, by decide⟩
        have respaces := @Offsets.respaces_oneLine symbol
            (front ++ ("import".toList ++ (gap ++ ['\x7b'])))
          names _ _ tail isName offsets (by decide) blank.loose one
        have respaced := Respaced.refl.step respaces
        rw [empty]
        simpa [Prerequisite.extendNames, importText] using respaced
      · obtain ⟨lead, appended, looseLead, some, fresh, mild⟩ := extendNames_append empty symbol
        rw [appended]
        generalize Text.trim names = core at shape
        subst shape
        simp only [List.mem_append, not_or] at one
        have offsets : Offsets lead [' '] :=
          ⟨looseLead.append (by decide), ⟨some, fresh⟩, by decide⟩
        have respaces := @Offsets.respaces_oneLine symbol
          (front ++ ("import".toList ++ (gap ++ '\x7b' :: (first ++ core)))) last _ _ tail
            isName offsets ⟨mild, by decide⟩ blankLast.loose one.2.2
        have respaced := Respaced.refl.step respaces
        have opening := @respaces_opening first (front ++ ("import".toList ++ gap))
          (core ++ (lead ++ (symbol ++ (" \x7d".toList ++ tail)))) blankFirst one.1
        have both := @Respaced.step (importText front gap (first ++ (core ++ last)) tail) _ _ _ _
          (by simpa [importText] using respaced) opening
        simpa [importText] using both
  | @closing upper last one holds =>
      obtain ⟨blanks, trimmed, blank⟩ := trimEnd_append last
      obtain ⟨commas, dropped, all⟩ := Prerequisite.dropCommas_append (Text.trimEnd last)
      rw [dropped, List.append_assoc] at trimmed
      generalize dropCommas (Text.trimEnd last) = core at trimmed
      subst trimmed
      simp only [List.mem_append, not_or] at one
      have loose : Loose (commas ++ blanks) :=
        Loose.append (fun c there => .inr (all c there)) blank.loose
      have offsets : Offsets [',', ' '] [' '] := ⟨by decide, by decide, by decide⟩
      have respaces := @Offsets.respaces_oneLine symbol
        (front ++ ("import".toList ++ (gap ++ '\x7b' :: (upper ++ '\n' :: core))))
        (commas ++ blanks) _ _ tail isName offsets (by decide) loose (by simp [one])
      have respaced := Respaced.refl.step respaces
      simpa [importText] using respaced
  | @entry upper indent last blankIndent blank settled =>
      have respaces := @respaces_newLine symbol
          (front ++ ("import".toList ++ (gap ++ '\x7b' :: upper)))
        tail isName [] [] indent last nothing (.inl rfl) blankIndent blank
      have respaced := Respaced.refl.step respaces
      simpa [importText] using respaced
  | @comma upper line indent last blankIndent blank holds lacks =>
      obtain ⟨blanks, trimmed, blankTrailing⟩ := trimEnd_append line
      generalize Text.trimEnd line = core at trimmed lacks
      subst trimmed
      have respaces := @respaces_newLine symbol
        (front ++ ("import".toList ++ (gap ++ '\x7b' :: (upper ++ '\n' :: core)))) tail isName
          blanks [','] indent last blankTrailing (.inr rfl) blankIndent blank
      have respaced := Respaced.refl.step respaces
      simpa [importText] using respaced

/-! ## The symbol between the braces -/

/-- Where the symbol stands after an edit.  A scan stands there, and in front of the closing
brace, as it stood in front of the closing brace before. -/
structure Listed (symbol names extended lead behind : Text) : Prop where
  shape : extended = lead ++ (symbol ++ behind)
  nonempty : lead ≠ []
  clear : Clear lead
  nonempty' : behind ≠ []
  fresh : Fresh behind
  braceless : '\x7b' ∉ behind
  start : ∀ zone : Zone, zone.settled = zone →
    (zone.after lead).settled = (zone.after names).settled
  stop : ∀ zone : Zone, zone.settled = zone →
    (zone.after extended).settled = (zone.after names).settled

theorem listed_newLine (isName : Identifier symbol) {upper trailing comma indent last : Text}
    (blankTrailing : Blank trailing) (isComma : comma = [] ∨ comma = [','])
    (blankIndent : Blank indent) (blank : Blank last) :
    Listed symbol (upper ++ (trailing ++ '\n' :: last))
      (upper ++ (comma ++ '\n' :: (indent ++ (symbol ++ ',' :: '\n' :: last))))
      (upper ++ (comma ++ '\n' :: indent)) (',' :: '\n' :: last) := by
  have noBrace : '\x7b' ∉ last := blank.not_mem (by decide)
  have soft : Soft comma := by
    rcases isComma with rfl | rfl <;> decide
  have comma' : Soft [','] := by decide
  have behind : Soft (indent ++ (symbol ++ ',' :: '\n' :: last)) :=
    blankIndent.loose.soft.append (isName.mild.soft.append (comma'.append blank.newline.loose.soft))
  have line (zone : Zone) : (zone.after (trailing ++ '\n' :: last)) = zone.next '\n' :=
    Zone.after_newline blankTrailing.loose.soft blank.loose.soft zone
  constructor
  · simp
  · simp
  · rw [← List.append_assoc]
    exact Clear.append (by simp) (clear_of_loose blankIndent.newline.loose)
  · simp
  · exact fresh_cons.mpr (by decide)
  · simp [noBrace]
  · intro zone _
    rw [Zone.after_append, Zone.after_append _ upper, line,
      Zone.after_newline soft blankIndent.loose.soft]
  · intro zone _
    rw [Zone.after_append, Zone.after_append _ upper, line, Zone.after_newline soft behind]

theorem listed_oneLine (isName : Identifier symbol) {core lead : Text} (some : lead ≠ [])
    (loose : Loose lead) (mild : Mild lead)
    (same : ∀ zone : Zone, zone.settled = zone →
      (zone.after core).settled = (zone.after names).settled) :
    Listed symbol names (core ++ (lead ++ (symbol ++ [' ']))) (core ++ lead) [' '] where
  shape := by simp
  nonempty := by simp [some]
  clear := (clear_of_loose loose).append some
  nonempty' := by simp
  fresh := by decide
  braceless := by decide
  start := by
    intro zone still
    rw [Zone.after_append, Zone.settled_after mild, same zone still]
  stop := by
    intro zone still
    have rest : Mild (lead ++ (symbol ++ [' '])) := mild.append (isName.mild.append (by decide))
    rw [Zone.after_append, Zone.settled_after rest, same zone still]

theorem Extends.listed (isName : Identifier symbol) (widened : Extends symbol names extended) :
    ∃ lead behind, Listed symbol names extended lead behind := by
  cases widened with
  | line one =>
      obtain ⟨first, last, shape, blankFirst, blankLast⟩ := trim_append names
      by_cases empty : Text.trim names = []
      · have mild := (trim_eq_nil_iff.mp empty).loose.mild one
        rw [empty]
        exact ⟨_, _, @listed_oneLine symbol names isName [] [' '] (by decide) (by decide)
          (by decide) fun zone still => by rw [Zone.after_of_settled mild still, Zone.after_nil]⟩
      · obtain ⟨lead, appended, looseLead, some, -, mild⟩ := extendNames_append empty symbol
        rw [appended]
        generalize Text.trim names = core at shape
        subst shape
        simp only [List.mem_append, not_or] at one
        have listed := @listed_oneLine symbol (first ++ (core ++ last)) isName ([' '] ++ core)
          lead some looseLead mild fun zone still => by
            rw [Zone.after_append, Zone.after_append, Zone.after_append,
              Zone.settled_after (blankLast.loose.mild one.2.2),
              Zone.after_of_settled (blankFirst.loose.mild one.1) still,
              Zone.after_of_settled (by decide) still]
        exact ⟨_, _, by simpa using listed⟩
  | @closing upper last one holds =>
      obtain ⟨blanks, trimmed, blank⟩ := trimEnd_append last
      obtain ⟨commas, dropped, all⟩ := Prerequisite.dropCommas_append (Text.trimEnd last)
      rw [dropped, List.append_assoc] at trimmed
      generalize dropCommas (Text.trimEnd last) = core at trimmed
      subst trimmed
      simp only [List.mem_append, not_or] at one
      have loose : Loose (commas ++ blanks) :=
        Loose.append (fun c there => .inr (all c there)) blank.loose
      have listed := @listed_oneLine symbol (upper ++ '\n' :: (core ++ (commas ++ blanks))) isName
        (upper ++ '\n' :: core) [',', ' '] (by decide) (by decide) (by decide) fun zone _ => by
          have shape : upper ++ '\n' :: (core ++ (commas ++ blanks)) =
              (upper ++ '\n' :: core) ++ (commas ++ blanks) := by simp
          rw [shape, Zone.after_append _ _ (commas ++ blanks),
            Zone.settled_after (loose.mild (by simp [one]))]
      exact ⟨_, _, by simpa using listed⟩
  | @entry upper indent last blankIndent blank settled =>
      exact ⟨_, _, @listed_newLine symbol isName upper [] [] indent last (by simp [Blank])
        (.inl rfl) blankIndent blank⟩
  | @comma upper line indent last blankIndent blank holds lacks =>
      obtain ⟨blanks, trimmed, blankTrailing⟩ := trimEnd_append line
      generalize Text.trimEnd line = core at trimmed lacks
      subst trimmed
      have listed := @listed_newLine symbol isName (upper ++ '\n' :: core) blanks [','] indent last
        blankTrailing (.inr rfl) blankIndent blank
      exact ⟨_, _, by simpa using listed⟩

/-! ## Imports of a module -/

def Sourced (module source : Text) : Prop :=
  ∃ opening closing, opening ∈ ['\'', '\x22'] ∧ closing ∈ ['\'', '\x22'] ∧
    source = opening :: (module ++ [closing])

variable {needed : Prerequisite} {lines : List Text} {edit : ImportEdit} {content : Text}

theorem Merged.respaced (isName : Identifier needed.symbol.toList)
    (merged : Merged needed lines edit front gap names extended tail) :
    Respaced (Text.unpieces lines) edit.content := by
  rw [merged.old, merged.new]
  exact merged.widened.respaced isName front gap tail

theorem inCode_braces_iff : InCode (front ++ ("import".toList ++ (gap ++ '\x7b' :: text))) ↔
    ((Zone.code.after (front ++ ("import".toList ++ gap) ++ ['\x7b'])).after text).settled =
      .code := by
  rw [← Zone.after_append, InCode]
  simp

theorem Merged.declares (isName : Identifier needed.symbol.toList)
    (merged : Merged needed lines edit front gap names extended tail) (live : InCode front)
    (ended : InCode (front ++ ("import".toList ++ (gap ++ '\x7b' :: names)))) :
    ∃ source, Sourced needed.module.toList source ∧
      Declares gap needed.symbol.toList source edit.content := by
  obtain ⟨lead, behind, listed⟩ := merged.widened.listed isName
  have closed := merged.widened.closed isName.listable merged.parts.closed
  have still := Zone.settled_concat (show '\x7b' ∉ signs by decide) .code
    (front ++ ("import".toList ++ gap))
  rw [inCode_braces_iff] at ended
  obtain ⟨first, second, opening, closing, more, rfl, blank, blank', opens, closes⟩ :=
    merged.parts.source
  obtain ⟨above, indent, rfl, blankIndent⟩ := merged.parts.start
  rw [listed.shape] at closed
  simp only [List.mem_append, not_or] at closed
  refine ⟨opening :: (needed.module.toList ++ [closing]), ⟨opening, closing, opens, closes, rfl⟩,
    Text.above above ++ indent, lead, behind, first, second, more, ?_, ?_⟩
  · exact {
      keyword := clear_indented above blankIndent
      isGap := merged.parts.gap
      opened := closed.1
      start := listed.clear
      stop := listed.fresh
      closed := closed.2.2
      blanks := ⟨blank, blank'⟩
      live
      listed := inCode_braces_iff.mpr ((listed.start _ still).trans ended)
      ended := by
        rw [← listed.shape, inCode_braces_iff]
        exact (listed.stop _ still).trans ended }
  · rw [merged.new, listed.shape]
    simp [importText, importBody]

theorem statement_append (needed : Prerequisite) :
    needed.statement = "import".toList ++
      (importBody [' '] ([' '] ++ (needed.symbol.toList ++ [' ']))
        [' '] [' '] ++ (('\'' :: (needed.module.toList ++ ['\''])) ++ [';'])) := by
  have start : "import \x7b ".toList = "import".toList ++ [' ', '\x7b', ' '] := by decide
  have stop : " \x7d from '".toList = [' ', '\x7d', ' '] ++ ("from".toList ++ [' ', '\'']) := by
    decide
  have last : "';".toList = ['\'', ';'] := by decide
  unfold Prerequisite.statement importBody
  simp only [start, stop, last, List.append_assoc, List.cons_append, List.nil_append]

theorem declares_statement (isName : Identifier needed.symbol.toList) (upper lower : List Text)
    (live : InCode (Text.above upper)) :
    Declares [' '] needed.symbol.toList ('\'' :: (needed.module.toList ++ ['\'']))
      (Text.unpieces (upper ++ needed.statement :: lower)) := by
  have heading : Mild ("import".toList ++ ([' '] ++ '\x7b' :: [' '])) := by decide
  have listed : Mild ("import".toList ++
      ([' '] ++ '\x7b' :: ([' '] ++ (needed.symbol.toList ++ [' '])))) := by
    have inside := heading.append (isName.mild.append (show Mild [' '] by decide))
    simpa using inside
  refine ⟨Text.above upper, [' '], [' '], [' '], [' '], ';' :: Text.below lower, ?_, ?_⟩
  · exact {
      keyword := clear_above upper
      isGap := .inl blank_space
      opened := by decide
      start := clear_of_loose (by decide)
      stop := fresh_cons.mpr (by decide)
      closed := by decide
      blanks := ⟨blank_space, blank_space⟩
      live
      listed := (inCode_append_iff heading).mpr live
      ended := (inCode_append_iff listed).mpr live }
  · rw [Text.unpieces_append_cons, statement_append]
    simp

theorem lists_statement (needed : Prerequisite) (upper lower : List Text) :
    ∃ rest, Lists (Text.above upper) [' '] [' '] rest ∧
      Text.unpieces (upper ++ needed.statement :: lower) = Text.above upper ++
        ("import".toList ++ ([' '] ++ '\x7b' :: ([' '] ++ (needed.symbol.toList ++ rest)))) := by
  refine ⟨' ' :: '\x7d' :: ([' '] ++ ("from".toList ++ ([' '] ++
    (('\'' :: (needed.module.toList ++ ['\''])) ++ (';' :: Text.below lower))))), ?_, ?_⟩
  · constructor
    · exact clear_above upper
    · exact .inl blank_space
    · decide
    · exact clear_of_loose (by decide)
    · exact fresh_cons.mpr (by decide)
    · simp
  · rw [Text.unpieces_append_cons, statement_append]
    simp [importBody]

/-- No symbol goes out of use, and each declared one is still declared or has the statement inside
its import. -/
structure Adds (needed : Prerequisite) (text new : Text) : Prop where
  used : ∀ {other}, Identifier other → Used other text → Used other new
  kept : ∀ {gap other source}, Identifier other → Source source → Declares gap other source text →
    Declares gap other source new ∨ Severs needed.statement gap other source new

theorem Respaced.adds (respaced : Respaced text new) : Adds needed text new where
  used := fun isOther used => used.respaced isOther respaced
  kept := fun isOther isSource declares => .inl (declares.respaced isOther isSource respaced)

theorem Rewords.adds {back : Text} (rewords : Rewords front old new back)
    (quiet : Quiet front old new back)
    (uncut : ∀ {source}, Source source → Uncut source front old back)
    (inside : ∀ {gap other source}, Source source → Inside gap other source front old back →
      Severs needed.statement gap other source (front ++ (new ++ back))) :
    Adds needed (front ++ (old ++ back)) (front ++ (new ++ back)) where
  used := fun isOther used => used.reworded isOther rewords
  kept := fun _ isSource declares =>
    (declares.reworded_or_inside isSource rewords quiet (uncut isSource)).imp_right
      (inside isSource)

/-- The symbol is a word, and a scan goes on behind the statement as if it were not there. -/
structure Prerequisite.Regular (needed : Prerequisite) : Prop where
  isName : Identifier needed.symbol.toList
  oneLine : '\n' ∉ needed.statement
  still : ∀ zone ∈ [Zone.code, .blockComment, .quoted .template],
    zone.after (needed.statement ++ ['\n']) = zone
  isSource : ∀ source, Sourced needed.module.toList source → Source source

theorem adds_first (regular : needed.Regular) (line : Text) (lower : List Text) :
    Adds needed (Text.unpieces (line :: lower))
      (Text.unpieces (needed.statement :: line :: lower)) := by
  have shape : Text.unpieces (needed.statement :: line :: lower) =
      [] ++ ((needed.statement ++ ['\n']) ++ Text.unpieces (line :: lower)) := by
    simp [Text.unpieces_cons, Text.below]
  have rewords : Rewords [] [] (needed.statement ++ ['\n']) (Text.unpieces (line :: lower)) :=
    { loose := by decide
      apart := fun _ => .inl rfl
      nonempty := by simp
      start := by simp
      stop := fun _ => by
        rw [List.reverse_append]
        exact fresh_cons.mpr (by decide) }
  have quiet : Quiet [] [] (needed.statement ++ ['\n']) (Text.unpieces (line :: lower)) :=
    quiet_of_eq (regular.still .code (by decide)).symm
  rw [shape]
  refine rewords.adds quiet ?_ fun isSource inside => absurd rfl (inside.ne_nil isSource).1
  intro source _ _ first second _ some _ inFront
  exact absurd (List.suffix_nil.mp inFront) some

theorem adds_last (upper : List Text) (line : Text) :
    Adds needed (Text.unpieces (upper ++ [line]))
      (Text.unpieces ((upper ++ [line]) ++ [needed.statement])) := by
  have shape : Text.unpieces ((upper ++ [line]) ++ [needed.statement]) =
      Text.unpieces (upper ++ [line]) ++ (('\n' :: needed.statement) ++ []) := by
    simp [Text.unpieces_append_cons, Text.above, Text.below]
  have rewords : Rewords (Text.unpieces (upper ++ [line])) [] ('\n' :: needed.statement) [] :=
    { loose := by decide
      apart := fun _ => .inr rfl
      nonempty := by simp
      start := fun _ => fresh_cons.mpr (by decide)
      stop := by simp }
  have quiet : Quiet (Text.unpieces (upper ++ [line])) [] ('\n' :: needed.statement) [] := by
    intro upTo more shape some
    exact absurd (List.append_eq_nil_iff.mp shape.symm).2 some
  rw [shape]
  have adds := @Rewords.adds _ [] _ needed [] rewords quiet
    (fun _ _ first second _ _ some' _ inBack => some' (List.prefix_nil.mp inBack))
    fun isSource inside => absurd rfl (inside.ne_nil isSource).2
  simpa only [List.append_nil] using adds

theorem adds_between (regular : needed.Regular) (upper lower : List Text) (line next : Text) :
    Adds needed (Text.unpieces ((upper ++ [line]) ++ next :: lower))
      (Text.unpieces ((upper ++ [line]) ++ needed.statement :: next :: lower)) := by
  have shape : Text.unpieces ((upper ++ [line]) ++ needed.statement :: next :: lower) =
      (Text.above upper ++ line) ++ (('\n' :: (needed.statement ++ ['\n'])) ++
        (next ++ Text.below lower)) := by
    simp [Text.unpieces_append_cons, Text.above, Text.below]
  have whole : Text.unpieces ((upper ++ [line]) ++ next :: lower) =
      (Text.above upper ++ line) ++ (['\n'] ++ (next ++ Text.below lower)) := by
    simp [Text.unpieces_append_cons, Text.above, Text.below]
  have rewords : Rewords (Text.above upper ++ line) ['\n'] ('\n' :: (needed.statement ++ ['\n']))
      (next ++ Text.below lower) :=
    { loose := by decide
      apart := by simp
      nonempty := by simp
      start := fun _ => fresh_cons.mpr (by decide)
      stop := fun _ => by
        rw [← List.cons_append, List.reverse_append]
        exact fresh_cons.mpr (by decide) }
  have quiet : Quiet (Text.above upper ++ line) ['\n'] ('\n' :: (needed.statement ++ ['\n']))
      (next ++ Text.below lower) := by
    apply quiet_of_eq
    rw [Zone.after_append _ (_ ++ line), Zone.after_append _ (_ ++ line), Zone.after_cons,
      Zone.after_cons, Zone.after_nil, regular.still _ (Zone.next_newline _)]
  rw [shape, whole]
  exact rewords.adds quiet (by simp [Uncut]) fun _ inside => inside.severs

theorem adds_statement (regular : needed.Regular) (nonempty : lines ≠ []) (index : Nat) :
    Adds needed (Text.unpieces lines) (insertLine lines index needed.statement).content := by
  have split : lines.take index ++ lines.drop index = lines := List.take_append_drop index lines
  change Adds needed _ (Text.unpieces (lines.take index ++ needed.statement :: lines.drop index))
  generalize lines.take index = upper at split ⊢
  generalize lines.drop index = lower at split ⊢
  subst split
  rcases List.eq_nil_or_concat' upper with rfl | ⟨upper, line, rfl⟩
  · obtain ⟨line, lower, rfl⟩ := List.exists_cons_of_ne_nil nonempty
    exact adds_first regular line lower
  · cases lower with
    | nil => simpa only [List.append_nil] using adds_last upper line
    | cons next lower => exact adds_between regular upper lower line next

theorem Prerequisite.Edit.adds (regular : needed.Regular) (nonempty : lines ≠ [])
    (clean : Clean lines) (isEdit : needed.Edit lines edit) :
    Adds needed (Text.unpieces lines) edit.content := by
  rcases isEdit.isMerge_or clean with ⟨front, gap, names, extended, tail, merged⟩ | ⟨index, rfl, -⟩
  · exact (merged.respaced regular.isName).adds
  · exact adds_statement regular nonempty index

end Compliance
