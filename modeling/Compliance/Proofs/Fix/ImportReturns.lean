import Compliance.Proofs.Fix.ImportOnce
import Compliance.Proofs.Fix.ImportRecords
import Compliance.Proofs.Text.Returns

/-!
# Line ends of imports

Which import a text needs does not depend on the carriage returns at the ends of its lines.  An
edit that extends a line keeps what stands behind the braces, its carriage return included;
a line that is put in has none.
-/

namespace Compliance

open Pattern

variable {symbol text other first second : Text}

theorem Returned.fresh_iff (returned : Returned text other) : Fresh other ↔ Fresh text := by
  have same := returned.head?_map_eq isWord (by decide)
  have any (text : Text) : text.head?.any isWord = (text.head?.map isWord).any id := by
    cases text <;> rfl
  rw [Fresh, Fresh, any, any, same]

theorem Returned.fresh_reverse_iff (returned : Returned text other) :
    Fresh other.reverse ↔ Fresh text.reverse := by
  simp only [Fresh, List.head?_reverse, returned.getLast?_eq]

theorem Returned.clear_iff (returned : Returned text other) : Clear other ↔ Clear text := by
  simp only [Clear, returned.getLast?_eq]

theorem Returned.blank_iff (returned : Returned text other) : Blank other ↔ Blank text :=
  returned.all_iff (by decide)

theorem Identifier.visible (isName : Identifier symbol) {c : Char} (here : c ∈ symbol) :
    c ≠ '\n' ∧ c ≠ '\r' := by
  constructor
  · rintro rfl
    exact absurd (isName.2 _ here) (by decide)
  · rintro rfl
    exact absurd (isName.2 _ here) (by decide)

theorem Returned.word (isName : Identifier symbol) (returned : Returned (symbol ++ text) other) :
    ∃ rest, other = symbol ++ rest ∧ Returned text rest := by
  obtain ⟨word, rest, rfl, one, two⟩ := returned.split
  obtain rfl := one.eq_of_no_newline fun here => (isName.visible here).1 rfl
  exact ⟨rest, rfl, two⟩

theorem Returned.unword (isName : Identifier symbol) {before after : Text}
    (returned : Returned text (before ++ (symbol ++ after))) :
    ∃ front back, text = front ++ (symbol ++ back) ∧ Returned front before ∧
      Returned back after := by
  obtain ⟨c, word, rfl⟩ := List.exists_cons_of_ne_nil isName.1
  obtain ⟨front, later, rfl, one, named⟩ := returned.unsplit (isName.visible (by simp)).1
  obtain ⟨back, rfl, two⟩ := unsplit_plain (fun here => (isName.visible here).2 rfl) named
  exact ⟨front, back, rfl, one, two⟩

theorem used_iff_of_returned (isName : Identifier symbol) (returned : Returned text other) :
    Used symbol other ↔ Used symbol text := by
  constructor
  · rintro ⟨before, after, rfl, start, stop⟩
    obtain ⟨front, back, rfl, one, two⟩ := returned.unword isName
    exact ⟨front, back, rfl, one.fresh_reverse_iff.mp start, two.fresh_iff.mp stop⟩
  · rintro ⟨before, after, rfl, start, stop⟩
    obtain ⟨front, _, rfl, one, returned⟩ := returned.split
    obtain ⟨back, rfl, two⟩ := returned.word isName
    exact ⟨front, back, rfl, one.fresh_reverse_iff.mpr start, two.fresh_iff.mpr stop⟩

theorem occurs_symbolWord_iff (isName : Identifier symbol) :
    (symbolWord symbol).occurs text = true ↔ Used symbol text := by
  refine ⟨fun occurs => ?_, occurs_symbolWord_of_used isName⟩
  have isPlain : (symbolWord symbol).plain = true := by
    simp only [symbolWord, plain_append, plain_ofText]
    decide
  obtain ⟨before, _, rfl, word, after, marks, rfl, reads⟩ := (occurs_iff isPlain).mp occurs
  simp only [symbolWord, reads_append_wordEdge, reads_append_ofText, reads_wordEdge] at reads
  obtain ⟨last, _, rfl, rfl, -, first⟩ := reads
  refine ⟨before, after, by simp, ?_, ?_⟩
  · have fresh := (edge_iff_fresh_left (isName.not_fresh _)).mp first
    simpa using fresh
  · refine (edge_iff_fresh_right ?_).mp last
    simpa using isName.not_fresh_reverse before

theorem Returned.importGap_iff (returned : Returned text other) :
    ImportGap other ↔ ImportGap text := by
  have identifier : Identifier "type".toList := by decide
  refine or_congr returned.blank_iff ⟨?_, ?_⟩
  · rintro ⟨first, second, rfl, some, blank, some', blank'⟩
    obtain ⟨front, back, rfl, one, two⟩ := returned.unword identifier
    exact ⟨front, back, rfl, mt one.eq_nil_iff.mpr some, one.blank_iff.mp blank,
      mt two.eq_nil_iff.mpr some', two.blank_iff.mp blank'⟩
  · rintro ⟨first, second, rfl, some, blank, some', blank'⟩
    obtain ⟨front, _, rfl, one, returned⟩ := returned.split
    obtain ⟨back, rfl, two⟩ := returned.word identifier
    exact ⟨front, back, rfl, mt one.eq_nil_iff.mp some, one.blank_iff.mpr blank,
      mt two.eq_nil_iff.mp some', two.blank_iff.mpr blank'⟩

theorem occurs_importOf_of_returned (isName : Identifier symbol) (returned : Returned text other) :
    (importOf symbol).occurs other = (importOf symbol).occurs text := by
  rw [Bool.eq_iff_iff, occurs_importOf_iff isName, occurs_importOf_iff isName]
  have braces : '\x7b' ≠ '\n' ∧ '\x7d' ≠ '\r' := by decide
  constructor
  · rintro ⟨before, gap, names, rest, some, lists, rfl⟩
    obtain ⟨before', _, rfl, one, spaced⟩ := returned.unword identifier_import
    obtain ⟨gap', _, rfl, two, braced⟩ := spaced.unsplit braces.1
    obtain ⟨_, rfl, listed⟩ := @Returned.unsplit_plain _ ['\x7b'] _ (by decide) braced
    obtain ⟨names', rest', rfl, three, four⟩ := listed.unword isName
    refine ⟨before', gap', names', rest', mt two.eq_nil_iff.mpr some, ?_, rfl⟩
    exact ⟨one.clear_iff.mp lists.keyword, two.importGap_iff.mp lists.gap,
      mt (three.mem_iff braces.2).mpr lists.opened, three.clear_iff.mp lists.start,
      four.fresh_iff.mp lists.stop, (four.mem_iff braces.2).mp lists.closed⟩
  · rintro ⟨before, gap, names, rest, some, lists, rfl⟩
    obtain ⟨before', _, rfl, one, keyword⟩ := returned.split
    obtain ⟨_, rfl, spaced⟩ := keyword.word identifier_import
    obtain ⟨gap', _, rfl, two, braced⟩ := spaced.split
    cases braced with
    | same _ listed =>
        obtain ⟨names', _, rfl, three, named⟩ := listed.split
        obtain ⟨rest', rfl, four⟩ := named.word isName
        refine ⟨before', gap', names', rest', mt two.eq_nil_iff.mp some, ?_, rfl⟩
        exact ⟨one.clear_iff.mpr lists.keyword, two.importGap_iff.mpr lists.gap,
          mt (three.mem_iff braces.2).mp lists.opened, three.clear_iff.mpr lists.start,
          four.fresh_iff.mpr lists.stop, (four.mem_iff braces.2).mpr lists.closed⟩

/-! ## Lines of imports -/

variable {module line head names tail : Text}

theorem exists_reads_append {first second : Pattern} {behind rest head tail : Text}
    (one : ∃ marks, first.Reads behind head (tail ++ rest) marks)
    (two : ∃ marks, second.Reads (head.reverse ++ behind) tail rest marks) :
    ∃ marks, (first ++ second).Reads behind (head ++ tail) rest marks := by
  obtain ⟨headMarks, one⟩ := one
  obtain ⟨tailMarks, two⟩ := two
  exact ⟨_, head, tail, headMarks, tailMarks, rfl, rfl, one, two⟩

theorem exists_reads_group {index : Nat} {body : Pattern} {behind word rest : Text}
    (reads : ∃ marks, body.Reads behind word rest marks) :
    ∃ marks, (group index body).Reads behind word rest marks :=
  let ⟨inner, reads⟩ := reads
  ⟨_, inner, reads, rfl⟩

theorem exists_reads_fromModule {behind rest : Text} (source : FromModule module tail)
    (one : '\n' ∉ tail) : ∃ marks, (fromModule module).Reads behind tail rest marks := by
  have quote {c : Char} (listed : c ∈ ['\'', '\x22']) : (CharSet.anyOf "'\x22").has c = true := by
    simpa [CharSet.anyOf, CharSet.ofText, CharSet.has] using listed
  obtain ⟨first, second, opening, closing, more, rfl, blankFirst, blankSecond, opens, closes⟩ :=
    source
  have oneMore : '\n' ∉ more := fun here => one (by simp [here])
  simp only [fromModule, reads_append_many, reads_append_single, reads_append_ofText,
    reads_append_blanks, reads_append_lit, reads_blanks]
  exact ⟨[], _, more, by simp, (all_noneOf_iff rfl).mpr oneMore, _, closing, rfl,
    quote closes, _, rfl, _,
    opening, rfl, quote opens, _, second, rfl, blankSecond, first, rfl, blankFirst, rfl⟩

theorem exists_reads_names {first : Pattern} {front : Text} {one two : Nat}
    (closed : '\x7d' ∉ names) (source : FromModule module tail) (oneLine : '\n' ∉ tail)
    (start : ∃ marks, first.Reads [] front (names ++ '\x7d' :: tail) marks) :
    ∃ marks, (first ++ group one (many insideBraces) ++ lit "\x7d" ++
      group two (fromModule module) ++
      textEnd).Reads [] (front ++ names ++ ['\x7d'] ++ tail ++ []) [] marks := by
  refine exists_reads_append (exists_reads_append
    (exists_reads_append (exists_reads_append ?_ ?_) ?_) ?_) ?_
  · simpa using start
  · exact exists_reads_group ⟨[], (reads_many _).mpr ⟨(all_noneOf_iff rfl).mpr closed, rfl⟩⟩
  · exact ⟨[], (reads_lit _).mpr ⟨rfl, rfl⟩⟩
  · exact exists_reads_group (exists_reads_fromModule source oneLine)
  · exact ⟨[], by simp⟩

def ClosesImport (module line : Text) : Prop :=
  ∃ names tail, line = names ++ ('\x7d' :: tail) ∧ '\x7d' ∉ names ∧ FromModule module tail

theorem occurs_importClosing_iff (one : '\n' ∉ line) :
    (importClosing module).occurs line = true ↔ ClosesImport module line := by
  constructor
  · intro occurs
    obtain ⟨found, find⟩ := Option.isSome_iff_exists.mp occurs
    obtain ⟨names, tail, shape, closed, source, -⟩ := shape_of_find?_importClosing find
    exact ⟨names, tail, shape, closed, source⟩
  · rintro ⟨names, tail, rfl, closed, source⟩
    have oneTail : '\n' ∉ tail := fun here => one (by simp [here])
    obtain ⟨marks, reads⟩ := @exists_reads_names module names tail textStart [] 1 2 closed
        source oneTail ⟨[], by simp⟩
    exact (occurs_iff (plain_importClosing module)).mpr ⟨[], _, rfl, _, [], marks, by simp, reads⟩

def HoldsImport (module line : Text) : Prop :=
  ∃ head names tail, line = head ++ ('\x7b' :: (names ++ ('\x7d' :: tail))) ∧
    ImportHead Blank head ∧ '\x7d' ∉ names ∧ FromModule module tail

theorem occurs_importLine_iff (one : '\n' ∉ line) :
    (importLine module).occurs line = true ↔ HoldsImport module line := by
  constructor
  · intro occurs
    obtain ⟨found, find⟩ := Option.isSome_iff_exists.mp occurs
    obtain ⟨head, names, tail, shape, isHead, closed, source, -⟩ := shape_of_find?_importLine find
    exact ⟨head, names, tail, shape, isHead, closed, source⟩
  · rintro ⟨_, names, tail, rfl, ⟨indent, gap, rfl, blank, blankGap⟩, closed, source⟩
    have oneTail : '\n' ∉ tail := fun here => one (by simp [here])
    have keyword : (blanks ++ lit "import" ++ blanks).Reads [] (indent ++ "import".toList ++ gap)
        ('\x7b' :: (names ++ '\x7d' :: tail)) [] := by
      simp only [reads_append_blanks, reads_append_lit, reads_blanks]
      exact ⟨_, gap, rfl, blankGap, _, rfl, blank, trivial⟩
    have start : ∃ marks, (textStart ++ group 1 (blanks ++ lit "import" ++ blanks) ++
        lit "\x7b").Reads []
        ([] ++ (indent ++ "import".toList ++ gap) ++ ['\x7b']) (names ++ '\x7d' :: tail) marks :=
      exists_reads_append (exists_reads_append ⟨[], by simp⟩ (exists_reads_group ⟨[], keyword⟩))
        ⟨[], (reads_lit _).mpr ⟨rfl, rfl⟩⟩
    obtain ⟨marks, reads⟩ := @exists_reads_names _ _ _ _ _ 2 3 closed source oneTail start
    exact (occurs_iff (plain_importLine module)).mpr ⟨[], _, rfl, _, [], marks, by simp, reads⟩

theorem occurs_importOpening_iff : importOpening.occurs line = true ↔ Opens line := by
  refine ⟨opens_of_occurs, ?_⟩
  rintro ⟨_, names, rfl, ⟨indent, gap, rfl, blank, isGap⟩, closed⟩
  have reads : importOpening.Reads []
      (indent ++ ("import".toList ++ gap) ++ '\x7b' :: names) [] [] := by
    rw [importOpening, reads_append_textEnd, reads_append_many]
    refine ⟨rfl, indent ++ ("import".toList ++ gap) ++ ['\x7b'], names, by simp,
      (all_noneOf_iff rfl).mpr closed, ?_⟩
    rw [reads_append_lit]
    refine ⟨_, rfl, reads_keyword.mpr ⟨indent, gap, by simp, isGap, ?_⟩⟩
    simp only [reads_append_blanks, reads_textStart]
    exact ⟨[], indent, rfl, blank, rfl, trivial, trivial⟩
  exact (occurs_iff (by decide)).mpr ⟨[], _, rfl, _, [], [], (List.append_nil _).symm, reads⟩

theorem drop_last {c d : Char} {left right : Text} (differs : d ≠ c)
    (shape : line ++ [c] = left ++ d :: right) :
    ∃ rest, right = rest ++ [c] ∧ line = left ++ d :: rest := by
  rcases List.eq_nil_or_concat' right with rfl | ⟨rest, e, rfl⟩
  · exact absurd (List.append_inj' shape rfl).2 (by simpa using Ne.symm differs)
  · have last : line ++ [c] = (left ++ d :: rest) ++ [e] := by simpa using shape
    obtain ⟨rfl, same⟩ := List.append_inj' last rfl
    obtain rfl := (List.cons.inj same).1
    exact ⟨rest, rfl, rfl⟩

theorem fromModule_append_iff : FromModule module (tail ++ ['\r']) ↔ FromModule module tail := by
  refine ⟨?_, fun source => source.append _⟩
  rintro ⟨first, second, opening, closing, more, shape, blankFirst, blankSecond, opens, closes⟩
  have other : closing ≠ '\r' := by
    rintro rfl
    exact absurd closes (by decide)
  obtain ⟨rest, rfl, rfl⟩ := @drop_last tail '\r' closing
    (first ++ ("from".toList ++ (second ++ opening :: module))) more other (by simpa using shape)
  exact ⟨first, second, opening, closing, rest, by simp, blankFirst, blankSecond, opens, closes⟩

theorem closesImport_append_iff :
    ClosesImport module (line ++ ['\r']) ↔ ClosesImport module line := by
  constructor
  · rintro ⟨names, tail, shape, closed, source⟩
    obtain ⟨rest, rfl, rfl⟩ := drop_last (by decide) shape
    exact ⟨names, rest, rfl, closed, fromModule_append_iff.mp source⟩
  · rintro ⟨names, tail, rfl, closed, source⟩
    exact ⟨names, tail ++ ['\r'], by simp, closed, source.append _⟩

theorem holdsImport_append_iff : HoldsImport module (line ++ ['\r']) ↔ HoldsImport module line := by
  constructor
  · rintro ⟨head, names, tail, shape, isHead, closed, source⟩
    obtain ⟨rest, rfl, rfl⟩ :=
      @drop_last line '\r' '\x7d' (head ++ '\x7b' :: names) tail (by decide) (by simpa using shape)
    exact ⟨head, names, rest, by simp, isHead, closed, fromModule_append_iff.mp source⟩
  · rintro ⟨head, names, tail, rfl, isHead, closed, source⟩
    exact ⟨head, names, tail ++ ['\r'], by simp, isHead, closed, source.append _⟩

theorem opens_append_iff : Opens (line ++ ['\r']) ↔ Opens line := by
  constructor
  · rintro ⟨head, names, shape, isHead, closed⟩
    obtain ⟨rest, rfl, rfl⟩ := drop_last (by decide) shape
    exact ⟨head, rest, rfl, isHead, fun here => closed (List.mem_append_left _ here)⟩
  · rintro ⟨head, names, rfl, isHead, closed⟩
    exact ⟨head, names ++ ['\r'], by simp, isHead, by simp [closed]⟩

/-- A test that does not see the line end. -/
def Blind (test : Text → Bool) : Prop :=
  ∀ line, '\n' ∉ line → test (line ++ ['\r']) = test line

theorem blind_of_iff {test : Text → Bool} {Property : Text → Prop}
    (tests : ∀ {line}, '\n' ∉ line → (test line = true ↔ Property line))
    (same : ∀ {line}, Property (line ++ ['\r']) ↔ Property line) : Blind test := by
  intro line one
  have both : '\n' ∉ line ++ ['\r'] := by simp [one]
  rw [Bool.eq_iff_iff, tests one, tests both, same]

theorem blind_importLine : Blind (importLine module).occurs :=
  blind_of_iff occurs_importLine_iff holdsImport_append_iff

theorem blind_importClosing : Blind (importClosing module).occurs :=
  blind_of_iff occurs_importClosing_iff closesImport_append_iff

theorem blind_importOpening : Blind importOpening.occurs :=
  blind_of_iff (fun _ => occurs_importOpening_iff) opens_append_iff

/-! ## Lists of lines -/

namespace Carries

variable {full : Bool} {lines returned : List Text}

theorem findIdx?_eq {test : Text → Bool} (carries : Carries full lines returned)
    (clean : Clean lines) (blind : Blind test) : returned.findIdx? test = lines.findIdx? test := by
  induction carries with
  | last => rfl
  | bare line rest ih =>
      have clean := List.forall_mem_cons.mp clean
      rw [List.findIdx?_cons, List.findIdx?_cons, ih clean.2]
  | carried line rest ih =>
      have clean := List.forall_mem_cons.mp clean
      rw [List.findIdx?_cons, List.findIdx?_cons, ih clean.2, blind line clean.1]

theorem importBlock?_eq (carries : Carries full lines returned) (clean : Clean lines)
    (isOpen : Option Nat) (index : Nat) :
    importBlock? (importClosing module) isOpen index returned =
      importBlock? (importClosing module) isOpen index lines := by
  induction carries generalizing isOpen index with
  | last => rfl
  | bare line rest ih =>
      have clean := List.forall_mem_cons.mp clean
      cases isOpen with
      | none => simp only [importBlock?, ih clean.2]
      | some start => simp only [importBlock?, ih clean.2]
  | carried line rest ih =>
      have clean := List.forall_mem_cons.mp clean
      have braces : List.contains (line ++ ['\r']) '\x7d' = List.contains line '\x7d' := by simp
      have closing := @blind_importClosing module line clean.1
      have opening := blind_importOpening line clean.1
      cases isOpen with
      | none => simp only [importBlock?, ih clean.2, opening]
      | some start => simp only [importBlock?, ih clean.2, braces, closing]

end Carries

end Compliance
