import Compliance.Proofs.Fix.Gain
import Compliance.Proofs.Fix.Kept

/-!
# Plain URLs after their fix

Where a plain URL stands on a line whose remote URLs were upgraded.  The line is
cut at the `://` of the upgraded URLs: no plain URL crosses such a cut, so the hosts
of the line are those of the parts.
-/

namespace Compliance

open Pattern

variable {behind word rest : Text} {marks : List Mark}

def urlHost? (text : Text) : Option Text :=
  if "http://".toList.isPrefixOf text then
    let host := (text.drop 7).takeWhile hostChars.has
    if host.isEmpty then none else some host
  else none

def scanHosts : Nat → Text → List Text
  | _, [] => []
  | skip + 1, _ :: rest => scanHosts skip rest
  | 0, c :: rest =>
      match urlHost? (c :: rest) with
      | none => scanHosts 0 rest
      | some host => host :: scanHosts (6 + host.length) rest

theorem eq_append_of_isPrefixOf {start text : Text} (h : start.isPrefixOf text = true) :
    text = start ++ text.drop start.length :=
  (List.prefix_iff_eq_append.mp (List.isPrefixOf_iff_prefix.mp h)).symm

theorem best_group_many1 (chars : CharSet) (index : Nat) (behind : Text) {c : Char} {ahead : Text}
    (has : chars.has c = true) :
    (group index (many1 chars)).best finish behind (c :: ahead) =
      some ⟨.between ((c :: ahead.takeWhile chars.has).reverse ++ behind)
        (ahead.dropWhile chars.has),
        oneGroup index behind (c :: ahead.takeWhile chars.has) (ahead.dropWhile chars.has)⟩ := by
  have stops : (ahead.dropWhile chars.has).head?.all (!chars.has ·) = true := by
    cases shape : ahead.dropWhile chars.has with
    | nil => rfl
    | cons first others =>
        have := List.head?_dropWhile_not chars.has ahead
        simpa [shape] using this
  have all : ∀ x ∈ ahead.takeWhile chars.has, chars.has x = true := fun x here =>
    List.mem_takeWhile_imp here
  have total (behind ahead : Text) : ((finish behind ahead).map
      (·.closing index (.between behind ahead))).isSome = true := rfl
  have run := best_many_of_total total all stops (c :: behind)
  rw [List.takeWhile_append_dropWhile] at run
  rw [best_group, many1, best_plus _ _ _ rfl, best_single_cons, if_pos has]
  rw [many] at run
  rw [run]
  simp [finish, Outcome.closing, Outcome.opening, oneGroup]

theorem best_group_many1_eq_none (chars : CharSet) (index : Nat) (behind : Text) {ahead : Text}
    (stops : ahead.head?.all (!chars.has ·) = true) :
    (group index (many1 chars)).best finish behind ahead = none := by
  rw [best_group, many1, best_plus _ _ _ rfl]
  cases ahead with
  | nil => simp
  | cons c ahead =>
      have out : chars.has c = false := by simpa using stops
      simp [out]

theorem matchAt_httpUrl (behind ahead : Text) :
    httpUrl.matchAt behind ahead = (urlHost? ahead).map fun host =>
      .of behind ("http://".toList ++ host) (ahead.drop (7 + host.length))
        (oneGroup 1 ("http://".toList.reverse ++ behind) host (ahead.drop (7 + host.length))) := by
  have literal : (lit "http://").plain = true := by decide
  rw [matchAt, httpUrl]
  change Option.map _ ((seq _ _).best _ _ _) = _
  rw [best_seq _ _ _ literal, lit, best_ofText, along, urlHost?]
  split
  · next starts =>
      obtain ⟨more, rfl⟩ : ∃ more, ahead = "http://".toList ++ more :=
        ⟨_, eq_append_of_isPrefixOf starts⟩
      have rest : ("http://".toList ++ more).drop 7 = more := rfl
      change Option.map _ ((group 1 (many1 hostChars)).best finish _ more) = _
      rw [rest]
      cases more with
      | nil =>
          rw [best_group_many1_eq_none _ _ _ rfl]
          rfl
      | cons c more =>
          cases has : hostChars.has c with
          | false =>
              rw [best_group_many1_eq_none _ _ _ (by simp [has])]
              simp [has]
          | true =>
              have taken : (c :: more).takeWhile hostChars.has =
                  c :: more.takeWhile hostChars.has := by
                simp [has]
              have left : ("http://".toList ++ c :: more).drop
                  (7 + (c :: more.takeWhile hostChars.has).length) =
                    more.dropWhile hostChars.has := by
                have split : "http://".toList ++ c :: more = ("http://".toList ++
                    c :: more.takeWhile hostChars.has) ++ more.dropWhile hostChars.has := by
                  rw [List.append_assoc, List.cons_append, List.takeWhile_append_dropWhile]
                rw [split]
                exact List.drop_left' (by rw [List.length_append]; rfl)
              rw [best_group_many1 hostChars 1 _ has, taken]
              simp only [List.isEmpty_cons, Bool.false_eq_true, if_false, Option.map_some, left]
              simp [Match.of]
  · rfl

theorem hosts_apart (skip : Nat) (flag : Bool) (behind ahead : Text) :
    (apart skip flag (httpUrl.matchesFrom behind ahead)).map (·.group 1) =
      scanHosts skip ahead := by
  induction ahead generalizing skip flag behind with
  | nil =>
      have none : httpUrl.matchAt behind [] = none := matchAt_httpUrl behind []
      cases skip with
      | zero => simp [matchesFrom, none, apart, scanHosts]
      | succ skip => cases skip <;> simp [matchesFrom, none, apart, scanHosts]
  | cons c ahead ih =>
      cases skip with
      | succ skip => exact ih skip flag (c :: behind)
      | zero =>
          rw [matchesFrom, matchAt_httpUrl, scanHosts]
          cases found : urlHost? (c :: ahead) with
          | none => exact ih 0 false (c :: behind)
          | some host =>
              have size : (Match.of behind ("http://".toList ++ host)
                  ((c :: ahead).drop (7 + host.length))
                  (oneGroup 1 ("http://".toList.reverse ++ behind) host
                    ((c :: ahead).drop (7 + host.length)))).length = 6 + host.length + 1 := by
                rw [Match.length_of, List.length_append]
                change 7 + host.length = _
                omega
              simp only [Option.map_some, apart, size, List.map_cons]
              rw [ih, Match.group, group?_oneGroup (by decide), Option.getD_some]

theorem httpHosts_eq (text : Text) : httpHosts text = scanHosts 0 text := by
  rw [httpHosts, allMatches, matchesByPlace_eq, hosts_apart]

/-! ## Cuts -/

theorem takeWhile_append_cons {inRun : Char → Bool} {stop : Char} (stops : inRun stop = false)
    (front rest : Text) : (front ++ stop :: rest).takeWhile inRun = front.takeWhile inRun := by
  induction front with
  | nil => simp [stops]
  | cons c front ih => simp [List.takeWhile_cons, ih]

theorem isPrefixOf_append {start text : Text} (short : start.length ≤ text.length) (rest : Text) :
    start.isPrefixOf (text ++ rest) = start.isPrefixOf text := by
  rw [Bool.eq_iff_iff, List.isPrefixOf_iff_prefix, List.isPrefixOf_iff_prefix]
  constructor
  · exact fun whole => List.prefix_of_prefix_length_le whole (List.prefix_append text rest) short
  · exact fun here => here.trans (List.prefix_append text rest)

theorem length_of_urlHost? {text host : Text} (found : urlHost? text = some host) :
    7 + host.length ≤ text.length := by
  simp only [urlHost?] at found
  split at found
  · next starts =>
      split at found
      · cases found
      · obtain rfl := Option.some.inj found
        have scheme := (List.isPrefixOf_iff_prefix.mp starts).length_le
        have run := (List.takeWhile_sublist (l := text.drop 7) hostChars.has).length_le
        rw [List.length_drop] at run
        change 7 ≤ _ at scheme
        omega
  · cases found

theorem urlHost?_append (front rest : Text) (nonempty : front ≠ []) :
    urlHost? (front ++ ("https".toList ++ ("://".toList ++ rest))) =
      urlHost? (front ++ "https".toList) := by
  obtain ⟨first, others, rfl⟩ := List.exists_cons_of_ne_nil nonempty
  cases others with
  | nil => simp [urlHost?, List.isPrefixOf]
  | cons second others =>
      have long : 7 ≤ (first :: second :: others ++ "https".toList).length := by
        rw [List.length_append]
        change 7 ≤ others.length + 2 + 5
        omega
      rw [← List.append_assoc]
      generalize first :: second :: others ++ "https".toList = text at long
      have host : ((text ++ ("://".toList ++ rest)).drop 7).takeWhile hostChars.has =
          (text.drop 7).takeWhile hostChars.has := by
        rw [List.drop_append_of_le_length long]
        exact takeWhile_append_cons (by decide) _ _
      simp only [urlHost?, host]
      rw [isPrefixOf_append (show "http://".toList.length ≤ text.length from long)]

theorem scanHosts_append (front rest : Text) {skip : Nat} (inside : skip ≤ front.length + 5) :
    scanHosts skip (front ++ ("https".toList ++ ("://".toList ++ rest))) =
      scanHosts skip (front ++ "https".toList) ++ scanHosts 0 rest := by
  induction front generalizing skip with
  | nil =>
      have cases : skip = 0 ∨ skip = 1 ∨ skip = 2 ∨ skip = 3 ∨ skip = 4 ∨ skip = 5 := by
        simp only [List.length_nil] at inside
        omega
      rcases cases with rfl | rfl | rfl | rfl | rfl | rfl <;> rfl
  | cons c front ih =>
      cases skip with
      | succ skip =>
          simp only [List.length_cons] at inside
          exact ih (by omega)
      | zero =>
          have same := urlHost?_append (c :: front) rest (by simp)
          simp only [List.cons_append] at same
          simp only [List.cons_append, scanHosts, same]
          cases found : urlHost? (c :: (front ++ "https".toList)) with
          | none => exact ih (by omega)
          | some host =>
              have size := length_of_urlHost? found
              rw [List.length_cons, List.length_append] at size
              change 7 + host.length ≤ front.length + 5 + 1 at size
              simp only [ih (show 6 + host.length ≤ front.length + 5 by omega), List.cons_append]

def upgradedParts : Text → Cursor → List Match → List Text
  | kept, place, [] => [kept ++ place.ahead]
  | kept, place, found :: others =>
      let before := kept ++ place.upTo found.start
      if isLocalHost (found.group 1) then upgradedParts (before ++ found.text) found.stop others
      else (before ++ "https".toList) :: upgradedParts (found.group 1) found.stop others

theorem upgradedParts_of (kept behind gap word rest : Text) (marks : List Mark)
    (others : List Match) :
    upgradedParts kept (.between behind (gap ++ (word ++ rest)))
        (.of (gap.reverse ++ behind) word rest marks :: others) =
      let found := Match.of (gap.reverse ++ behind) word rest marks
      let next := Cursor.between (word.reverse ++ (gap.reverse ++ behind)) rest
      if isLocalHost (found.group 1) then upgradedParts (kept ++ gap ++ word) next others
      else (kept ++ gap ++ "https".toList) :: upgradedParts (found.group 1) next others := by
  have before : (Cursor.between behind (gap ++ (word ++ rest))).upTo
      (Match.of (gap.reverse ++ behind) word rest marks).start = gap := by
    simp [Match.of, Cursor.upTo, Cursor.between]
  simp only [upgradedParts, Match.text_of, before]
  rfl

theorem scanHosts_splice {ahead : Text} {found : List Match}
    (cuts : httpUrl.Cuts behind ahead found) (kept : Text) :
    scanHosts 0 (kept ++ splice upgradeUrlFix.replace (.between behind ahead) found) =
      (upgradedParts kept (.between behind ahead) found).flatMap (scanHosts 0) := by
  induction cuts generalizing kept with
  | rest =>
      rw [splice_nil, upgradedParts]
      simp [Cursor.between]
  | @found behind gap word rest marks others quiet here reads later ih =>
      obtain ⟨host, rfl, -, rfl⟩ := reads_httpUrl.mp reads
      rw [splice_of, upgradedParts_of]
      simp only [group_oneGroup Nat.one_ne_zero]
      change scanHosts 0 (_ ++ (_ ++ (upgradeUrl _ ++ _))) = _
      rw [upgradeUrl, group_oneGroup Nat.one_ne_zero]
      split
      · rw [Match.text_of, ← ih]
        simp only [List.append_assoc]
      · have split (later : Text) : kept ++ (gap ++ ("https://".toList ++ host ++ later)) =
            (kept ++ gap) ++ ("https".toList ++ ("://".toList ++ (host ++ later))) := by simp
        rw [split, scanHosts_append _ _ (Nat.zero_le _), ih, List.flatMap_cons]

theorem httpHosts_of_upgradeUrlFix {line new : Text}
    (changed : upgradeUrlFix.applyLine? line = some new) :
    httpHosts new =
      (upgradedParts [] (Cursor.start line) (httpUrl.allMatches line)).flatMap httpHosts := by
  obtain ⟨rfl, -⟩ := applyLine?_eq_some changed
  have cuts := cuts_allMatches (show httpUrl.plain = true by decide) (by decide) line
  have hosts : httpHosts = scanHosts 0 := funext httpHosts_eq
  rw [hosts]
  exact scanHosts_splice cuts []

end Compliance
