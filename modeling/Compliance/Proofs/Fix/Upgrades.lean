import Mathlib.Data.List.Infix
import Mathlib.Logic.Function.Iterate
import Compliance.Proofs.Fix.Efficacy

/-!
# Upgrading plain URLs

What the fix for plain URLs does to the text of a line, and how often it can be
repeated.  An upgrade may uncover a plain URL whose scheme was the host of another
one, but every round uses up as many `http://` as it upgrades URLs, and no text
with an `s` put in gains one.
-/

namespace Compliance

open Pattern

variable {behind ahead word rest line : Text} {marks : List Mark} {found : List Match}

def isRemote (url : Match) : Bool := !isLocalHost (url.group 1)

def remoteUrls (line : Text) : List Match := (httpUrl.allMatches line).filter isRemote

/-- The line with an `s` put in behind the `http` of each URL.  The last one comes first, so every
URL still stands where it was found. -/
def secured (urls : List Match) (line : Text) : Text :=
  urls.foldr (fun url text => text.insertIdx (url.start.offset + 4) 's') line

theorem remoteUrls_eq_nil_iff :
    remoteUrls line = [] ↔ ∀ host ∈ httpHosts line, isLocalHost host = true := by
  simp [remoteUrls, isRemote, httpHosts, List.filter_eq_nil_iff]

theorem checkPlainHttp_isSome_iff {context : LineContext} :
    (checkPlainHttp context).isSome ↔
      isComment context.line = false ∧ remoteUrls context.line ≠ [] := by
  rw [checkPlainHttp_isSome, Ne, remoteUrls_eq_nil_iff]
  simp

theorem replace_upgradeUrlFix (reads : httpUrl.Reads behind word rest marks) :
    ∃ host, word = "http://".toList ++ host ∧
      upgradeUrlFix.replace (.of behind word rest marks) =
        if isRemote (.of behind word rest marks) then "https://".toList ++ host else word := by
  obtain ⟨host, rfl, -, rfl⟩ := reads_httpUrl.mp reads
  refine ⟨host, rfl, ?_⟩
  change upgradeUrl _ = _
  rw [upgradeUrl, isRemote, group_oneGroup Nat.one_ne_zero, Match.text_of]
  cases isLocalHost host <;> rfl

theorem insertIdx_scheme (before after : Text) :
    (before ++ ("http://".toList ++ after)).insertIdx (before.length + 4) 's' =
      before ++ ("https://".toList ++ after) := by
  induction before with
  | nil => rfl
  | cons c before ih =>
      simp only [List.cons_append, List.length_cons, Nat.add_right_comm _ 1 4,
        List.insertIdx_succ_cons, ih]

theorem secured_cons (url : Match) (urls : List Match) (line : Text) :
    secured (url :: urls) line = (secured urls line).insertIdx (url.start.offset + 4) 's' := rfl

theorem secured_cuts (cuts : httpUrl.Cuts behind ahead found) :
    secured (found.filter isRemote) (behind.reverse ++ ahead) =
      behind.reverse ++ splice upgradeUrlFix.replace (.between behind ahead) found := by
  induction cuts with
  | rest => rfl
  | @found behind gap word rest marks others quiet here reads later ih =>
      obtain ⟨host, rfl, replaced⟩ := replace_upgradeUrlFix reads
      have before : (("http://".toList ++ host).reverse ++ (gap.reverse ++ behind)).reverse =
          behind.reverse ++ (gap ++ ("http://".toList ++ host)) := by simp
      rw [before] at ih
      simp only [List.append_assoc] at ih
      rw [splice_of, replaced, List.filter_cons, List.append_assoc]
      split
      · have offset : (gap.reverse ++ behind).length = (behind.reverse ++ gap).length := by
          simp [Nat.add_comm]
        rw [secured_cons, ih, Match.start_offset_of, offset, ← List.append_assoc, insertIdx_scheme]
        simp only [List.append_assoc]
      · rw [ih]
        simp only [List.append_assoc]

theorem replaceAll_upgradeUrlFix (line : Text) :
    httpUrl.replaceAll upgradeUrlFix.replace line = secured (remoteUrls line) line :=
  (secured_cuts (cuts_allMatches (show httpUrl.plain = true by decide) (by decide) line)).symm

theorem scheme_of_cuts (cuts : httpUrl.Cuts behind ahead found) {url : Match} (here : url ∈ found) :
    "http://".toList <+: (behind.reverse ++ ahead).drop url.start.offset := by
  induction cuts with
  | rest => cases here
  | @found behind gap word rest marks others quiet first reads later ih =>
      rcases List.mem_cons.mp here with rfl | here
      · obtain ⟨host, rfl, -⟩ := reads_httpUrl.mp reads
        have offset : (gap.reverse ++ behind).length = (behind.reverse ++ gap).length := by
          simp [Nat.add_comm]
        rw [Match.start_offset_of, offset, ← List.append_assoc, List.drop_left, List.append_assoc]
        exact List.prefix_append _ _
      · simpa using ih here

/-- How often `http://` stands in a text. -/
def schemes (text : Text) : Nat := text.tails.countP "http://".toList.isPrefixOf

theorem schemes_cons (c : Char) (text : Text) :
    schemes (c :: text) = schemes text + if "http://".toList.isPrefixOf (c :: text) then 1
      else 0 := by
  rw [schemes, List.tails, List.countP_cons, schemes]

theorem isPrefixOf_secure (c : Char) (before after : Text) :
    "http://".toList.isPrefixOf (c :: (before ++ ("https://".toList ++ after))) =
      "http://".toList.isPrefixOf (c :: (before ++ ("http://".toList ++ after))) := by
  match before with
  | [] => simp [List.isPrefixOf]
  | [second] => simp [List.isPrefixOf]
  | second :: third :: before =>
      have long : "http://".toList.length ≤
          (c :: second :: third :: before ++ "http".toList).length := by
        simp
      have cut (tail : Text) : c :: (second :: third :: before ++ ("http".toList ++ tail)) =
          (c :: second :: third :: before ++ "http".toList) ++ tail := by simp
      have secure : "https://".toList ++ after = "http".toList ++ ("s://".toList ++ after) := rfl
      have plain : "http://".toList ++ after = "http".toList ++ ("://".toList ++ after) := rfl
      rw [secure, plain, cut, cut, isPrefixOf_append long, isPrefixOf_append long]

theorem schemes_secure (before after : Text) :
    schemes (before ++ ("https://".toList ++ after)) + 1 =
      schemes (before ++ ("http://".toList ++ after)) := by
  induction before with
  | nil => simp [schemes_cons, List.isPrefixOf]
  | cons c before ih =>
      rw [List.cons_append, List.cons_append, schemes_cons, schemes_cons, isPrefixOf_secure, ← ih]
      omega

theorem schemes_splice (cuts : httpUrl.Cuts behind ahead found) (kept : Text) :
    schemes (kept ++ splice upgradeUrlFix.replace (.between behind ahead) found) +
      (found.filter isRemote).length = schemes (kept ++ ahead) := by
  induction cuts generalizing kept with
  | rest => rfl
  | @found behind gap word rest marks others quiet here reads later ih =>
      obtain ⟨host, rfl, replaced⟩ := replace_upgradeUrlFix reads
      have onward := ih (kept ++ gap ++ ("http://".toList ++ host))
      simp only [List.append_assoc] at onward
      rw [splice_of, replaced, List.filter_cons]
      split
      · rw [List.append_assoc, List.append_assoc, ← onward, List.length_cons,
          ← List.append_assoc kept, ← List.append_assoc kept, ← schemes_secure]
        omega
      · simpa only [List.append_assoc] using onward

theorem schemes_secured (line : Text) :
    schemes (secured (remoteUrls line) line) + (remoteUrls line).length = schemes line := by
  rw [← replaceAll_upgradeUrlFix]
  exact schemes_splice (cuts_allMatches (by decide) (by decide) line) []

/-! ## The fix -/

theorem applyLine?_upgradeUrlFix (line : Text) :
    upgradeUrlFix.applyLine? line =
      if remoteUrls line = [] then none else some (secured (remoteUrls line) line) := by
  have same : secured (remoteUrls line) line = line ↔ remoteUrls line = [] := by
    constructor
    · intro same
      have fewer := schemes_secured line
      rwa [same, Nat.add_eq_left, List.length_eq_zero_iff] at fewer
    · intro none
      rw [none]
      rfl
  have replaced : upgradeUrlFix.matcher.pattern.replaceAll upgradeUrlFix.replace line =
      secured (remoteUrls line) line := replaceAll_upgradeUrlFix line
  simp only [applyLine?_eq_ite (show upgradeUrlFix.matcher.pattern.plain = true by decide)
    (by decide), replaced, same]

def upgradeRound (line : Text) : Text := (upgradeUrlFix.applyLine? line).getD line

theorem schemes_upgradeRound (remote : remoteUrls line ≠ []) :
    schemes (upgradeRound line) < schemes line := by
  have fewer := schemes_secured line
  have some := List.length_pos_iff.mpr remote
  rw [upgradeRound, applyLine?_upgradeUrlFix, if_neg remote, Option.getD_some]
  omega

theorem exists_remoteUrls_eq_nil (line : Text) :
    ∃ rounds ≤ schemes line, remoteUrls (upgradeRound^[rounds] line) = [] := by
  induction count : schemes line using Nat.strong_induction_on generalizing line with
  | h count ih =>
      by_cases remote : remoteUrls line = []
      · exact ⟨0, Nat.zero_le _, remote⟩
      · have fewer := schemes_upgradeRound remote
        obtain ⟨rounds, few, quiet⟩ := ih _ (by omega) (upgradeRound line) rfl
        exact ⟨rounds + 1, by omega, quiet⟩

/-- On a line that is no comment, the fix changes exactly what the check reports.  It puts an `s`
into the remote URLs, each of which costs one `http://`, so after some rounds nothing is left to
report; a line with local URLs only stays as it is. -/
theorem upgradeUrlFix_progress (line : Text) :
    (isComment line = false → ∀ context : LineContext, context.line = line →
      ((checkPlainHttp context).isSome ↔ (upgradeUrlFix.applyLine? line).isSome)) ∧
    (∀ new, upgradeUrlFix.applyLine? line = some new →
      new = secured (remoteUrls line) line ∧
        schemes new + (remoteUrls line).length = schemes line) ∧
    (∀ url ∈ remoteUrls line, "http://".toList <+: line.drop url.start.offset) ∧
    (∃ rounds ≤ schemes line, upgradeUrlFix.applyLine? (upgradeRound^[rounds] line) = none ∧
      ∀ context : LineContext, context.line = upgradeRound^[rounds] line →
        checkPlainHttp context = none) ∧
    ((∀ url ∈ httpUrl.allMatches line, isLocalHost (url.group 1) = true) →
      upgradeUrlFix.applyLine? line = none) := by
  refine ⟨?reported, ?changed, ?placed, ?rounds, ?untouched⟩
  case reported =>
    rintro code context rfl
    rw [checkPlainHttp_isSome_iff, applyLine?_upgradeUrlFix]
    split
    · next none => simp [none]
    · next remote => simp [code, remote]
  case changed =>
    intro new changed
    rw [applyLine?_upgradeUrlFix] at changed
    split at changed
    · cases changed
    · obtain rfl := Option.some.inj changed
      exact ⟨rfl, schemes_secured line⟩
  case placed =>
    intro url here
    exact scheme_of_cuts (cuts_allMatches (by decide) (by decide) line) (List.mem_filter.mp here).1
  case rounds =>
    obtain ⟨rounds, few, quiet⟩ := exists_remoteUrls_eq_nil line
    refine ⟨rounds, few, ?_, ?_⟩
    · rw [applyLine?_upgradeUrlFix, if_pos quiet]
    · intro context same
      rw [← Option.not_isSome_iff_eq_none, checkPlainHttp_isSome_iff, same]
      exact fun reported => reported.2 quiet
  case untouched =>
    intro none
    rw [applyLine?_upgradeUrlFix, if_pos]
    rw [remoteUrls_eq_nil_iff]
    simpa [httpHosts] using none

def nestedUrl : Text := "get('http://http://a.dev', 'http://localhost')".toList

theorem upgradeUrlFix_progress_nestedUrl :
    isComment nestedUrl = false ∧
      (checkPlainHttp ⟨[nestedUrl], 0, {}, "a.ts"⟩).isSome ∧
      upgradeUrlFix.applyLine? nestedUrl =
        some "get('https://http://a.dev', 'http://localhost')".toList ∧
      secured (remoteUrls nestedUrl) nestedUrl =
        "get('https://http://a.dev', 'http://localhost')".toList ∧
      schemes nestedUrl = 3 := by
  have code : isComment nestedUrl = false := by decide
  have changed : upgradeUrlFix.applyLine? nestedUrl =
      some "get('https://http://a.dev', 'http://localhost')".toList := by decide +kernel
  have progress := upgradeUrlFix_progress nestedUrl
  exact ⟨code, (progress.1 code ⟨[nestedUrl], 0, {}, "a.ts"⟩ rfl).mpr (by rw [changed]; rfl),
    changed, (progress.2.1 _ changed).1.symm, by decide +kernel⟩

end Compliance
