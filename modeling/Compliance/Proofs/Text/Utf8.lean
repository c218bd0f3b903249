import Compliance.Proofs.Steps
import Compliance.Text.Utf8

/-!
# Reading what was written

Decoding gives back every text that was encoded: each character is read off its own
bytes, and what follows is read as if it stood alone.  Nothing else is read: bytes that are
accepted are the encoding of what they are read as.
-/

namespace Compliance

variable {index : Nat} {a b c d : UInt8} {rest : Bytes}

theorem isContinuation_iff : isContinuation a = true ↔ 0x80 ≤ a.toNat ∧ a.toNat ≤ 0xBF := by
  simp [isContinuation, UInt8.le_iff_toNat_le]

theorem followers?_of_one (low : 0xC2 ≤ a.toNat) (high : a.toNat ≤ 0xDF) :
    followers? a = some 1 := by
  simp [followers?, UInt8.le_iff_toNat_le, low, high]

theorem followers?_of_two (low : 0xE0 ≤ a.toNat) (high : a.toNat ≤ 0xEF) :
    followers? a = some 2 := by
  have above : ¬ a.toNat ≤ 0xDF := by omega
  simp [followers?, UInt8.le_iff_toNat_le, low, high, above]

theorem followers?_of_three (low : 0xF0 ≤ a.toNat) (high : a.toNat ≤ 0xF4) :
    followers? a = some 3 := by
  have above : ¬ a.toNat ≤ 0xDF := by omega
  have higher : ¬ a.toNat ≤ 0xEF := by omega
  simp [followers?, UInt8.le_iff_toNat_le, low, high, above, higher]

theorem isSecond_of (continues : 0x80 ≤ b.toNat ∧ b.toNat ≤ 0xBF)
    (long : a.toNat = 0xE0 → 0xA0 ≤ b.toNat) (noSurrogate : a.toNat = 0xED → b.toNat ≤ 0x9F)
    (longer : a.toNat = 0xF0 → 0x90 ≤ b.toNat) (small : a.toNat = 0xF4 → b.toNat ≤ 0x8F) :
    isSecond a b = true := by
  have within (low high : UInt8) (above : low.toNat ≤ b.toNat) (below : b.toNat ≤ high.toNat) :
      (low ≤ b && b ≤ high) = true := by
    simp [UInt8.le_iff_toNat_le, above, below]
  rw [isSecond]
  split
  · next same => exact within _ _ (long (congrArg UInt8.toNat same)) continues.2
  · split
    · next same => exact within _ _ continues.1 (noSurrogate (congrArg UInt8.toNat same))
    · split
      · next same => exact within _ _ (longer (congrArg UInt8.toNat same)) continues.2
      · split
        · next same => exact within _ _ continues.1 (small (congrArg UInt8.toNat same))
        · exact isContinuation_iff.mpr continues

theorem decodeUtf8From_one (low : a.toNat < 0x80) :
    decodeUtf8From index (a :: rest) =
      (decodeUtf8From (index + 1) rest).map (Char.ofNat a.toNat :: ·) := by
  have small : a < 0x80 := UInt8.lt_iff_toNat_lt.mpr low
  rw [decodeUtf8From.eq_def]
  exact if_pos small

theorem decodeUtf8From_two (count : followers? a = some 1) (second : isSecond a b = true)
    (high : ¬ a < 0x80) :
    decodeUtf8From index (a :: b :: rest) =
      (decodeUtf8From (index + 2) rest).map (twoBytes a b :: ·) := by
  rw [decodeUtf8From.eq_def]
  simp only [if_neg high, count, second]
  rfl

theorem decodeUtf8From_three (count : followers? a = some 2) (second : isSecond a b = true)
    (third : isContinuation c = true) (high : ¬ a < 0x80) :
    decodeUtf8From index (a :: b :: c :: rest) =
      (decodeUtf8From (index + 3) rest).map (threeBytes a b c :: ·) := by
  rw [decodeUtf8From.eq_def]
  simp only [if_neg high, count, second, third]
  rfl

theorem decodeUtf8From_four (count : followers? a = some 3) (second : isSecond a b = true)
    (third : isContinuation c = true) (fourth : isContinuation d = true) (high : ¬ a < 0x80) :
    decodeUtf8From index (a :: b :: c :: d :: rest) =
      (decodeUtf8From (index + 4) rest).map (fourBytes a b c d :: ·) := by
  rw [decodeUtf8From.eq_def]
  simp only [if_neg high, count, second, third, fourth]
  rfl

theorem decodeUtf8From_encodeChar (index : Nat) (character : Char) (rest : Bytes) :
    decodeUtf8From index (String.utf8EncodeChar character ++ rest) =
      (decodeUtf8From (index + (String.utf8EncodeChar character).length) rest).map
        (character :: ·) := by
  have valid : character.val.toNat < 0xD800 ∨
      0xDFFF < character.val.toNat ∧ character.val.toNat < 0x110000 := character.valid
  have same : Char.ofNat character.val.toNat = character := Char.ofNat_toNat character
  have value (n : Nat) (small : n < 256) : (UInt8.ofNat n).toNat = n :=
    UInt8.toNat_ofNat_of_lt' small
  have high (n : Nat) (small : n < 256) (large : 128 ≤ n) : ¬ UInt8.ofNat n < 0x80 := by
    rw [UInt8.lt_iff_toNat_lt, value n small]
    exact Nat.not_lt.mpr large
  unfold String.utf8EncodeChar
  generalize character.val.toNat = code at valid same
  by_cases one : code ≤ 0x7f
  · have lead := value code (by omega)
    simp only [if_pos one]
    have moves := @decodeUtf8From_one index (.ofNat code) rest (by omega)
    rw [lead, same] at moves
    exact moves
  by_cases two : code ≤ 0x7ff
  · have lead := value (code / 64 % 32 + 192) (by omega)
    have last := value (code % 64 + 128) (by omega)
    have read : twoBytes (.ofNat (code / 64 % 32 + 192)) (.ofNat (code % 64 + 128)) =
        character := by
      rw [twoBytes, lead, last, ← same]
      exact congrArg Char.ofNat (by omega)
    have second := @isSecond_of (.ofNat (code / 64 % 32 + 192)) (.ofNat (code % 64 + 128))
      (by omega) (by omega) (by omega) (by omega) (by omega)
    have moves := @decodeUtf8From_two index _ _ rest
      (followers?_of_one (by omega) (by omega)) second (high _ (by omega) (by omega))
    simp only [if_neg one, if_pos two]
    rw [read] at moves
    exact moves
  by_cases three : code ≤ 0xffff
  · have lead := value (code / 4096 % 16 + 224) (by omega)
    have middle := value (code / 64 % 64 + 128) (by omega)
    have last := value (code % 64 + 128) (by omega)
    have read : threeBytes (.ofNat (code / 4096 % 16 + 224)) (.ofNat (code / 64 % 64 + 128))
        (.ofNat (code % 64 + 128)) = character := by
      rw [threeBytes, lead, middle, last, ← same]
      exact congrArg Char.ofNat (by omega)
    have second := @isSecond_of (.ofNat (code / 4096 % 16 + 224))
      (.ofNat (code / 64 % 64 + 128)) (by omega) (by omega) (by omega) (by omega) (by omega)
    have moves := @decodeUtf8From_three index _ _ (.ofNat (code % 64 + 128)) rest
      (followers?_of_two (by omega) (by omega)) second
      (isContinuation_iff.mpr (by omega)) (high _ (by omega) (by omega))
    simp only [if_neg one, if_neg two, if_pos three]
    rw [read] at moves
    exact moves
  · have lead := value (code / 262144 % 8 + 240) (by omega)
    have early := value (code / 4096 % 64 + 128) (by omega)
    have middle := value (code / 64 % 64 + 128) (by omega)
    have last := value (code % 64 + 128) (by omega)
    have read : fourBytes (.ofNat (code / 262144 % 8 + 240))
        (.ofNat (code / 4096 % 64 + 128)) (.ofNat (code / 64 % 64 + 128))
        (.ofNat (code % 64 + 128)) = character := by
      rw [fourBytes, lead, early, middle, last, ← same]
      exact congrArg Char.ofNat (by omega)
    have second := @isSecond_of (.ofNat (code / 262144 % 8 + 240))
      (.ofNat (code / 4096 % 64 + 128)) (by omega) (by omega) (by omega) (by omega) (by omega)
    have moves := @decodeUtf8From_four index _ _ (.ofNat (code / 64 % 64 + 128))
      (.ofNat (code % 64 + 128)) rest (followers?_of_three (by omega) (by omega)) second
      (isContinuation_iff.mpr (by omega)) (isContinuation_iff.mpr (by omega))
      (high _ (by omega) (by omega))
    simp only [if_neg one, if_neg two, if_neg three]
    rw [read] at moves
    exact moves

theorem decodeUtf8From_encodeUtf8 (index : Nat) (text : Text) :
    decodeUtf8From index (encodeUtf8 text) = .ok text := by
  induction text generalizing index with
  | nil => simp [encodeUtf8, decodeUtf8From]
  | cons character text ih =>
      have split : encodeUtf8 (character :: text) =
          String.utf8EncodeChar character ++ encodeUtf8 text := rfl
      rw [split, decodeUtf8From_encodeChar, ih]
      rfl

/-- Every text survives encoding. -/
theorem decodeUtf8_encodeUtf8 (text : Text) : decodeUtf8 (encodeUtf8 text) = .ok text :=
  decodeUtf8From_encodeUtf8 0 text

/-! ## Bytes that are accepted -/

theorem bounds_of_followers? {count : Nat} (found : followers? a = some count) :
    count = 1 ∧ 0xC2 ≤ a.toNat ∧ a.toNat ≤ 0xDF ∨ count = 2 ∧ 0xE0 ≤ a.toNat ∧ a.toNat ≤ 0xEF ∨
      count = 3 ∧ 0xF0 ≤ a.toNat ∧ a.toNat ≤ 0xF4 := by
  simp only [followers?, UInt8.le_iff_toNat_le, Bool.and_eq_true, decide_eq_true_eq] at found
  split at found
  · next one => exact .inl ⟨(Option.some.inj found).symm, one⟩
  · split at found
    · next two => exact .inr (.inl ⟨(Option.some.inj found).symm, two⟩)
    · split at found
      · next three => exact .inr (.inr ⟨(Option.some.inj found).symm, three⟩)
      · cases found

theorem bounds_of_isSecond (second : isSecond a b = true) :
    (0x80 ≤ b.toNat ∧ b.toNat ≤ 0xBF) ∧ (a.toNat = 0xE0 → 0xA0 ≤ b.toNat) ∧
      (a.toNat = 0xED → b.toNat ≤ 0x9F) ∧ (a.toNat = 0xF0 → 0x90 ≤ b.toNat) ∧
      (a.toNat = 0xF4 → b.toNat ≤ 0x8F) := by
  have within (low high : UInt8) (inside : (low ≤ b && b ≤ high) = true) :
      low.toNat ≤ b.toNat ∧ b.toNat ≤ high.toNat := by
    simpa [UInt8.le_iff_toNat_le] using inside
  simp only [isSecond, ← UInt8.toNat_inj, UInt8.reduceToNat] at second
  split at second
  · have bounds : 0xA0 ≤ b.toNat ∧ b.toNat ≤ 0xBF := within _ _ second
    omega
  · split at second
    · have bounds : 0x80 ≤ b.toNat ∧ b.toNat ≤ 0x9F := within _ _ second
      omega
    · split at second
      · have bounds : 0x90 ≤ b.toNat ∧ b.toNat ≤ 0xBF := within _ _ second
        omega
      · split at second
        · have bounds : 0x80 ≤ b.toNat ∧ b.toNat ≤ 0x8F := within _ _ second
          omega
        · have bounds := isContinuation_iff.mp second
          omega

theorem toNat_charOfNat {code : Nat} (valid : code.isValidChar) :
    (Char.ofNat code).val.toNat = code := by
  rw [Char.ofNat, dif_pos valid]
  rfl

theorem encodeChar_one (low : a < 0x80) : String.utf8EncodeChar (Char.ofNat a.toNat) = [a] := by
  have small : a.toNat < 0x80 := UInt8.lt_iff_toNat_lt.mp low
  rw [String.utf8EncodeChar, toNat_charOfNat (.inl (by omega)), if_pos (by omega),
    UInt8.ofNat_toNat]

theorem encodeChar_two (count : followers? a = some 1) (second : isSecond a b = true) :
    String.utf8EncodeChar (twoBytes a b) = [a, b] := by
  have lead := bounds_of_followers? count
  have follows := bounds_of_isSecond second
  have code : (twoBytes a b).val.toNat = (a.toNat - 0xC0) * 64 + (b.toNat - 0x80) :=
    toNat_charOfNat (.inl (by omega))
  rw [String.utf8EncodeChar, code, if_neg (by omega), if_pos (by omega)]
  simp only [List.cons.injEq, ← UInt8.toNat_inj, UInt8.toNat_ofNat', and_true]
  omega

theorem encodeChar_three (count : followers? a = some 2) (second : isSecond a b = true)
    (third : isContinuation c = true) : String.utf8EncodeChar (threeBytes a b c) = [a, b, c] := by
  have lead := bounds_of_followers? count
  have follows := bounds_of_isSecond second
  have last := isContinuation_iff.mp third
  have code : (threeBytes a b c).val.toNat =
      ((a.toNat - 0xE0) * 64 + (b.toNat - 0x80)) * 64 + (c.toNat - 0x80) := by
    refine toNat_charOfNat ?_
    by_cases surrogates : a.toNat = 0xED
    · exact .inl (by omega)
    · unfold Nat.isValidChar
      omega
  rw [String.utf8EncodeChar, code, if_neg (by omega), if_neg (by omega), if_pos (by omega)]
  simp only [List.cons.injEq, ← UInt8.toNat_inj, UInt8.toNat_ofNat', and_true]
  omega

theorem encodeChar_four (count : followers? a = some 3) (second : isSecond a b = true)
    (third : isContinuation c = true) (fourth : isContinuation d = true) :
    String.utf8EncodeChar (fourBytes a b c d) = [a, b, c, d] := by
  have lead := bounds_of_followers? count
  have follows := bounds_of_isSecond second
  have middle := isContinuation_iff.mp third
  have last := isContinuation_iff.mp fourth
  have code : (fourBytes a b c d).val.toNat =
      (((a.toNat - 0xF0) * 64 + (b.toNat - 0x80)) * 64 + (c.toNat - 0x80)) * 64 +
        (d.toNat - 0x80) :=
    toNat_charOfNat (.inr (by omega))
  rw [String.utf8EncodeChar, code, if_neg (by omega), if_neg (by omega), if_neg (by omega)]
  simp only [List.cons.injEq, ← UInt8.toNat_inj, UInt8.toNat_ofNat', and_true]
  omega

theorem encodeUtf8_of_decodeUtf8From {bytes : Bytes} {text : Text}
    (read : decodeUtf8From index bytes = .ok text) : encodeUtf8 text = bytes := by
  have joined {own : Bytes} {character : Char} {others : Except Utf8Error Text} {rest : Bytes}
      (ih : ∀ {text}, others = .ok text → encodeUtf8 text = rest) {text : Text}
      (read : others.map (character :: ·) = .ok text)
      (encoded : String.utf8EncodeChar character = own) : encodeUtf8 text = own ++ rest := by
    obtain ⟨later, found, rfl⟩ := exists_of_map_eq_ok read
    rw [← encoded, ← ih found]
    rfl
  fun_induction decodeUtf8From index bytes generalizing text with
  | case1 =>
      obtain rfl := Except.ok.inj read
      rfl
  | case2 _ _ _ low ih => exact joined ih read (encodeChar_one low)
  | case6 _ _ _ _ _ second count ih =>
      exact joined ih read (encodeChar_two count (by simpa using second))
  | case9 _ _ _ _ second _ _ third count _ ih =>
      exact joined ih read (encodeChar_three count (by simpa using second) (by simpa using third))
  | case12 _ _ _ count _ found second more _ third most _ _ fourth ih =>
      obtain rfl : count = 3 := by
        have lengths := bounds_of_followers? found
        omega
      exact joined ih read (encodeChar_four found (by simpa using second) (by simpa using third)
        (by simpa using fourth))
  | _ => cases read

theorem decodeUtf8_eq_ok_iff {bytes : Bytes} {text : Text} :
    decodeUtf8 bytes = .ok text ↔ encodeUtf8 text = bytes := by
  constructor
  · exact encodeUtf8_of_decodeUtf8From
  · rintro rfl
    exact decodeUtf8_encodeUtf8 text

end Compliance
