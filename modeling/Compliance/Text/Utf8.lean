import Compliance.Text.Basic

/-!
# UTF-8

Texts as bytes and back.  Decoding accepts exactly the encodings of texts; for
anything else it says where the first bad sequence starts and how many bytes of
it could have begun a character.
-/

namespace Compliance

abbrev Bytes := List UInt8

inductive Utf8Error where
  /-- The bytes from `index` on start no character; `length` of them looked like one. -/
  | invalid (index length : Nat)
  | incomplete (index : Nat)
  deriving DecidableEq, Repr

def Utf8Error.message : Utf8Error → String
  | invalid index length => s!"invalid utf-8 sequence of {length} bytes from index {index}"
  | incomplete index => s!"incomplete utf-8 byte sequence from index {index}"

def encodeUtf8 (text : Text) : Bytes := text.flatMap String.utf8EncodeChar

def isContinuation (byte : UInt8) : Bool := 0x80 ≤ byte && byte ≤ 0xBF

def followers? (lead : UInt8) : Option Nat :=
  if 0xC2 ≤ lead && lead ≤ 0xDF then some 1
  else if 0xE0 ≤ lead && lead ≤ 0xEF then some 2
  else if 0xF0 ≤ lead && lead ≤ 0xF4 then some 3
  else none

/-- The second byte must not make the sequence overlong, a surrogate or too large. -/
def isSecond (lead second : UInt8) : Bool :=
  if lead = 0xE0 then 0xA0 ≤ second && second ≤ 0xBF
  else if lead = 0xED then 0x80 ≤ second && second ≤ 0x9F
  else if lead = 0xF0 then 0x90 ≤ second && second ≤ 0xBF
  else if lead = 0xF4 then 0x80 ≤ second && second ≤ 0x8F
  else isContinuation second

def twoBytes (a b : UInt8) : Char := Char.ofNat ((a.toNat - 0xC0) * 64 + (b.toNat - 0x80))

def threeBytes (a b c : UInt8) : Char :=
  Char.ofNat (((a.toNat - 0xE0) * 64 + (b.toNat - 0x80)) * 64 + (c.toNat - 0x80))

def fourBytes (a b c d : UInt8) : Char :=
  Char.ofNat ((((a.toNat - 0xF0) * 64 + (b.toNat - 0x80)) * 64 + (c.toNat - 0x80)) * 64 +
    (d.toNat - 0x80))

def decodeUtf8From : Nat → Bytes → Except Utf8Error Text
  | _, [] => .ok []
  | index, a :: rest =>
      if a < 0x80 then (decodeUtf8From (index + 1) rest).map (Char.ofNat a.toNat :: ·)
      else match followers? a, rest with
        | none, _ => .error (.invalid index 1)
        | some _, [] => .error (.incomplete index)
        | some count, b :: rest =>
            if !isSecond a b then .error (.invalid index 1)
            else if count = 1 then (decodeUtf8From (index + 2) rest).map (twoBytes a b :: ·)
            else match rest with
              | [] => .error (.incomplete index)
              | c :: rest =>
                  if !isContinuation c then .error (.invalid index 2)
                  else if count = 2 then
                    (decodeUtf8From (index + 3) rest).map (threeBytes a b c :: ·)
                  else match rest with
                    | [] => .error (.incomplete index)
                    | d :: rest =>
                        if !isContinuation d then .error (.invalid index 3)
                        else (decodeUtf8From (index + 4) rest).map (fourBytes a b c d :: ·)

def decodeUtf8 (bytes : Bytes) : Except Utf8Error Text := decodeUtf8From 0 bytes

end Compliance
