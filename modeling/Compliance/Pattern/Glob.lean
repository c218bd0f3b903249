import Compliance.Count
import Compliance.Pattern.Draft
import Compliance.Text.Utf8

/-!
# Globs

Globs select paths.  `*` is any run of bytes and `?` any one byte, the slash
included; `**` between slashes stands for any number of directories; `[ab]` is a
class and braces hold a choice.  A glob is turned into a pattern over the bytes of a
path, so a character beyond ASCII counts as several.
-/

namespace Compliance

def byteChar (byte : UInt8) : Char := Char.ofNat byte.toNat

/-- One character per byte. -/
def byteText (text : Text) : Text := (encodeUtf8 text).map byteChar

open Pattern

def anyByte : CharSet := .any

/-- A part of a glob.  Only the parts that a following `**` can join keep their kind. -/
inductive GlobPart where
  | piece (pattern : Pattern) (width depth : Nat)
  | leading
  | below
  | void
  deriving DecidableEq, Repr

namespace GlobPart

def literal (c : Char) : GlobPart :=
  let bytes := byteText [c]
  piece (ofText bytes) bytes.length 0

def any : GlobPart := piece (single anyByte) 1 0

def run : GlobPart := piece (many anyByte) 1 1

def between : GlobPart := piece (alt (lit "/") (lit "/" ++ many anyByte ++ lit "/")) 1 4

def pattern : GlobPart → Pattern
  | piece pattern _ _ => pattern
  | leading => alt (opt (lit "/")) (many anyByte ++ lit "/")
  | below => lit "/" ++ many anyByte
  | void => .empty

def width : GlobPart → Nat
  | piece _ width _ => width
  | leading => 1
  | below => 2
  | void => 0

def depth : GlobPart → Nat
  | piece _ _ depth => depth
  | leading => 4
  | below => 1
  | void => 0

end GlobPart

/-- The bytes of a range: only its inner ends make a range of bytes. -/
def rangeSet (low high : Char) : CharSet :=
  if low = high then .ofText (byteText [low])
  else
    let lows := byteText [low]
    let highs := byteText [high]
    .ofText lows.dropLast ∪ .range (lows.getLastD low) (highs.headD high) ∪ .ofText (highs.drop 1)

def classPart (negated : Bool) (ranges : List (Char × Char)) : GlobPart :=
  let set := ranges.foldr (fun (low, high) set => rangeSet low high ∪ set) CharSet.empty
  let items : List Nat := ranges.map fun (low, high) =>
    if low = high then (byteText [low]).length
    else (byteText [low]).length + (byteText [high]).length - 1
  .piece (single (if negated then .compl set else set)) 1 (if sumOf items ≤ 1 then 1 else 2)

def partsPattern (parts : List GlobPart) : Pattern := inTurn (parts.map (·.pattern))

def partsDepth (parts : List GlobPart) : Nat := (parts.map (·.depth)).foldl max 0

def choicePart (branches : List (List GlobPart)) : GlobPart :=
  let counting := branches.filter fun branch => !branch.all (· = .void)
  let depths := counting.map fun branch =>
    partsDepth branch + if sumOf (branch.map (·.width)) ≤ 1 then 0 else 1
  if counting.isEmpty then .void
  else .piece (oneOf (counting.map partsPattern)) 1
    (depths.foldl max 0 + if counting.length ≤ 1 then 1 else 2)

structure GlobFrame where
  outer : List GlobPart
  branches : List (List GlobPart)
  deriving DecidableEq, Repr

structure GlobState where
  frames : List GlobFrame := []
  parts : List GlobPart := []
  deriving DecidableEq, Repr

namespace GlobState

def push (state : GlobState) (part : GlobPart) : GlobState :=
  { state with parts := part :: state.parts }

def openBrace (state : GlobState) : GlobState := ⟨⟨state.parts, []⟩ :: state.frames, []⟩

def comma (state : GlobState) : GlobState :=
  match state.frames with
  | [] => state.push (.literal ',')
  | frame :: frames =>
      ⟨{ frame with branches := state.parts.reverse :: frame.branches } :: frames, []⟩

def closeBrace? (state : GlobState) : Option GlobState :=
  match state.frames with
  | [] => none
  | frame :: frames =>
      some ⟨frames, choicePart (state.parts.reverse :: frame.branches).reverse :: frame.outer⟩

end GlobState

/-! ## Reading -/

def readGlobClass : Bool → Bool → List (Char × Char) → Text →
    Option (List (Char × Char) × Text)
  | _, _, _, [] => none
  | first, inRange, ranges, c :: rest =>
      if c = ']' && !first then
        some (if inRange then ('-', '-') :: ranges else ranges, rest)
      else if c = '-' && !first && !inRange then readGlobClass false true ranges rest
      else match inRange, ranges with
        | true, (low, _) :: others =>
            if c < low then none else readGlobClass false false ((low, c) :: others) rest
        | _, _ => readGlobClass false false ((c, c) :: ranges) rest

/-- Two stars: what they stand for hangs on the characters around them.  Gives the new state and
whether the slash that follows belongs to them. -/
def doubleStar (state : GlobState) (previous : Option Char) (following : Option Char) :
    GlobState × Bool :=
  let plain := ((state.push .run).push .run, false)
  let nested := !state.frames.isEmpty
  match state.parts with
  | [] =>
      if following.isNone || following = some '/' then
        (state.push .leading, following = some '/')
      else plain
  | last :: others =>
      let afterSlash := previous = some '/'
      let startsBranch := nested && (previous = some ',' || previous = some '\x7b')
      if !afterSlash && !startsBranch then plain
      else
        let ends := following.isNone ||
          (nested && (following = some ',' || following = some '\x7d'))
        if !ends && following ≠ some '/' then plain
        else
          let part := match last with
            | .leading => .leading
            | .below => .below
            | _ => if ends then .below else .between
          ({ state with parts := part :: others }, !ends)

def readGlob : Nat → Option Char → GlobState → Text → Option GlobState
  | 0, _, state, _ => some state
  | _ + 1, _, state, [] => some state
  | fuel + 1, previous, state, c :: rest =>
      match c with
      | '?' => readGlob fuel (some c) (state.push .any) rest
      | '*' =>
          match rest with
          | '*' :: rest =>
              let (next, takesSlash) := doubleStar state previous rest.head?
              if takesSlash then readGlob fuel (some '/') next (rest.drop 1)
              else readGlob fuel (some '*') next rest
          | _ => readGlob fuel (some c) (state.push .run) rest
      | '[' =>
          let negated := rest.head? = some '!' || rest.head? = some '^'
          match readGlobClass true false [] (if negated then rest.drop 1 else rest) with
          | none => none
          | some (ranges, rest) =>
              readGlob fuel (some ']') (state.push (classPart negated ranges.reverse)) rest
      | '\x7b' => readGlob fuel (some c) state.openBrace rest
      | '\x7d' =>
          match state.closeBrace? with
          | none => none
          | some next => readGlob fuel (some c) next rest
      | ',' => readGlob fuel (some c) state.comma rest
      | '\\' =>
          match rest with
          | [] => none
          | escaped :: rest => readGlob fuel (some escaped) (state.push (.literal escaped)) rest
      | _ => readGlob fuel (some c) (state.push (.literal c)) rest

structure Glob where
  pattern : Pattern
  depth : Nat
  deriving DecidableEq, Repr

namespace Glob

/-- A glob that is only two stars fits every path. -/
def ofParts : List GlobPart → Glob
  | [.leading] => ⟨many anyByte, 2⟩
  | parts => ⟨textStart ++ partsPattern parts ++ textEnd, partsDepth parts + 1⟩

def read? (text : String) : Option Glob :=
  (readGlob text.length none {} text.toList).bind fun state =>
    if state.frames.isEmpty then some (ofParts state.parts.reverse) else none

def fits (glob : Glob) (path : String) : Bool := glob.pattern.occurs (byteText path.toList)

end Glob

end Compliance
