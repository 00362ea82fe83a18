import RuleFit.Binary64.Basic
import RuleFit.Text.Utf8

/-!
# Texts read piece by piece

A long text is not decoded at once. Its bytes come in pieces, and a fault in the encoding counts its
place from the beginning of the piece it is in, or from the sequence that the piece before left cut
off. A reader who asks for so many characters gets them, and fewer only at the end of the text; for
that as many pieces are decoded as it takes.

The size of a piece follows from what is still asked for, and from how many bytes a character took
in the last piece.
-/

namespace RuleFit.Text

/-- A text on its way: the bytes still to come, the bytes of a sequence cut off, whether the last
character was a carriage return that a line feed may belong to, the characters decoded and not yet
asked for, and the number of bytes and characters of the last piece. -/
structure Stream where
  bytes : List UInt8
  cutOff : List UInt8 := []
  carriage : Bool := false
  ready : List Char := []
  lastBytes : Nat := 0
  lastChars : Nat := 0

namespace Stream

/-- The number of bytes in the next piece, when so many characters are wanted. -/
def pieceSize (s : Stream) (wanted : Nat) : Nat :=
  let enough :=
    if s.lastChars < s.lastBytes ∧ s.lastChars ≠ 0 then
      let ratio := Binary64.ofRatio false s.lastBytes s.lastChars
      (((ratio.mul (Binary64.ofInt wanted)).truncate?).getD 0).toNat
    else wanted
  max 8192 enough

/-- Decodes the next piece. Behind the last one it gives none. -/
def fill (s : Stream) (wanted : Nat) : Except Utf8Fault (Option Stream) := do
  let size := s.pieceSize wanted
  let piece := s.bytes.take size
  let atEnd := piece.isEmpty
  let bs := s.cutOff ++ piece
  let (decoded, cutOff) ← if atEnd then (decodeAll bs).map (·, []) else decodePart bs
  let flushed := atEnd || !decoded.isEmpty
  let cs := if s.carriage && flushed then '\r' :: decoded else decoded
  let held := !atEnd && cs.getLast? == some '\r'
  let ready := unifyNewlines (if held then cs.dropLast else cs)
  if atEnd && ready.isEmpty then return none
  else
    return some {
      bytes := s.bytes.drop size, cutOff, carriage := held || (s.carriage && !flushed), ready
      lastBytes := piece.length, lastChars := ready.length }

/-- Reads on with `done` characters at hand; `fuel` bounds the number of pieces. -/
def readFrom (fuel wanted : Nat) (done : List Char) (s : Stream) :
    Except Utf8Fault (List Char × Stream) :=
  let got := s.ready.take wanted
  let s := { s with ready := s.ready.drop wanted }
  let done := done ++ got
  let missing := wanted - got.length
  match fuel, missing with
  | 0, _ | _, 0 => .ok (done, s)
  | fuel + 1, missing => do
    match ← s.fill missing with
    | none => return (done, s)
    | some next => readFrom fuel missing done next

/-- Reads as many characters as are wanted, or all that are left. -/
def read (s : Stream) (wanted : Nat) : Except Utf8Fault (List Char × Stream) :=
  readFrom (s.bytes.length + 2) wanted [] s

end Stream

end RuleFit.Text
