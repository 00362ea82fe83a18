import RuleFit.Text.Quoted

/-!
# UTF-8

Bytes are read from the front. A fault names the bytes it covers: the longest part of a broken
sequence that could still have become a character, and at least its first byte. Past the last byte a
sequence that was fine so far is a fault of its own kind.
-/

namespace RuleFit.Text

/-- What is wrong with a byte sequence. -/
inductive Utf8Cause where
  | badStart
  | badContinuation
  | truncated
  deriving DecidableEq

/-- A fault in the encoding: its cause, where it starts, and the bytes it covers. -/
structure Utf8Fault where
  cause : Utf8Cause
  position : Nat
  bytes : List UInt8
  deriving DecidableEq

def Utf8Cause.message : Utf8Cause → String
  | .badStart => "invalid start byte"
  | .badContinuation => "invalid continuation byte"
  | .truncated => "unexpected end of data"

/-- One byte is named by its value, several by their positions. -/
def Utf8Fault.message (f : Utf8Fault) : String :=
  let place := match f.bytes with
    | [b] => "byte 0x" ++ hex 2 b.toNat ++ " in position " ++ toString f.position
    | bs => "bytes in position " ++ toString f.position ++ "-"
        ++ toString (f.position + bs.length - 1)
  "'utf-8' codec can't decode " ++ place ++ ": " ++ f.cause.message

/-! ## Sequences -/

/-- For a byte that starts a longer sequence, the bits it contributes and, for each byte after it,
the range that byte has to lie in. The range of the second byte rules out overlong forms,
surrogates and code points past the last. -/
def Utf8Lead? (b : Nat) : Option (Nat × List (Nat × Nat)) :=
  let more := (0x80, 0xbf)
  if 0xc2 ≤ b ∧ b ≤ 0xdf then some (b % 0x20, [more])
  else if b = 0xe0 then some (0, [(0xa0, 0xbf), more])
  else if b = 0xed then some (0xd, [(0x80, 0x9f), more])
  else if 0xe1 ≤ b ∧ b ≤ 0xef then some (b % 0x10, [more, more])
  else if b = 0xf0 then some (0, [(0x90, 0xbf), more, more])
  else if b = 0xf4 then some (4, [(0x80, 0x8f), more, more])
  else if 0xf1 ≤ b ∧ b ≤ 0xf3 then some (b % 8, [more, more, more])
  else none

/-- Reads the bytes after a start byte: the code point and what follows, or the cause of the fault
and the bytes that were fine. -/
def continueSequence (acc : Nat) (taken : List UInt8) :
    List (Nat × Nat) → List UInt8 → Except (Utf8Cause × List UInt8) (Nat × List UInt8)
  | [], rest => .ok (acc, rest)
  | _ :: _, [] => .error (.truncated, taken)
  | (low, high) :: ranges, b :: rest =>
    if low ≤ b.toNat ∧ b.toNat ≤ high then
      continueSequence (acc * 0x40 + b.toNat % 0x40) (taken ++ [b]) ranges rest
    else .error (.badContinuation, taken)

theorem continueSequence_length {acc : Nat} {taken : List UInt8} {ranges : List (Nat × Nat)}
    {bs : List UInt8} {code : Nat} {rest : List UInt8}
    (h : continueSequence acc taken ranges bs = .ok (code, rest)) : rest.length ≤ bs.length := by
  induction ranges generalizing acc taken bs with
  | nil => simp only [continueSequence, Except.ok.injEq, Prod.mk.injEq] at h; simp [h.2]
  | cons r ranges ih =>
    cases bs with
    | nil => simp [continueSequence] at h
    | cons b bs =>
      simp only [continueSequence] at h
      split at h
      · have := ih h; simp; omega
      · simp at h

/-- Whether bytes are the first two of a surrogate, which is never a character. -/
def beginsSurrogate : List UInt8 → Bool
  | [b, c] => b == 0xed && decide (0xa0 ≤ c.toNat ∧ c.toNat ≤ 0xbf)
  | _ => false

/-- Reads bytes that stand from `position` on; `done` holds the characters before, last one first.
A sequence that the last byte cuts off is left over, that of a surrogate too. -/
def decodeFrom (position : Nat) (done : List Char) (bs : List UInt8) :
    Except Utf8Fault (List Char × List UInt8) :=
  match bs with
  | [] => .ok (done.reverse, [])
  | b :: rest =>
    if b < 0x80 then decodeFrom (position + 1) (Char.ofNat b.toNat :: done) rest
    else
      match Utf8Lead? b.toNat with
      | none => .error ⟨.badStart, position, [b]⟩
      | some (bits, ranges) =>
        match h : continueSequence bits [b] ranges rest with
        | .error (.truncated, taken) => .ok (done.reverse, taken)
        | .error (cause, taken) =>
          if beginsSurrogate (b :: rest) then .ok (done.reverse, b :: rest)
          else .error ⟨cause, position, taken⟩
        | .ok (code, after) =>
          decodeFrom (position + 1 + ranges.length) (Char.ofNat code :: done) after
termination_by bs.length
decreasing_by
  · simp
  · have := continueSequence_length h; simp; omega

/-- The characters that some bytes encode, and the bytes of a sequence that goes on behind them. -/
def decodePart (bs : List UInt8) : Except Utf8Fault (List Char × List UInt8) :=
  decodeFrom 0 [] bs

/-- The characters that bytes encode which nothing comes behind. -/
def decodeAll (bs : List UInt8) : Except Utf8Fault (List Char) := do
  let (cs, left) ← decodePart bs
  let position := bs.length - left.length
  if left.isEmpty then return cs
  else if beginsSurrogate left then throw ⟨.badContinuation, position, left.take 1⟩
  else throw ⟨.truncated, position, left⟩

/-! ## Surrogates in a text to encode -/

/-- Surrogates that have no bytes, and where they start. -/
structure EncodeFault where
  position : Nat
  surrogates : List CodePoint
  deriving DecidableEq

/-- One surrogate is named by its number, several by their positions. -/
def EncodeFault.message (f : EncodeFault) : String :=
  let place := match f.surrogates with
    | [p] => " '\\u" ++ hex 4 p.number ++ "' in position " ++ toString f.position
    | ps => "s in position " ++ toString f.position ++ "-"
        ++ toString (f.position + ps.length - 1)
  "'utf-8' codec can't encode character" ++ place ++ ": surrogates not allowed"

/-- The first surrogates that have no bytes, those apart that `passes` lets through. -/
def encodeFaultFrom? (passes : CodePoint → Bool) (position : Nat) :
    List CodePoint → Option EncodeFault
  | [] => none
  | p :: ps =>
    if p.isSurrogate && !passes p then some ⟨position, p :: ps.takeWhile CodePoint.isSurrogate⟩
    else encodeFaultFrom? passes (position + 1) ps

/-- The first surrogates in a text, which have no bytes. -/
def encodeFault? (t : Text) : Option EncodeFault := encodeFaultFrom? (fun _ => false) 0 t.points

/-- A text with escapes for the surrogates in it. -/
def withoutSurrogates (t : Text) : Text :=
  join (t.points.map fun p => if p.isSurrogate then "\\u" ++ hex 4 p.number else single p)

/-! ## Names of files -/

/-- Whether a code point is a surrogate that stands for a byte in the name of a file. -/
def standsForByte (p : CodePoint) : Bool := decide (0xdc80 ≤ p.number ∧ p.number ≤ 0xdcff)

/-- The first surrogates in a path that have no bytes there. -/
def pathFault? (t : Text) : Option EncodeFault := encodeFaultFrom? standsForByte 0 t.points

/-- The bytes of a code point in the name of a file. -/
def nameBytesOf : CodePoint → List UInt8
  | .char c => c.toString.toUTF8.toList
  | .surrogate k => [k.val.toUInt8]

/-- The bytes of the name of a file. -/
def nameBytes (t : Text) : List UInt8 := t.points.flatMap nameBytesOf

/-! ## Line ends -/

/-- Turns every carriage return, alone or before a line feed, into a line feed. -/
def unifyNewlines : List Char → List Char
  | [] => []
  | '\r' :: '\n' :: rest => '\n' :: unifyNewlines rest
  | '\r' :: rest => '\n' :: unifyNewlines rest
  | c :: rest => c :: unifyNewlines rest

/-- The text of a file: decoded, with line feeds as its only line ends. -/
def ofBytes (bs : List UInt8) : Except Utf8Fault Text :=
  (decodeAll bs).map fun cs => ofChars (unifyNewlines cs)

end RuleFit.Text
