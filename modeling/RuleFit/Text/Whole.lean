import RuleFit.Text.Digits
import RuleFit.Text.Quoted

/-!
# Whole numbers in text

A whole number is written in a base up to sixteen, with blanks around it, a sign, a mark of the base
and single underscores between its digits, all of which may be left out. The digits can be those of
any script. Where the digits do not have to be multiplied out, in a base that is a power of two,
there may be any number of them; otherwise there is a limit.
-/

namespace RuleFit

/-- The greatest number of digits that a whole number may have in text. -/
def digitLimit : Nat := 4300

namespace Text

/-- Why a text is no whole number. -/
inductive WholeFault where
  | notWhole (base : Nat) (text : Text)
  | tooLong (digits : Nat)
  deriving DecidableEq

/-- Of the text that is no number the message quotes no more than two hundred characters. -/
def WholeFault.message : WholeFault → Text
  | .notWhole base text =>
    "invalid literal for int() with base " ++ toString base ++ ": " ++ (quoted text).take 200
  | .tooLong n =>
    "Exceeds the limit (" ++ toString digitLimit ++ " digits) for integer string conversion: "
      ++ "value has " ++ toString n ++ " digits; use sys.set_int_max_str_digits() to increase the "
      ++ "limit"

/-- What a letter is worth as a digit. -/
def letterDigit? (c : Char) : Option Nat :=
  if 'a' ≤ c ∧ c ≤ 'z' then some (c.toNat - 'a'.toNat + 10)
  else if 'A' ≤ c ∧ c ≤ 'Z' then some (c.toNat - 'A'.toNat + 10)
  else none

/-- What a digit of a base is worth. -/
def digitIn? (base : Nat) (p : CodePoint) : Option Nat :=
  ((p.char?.bind letterDigit?).or (digit? p)).filter (· < base)

/-- Splits a sign off. -/
def splitSign : List CodePoint → Bool × List CodePoint
  | .char '-' :: ps => (true, ps)
  | .char '+' :: ps => (false, ps)
  | ps => (false, ps)

/-- The letters that mark a base. -/
def baseMarks : Nat → List CodePoint
  | 2 => ['b', 'B']
  | 8 => ['o', 'O']
  | 16 => ['x', 'X']
  | _ => []

/-- The text behind the mark of a base, which an underscore may set apart. -/
def afterMark (base : Nat) : List CodePoint → List CodePoint
  | .char '0' :: mark :: ps =>
    if (baseMarks base).contains mark then
      if ps.head? = some (.char '_') then ps.tail else ps
    else .char '0' :: mark :: ps
  | ps => ps

/-- Whether underscores stand only between two other code points; `before` says whether one of those
has just passed. -/
def underscoresBetween (before : Bool) : List CodePoint → Bool
  | [] => before
  | p :: ps =>
    if p = .char '_' then before && underscoresBetween false ps else underscoresBetween true ps

/-- The number that digits stand for in a base. -/
def digitsIn (base : Nat) (ps : List CodePoint) : Nat :=
  (ps.filterMap (digitIn? base)).foldl (fun n d => base * n + d) 0

/-- Reads a whole number. The digits are counted before the text behind them is looked at. -/
def readWhole (base : Nat) (t : Text) : Except WholeFault Int :=
  let (negative, body) := splitSign (t.points.dropWhile isBlank)
  let body := afterMark base body
  let run := body.takeWhile fun p => p = .char '_' || (digitIn? base p).isSome
  let count := (run.filter (· ≠ .char '_')).length
  if count = 0 || !underscoresBetween false run then .error (.notWhole base t)
  else if base = 10 ∧ digitLimit < count then .error (.tooLong count)
  else if (body.drop run.length).all isBlank then
    .ok (if negative then -digitsIn base run else digitsIn base run)
  else .error (.notWhole base t)

end Text

end RuleFit
