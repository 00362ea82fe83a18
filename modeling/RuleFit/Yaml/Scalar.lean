import RuleFit.Datum.Basic
import RuleFit.Text.Base64
import RuleFit.Text.Lower
import RuleFit.Yaml.Moment
import RuleFit.Yaml.Node

/-!
# Scalars of YAML 1.1

A scalar without quotes stands for a truth value, null, a number or a moment when it is spelled like
one, and for its own text otherwise. Whole numbers may be binary, octal, decimal, hexadecimal or in
base sixty with colons; a binary64 number needs a point, and its exponent a sign. Digits may be set
apart by underscores. `Tag.ofPlain` looks at the spelling, and `scalarValue` reads the value; tags
can ask for a reading that the spelling does not allow.
-/

namespace RuleFit.Yaml

/-! ## Words -/

/-- The truth value that a word stands for, in small letters. -/
def truthWord? (s : String) : Option Bool :=
  if ["yes", "true", "on"].contains s then some true
  else if ["no", "false", "off"].contains s then some false
  else none

/-- Whether a plain word stands for a truth value: in small letters, in capitals, or with the first
letter alone one. -/
def isTruthWord (s : String) : Bool :=
  ["yes", "Yes", "YES", "no", "No", "NO", "true", "True", "TRUE", "false", "False", "FALSE",
    "on", "On", "ON", "off", "Off", "OFF"].contains s

/-- Whether a plain word stands for null. -/
def isNullWord (s : String) : Bool := ["~", "null", "Null", "NULL"].contains s

/-! ## Spellings of numbers -/

def isBinary (c : Char) : Bool := c == '0' || c == '1'

def isOctal (c : Char) : Bool := decide ('0' ≤ c ∧ c ≤ '7')

/-- Whether a text is not empty and made of characters of a class and underscores. -/
def spelledIn (p : Char → Bool) (cs : List Char) : Bool :=
  !cs.isEmpty && cs.all fun c => p c || c == '_'

/-- Whether a text starts with a digit and goes on with digits and underscores. -/
def isDigits : List Char → Bool
  | [] => false
  | c :: cs => c.isDigit && cs.all fun c => c.isDigit || c == '_'

/-- Whether a text is a digit of base sixty, written with one or two decimal digits. -/
def isSixtieth : List Char → Bool
  | [a] => a.isDigit
  | [a, b] => decide ('0' ≤ a ∧ a ≤ '5') && b.isDigit
  | _ => false

/-- Whether a text has a sign in front, and what is behind that. -/
def unsigned (cs : List Char) : Bool × List Char :=
  match cs with
  | '-' :: cs | '+' :: cs => (true, cs)
  | cs => (false, cs)

/-- Whether a text is spelled like a whole number. -/
def isWholeText (cs : List Char) : Bool :=
  match (unsigned cs).2 with
  | ['0'] => true
  | '0' :: 'b' :: ds => spelledIn isBinary ds
  | '0' :: 'x' :: ds => spelledIn isHex ds
  | '0' :: ds => spelledIn isOctal ds
  | body =>
    match Text.splitAll (· == ':') body with
    | [] => false
    | ds :: parts => isDigits ds && parts.all isSixtieth

/-- Whether a text is an exponent with a sign, or nothing. -/
def isExponent : List Char → Bool
  | [] => true
  | e :: sign :: ds =>
    (e == 'e' || e == 'E') && (sign == '-' || sign == '+') && !ds.isEmpty && ds.all Char.isDigit
  | [_] => false

/-- Whether a text is spelled like a binary64 number. Without digits before the point there is no
sign, and with colons no exponent. -/
def isNumberText (cs : List Char) : Bool :=
  let (signed, body) := unsigned cs
  let (whole, rest) := (body.takeWhile (· ≠ '.'), (body.dropWhile (· ≠ '.')).drop 1)
  let fraction := rest.takeWhile fun c => c.isDigit || c == '_'
  let tail := rest.drop fraction.length
  if body.contains '.' then
    if whole.isEmpty then
      [".inf", ".Inf", ".INF"].contains (String.ofList body)
        || (!signed && [".nan", ".NaN", ".NAN"].contains (String.ofList body))
        || (!signed && isDigits fraction && isExponent tail)
    else
      match Text.splitAll (· == ':') whole with
      | [ds] => isDigits ds && isExponent tail
      | ds :: parts => isDigits ds && parts.all isSixtieth && tail.isEmpty
      | [] => false
  else false

/-- The tag of a plain scalar. A line break behind a spelling does not count, but one alone is no
empty scalar. -/
def Tag.ofPlain (t : Text) : Tag :=
  let cs := withoutBreak t.chars
  let word := String.ofList cs
  if t.isEmpty || isNullWord word then .null
  else if isTruthWord word then .truth
  else if isNumberText cs then .number
  else if isWholeText cs then .whole
  else if isMomentText cs then .moment
  else
    match word with
    | "<<" => .merge
    | "=" => .value
    | "!" | "&" | "*" => .unknown
    | _ => .text

/-! ## Values -/

/-- Takes a sign off a number whose underscores do not count. There must be something. -/
def signedBody (t : Text) : Except ScalarFault (Bool × List CodePoint) :=
  match t.points.filter (· ≠ .char '_') with
  | [] => .error .noDigits
  | ps => .ok (Text.splitSign ps)

/-- The parts between colons. -/
def sixtyParts (ps : List CodePoint) : List (List CodePoint) := Text.splitAll (· == .char ':') ps

/-- Reads a whole number in a base. -/
def wholeIn (base : Nat) (ps : List CodePoint) : Except ScalarFault Int :=
  (Text.readWhole base ⟨ps⟩).mapError .whole

/-- Reads a whole number without its sign. -/
def wholeBody (ps : List CodePoint) : Except ScalarFault Int :=
  match ps with
  | [] => .error .noDigits
  | [.char '0'] => .ok 0
  | .char '0' :: .char 'b' :: ds => wholeIn 2 ds
  | .char '0' :: .char 'x' :: ds => wholeIn 16 ds
  | .char '0' :: _ => wholeIn 8 ps
  | ps =>
    match sixtyParts ps with
    | [_] => wholeIn 10 ps
    | parts => do
      let parts ← parts.mapM (wholeIn 10)
      return parts.foldl (fun n part => 60 * n + part) 0

/-- Reads a whole number. -/
def wholeValue (t : Text) : Except ScalarFault Int := do
  let (negative, body) ← signedBody t
  let n ← wholeBody body
  return if negative then -n else n

/-- A decimal digit of any script as one of ASCII. -/
def plainDigit (p : CodePoint) : CodePoint :=
  match Text.digit? p with
  | some d => .char (Char.ofNat ('0'.toNat + d))
  | none => p

/-- Reads a binary64 number that may have blanks around it and a sign of its own. A not-a-number
gets a payload. -/
def numberPart (payload : Nat) (ps : List CodePoint) : Except ScalarFault Binary64 :=
  let body := (ps.dropWhile Text.isBlank).reverse.dropWhile Text.isBlank |>.reverse
  let (negative, digits) := Text.splitSign (body.map plainDigit)
  let read? :=
    match (Text.mk digits).string? with
    | none => none
    | some "inf" | some "infinity" => some (.infinite negative)
    | some "nan" => some (.nan payload)
    | some s => Binary64.readUnsigned? negative s.toList
  match read? with
  | some x => .ok x
  | none => .error (.number ⟨ps⟩)

/-- Adds parts up in base sixty, the last one first, rounding at every step; `base` is what a unit
of the next part is worth. -/
def sixtyFold (base : Nat) (total : Binary64) : List Binary64 → Except ScalarFault Binary64
  | [] => .ok total
  | x :: xs =>
    match Binary64.ofInt base with
    | .infinite _ => .error .tooLarge
    | unit => sixtyFold (60 * base) (total.add (x.mul unit)) xs

/-- Reads a binary64 number. There is one not-a-number that is spelled as such; every other one is a
number of its own, which its payload tells. -/
def numberValue (payload : Nat) (t : Text) : Except ScalarFault Binary64 := do
  let (negative, body) ← signedBody t.lower
  match (Text.mk body).string? with
  | some ".nan" => return .nan 0
  | some ".inf" => return .infinite negative
  | _ =>
    let parts ← (sixtyParts body).mapM (numberPart payload)
    let x ← match parts with
      | [x] => pure x
      | parts => sixtyFold 1 (.zero false) parts.reverse
    return (if negative then x.neg else x).withPayload payload

/-- Reads a truth value. -/
def truthValue (t : Text) : Except ScalarFault Bool :=
  match t.lower.string?.bind truthWord? with
  | some b => .ok b
  | none => .error (.truth t.lower)

/-- Reads the bytes that a text in base64 stands for. -/
def bytesValue (t : Text) : Except Fault (List UInt8) :=
  match t.points.all (·.number < 0x80), Text.decodeBase64? t.chars with
  | true, some bytes => .ok bytes
  | _, _ => .error (.flaw .badBytes)

/-- Reads the value of a scalar with a tag. -/
def scalarValue (payload : Nat) (tag : Tag) (t : Text) : Except Fault Datum :=
  match tag with
  | .null => .ok .null
  | .truth => ((truthValue t).map .bool).mapError .scalar
  | .whole => ((wholeValue t).map .int).mapError .scalar
  | .number => ((numberValue payload t).map .float).mapError .scalar
  | .moment => ((momentValue t).map .moment).mapError .scalar
  | .bytes => (bytesValue t).map .bytes
  | .text => .ok (.text t)
  | .merge | .value | .unknown => .error (.flaw .unknownTag)
  | .sequence | .mapping | .set | .orderedMap | .pairs => .error (.flaw .wrongShape)

end RuleFit.Yaml
