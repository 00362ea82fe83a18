import RuleFit.Datum.Literal

/-!
# JSON text

Values are printed as JSON in the visible characters of ASCII: every other character is escaped, by
its UTF-16 units where it has no short form. Lists and fixed sequences become arrays. A key that is
not a text is printed by its JSON text, in quotes. Bytes, moments and sets have no JSON form, and a
collection has none as a key; nor has a whole number with too many digits, or a collection inside of
itself. The first of these that comes counts.
-/

namespace RuleFit.Datum

/-- What has no JSON form: a mapping key by its kind as it is named, a value by its kind, a whole
number, or a collection that comes again inside of itself. -/
inductive JsonFault where
  | key (kind : String)
  | value (kind : Kind)
  | tooLong
  | circular
  deriving DecidableEq

def JsonFault.message : JsonFault → String
  | .key kind => "keys must be str, int, float, bool or None, not " ++ kind
  | .value kind => "Object of type " ++ kind.shortName ++ " is not JSON serializable"
  | .tooLong => NumberTooLong.message ⟨⟩
  | .circular => "Circular reference detected"

/-- Numbers in JSON text; the three that JSON lacks are spelled out. -/
def jsonNumberLayout : Binary64.Layout :=
  { numberLayout with nan := "NaN", infinity := "Infinity" }

/-- The escape of one UTF-16 unit. -/
def jsonUnit (n : Nat) : String := "\\u" ++ Text.hex 4 n

/-- A code point by its UTF-16 units. -/
def jsonUnits (n : Nat) : String :=
  if n < 0x10000 then jsonUnit n
  else jsonUnit (0xd800 + (n - 0x10000) / 0x400) ++ jsonUnit (0xdc00 + (n - 0x10000) % 0x400)

/-- A code point inside a JSON text. -/
def jsonPoint (p : CodePoint) : String :=
  match p with
  | .surrogate _ => jsonUnits p.number
  | .char c =>
    if c = '"' then "\\\""
    else if c = '\\' then "\\\\"
    else if c = '\n' then "\\n"
    else if c = '\r' then "\\r"
    else if c = '\t' then "\\t"
    else if c = '\x08' then "\\b"
    else if c = '\x0c' then "\\f"
    else if 0x20 ≤ p.number ∧ p.number < 0x7f then c.toString
    else jsonUnits p.number

/-- A text in JSON quotes. -/
def jsonText (t : Text) : String := "\"" ++ String.join (t.points.map jsonPoint) ++ "\""

/-- The digits of a whole number. -/
def jsonInt (n : Int) : Except JsonFault String := (writeInt n).mapError fun _ => .tooLong

/-- Where line breaks go: nowhere, or after every item, `width` blanks deep per level. -/
inductive Spacing where
  | oneLine
  | indented (width : Nat)

/-- The JSON text of a key. On one line the name of a kind says where the kind belongs. -/
def jsonKey (s : Spacing) : Datum → Except JsonFault String
  | .text t => .ok (jsonText t)
  | .null => .ok "\"null\""
  | .bool b => .ok (if b then "\"true\"" else "\"false\"")
  | .int n => do return "\"" ++ (← jsonInt n) ++ "\""
  | .float x => .ok ("\"" ++ x.render jsonNumberLayout ++ "\"")
  | d =>
    match s with
    | .oneLine => .error (.key d.kind.name)
    | .indented _ => .error (.key d.kind.shortName)

/-- Puts items between brackets at the given depth. -/
def Spacing.enclose (s : Spacing) (depth : Nat) (opening closing : String)
    (items : List String) : String :=
  if items.isEmpty then opening ++ closing
  else
    match s with
    | .oneLine => opening ++ String.intercalate ", " items ++ closing
    | .indented width =>
      let newline (d : Nat) := "\n" ++ String.ofList (List.replicate (width * d) ' ')
      opening ++ newline (depth + 1)
        ++ String.intercalate ("," ++ newline (depth + 1)) items
        ++ newline depth ++ closing

mutual

/-- The JSON text of an unrolled value that stands `depth` levels deep. -/
def jsonAt (s : Spacing) (depth : Nat) : Datum → Except JsonFault String
  | .null => .ok "null"
  | .bool b => .ok (if b then "true" else "false")
  | .int n => jsonInt n
  | .float x => .ok (x.render jsonNumberLayout)
  | .text t => .ok (jsonText t)
  | .list items => do return s.enclose depth "[" "]" (← jsonItems s (depth + 1) items)
  | .tuple items => do return s.enclose depth "[" "]" (← jsonItems s (depth + 1) items)
  | .map entries => do
    return s.enclose depth "\x7b" "\x7d" (← jsonEntries s (depth + 1) entries)
  | .knot .. => .error .circular
  | d => .error (.value d.kind)
termination_by structural d => d

/-- The JSON texts of a list of values. -/
def jsonItems (s : Spacing) (depth : Nat) : List Datum → Except JsonFault (List String)
  | [] => .ok []
  | x :: xs => do
    let head ← jsonAt s depth x
    return head :: (← jsonItems s depth xs)
termination_by structural xs => xs

/-- The JSON texts of the entries of a mapping. -/
def jsonEntries (s : Spacing) (depth : Nat) : List (Datum × Datum) → Except JsonFault (List String)
  | [] => .ok []
  | (k, v) :: rest => do
    let key ← jsonKey s k
    let value ← jsonAt s depth v
    return (key ++ ": " ++ value) :: (← jsonEntries s depth rest)
termination_by structural es => es

end

/-- The JSON text of a value. -/
def toJson (s : Spacing) (d : Datum) : Except JsonFault String :=
  jsonAt s 0 d.unrolled

end RuleFit.Datum
