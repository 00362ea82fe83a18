import RuleFit.Yaml.Cursor

/-!
# Anchors, tags and directives

A node can have an anchor, by which aliases name it, and a tag, which says what it is. A tag is
written in full, or as a handle and what comes behind it; directives at the top of a document say
what handles stand for, and which version of YAML the document is in.
-/

namespace RuleFit.Yaml

/-! ## Anchors -/

/-- Reads the name of an anchor or an alias, from its sign on. -/
def anchorName (cur : Cursor) : Except Fault (String × Cursor) := do
  let (name, next) := cur.next.span isNameChar
  if name.isEmpty then next.refuse .unexpected
  else if endsToken next.rest || (next.rest.head?.any "?:,]\x7d%@\x60".toList.contains) then
    return (String.ofList name, next)
  else next.refuse .unexpected

/-! ## Tags -/

/-- The characters of a tag behind its handle. -/
def isTagChar (c : Char) : Bool :=
  c.isAlphanum || "-;/?:@&=+$,_.!~*'()[]".toList.contains c

/-- Reads the bytes that percent signs and digits stand for. -/
def percentBytes (fuel : Nat) (done : List UInt8) (cur : Cursor) :
    Except Fault (List UInt8 × Cursor) :=
  match fuel, cur.rest with
  | fuel + 1, '%' :: _ =>
    let ds := (cur.next.rest.take 2).takeWhile isHex
    if ds.length = 2 then
      percentBytes fuel (done ++ [(hexNumber ds).toUInt8]) (cur.forward 3)
    else (cur.forward (1 + ds.length)).refuse .badTag
  | _, _ => .ok (done, cur)

/-- Reads on in a tag behind its handle; bytes must make up characters. -/
def tagTextFrom (fuel : Nat) (done : List Char) (cur : Cursor) :
    Except Fault (List Char × Cursor) :=
  match fuel with
  | 0 => .ok (done, cur)
  | fuel + 1 =>
    let (run, next) := cur.span isTagChar
    let done := done ++ run
    match next.rest with
    | '%' :: _ =>
      match percentBytes (next.rest.length + 1) [] next with
      | .error f => .error f
      | .ok (bytes, next) =>
        match Text.decodeAll bytes with
        | .error _ => next.refuse .badTag
        | .ok cs => tagTextFrom fuel (done ++ cs) next
    | _ => .ok (done, next)

/-- Reads a tag behind its handle. There has to be something. -/
def tagText (cur : Cursor) : Except Fault (String × Cursor) := do
  let (text, next) ← tagTextFrom (cur.rest.length + 1) [] cur
  if next.index = cur.index then next.refuse .badTag
  else return (String.ofList text, next)

/-- Reads a handle: an exclamation mark, or a name between two. -/
def tagHandle (cur : Cursor) : Except Fault (String × Cursor) :=
  match cur.rest with
  | '!' :: ' ' :: _ => .ok ("!", cur.next)
  | '!' :: _ =>
    let (name, next) := cur.next.span isNameChar
    match next.rest with
    | '!' :: _ => .ok (String.ofList ('!' :: name ++ ['!']), next.next)
    | _ => next.refuse .badTag
  | _ => cur.refuse .badTag

/-- Whether a tag, from behind its first character on, has a handle of more than one. -/
def namesHandle (cs : List Char) : Bool :=
  (cs.takeWhile fun c => !isGap c).contains '!'

/-- Reads a tag: its handle, if it is not written in full, and the rest. For the handle its word is
looked through first. -/
def tagParts (cur : Cursor) : Except Fault ((Option String × String) × Cursor) := do
  let word := cur.next.rest.takeWhile fun c => !isGap c && c != '!'
  let short := word.head?.any fun c => c == '<' || c == '\t'
  let cur := cur.ask (if short then 2 else word.length + 2)
  let (parts, next) ←
    match cur.next.rest with
    | '<' :: _ => do
      let (name, next) ← tagText (cur.forward 2)
      if next.rest.head? == some '>' then pure ((none, name), next.next)
      else next.refuse .badTag
    | rest =>
      if endsToken rest then pure ((none, "!"), cur.next)
      else do
        let (handle, next) ← if namesHandle rest then tagHandle cur else pure ("!", cur.next)
        let (name, next) ← tagText next
        pure ((some handle, name), next)
  if endsWord next.rest then return (parts, next) else next.refuse .badTag

/-! ## Directives -/

/-- What a directive says: the version of YAML, by its first number, or what a handle of tags stands
for. Others say nothing. -/
inductive Directive where
  | version (major : Int)
  | handle (name meaning : String)
  | other
  deriving DecidableEq

/-- Reads a number of a version. -/
def versionNumber (cur : Cursor) : Except Fault (Int × Cursor) := do
  let (ds, next) := cur.span Char.isDigit
  if ds.isEmpty then next.refuse .badDirective
  else
    let next ← next.checked
    let n ← (Text.readWhole 10 (.ofChars ds)).mapError fun f => .scalar (.whole f)
    return (n, next)

/-- Reads a version. -/
def versionDirective (cur : Cursor) : Except Fault (Directive × Cursor) := do
  let (major, next) ← versionNumber (cur.skipWhile (· == ' '))
  if next.rest.head? != some '.' then next.refuse .badDirective
  else
    let (_, next) ← versionNumber next.next
    if endsWord next.rest then return (.version major, next) else next.refuse .badDirective

/-- Reads a handle and what it stands for. -/
def handleDirective (cur : Cursor) : Except Fault (Directive × Cursor) := do
  let (handle, next) ← tagHandle (cur.skipWhile (· == ' '))
  if next.rest.head? != some ' ' then next.refuse .badDirective
  else
    let (meaning, next) ← tagText (next.skipWhile (· == ' '))
    if endsWord next.rest then return (.handle handle meaning, next)
    else next.refuse .badDirective

/-- Reads a directive, from its sign on, with the rest of its line. -/
def directive (cur : Cursor) : Except Fault (Directive × Cursor) := do
  let (name, next) := cur.next.span isNameChar
  if name.isEmpty then next.refuse .badDirective
  else if !endsWord next.rest then next.refuse .badDirective
  else
    let (d, next) ←
      match String.ofList name with
      | "YAML" => versionDirective next
      | "TAG" => handleDirective next
      | _ => pure (.other, next.skipWhile fun c => !isBreak c)
    return (d, ← next.endLine .badDirective)

end RuleFit.Yaml
