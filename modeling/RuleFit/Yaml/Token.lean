import RuleFit.Yaml.Property
import RuleFit.Yaml.Text

/-!
# YAML tokens

A text falls into tokens, among them the beginnings and ends of collections that are set out by
indentation alone. Such an end comes where the indentation goes back. That something is a key shows
only at the colon behind it, so what could be a key is remembered, and the token for a key goes in
front of it afterwards; this is why tokens wait in a queue. A key stands on one line with its colon
and no more than 1024 characters before it.

`Lexer.peek` gives the next token as soon as it is certain, and the text is read no further than
that takes. So where a text breaks off at a fault, what comes before it may still be found wrong
first.
-/

namespace RuleFit.Yaml

/-- A token. -/
inductive Token where
  | textEnd
  | directive (d : Directive)
  | documentStart
  | documentEnd
  | sequenceStart
  | mappingStart
  | blockEnd
  | bracketOpen
  | bracketClose
  | braceOpen
  | braceClose
  | dash
  | comma
  | key
  | value
  | alias (name : String)
  | anchor (name : String)
  | tag (handle : Option String) (name : String)
  | scalar (text : Text) (plain : Bool)
  deriving DecidableEq

/-- Something that a colon would make a key: the depth of brackets it stands at, its place in the
row of all tokens, whether it must be a key, and where it stands. -/
structure PossibleKey where
  depth : Nat
  number : Nat
  required : Bool
  index : Nat
  line : Nat
  column : Nat

/-- A text on its way to tokens: a bound on the steps that reading takes, the tokens that wait, how
many have been taken, the brackets that are open, the columns of the indented collections that are,
the last one apart, and whether a key may come next. -/
structure Lexer where
  cursor : Cursor
  fuel : Nat
  tokens : List Token := []
  taken : Nat := 0
  finished : Bool := false
  depth : Nat := 0
  indent : Int := -1
  outer : List Int := []
  keyAllowed : Bool := true
  keys : List PossibleKey := []

namespace Lexer

/-- Puts a token into the queue and goes on behind it. -/
def emit (l : Lexer) (t : Token) (cursor : Cursor) : Lexer :=
  { l with tokens := l.tokens ++ [t], cursor }

/-! ## Possible keys -/

/-- Gives up the possible keys that are. -/
def giveUp (l : Lexer) (p : PossibleKey → Bool) : Except Fault Lexer :=
  if l.keys.any fun k => p k && k.required then l.cursor.refuse .colonMissing
  else .ok { l with keys := l.keys.filter fun k => !p k }

/-- Gives up the possible keys that lie on an earlier line or too far back. -/
def dropStale (l : Lexer) : Except Fault Lexer :=
  l.giveUp fun k => k.line != l.cursor.line || decide (k.index + 1024 < l.cursor.index)

/-- Gives up the possible key at this depth. -/
def dropKey (l : Lexer) : Except Fault Lexer :=
  l.giveUp fun k => k.depth == l.depth

/-- Remembers that a key may start here. It must be one where it starts a line of an indented
mapping. -/
def saveKey (l : Lexer) : Except Fault Lexer :=
  if l.keyAllowed then do
    let l ← l.dropKey
    let key : PossibleKey := {
      depth := l.depth, number := l.taken + l.tokens.length
      required := l.depth == 0 && l.indent == l.cursor.column
      index := l.cursor.index, line := l.cursor.line, column := l.cursor.column }
    return { l with keys := key :: l.keys }
  else .ok l

/-! ## Indentation -/

/-- Ends the indented collections that are further in than a column. -/
def unwindFrom (column : Int) (tokens : List Token) (indent : Int) : List Int →
    List Token × Int × List Int
  | [] => (tokens, indent, [])
  | out :: outer =>
    if column < indent then unwindFrom column (tokens ++ [.blockEnd]) out outer
    else (tokens, indent, out :: outer)

/-- Ends the indented collections that are further in than a column. Brackets keep them open. -/
def unwind (l : Lexer) (column : Int) : Lexer :=
  if l.depth = 0 then
    let (tokens, indent, outer) := unwindFrom column l.tokens l.indent l.outer
    { l with tokens, indent, outer }
  else l

/-- Puts a token into the queue at a place counted from the first of all tokens. -/
def insert (l : Lexer) (number : Nat) (t : Token) : Lexer :=
  let place := number - l.taken
  { l with tokens := l.tokens.take place ++ t :: l.tokens.drop place }

/-- Begins an indented collection in a column, if that is further in, with a token at a place. -/
def begin (l : Lexer) (column : Nat) (number : Nat) (t : Token) : Lexer :=
  if l.indent < column then
    { l.insert number t with indent := column, outer := l.indent :: l.outer }
  else l

/-- Begins an indented collection here, which only the place for a key can be. -/
def beginHere (l : Lexer) (t : Token) : Except Fault Lexer :=
  if l.depth ≠ 0 then .ok l
  else if l.keyAllowed then .ok (l.begin l.cursor.column (l.taken + l.tokens.length) t)
  else l.cursor.refuse .notAllowedHere

/-! ## Single tokens -/

/-- Ends every indented collection, in front of what ends a document. -/
def leave (l : Lexer) : Except Fault Lexer := do
  let l ← (l.unwind (-1)).dropKey
  return { l with keyAllowed := false }

/-- Reads the end of the text. -/
def readEnd (l : Lexer) : Except Fault Lexer := do
  let l ← l.leave
  return { l.emit .textEnd l.cursor with keys := [], finished := true }

/-- Reads a mark between documents. -/
def readMark (l : Lexer) (t : Token) : Except Fault Lexer := do
  let l ← l.leave
  return l.emit t (l.cursor.forward 3)

/-- Reads a directive. -/
def readDirective (l : Lexer) : Except Fault Lexer := do
  let l ← l.leave
  let (d, next) ← directive l.cursor
  return l.emit (.directive d) next

/-- Reads an opening bracket. -/
def readOpening (l : Lexer) (t : Token) : Except Fault Lexer := do
  let l ← l.saveKey
  return { l.emit t l.cursor.next with depth := l.depth + 1, keyAllowed := true }

/-- Reads a closing bracket. -/
def readClosing (l : Lexer) (t : Token) : Except Fault Lexer := do
  let l ← l.dropKey
  return { l.emit t l.cursor.next with depth := l.depth - 1, keyAllowed := false }

/-- Reads a comma between brackets. -/
def readComma (l : Lexer) : Except Fault Lexer := do
  let l ← l.dropKey
  return { l.emit .comma l.cursor.next with keyAllowed := true }

/-- Reads the dash of an item. -/
def readDash (l : Lexer) : Except Fault Lexer := do
  let l ← (← l.beginHere .sequenceStart).dropKey
  return { l.emit .dash l.cursor.next with keyAllowed := true }

/-- Reads the question mark of a key. -/
def readKey (l : Lexer) : Except Fault Lexer := do
  let l ← (← l.beginHere .mappingStart).dropKey
  return { l.emit .key l.cursor.next with keyAllowed := l.depth == 0 }

/-- Reads the colon of a value. The possible key at this depth, if there is one, becomes a key. -/
def readColon (l : Lexer) : Except Fault Lexer := do
  match l.keys.find? fun k => k.depth == l.depth with
  | some k =>
    let l := { l with keys := l.keys.filter fun k => k.depth != l.depth }
    let l := l.insert k.number .key
    let l := if l.depth = 0 then l.begin k.column k.number .mappingStart else l
    return { l.emit .value l.cursor.next with keyAllowed := false }
  | none =>
    let l ← l.beginHere .mappingStart
    return { l.emit .value l.cursor.next with keyAllowed := l.depth == 0 }

/-- Reads something that may be a key or stand in front of one. -/
def readKeyPart (l : Lexer) (read : Cursor → Except Fault (Token × Cursor)) :
    Except Fault Lexer := do
  let l ← l.saveKey
  let (t, next) ← read l.cursor
  return { l.emit t next with keyAllowed := false }

/-- Reads a quoted scalar. -/
def readQuoted (l : Lexer) (quote : Char) : Except Fault Lexer :=
  l.readKeyPart fun cur => (quotedScalar quote l.fuel cur).map fun r => (.scalar r.1 false, r.2)

/-- Reads a scalar set out by lines. -/
def readBlock (l : Lexer) (fold : Bool) : Except Fault Lexer := do
  let l ← l.dropKey
  let (text, next) ← blockScalar fold l.indent l.fuel l.cursor
  return { l.emit (.scalar text false) next with keyAllowed := true }

/-- Reads a plain scalar. -/
def readPlain (l : Lexer) : Except Fault Lexer := do
  let l ← l.saveKey
  let s := plainScalar (l.depth ≠ 0) (l.indent + 1) l.fuel l.cursor
  return { l.emit (.scalar (.ofChars s.text) true) s.cursor with keyAllowed := s.broke }

/-! ## The next token -/

/-- Reads what starts with a character that comes before `rest`. -/
def readFrom (l : Lexer) (c : Char) (rest : List Char) : Except Fault Lexer :=
  let flow := l.depth ≠ 0
  if c == '%' && l.cursor.column == 0 then l.readDirective
  else if l.cursor.atMark '-' then l.readMark .documentStart
  else if l.cursor.atMark '.' then l.readMark .documentEnd
  else if c == '-' && endsToken rest then l.readDash
  else if c == '?' && (flow || endsToken rest) then l.readKey
  else if c == ':' && (flow || endsToken rest) then l.readColon
  else
    match c with
    | '[' => l.readOpening .bracketOpen
    | '\x7b' => l.readOpening .braceOpen
    | ']' => l.readClosing .bracketClose
    | '\x7d' => l.readClosing .braceClose
    | ',' => l.readComma
    | '*' => l.readKeyPart fun cur => (anchorName cur).map fun r => (.alias r.1, r.2)
    | '&' => l.readKeyPart fun cur => (anchorName cur).map fun r => (.anchor r.1, r.2)
    | '!' => l.readKeyPart fun cur => (tagParts cur).map fun r => (.tag r.1.1 r.1.2, r.2)
    | '"' | '\'' => l.readQuoted c
    | c =>
      if !flow && (c == '|' || c == '>') then l.readBlock (c == '>')
      else if startsPlain flow (c :: rest) then l.readPlain
      else l.cursor.refuse .unexpected

/-- Looks as far as it takes to tell what starts with a character: a mark between documents, a sign
by the space behind it, or nothing at all. -/
def askStart (l : Lexer) (c : Char) : Cursor :=
  let lineStart := l.cursor.column == 0
  let flow := l.depth ≠ 0
  let cur := if lineStart && (c == '-' || c == '.') then l.cursor.askMark else l.cursor
  let isSign := c == '-' || (!flow && (c == '?' || c == ':'))
  let isNothing := c == '\t' || c == '@' || c == '\x60' || (c == '%' && !lineStart)
    || (flow && (c == '|' || c == '>'))
  if isSign || isNothing then cur.ask 2 else cur

/-- Reads on, by one token and those that come with it. -/
def advance (l : Lexer) : Except Fault Lexer := do
  let (cursor, broke) := l.cursor.skip
  let cursor ← cursor.checked
  let l := { l with cursor, keyAllowed := l.keyAllowed || (broke && l.depth == 0) }
  let l ← l.dropStale
  let l := l.unwind cursor.column
  match cursor.rest with
  | [] => l.readEnd
  | c :: rest =>
    let cursor ← (l.askStart c).checked
    let l ← readFrom { l with cursor } c rest
    return { l with cursor := ← l.cursor.checked }

/-- Reads on until the first token in the queue is certain. -/
def settle (fuel : Nat) (l : Lexer) : Except Fault Lexer :=
  match fuel with
  | 0 => .error (.flaw .tooDeep)
  | fuel + 1 =>
    if l.finished then .ok l
    else if l.tokens.isEmpty then do settle fuel (← l.advance)
    else do
      let l ← l.dropStale
      if l.keys.any fun k => k.number == l.taken then settle fuel (← l.advance) else return l

/-- The beginning of a text. A byte order mark in front does not count. -/
def start (text : List Char) (fault : Option Fault) : Lexer :=
  let rest := if text.head? = some '\uFEFF' then text.tail else text
  { cursor := { rest, fault, strained := rest.isEmpty }, fuel := text.length + 2 }

/-- The next token. Behind the end of the text the end comes again. -/
def peek (l : Lexer) : Except Fault (Token × Lexer) := do
  let l ← l.settle l.fuel
  return (l.tokens.headD .textEnd, l)

/-- Takes the token that was looked at. -/
def take (l : Lexer) : Lexer := { l with tokens := l.tokens.tail, taken := l.taken + 1 }

end Lexer

end RuleFit.Yaml
