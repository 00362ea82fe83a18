import RuleFit.Yaml.Cursor

/-!
# Scalars in a YAML text

A scalar stands between double quotes, with escapes by the backslash, or between single quotes, with
a quote written twice, or plain. All three may go on over several lines: a single line break is read
as a blank, and of several the first is left out. A plain scalar ends at a comment, at a colon
before a space, and among brackets at the signs that structure them; outside of brackets its further
lines are indented.

The readers go on line by line and take a fuel that bounds the number of steps; the length of the
text is enough of it.
-/

namespace RuleFit.Yaml

/-! ## Line breaks inside of scalars -/

/-- The text that a line break and the breaks of the empty lines behind it amount to. -/
def folded (first : Char) (more : List Char) : List Char :=
  (if first ≠ '\n' then [first] else if more.isEmpty then [' '] else []) ++ more

/-- Skips the spaces at the start of a line and over empty lines, and gives the breaks passed;
`tabs` says whether tabs are spaces. A mark between documents stops it, and is looked for at the
start of every line. -/
def skipLines (tabs : Bool) (fuel : Nat) (breaks : List Char) (cur : Cursor) :
    List Char × Cursor :=
  match fuel with
  | 0 => (breaks, cur)
  | fuel + 1 =>
    let cur := cur.askMark
    if cur.atAnyMark then (breaks, cur)
    else
      let cur := cur.skipWhile fun c => c == ' ' || (tabs && c == '\t')
      match cur.rest with
      | [] => (breaks, cur)
      | c :: _ =>
        if isBreak c then skipLines tabs fuel (breaks ++ [normalBreak c]) cur.next
        else (breaks, cur)

/-! ## Quoted scalars -/

/-- The character that an escape of one letter stands for. -/
def shortEscape? (c : Char) : Option Char :=
  [('0', '\x00'), ('a', '\x07'), ('b', '\x08'), ('t', '\t'), ('\t', '\t'), ('n', '\n'),
    ('v', '\x0b'), ('f', '\x0c'), ('r', '\r'), ('e', '\x1b'), (' ', ' '), ('"', '"'),
    ('\\', '\\'), ('/', '/'), ('N', '\u0085'), ('_', '\u00a0'), ('L', '\u2028'),
    ('P', '\u2029')].lookup c

/-- The number of digits of an escape by code point. -/
def codeDigits? (c : Char) : Option Nat :=
  [('x', 2), ('u', 4), ('U', 8)].lookup c

/-- The code point of a number. -/
def pointOf (code : Nat) : Except Fault CodePoint :=
  if code < 0x110000 then .ok (.ofNat code)
  else .error (.scalar (if code < 0x80000000 then .codePoint else .hugeCodePoint))

/-- Reads the digits of an escape by code point. -/
def codeEscape (digits : Nat) (cur : Cursor) : Except Fault (List CodePoint × Cursor) := do
  let ds := (cur.rest.take digits).takeWhile isHex
  if ds.length = digits then
    return ([← pointOf (hexNumber ds)], cur.forward digits)
  else (cur.ask (ds.length + 1)).refuse .badEscape

/-- Skips the empty lines inside of a quoted scalar, which no mark between documents may stand in.
-/
def skipQuotedLines (fuel : Nat) (cur : Cursor) : Except Fault (List Char × Cursor) := do
  let (breaks, next) := skipLines true fuel [] cur
  if next.atAnyMark then next.refuse .unexpected else return (breaks, ← next.checked)

/-- Reads an escape, from behind the backslash. -/
def escape (fuel : Nat) (cur : Cursor) : Except Fault (List CodePoint × Cursor) := do
  match cur.rest with
  | [] => cur.refuse .badEscape
  | c :: _ =>
    if isBreak c then
      let (breaks, next) ← skipQuotedLines fuel cur.next
      return (breaks.map .char, next)
    else
      match shortEscape? c, codeDigits? c with
      | some e, _ => return ([.char e], cur.next)
      | none, some n => codeEscape n cur.next
      | none, none => cur.refuse .badEscape

/-- Reads the spaces inside of a quoted scalar. -/
def quotedSpaces (fuel : Nat) (cur : Cursor) : Except Fault (List Char × Cursor) := do
  let (spaces, next) := cur.span fun c => c == ' ' || c == '\t'
  match next.rest with
  | [] => next.refuse .unexpected
  | b :: _ =>
    if isBreak b then
      let (breaks, next) ← skipQuotedLines fuel next.next
      return (folded (normalBreak b) breaks, next)
    else return (spaces, next)

/-- Reads a scalar up to and with its closing quote; `done` holds its text so far, backwards. -/
def quotedFrom (quote : Char) (fuel : Nat) (done : List CodePoint) (cur : Cursor) :
    Except Fault (Text × Cursor) :=
  match fuel with
  | 0 => .error (.flaw .tooDeep)
  | fuel + 1 =>
    match cur.rest with
    | [] => cur.refuse .unexpected
    | c :: rest =>
      if c == quote then
        if quote == '\'' && rest.head? == some '\'' then
          quotedFrom quote fuel (.char c :: done) (cur.forward 2)
        else .ok (⟨done.reverse⟩, cur.next)
      else if quote == '"' && c == '\\' then
        match escape fuel cur.next with
        | .error f => .error f
        | .ok (ps, next) => quotedFrom quote fuel (ps.reverse ++ done) next
      else if isSpace c then
        match quotedSpaces fuel cur with
        | .error f => .error f
        | .ok (cs, next) => quotedFrom quote fuel ((cs.map .char).reverse ++ done) next
      else quotedFrom quote fuel (.char c :: done) cur.next

/-- Reads a quoted scalar, from its first quote on. -/
def quotedScalar (quote : Char) (fuel : Nat) (cur : Cursor) : Except Fault (Text × Cursor) :=
  quotedFrom quote fuel [] cur.next

/-! ## Plain scalars -/

/-- The signs that structure collections between brackets. -/
def isFlowSign (c : Char) : Bool :=
  c == ',' || c == '[' || c == ']' || c == '\x7b' || c == '\x7d'

/-- Whether a plain scalar can start here. -/
def startsPlain (flow : Bool) : List Char → Bool
  | [] => false
  | c :: rest =>
    if isSpace c || isFlowSign c || "#&*!|>'\"%@\x60".toList.contains c then false
    else if c == '-' then !endsToken rest
    else if c == '?' || c == ':' then !flow && !endsToken rest
    else true

/-- Whether a plain scalar ends before its next character. -/
def endsPlain (flow : Bool) (c : Char) (rest : List Char) : Bool :=
  isSpace c || (flow && (isFlowSign c || c == '?'))
    || (c == ':' && (endsToken rest || (flow && (rest.head?.any isFlowSign))))

/-- The characters of a plain scalar up to the next space or its end. -/
def plainRun (flow : Bool) : List Char → List Char
  | [] => []
  | c :: rest => if endsPlain flow c rest then [] else c :: plainRun flow rest

/-- A plain scalar that was read: its text, the place behind it, and whether that is on a line
behind the last one of the scalar. -/
structure PlainScalar where
  text : List Char
  cursor : Cursor
  broke : Bool

/-- The place behind a part of a plain scalar, a colon there having been told from one that belongs
to it. -/
def behindRun (cur : Cursor) (length : Nat) : Cursor :=
  let next := cur.forward length
  next.ask (if next.rest.head? = some ':' then 2 else 1)

/-- Skips the spaces behind a part of a plain scalar, which it then goes on with, and gives the text
that they amount to. A scalar does not go on behind a mark between documents. -/
def plainSpaces (fuel : Nat) (cur : Cursor) : PlainScalar :=
  let (spaces, next) := cur.span (· == ' ')
  match next.rest with
  | b :: _ =>
    if isBreak b then
      let (breaks, last) := skipLines false fuel [] next.next
      ⟨if last.atAnyMark then [] else folded (normalBreak b) breaks, last, true⟩
    else ⟨spaces, next, false⟩
  | [] => ⟨spaces, next, false⟩

/-- Reads on in a plain scalar, outside of brackets as long as its lines are indented; `broke` says
whether that is on a new line. Spaces count only if the scalar goes on behind them. -/
def plainFrom (flow : Bool) (indent : Int) (fuel : Nat) (cur : Cursor) (broke : Bool) :
    PlainScalar :=
  match fuel with
  | 0 => ⟨[], cur, broke⟩
  | fuel + 1 =>
    let run := plainRun flow cur.rest
    if run.head? == some '#' then ⟨[], cur, broke⟩
    else if run.isEmpty then ⟨[], behindRun cur 0, broke⟩
    else
      let gap := plainSpaces (fuel + 1) (behindRun cur run.length)
      if gap.text.isEmpty || (!flow && gap.cursor.column < indent) then { gap with text := run }
      else
        let more := plainFrom flow indent fuel gap.cursor gap.broke
        { more with text := if more.text.isEmpty then run else run ++ (gap.text ++ more.text) }

/-- Reads a plain scalar. -/
def plainScalar (flow : Bool) (indent : Int) (fuel : Nat) (cur : Cursor) : PlainScalar :=
  plainFrom flow indent fuel cur false

/-! ## Scalars set out by lines -/

/-- What becomes of the line breaks at the end of a scalar set out by lines. -/
inductive Chomping where
  | strip
  | clip
  | keep
  deriving DecidableEq

/-- Reads the sign that says what becomes of the last line breaks, if there is one. -/
def chomping? (cur : Cursor) : Option (Chomping × Cursor) :=
  match cur.rest with
  | '+' :: _ => some (.keep, cur.next)
  | '-' :: _ => some (.strip, cur.next)
  | _ => none

/-- Reads the digit that says how far the lines are indented, if there is one. -/
def indentDigit? (cur : Cursor) : Except Fault (Option (Nat × Cursor)) :=
  match cur.rest with
  | c :: _ =>
    if c == '0' then cur.refuse .unexpected
    else if c.isDigit then .ok (some (c.toNat - '0'.toNat, cur.next))
    else .ok none
  | [] => .ok none

/-- Reads the signs behind the mark that opens a scalar set out by lines, in either order. -/
def blockSigns (cur : Cursor) : Except Fault (Chomping × Option Nat × Cursor) := do
  match chomping? cur with
  | some (chomping, cur) =>
    match ← indentDigit? cur with
    | some (n, cur) => return (chomping, some n, cur)
    | none => return (chomping, none, cur)
  | none =>
    match ← indentDigit? cur with
    | some (n, cur) =>
      match chomping? cur with
      | some (chomping, cur) => return (chomping, some n, cur)
      | none => return (.clip, some n, cur)
    | none => return (.clip, none, cur)

/-- Skips empty lines in front of the first line that says how far all of them are indented, and
gives the breaks passed and the widest column reached. -/
def blockIndent (fuel : Nat) (breaks : List Char) (widest : Nat) (cur : Cursor) :
    List Char × Nat × Cursor :=
  match fuel with
  | 0 => (breaks, widest, cur)
  | fuel + 1 =>
    let cur := cur.skipWhile (· == ' ')
    let widest := max widest cur.column
    match cur.rest with
    | [] => (breaks, widest, cur)
    | c :: _ =>
      if isBreak c then blockIndent fuel (breaks ++ [normalBreak c]) widest cur.next
      else (breaks, widest, cur)

/-- Skips blanks up to a column. -/
def skipToColumn (column : Nat) (cur : Cursor) : Cursor :=
  cur.forward ((cur.rest.take (column - cur.column)).takeWhile (· == ' ')).length

/-- Skips empty lines and the indentation of the line behind them, and gives the breaks passed. -/
def blockBreaks (column : Nat) (fuel : Nat) (breaks : List Char) (cur : Cursor) :
    List Char × Cursor :=
  match fuel with
  | 0 => (breaks, cur)
  | fuel + 1 =>
    let cur := skipToColumn column cur
    match cur.rest with
    | [] => (breaks, cur)
    | c :: _ =>
      if isBreak c then blockBreaks column fuel (breaks ++ [normalBreak c]) cur.next
      else (breaks, cur)

/-- Reads the line break that comes next, if one does. -/
def lineBreak (cur : Cursor) : List Char × Cursor :=
  match cur.rest with
  | c :: _ => if isBreak c then ([normalBreak c], cur.next) else ([], cur)
  | [] => ([], cur)

/-- What was read of a scalar set out by lines: its text but for the last line breaks, the break
behind its last line and those behind that, and the place behind them all. -/
structure BlockText where
  text : List Char
  lastBreak : List Char
  breaks : List Char
  cursor : Cursor

/-- Reads the lines that stand in a column, behind some breaks. Where lines are folded, a break
between two that start with no space becomes a blank. -/
def blockLines (fold : Bool) (column : Nat) (fuel : Nat) (breaks : List Char) (cur : Cursor) :
    BlockText :=
  match fuel with
  | 0 => ⟨[], [], breaks, cur⟩
  | fuel + 1 =>
    match cur.rest with
    | [] => ⟨[], [], breaks, cur⟩
    | c :: _ =>
      if cur.column != column then ⟨[], [], breaks, cur⟩
      else
        let (line, behind) := cur.span fun c => !isBreak c
        let (ending, next) := lineBreak behind
        let (more, next) := blockBreaks column (fuel + 1) [] next
        let isSpaced (c : Char) : Bool := c == ' ' || c == '\t'
        match next.rest with
        | [] => ⟨breaks ++ line, ending, more, next⟩
        | d :: _ =>
          if next.column != column then ⟨breaks ++ line, ending, more, next⟩
          else
            let joined :=
              if fold && ending == ['\n'] && !isSpaced c && !isSpaced d then
                if more.isEmpty then [' '] else []
              else ending
            let others := blockLines fold column fuel more next
            { others with text := breaks ++ line ++ joined ++ others.text }

/-- Reads a scalar set out by lines, from its opening mark on, in a collection whose column is
`indent`. -/
def blockScalar (fold : Bool) (indent : Int) (fuel : Nat) (cur : Cursor) :
    Except Fault (Text × Cursor) := do
  let (chomping, digit, cur) ← blockSigns cur.next
  if !endsWord cur.rest then cur.refuse .unexpected
  let cur ← cur.endLine .unexpected
  let least := max 1 (indent + 1).toNat
  let (column, breaks, cur) :=
    match digit with
    | some n =>
      let column := least + n - 1
      let (breaks, cur) := blockBreaks column fuel [] cur
      (column, breaks, cur)
    | none =>
      let (breaks, widest, cur) := blockIndent fuel [] 0 cur
      (max least widest, breaks, cur)
  let lines := blockLines fold column fuel breaks cur
  let ending := match chomping with
    | .strip => []
    | .clip => lines.lastBreak
    | .keep => lines.lastBreak ++ lines.breaks
  return (.ofChars (lines.text ++ ending), lines.cursor)

end RuleFit.Yaml
