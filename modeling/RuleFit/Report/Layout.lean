import RuleFit.Binary64.Basic
import RuleFit.Text.Digits
import RuleFit.Text.Width

/-!
# Text in lines and columns

A text is set out in lines of at most so many cells. Its own lines are kept; tabs in them lead to
the next multiple of eight cells; and a line that is too long is broken between words, where a word
takes the blanks behind it along. A word that is too long for a line is either folded, or cut at the
end of its line with a mark.

A table gives every column the width of its widest cell, and takes cells away from the widest
columns as long as the whole is too wide. A cell of several lines makes its row as high.
-/

namespace RuleFit.Layout

/-- Blanks. -/
def blanks (n : Nat) : List CodePoint := List.replicate n (.char ' ')

/-- The width of characters in cells. -/
def width (cs : List CodePoint) : Nat := Text.widthFrom none cs

/-- Characters without the blanks at the end. -/
def trimEnd (cs : List CodePoint) : List CodePoint := (cs.reverse.dropWhile Text.isSpace).reverse

/-! ## Tabs -/

/-- Joins the parts between tabs, from so many cells on; a tab takes at least one blank. -/
def joinTabs (position : Nat) : List (List CodePoint) → List CodePoint
  | [] => []
  | [part] => part
  | part :: parts =>
    let part := part ++ [.char ' ']
    let reached := position + width part
    let more := (8 - reached % 8) % 8
    part ++ blanks more ++ joinTabs (reached + more) parts

/-- A line with blanks for its tabs. -/
def expandTabs (line : List CodePoint) : List CodePoint :=
  joinTabs 0 (Text.splitAll (· == .char '\t') line)

/-! ## Breaking lines -/

/-- What is done with a word that is too long for a line. -/
inductive Overflow where
  | fold
  | cut
  deriving DecidableEq

/-- Splits a text into words with the blanks behind them; blanks at the start belong to the first
word. A text of blanks has no words. -/
def words (fuel : Nat) (cs : List CodePoint) : List (List CodePoint) :=
  match fuel with
  | 0 => []
  | fuel + 1 =>
    let lead := cs.takeWhile Text.isSpace
    let rest := cs.dropWhile Text.isSpace
    let body := rest.takeWhile (!Text.isSpace ·)
    let behind := rest.dropWhile (!Text.isSpace ·)
    if body.isEmpty then []
    else
      (lead ++ body ++ behind.takeWhile Text.isSpace)
        :: words fuel (behind.dropWhile Text.isSpace)

/-- Puts glyphs together in chunks of at most so many cells. -/
def chunks (limit : Nat) (used : Nat) (chunk : List CodePoint) :
    List (List CodePoint × Nat) → List (List CodePoint)
  | [] => if chunk.isEmpty then [] else [chunk]
  | (glyph, n) :: glyphs =>
    if limit < used + n ∧ !chunk.isEmpty then chunk :: chunks limit n glyph glyphs
    else chunks limit (used + n) (chunk ++ glyph) glyphs

/-- Lines under construction: those that are done, the current one, and the cells used in it. -/
structure Breaking where
  done : List (List CodePoint) := []
  line : List CodePoint := []
  used : Nat := 0

namespace Breaking

/-- Starts a new line, unless nothing was read yet. -/
def next (b : Breaking) (text : List CodePoint) : Breaking :=
  if b.done.isEmpty && b.line.isEmpty then { b with line := text, used := width text }
  else ⟨b.done ++ [b.line], text, width text⟩

/-- Adds a word. -/
def add (o : Overflow) (limit : Nat) (b : Breaking) (word : List CodePoint) : Breaking :=
  let size := width (trimEnd word)
  if b.used + size ≤ limit then
    { b with line := b.line ++ word, used := b.used + width word }
  else if limit < size then
    match o with
    | .fold => (chunks limit 0 [] (Text.glyphsOf word)).foldl next b
    | .cut => b.next word
  else if b.used = 0 then { b with line := b.line ++ word }
  else b.next word

end Breaking

/-- Breaks a line between its words. -/
def breakLine (o : Overflow) (limit : Nat) (line : List CodePoint) : List (List CodePoint) :=
  match words (line.length + 1) line with
  | [] => [line]
  | ws =>
    let b := ws.foldl (Breaking.add o limit) {}
    b.done ++ [b.line]

/-- Takes blanks off the end that lead beyond so many characters. -/
def trimBeyond (limit : Nat) (line : List CodePoint) : List CodePoint :=
  let blank := line.length - (trimEnd line).length
  line.take (line.length - min blank (line.length - limit))

/-- The glyphs that fit into so many cells; half of a wide one is shown as a blank. -/
def fitting (limit : Nat) : List (List CodePoint × Nat) → List CodePoint
  | [] => []
  | (glyph, n) :: glyphs =>
    if limit = 0 then []
    else if n ≤ limit then glyph ++ fitting (limit - n) glyphs
    else blanks limit

/-- A line of at most so many cells; where a line is cut, a mark says so. -/
def truncated (o : Overflow) (limit : Nat) (line : List CodePoint) : List CodePoint :=
  if width line ≤ limit then line
  else
    match o with
    | .fold => fitting limit (Text.glyphsOf line)
    | .cut => fitting (limit - 1) (Text.glyphsOf line) ++ [.char '…']

/-- Sets a text out in lines of at most so many cells. -/
def setLines (o : Overflow) (limit : Nat) (t : Text) : List (List CodePoint) :=
  ((Text.splitAll (· == .char '\n') t.points).flatMap fun line =>
    breakLine o limit (expandTabs line)).map fun line => truncated o limit (trimBeyond limit line)

/-- The text of some lines. -/
def ofLines (lines : List (List CodePoint)) : Text :=
  ⟨lines.flatMap fun line => line ++ [.char '\n']⟩

/-- The text of a paragraph in lines of at most so many cells. -/
def paragraph (limit : Nat) (t : Text) : Text := ofLines (setLines .fold limit t)

/-! ## Tables -/

/-- The side that the cells of a column are set to. -/
inductive Side where
  | left
  | right
  deriving DecidableEq

/-- The code points that end a line when the width of a text is taken. -/
def endsLine (p : CodePoint) : Bool :=
  let n := p.number
  n == 0x0a || decide (0x1c ≤ n ∧ n ≤ 0x1e) || n == 0x85 || n == 0x2028 || n == 0x2029

/-- The width that a cell would like to have. -/
def naturalWidth (t : Text) : Nat :=
  ((Text.splitAll endsLine t.points).map width).foldl max 0

/-- A line with blanks behind it up to so many cells. -/
def filled (limit : Nat) (line : List CodePoint) : List CodePoint :=
  line ++ blanks (limit - width line)

/-- A cell in lines of so many cells. Behind a joiner the first blank takes up no cell, so a line is
filled twice. -/
def cellLines (side : Side) (limit : Nat) (t : Text) : List (List CodePoint) :=
  (setLines .cut limit t).map fun line =>
    match side with
    | .left => filled limit (filled limit line)
    | .right =>
      let line := trimEnd line
      blanks (limit - width line) ++ line

/-- The sum of numbers. -/
def total (ns : List Nat) : Nat := ns.foldl (· + ·) 0

/-- Takes `excess` away from values by their shares, from each no more than its limit. -/
def reduceBy (excess : Nat) (shares limits values : List Nat) : List Nat :=
  match shares, limits, values with
  | share :: shares, limit :: limits, value :: values =>
    let all := share + total shares
    if share = 0 then value :: reduceBy excess shares limits values
    else
      let part := min limit (roundDiv (share * excess) all)
      (value - part) :: reduceBy (excess - part) shares limits values
  | _, _, values => values

/-- Narrows the widest columns down to the next widest, until the whole fits. -/
def collapse (fuel limit : Nat) (widths : List Nat) : List Nat :=
  match fuel with
  | 0 => widths
  | fuel + 1 =>
    let excess := total widths - limit
    let most := widths.foldl max 0
    let second := (widths.filter (· ≠ most)).foldl max 0
    if excess = 0 ∨ most = second then widths
    else
      let shares := widths.map fun w => if w = most then 1 else 0
      let limits := widths.map fun _ => min excess (most - second)
      collapse fuel limit (reduceBy excess shares limits widths)

/-- The widths of columns within so many cells. -/
def columnWidths (limit : Nat) (natural : List Nat) : List Nat :=
  if total natural ≤ limit then natural
  else
    let narrowed := collapse (total natural + 1) limit natural
    let final :=
      if total narrowed ≤ limit then narrowed
      else reduceBy (total narrowed - limit) (narrowed.map fun _ => 1) narrowed narrowed
    (natural.zip final).map fun w => min w.1 w.2

/-- The lines of a row whose cells stand between blanks in columns of the given widths. -/
def rowLines (sides : List Side) (widths : List Nat) (cells : List Text) : List (List CodePoint) :=
  let columns := ((sides.zip widths).zip cells).map fun c =>
    (c.1.2, (cellLines c.1.1 (c.1.2 - 2) c.2).map fun line => .char ' ' :: line ++ [.char ' '])
  let height := (columns.map fun c => c.2.length).foldl max 0
  (List.range height).map fun i => columns.flatMap fun c => c.2.getD i (blanks c.1)

/-- The width of a column with some cells, the blanks around them included. -/
def columnWidth (limit : Nat) (cells : List Text) : Nat :=
  (cells.map fun t => min (naturalWidth t + 2) limit).foldl max 0

/-- The text of a table. -/
def table (limit : Nat) (sides : List Side) (rows : List (List Text)) : Text :=
  let natural := sides.zipIdx.map fun s =>
    columnWidth limit (rows.map fun row => row.getD s.2 .empty)
  let widths := columnWidths limit natural
  ofLines (rows.flatMap (rowLines sides widths))

end RuleFit.Layout
