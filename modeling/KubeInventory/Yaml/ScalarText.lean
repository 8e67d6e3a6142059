import KubeInventory.Yaml.Cursor

/-! Reads the text of scalars in their four written forms. -/

namespace KubeInventory.Yaml

/-- Whether a plain scalar ends at the cursor: at a colon before a gap, and inside brackets at their
punctuation. -/
def endsPlain (inFlow : Bool) (c : Cursor) : Bool :=
  (c.isAt ':' && c.gapAt 1) || (inFlow && c.has 0 fun x => ",[]\x7b\x7d".toList.contains x)

/-- Whether a colon inside brackets stands where no scalar may have one. -/
def misplacedColon (inFlow : Bool) (c : Cursor) : Bool :=
  inFlow && c.isAt ':' && c.has 1 fun x => ",?[]\x7b\x7d".toList.contains x

/-- The characters of a plain scalar up to the next gap or its end. -/
def plainRun? (inFlow : Bool) : Nat → Cursor → Option (List Char × Cursor)
  | 0, _ => none
  | fuel + 1, c =>
    if misplacedColon inFlow c then none
    else if c.gapAt 0 || endsPlain inFlow c then some ([], c)
    else do
      let (run, after) ← plainRun? inFlow fuel (c.skip 1)
      return (c.rest.take 1 ++ run, after)

/-- The text of a plain scalar, with the cursor behind it and whether it ended after the end of a
line. Lines that go on must reach the column `limit`. `pending` is the gap before the next run. -/
def plain? (inFlow : Bool) (limit : Nat) :
    Nat → List Char → Gap → Cursor → Option (List Char × Bool × Cursor)
  | 0, _, _, _ => none
  | fuel + 1, read, pending, c => do
    let endedLine := match pending with
      | .blanks _ => false
      | .breaks _ _ => true
    if c.isAnyDocumentMark || c.isAt '#' then return (read, endedLine, c)
    let (run, c) ← plainRun? inFlow (c.rest.length + 1) c
    let (read, pending) :=
        if run.isEmpty then (read, pending) else (read ++ pending.folded ++ run, .blanks [])
    let endedLine := endedLine && run.isEmpty
    if !(c.has 0 fun x => isBlankChar x || isBreak x) then return (read, endedLine, c)
    let (gap, c) ← c.gap? limit pending
    let endedLine := match gap with
      | .blanks _ => false
      | .breaks _ _ => true
    if !inFlow && c.column < limit then return (read, endedLine, c)
    plain? inFlow limit fuel read gap c

/-- The character that a backslash and a letter stand for in double quotes. -/
def escapedChar? (c : Char) : Option Char :=
  [('0', '\x00'), ('a', '\x07'), ('b', '\x08'), ('t', '\x09'), ('\t', '\x09'), ('n', '\x0A'),
    ('v', '\x0B'), ('f', '\x0C'), ('r', '\x0D'), ('e', '\x1B'), (' ', ' '), ('"', '"'), ('/', '/'),
    ('\\', '\\'), ('N', '\x85'), ('_', '\u00A0'), ('L', '\u2028'), ('P', '\u2029')].lookup c

/-- How many hexadecimal digits follow a backslash and the letter. -/
def hexWidth? (c : Char) : Option Nat := [('x', 2), ('u', 4), ('U', 8)].lookup c

/-- The character with the code that hexadecimal digits write. -/
def codePoint? (digits : List Char) : Option Char := do
  let n ← digits.foldlM (fun n c => (Text.hexValue? c).map (n * 16 + ·)) 0
  if h : n.isValidChar then some (Char.ofNatAux n h) else none

/-- The characters of a quoted scalar up to the next gap or its closing quote; the flag tells of an
escaped end of line. -/
def quotedRun? (single : Bool) : Nat → Cursor → Option (List Char × Bool × Cursor)
  | 0, _ => none
  | fuel + 1, c => do
    let more (text : List Char) (after : Cursor) : Option (List Char × Bool × Cursor) := do
      let (run, escapedBreak, after) ← quotedRun? single fuel after
      return (text ++ run, escapedBreak, after)
    if c.gapAt 0 then return ([], false, c)
    else if single && c.isAt '\'' && c.has 1 (· == '\'') then more ['\''] (c.skip 2)
    else if c.isAt (if single then '\'' else '"') then return ([], false, c)
    else if !single && c.isAt '\\' then
      if c.has 1 isBreak then return ([], true, (c.skip 1).lineBreak.2)
      else
        let letter ← c.peek? 1
        match hexWidth? letter with
        | some width =>
          let digits := (c.rest.drop 2).take width
          guard (digits.length == width)
          more [← codePoint? digits] (c.skip (2 + width))
        | none => more [← escapedChar? letter] (c.skip 2)
    else more (c.rest.take 1) (c.skip 1)

/-- The text of a quoted scalar after its opening quote, and the cursor behind its closing quote. -/
def quoted? (single : Bool) : Nat → List Char → Cursor → Option (List Char × Cursor)
  | 0, _, _ => none
  | fuel + 1, read, c => do
    guard (!(c.isAnyDocumentMark || c.atEnd))
    let (run, escapedBreak, c) ← quotedRun? single (c.rest.length + 1) c
    let read := read ++ run
    if c.isAt (if single then '\'' else '"') then return (read, c.skip 1)
    -- An escaped end of line leaves no trace of itself, but the breaks after it stay.
    let (gap, c) ← c.gap? 0 (if escapedBreak then .breaks [] [] else .blanks [])
    quoted? single fuel (read ++ gap.folded) c

/-- How the last breaks of a block are kept. -/
inductive Chomping where
  | strip
  | clip
  | keep
  deriving DecidableEq

/-- The marks after the bar or angle of a block. -/
def blockHeader? (c : Cursor) : Option (Chomping × Option Nat × Cursor) := do
  let chomping? (c : Cursor) : Option (Chomping × Cursor) :=
    if c.isAt '+' then some (.keep, c.skip 1)
    else if c.isAt '-' then some (.strip, c.skip 1)
    else none
  let width? (c : Cursor) : Option (Nat × Cursor) :=
    (c.peek? 0).bind fun x =>
      if Text.isDigit x then some (Text.digitValue x, c.skip 1) else none
  let (chomping, width, c) := match chomping? c with
    | some (chomping, c) =>
      match width? c with
      | some (width, c) => (chomping, some width, c)
      | none => (chomping, none, c)
    | none =>
      match width? c with
      | some (width, c) =>
        match chomping? c with
        | some (chomping, c) => (chomping, some width, c)
        | none => (.clip, some width, c)
      | none => (.clip, none, c)
  guard (width != some 0)
  return (chomping, width, c)

/-- Passes over indentation and empty lines of a block; gives their breaks and the greatest column
of indentation. Without a known column any indentation is passed over. -/
def blockBreaks? (column : Option Nat) :
    Nat → Nat → List Char → Cursor → Option (List Char × Nat × Cursor)
  | 0, _, _, _ => none
  | fuel + 1, deepest, breaks, c =>
    let spaces := (c.rest.takeWhile (· == ' ')).length
    let c := c.skip (match column with
      | some column => min spaces (column - c.column)
      | none => spaces)
    let deepest := max deepest c.column
    if c.isAt '\t' && (column.all fun column => decide (c.column < column)) then none
    else if c.has 0 isBreak then
      let (text, c) := c.lineBreak
      blockBreaks? column fuel deepest (breaks ++ text) c
    else some (breaks, deepest, c)

/-- The lines of a block at the given column: the text read, the break after the last line, the
breaks after that, and the cursor behind them. In a folded block a single break between two lines
that do not start with a blank becomes a blank. -/
def blockLines? (folded : Bool) (column : Nat) :
    Nat → (read lastBreak breaks : List Char) → (afterBlank : Bool) → Cursor →
      Option (List Char × List Char × List Char × Cursor)
  | 0, _, _, _, _, _ => none
  | fuel + 1, read, lastBreak, breaks, afterBlank, c =>
    if c.column != column || c.atEnd then some (read, lastBreak, breaks, c)
    else do
      let startsBlank := c.has 0 isBlankChar
      let joined :=
        if folded && lastBreak == ['\n'] && !afterBlank && !startsBlank then
          if breaks.isEmpty then [' '] else breaks
        else lastBreak ++ breaks
      let (line, c) := c.takeWhile (!isBreak ·)
      let (lastBreak, c) := c.lineBreak
      let (breaks, _, c) ← blockBreaks? (some column) (c.rest.length + 1) 0 [] c
      blockLines? folded column fuel (read ++ joined ++ line) lastBreak breaks startsBlank c

/-- The text of a block after its bar or angle. `outer` is the column of the structure around it. -/
def block? (folded : Bool) (outer : Option Nat) (c : Cursor) : Option (List Char × Cursor) := do
  let (chomping, width, c) ← blockHeader? c
  let c ← c.restOfLine?
  let given := width.map fun width => outer.getD 0 + width
  let (breaks, deepest, c) ← blockBreaks? given (c.rest.length + 1) 0 [] c
  let least := match outer with
    | none => 1
    | some column => column + 1
  let column := given.getD (max deepest least)
  let (read, lastBreak, breaks, c) ←
    blockLines? folded column (c.rest.length + 1) [] [] breaks false c
  let kept := match chomping with
    | .strip => []
    | .clip => lastBreak
    | .keep => lastBreak ++ breaks
  return (read ++ kept, c)

end KubeInventory.Yaml
