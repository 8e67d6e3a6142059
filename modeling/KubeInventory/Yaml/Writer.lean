import KubeInventory.Yaml.Scalar

/-! Writes values as YAML documents in block style: two blanks to a level, lists flush with the key
that holds them, and lines never folded. -/

namespace KubeInventory.Yaml

/-- The characters that end a line. -/
def isBreak (c : Char) : Bool :=
  c == '\n' || c == '\r' || c == '\x85' || c == '\u2028' || c == '\u2029'

/-- The characters that a scalar may hold unescaped. -/
def isPrintable (c : Char) : Bool :=
  let n := c.toNat
  n == 0x0A || (0x20 ≤ n && n ≤ 0x7E) || (0xA0 ≤ n && n ≤ 0xFFFD && n != 0xFEFF) || 0x10000 ≤ n

/-- How a scalar is written. -/
inductive Style where
  | plain
  | singleQuoted
  | doubleQuoted
  | literal
  deriving DecidableEq, Repr

/-- The styles that keep a text as it is, apart from double quotes, which keep any. -/
structure Shape where
  multiline : Bool
  plain : Bool
  singleQuoted : Bool
  literal : Bool
  deriving DecidableEq, Repr

/-- Each character of a text together with what stands before and after it. -/
def withNeighbours (cs : List Char) : List (Option Char × Char × Option Char) :=
  let before := none :: cs.map some
  let after := (cs.drop 1).map some ++ [none]
  before.zip (cs.zip after)

/-- Whether a neighbour is white space or missing. -/
def isGap : Option Char → Bool
  | none => true
  | some c => c == ' ' || c == '\t' || isBreak c

def isIndicator (c : Char) : Bool := "#,[]\x7b\x7d&*!|>'\"%@\x60".toList.contains c

/-- Whether a character would be taken for markup at its place in a plain scalar. -/
def isMarkup : Option Char × Char × Option Char → Bool
  | (none, c, after) => isIndicator c || ((c == '?' || c == ':' || c == '-') && isGap after)
  | (some before, c, after) => (c == ':' && isGap after) || (c == '#' && isGap (some before))

def isBlankBeforeBreak : Option Char × Char × Option Char → Bool
  | (_, c, some after) => c == ' ' && isBreak after
  | _ => false

def isBreakBeforeBlank : Option Char × Char × Option Char → Bool
  | (_, c, some after) => isBreak c && after == ' '
  | _ => false

def shape (text : String) : Shape :=
  let cs := text.toList
  let places := withNeighbours cs
  let multiline := cs.any isBreak
  let marked := cs.take 3 == ['-', '-', '-'] || cs.take 3 == ['.', '.', '.'] || places.any isMarkup
  let special := places.any isBlankBeforeBreak || cs.any fun c => !isPrintable c
  let breakBlank := places.any isBreakBeforeBlank
  let isEdge (c : Option Char) : Bool := c.any fun c => c == ' ' || isBreak c
  { multiline := multiline
    plain := !(marked || special || breakBlank || multiline) &&
      !(isEdge cs.head? || isEdge cs.getLast?)
    singleQuoted := !(special || breakBlank)
    literal := !(cs.isEmpty || special || cs.getLast? == some ' ') }

/-- The style that a text calls for by its content alone: a block for several lines, quotes for what
reads as anything but a text. -/
def preferredStyle (text : String) : Style :=
  if text.toList.contains '\n' then .literal
  else match resolve text with
    | .text => if isPaddedNumber text.toList then .singleQuoted else .plain
    | _ => .singleQuoted

/-- The style in which a text is written; `simpleKey` says whether it is a key on its line. -/
def styleOf (simpleKey : Bool) (preferred : Style) (text : String) : Style :=
  let shape := shape text
  let style := if simpleKey && shape.multiline then .doubleQuoted else preferred
  let style :=
    if style == .plain && (!shape.plain || (text.isEmpty && simpleKey)) then .singleQuoted
    else style
  match style with
  | .singleQuoted => if shape.singleQuoted then .singleQuoted else .doubleQuoted
  | .literal => if shape.literal && !simpleKey then .literal else .doubleQuoted
  | style => style

/-- What has been written, with the last line's length, whether it ends in white space, and whether
it holds nothing but indentation and markers. -/
structure Pen where
  /-- The text so far, last character first. -/
  written : List Char
  column : Nat
  blank : Bool
  fresh : Bool

namespace Pen

def start : Pen := ⟨[], 0, true, true⟩

def text (p : Pen) : String := String.ofList p.written.reverse

def put (p : Pen) (c : Char) : Pen := { p with written := c :: p.written, column := p.column + 1 }

def putAll (p : Pen) (cs : List Char) : Pen := cs.foldl put p

def newline (p : Pen) : Pen := { p with written := '\n' :: p.written, column := 0 }

/-- Writes a character that ends a line. -/
def putBreak (p : Pen) (c : Char) : Pen :=
  if c == '\n' then p.newline else { p with written := c :: p.written, column := 0 }

/-- Goes to the given column of a line without content. -/
def indent (p : Pen) (column : Nat) : Pen :=
  let isUsed := !p.fresh || column < p.column || (p.column == column && !p.blank)
  let p := if isUsed then p.newline else p
  let p := p.putAll (List.replicate (column - p.column) ' ')
  { p with blank := true, fresh := true }

/-- Writes markup, after a blank if it needs one; `isMarker` says whether the line still counts as
fresh after it. -/
def indicator (p : Pen) (mark : String) (needsBlank endsBlank isMarker : Bool) : Pen :=
  let p := if needsBlank && !p.blank then p.put ' ' else p
  { p.putAll mark.toList with blank := endsBlank, fresh := p.fresh && isMarker }

def plain (p : Pen) (text : String) : Pen :=
  let p := if p.blank || text.isEmpty then p else p.put ' '
  { p.putAll text.toList with blank := false, fresh := false }

/-- Writes the lines of a text, each from the given column; `inBreaks` says whether the last
character was the end of a line. -/
def lines (column : Nat) (writeChar : Pen → Char → Pen) (inBreaks : Bool) :
    List Char → Pen → Pen × Bool
  | [], p => (p, inBreaks)
  | c :: rest, p =>
    if isBreak c then lines column writeChar true rest { p.putBreak c with fresh := true }
    else
      let p := if inBreaks then p.indent column else p
      lines column writeChar false rest { writeChar p c with fresh := false }

/-- Writes a text in single quotes, a quote inside it twice. -/
def singleQuoted (p : Pen) (column : Nat) (text : String) : Pen :=
  let p := p.indicator "'" true false false
  let writeChar (p : Pen) (c : Char) : Pen := if c == '\'' then (p.put c).put c else p.put c
  let (p, inBreaks) := lines column writeChar false text.toList p
  let p := if inBreaks then p.indent column else p
  { p.indicator "'" false false false with blank := false, fresh := false }

def hexUpper (width n : Nat) : List Char :=
  let digits := (Nat.toDigits 16 n).map Char.toUpper
  List.replicate (width - digits.length) '0' ++ digits

/-- The letter that stands for a character after a backslash. -/
def shortEscape? (c : Char) : Option Char :=
  [('\x00', '0'), ('\x07', 'a'), ('\x08', 'b'), ('\x09', 't'), ('\x0A', 'n'), ('\x0B', 'v'),
    ('\x0C', 'f'), ('\x0D', 'r'), ('\x1B', 'e'), ('"', '"'), ('\\', '\\'), ('\x85', 'N'),
    ('\u00A0', '_'), ('\u2028', 'L'), ('\u2029', 'P')].lookup c

def escape (c : Char) : List Char :=
  if isPrintable c && !isBreak c && c != '"' && c != '\\' then [c]
  else match shortEscape? c with
    | some e => ['\\', e]
    | none =>
      let n := c.toNat
      if n ≤ 0xFF then '\\' :: 'x' :: hexUpper 2 n
      else if n ≤ 0xFFFF then '\\' :: 'u' :: hexUpper 4 n
      else '\\' :: 'U' :: hexUpper 8 n

def doubleQuoted (p : Pen) (text : String) : Pen :=
  let p := p.indicator "\"" true false false
  let p := p.putAll (text.toList.flatMap escape)
  { p.indicator "\"" false false false with blank := false, fresh := false }

/-- The marks after the bar of a block: its indentation if the text starts with white space, and how
its last breaks are kept. -/
def blockHints (cs : List Char) : String :=
  let width := if cs.head?.any fun c => c == ' ' || isBreak c then "2" else ""
  let ending := match cs.reverse with
    | last :: before =>
      if !isBreak last then "-"
      else if before.head?.all isBreak then "+"
      else ""
    | [] => "-"
  width ++ ending

def literal (p : Pen) (column : Nat) (text : String) : Pen :=
  let cs := text.toList
  let p := p.indicator ("|" ++ blockHints cs) true false false
  let p := { p.newline with blank := true, fresh := true }
  (lines column put true cs p).1

/-- Writes a scalar in the given style. -/
def scalar (p : Pen) (column : Nat) (style : Style) (text : String) : Pen :=
  match style with
  | .plain => p.plain text
  | .singleQuoted => p.singleQuoted column text
  | .doubleQuoted => p.doubleQuoted text
  | .literal => p.literal column text

end Pen

def Real.text : Real → String
  | .finite x => x.text false
  | .infinity false => ".inf"
  | .infinity true => "-.inf"
  | .nan => ".nan"

/-- Where a value stands: what is around it decides on indentation and on the form of keys. -/
inductive Place where
  | document
  | item
  | key
  | longKey
  | entry
  deriving DecidableEq, Repr

def Place.isInMapping : Place → Bool
  | document | item => false
  | key | longKey | entry => true

/-- The column of what is inside a value whose surroundings are at the given column. -/
def deeper : Option Nat → Nat
  | none => 0
  | some column => column + 2

/-- Whether a key can stand on its line before the colon: a short text on one line, or nothing but
empty brackets. -/
def isSimpleKey : Value → Bool
  | .string text => !(shape text).multiline && text.utf8ByteSize ≤ 128
  | .list items => items.isEmpty
  | .mapping entries => entries.isEmpty
  | .tagged _ _ => false
  | _ => true

mutual

/-- Writes a value at its place; `column` is that of its surroundings, none for a document. -/
def node (place : Place) (column : Option Nat) (p : Pen) : Value → Pen
  | .null => p.plain "null"
  | .bool b => p.plain (if b then "true" else "false")
  | .int n => p.plain (toString n)
  | .float x => p.plain x.text
  | .string text =>
    let inner := (column.map (· + 2)).getD 2
    p.scalar inner (styleOf (place == .key) (preferredStyle text) text) text
  | .list values =>
    if values.isEmpty then (p.indicator "[" true true false).indicator "]" false false false
    else
      let flush := place.isInMapping && !p.fresh
      items (if flush then column.getD 0 else deeper column) p values
  | .mapping fields =>
    if fields.isEmpty then
      (p.indicator "\x7b" true true false).indicator "\x7d" false false false
    else entries (deeper column) p fields
  | .tagged tag v => node place column (p.indicator tag true false false) v

def items (column : Nat) (p : Pen) : List Value → Pen
  | [] => p
  | v :: rest =>
    let p := (p.indent column).indicator "-" true false true
    items column (node .item (some column) p v) rest

def entries (column : Nat) (p : Pen) : List (Value × Value) → Pen
  | [] => p
  | (key, v) :: rest =>
    let p := p.indent column
    let p :=
      if isSimpleKey key then (node .key (some column) p key).indicator ":" false false false
      else
        let p := node .longKey (some column) (p.indicator "?" true false true) key
        (p.indent column).indicator ":" true false true
    entries column (node .entry (some column) p v) rest

end

/-- A value as a document of its own. -/
def write (v : Value) : String := ((node .document none Pen.start v).indent 0).text

end KubeInventory.Yaml
