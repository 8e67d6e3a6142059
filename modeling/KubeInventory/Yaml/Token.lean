import KubeInventory.Yaml.ScalarText

/-! The tokens of a YAML text. Indentation shows as tokens of its own, and a key on its line gets
its token as soon as the colon behind it is found. -/

namespace KubeInventory.Yaml

inductive Token where
  | versionDirective (major minor : Nat)
  | tagDirective (handle tagStart : String)
  | documentStart
  | documentEnd
  | blockSequence
  | blockMapping
  | blockEnd
  | openSequence
  | closeSequence
  | openMapping
  | closeMapping
  | entry
  | comma
  | key
  | value
  | alias (name : String)
  | anchor (name : String)
  | tag (handle suffix : String)
  | scalar (text : String) (style : Style)
  deriving DecidableEq, Repr

/-- A place at which a key on its line may start: the number of tokens before it and where it is. A
required one must turn out to be a key. -/
structure KeyStart where
  required : Bool
  before : Nat
  line : Nat
  column : Nat
  index : Nat

/-- The state between two tokens. -/
structure Scan where
  cursor : Cursor
  tokens : Array Token
  /-- The columns of open block structures, innermost first. -/
  columns : List Nat
  /-- The possible key at each level of brackets, innermost first. -/
  keyStarts : List (Option KeyStart)
  keyAllowed : Bool

namespace Scan

def inFlow (s : Scan) : Bool := 1 < s.keyStarts.length

/-- Whether the column lies deeper than the innermost block structure. -/
def isDeeper (s : Scan) (column : Nat) : Bool := s.columns.head?.all (· < column)

def emit (s : Scan) (t : Token) : Scan := { s with tokens := s.tokens.push t }

/-- Closes the block structures that lie deeper than a column; all of them without one. -/
def closeBlocks (s : Scan) (column : Option Nat) : Scan :=
  if s.inFlow then s
  else
    let isClosed (open_ : Nat) : Bool := column.all (· < open_)
    let closed := (s.columns.takeWhile isClosed).length
    { s with
      tokens := s.tokens ++ Array.replicate closed Token.blockEnd
      columns := s.columns.drop closed }

/-- Opens a block structure at a column deeper than those open, with its token after the first
`before` tokens. -/
def openBlock (s : Scan) (column before : Nat) (t : Token) : Scan :=
  if s.inFlow || !s.isDeeper column then s
  else { s with columns := column :: s.columns, tokens := s.tokens.insertIdx! before t }

/-- Gives up the possible key at the innermost level, unless it had to be one. -/
def dropKey? (s : Scan) : Option Scan :=
  match s.keyStarts with
  | some start :: rest => if start.required then none else some { s with keyStarts := none :: rest }
  | _ => some s

/-- Notes that a key may start here. -/
def noteKey? (s : Scan) : Option Scan :=
  if !s.keyAllowed then some s
  else do
    let s ← s.dropKey?
    let c := s.cursor
    let required := !s.inFlow && s.columns.head? == some c.column
    let start : KeyStart := ⟨required, s.tokens.size, c.line, c.column, c.index⟩
    return { s with keyStarts := some start :: s.keyStarts.drop 1 }

/-- Gives up possible keys that lie on an earlier line or too far back. -/
def dropStaleKeys? (s : Scan) : Option Scan := do
  let isStale (start : KeyStart) : Bool :=
    start.line < s.cursor.line || start.index + 1024 < s.cursor.index
  let keyStarts ← s.keyStarts.mapM fun
    | some start =>
    if !isStale start then some (some start)
    else if start.required then none
    else some none
    | none => some none
  return { s with keyStarts := keyStarts }

def move (s : Scan) (c : Cursor) : Scan := { s with cursor := c }

def allowKey (s : Scan) (allowed : Bool) : Scan := { s with keyAllowed := allowed }

/-- Passes over blanks, comments and ends of lines. Outside brackets a new line may start a key, and
before one no tab may stand. -/
def toNextToken (fuel : Nat) (s : Scan) : Scan :=
  match fuel with
  | 0 => s
  | fuel + 1 =>
    let c := if s.cursor.index == 0 && s.cursor.isAt '\uFEFF' then s.cursor.skip 1 else s.cursor
    let c := c.skipWhile fun x => x == ' ' || (x == '\t' && (s.inFlow || !s.keyAllowed))
    let c := if c.isAt '#' then c.skipWhile (!isBreak ·) else c
    if c.has 0 isBreak then
      toNextToken fuel ((s.move c.lineBreak.2).allowKey (s.keyAllowed || !s.inFlow))
    else s.move c

/-- A number of a version. -/
def versionPart? (c : Cursor) : Option (Nat × Cursor) := do
  let (digits, c) := c.takeWhile Text.isDigit
  guard (!digits.isEmpty && digits.length ≤ 9)
  return (digits.foldl (fun n d => n * 10 + Text.digitValue d) 0, c)

/-- The characters of tags, by their codes where they are written so. -/
def tagText? (withPunctuation : Bool) : Nat → Cursor → Option (List UInt8 × Cursor)
  | 0, _ => none
  | fuel + 1, c =>
    match c.rest with
    | '%' :: a :: b :: _ => do
      let octet := (← Text.hexValue? a) * 16 + (← Text.hexValue? b)
      let (more, c) ← tagText? withPunctuation fuel (c.skip 3)
      return (octet.toUInt8 :: more, c)
    | '%' :: _ => none
    | x :: _ =>
      let allowed := isWordChar x || ";/?:@&=+$.!~*'()".toList.contains x ||
        (withPunctuation && ",[]".toList.contains x)
      if allowed then do
        let (more, c) ← tagText? withPunctuation fuel (c.skip 1)
        return (x.toNat.toUInt8 :: more, c)
      else some ([], c)
    | [] => some ([], c)

def tagString? (withPunctuation : Bool) (c : Cursor) : Option (String × Cursor) := do
  let (octets, c) ← tagText? withPunctuation (c.rest.length + 1) c
  return (← String.fromUTF8? ⟨octets.toArray⟩, c)

/-- A handle of tags: an exclamation mark, or a word between two. -/
def tagHandle? (c : Cursor) : Option (String × Cursor) := do
  guard (c.isAt '!')
  let (word, c) := (c.skip 1).takeWhile isWordChar
  if c.isAt '!' then return (String.ofList ('!' :: word ++ ['!']), c.skip 1)
  else return (String.ofList ('!' :: word), c)

/-- A directive after its percent sign. -/
def directive? (c : Cursor) : Option (Token × Cursor) := do
  let (name, c) := c.takeWhile isWordChar
  guard (c.gapAt 0)
  if name == "YAML".toList then
    let (major, c) ← versionPart? (c.skipWhile isBlankChar)
    guard (c.isAt '.')
    let (minor, c) ← versionPart? (c.skip 1)
    return (.versionDirective major minor, ← c.restOfLine?)
  else if name == "TAG".toList then
    let (handle, c) ← tagHandle? (c.skipWhile isBlankChar)
    guard ((handle == "!" || handle.endsWith "!") && c.has 0 isBlankChar)
    let (tagStart, c) ← tagString? true (c.skipWhile isBlankChar)
    guard (!tagStart.isEmpty && c.gapAt 0)
    return (.tagDirective handle tagStart, ← c.restOfLine?)
  else none

/-- A tag at its exclamation mark. -/
def tag? (inFlow : Bool) (c : Cursor) : Option (Token × Cursor) := do
  let (handle, suffix, c) ←
    if c.has 1 (· == '<') then do
      let (suffix, c) ← tagString? true (c.skip 2)
      guard (!suffix.isEmpty && c.isAt '>')
      pure ("", suffix, c.skip 1)
    else do
      let (handle, after) ← tagHandle? c
      if 2 ≤ handle.length && handle.endsWith "!" then
        let (suffix, c) ← tagString? false after
        guard (!suffix.isEmpty)
        pure (handle, suffix, c)
      else
        let (suffix, c) ← tagString? false (c.skip 1)
        pure (if suffix.isEmpty then ("", "!", c) else ("!", suffix, c))
  guard (c.gapAt 0 || (inFlow && c.isAt ','))
  return (.tag handle suffix, c)

/-- The name of an anchor or alias after its mark. -/
def anchorName? (c : Cursor) : Option (String × Cursor) := do
  let (name, c) := c.takeWhile isWordChar
  guard (!name.isEmpty && (c.gapAt 0 || c.has 0 fun x => "?:,]\x7d%@\x60".toList.contains x))
  return (String.ofList name, c)

/-- Whether a plain scalar starts at the cursor. -/
def startsPlain (inFlow : Bool) (c : Cursor) : Bool :=
  !(c.gapAt 0 || c.has 0 fun x => "-?:,[]\x7b\x7d#&*!|>'\"%@\x60".toList.contains x) ||
    (c.isAt '-' && !c.has 1 isBlankChar) ||
    (!inFlow && (c.isAt '?' || c.isAt ':') && !c.gapAt 1)

/-- Adds a token of a node that may start a key on its line. -/
def nodeToken? (s : Scan) (read : Cursor → Option (Token × Cursor)) : Option Scan := do
  let s ← s.noteKey?
  let (t, c) ← read s.cursor
  return ((s.emit t).move c).allowKey false

/-- Adds the token for the colon behind a key, and before the key the tokens that this shows it
needs. -/
def valueToken? (s : Scan) : Option Scan := do
  let c := s.cursor
  match s.keyStarts with
  | some start :: rest =>
    let s := { s with keyStarts := none :: rest, tokens := s.tokens.insertIdx! start.before .key }
    let s := s.openBlock start.column start.before .blockMapping
    return ((s.emit .value).move (c.skip 1)).allowKey false
  | _ =>
    guard (s.inFlow || s.keyAllowed)
    let s := s.openBlock c.column s.tokens.size .blockMapping
    return ((s.emit .value).move (c.skip 1)).allowKey (!s.inFlow)

/-- Adds the token at the cursor, which white space no longer precedes. -/
def token? (s : Scan) : Option Scan := do
  let c := s.cursor
  let flow := s.inFlow
  if c.column == 0 && c.isAt '%' then
    let s ← (s.closeBlocks none).dropKey?
    let (t, c) ← directive? (c.skip 1)
    return ((s.emit t).move c).allowKey false
  else if c.isAnyDocumentMark then
    let s ← (s.closeBlocks none).dropKey?
    let t := if c.isAt '-' then Token.documentStart else .documentEnd
    return ((s.emit t).move (c.skip 3)).allowKey false
  else if c.isAt '[' || c.isAt '\x7b' then
    let s ← s.noteKey?
    let t := if c.isAt '[' then Token.openSequence else .openMapping
    return (({ s with keyStarts := none :: s.keyStarts }.emit t).move (c.skip 1)).allowKey true
  else if c.isAt ']' || c.isAt '\x7d' then
    let s ← s.dropKey?
    let t := if c.isAt ']' then Token.closeSequence else .closeMapping
    let s := if flow then { s with keyStarts := s.keyStarts.drop 1 } else s
    return ((s.emit t).move (c.skip 1)).allowKey false
  else if c.isAt ',' then
    let s ← s.dropKey?
    return ((s.emit .comma).move (c.skip 1)).allowKey true
  else if c.isAt '-' && c.gapAt 1 then
    guard (flow || s.keyAllowed)
    let s ← (s.openBlock c.column s.tokens.size .blockSequence).dropKey?
    return ((s.emit .entry).move (c.skip 1)).allowKey true
  else if c.isAt '?' && (flow || c.gapAt 1) then
    guard (flow || s.keyAllowed)
    let s ← (s.openBlock c.column s.tokens.size .blockMapping).dropKey?
    return ((s.emit .key).move (c.skip 1)).allowKey (!flow)
  else if c.isAt ':' && (flow || c.gapAt 1) then s.valueToken?
  else if c.isAt '*' then
    s.nodeToken? fun c => (anchorName? (c.skip 1)).map fun (name, c) => (.alias name, c)
  else if c.isAt '&' then
    s.nodeToken? fun c => (anchorName? (c.skip 1)).map fun (name, c) => (.anchor name, c)
  else if c.isAt '!' then s.nodeToken? (tag? flow)
  else if (c.isAt '|' || c.isAt '>') && !flow then
    let s ← s.dropKey?
    let folded := c.isAt '>'
    let (text, after) ← block? folded s.columns.head? (c.skip 1)
    -- A folded block is read as quoted text is.
    let style := if folded then Style.doubleQuoted else .literal
    return ((s.emit (.scalar (String.ofList text) style)).move after).allowKey true
  else if c.isAt '\'' || c.isAt '"' then
    let single := c.isAt '\''
    s.nodeToken? fun c => do
      let (text, after) ← quoted? single (c.rest.length + 1) [] (c.skip 1)
      return (.scalar (String.ofList text) (if single then .singleQuoted else .doubleQuoted), after)
  else if startsPlain flow c then
    let s ← s.noteKey?
    let limit := match s.columns.head? with
      | none => 0
      | some column => column + 1
    let (text, endedLine, after) ← plain? flow limit (c.rest.length + 1) [] (.blanks []) c
    return ((s.emit (.scalar (String.ofList text) .plain)).move after).allowKey endedLine
  else none

/-- Adds all tokens up to the end of the text. -/
def run : Nat → Scan → Option Scan
  | 0, _ => none
  | fuel + 1, s => do
    let s ← (s.toNextToken (s.cursor.rest.length + 1)).dropStaleKeys?
    if s.cursor.atEnd then (s.closeBlocks none).dropKey?
    else
      let s ← (s.closeBlocks (some s.cursor.column)).token?
      run fuel s

end Scan

/-- The characters that a text may hold. -/
def isAllowed (c : Char) : Bool :=
  let n := c.toNat
  n == 0x09 || n == 0x0A || n == 0x0D || (0x20 ≤ n && n ≤ 0x7E) || n == 0x85 ||
    (0xA0 ≤ n && n ≤ 0xFFFD) || 0x10000 ≤ n

/-- The tokens of a text, after a byte order mark if it has one. -/
def tokens? (text : String) : Option (List Token) := do
  let cs := match text.toList with
    | '\uFEFF' :: rest => rest
    | cs => cs
  guard (cs.all isAllowed)
  let s ← Scan.run (cs.length + 2) ⟨Cursor.start cs, #[], [], [none], true⟩
  return s.tokens.toList

end KubeInventory.Yaml
