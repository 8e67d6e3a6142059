import KubeInventory.Yaml.Writer

/-! A place in a YAML text, with the line and column that decide on structure. -/

namespace KubeInventory.Yaml

/-- What is still to be read, and where that starts. -/
structure Cursor where
  rest : List Char
  line : Nat
  column : Nat
  index : Nat
  deriving Repr

def isBlankChar (c : Char) : Bool := c == ' ' || c == '\t'

/-- The characters of names of anchors, tags and directives. -/
def isWordChar (c : Char) : Bool :=
  ('0' ≤ c && c ≤ '9') || ('A' ≤ c && c ≤ 'Z') || ('a' ≤ c && c ≤ 'z') || c == '_' || c == '-'

namespace Cursor

def start (cs : List Char) : Cursor := ⟨cs, 0, 0, 0⟩

def atEnd (c : Cursor) : Bool := c.rest.isEmpty

def peek? (c : Cursor) (offset : Nat) : Option Char := c.rest[offset]?

/-- Whether the character at the offset satisfies a test; the end of the text never does. -/
def has (c : Cursor) (offset : Nat) (p : Char → Bool) : Bool := (c.peek? offset).any p

def isAt (c : Cursor) (x : Char) : Bool := c.has 0 (· == x)

/-- Whether white space or the end of the text is at the offset. -/
def gapAt (c : Cursor) (offset : Nat) : Bool := isGap (c.peek? offset)

def breakOrEndAt (c : Cursor) (offset : Nat) : Bool := (c.peek? offset).all isBreak

/-- Passes over characters of one line. -/
def skip (c : Cursor) (count : Nat) : Cursor :=
  { c with rest := c.rest.drop count, column := c.column + count, index := c.index + count }

def skipWhile (c : Cursor) (p : Char → Bool) : Cursor := c.skip (c.rest.takeWhile p).length

/-- Takes the characters of one line that satisfy a test. -/
def takeWhile (c : Cursor) (p : Char → Bool) : List Char × Cursor :=
  let taken := c.rest.takeWhile p
  (taken, c.skip taken.length)

/-- Passes over the end of a line. A carriage return, a line feed, both together and a next-line
character count as a line feed; the separators of Unicode stand for themselves. -/
def lineBreak (c : Cursor) : List Char × Cursor :=
  let after (count : Nat) : Cursor := ⟨c.rest.drop count, c.line + 1, 0, c.index + count⟩
  match c.rest with
  | '\r' :: '\n' :: _ => (['\n'], after 2)
  | x :: _ =>
    if x == '\u2028' || x == '\u2029' then ([x], after 1)
    else if isBreak x then (['\n'], after 1)
    else ([], c)
  | [] => ([], c)

/-- Whether the line starts with three of the given character and a gap. -/
def isDocumentMark (c : Cursor) (mark : Char) : Bool :=
  c.column == 0 && c.rest.take 3 == [mark, mark, mark] && c.gapAt 3

def isAnyDocumentMark (c : Cursor) : Bool := c.isDocumentMark '-' || c.isDocumentMark '.'

/-- Passes over blanks and a comment to the end of the line, which nothing else may precede. -/
def restOfLine? (c : Cursor) : Option Cursor :=
  let c := c.skipWhile isBlankChar
  let c := if c.isAt '#' then c.skipWhile (!isBreak ·) else c
  if c.breakOrEndAt 0 then some c.lineBreak.2 else none

end Cursor

/-- White space inside a scalar. -/
inductive Gap where
  | blanks (cs : List Char)
  | breaks (first more : List Char)

/-- What white space stands for: a single line feed is folded to a blank, and each further one
stays. -/
def Gap.folded : Gap → List Char
  | blanks cs => cs
  | breaks first more =>
    if first == ['\n'] then if more.isEmpty then [' '] else more
    else first ++ more

/-- Passes over white space. Past the first line a tab may not stand before the column `limit`. -/
def gap? (limit : Nat) : Nat → Gap → Cursor → Option (Gap × Cursor)
  | 0, _, _ => none
  | fuel + 1, gap, c =>
    match c.peek? 0 with
    | none => some (gap, c)
    | some x =>
      if isBlankChar x then
        match gap with
        | .blanks cs => gap? limit fuel (.blanks (cs ++ [x])) (c.skip 1)
        | .breaks _ _ =>
          if x == '\t' && c.column < limit then none else gap? limit fuel gap (c.skip 1)
      else if isBreak x then
        let (text, c) := c.lineBreak
        match gap with
        | .blanks _ => gap? limit fuel (.breaks text []) c
        | .breaks first more => gap? limit fuel (.breaks first (more ++ text)) c
      else some (gap, c)

/-- Passes over white space of any form. -/
def Cursor.gap? (c : Cursor) (limit : Nat) (start : Gap) : Option (Gap × Cursor) :=
  Yaml.gap? limit (c.rest.length + 1) start c

end KubeInventory.Yaml
