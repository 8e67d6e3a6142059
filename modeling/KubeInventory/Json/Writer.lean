import KubeInventory.Binary64.Decimal
import KubeInventory.Value

/-! Writes values as JSON texts. -/

namespace KubeInventory.Json

/-- The shorter escapes of control characters. -/
def shortEscape? : Char → Option Char
  | '\x08' => some 'b'
  | '\x0c' => some 'f'
  | '\n' => some 'n'
  | '\r' => some 'r'
  | '\t' => some 't'
  | _ => none

def hexDigit (n : Nat) : Char := (Nat.toDigits 16 n).headD '0'

/-- One character inside quotes. Beyond quotes, backslashes and control characters all stand as they
are. -/
def escapeChar (c : Char) : List Char :=
  if c == '"' || c == '\\' then ['\\', c]
  else if ' ' ≤ c then [c]
  else match shortEscape? c with
    | some e => ['\\', e]
    | none => ['\\', 'u', '0', '0', hexDigit (c.toNat / 16), hexDigit (c.toNat % 16)]

def quote (text : String) : List Char := ['"'] ++ text.toList.flatMap escapeChar ++ ['"']

def indentation (level : Nat) : List Char := List.replicate (2 * level) ' '

/-- Lays items out one to a line, indented one level deeper than what surrounds them. -/
def block (opening closing : Char) (level : Nat) (items : List (List Char)) : List Char :=
  let lines := items.map (indentation (level + 1) ++ ·)
  [opening, '\n'] ++ List.intercalate [',', '\n'] lines ++ ['\n'] ++ indentation level ++ [closing]

mutual

/-- A value on lines of its own, two blanks to a level; an empty list or object stays on its line.
-/
def pretty (level : Nat) : Value → List Char
  | .null => "null".toList
  | .bool true => "true".toList
  | .bool false => "false".toList
  | .int n => (toString n).toList
  | .float x => (x.text true).toList
  | .string text => quote text
  | .list [] => ['[', ']']
  | .list items => block '[' ']' level (prettyItems (level + 1) items)
  | .object [] => ['\x7b', '\x7d']
  | .object fields => block '\x7b' '\x7d' level (prettyFields (level + 1) fields)

def prettyItems (level : Nat) : List Value → List (List Char)
  | [] => []
  | v :: rest => pretty level v :: prettyItems level rest

def prettyFields (level : Nat) : List (String × Value) → List (List Char)
  | [] => []
  | (key, v) :: rest => (quote key ++ [':', ' '] ++ pretty level v) :: prettyFields level rest

end

/-- A value as a text of its own. -/
def write (v : Value) : String := String.ofList (pretty 0 v)

end KubeInventory.Json
