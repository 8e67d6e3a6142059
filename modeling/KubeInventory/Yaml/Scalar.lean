import KubeInventory.Binary64.Decimal
import KubeInventory.Text.Unsigned
import KubeInventory.Yaml.Value

/-! What a plain scalar means: nothing, a truth value, a number or a text. -/

namespace KubeInventory.Yaml

open KubeInventory.Text

/-- The meaning of a plain scalar. -/
inductive Scalar where
  | null
  | bool (b : Bool)
  | int (n : Int)
  | float (x : Real)
  | text
  deriving DecidableEq, Repr

def isNull (s : String) : Bool := s == "null" || s == "Null" || s == "NULL" || s == "~"

def bool? (s : String) : Option Bool :=
  if s == "true" || s == "True" || s == "TRUE" then some true
  else if s == "false" || s == "False" || s == "FALSE" then some false
  else none

def digitIn? (radix : Nat) (c : Char) : Option Nat :=
  let value? :=
    if isDigit c then some (digitValue c)
    else if 'a' ≤ c && c ≤ 'z' then some (c.toNat - 'a'.toNat + 10)
    else if 'A' ≤ c && c ≤ 'Z' then some (c.toNat - 'A'.toNat + 10)
    else none
  value?.filter (· < radix)

/-- The number that at least one digit makes. -/
def naturalIn? (radix : Nat) (cs : List Char) : Option Nat :=
  if cs.isEmpty then none
  else cs.foldlM (fun n c => (digitIn? radix c).map (n * radix + ·)) 0

/-- Digits that start with a zero which does not count: these are text. -/
def isPaddedNumber (cs : List Char) : Bool :=
  let digits := match cs with
    | '-' :: rest | '+' :: rest => rest
    | _ => cs
  match digits with
  | '0' :: c :: rest => (c :: rest).all isDigit
  | _ => false

/-- A magnitude in hexadecimal, octal, binary or decimal. `whole` is the text with its sign. -/
def magnitude? (whole : List Char) : List Char → Option Nat
  | '0' :: 'x' :: rest => naturalIn? 16 rest
  | '0' :: 'o' :: rest => naturalIn? 8 rest
  | '0' :: 'b' :: rest => naturalIn? 2 rest
  | digits => if isPaddedNumber whole then none else naturalIn? 10 digits

/-- A number without a sign or with a plus sign. -/
def unsigned? (cs : List Char) : Option Nat :=
  match cs with
  | '+' :: rest => magnitude? cs rest
  | _ => magnitude? cs cs

def negative? (cs : List Char) : Option Nat :=
  match cs with
  | '-' :: rest => magnitude? cs rest
  | _ => none

/-- A whole number of at most 128 bits. -/
def int? (cs : List Char) : Option Int :=
  match unsigned? cs with
  | some n => if n < Nat.pow 2 128 then some n else none
  | none => (negative? cs).bind fun n => if n ≤ Nat.pow 2 127 then some (-(n : Int)) else none

/-- An unsigned number of a word, as a field of that type takes it. -/
def word? (s : String) : Option Nat := (unsigned? s.toList).filter (· ≤ maxWord)

/-- The exponent after its mark, up to the limit beyond which it decides the number alone. -/
def exponentOf? (cs : List Char) : Option Int := do
  let (negative, digits) := match cs with
    | '-' :: rest => (true, rest)
    | '+' :: rest => (false, rest)
    | _ => (false, cs)
  guard (!digits.isEmpty && digits.all isDigit)
  let size := digits.foldl (fun n c => min exponentLimit (n * 10 + digitValue c)) 0
  return if negative then -(size : Int) else size

/-- A decimal fraction with digits on at least one side of the point, and an exponent if need be. -/
def decimal? (negative : Bool) (cs : List Char) : Option Binary64 := do
  let (whole, rest) := cs.span isDigit
  let (fraction, rest) := match rest with
    | '.' :: rest => rest.span isDigit
    | _ => ([], rest)
  guard (!(whole.isEmpty && fraction.isEmpty))
  let exponent ← match rest with
    | [] => some 0
    | 'e' :: rest | 'E' :: rest => exponentOf? rest
    | _ => none
  let digits := (whole ++ fraction).foldl (fun n c => n * 10 + digitValue c) 0
  Binary64.ofDecimal? negative digits (exponent - (fraction.length : Int))

def float? (s : String) : Option Real :=
  let unsignedWord := match s.toList with
    | '+' :: rest => String.ofList rest
    | _ => s
  if unsignedWord == ".inf" || unsignedWord == ".Inf" || unsignedWord == ".INF" then
    some (.infinity false)
  else if s == "-.inf" || s == "-.Inf" || s == "-.INF" then some (.infinity true)
  else if s == ".nan" || s == ".NaN" || s == ".NAN" then some .nan
  else
    let value? := match s.toList with
      | '+' :: rest => decimal? false rest
      | '-' :: rest => decimal? true rest
      | cs => decimal? false cs
    value?.map .finite

/-- The meaning of a plain scalar. An empty one is nothing. -/
def resolve (s : String) : Scalar :=
  if s.isEmpty || isNull s then .null
  else match bool? s with
    | some b => .bool b
    | none =>
      match int? s.toList with
      | some n => .int n
      | none =>
        if isPaddedNumber s.toList then .text
        else match float? s with
          | some x => .float x
          | none => .text

end KubeInventory.Yaml
