import KubeInventory.Binary64.Decimal
import KubeInventory.Text.Unsigned

/-! JSON texts as they are written: numbers with their digits, fields in order and with repetitions.
-/

namespace KubeInventory.Json

open KubeInventory.Text

/-- A number as written. The digit lists are not empty. -/
structure Numeral where
  negative : Bool
  whole : List Char
  fraction : Option (List Char)
  /-- Whether the exponent is negative, and its digits. -/
  exponent : Option (Bool × List Char)
  deriving BEq, Repr, Inhabited

/-- A string as written; `none` if an escape stands for half of a surrogate pair, for then it is
well formed and yet names no text. -/
abbrev Literal := Option String

inductive Syntax where
  | null
  | bool (b : Bool)
  | number (n : Numeral)
  | string (text : Literal)
  | array (items : List Syntax)
  | object (fields : List (Literal × Syntax))
  deriving BEq, Repr, Inhabited

/-- A number of JSON: whole numbers of 64 bits, signed or not, are exact. -/
inductive Number where
  | int (n : Int)
  | float (x : Binary64)
  deriving DecidableEq, Repr

/-- Takes digits into a word as long as it can hold them, and tells which are left. -/
def fill (word : Nat) : List Char → Nat × List Char
  | [] => (word, [])
  | c :: rest =>
    let next := word * 10 + digitValue c
    if maxWord < next then (word, c :: rest) else fill next rest

/-- The exponent written, up to the limit beyond which it decides the number alone. -/
def exponentValue : Option (Bool × List Char) → Int
  | none => 0
  | some (negative, digits) =>
    let size := digits.foldl (fun n c => min exponentLimit (n * 10 + digitValue c)) 0
    if negative then -(size : Int) else size

/-- Scales digits by a power of ten in floating point. The powers up to `10 ^ 308` are exact to a
rounding; smaller numbers are divided in steps. -/
def scaleByTen (negative : Bool) (digits : Nat) (exponent : Int) : Option Binary64 :=
  let power (k : Nat) : Option Binary64 := Binary64.ofDecimal? false 1 k
  let signed (x : Binary64) : Binary64 := { x with negative := negative }
  let rec divide : Nat → Binary64 → Nat → Option Binary64
    | 0, _, _ => some (Binary64.zero false)
    | fuel + 1, x, k =>
      if k ≤ 308 then (power k).bind x.div?
      else if x.isZero then some x
      else do
        let step ← power 308
        divide fuel (← x.div? step) (k - 308)
  do
    let x ← Binary64.ofNat? digits
    if 0 ≤ exponent then
      if exponent ≤ 308 then return signed (← x.mul? (← power exponent.toNat))
      else if x.isZero then return signed x
      else none
    else return signed (← divide 8 x exponent.natAbs)

/-- The number written, unless it lies beyond the greatest finite one. Only the leading digits that
fit into a word count: further whole digits move the point, further decimals are passed over. -/
def Numeral.number? (n : Numeral) : Option Number :=
  let (word, left) := fill 0 n.whole
  match n.fraction, n.exponent with
  | none, none =>
    if left.isEmpty then
      if !n.negative then some (.int word)
      else if word == 0 || maxMagnitude < word then
        (Binary64.ofNat? word).map fun x => .float { x with negative := true }
      else some (.int (-(word : Int)))
    else (scaleByTen n.negative word left.length).map .float
  | fraction, exponent =>
    let decimals := fraction.getD []
    let (word, unused) := fill word decimals
    let place : Int := (left.length : Int) - (decimals.length - unused.length : Nat)
    (scaleByTen n.negative word (place + exponentValue exponent)).map .float

end KubeInventory.Json
