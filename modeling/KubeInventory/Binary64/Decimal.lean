import KubeInventory.Binary64

/-! Floating-point numbers in decimal: the nearest number to a decimal fraction, and the shortest
decimal that reads back as a number. -/

namespace KubeInventory.Binary64

/-- Reads the digits of `digits · 10 ^ exponent`, rounded once. Far outside the range of the format
the power of ten is not computed. -/
def ofDecimal? (negative : Bool) (digits : Nat) (exponent : Int) : Option Binary64 :=
  let size : Int := (Nat.toDigits 10 digits).length + exponent
  if digits == 0 then some (zero negative)
  else if 400 < size then none
  else if size < -400 then some (zero negative)
  else if 0 ≤ exponent then round? negative (digits * Nat.pow 10 exponent.toNat) 1
  else round? negative digits (Nat.pow 10 (-exponent).toNat)

/-- Compares the fraction `a / b` with `c / d`. -/
def compareFractions (a b c d : Nat) : Ordering := compare (a * d) (c * b)

/-- The fraction `10 ^ exponent`. -/
def powerOfTen (exponent : Int) : Nat × Nat :=
  if 0 ≤ exponent then (Nat.pow 10 exponent.toNat, 1) else (1, Nat.pow 10 (-exponent).toNat)

/-- The place of the first digit of a positive fraction: the `p` with `10 ^ p ≤ num / den < 10 ^ (p
+ 1)`. The binary logarithm gives it up to one place either way. -/
def leadingPlace (num den : Nat) : Int :=
  let guess : Int := ((num.log2 : Int) - den.log2) * 30103 / 100000
  let reached (p : Int) : Bool :=
    let (n, d) := powerOfTen p
    (compareFractions n d num den).isLE
  if reached (guess + 1) then guess + 1
  else if reached guess then guess
  else if reached (guess - 1) then guess - 1
  else guess - 2

/-- The ends of the interval of reals that round to a positive number, over a common denominator. -/
def roundingInterval (x : Binary64) : Nat × Nat × Nat :=
  let (n, d) := x.magnitude
  let (unit, unitDen) := (⟨false, 1, x.exponent⟩ : Binary64).magnitude
  -- Below a power of two the spacing halves.
  let below := if x.mantissa == Nat.pow 2 (precision - 1) && minExponent < x.exponent then 1 else 2
  let den := 4 * d * unitDen
  (4 * n * unitDen - below * unit * d, 4 * n * unitDen + 2 * unit * d, den)

/-- Whether the fraction rounds to `x`: the ends of the interval do if the mantissa is even. -/
def readsBack (x : Binary64) (num den : Nat) : Bool :=
  let (low, high, d) := x.roundingInterval
  let left := compareFractions low d num den
  let right := compareFractions num den high d
  if x.mantissa % 2 == 0 then left.isLE && right.isLE else left == .lt && right == .lt

/-- Of the two neighbours of `x` on the grid of whole multiples of `10 ^ place`, the one that reads
back and is nearer; the even one of two equally near. -/
def gridPoint? (x : Binary64) (place : Int) : Option Nat :=
  let (n, d) := x.magnitude
  let (gn, gd) := powerOfTen place
  let lower := n * gd / (d * gn)
  let fits (k : Nat) : Bool := x.readsBack (k * gn) gd
  match fits lower, fits (lower + 1) with
  | false, false => none
  | true, false => some lower
  | false, true => some (lower + 1)
  | true, true =>
    match compareFractions (2 * n * gd) (d * gn) (2 * lower + 1) 1 with
    | .lt => some lower
    | .gt => some (lower + 1)
    | .eq => some (lower + lower % 2)

/-- The digits of a positive number and the place of the last of them, with as few digits as read
back. Seventeen digits always suffice. -/
def shortest (x : Binary64) : Nat × Int :=
  let (n, d) := x.magnitude
  let first := leadingPlace n d
  let places := (List.range 18).map fun (count : Nat) => first - count
  (places.findSome? fun place => (x.gridPoint? place).map fun digits => (digits, place)).getD (0, 0)

/-- Digits without the zeros at their end, and the place of the last of those left. -/
def stripZeros (digits : List Char) (place : Int) : List Char × Int :=
  let kept := (digits.reverse.dropWhile (· == '0')).reverse
  (kept, place + (digits.length - kept.length : Nat))

/-- The shortest decimal that reads back. Numbers with the first digit between the fifth place after
the point and the sixteenth before it are written out, with at least one digit on either side of the
point; others get an exponent. `plus` says whether a positive exponent carries its sign. -/
def text (plus : Bool) (x : Binary64) : String :=
  let sign := if x.negative then "-" else ""
  if x.isZero then sign ++ "0.0"
  else
    let (number, place) := x.shortest
    let (digits, place) := stripZeros (Nat.toDigits 10 number) place
    let count := digits.length
    let first : Int := place + count - 1
    let zeros (n : Int) : List Char := List.replicate n.toNat '0'
    let body : List Char :=
      if first < -5 || 15 < first then
        let fraction := if count ≤ 1 then [] else '.' :: digits.drop 1
        let mark := if first < 0 then "-" else if plus then "+" else ""
        digits.take 1 ++ fraction ++ ['e'] ++ mark.toList ++ Nat.toDigits 10 first.natAbs
      else if 0 ≤ place then digits ++ zeros place ++ ['.', '0']
      else if 0 ≤ first then digits.take (first.toNat + 1) ++ ['.'] ++ digits.drop (first.toNat + 1)
      else ['0', '.'] ++ zeros (-first - 1) ++ digits
    sign ++ String.ofList body

end KubeInventory.Binary64
