/-! Unsigned decimal numbers with an upper bound. -/

namespace KubeInventory.Text

/-- Why a text is no number within the bound. -/
inductive NumeralError where
  | empty
  | invalidDigit
  | tooLarge
  deriving DecidableEq, Repr

def NumeralError.message : NumeralError → String
  | .empty => "cannot parse integer from empty string"
  | .invalidDigit => "invalid digit found in string"
  | .tooLarge => "number too large to fit in target type"

/-- The greatest number of 64 bits. -/
def maxWord : Nat := 0xFFFFFFFFFFFFFFFF

/-- The magnitude of the least signed number of 64 bits. -/
def maxMagnitude : Nat := 0x8000000000000000

/-- An exponent beyond which a number in floating point is zero or too great, whatever its digits.
-/
def exponentLimit : Nat := 0x80000000

def isDigit (c : Char) : Bool := '0' ≤ c && c ≤ '9'

def digitValue (c : Char) : Nat := c.toNat - '0'.toNat

/-- The value of a hexadecimal digit of either case. -/
def hexValue? (c : Char) : Option Nat :=
  if isDigit c then some (digitValue c)
  else if 'a' ≤ c && c ≤ 'f' then some (c.toNat - 'a'.toNat + 10)
  else if 'A' ≤ c && c ≤ 'F' then some (c.toNat - 'A'.toNat + 10)
  else none

/-- Reads digits after a number already read, and stops at the first that is no digit or takes the
number above the bound. -/
def readDigits (bound : Nat) (read : Nat) : List Char → Except NumeralError Nat
  | [] => .ok read
  | c :: rest =>
    if !isDigit c then .error .invalidDigit
    else if bound < read * 10 + digitValue c then .error .tooLarge
    else readDigits bound (read * 10 + digitValue c) rest

/-- Reads an unsigned number: ASCII digits, with or without a plus sign before them. -/
def readUnsigned (bound : Nat) (text : String) : Except NumeralError Nat :=
  match text.toList with
  | [] => .error .empty
  | ['+'] => .error .invalidDigit
  | '+' :: digits => readDigits bound 0 digits
  | digits => readDigits bound 0 digits

end KubeInventory.Text
