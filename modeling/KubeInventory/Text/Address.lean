import KubeInventory.Text.Blank
import KubeInventory.Text.Unsigned

/-! Numeric network addresses. -/

namespace KubeInventory.Text

/-- A number from 0 to 255 in decimal, without zeros before it. -/
def isOctet (cs : List Char) : Bool :=
  !cs.isEmpty && cs.length ≤ 3 && cs.all isDigit && (cs.length == 1 || cs.head? != some '0') &&
    cs.foldl (fun n c => n * 10 + digitValue c) 0 ≤ 255

/-- Four octets with points between them. -/
def isAddress4 (cs : List Char) : Bool :=
  let parts := splitAt '.' cs
  parts.length == 4 && parts.all isOctet

/-- A group of one to four hexadecimal digits. -/
def isGroup (cs : List Char) : Bool :=
  !cs.isEmpty && cs.length ≤ 4 && cs.all fun c => (hexValue? c).isSome

/-- The number of groups that pieces between colons make; an address of four octets may stand last
and counts as two. -/
def groupCount? (octetsLast : Bool) : List (List Char) → Option Nat
  | [] => some 0
  | [piece] =>
    if isGroup piece then some 1
    else if octetsLast && isAddress4 piece then some 2
    else none
  | piece :: rest => if isGroup piece then (groupCount? octetsLast rest).map (· + 1) else none

/-- The number of groups in a part of an address, which may be empty. -/
def sideCount? (octetsLast : Bool) (cs : List Char) : Option Nat :=
  if cs.isEmpty then some 0 else groupCount? octetsLast (splitAt ':' cs)

/-- What stands before and after the first two colons in a row. -/
def splitGap? : List Char → Option (List Char × List Char)
  | ':' :: ':' :: rest => some ([], rest)
  | c :: rest => (splitGap? rest).map fun (before, after) => (c :: before, after)
  | [] => none

/-- Eight groups with colons between them, of which two colons in a row leave out at least one. -/
def isAddress6 (cs : List Char) : Bool :=
  match splitGap? cs with
  | none => sideCount? true cs == some 8
  | some (before, after) =>
    match sideCount? false before, sideCount? true after with
    | some m, some n => m + n ≤ 7
    | _, _ => false

/-- Whether a host is given by its address. -/
def isAddress (host : String) : Bool := isAddress4 host.toList || isAddress6 host.toList

end KubeInventory.Text
