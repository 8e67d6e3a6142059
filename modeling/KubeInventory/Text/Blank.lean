/-! White space at the ends of a text, and lists written with commas. -/

namespace KubeInventory.Text

/-- The characters with the Unicode property `White_Space`. -/
def isBlank (c : Char) : Bool :=
  let n := c.toNat
  (0x09 ≤ n && n ≤ 0x0D) || n == 0x20 || n == 0x85 || n == 0xA0 || n == 0x1680 ||
    (0x2000 ≤ n && n ≤ 0x200A) || n == 0x2028 || n == 0x2029 || n == 0x202F || n == 0x205F ||
    n == 0x3000

/-- The characters between the first and the last that is not blank. -/
def trimChars (cs : List Char) : List Char :=
  ((cs.dropWhile isBlank).reverse.dropWhile isBlank).reverse

def trim (text : String) : String := String.ofList (trimChars text.toList)

/-- Whether a text holds nothing but white space. -/
def isAllBlank (text : String) : Bool := text.toList.all isBlank

/-- The pieces between the occurrences of a character: one more than there are occurrences. -/
def splitAt (separator : Char) : List Char → List (List Char)
  | [] => [[]]
  | c :: rest =>
    match splitAt separator rest with
    | [] => [[c]]
    | piece :: pieces => if c == separator then [] :: piece :: pieces else (c :: piece) :: pieces

/-- The trimmed pieces between commas, without those that hold nothing. -/
def splitList (text : String) : List String :=
  (((splitAt ',' text.toList).map trimChars).filter fun piece => !piece.isEmpty).map String.ofList

end KubeInventory.Text
