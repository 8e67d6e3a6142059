import KubeInventory.Binary64
import KubeInventory.Value

/-! The values of YAML: those of JSON, and beside them numbers that are not finite, keys of any type
in the order written, and tags. -/

namespace KubeInventory.Yaml

/-- A floating-point number that need not be finite. -/
inductive Real where
  | finite (x : Binary64)
  | infinity (negative : Bool)
  | nan
  deriving DecidableEq, Repr, Inhabited

inductive Value where
  | null
  | bool (b : Bool)
  | int (n : Int)
  | float (x : Real)
  | string (text : String)
  | list (items : List Value)
  | mapping (entries : List (Value × Value))
  | tagged (tag : String) (value : Value)
  deriving Repr, Inhabited

/-- Whether two numbers are equal, as zeros of either sign are, and numbers that are none. -/
def Real.agrees (x y : Real) : Bool :=
  match x, y with
  | .finite a, .finite b => a == b || (a.isZero && b.isZero)
  | _, _ => x == y

namespace Value

mutual

/-- Whether two values mean the same: the entries of mappings may stand in different orders. -/
def agrees : Value → Value → Bool
  | null, null => true
  | bool a, bool b => a == b
  | int m, int n => m == n
  | float x, float y => x.agrees y
  | string a, string b => a == b
  | list xs, list ys => agreeingItems xs ys
  | mapping xs, mapping ys => xs.length == ys.length && containedEntries xs ys
  | tagged a v, tagged b w => a == b && agrees v w
  | _, _ => false

def agreeingItems : List Value → List Value → Bool
  | [], [] => true
  | v :: vs, w :: ws => agrees v w && agreeingItems vs ws
  | _, _ => false

/-- Whether each entry of the first list has one in the second that means the same. -/
def containedEntries : List (Value × Value) → List (Value × Value) → Bool
  | [], _ => true
  | (key, v) :: rest, entries =>
    (entries.any fun entry => agrees key entry.1 && agrees v entry.2) &&
      containedEntries rest entries

end

instance : BEq Value := ⟨agrees⟩

def isNull : Value → Bool
  | null => true
  | _ => false

mutual

def ofJson : KubeInventory.Value → Value
  | .null => null
  | .bool b => bool b
  | .int n => int n
  | .float x => float (.finite x)
  | .string text => string text
  | .list items => list (ofJsonItems items)
  | .object fields => mapping (ofJsonFields fields)

def ofJsonItems : List KubeInventory.Value → List Value
  | [] => []
  | v :: rest => ofJson v :: ofJsonItems rest

def ofJsonFields : List (String × KubeInventory.Value) → List (Value × Value)
  | [] => []
  | (key, v) :: rest => (string key, ofJson v) :: ofJsonFields rest

end

/-- A value without the tag that it may have. -/
def untagged : Value → Value
  | tagged _ v => untagged v
  | v => v

def string? (v : Value) : Option String :=
  match v.untagged with
  | string text => some text
  | _ => none

/-- The texts of a list; null counts as a list of none. -/
def strings? (v : Value) : Option (List String) :=
  match v.untagged with
  | list items => items.mapM string?
  | null => some []
  | _ => none

/-- The fields of a mapping, whose keys must be texts. -/
def fields? (v : Value) : Option (List (String × Value)) :=
  match v.untagged with
  | mapping entries => entries.mapM fun entry => entry.1.string?.map (·, entry.2)
  | _ => none

/-- A mapping with text for keys. -/
def record (fields : List (String × Value)) : Value :=
  mapping (fields.map fun field => (string field.1, field.2))

def strings (texts : List String) : Value := list (texts.map string)

end Value

end KubeInventory.Yaml
