import KubeInventory.Binary64
import KubeInventory.Dict

/-! The values that a report shows: those of JSON, with whole numbers kept exact. -/

namespace KubeInventory

/-- The fields of an object stand in the order in which they are written. -/
inductive Value where
  | null
  | bool (b : Bool)
  | int (n : Int)
  | float (x : Binary64)
  | string (text : String)
  | list (items : List Value)
  | object (fields : List (String × Value))
  deriving Repr, BEq, Inhabited

namespace Value

def isNull : Value → Bool
  | null => true
  | _ => false

def ofDict (d : Dict String Value) : Value := object d.entries

/-- An object with its fields in key order; of a repeated key the last value stays. -/
def ofFields (fields : List (String × Value)) : Value := ofDict (Dict.ofList fields)

def strings (texts : List String) : Value := list (texts.map string)

def ofStringDict (d : Dict String String) : Value := ofDict (d.map string)

/-- The value of a field; absent from anything but an object. -/
def field? (v : Value) (key : String) : Option Value :=
  match v with
  | object fields => fields.lookup key
  | _ => none

def string? : Value → Option String
  | string text => some text
  | _ => none

def int? : Value → Option Int
  | int n => some n
  | _ => none

def bool? : Value → Option Bool
  | bool b => some b
  | _ => none

def list? : Value → Option (List Value)
  | list items => some items
  | _ => none

def fields? : Value → Option (List (String × Value))
  | object fields => some fields
  | _ => none

def textField? (v : Value) (key : String) : Option String := (v.field? key).bind string?

/-- A text field; empty if missing. -/
def textField (v : Value) (key : String) : String := (v.textField? key).getD ""

/-- The items of a list field; none if missing. -/
def itemsOf (v : Option Value) : List Value := (v.bind list?).getD []

/-- A list of texts, if the field is there. -/
def textsField? (v : Value) (key : String) : Option (List String) :=
  ((v.field? key).bind list?).map (·.filterMap string?)

/-- The value of a field that may be missing, shown as null then. -/
def orNull (v : Option Value) : Value := v.getD .null

def ofText? (text : Option String) : Value := orNull (text.map .string)

def ofTexts? (texts : Option (List String)) : Value := orNull (texts.map .strings)

end Value

end KubeInventory
