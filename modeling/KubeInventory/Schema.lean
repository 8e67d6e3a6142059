import KubeInventory.Text.Timestamp
import KubeInventory.Value

/-! The form of cluster objects. An object as listed may hold fields that are unknown and lack
fields that are required; the form says what is kept of it and what is filled in. -/

namespace KubeInventory

inductive Schema where
  | text
  | number
  | flag
  | time
  /-- Any value, kept as it is. -/
  | free
  | list (item : Schema)
  | dict (item : Schema)
  /-- Fields by name, with whether each is required. -/
  | record (fields : List (String × Bool × Schema))
  deriving Inhabited

namespace Schema

abbrev Field := String × Bool × Schema

def optional (name : String) (form : Schema) : Field := (name, false, form)

def required (name : String) (form : Schema) : Field := (name, true, form)

def texts : Schema := list text

def textDict : Schema := dict text

mutual

/-- What stands for a required value that is missing. -/
def default : Schema → Value
  | text => .string ""
  | number => .int 0
  | flag => .bool false
  | time => .string ""
  | free => .null
  | list _ => .list []
  | dict _ => .object []
  | record fields => .ofFields (defaults fields)

def defaults : List (String × Bool × Schema) → List (String × Value)
  | [] => []
  | (name, isRequired, form) :: rest =>
    if isRequired then (name, default form) :: defaults rest else defaults rest

end

/-- A point in time in its usual form. -/
def normalTime : Value → Value
  | .string written =>
    match Timestamp.ofText? written with
    | some t => .string t.text
    | none => .string written
  | v => v

/-- The fields of an object; none for anything else. -/
def fieldsOf : Value → List (String × Value)
  | .object fields => fields
  | _ => []

mutual

/-- A value in the given form: unknown fields are left out, null stands for a field that is missing,
and required fields that are missing are filled in. -/
def normal : Schema → Value → Value
  | list item, .list items => .list (items.map (normal item))
  | dict item, .object fields => .ofFields (fields.map fun field => (field.1, normal item field.2))
  | record fields, v => .ofFields (normalFields fields (fieldsOf v))
  | time, v => normalTime v
  | _, v => v

def normalFields : List (String × Bool × Schema) → List (String × Value) → List (String × Value)
  | [], _ => []
  | (name, isRequired, form) :: rest, given =>
    let others := normalFields rest given
    match given.lookup name with
    | none | some .null => if isRequired then (name, default form) :: others else others
    | some v => (name, normal form v) :: others

end

end Schema

end KubeInventory
