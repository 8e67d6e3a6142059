import KubeInventory.Json.Reader
import KubeInventory.Record
import KubeInventory.Value

/-! What JSON texts mean: free values, and records with declared fields. -/

namespace KubeInventory.Json

/-- How deep arrays and objects may be nested where a value is decoded. Parts that are passed over
may be deeper. -/
def depthLimit : Nat := 127

/-- The value written, with objects in key order and the last of repeated fields. `depth` bounds the
nesting. -/
def Syntax.value? : Nat → Syntax → Option Value
  | _, .null => some .null
  | _, .bool b => some (.bool b)
  | _, .number n => n.number?.map fun
    | .int n => .int n
    | .float x => .float x
  | _, .string text => text.map .string
  | 0, .array _ => none
  | depth + 1, .array items => (items.mapM (value? depth)).map .list
  | 0, .object _ => none
  | depth + 1, .object fields => do
    let pairs ← fields.mapM fun field => do return (← field.1, ← value? depth field.2)
    return .ofFields pairs

/-- Reads a text as a free value. -/
def readValue (text : String) : Option Value := (read text).bind (Syntax.value? depthLimit)

def Syntax.string? : Syntax → Option String
  | .string text => text
  | _ => none

def Syntax.bool? : Syntax → Option Bool
  | .bool b => some b
  | _ => none

def Syntax.array? : Syntax → Option (List Syntax)
  | .array items => some items
  | _ => none

/-- The fields of an object with text for keys. -/
def Syntax.fields? : Syntax → Option (List (String × Syntax))
  | .object fields => fields.mapM fun field => field.1.map (·, field.2)
  | _ => none

/-- The parts of a record by the order of its declared fields, each absent or written once. A record
is an object, in which fields of other names are passed over, or an array of the first fields. -/
def Syntax.record? (names : List String) : Syntax → Option (List (Option Syntax))
  | .array items =>
    if names.length < items.length then none
    else some (items.map some ++ List.replicate (names.length - items.length) none)
  | .object fields => do
    let pairs ← (Syntax.object fields).fields?
    Record.parts? names pairs
  | _ => none

end KubeInventory.Json
