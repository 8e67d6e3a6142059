import KubeInventory.Record
import KubeInventory.Yaml.Node

/-! What YAML documents mean: free values, and records with declared fields. -/

namespace KubeInventory.Yaml

/-- How deep lists and mappings may be nested. -/
def depthLimit : Nat := 128

namespace Node

def coreTag (name : String) : String := "tag:yaml.org,2002:" ++ name

/-- A tag of the document's own, which starts with an exclamation mark. -/
def isLocalTag (tag : String) : Bool := tag.startsWith "!"

/-- A whole number of 64 bits, signed or not. -/
def word? (n : Int) : Option Value :=
  if -(Text.maxMagnitude : Int) ≤ n && n ≤ (Text.maxWord : Int) then some (.int n) else none

/-- What a plain scalar without a tag means. -/
def plainValue? (text : String) : Option Value :=
  match resolve text with
  | .null => some .null
  | .bool b => some (.bool b)
  | .int n => word? n
  | .float x => some (.float x)
  | .text => some (.string text)

/-- What a scalar with a tag of the language means: a plain scalar would read as that type, and any
other tag makes it a text. -/
def coreValue? (tag text : String) : Option Value :=
  if tag == coreTag "bool" then (bool? text).map .bool
  else if tag == coreTag "int" then (int? text.toList).bind word?
  else if tag == coreTag "float" then (float? text).map .float
  else if tag == coreTag "null" then if isNull text then some .null else none
  else some (.string text)

def untaggedScalar? (style : Style) (text : String) : Option Value :=
  if style == .plain then plainValue? text else some (.string text)

/-- Marks a value with a tag of the document's own. -/
def withTag (tag : Option String) (v : Value) : Value :=
  match tag with
  | some tag => if isLocalTag tag then .tagged tag v else v
  | none => v

/-- Whether no key occurs twice. -/
def distinctKeys : List (Value × Value) → Bool
  | [] => true
  | (key, _) :: rest => !(rest.any fun entry => entry.1 == key) && distinctKeys rest

/-- The free value of a node. `depth` bounds the nesting. -/
def value? : Nat → Node → Option Value
  | _, .scalar none style text => untaggedScalar? style text
  | _, .scalar (some tag) style text =>
    if isLocalTag tag then (untaggedScalar? style text).map (.tagged tag)
    else coreValue? tag text
  | 0, .list _ _ => none
  | depth + 1, .list tag items =>
    (items.mapM (value? depth)).map fun items => withTag tag (.list items)
  | 0, .mapping _ _ => none
  | depth + 1, .mapping tag entries => do
    let pairs ← entries.mapM fun entry => do
      return (← value? depth entry.1, ← value? depth entry.2)
    guard (distinctKeys pairs)
    return withTag tag (.mapping pairs)
  | _, .nothing => some .null
  | _, .endless => none

/-- The text of any scalar, whatever it would mean. -/
def text? : Node → Option String
  | .scalar _ _ text => some text
  | _ => none

/-- Whether nothing stands where a value could. -/
def isEmpty : Node → Bool
  | .scalar _ .plain text => text.isEmpty
  | .nothing => true
  | _ => false

/-- The text of an optional field, which nothing or a plain null unsets. -/
def optionalText? : Node → Option (Option String)
  | .scalar tag style text =>
    if style != .plain then some (some text)
    else match tag with
      | some tag =>
        if tag == coreTag "null" then if isNull text then some none else none
        else some (some text)
      | none => if text.isEmpty || isNull text then some none else some (some text)
  | .nothing => some none
  | _ => none

/-- An unsigned number of a word. -/
def wordField? : Node → Option Nat
  | .scalar tag style text =>
    if style == .plain || (style == .literal && tag == some (coreTag "int")) then Yaml.word? text
    else none
  | _ => none

/-- The items of a list; nothing counts as a list of none. -/
def items? : Node → Option (List Node)
  | .list _ items => some items
  | n => if n.isEmpty then some [] else none

/-- The entries of a mapping with text for keys; nothing counts as a mapping of none. -/
def fields? : Node → Option (List (String × Node))
  | .mapping _ entries => entries.mapM fun entry => entry.1.text?.map (·, entry.2)
  | n => if n.isEmpty then some [] else none

/-- The parts of a record by the order of its declared fields, each absent or written once. -/
def record? (names : List String) (n : Node) : Option (List (Option Node)) :=
  n.fields?.bind (Record.parts? names)

/-- The value of a node among those of JSON: keys are texts, of which the last of a repeated one
counts, numbers are finite, and there are no tags of the document's own. -/
def json? : Nat → Node → Option KubeInventory.Value
  | _, .scalar tag style text => do
    let v ← match tag with
      | none => untaggedScalar? style text
      | some tag => if isLocalTag tag then none else coreValue? tag text
    match v with
    | .null => some .null
    | .bool b => some (.bool b)
    | .int n => some (.int n)
    | .float (.finite x) => some (.float x)
    | .float _ => some .null
    | .string text => some (.string text)
    | _ => none
  | 0, .list _ _ => none
  | depth + 1, .list tag items => do
    guard (!tag.any isLocalTag)
    return .list (← items.mapM (json? depth))
  | 0, .mapping _ _ => none
  | depth + 1, .mapping tag entries => do
    guard (!tag.any isLocalTag)
    let pairs ← entries.mapM fun entry => do return (← entry.1.text?, ← json? depth entry.2)
    return .ofFields pairs
  | _, .nothing => some .null
  | _, .endless => none

end Node

end KubeInventory.Yaml
