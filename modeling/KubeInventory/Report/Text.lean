import KubeInventory.Json.Decode
import KubeInventory.Json.Writer
import KubeInventory.Report
import KubeInventory.Yaml.Decode

/-! The two text formats of reports. A report is a record of five fields; on writing all but the
name are left out when they are empty, and on reading they may be missing. -/

namespace KubeInventory.Report

def fieldNames : List String := ["name", "status", "meta", "details", "items"]

mutual

/-- The record that a report is written as. -/
def value : Report → Value
  | ⟨name, status, metadata, details, children⟩ =>
    .object <|
      [("name", .string name)] ++
      (if status.isEmpty then [] else [("status", .string status)]) ++
      (if metadata.isEmpty then [] else [("meta", .ofStringDict metadata)]) ++
      (if details.isEmpty then [] else [("details", .ofDict details)]) ++
      (if children.isEmpty then [] else [("items", .list (values children))])

def values : List Report → List Value
  | [] => []
  | r :: rest => value r :: values rest

end

/-- Reads the entries of a dictionary of texts. -/
def metadataOfJson? (depth : Nat) (j : Json.Syntax) : Option (Dict String String) :=
  match depth with
  | 0 => none
  | _ + 1 => do
    let fields ← j.fields?
    return .ofList (← fields.mapM fun field => field.2.string?.map (field.1, ·))

def detailsOfJson? (depth : Nat) (j : Json.Syntax) : Option (Dict String Value) :=
  match depth with
  | 0 => none
  | depth + 1 => do
    let fields ← j.fields?
    return .ofList (← fields.mapM fun field => (field.2.value? depth).map (field.1, ·))

/-- Reads a report from a JSON value. `depth` bounds the nesting. -/
def ofJson? : Nat → Json.Syntax → Option Report
  | 0, _ => none
  | depth + 1, j => do
    let [some name, status, metadata, details, items] ← j.record? fieldNames | none
    let name ← name.string?
    let status ← Record.orElse status "" Json.Syntax.string?
    let metadata ← Record.orElse metadata ∅ (metadataOfJson? depth)
    let details ← Record.orElse details ∅ (detailsOfJson? depth)
    let children ← Record.orElse items [] fun items =>
      match depth with
      | 0 => none
      | depth + 1 => items.array?.bind fun items => items.mapM (ofJson? depth)
    return ⟨name, status, metadata, details, children⟩

def metadataOfYaml? (depth : Nat) (n : Yaml.Node) : Option (Dict String String) :=
  match depth with
  | 0 => none
  | _ + 1 => do
    let fields ← n.fields?
    return .ofList (← fields.mapM fun field => field.2.text?.map (field.1, ·))

def detailsOfYaml? (depth : Nat) (n : Yaml.Node) : Option (Dict String Value) :=
  match depth with
  | 0 => none
  | depth + 1 => do
    let fields ← n.fields?
    return .ofList (← fields.mapM fun field => (field.2.json? depth).map (field.1, ·))

/-- Reads a report from a YAML node. `depth` bounds the nesting. -/
def ofYaml? : Nat → Yaml.Node → Option Report
  | 0, _ => none
  | depth + 1, n => do
    let [some name, status, metadata, details, items] ← n.record? fieldNames | none
    let name ← name.text?
    let status ← Record.orElse status "" Yaml.Node.text?
    let metadata ← Record.orElse metadata ∅ (metadataOfYaml? depth)
    let details ← Record.orElse details ∅ (detailsOfYaml? depth)
    let children ← Record.orElse items [] fun items =>
      match depth with
      | 0 => none
      | depth + 1 => items.items?.bind fun items => items.mapM (ofYaml? depth)
    return ⟨name, status, metadata, details, children⟩

/-- The formats of report files. -/
inductive Format where
  | yaml
  | json
  deriving DecidableEq, Repr

/-- The text of a report. The JSON text ends its last line. -/
def write (format : Format) (r : Report) : String :=
  match format with
  | .yaml => Yaml.write (.ofJson r.value)
  | .json => Json.write r.value ++ "\n"

/-- Reads the text of a report. -/
def read? (format : Format) (text : String) : Option Report :=
  match format with
  | .yaml => (Yaml.Node.read text).bind (ofYaml? Yaml.depthLimit)
  | .json => (Json.read text).bind (ofJson? Json.depthLimit)

end KubeInventory.Report
