import KubeInventory.Check
import KubeInventory.Record

/-! The check that namespaces carry required labels, whatever the values. -/

namespace KubeInventory

/-- Which labels are required, and of which namespaces; if none are named, of all. -/
structure LabelPolicy where
  requiredLabels : List String
  namespaces : List String
  deriving DecidableEq, Repr

namespace LabelPolicy

/-- The kind of the check in configurations. -/
def checkKind : String := "namespace-labels"

/-- Reads a policy, in which each of the two fields may be written once; others are passed over. -/
def ofSpec? (spec : Yaml.Value) : Option LabelPolicy := do
  let [some labels, namespaces] ←
    Record.parts? ["requiredLabels", "namespaces"] (← spec.fields?) | none
  return {
    requiredLabels := ← labels.strings?
    namespaces := ← Record.orElse namespaces [] Yaml.Value.strings? }

def inspects (p : LabelPolicy) (scope : String) : Bool :=
  p.namespaces.isEmpty || p.namespaces.contains scope

/-- The required labels that a namespace lacks, as often as they are required. -/
def missing (p : LabelPolicy) (r : Resource .namespace) : List String :=
  p.requiredLabels.filter fun label => !r.metadata.labels.contains label

/-- The report on one namespace. -/
def verdictOn (p : LabelPolicy) (r : Resource .namespace) : Report :=
  let name := r.metadata.anyName
  let report := match p.missing r with
    | [] => Report.new name Report.passed
    | labels => (Report.new name Report.failed).withDetail "missingLabels" (.strings labels)
  report.withMetadata "kind" "Namespace"

/-- The report on the namespaces of a cluster. -/
def answer (p : LabelPolicy) (check : String) (namespaces : List (Resource .namespace)) : Report :=
  let inspected := namespaces.filter fun r => p.inspects r.metadata.anyName
  ((Report.new check Report.passed).withChildren (inspected.map p.verdictOn)).sortChildren

def check (p : LabelPolicy) (c : Cluster) (name : String) : Check :=
  { name
    outcome := match c.list .namespace "" with
      | .ok namespaces => .ok (p.answer name namespaces)
      | .error e => .error (.listing e) }

/-- Builds the check from its configuration, which must require some label. -/
def factory (c : Cluster) : CheckFactory := fun config =>
  match ofSpec? config.spec with
  | none => .error (.invalidSpec config.name .malformed)
  | some p =>
    if p.requiredLabels.isEmpty then .error (.invalidSpec config.name .noRequiredLabels)
    else .ok (p.check c config.name)

end LabelPolicy

end KubeInventory
