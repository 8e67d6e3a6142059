import KubeInventory.Metadata
import KubeInventory.Report
import KubeInventory.Schema.Cluster
import KubeInventory.Schema.Pod
import KubeInventory.Schema.Workload

/-! Cluster objects, each of a kind that its type tells. -/

namespace KubeInventory

/-- The form of the objects of a kind. -/
def Kind.schema : Kind → Schema
  | .namespace => Schema.namespaceObject
  | .node => Schema.node
  | .deployment => Schema.deployment
  | .replicaSet => Schema.replicaSet
  | .replicationController => Schema.replicationController
  | .statefulSet => Schema.statefulSet
  | .daemonSet => Schema.daemonSet
  | .cronJob => Schema.cronJob
  | .job => Schema.job
  | .pod => Schema.pod
  | .limitRange => Schema.limitRange
  | .resourceQuota => Schema.resourceQuota
  | .podDisruptionBudget => Schema.podDisruptionBudget

/-- An object of a kind: its metadata, and in normal form what is wanted of it and what is seen. -/
structure Resource (kind : Kind) where
  metadata : Metadata
  spec : Option Value
  status : Option Value

/-- What has the metadata of an object of a fixed kind. -/
class HasMetadata (α : Type) where
  kind : Kind
  metadata : α → Metadata

namespace HasMetadata

variable {α : Type} [HasMetadata α]

def ownName (x : α) : String := (metadata x).ownName

def ref (x : α) : Ref := .ofMetadata (kind α).name (metadata x)

end HasMetadata

namespace Resource

variable {k : Kind}

instance : HasMetadata (Resource k) := ⟨k, metadata⟩

/-- Reads an object as listed. -/
def ofValue (k : Kind) (v : Value) : Resource k :=
  let v := k.schema.normal v
  { metadata := ((v.field? "metadata").map Metadata.ofValue).getD .empty
    spec := v.field? "spec"
    status := v.field? "status" }

/-- A field of what is wanted of the object. -/
def specField? (r : Resource k) (key : String) : Option Value := r.spec.bind (·.field? key)

/-- A field of what is seen of the object. -/
def statusField? (r : Resource k) (key : String) : Option Value := r.status.bind (·.field? key)

/-- A count in the object's status; one that is missing is zero. -/
def statusCount (r : Resource k) (key : String) : Int :=
  ((r.statusField? key).bind Value.int?).getD 0

/-- The number of replicas wanted, one if none is given. -/
def desiredReplicas (r : Resource k) : Int := ((r.specField? "replicas").bind Value.int?).getD 1

/-- The labels that nodes must have for the pods of the object's template. -/
def templateNodeSelector? (r : Resource k) : Option Value := do
  (← (← r.specField? "template").field? "spec").field? "nodeSelector"

/-- The report of an object by itself: its name, its status, its kind, and its uid unless that is
missing or empty. -/
def report (r : Resource k) (status : String) : Report :=
  let base := (Report.new r.metadata.ownName status).withMetadata "kind" k.name
  match r.metadata.uid with
  | some uid => if uid.isEmpty then base else base.withMetadata "uid" uid
  | none => base

/-- The labels, of which there must be some. -/
def labels? (r : Resource k) : Option Value :=
  if r.metadata.labels.isEmpty then none else some (.ofStringDict r.metadata.labels)

end Resource

end KubeInventory
