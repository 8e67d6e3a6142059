import KubeInventory.Cluster

/-! Cluster contents as documents: an object with a list of objects for each kind, and the listings
that fail. -/

namespace KubeInventory

/-- The field of a document that lists the objects of a kind. -/
def Kind.listField : Kind → String
  | .namespace => "namespaces"
  | .node => "nodes"
  | .deployment => "deployments"
  | .replicaSet => "replicaSets"
  | .replicationController => "replicationControllers"
  | .statefulSet => "statefulSets"
  | .daemonSet => "daemonSets"
  | .cronJob => "cronJobs"
  | .job => "jobs"
  | .pod => "pods"
  | .limitRange => "limitRanges"
  | .resourceQuota => "resourceQuotas"
  | .podDisruptionBudget => "disruptionBudgets"

namespace Failure

/-- Reads a failure: a kind, a namespace, and a message, a timeout in milliseconds, or a server's
refusal. -/
def ofValue? (v : Value) : Option Failure := do
  let kind ← Kind.ofName? (v.textField "kind")
  let error ←
    match v.textField? "message", (v.field? "timeoutMs").bind Value.int?, v.field? "api" with
    | some message, _, _ => some (.broken kind message)
    | none, some after, _ => some (.timedOut kind ⟨after.toNat⟩)
    | none, none, some api =>
      some (.refused kind ⟨api.textField "status", api.textField "message", api.textField "reason",
        (((api.field? "code").bind Value.int?).getD 0).toNat⟩)
    | none, none, none => none
  return ⟨v.textField "namespace", error⟩

end Failure

namespace Snapshot

/-- Reads the contents of a cluster; what is missing is empty. -/
def ofValue (v : Value) : Snapshot :=
  { objects := fun kind => (Value.itemsOf (v.field? kind.listField)).map (Resource.ofValue kind)
    failures := (Value.itemsOf (v.field? "failures")).filterMap Failure.ofValue? }

end Snapshot

end KubeInventory
