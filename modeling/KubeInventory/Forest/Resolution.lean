import KubeInventory.Forest

/-! Resolution of ownership: objects at the roots move below the objects that control them. First
pods move below what can control pods; then replica sets move below deployments, and jobs below
their schedules, with the pods they have. A controller counts only if both its name and its uid are
as the object says, for a later object may have taken the name of one that is gone. -/

namespace KubeInventory

/-- How many objects moved, and which have a controller that was not found. -/
structure Summary where
  adopted : Nat
  orphans : List Ref
  deriving DecidableEq, Repr

namespace Summary

def empty : Summary := ⟨0, []⟩

def merge (a b : Summary) : Summary := ⟨a.adopted + b.adopted, a.orphans ++ b.orphans⟩

end Summary

/-- The state of a pass: the parents, the children that stay at the roots, and the summary. -/
structure Settling (P β : Type) where
  parents : P
  left : Dict String β
  summary : Summary

namespace Settling

variable {P β : Type} [HasMetadata β]

def stay (s : Settling P β) (name : String) (child : β) : Settling P β :=
  { s with left := s.left.insert name child }

/-- Moves one child if it has a controller that takes it, and leaves it at its root otherwise. -/
def step (adopt? : OwnerReference → β → P → Option P) (s : Settling P β) (entry : String × β) :
    Settling P β :=
  match (HasMetadata.metadata entry.2).controller? with
  | none => s.stay entry.1 entry.2
  | some link =>
    match adopt? link entry.2 s.parents with
    | some parents =>
      { s with parents := parents, summary := { s.summary with adopted := s.summary.adopted + 1 } }
    | none =>
      { s.stay entry.1 entry.2 with
        summary := { s.summary with orphans := s.summary.orphans ++ [HasMetadata.ref entry.2] } }

/-- Settles children in the order given. -/
def run (adopt? : OwnerReference → β → P → Option P) (parents : P) (entries : List (String × β)) :
    Settling P β :=
  entries.foldl (step adopt?) ⟨parents, ∅, .empty⟩

end Settling

namespace Forest

/-- Adopts a child into the parent of the name and uid that the link gives. -/
def adoptInto {k : Kind} {β : Type} [HasMetadata β] (parents : Dict String (Held k β))
    (link : OwnerReference) (child : β) : Option (Dict String (Held k β)) :=
  match parents.get? link.name with
  | some parent =>
    if parent.metadata.uid == some link.uid then
      some (parents.insert link.name (parent.adopt child))
    else none
  | none => none

/-- Adopts a child into a parent of one kind of owner. -/
def adoptUnder {k : Kind} {β : Type} [HasMetadata β] (link : OwnerReference) (child : β)
    (parents : Dict String (Held k β)) : Option (Dict String (Held k β)) :=
  if link.kind == k.name then adoptInto parents link child else none

/-- Adopts a pod into the owner that its link gives, among the roots of the link's kind. -/
def adoptPod? (link : OwnerReference) (pod : Resource .pod) (f : Forest) : Option Forest :=
  match Kind.ofName? link.kind with
  | some .replicaSet =>
    (adoptInto f.replicaSets link pod).map fun parents => { f with replicaSets := parents }
  | some .replicationController =>
    (adoptInto f.replicationControllers link pod).map fun parents =>
      { f with replicationControllers := parents }
  | some .daemonSet =>
    (adoptInto f.daemonSets link pod).map fun parents => { f with daemonSets := parents }
  | some .statefulSet =>
    (adoptInto f.statefulSets link pod).map fun parents => { f with statefulSets := parents }
  | some .job => (adoptInto f.jobs link pod).map fun parents => { f with jobs := parents }
  | _ => none

/-- Moves pods below their owners. -/
def settlePods (f : Forest) : Forest × Summary :=
  let settled := Settling.run adoptPod? f f.pods.entries
  ({ settled.parents with pods := settled.left }, settled.summary)

/-- Moves replica sets below their deployments. -/
def settleReplicaSets (f : Forest) : Forest × Summary :=
  let settled := Settling.run adoptUnder f.deployments f.replicaSets.entries
  ({ f with deployments := settled.parents, replicaSets := settled.left }, settled.summary)

/-- Moves jobs below their schedules. -/
def settleJobs (f : Forest) : Forest × Summary :=
  let settled := Settling.run adoptUnder f.cronJobs f.jobs.entries
  ({ f with cronJobs := settled.parents, jobs := settled.left }, settled.summary)

/-- Resolves the ownership of all roots. -/
def resolve (f : Forest) : Forest × Summary :=
  let (f, pods) := f.settlePods
  let (f, replicaSets) := f.settleReplicaSets
  let (f, jobs) := f.settleJobs
  (f, (pods.merge replicaSets).merge jobs)

/-- Adds the outcome of a listing: its objects, or the error that it failed with. -/
def addListing (f : Forest) (kind : Kind) (listing : Listing (Resource kind)) : Forest :=
  match listing with
  | .ok objects => f.load kind objects
  | .error e => f.recordError e

/-- Lists the workloads of a namespace, without resolving their ownership. -/
def list (c : Cluster) (scope : String) : Forest :=
  Kind.workloads.foldl (fun f kind => f.addListing kind (c.list kind scope)) (new scope)

/-- Lists the workloads of a namespace and resolves their ownership. -/
def populate (c : Cluster) (scope : String) : Forest × Summary := (list c scope).resolve

end Forest

end KubeInventory
