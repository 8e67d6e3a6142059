import KubeInventory.Cluster
import KubeInventory.Workload.Controller

/-! The workloads of a namespace as a forest: each object stands below the object that controls it,
and at a root if there is none. -/

namespace KubeInventory

/-- An object of a kind with the objects below it, filed by name. -/
structure Held (kind : Kind) (β : Type) where
  object : Resource kind
  adopted : Dict String β

/-- What is shown as a report of its own. -/
class HasReport (α : Type) where
  report : α → Report

namespace Held

variable {k : Kind} {β : Type}

def ofResource (r : Resource k) : Held k β := ⟨r, ∅⟩

def metadata (h : Held k β) : Metadata := h.object.metadata

instance : HasMetadata (Held k β) := ⟨k, metadata⟩

/-- Files an object under its own name, in place of one that was there. -/
def adopt [HasMetadata β] (h : Held k β) (child : β) : Held k β :=
  { h with adopted := h.adopted.insert (HasMetadata.ownName child) child }

/-- The report of an object with the objects below it in order of their names. -/
def report [HasReport β] (h : Held k β) : Report :=
  h.object.ownReport.withChildren (h.adopted.values.map HasReport.report)

instance [HasReport β] : HasReport (Held k β) := ⟨report⟩

end Held

instance {k : Kind} : HasReport (Resource k) := ⟨Resource.ownReport⟩

/-- An object that can control pods. -/
abbrev PodOwner (kind : Kind) := Held kind (Resource .pod)

/-- The workloads of a namespace: for each kind the objects at the roots, filed by name, and the
listings that failed. -/
structure Forest where
  scope : String
  deployments : Dict String (Held .deployment (PodOwner .replicaSet))
  replicaSets : Dict String (PodOwner .replicaSet)
  replicationControllers : Dict String (PodOwner .replicationController)
  statefulSets : Dict String (PodOwner .statefulSet)
  daemonSets : Dict String (PodOwner .daemonSet)
  cronJobs : Dict String (Held .cronJob (PodOwner .job))
  jobs : Dict String (PodOwner .job)
  pods : Dict String (Resource .pod)
  errors : Dict Kind String

namespace Forest

def new (scope : String) : Forest := ⟨scope, ∅, ∅, ∅, ∅, ∅, ∅, ∅, ∅, ∅⟩

/-- Files objects by name; of several of one name the first stays. -/
def index {α : Type} [HasMetadata α] (objects : List α) : Dict String α :=
  objects.foldl (fun filed x => filed.insertNew (HasMetadata.ownName x) x) ∅

/-- Adds entries of a dictionary to another, in place of those of the same name. -/
def extend {α : Type} (filed more : Dict String α) : Dict String α :=
  more.entries.foldl (fun filed entry => filed.insert entry.1 entry.2) filed

def owners {k : Kind} {β : Type} (objects : List (Resource k)) : List (Held k β) :=
  objects.map Held.ofResource

/-- Adds a listing of workloads to the roots of their kind. An object that replaces another of its
name starts with nothing below it. -/
def load (f : Forest) : (kind : Kind) → List (Resource kind) → Forest
  | .deployment, objects => { f with deployments := extend f.deployments (index (owners objects)) }
  | .replicaSet, objects => { f with replicaSets := extend f.replicaSets (index (owners objects)) }
  | .replicationController, objects =>
    { f with
      replicationControllers := extend f.replicationControllers (index (owners objects)) }
  | .statefulSet, objects =>
    { f with statefulSets := extend f.statefulSets (index (owners objects)) }
  | .daemonSet, objects => { f with daemonSets := extend f.daemonSets (index (owners objects)) }
  | .cronJob, objects => { f with cronJobs := extend f.cronJobs (index (owners objects)) }
  | .job, objects => { f with jobs := extend f.jobs (index (owners objects)) }
  | .pod, objects => { f with pods := extend f.pods (index objects) }
  | _, _ => f

/-- Whether a root of the kind has the name. -/
def hasRoot (f : Forest) (kind : Kind) (name : String) : Bool :=
  match kind with
  | .deployment => f.deployments.contains name
  | .replicaSet => f.replicaSets.contains name
  | .replicationController => f.replicationControllers.contains name
  | .statefulSet => f.statefulSets.contains name
  | .daemonSet => f.daemonSets.contains name
  | .cronJob => f.cronJobs.contains name
  | .job => f.jobs.contains name
  | .pod => f.pods.contains name
  | _ => false

/-- Takes a root away together with all below it. -/
def drop (f : Forest) (kind : Kind) (name : String) : Forest :=
  match kind with
  | .deployment => { f with deployments := f.deployments.erase name }
  | .replicaSet => { f with replicaSets := f.replicaSets.erase name }
  | .replicationController =>
    { f with replicationControllers := f.replicationControllers.erase name }
  | .statefulSet => { f with statefulSets := f.statefulSets.erase name }
  | .daemonSet => { f with daemonSets := f.daemonSets.erase name }
  | .cronJob => { f with cronJobs := f.cronJobs.erase name }
  | .job => { f with jobs := f.jobs.erase name }
  | .pod => { f with pods := f.pods.erase name }
  | _ => f

/-- Notes a listing that failed. -/
def recordError (f : Forest) (error : FetchError) : Forest :=
  { f with errors := f.errors.insert error.kind error.message }

/-- The number of roots of a kind. -/
def rootCount (f : Forest) : Kind → Nat
  | .deployment => f.deployments.size
  | .replicaSet => f.replicaSets.size
  | .replicationController => f.replicationControllers.size
  | .statefulSet => f.statefulSets.size
  | .daemonSet => f.daemonSets.size
  | .cronJob => f.cronJobs.size
  | .job => f.jobs.size
  | .pod => f.pods.size
  | _ => 0

def reportsOf {α : Type} [HasReport α] (filed : Dict String α) : List Report :=
  filed.values.map HasReport.report

/-- The reports of the roots of a kind, in order of their names. -/
def rootReports (f : Forest) : Kind → List Report
  | .deployment => reportsOf f.deployments
  | .replicaSet => reportsOf f.replicaSets
  | .replicationController => reportsOf f.replicationControllers
  | .statefulSet => reportsOf f.statefulSets
  | .daemonSet => reportsOf f.daemonSets
  | .cronJob => reportsOf f.cronJobs
  | .job => reportsOf f.jobs
  | .pod => reportsOf f.pods
  | _ => []

/-- The group of a kind: its error if its listing failed, or else its roots if there are any. -/
def groupReport? (f : Forest) (kind : Kind) : Option Report :=
  match f.errors.get? kind with
  | some error => some (.ofError kind.groupLabel error)
  | none =>
    if f.rootCount kind == 0 then none
    else some ((Report.new kind.groupLabel Report.complete).withChildren (f.rootReports kind))

/-- The report of a namespace's workloads. -/
def report (f : Forest) : Report :=
  (Report.new f.scope Report.complete).withMetadata "kind" "Namespace"
    |>.withChildren (Kind.workloads.filterMap f.groupReport?)

end Forest

end KubeInventory
