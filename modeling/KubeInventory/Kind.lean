/-! The kinds of cluster object that an inventory covers, and the two ways to read one: by its exact
name, and loosely as it is written on a command line. -/

namespace KubeInventory

/-- The constructors stand in report order: cluster-wide kinds, then workloads from owners to owned,
then the policies of a namespace. -/
inductive Kind where
  | namespace
  | node
  | deployment
  | replicaSet
  | replicationController
  | statefulSet
  | daemonSet
  | cronJob
  | job
  | pod
  | limitRange
  | resourceQuota
  | podDisruptionBudget
  deriving DecidableEq, Repr, Inhabited

namespace Kind

def all : List Kind :=
  [.namespace, .node, .deployment, .replicaSet, .replicationController, .statefulSet, .daemonSet,
    .cronJob, .job, .pod, .limitRange, .resourceQuota, .podDisruptionBudget]

/-- The kinds that run pods, in the order in which a namespace report groups them. -/
def workloads : List Kind :=
  [.deployment, .replicaSet, .replicationController, .statefulSet, .daemonSet, .cronJob, .job, .pod]

def isWorkload (kind : Kind) : Bool := workloads.contains kind

/-- The place in report order. -/
def rank (kind : Kind) : Nat := kind.ctorIdx

theorem rank_injective {a b : Kind} (h : a.rank = b.rank) : a = b := by
  cases a <;> cases b <;> first | rfl | (exact absurd h (by decide))

instance : Ord Kind := ⟨fun a b => compare a.rank b.rank⟩

instance : Std.TransOrd Kind where
  eq_swap {a b} := (Std.OrientedOrd.eq_swap : compare a.rank b.rank = (compare b.rank a.rank).swap)
  isLE_trans {_ _ _} h k := (Std.TransOrd.isLE_trans h k : (compare (rank _) (rank _)).isLE)

instance : Std.LawfulEqOrd Kind where
  compare_self {a} := (Std.ReflOrd.compare_self : compare a.rank a.rank = .eq)
  eq_of_compare {a b} h :=
    rank_injective (Std.LawfulEqOrd.eq_of_compare (h : compare a.rank b.rank = .eq))

/-- The name as it stands in an object's `kind` field. -/
def name : Kind → String
  | .namespace => "Namespace"
  | .node => "Node"
  | .deployment => "Deployment"
  | .replicaSet => "ReplicaSet"
  | .replicationController => "ReplicationController"
  | .statefulSet => "StatefulSet"
  | .daemonSet => "DaemonSet"
  | .cronJob => "CronJob"
  | .job => "Job"
  | .pod => "Pod"
  | .limitRange => "LimitRange"
  | .resourceQuota => "ResourceQuota"
  | .podDisruptionBudget => "PodDisruptionBudget"

/-- The heading under which a report gathers the objects of the kind. -/
def groupLabel : Kind → String
  | .namespace => "Namespaces"
  | .node => "Nodes"
  | .deployment => "Deployments"
  | .replicaSet => "Replica Sets"
  | .replicationController => "Replication Controllers"
  | .statefulSet => "Stateful Sets"
  | .daemonSet => "Daemon Sets"
  | .cronJob => "Cron Jobs"
  | .job => "Jobs"
  | .pod => "Pods"
  | .limitRange => "Limit Ranges"
  | .resourceQuota => "Resource Quotas"
  | .podDisruptionBudget => "Pod Disruption Budgets"

/-- The short name that is customary on a command line. -/
def shortName? : Kind → Option String
  | .namespace => some "ns"
  | .node => some "no"
  | .deployment => some "deploy"
  | .replicaSet => some "rs"
  | .replicationController => some "rc"
  | .statefulSet => some "sts"
  | .daemonSet => some "ds"
  | .cronJob => some "cj"
  | .job => none
  | .pod => some "po"
  | .limitRange => some "limits"
  | .resourceQuota => some "quota"
  | .podDisruptionBudget => some "pdb"

/-- Reads a kind by its exact name. -/
def ofName? (text : String) : Option Kind := all.find? fun kind => kind.name == text

def unknownMessage (text : String) : String := s!"Unknown resource kind: {text}"

/-- Reads a kind by its name in the singular or plural, or by its short name, in any case. Only
ASCII letters are folded: no other character folds to a letter that one of these words has. -/
def ofWord? (text : String) : Option Kind :=
  let word := text.map Char.toLower
  all.find? fun kind =>
    let singular := kind.name.map Char.toLower
    word == singular || word == singular ++ "s" || some word == kind.shortName?

theorem ofName?_name (kind : Kind) : ofName? kind.name = some kind := by
  cases kind <;> decide +kernel

end Kind

end KubeInventory
