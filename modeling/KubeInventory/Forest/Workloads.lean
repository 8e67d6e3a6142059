import KubeInventory.Forest.Resolution
import KubeInventory.Pool

/-! The workloads of many namespaces. -/

namespace KubeInventory

/-- The forests of the namespaces by name, or the error that kept the namespaces from being listed.
-/
inductive Workloads where
  | listed (forests : Dict String Forest)
  | failed (error : String)

namespace Workloads

/-- Adds the forest of a namespace and the summary of its resolution; a forest that was there under
the name is replaced. -/
def add (total : Dict String Forest × Summary) (outcome : Forest × Summary) :
    Dict String Forest × Summary :=
  (total.1.insert outcome.1.scope outcome.1, total.2.merge outcome.2)

/-- The forests of namespaces, given in the order in which their listings are completed. -/
def collect (c : Cluster) (scopes : List String) : Dict String Forest × Summary :=
  (scopes.map (Forest.populate c)).foldl add (∅, .empty)

/-- The forests of namespaces, so many of which are listed at a time. -/
def populate (completion : Completion) (concurrency : Nat) (c : Cluster) (scopes : List String) :
    Dict String Forest × Summary :=
  collect c (completion.order (.ofWanted concurrency) scopes)

def sectionName : String := "Namespaced Workloads"

def report : Workloads → Report
  | listed forests =>
    (Report.new sectionName Report.complete).withChildren (forests.values.map Forest.report)
  | failed error => .ofError sectionName error

end Workloads

end KubeInventory
