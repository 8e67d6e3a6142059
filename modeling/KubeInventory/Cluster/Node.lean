import KubeInventory.Cluster
import KubeInventory.Workload.Controller

/-! The nodes of a cluster and their reports. -/

namespace KubeInventory

namespace Resource

/-- Whether no new pods are to run on the node. -/
def isUnschedulable (r : Resource .node) : Bool :=
  ((r.specField? "unschedulable").bind Value.bool?).getD false

/-- The conditions that a node meets, and whether it takes new pods. -/
def nodeStatus (r : Resource .node) : String :=
  let conditions := match trueConditions (r.statusField? "conditions") with
    | [] => [Report.unknown]
    | conditions => conditions
  ",".intercalate (conditions ++ if r.isUnschedulable then ["SchedulingDisabled"] else [])

/-- Quantities by resource; none if the field is missing. -/
def quantitiesDetail (v : Option Value) : Value := .ofFields ((v.bind Value.fields?).getD [])

def resourcesDetail (r : Resource .node) : Value :=
  .ofFields [("allocatable", quantitiesDetail (r.statusField? "allocatable")),
    ("capacity", quantitiesDetail (r.statusField? "capacity"))]

/-- A text that is not empty. -/
def nonemptyText? (v : Option Value) : Option Value :=
  v.filter fun
    | .string text => !text.isEmpty
    | _ => true

def nodeReport (r : Resource .node) : Report :=
  (Report.new r.metadata.ownName r.nodeStatus)
    |>.withDetail "conditions" (.orNull (r.statusField? "conditions"))
    |>.withDetail "images" (.orNull (r.statusField? "images"))
    |>.withDetail "resources" r.resourcesDetail
    |>.withDetail "addresses" (.orNull (r.statusField? "addresses"))
    |>.withDetail "volumesInUse" (.orNull (r.statusField? "volumesInUse"))
    |>.withDetail "volumesAttached" (.orNull (r.statusField? "volumesAttached"))
    |>.withDetail "nodeInfo" (.orNull (r.statusField? "nodeInfo"))
    |>.withDetail "podCIDR" (.orNull (r.specField? "podCIDR"))
    |>.withDetail "unschedulable" (.string (toString r.isUnschedulable))
    |>.withOptionalDetail "podCIDRs" (nonempty? (r.specField? "podCIDRs"))
    |>.withOptionalDetail "providerID" (nonemptyText? (r.specField? "providerID"))
    |>.withOptionalDetail "taints" (nonempty? (r.specField? "taints"))
    |>.withOptionalDetail "labels" r.labels?

end Resource

/-- The nodes of a cluster by name, or the error that kept them from being listed. -/
inductive Nodes where
  | listed (nodes : List (Resource .node))
  | failed (error : String)

namespace Nodes

/-- Nodes by name, those without one first; nodes of one name keep their order. -/
def sorted (nodes : List (Resource .node)) : List (Resource .node) :=
  nodes.mergeSort fun a b => (compare a.metadata.name b.metadata.name).isLE

def ofListing : Listing (Resource .node) → Nodes
  | .ok nodes => listed (sorted nodes)
  | .error e => failed e.message

def sectionName : String := "Nodes"

def report : Nodes → Report
  | listed nodes =>
    (Report.new sectionName Report.complete).withChildren (nodes.map Resource.nodeReport)
  | failed error => .ofError sectionName error

end Nodes

end KubeInventory
