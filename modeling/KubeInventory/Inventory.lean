import KubeInventory.Check.Run
import KubeInventory.Cluster.Components
import KubeInventory.Forest.Workloads
import KubeInventory.Namespace

/-! The inventory of a cluster: its components, its namespaces with their policies and workloads,
and the results of checks. -/

namespace KubeInventory

structure Inventory where
  components : Components
  /-- The namespaces by name, or the error that kept them from being listed. -/
  namespaces : Except String (List PolicedNamespace)
  workloads : Workloads
  checks : Option Report
  summary : Summary

namespace Inventory

/-- The orders in which the parts of an inventory are completed. -/
structure Schedule where
  policies : Completion
  workloads : Completion
  checks : Completion

/-- Every part in the order in which it is begun. -/
def Schedule.inOrder : Schedule := ⟨.inOrder, .inOrder, .inOrder⟩

/-- What is found in the namespaces of a cluster. -/
structure Scan where
  namespaces : Except String (List PolicedNamespace)
  workloads : Workloads
  summary : Summary

def sortedByName (namespaces : List PolicedNamespace) : List PolicedNamespace :=
  namespaces.mergeSort fun a b => (compare a.name b.name).isLE

/-- Collects what is in the namespaces that are selected. Policies and workloads each have a pool of
their own. -/
def scanSelected (schedule : Schedule) (c : Cluster) (concurrency : Nat)
    (selected : List (Resource .namespace)) : Scan :=
  let policies :=
    (schedule.policies.order (.ofWanted concurrency) selected).map (PolicedNamespace.collect c)
  let names := selected.map fun r => r.metadata.anyName
  let (forests, summary) := Workloads.populate schedule.workloads concurrency c names
  { namespaces := .ok (sortedByName policies)
    workloads := .listed forests
    summary }

/-- Collects what is in the namespaces that the settings select. -/
def scan (schedule : Schedule) (c : Cluster) (config : Config) : Scan :=
  match c.list .namespace "" with
  | .error e =>
    { namespaces := .error e.message
      workloads := .failed e.message
      summary := .empty }
  | .ok listed =>
    scanSelected schedule c config.collector.concurrency
      (listed.filter fun r => config.selects r.metadata.anyName)

def checksName : String := "Checks"

/-- Runs the checks, if there are to be any. -/
def runChecks (schedule : Schedule) (runner : Option Check.Runner) :
    Except CheckError (Option Report) :=
  match runner with
  | none => .ok none
  | some runner => (runner.run schedule.checks checksName).map some

/-- Takes the inventory of a site. Only a runner without checks keeps it from being taken. -/
def collect (schedule : Schedule) (site : Site) (config : Config) (runner : Option Check.Runner) :
    Except CheckError Inventory := do
  let results ← runChecks schedule runner
  let scan := scan schedule site.cluster config
  return {
    components := .collect site config.cluster
    namespaces := scan.namespaces
    workloads := scan.workloads
    checks := results
    summary := scan.summary }

def namespacesName : String := "Namespaces"

def namespacesReport : Except String (List PolicedNamespace) → Report
  | .ok namespaces =>
    ((Report.new namespacesName Report.complete).withChildren
      (namespaces.map PolicedNamespace.report)).sortChildren
  | .error error => .ofError namespacesName error

def report (i : Inventory) : Report :=
  (Report.new "Cluster Inventory" Report.complete).withChildren
    ([i.components.report, namespacesReport i.namespaces, i.workloads.report] ++ i.checks.toList)

end Inventory

end KubeInventory
