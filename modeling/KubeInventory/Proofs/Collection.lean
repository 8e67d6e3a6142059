import KubeInventory.Inventory
import KubeInventory.Proofs.Keys
import KubeInventory.Proofs.Rendering
import KubeInventory.Proofs.Workloads
import Mathlib.Order.Compare

/-! Taking the inventory of a site. Only a runner without checks keeps it from being taken; a
listing that fails leaves a mark in the sections that show it. The namespaces that are covered stand
in two sections, each with what it has by itself, whatever the order in which they are done. -/

namespace KubeInventory

open HasMetadata (ownName)

/-- A runner that has checks always has a report, for its pool has each of them done once. -/
theorem Check.Runner.run_eq (completion : Completion) (name : String) (r : Check.Runner) :
    r.run completion name =
      if r.checks = [] then .error .noChecks
      else .ok ((Report.new name Report.passed).withChildren
        ((completion.order r.places r.checks).map Check.report)).sortChildren.rollUp := by
  have hLength := (completion.order_perm r.places r.checks).length_eq
  simp [run, summarise, hLength]

/-- Namespaces are covered that are asked for and not left out; to ask for none is to ask for all.
-/
theorem Config.selects_iff {config : Config} {name : String} :
    config.selects name = true ↔
      (config.namespaces = [] ∨ name ∈ config.namespaces) ∧ name ∉ config.excludeNamespaces := by
  simp [selects]

theorem Metadata.ownName_of_name_eq {m : Metadata} {name : String} (h : m.name = some name) :
    m.ownName = name := by
  rw [ownName, h, Option.getD_some]

/-- The two ways to name an object differ only for those that have no name. -/
theorem Metadata.anyName_eq_ownName {m : Metadata} (h : m.name ≠ none) :
    m.anyName = m.ownName := by
  obtain ⟨name, hName⟩ := Option.ne_none_iff_exists'.mp h
  rw [anyName, ownName, hName, Option.some_or]

theorem Report.find?_single (r : Report) (name : String) : r.find? [name] = r.child? name := by
  simp [find?]

theorem Report.find?_pair (r : Report) (first second : String) :
    r.find? [first, second] = (r.child? first).bind (·.child? second) := by
  simp [find?]

namespace PolicedNamespace

variable {k : Kind}

theorem name_withObjects (key : String) (detail : Resource k → Value)
    (objects : List (Resource k)) (report : Report) :
    (withObjects key detail objects report).name = report.name := by
  rw [withObjects]
  split <;> rfl

@[simp] theorem name_report (n : PolicedNamespace) : n.report.name = n.name := by
  rw [report]
  split <;> simp [name_withObjects] <;> rfl

@[simp] theorem name_collect (c : Cluster) (r : Resource .namespace) :
    (collect c r).name = ownName r := rfl

end PolicedNamespace

@[simp] theorem Forest.name_report (f : Forest) : f.report.name = f.scope := rfl

namespace Workloads

theorem name_report (w : Workloads) : w.report.name = "Namespaced Workloads" := by
  cases w <;> rfl

variable {c : Cluster} (completion : Completion) (concurrency : Nat) (scopes : List String)

/-- Each namespace has one report, that of its own forest. -/
theorem children_report_populate :
    (listed (populate completion concurrency c scopes).1).report.children =
      (populate completion concurrency c scopes).1.keys.map
        fun name => (Forest.populate c name).1.report := by
  change (populate completion concurrency c scopes).1.values.map Forest.report = _
  rw [values_populate, List.map_map]
  rfl

theorem names_report_populate :
    (listed (populate completion concurrency c scopes).1).report.children.map Report.name =
      (populate completion concurrency c scopes).1.keys := by
  rw [children_report_populate, List.map_map]
  simp [Function.comp_def, Forest.scope_populate]

end Workloads

@[simp] theorem Nodes.name_report (nodes : Nodes) : nodes.report.name = "Nodes" := by
  cases nodes <;> rfl

@[simp] theorem Cni.name_report (found : Except DiscoveryError Finding) :
    (report found).name = "CNI" := by
  cases found <;> rfl

@[simp] theorem ControlPlane.name_report (found : Except String ControlPlane) :
    (report found).name = "Control Plane" := by
  cases found with
  | error e => rfl
  | ok plane =>
      rw [report, Report.name_withOptionalDetail]
      rfl

/-- The nodes and the control plane are found by name among the parts of a cluster. -/
theorem Components.child?_report (components : Components) :
    components.report.child? "Nodes" = some components.nodes.report ∧
      components.report.child? "Control Plane" =
        some (ControlPlane.report components.controlPlane) := by
  simp [Report.child?, report, Report.withChildren]

namespace Inventory

variable {schedule : Schedule} {site : Site} {config : Config} {runner : Option Check.Runner}
  {i : Inventory}

theorem name_namespacesReport (namespaces : Except String (List PolicedNamespace)) :
    (namespacesReport namespaces).name = "Namespaces" := by
  cases namespaces <;> rfl

/-- The checks fail as a whole only where a runner has none. -/
theorem runChecks_eq_error_iff {e : CheckError} :
    runChecks schedule runner = .error e ↔
      (∃ r, runner = some r ∧ r.checks = []) ∧ e = .noChecks := by
  cases runner with
  | none => simp [runChecks]
  | some r =>
      rw [runChecks, Check.Runner.run_eq]
      split <;> simp_all [Except.map, eq_comm]

theorem map_ok_of_runChecks {results : Option Report}
    (h : runChecks schedule runner = .ok results) :
    results.map .ok = runner.map (Check.Runner.run schedule.checks checksName) := by
  cases runner with
  | none =>
      cases h
      rfl
  | some r =>
      rw [runChecks] at h
      cases hRun : r.run schedule.checks checksName with
      | error e => simp [hRun, Except.map] at h
      | ok report =>
          simp only [hRun, Except.map, Except.ok.injEq] at h
          simp [← h, hRun]

/-- Only the checks can fail, and they have no part in what the other sections show. -/
theorem collect_eq (schedule : Schedule) (site : Site) (config : Config)
    (runner : Option Check.Runner) :
    collect schedule site config runner =
      (runChecks schedule runner).map fun results =>
        { components := .collect site config.cluster
          namespaces := (scan schedule site.cluster config).namespaces
          workloads := (scan schedule site.cluster config).workloads
          checks := results
          summary := (scan schedule site.cluster config).summary } := by
  rw [collect]
  cases runChecks schedule runner <;> rfl

theorem collect_eq_error_iff {e : CheckError} :
    collect schedule site config runner = .error e ↔
      (∃ r, runner = some r ∧ r.checks = []) ∧ e = .noChecks := by
  rw [collect_eq, ← runChecks_eq_error_iff]
  cases runChecks schedule runner <;> simp [Except.map]

/-- An inventory that was taken holds what was collected, and the report of the runner if there was
one. -/
theorem of_collect_eq_ok (h : collect schedule site config runner = .ok i) :
    i.components = .collect site config.cluster ∧
      i.namespaces = (scan schedule site.cluster config).namespaces ∧
      i.workloads = (scan schedule site.cluster config).workloads ∧
      i.summary = (scan schedule site.cluster config).summary ∧
      runChecks schedule runner = .ok i.checks := by
  rw [collect_eq] at h
  cases hResults : runChecks schedule runner with
  | error e => simp [hResults, Except.map] at h
  | ok results =>
      simp only [hResults, Except.map, Except.ok.injEq] at h
      subst h
      exact ⟨rfl, rfl, rfl, rfl, rfl⟩

/-- Each section of a report is found by its name. -/
theorem child?_report (i : Inventory) :
    i.report.child? "Cluster Components" = some i.components.report ∧
      i.report.child? "Namespaces" = some (namespacesReport i.namespaces) ∧
      i.report.child? "Namespaced Workloads" = some i.workloads.report := by
  have hComponents : i.components.report.name = "Cluster Components" := rfl
  simp [Report.child?, report, Report.withChildren, hComponents, name_namespacesReport,
    Workloads.name_report]

section Sections

variable {c : Cluster} {concurrency : Nat}

/-- A failed listing of the namespaces shows in both sections alike. -/
theorem scan_of_error {e : FetchError} (h : c.list .namespace "" = .error e) :
    scan schedule c config = ⟨.error e.message, .failed e.message, .empty⟩ := by
  rw [scan, h]

/-- The listed namespaces that are covered. -/
def covered (config : Config) (listed : List (Resource .namespace)) : List (Resource .namespace) :=
  listed.filter fun r => config.selects r.metadata.anyName

/-- Of the namespaces listed only those that are covered are gone through. -/
theorem scan_of_ok {listed : List (Resource .namespace)} (h : c.list .namespace "" = .ok listed) :
    scan schedule c config =
      scanSelected schedule c config.collector.concurrency (covered config listed) := by
  rw [scan, h]
  rfl

/-- The section on namespaces has the reports of those that are covered, in order of their names. -/
theorem namespacesReport_scanSelected (schedule : Schedule) (c : Cluster) (concurrency : Nat)
    (selected : List (Resource .namespace)) :
    ∃ reports : List Report,
      reports.Perm (selected.map fun r => (PolicedNamespace.collect c r).report) ∧
      namespacesReport (scanSelected schedule c concurrency selected).namespaces =
        (Report.new namespacesName Report.complete).withChildren (Report.sortByName reports) := by
  let policies :=
    (schedule.policies.order (.ofWanted concurrency) selected).map (PolicedNamespace.collect c)
  -- The order of completion and the first of the two sorts only exchange namespaces.
  refine ⟨(sortedByName policies).map PolicedNamespace.report, ?_, rfl⟩
  have hSorted : (sortedByName policies).Perm policies := List.mergeSort_perm _ _
  have hOrder := schedule.policies.order_perm (.ofWanted concurrency) selected
  have hReports := (hSorted.trans (hOrder.map _)).map PolicedNamespace.report
  rwa [List.map_map] at hReports

end Sections

end Inventory

/-- A section that could not be read tells the error and has nothing below it. -/
structure Report.Unread (r : Report) (error : String) : Prop where
  status : r.status = "incomplete"
  error : r.details.get? "error" = some (.string error)
  children : r.children = []

theorem Report.unread_ofError (name error : String) : (Report.ofError name error).Unread error where
  status := rfl
  error := by
    change ((∅ : Dict String Value).insert "error" (.string error)).get? "error" = _
    rw [Dict.get?_insert, if_pos rfl]
  children := rfl

/-- How namespaces stand in the two sections on them, each with what it has by itself, and what the
summary tells of them all. Of several of one name each stands in the first section, and one in the
second. -/
structure ShowsNamespaces (c : Cluster) (shown : List (Resource .namespace))
    (namespaces workloads : Report) (summary : Summary) : Prop where
  namespaces_complete : namespaces.status = "complete"
  workloads_complete : workloads.status = "complete"
  namespaces_named : (namespaces.children.map Report.name).Perm (shown.map ownName)
  namespaces_ordered : (namespaces.children.map Report.name).Pairwise (· ≤ ·)
  policies : namespaces.children.Perm (shown.map fun r => (PolicedNamespace.collect c r).report)
  workloads_named : ∀ name, name ∈ workloads.children.map Report.name ↔ name ∈ shown.map ownName
  workloads_ordered : (workloads.children.map Report.name).Pairwise (· < ·)
  forests : ∀ child ∈ workloads.children, child = (Forest.populate c child.name).1.report
  adopted : summary.adopted = (shown.map fun r => (Forest.populate c (ownName r)).2.adopted).sum
  orphans : summary.orphans.Perm (shown.flatMap fun r => (Forest.populate c (ownName r)).2.orphans)

/-- Namespaces of distinct names stand in both sections alike. -/
theorem ShowsNamespaces.names_eq {c : Cluster} {shown : List (Resource .namespace)}
    {namespaces workloads : Report} {summary : Summary}
    (h : ShowsNamespaces c shown namespaces workloads summary)
    (hDistinct : (shown.map ownName).Nodup) :
    namespaces.children.map Report.name = workloads.children.map Report.name := by
  have hWorkloads : (workloads.children.map Report.name).Perm (shown.map ownName) := by
    rw [List.perm_ext_iff_of_nodup (h.workloads_ordered.imp ne_of_lt) hDistinct]
    exact h.workloads_named
  refine (h.namespaces_named.trans hWorkloads.symm).eq_of_pairwise ?_ h.namespaces_ordered
    (h.workloads_ordered.imp le_of_lt)
  intro a b _ _
  exact le_antisymm

namespace Inventory

variable {schedule : Schedule} {c : Cluster} {concurrency : Nat} {config : Config}
  {listed : List (Resource .namespace)}

/-- The listed namespaces that the settings ask for by name: those to cover, or all of them if there
are none to cover, without those to leave out. -/
def wanted (config : Config) (listed : List (Resource .namespace)) : List (Resource .namespace) :=
  listed.filter fun r =>
    (config.namespaces = [] ∨ ownName r ∈ config.namespaces) ∧
      ownName r ∉ config.excludeNamespaces

/-- Where namespaces have names, covered are those that the settings ask for by these names. -/
theorem covered_eq_wanted (h : ∀ r ∈ listed, r.metadata.name ≠ none) :
    covered config listed = wanted config listed := by
  refine List.filter_congr fun r hr => ?_
  rw [Metadata.anyName_eq_ownName (h r hr), Bool.eq_iff_iff, Config.selects_iff, decide_eq_true_iff]
  rfl

/-- The namespaces gone through stand in both sections, whatever the schedule. -/
theorem showsNamespaces_scanSelected {selected : List (Resource .namespace)}
    (hNamed : ∀ r ∈ selected, r.metadata.name ≠ none) :
    ShowsNamespaces c selected
      (namespacesReport (scanSelected schedule c concurrency selected).namespaces)
      (scanSelected schedule c concurrency selected).workloads.report
      (scanSelected schedule c concurrency selected).summary := by
  have hNames : (selected.map fun r => r.metadata.anyName) = selected.map ownName :=
    List.map_congr_left fun r hr => Metadata.anyName_eq_ownName (hNamed r hr)
  obtain ⟨reports, hReports, hSection⟩ :=
    namespacesReport_scanSelected schedule c concurrency selected
  have hPolicies : (Report.sortByName reports).Perm
      (selected.map fun r => (PolicedNamespace.collect c r).report) :=
    (List.mergeSort_perm reports _).trans hReports
  rw [hSection, scanSelected, hNames]
  constructor
  case namespaces_complete => rfl
  case workloads_complete => rfl
  case namespaces_named =>
    have hMapped := hPolicies.map Report.name
    simp only [List.map_map, Function.comp_def, PolicedNamespace.name_report,
      PolicedNamespace.name_collect] at hMapped
    exact hMapped
  case namespaces_ordered =>
    rw [List.pairwise_map]
    refine (pairwise_mergeSort_key Report.name reports).imp fun hLE => ?_
    exact compare_le_iff_le.mp (Ordering.ne_gt_iff_isLE.mpr hLE)
  case policies => exact hPolicies
  case workloads_named =>
    intro name
    rw [Workloads.names_report_populate]
    exact (Workloads.keys_populate _ _ _).2 name
  case workloads_ordered =>
    rw [Workloads.names_report_populate]
    exact (Workloads.keys_populate _ _ _).1
  case forests =>
    intro child hChild
    rw [Workloads.children_report_populate] at hChild
    obtain ⟨name, -, rfl⟩ := List.mem_map.mp hChild
    rw [Forest.name_report, Forest.scope_populate]
  case adopted =>
    refine (Workloads.adopted_populate _ _ _).trans ?_
    rw [List.map_map]
    rfl
  case orphans =>
    refine (Workloads.orphans_populate_perm _ _ _).trans ?_
    rw [List.flatMap_map]

/-- Taking an inventory fails only for an attached runner without checks. Otherwise the report has
its three sections, and the report of the runner if one was attached. If the namespaces cannot be
listed, both sections on them tell that error and nothing else; if they can be, each by its name,
those that the settings ask for stand in both sections with what they have alone. -/
theorem collect_report_shows_namespaces (schedule : Schedule) (site : Site) (config : Config)
    (runner : Option Check.Runner) :
    (∀ e, collect schedule site config runner = .error e ↔
        (∃ r, runner = some r ∧ r.checks = []) ∧ e = .noChecks) ∧
      ∀ i, collect schedule site config runner = .ok i →
        ∃ (components namespaces workloads : Report) (results : Option Report),
          i.report.name = "Cluster Inventory" ∧ i.report.status = "complete" ∧
          i.report.children = [components, namespaces, workloads] ++ results.toList ∧
          components.name = "Cluster Components" ∧ namespaces.name = "Namespaces" ∧
          workloads.name = "Namespaced Workloads" ∧
          results.map .ok = runner.map (Check.Runner.run schedule.checks "Checks") ∧
          match site.cluster.list .namespace "" with
          | .error e =>
            namespaces.Unread e.message ∧ workloads.Unread e.message ∧ i.summary = .empty
          | .ok listed =>
            (∀ r ∈ listed, r.metadata.name ≠ none) →
              ShowsNamespaces site.cluster (wanted config listed) namespaces workloads
                i.summary := by
  refine ⟨fun e => collect_eq_error_iff, fun i hTaken => ?_⟩
  obtain ⟨-, hNamespaces, hWorkloads, hSummary, hResults⟩ := of_collect_eq_ok hTaken
  refine ⟨i.components.report, namespacesReport i.namespaces, i.workloads.report, i.checks, rfl,
    rfl, rfl, rfl, name_namespacesReport _, Workloads.name_report _, map_ok_of_runChecks hResults,
    ?_⟩
  rw [hNamespaces, hWorkloads, hSummary]
  split
  · rename_i e hFailed
    rw [scan_of_error hFailed]
    exact ⟨Report.unread_ofError _ _, Report.unread_ofError _ _, rfl⟩
  · rename_i listed hListed
    intro hNamed
    rw [scan_of_ok hListed, covered_eq_wanted hNamed]
    exact showsNamespaces_scanSelected fun r hr => hNamed r (List.mem_filter.mp hr).1

/-- A namespace without anything but a name. -/
def bareNamespace (name : String) : Resource .namespace :=
  ⟨{ Metadata.empty with name := some name }, none, none⟩

/-- A site with two namespaces that hold nothing. -/
def bareSite : Site where
  cluster :=
    { list
        | .namespace, _ => .ok [bareNamespace "shop", bareNamespace "default"]
        | _, _ => .ok []
      podsLabelled _ _ _ := .ok [] }
  files := ⟨∅, []⟩
  resolves _ := false

def withoutDefault : Config := { Config.default with excludeNamespaces := ["default"] }

/-- Of the two namespaces only the one that is not left out is shown. -/
theorem collect_report_shows_namespaces_withoutDefault :
    ∃ i components namespaces workloads,
      collect .inOrder bareSite withoutDefault none = .ok i ∧
      i.report.children = [components, namespaces, workloads] ∧
      ShowsNamespaces bareSite.cluster [bareNamespace "shop"] namespaces workloads i.summary := by
  obtain ⟨i, hTaken⟩ : ∃ i, collect .inOrder bareSite withoutDefault none = .ok i := ⟨_, rfl⟩
  obtain ⟨components, namespaces, workloads, results, -, -, hChildren, -, -, -, hResults, hShown⟩ :=
    (collect_report_shows_namespaces .inOrder bareSite withoutDefault none).2 i hTaken
  obtain rfl : results = none := Option.map_eq_none_iff.mp hResults
  exact ⟨i, components, namespaces, workloads, hTaken, hChildren, hShown (by decide)⟩

end Inventory

end KubeInventory
