import KubeInventory.Proofs.Collection
import KubeInventory.Proofs.FailedListing
import KubeInventory.Proofs.Population

/-! What is shown of a namespace depends on the namespace alone. Two inventories that find the same
in it show the same of it, whatever there is in other namespaces and whatever fails there. -/

namespace KubeInventory

open HasMetadata (ownName)

/-- The kinds of the policies that hold in a namespace. -/
def Kind.policies : List Kind := [.limitRange, .resourceQuota, .podDisruptionBudget]

section Listings

variable {c d : Cluster} {scope : String}

theorem Forest.populate_congr
    (h : ∀ kind ∈ Kind.workloads, c.list kind scope = d.list kind scope) :
    Forest.populate c scope = Forest.populate d scope := by
  have hList : list c scope = list d scope := list_congr fun kind hKind f => by rw [h kind hKind]
  rw [populate, populate, hList]

theorem PolicedNamespace.collect_congr {r : Resource .namespace}
    (h : ∀ kind ∈ Kind.policies, c.list kind (ownName r) = d.list kind (ownName r)) :
    PolicedNamespace.collect c r = PolicedNamespace.collect d r := by
  have hLimits := h .limitRange (by decide)
  have hQuotas := h .resourceQuota (by decide)
  have hBudgets := h .podDisruptionBudget (by decide)
  simp only [ownName, HasMetadata.metadata] at hLimits hQuotas hBudgets
  simp only [collect, hLimits, hQuotas, hBudgets]

end Listings

/-- An object that stands directly below another in the forest of a namespace was listed in that
namespace, and so was the other one. -/
theorem Forest.mem_inventory_of_sitsUnder {c : Cluster} {scope : String} {x p : Item}
    (h : (populate c scope).1.SitsUnder x p) : x ∈ inventory c scope ∧ p ∈ inventory c scope := by
  obtain ⟨above, hLineage⟩ := h
  obtain ⟨hAbove, hListed, -⟩ := below_mem_lineages_populate_iff.mp hLineage
  obtain ⟨y, hOwner, hPlace⟩ := mem_lineages_populate.mp hAbove
  obtain rfl : y = p := by rw [← object_place (f := list c scope) y, hPlace]
  exact ⟨hListed, hOwner⟩

/-- In a snapshot, what is listed in a namespace lies in it. -/
theorem Snapshot.scope_of_mem_inventory {s : Snapshot} {scope : String} {x : Item}
    (h : x ∈ Forest.inventory s.cluster scope) : x.metadata.scope = some scope := by
  obtain ⟨kind, hKind, hListed⟩ := List.mem_flatMap.mp h
  obtain ⟨object, hFirst, rfl⟩ := List.mem_map.mp hListed
  have hMem : object ∈ PolicedNamespace.objectsOf (s.list kind scope) :=
    List.mem_of_find?_eq_some (mem_firstOfEachName_iff.mp hFirst)
  have hWide : isClusterWide kind = false := by
    revert hKind
    cases kind <;> decide
  rw [list] at hMem
  split at hMem
  · cases hMem
  · rw [hWide] at hMem
    exact eq_of_beq (List.mem_filter.mp hMem).2

/-- The forest of a namespace is found in the section on workloads by the namespace's name. -/
theorem Workloads.child?_report_populate {c : Cluster} {scopes : List String} {name : String}
    (completion : Completion) (concurrency : Nat) (h : name ∈ scopes) :
    (listed (populate completion concurrency c scopes).1).report.child? name =
      some (Forest.populate c name).1.report := by
  obtain ⟨hOrdered, hKeys⟩ := keys_populate (c := c) completion concurrency scopes
  have hDistinct := names_report_populate (c := c) completion concurrency scopes ▸
    hOrdered.imp ne_of_lt
  refine (find?_key_eq_some_iff hDistinct).mpr ⟨?_, Forest.scope_populate c name⟩
  rw [children_report_populate]
  exact List.mem_map_of_mem ((hKeys name).mpr h)

namespace Inventory

variable {schedule : Schedule} {c : Cluster} {concurrency : Nat}
  {selected : List (Resource .namespace)} {r : Resource .namespace}

/-- A namespace that is the only one of its name is found by it in the section on namespaces. -/
theorem child?_namespacesReport (hOnce : (selected.filter fun s => ownName s == ownName r) = [r]) :
    (namespacesReport (scanSelected schedule c concurrency selected).namespaces).child?
      (ownName r) = some (PolicedNamespace.collect c r).report := by
  obtain ⟨reports, hReports, hSection⟩ :=
    namespacesReport_scanSelected schedule c concurrency selected
  have hSorted : (Report.sortByName reports).Perm reports := List.mergeSort_perm _ _
  have hNamed := (hSorted.trans hReports).filter fun report => report.name == ownName r
  rw [List.filter_map] at hNamed
  simp only [Function.comp_def, PolicedNamespace.name_report] at hNamed
  change (_ : List Report).Perm ((selected.filter fun s => ownName s == ownName r).map _) at hNamed
  rw [hOnce, List.map_singleton, List.perm_singleton] at hNamed
  rw [hSection, Report.child?, ← List.head?_filter]
  exact congrArg List.head? hNamed

section Taken

variable {site : Site} {config : Config} {runner : Option Check.Runner} {i : Inventory}
  {listed : List (Resource .namespace)} {n : String}

/-- A covered namespace, the only one of its name, is shown with what it has alone. -/
theorem find?_report_of_covered (hTaken : collect schedule site config runner = .ok i)
    (hListed : site.cluster.list .namespace "" = .ok listed) (hName : r.metadata.name = some n)
    (hOnce : (listed.filter fun s => ownName s == n) = [r]) (hSelects : config.selects n = true) :
    i.report.find? ["Namespaced Workloads", n] = some (Forest.populate site.cluster n).1.report ∧
      i.report.find? ["Namespaces", n] = some (PolicedNamespace.collect site.cluster r).report := by
  obtain ⟨-, hNamespaces, hWorkloads, -, -⟩ := of_collect_eq_ok hTaken
  obtain ⟨-, hPolicies, hForests⟩ := child?_report i
  obtain rfl : ownName r = n := Metadata.ownName_of_name_eq hName
  have hAny : r.metadata.anyName = ownName r := Metadata.anyName_eq_ownName (by simp [hName])
  have hCovered : ((covered config listed).filter fun s => ownName s == ownName r) = [r] := by
    rw [covered, List.filter_comm, hOnce]
    simp [hAny, hSelects]
  have hMem : r ∈ covered config listed :=
    (List.mem_filter.mp (hCovered ▸ List.mem_singleton_self r)).1
  rw [scan_of_ok hListed] at hNamespaces hWorkloads
  constructor
  · rw [Report.find?_pair, hForests, hWorkloads, ← hAny]
    exact Workloads.child?_report_populate _ _ (List.mem_map_of_mem hMem)
  · rw [Report.find?_pair, hPolicies, hNamespaces]
    exact child?_namespacesReport hCovered

/-- Every object that was adopted in a namespace was listed there, and so was its parent. -/
theorem mem_inventory_of_adopted (hTaken : collect schedule site config runner = .ok i)
    {forests : Dict String Forest} (hForests : i.workloads = .listed forests) {scope : String}
    {forest : Forest} (hForest : forests.get? scope = some forest) {x p : Item}
    (hUnder : forest.SitsUnder x p) :
    x ∈ Forest.inventory site.cluster scope ∧ p ∈ Forest.inventory site.cluster scope := by
  obtain ⟨-, -, hWorkloads, -, -⟩ := of_collect_eq_ok hTaken
  cases hListing : site.cluster.list .namespace "" with
  | error e => simp [scan_of_error hListing, hForests] at hWorkloads
  | ok listed =>
      rw [scan_of_ok hListing, hForests, scanSelected, Workloads.listed.injEq] at hWorkloads
      rw [hWorkloads, Workloads.get?_populate] at hForest
      split at hForest
      · cases hForest
        exact Forest.mem_inventory_of_sitsUnder hUnder
      · cases hForest

/-- In a snapshot an object is adopted only by one that lies in its own namespace. -/
theorem scope_eq_of_adopted {s : Snapshot} (hCluster : site.cluster = s.cluster)
    (hTaken : collect schedule site config runner = .ok i) {forests : Dict String Forest}
    (hForests : i.workloads = .listed forests) {scope : String} {forest : Forest}
    (hForest : forests.get? scope = some forest) {x p : Item} (hUnder : forest.SitsUnder x p) :
    x.metadata.scope = p.metadata.scope := by
  obtain ⟨hObject, hParent⟩ := mem_inventory_of_adopted hTaken hForests hForest hUnder
  rw [hCluster] at hObject hParent
  rw [Snapshot.scope_of_mem_inventory hObject, Snapshot.scope_of_mem_inventory hParent]

end Taken

section TwoRuns

variable {schedule₁ schedule₂ : Schedule} {site₁ site₂ : Site} {config₁ config₂ : Config}
  {runner₁ runner₂ : Option Check.Runner} {i₁ i₂ : Inventory}
  {listed₁ listed₂ : List (Resource .namespace)} {n : String}

/-- Two inventories of different sites, with different settings, show the same of a namespace that
is listed once in both, that both cover, and in which both find the same or fail alike. No object is
adopted by one of another namespace. A namespace without a name counts as one of the empty name. -/
theorem reports_eq_of_same_listings (hTaken₁ : collect schedule₁ site₁ config₁ runner₁ = .ok i₁)
    (hTaken₂ : collect schedule₂ site₂ config₂ runner₂ = .ok i₂)
    (hListed₁ : site₁.cluster.list .namespace "" = .ok listed₁)
    (hListed₂ : site₂.cluster.list .namespace "" = .ok listed₂) (hName : r.metadata.name = some n)
    (hOnce₁ : (listed₁.filter fun s => ownName s == n) = [r])
    (hOnce₂ : (listed₂.filter fun s => ownName s == n) = [r])
    (hSelects₁ : config₁.selects n = true) (hSelects₂ : config₂.selects n = true)
    (hSame : ∀ kind ∈ Kind.workloads ++ Kind.policies,
      site₁.cluster.list kind n = site₂.cluster.list kind n) :
    (∃ child, i₁.report.find? ["Namespaced Workloads", n] = some child ∧
        i₂.report.find? ["Namespaced Workloads", n] = some child) ∧
      (∃ child, i₁.report.find? ["Namespaces", n] = some child ∧
        i₂.report.find? ["Namespaces", n] = some child) ∧
      ∀ forests scope forest, i₁.workloads = .listed forests → forests.get? scope = some forest →
        ∀ x p, forest.SitsUnder x p →
          x ∈ Forest.inventory site₁.cluster scope ∧ p ∈ Forest.inventory site₁.cluster scope := by
  obtain ⟨hWorkloads₁, hPolicies₁⟩ :=
    find?_report_of_covered hTaken₁ hListed₁ hName hOnce₁ hSelects₁
  obtain ⟨hWorkloads₂, hPolicies₂⟩ :=
    find?_report_of_covered hTaken₂ hListed₂ hName hOnce₂ hSelects₂
  have hForest : Forest.populate site₁.cluster n = Forest.populate site₂.cluster n :=
    Forest.populate_congr fun kind hKind => hSame kind (List.mem_append_left _ hKind)
  have hOwn : ownName r = n := Metadata.ownName_of_name_eq hName
  have hCollect : PolicedNamespace.collect site₁.cluster r = .collect site₂.cluster r :=
    PolicedNamespace.collect_congr fun kind hKind => by
      rw [hOwn]
      exact hSame kind (List.mem_append_right _ hKind)
  refine ⟨⟨_, hWorkloads₁, hForest ▸ hWorkloads₂⟩, ⟨_, hPolicies₁, hCollect ▸ hPolicies₂⟩, ?_⟩
  intro forests scope forest hForests hForest x p hUnder
  exact mem_inventory_of_adopted hTaken₁ hForests hForest hUnder

end TwoRuns

/-- A site with two namespaces. In the shop there is a pod whose replica set is gone; elsewhere the
listings come out as told. -/
def shopBeside (elsewhere : (kind : Kind) → Listing (Resource kind)) : Site where
  cluster :=
    { list
        | .namespace, _ => .ok [bareNamespace "shop", bareNamespace "lab"]
        | .pod, scope => if scope = "shop" then .ok [Forest.Shop.pod] else elsewhere .pod
        | kind, scope => if scope = "shop" then .ok [] else elsewhere kind
      podsLabelled _ _ _ := .ok [] }
  files := ⟨∅, []⟩
  resolves _ := false

/-- A laboratory in which nothing can be listed. -/
def brokenLab (kind : Kind) : Listing (Resource kind) := .error (.broken kind "reset")

/-- A laboratory with a replica set of just the name and uid that the shop's pod names. -/
def busyLab : (kind : Kind) → Listing (Resource kind)
  | .replicaSet => .ok [Forest.Shop.web]
  | _ => .ok []

theorem reports_eq_of_same_listings_shop :
    ∃ i₁ i₂, collect .inOrder (shopBeside brokenLab) Config.default none = .ok i₁ ∧
      collect .inOrder (shopBeside busyLab) { Config.default with namespaces := ["shop"] } none =
        .ok i₂ ∧
      (∃ child, i₁.report.find? ["Namespaced Workloads", "shop"] = some child ∧
        i₂.report.find? ["Namespaced Workloads", "shop"] = some child) ∧
      ∃ child, i₁.report.find? ["Namespaces", "shop"] = some child ∧
        i₂.report.find? ["Namespaces", "shop"] = some child := by
  obtain ⟨i₁, hTaken₁⟩ :
      ∃ i, collect .inOrder (shopBeside brokenLab) Config.default none = .ok i := ⟨_, rfl⟩
  obtain ⟨i₂, hTaken₂⟩ : ∃ i, collect .inOrder (shopBeside busyLab)
      { Config.default with namespaces := ["shop"] } none = .ok i := ⟨_, rfl⟩
  have hSame : ∀ kind ∈ Kind.workloads ++ Kind.policies,
      (shopBeside brokenLab).cluster.list kind "shop" =
        (shopBeside busyLab).cluster.list kind "shop" := by
    intro kind _
    cases kind <;> rfl
  obtain ⟨hWorkloads, hPolicies, -⟩ := reports_eq_of_same_listings hTaken₁ hTaken₂ rfl rfl rfl rfl
    rfl (by decide) (by decide) hSame
  exact ⟨i₁, i₂, hTaken₁, hTaken₂, hWorkloads, hPolicies⟩

end Inventory

end KubeInventory
