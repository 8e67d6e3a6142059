import KubeInventory.Proofs.Filing
import KubeInventory.Proofs.Keys
import KubeInventory.Proofs.ReportTree
import Mathlib.Data.String.Basic

/-! What the report of a workload shows: the object as it would be shown alone, and below it
everything that it holds, in order of names and under the names by which it is filed. -/

namespace KubeInventory

namespace Report

@[simp] theorem name_withDetail (r : Report) (key : String) (value : Value) :
    (r.withDetail key value).name = r.name := rfl

@[simp] theorem metadata_withDetail (r : Report) (key : String) (value : Value) :
    (r.withDetail key value).metadata = r.metadata := rfl

@[simp] theorem status_withDetail (r : Report) (key : String) (value : Value) :
    (r.withDetail key value).status = r.status := rfl

@[simp] theorem details_withMetadata (r : Report) (key value : String) :
    (r.withMetadata key value).details = r.details := rfl

@[simp] theorem status_withMetadata (r : Report) (key value : String) :
    (r.withMetadata key value).status = r.status := rfl

theorem get?_details_withDetail (r : Report) (key other : String) (value : Value) :
    (r.withDetail key value).details.get? other =
      if other = key then some value else r.details.get? other :=
  Dict.get?_insert r.details key other value

theorem get?_metadata_withMetadata (r : Report) (key other value : String) :
    (r.withMetadata key value).metadata.get? other =
      if other = key then some value else r.metadata.get? other :=
  Dict.get?_insert r.metadata key other value

/-- A detail that is missing or null does not hide one that is there. -/
theorem get?_details_withOptionalDetail (r : Report) (key other : String) (value : Option Value) :
    (r.withOptionalDetail key value).details.get? other =
      if other = key then (value.filter fun v => !v.isNull).or (r.details.get? other)
      else r.details.get? other := by
  cases value with
  | none => simp [withOptionalDetail]
  | some v =>
      cases hNull : v.isNull with
      | true => simp [withOptionalDetail, Option.filter, hNull]
      | false => simp [withOptionalDetail, Option.filter, hNull, get?_details_withDetail]

/-- An optional detail leaves everything but the details alone. -/
theorem withOptionalDetail_same (r : Report) (key : String) (value : Option Value) :
    (r.withOptionalDetail key value).name = r.name ∧
      (r.withOptionalDetail key value).metadata = r.metadata ∧
      (r.withOptionalDetail key value).children = r.children ∧
      (r.withOptionalDetail key value).status = r.status := by
  cases value with
  | none => exact ⟨rfl, rfl, rfl, rfl⟩
  | some v =>
      rw [withOptionalDetail]
      split <;> exact ⟨rfl, rfl, rfl, rfl⟩

@[simp] theorem name_withOptionalDetail (r : Report) (key : String) (value : Option Value) :
    (r.withOptionalDetail key value).name = r.name :=
  (withOptionalDetail_same r key value).1

@[simp] theorem metadata_withOptionalDetail (r : Report) (key : String) (value : Option Value) :
    (r.withOptionalDetail key value).metadata = r.metadata :=
  (withOptionalDetail_same r key value).2.1

@[simp] theorem children_withOptionalDetail (r : Report) (key : String) (value : Option Value) :
    (r.withOptionalDetail key value).children = r.children :=
  (withOptionalDetail_same r key value).2.2.1

@[simp] theorem status_withOptionalDetail (r : Report) (key : String) (value : Option Value) :
    (r.withOptionalDetail key value).status = r.status :=
  (withOptionalDetail_same r key value).2.2.2

end Report

namespace Resource

variable {k : Kind}

/-- Details leave alone what a report is found by. -/
theorem withOptionalSpecs_same (fields : List String) (r : Resource k) (report : Report) :
    (r.withOptionalSpecs fields report).name = report.name ∧
      (r.withOptionalSpecs fields report).metadata = report.metadata := by
  induction fields generalizing report with
  | nil => exact ⟨rfl, rfl⟩
  | cons head rest ih =>
      have hRest := ih (report.withOptionalDetail head (r.specField? head))
      simp only [Report.name_withOptionalDetail, Report.metadata_withOptionalDetail] at hRest
      exact hRest

@[simp] theorem name_withOptionalSpecs (fields : List String) (r : Resource k) (report : Report) :
    (r.withOptionalSpecs fields report).name = report.name :=
  (withOptionalSpecs_same fields r report).1

@[simp] theorem metadata_withOptionalSpecs (fields : List String) (r : Resource k)
    (report : Report) : (r.withOptionalSpecs fields report).metadata = report.metadata :=
  (withOptionalSpecs_same fields r report).2

@[simp] theorem name_report (r : Resource k) (status : String) :
    (r.report status).name = r.metadata.ownName := by
  unfold report
  cases r.metadata.uid with
  | none => rfl
  | some uid =>
      dsimp only
      split <;> rfl

/-- The uid is filed beside the kind and does not hide it. -/
theorem kind_report (r : Resource k) (status : String) :
    (r.report status).metadata.get? "kind" = some k.name := by
  have hBase : ((Report.new r.metadata.ownName status).withMetadata "kind" k.name).metadata.get?
      "kind" = some k.name := by
    rw [Report.get?_metadata_withMetadata, if_pos rfl]
  unfold report
  cases r.metadata.uid with
  | none => exact hBase
  | some uid =>
      dsimp only
      split
      · exact hBase
      · rw [Report.get?_metadata_withMetadata, if_neg (by decide)]
        exact hBase

/-- Workloads of all kinds go by their own names. -/
@[simp] theorem name_ownReport (r : Resource k) : r.ownReport.name = r.metadata.ownName := by
  cases k <;>
    simp [ownReport, controllerReport, withSpec, withSelectorAndLabels, podReport,
      Report.withChildren]

/-- They tell their kind as well. -/
theorem kind_ownReport (r : Resource k) : r.ownReport.metadata.get? "kind" = some k.name := by
  cases k <;>
    simp [ownReport, controllerReport, withSpec, withSelectorAndLabels, podReport,
      Report.withChildren, kind_report]

end Resource

namespace Container

theorem children_report (statuses : List ContainerStatus) (isInit : Bool) (c : Container) :
    (c.report statuses isInit).children = [] := by
  unfold report
  dsimp only
  cases statuses.find? (·.name == c.name) with
  | none => cases isInit <;> rfl
  | some status =>
      cases isInit <;> simp [Report.withDetail, Report.withMetadata, Report.new]

/-- A container is of a kind of its own, which is no kind of object. -/
theorem kind_report (statuses : List ContainerStatus) (isInit : Bool) (c : Container) :
    (c.report statuses isInit).metadata.get? "kind" = some "Container" := by
  unfold report
  dsimp only
  cases statuses.find? (·.name == c.name) with
  | none => cases isInit <;> simp [Report.get?_metadata_withMetadata]
  | some status => cases isInit <;> simp [Report.get?_metadata_withMetadata]

/-- Containers are not counted as workloads. -/
theorem not_isWorkload_report (statuses : List ContainerStatus) (isInit : Bool) (c : Container) :
    (c.report statuses isInit).isWorkload = false := by
  rw [Report.isWorkload, kind_report]
  decide

end Container

/-- The names of the objects on a lineage, from the root down. -/
def Lineage.names (lineage : Lineage) : List String :=
  lineage.ancestors.map Item.name ++ [lineage.object.name]

theorem Lineage.names_under (above : Item) (lineage : Lineage) :
    (lineage.under above).names = above.name :: lineage.names := rfl

/-- The first name on the way to an object is that of its root. -/
theorem Lineage.names_eq_cons (lineage : Lineage) :
    ∃ path, lineage.names = lineage.root.name :: path := by
  obtain ⟨ancestors, object⟩ := lineage
  cases ancestors with
  | nil => exact ⟨[], rfl⟩
  | cons top rest => exact ⟨_, rfl⟩

namespace Report

/-- The node shows the object as it is shown alone. What stands below the node may differ, except
that a pod has its containers there and nothing else. -/
structure Shows (node : Report) (x : Item) : Prop where
  name : node.name = x.object.ownReport.name
  status : node.status = x.object.ownReport.status
  metadata : node.metadata = x.object.ownReport.metadata
  details : node.details = x.object.ownReport.details
  containers : x.kind = .pod → node.children = x.object.ownReport.children

/-- The reports show the objects at the ends of the lineages: those and no other workloads, each
under the names on its lineage and beside others in order of their names. -/
structure Renders (reports : List Report) (lineages : List Lineage) : Prop where
  paths : workloadPaths (nodesOf reports) = lineages.map Lineage.names
  distinct : (lineages.map Lineage.names).Nodup
  found : ∀ lineage ∈ lineages,
    ∃ node, findAmong reports lineage.names = some node ∧ node.Shows lineage.object
  sorted : (reports.filter isWorkload).Pairwise fun a b => a.name < b.name
  ordered : ∀ node ∈ nodesOf reports, node.2.Ordered

/-- What shows a workload is one, since it tells the kind. -/
theorem Shows.isWorkload {node : Report} {x : Item} (h : node.Shows x)
    (hKind : x.kind ∈ Kind.workloads) : node.isWorkload = true := by
  rw [isWorkload_iff, h.metadata]
  exact ⟨x.kind, hKind, Resource.kind_ownReport x.object⟩

theorem renders_nil : Renders [] [] where
  paths := rfl
  distinct := List.nodup_nil
  found _ h := by cases h
  sorted := List.Pairwise.nil
  ordered _ h := by cases h

/-- A node below several reports is below one of them, whose name its path starts with. -/
theorem mem_nodesOf {reports : List Report} {node : List String × Report} :
    node ∈ nodesOf reports ↔
      ∃ r ∈ reports, ∃ inner ∈ r.nodes, node = (r.name :: inner.1, inner.2) := by
  rw [nodesOf_eq_flatMap, List.mem_flatMap]
  simp only [List.mem_map, Prod.map, id, eq_comm]

/-- A path through a single report goes on below it. -/
theorem findAmong_single {r : Report} {name : String} (hName : r.name = name)
    (path : List String) : findAmong [r] (name :: path) = r.find? path := by
  rw [findAmong, List.find?_cons, beq_iff_eq.mpr hName]
  rfl

/-- The report of an object and of what it holds, put together from both. -/
theorem renders_single {r : Report} {x : Item} {below : List Lineage} (hShows : r.Shows x)
    (hKind : x.kind ∈ Kind.workloads) (hBelow : Renders r.children below) :
    Renders [r] (⟨[], x⟩ :: below.map (Lineage.under x)) where
  paths := by
    have hName : r.name = x.name := hShows.name.trans (Resource.name_ownReport x.object)
    rw [nodesOf_eq_flatMap, List.flatMap_singleton, workloadPaths_map, workloadPaths_nodes,
      hShows.isWorkload hKind, hBelow.paths, hName, List.map_cons, List.map_map]
    simp only [if_true, List.singleton_append, List.map_cons, List.map_map]
    rfl
  distinct := by
    rw [List.map_cons, List.map_map, List.nodup_cons]
    constructor
    · intro hMem
      obtain ⟨inner, -, hEq⟩ := List.mem_map.mp hMem
      obtain ⟨path, hPath⟩ := inner.names_eq_cons
      rw [Function.comp_apply, Lineage.names_under, hPath] at hEq
      exact absurd (List.cons.inj hEq).2 (List.cons_ne_nil _ _)
    · have hBelowDistinct := hBelow.distinct.map (List.cons_injective (a := x.name))
      rwa [List.map_map] at hBelowDistinct
  found := by
    have hName : r.name = x.name := hShows.name.trans (Resource.name_ownReport x.object)
    intro lineage hLineage
    rcases List.mem_cons.mp hLineage with rfl | hMem
    · exact ⟨r, findAmong_single hName [], hShows⟩
    · obtain ⟨inner, hInner, rfl⟩ := List.mem_map.mp hMem
      obtain ⟨node, hFound, hNode⟩ := hBelow.found inner hInner
      obtain ⟨path, hPath⟩ := inner.names_eq_cons
      refine ⟨node, ?_, hNode⟩
      rw [Lineage.names_under, findAmong_single hName, hPath, find?_cons, ← hPath]
      exact hFound
  sorted := (List.pairwise_singleton _ r).sublist List.filter_sublist
  ordered := by
    intro node hNode
    obtain ⟨only, hOnly, inner, hInner, rfl⟩ := mem_nodesOf.mp hNode
    obtain rfl : only = r := List.mem_singleton.mp hOnly
    rw [nodes_eq, List.mem_cons] at hInner
    rcases hInner with rfl | hDeeper
    · exact hBelow.sorted
    · exact hBelow.ordered inner hDeeper

/-- Below a pod there are containers and nothing below them. -/
theorem plain_of_mem_containerReports {pod : Resource .pod} {r : Report}
    (h : r ∈ pod.containerReports) : r.isWorkload = false ∧ r.children = [] := by
  rcases List.mem_append.mp h with hInit | hMain
  · obtain ⟨c, -, rfl⟩ := List.mem_map.mp hInit
    exact ⟨Container.not_isWorkload_report _ _ c, Container.children_report _ _ c⟩
  · obtain ⟨c, -, rfl⟩ := List.mem_map.mp hMain
    exact ⟨Container.not_isWorkload_report _ _ c, Container.children_report _ _ c⟩

/-- There are no workloads among containers, and nothing stands below them. -/
theorem renders_containers (pod : Resource .pod) : Renders pod.containerReports [] := by
  have hNodes : ∀ node ∈ nodesOf pod.containerReports,
      node.2.isWorkload = false ∧ node.2.children = [] := by
    intro node hNode
    obtain ⟨r, hr, inner, hInner, rfl⟩ := mem_nodesOf.mp hNode
    obtain ⟨hPlain, hAlone⟩ := plain_of_mem_containerReports hr
    rw [nodes_eq, hAlone, nodesOf, List.mem_singleton] at hInner
    subst hInner
    exact ⟨hPlain, hAlone⟩
  have hNone : (nodesOf pod.containerReports).filter (fun node => node.2.isWorkload) = [] :=
    List.filter_eq_nil_iff.mpr fun node hNode => by simp [(hNodes node hNode).1]
  have hNoChild : pod.containerReports.filter isWorkload = [] :=
    List.filter_eq_nil_iff.mpr fun r hr => by simp [(plain_of_mem_containerReports hr).1]
  constructor
  case paths => rw [workloadPaths, hNone, List.map_nil, List.map_nil]
  case distinct => exact List.nodup_nil
  case found => exact fun _ h => absurd h List.not_mem_nil
  case sorted =>
    rw [hNoChild]
    exact List.Pairwise.nil
  case ordered =>
    intro node hNode
    rw [Ordered, (hNodes node hNode).2]
    exact List.Pairwise.nil

/-- A pod holds no workloads. -/
theorem renders_pod (pod : Resource .pod) :
    Renders [HasReport.report pod] (Nested.lineages pod) := by
  have hShows : pod.ownReport.Shows ⟨.pod, pod⟩ := ⟨rfl, rfl, rfl, rfl, fun _ => rfl⟩
  have hKind : Kind.pod ∈ Kind.workloads := by decide
  have hBelow : Renders pod.ownReport.children [] := by
    have hChildren : pod.ownReport.children = pod.containerReports := by
      simp [Resource.ownReport, Resource.podReport, withChildren]
    rw [hChildren]
    exact renders_containers pod
  exact renders_single hShows hKind hBelow

variable {k : Kind} {β : Type} [HasMetadata β] [HasReport β] [Nested β]

/-- What an object holds does not change how the object itself is shown. -/
theorem renders_held {h : Held k β} (hHolds : k.held? ≠ none)
    (hAdopted : Renders (Forest.reportsOf h.adopted) h.adopted.lineages) :
    Renders [HasReport.report h] (Nested.lineages h) := by
  have hShows : h.report.Shows ⟨k, h.object⟩ := by
    refine ⟨rfl, rfl, rfl, rfl, fun hPod => ?_⟩
    obtain rfl : k = .pod := hPod
    exact absurd rfl hHolds
  have hKind : k ∈ Kind.workloads := by
    cases k <;> first | decide | exact absurd rfl hHolds
  exact renders_single hShows hKind hAdopted

/-- A report bears the name of the root that it is for. -/
theorem name_of_renders {r : Report} {lineages : List Lineage} {lineage : Lineage}
    (h : Renders [r] lineages) (hMem : lineage ∈ lineages) : r.name = lineage.root.name := by
  obtain ⟨node, hFound, -⟩ := h.found lineage hMem
  obtain ⟨path, hPath⟩ := lineage.names_eq_cons
  by_contra hNe
  rw [hPath, findAmong, List.find?_cons, beq_false_of_ne hNe] at hFound
  cases hFound

/-- Filed by name, the reports of objects stand in order of names and each is found by its own. -/
theorem renders_reportsOf {d : Dict String β} (hFiled : d.WellFiled)
    (hEach : ∀ e ∈ d.entries, Renders [HasReport.report e.2] (Nested.lineages e.2)) :
    Renders (Forest.reportsOf d) d.lineages := by
  have hName : ∀ e ∈ d.entries, (HasReport.report e.2).name = e.1 := by
    intro e he
    rw [(hFiled e he).1, ← Nested.name_item]
    exact name_of_renders (hEach e he) List.mem_cons_self
  have hReports : Forest.reportsOf d = d.entries.map fun e => HasReport.report e.2 := by
    rw [Forest.reportsOf, Dict.values, List.map_map]
    rfl
  have hNames : (Forest.reportsOf d).map name = d.entries.map Prod.fst := by
    rw [hReports, List.map_map]
    exact List.map_congr_left hName
  have hLineages : d.lineages = d.entries.flatMap fun e => Nested.lineages e.2 := by
    rw [Dict.lineages, Dict.values, List.flatMap_map]
  constructor
  case paths =>
    rw [nodesOf_eq_flatMap, hReports, List.flatMap_map, workloadPaths_flatMap, hLineages,
      List.map_flatMap]
    refine List.flatMap_congr fun e he => ?_
    rw [← (hEach e he).paths, nodesOf_eq_flatMap, List.flatMap_singleton]
  case distinct =>
    -- Paths below different entries differ in their first name.
    rw [hLineages, List.map_flatMap, List.nodup_flatMap]
    refine ⟨fun e he => (hEach e he).distinct, ?_⟩
    refine (List.pairwise_map.mp d.keys_nodup).imp_of_mem fun {a b} ha hb hNe path hA hB => hNe ?_
    obtain ⟨l, hl, rfl⟩ := List.mem_map.mp hA
    obtain ⟨m, hm, hEq⟩ := List.mem_map.mp hB
    obtain ⟨restL, hRestL⟩ := l.names_eq_cons
    obtain ⟨restM, hRestM⟩ := m.names_eq_cons
    rw [hRestL, hRestM, ← name_of_renders (hEach a ha) hl, ← name_of_renders (hEach b hb) hm,
      hName a ha, hName b hb] at hEq
    exact (List.cons.inj hEq).1.symm
  case found =>
    intro lineage hLineage
    obtain ⟨e, he, hBelow⟩ := Dict.mem_lineages_iff.mp hLineage
    obtain ⟨node, hFound, hNode⟩ := (hEach e he).found lineage hBelow
    have hRoot := name_of_renders (hEach e he) hBelow
    have hMem : HasReport.report e.2 ∈ Forest.reportsOf d := by
      rw [hReports]
      exact List.mem_map_of_mem he
    obtain ⟨path, hPath⟩ := lineage.names_eq_cons
    refine ⟨node, ?_, hNode⟩
    rw [hPath, ← hRoot] at hFound ⊢
    rw [findAmong_single rfl] at hFound
    rw [findAmong, (find?_key_eq_some_iff (hNames ▸ d.keys_nodup)).mpr ⟨hMem, rfl⟩]
    exact hFound
  case sorted =>
    refine List.Pairwise.sublist List.filter_sublist ?_
    rw [hReports, List.pairwise_map]
    refine d.sorted.imp_of_mem fun {a b} ha hb hLt => ?_
    rw [hName a ha, hName b hb]
    exact compare_lt_iff_lt.mp hLt
  case ordered =>
    intro node hNode
    obtain ⟨r, hr, hInner⟩ := mem_nodesOf.mp hNode
    rw [hReports] at hr
    obtain ⟨e, he, rfl⟩ := List.mem_map.mp hr
    exact (hEach e he).ordered node (mem_nodesOf.mpr ⟨_, List.mem_singleton_self _, hInner⟩)

end Report

namespace Forest

variable {f : Forest}

/-- What holds pods shows each of them once, in order of names. -/
theorem renders_podOwners {k : Kind} {d : Dict String (PodOwner k)} (hHolds : k.held? ≠ none)
    (hFiled : d.WellFiled) : Report.Renders (reportsOf d) d.lineages := by
  apply Report.renders_reportsOf hFiled
  intro e he
  apply Report.renders_held hHolds
  exact Report.renders_reportsOf (hFiled e he).2 fun pod _ => Report.renders_pod pod.2

/-- The same two levels deep, for deployments and cron jobs. -/
theorem renders_owners {k j : Kind} {d : Dict String (Held k (PodOwner j))}
    (hHolds : k.held? ≠ none) (hNext : j.held? ≠ none) (hFiled : d.WellFiled) :
    Report.Renders (reportsOf d) d.lineages := by
  apply Report.renders_reportsOf hFiled
  intro e he
  exact Report.renders_held hHolds (renders_podOwners hNext (hFiled e he).2)

/-- The reports of the roots of a kind show all that these roots hold. -/
theorem WellFiled.renders_rootReports (h : f.WellFiled) (kind : Kind) :
    Report.Renders (f.rootReports kind) (f.lineagesOf kind) := by
  cases kind
  case deployment => exact renders_owners (by decide) (by decide) h.deployments
  case replicaSet => exact renders_podOwners (by decide) h.replicaSets
  case replicationController => exact renders_podOwners (by decide) h.replicationControllers
  case statefulSet => exact renders_podOwners (by decide) h.statefulSets
  case daemonSet => exact renders_podOwners (by decide) h.daemonSets
  case cronJob => exact renders_owners (by decide) (by decide) h.cronJobs
  case job => exact renders_podOwners (by decide) h.jobs
  case pod => exact Report.renders_reportsOf h.pods fun pod _ => Report.renders_pod pod.2
  all_goals exact Report.renders_nil

end Forest

end KubeInventory
