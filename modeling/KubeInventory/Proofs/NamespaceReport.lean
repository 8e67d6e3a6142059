import KubeInventory.Proofs.Population
import KubeInventory.Proofs.Rendering

/-! The report of a namespace. Its groups follow the order of kinds, and a group shows either the
error of its listing or all that its roots hold. A listing that failed leaves no roots, so no error
hides an object. -/

namespace KubeInventory

theorem Kind.groupLabel_injective {a b : Kind} (h : a.groupLabel = b.groupLabel) : a = b := by
  have hAll (k : Kind) : k ∈ Kind.all := by cases k <;> decide
  have hDistinct : (Kind.all.map Kind.groupLabel).Nodup := by decide +kernel
  exact List.inj_on_of_nodup_map hDistinct (hAll a) (hAll b) h

/-- The names in a report that lead to the object, from the group of its root down. -/
def Lineage.path (lineage : Lineage) : List String :=
  lineage.root.kind.groupLabel :: lineage.names

namespace Report

/-- A report is found only where it stands. -/
theorem mem_nodes_of_find? {path : List String} {r node : Report} (h : r.find? path = some node) :
    (path, node) ∈ r.nodes := by
  induction path generalizing r with
  | nil =>
      obtain rfl : r = node := Option.some.inj h
      rw [nodes_eq]
      exact List.mem_cons_self
  | cons name rest ih =>
      rw [find?_cons, findAmong, Option.bind_eq_some_iff] at h
      obtain ⟨child, hChild, hRest⟩ := h
      have hName : child.name = name := by simpa using List.find?_some hChild
      rw [nodes_eq, List.mem_cons]
      right
      refine mem_nodesOf.mpr ⟨child, List.mem_of_find?_eq_some hChild, (rest, node), ih hRest, ?_⟩
      rw [hName]

end Report

namespace Forest

variable {f : Forest}

theorem rootCount_eq_length (f : Forest) (kind : Kind) :
    f.rootCount kind = (f.rootsOf kind).length := by
  cases kind <;> simp [rootCount, rootsOf, Dict.size, Dict.items, Dict.values]

theorem lineagesOf_eq_nil {kind : Kind} (h : f.rootsOf kind = []) : f.lineagesOf kind = [] := by
  rw [List.eq_nil_iff_forall_not_mem]
  intro lineage hLineage
  have hRoot := root_mem_rootsOf hLineage
  rw [h] at hRoot
  cases hRoot

/-- No root is of a kind whose listing failed. -/
def ErrorsBare (f : Forest) : Prop :=
  ∀ kind, f.errors.get? kind ≠ none → f.rootsOf kind = []

/-- A group shows all below the roots of its kind, and is itself no workload. -/
theorem group_of_groupReport? (hFiled : f.WellFiled) (hErrors : f.ErrorsBare) {kind : Kind}
    {group : Report} (h : f.groupReport? kind = some group) :
    group.name = kind.groupLabel ∧ group.isWorkload = false ∧
      Report.Renders group.children (f.lineagesOf kind) := by
  unfold groupReport? at h
  cases hError : f.errors.get? kind with
  | some error =>
      rw [hError] at h
      obtain rfl := Option.some.inj h
      have hNone := lineagesOf_eq_nil (hErrors kind (by simp [hError]))
      refine ⟨rfl, rfl, ?_⟩
      rw [hNone]
      exact Report.renders_nil
  | none =>
      rw [hError] at h
      dsimp only at h
      split at h
      · cases h
      · obtain rfl := Option.some.inj h
        exact ⟨rfl, rfl, hFiled.renders_rootReports kind⟩

theorem lineagesOf_of_groupReport?_eq_none {kind : Kind} (h : f.groupReport? kind = none) :
    f.lineagesOf kind = [] := by
  unfold groupReport? at h
  cases hError : f.errors.get? kind with
  | some error =>
      rw [hError] at h
      cases h
  | none =>
      rw [hError] at h
      dsimp only at h
      split at h
      · rename_i hCount
        rw [beq_iff_eq, rootCount_eq_length, List.length_eq_zero_iff] at hCount
        exact lineagesOf_eq_nil hCount
      · cases h

theorem root_kind_of_mem_lineagesOf {kind : Kind} {lineage : Lineage}
    (h : lineage ∈ f.lineagesOf kind) : lineage.root.kind = kind :=
  kind_of_mem_rootsOf (root_mem_rootsOf h)

/-- A path starts with the group of its root. -/
theorem path_of_mem_lineagesOf {kind : Kind} {lineage : Lineage}
    (h : lineage ∈ f.lineagesOf kind) : lineage.path = kind.groupLabel :: lineage.names := by
  rw [Lineage.path, root_kind_of_mem_lineagesOf h]

theorem children_report (f : Forest) :
    f.report.children = Kind.workloads.filterMap f.groupReport? := rfl

theorem not_isWorkload_report (f : Forest) : f.report.isWorkload = false := by
  have hKind : f.report.metadata.get? "kind" = some "Namespace" := by
    unfold report
    change (Report.withMetadata _ "kind" "Namespace").metadata.get? "kind" = _
    rw [Report.get?_metadata_withMetadata, if_pos rfl]
  rw [Report.isWorkload, hKind]
  decide

/-- The workloads in a report are the objects of the forest, in the same order. -/
theorem workloadPaths_report (hFiled : f.WellFiled) (hErrors : f.ErrorsBare) :
    Report.workloadPaths f.report.nodes = f.lineages.map Lineage.path := by
  rw [Report.workloadPaths_nodes, not_isWorkload_report, children_report,
    Report.nodesOf_eq_flatMap, List.filterMap_eq_flatMap_toList, List.flatMap_assoc,
    Report.workloadPaths_flatMap, lineages_eq_flatMap, List.map_flatMap]
  refine List.flatMap_congr fun kind _ => ?_
  cases hGroup : f.groupReport? kind with
  | none =>
      rw [lineagesOf_of_groupReport?_eq_none hGroup]
      rfl
  | some group =>
      obtain ⟨hName, hPlain, hRenders⟩ := group_of_groupReport? hFiled hErrors hGroup
      rw [Option.toList_some, List.flatMap_singleton, Report.workloadPaths_map,
        Report.workloadPaths_nodes, hPlain, hRenders.paths, hName,
        List.map_congr_left fun lineage h => path_of_mem_lineagesOf h]
      simp

/-- No two objects of a forest have the same names on the way to them. -/
theorem paths_nodup (hFiled : f.WellFiled) : (f.lineages.map Lineage.path).Nodup := by
  rw [lineages_eq_flatMap, List.map_flatMap, List.nodup_flatMap]
  constructor
  · intro kind _
    have hNames := (hFiled.renders_rootReports kind).distinct.map
      (List.cons_injective (a := kind.groupLabel))
    rw [List.map_map] at hNames
    rwa [List.map_congr_left fun lineage h => path_of_mem_lineagesOf h]
  · have hKinds : Kind.workloads.Nodup := by decide
    refine hKinds.imp fun {a b} hNe path hA hB => hNe ?_
    obtain ⟨l, hl, rfl⟩ := List.mem_map.mp hA
    obtain ⟨m, hm, hEq⟩ := List.mem_map.mp hB
    rw [path_of_mem_lineagesOf hl, path_of_mem_lineagesOf hm] at hEq
    exact (Kind.groupLabel_injective (List.cons.inj hEq).1).symm

/-- The group of a kind is found by its label, for no other kind has the same. -/
theorem find?_groups (hFiled : f.WellFiled) (hErrors : f.ErrorsBare) {kind : Kind}
    (hKind : kind ∈ Kind.workloads) {group : Report} (h : f.groupReport? kind = some group) :
    (Kind.workloads.filterMap f.groupReport?).find? (·.name == kind.groupLabel) = some group := by
  have hDistinct : ((Kind.workloads.filterMap f.groupReport?).map Report.name).Nodup := by
    rw [List.Nodup, List.pairwise_map, List.pairwise_filterMap]
    have hKinds : Kind.workloads.Nodup := by decide
    refine hKinds.imp fun hNe first hFirst second hSecond hEq => hNe ?_
    rw [(group_of_groupReport? hFiled hErrors hFirst).1,
      (group_of_groupReport? hFiled hErrors hSecond).1] at hEq
    exact Kind.groupLabel_injective hEq
  rw [← (group_of_groupReport? hFiled hErrors h).1]
  exact (find?_key_eq_some_iff hDistinct).mpr ⟨List.mem_filterMap.mpr ⟨kind, hKind, h⟩, rfl⟩

/-- Each object is found by the names on its lineage and is shown there. -/
theorem find?_report (hFiled : f.WellFiled) (hErrors : f.ErrorsBare) {lineage : Lineage}
    (h : lineage ∈ f.lineages) :
    ∃ node, f.report.find? lineage.path = some node ∧ node.Shows lineage.object := by
  rw [lineages_eq_flatMap, List.mem_flatMap] at h
  obtain ⟨kind, hKind, hLineage⟩ := h
  cases hGroup : f.groupReport? kind with
  | none =>
      rw [lineagesOf_of_groupReport?_eq_none hGroup] at hLineage
      cases hLineage
  | some group =>
      obtain ⟨-, -, hRenders⟩ := group_of_groupReport? hFiled hErrors hGroup
      obtain ⟨node, hFound, hShows⟩ := hRenders.found lineage hLineage
      obtain ⟨path, hPath⟩ := lineage.names_eq_cons
      refine ⟨node, ?_, hShows⟩
      rw [path_of_mem_lineagesOf hLineage, Report.find?_cons, Report.findAmong, children_report,
        find?_groups hFiled hErrors hKind hGroup, Option.bind_some, hPath, Report.find?_cons,
        ← hPath]
      exact hFound

theorem ordered_report (hFiled : f.WellFiled) (hErrors : f.ErrorsBare) :
    ∀ node ∈ f.report.nodes, node.2.Ordered := by
  have hGroups : ∀ group ∈ f.report.children, group.isWorkload = false ∧
      ∃ kind, Report.Renders group.children (f.lineagesOf kind) := by
    intro group hGroup
    rw [children_report, List.mem_filterMap] at hGroup
    obtain ⟨kind, -, hSome⟩ := hGroup
    obtain ⟨-, hPlain, hRenders⟩ := group_of_groupReport? hFiled hErrors hSome
    exact ⟨hPlain, kind, hRenders⟩
  intro node hNode
  rw [Report.nodes_eq, List.mem_cons] at hNode
  rcases hNode with rfl | hNode
  · have hNone : f.report.children.filter Report.isWorkload = [] :=
      List.filter_eq_nil_iff.mpr fun group hGroup => by simp [(hGroups group hGroup).1]
    rw [Report.Ordered, hNone]
    exact List.Pairwise.nil
  · obtain ⟨group, hGroup, inner, hInner, rfl⟩ := Report.mem_nodesOf.mp hNode
    obtain ⟨-, kind, hRenders⟩ := hGroups group hGroup
    rw [Report.nodes_eq, List.mem_cons] at hInner
    rcases hInner with rfl | hDeeper
    · exact hRenders.sorted
    · exact hRenders.ordered inner hDeeper

section Populate

variable {c : Cluster} {scope : String}

/-- The text of the error that a listing failed with. -/
def errorText? {α : Type} : Listing α → Option String
  | .ok _ => none
  | .error e => some e.message

/-- The errors of listings that fail in their own names are filed under the kinds that failed. -/
theorem get?_foldl_noted {kinds : List Kind}
    (hOwn : ∀ kind ∈ kinds, ∀ e, c.list kind scope = .error e → e.kind = kind) (kind : Kind) :
    (kinds.foldl (fun errors kind => noted (c.list kind scope) errors) ∅).get? kind =
      if kind ∈ kinds then errorText? (c.list kind scope) else none := by
  induction kinds using List.reverseRecOn with
  | nil => rfl
  | append_singleton prior last ih =>
      have hPrior := ih fun k hk => hOwn k (List.mem_append_left _ hk)
      rw [List.foldl_append, List.foldl_cons, List.foldl_nil]
      cases hListing : c.list last scope with
      | ok objects =>
          rw [noted, hPrior]
          by_cases hLast : kind = last
          · subst hLast
            simp [hListing, errorText?]
          · simp [hLast]
      | error e =>
          have hKind : e.kind = last := hOwn last (by simp) e hListing
          rw [noted, Dict.get?_insert, hPrior, hKind]
          by_cases hLast : kind = last
          · subst hLast
            simp [hListing, errorText?]
          · simp [hLast]

theorem get?_errors_populate
    (hOwn : ∀ kind ∈ Kind.workloads, ∀ e, c.list kind scope = .error e → e.kind = kind)
    (kind : Kind) :
    (populate c scope).1.errors.get? kind =
      if kind ∈ Kind.workloads then errorText? (c.list kind scope) else none := by
  have hErrors : (populate c scope).1.errors = (list c scope).errors :=
    (resolve_frame (list c scope)).2.1
  rw [hErrors, list_eq]
  exact get?_foldl_noted hOwn kind

/-- A listing that failed leaves no roots. -/
theorem rootsOf_populate_of_error {kind : Kind} {e : FetchError}
    (h : c.list kind scope = .error e) : (populate c scope).1.rootsOf kind = [] := by
  rw [List.eq_nil_iff_forall_not_mem]
  intro x hx
  obtain ⟨hRoot, hKind⟩ := mem_rootsOf_iff.mp hx
  have hListed : x ∈ (list c scope).rootsOf kind :=
    mem_rootsOf_iff.mpr ⟨((mem_roots_resolve (wellFiled_list c scope)).mp hRoot).1, hKind⟩
  have hNone : listed c scope kind = [] := by
    rw [listed, h]
    rfl
  have hMem := (rootsOf_list_perm (workload_of_mem_rootsOf hListed)).mem_iff.mp hListed
  rw [hNone] at hMem
  cases hMem

theorem errorsBare_populate
    (hOwn : ∀ kind ∈ Kind.workloads, ∀ e, c.list kind scope = .error e → e.kind = kind) :
    (populate c scope).1.ErrorsBare := by
  intro kind hError
  rw [get?_errors_populate hOwn] at hError
  cases hListing : c.list kind scope with
  | ok objects => simp [hListing, errorText?] at hError
  | error e => exact rootsOf_populate_of_error hListing

/-- The groups of a namespace kind by kind, from the outcomes of its listings. -/
theorem children_report_populate
    (hOwn : ∀ kind ∈ Kind.workloads, ∀ e, c.list kind scope = .error e → e.kind = kind) :
    (populate c scope).1.report.children = Kind.workloads.filterMap fun kind =>
      match c.list kind scope with
      | .error e =>
        some ⟨kind.groupLabel, "incomplete", ∅,
          (∅ : Dict String Value).insert "error" (.string e.message), []⟩
      | .ok _ =>
        if ((populate c scope).1.rootsOf kind).isEmpty then none
        else some ⟨kind.groupLabel, "complete", ∅, ∅,
          (populate c scope).1.rootReports kind⟩ := by
  refine List.filterMap_congr fun kind hKind => ?_
  rw [groupReport?, get?_errors_populate hOwn, if_pos hKind]
  cases c.list kind scope with
  | error e => rfl
  | ok objects =>
      simp only [errorText?, rootCount_eq_length, beq_iff_eq, List.length_eq_zero_iff,
        List.isEmpty_iff]
      rfl

/-- The report of a namespace shows its whole forest. There is a group for each kind whose listing
failed, with the error and nothing else, and for each kind that has roots; workloads stand beside
each other in order of their names. Each object is found once, below the group of its root and the
names of the objects above it, as it is shown alone; no other workload is shown. -/
theorem populate_report_shows_forest
    (hOwn : ∀ kind ∈ Kind.workloads, ∀ e, c.list kind scope = .error e → e.kind = kind) :
    ((populate c scope).1.report.children = Kind.workloads.filterMap fun kind =>
      match c.list kind scope with
      | .error e =>
        some ⟨kind.groupLabel, "incomplete", ∅,
          (∅ : Dict String Value).insert "error" (.string e.message), []⟩
      | .ok _ =>
        if ((populate c scope).1.rootsOf kind).isEmpty then none
        else some ⟨kind.groupLabel, "complete", ∅, ∅,
          (populate c scope).1.rootReports kind⟩) ∧
      (∀ node ∈ (populate c scope).1.report.nodes, node.2.Ordered) ∧
      Report.workloadPaths (populate c scope).1.report.nodes =
        (populate c scope).1.lineages.map Lineage.path ∧
      ((populate c scope).1.lineages.map Lineage.path).Nodup ∧
      ∀ lineage ∈ (populate c scope).1.lineages, ∃ node,
        (populate c scope).1.report.find? lineage.path = some node ∧
        (lineage.path, node) ∈ (populate c scope).1.report.nodes ∧ node.Shows lineage.object := by
  have hFiled : (populate c scope).1.WellFiled := (wellFiled_list c scope).resolve
  have hErrors := errorsBare_populate hOwn
  refine ⟨children_report_populate hOwn, ordered_report hFiled hErrors,
    workloadPaths_report hFiled hErrors, paths_nodup hFiled, fun lineage hLineage => ?_⟩
  obtain ⟨node, hFound, hShows⟩ := find?_report hFiled hErrors hLineage
  exact ⟨node, hFound, Report.mem_nodes_of_find? hFound, hShows⟩

/-- A cluster with one replica set, whose jobs cannot be listed. -/
def withoutJobs : Cluster where
  list
    | .job, _ => .error (.broken .job "connection refused")
    | .replicaSet, _ => .ok [⟨{ Metadata.empty with name := some "web" }, none, none⟩]
    | _, _ => .ok []
  podsLabelled _ _ _ := .ok []

theorem populate_report_shows_forest_withoutJobs :
    (∀ kind ∈ Kind.workloads, ∀ e, withoutJobs.list kind "shop" = .error e → e.kind = kind) ∧
      Report.workloadPaths (populate withoutJobs "shop").1.report.nodes =
        (populate withoutJobs "shop").1.lineages.map Lineage.path := by
  have hOwn : ∀ kind ∈ Kind.workloads, ∀ e,
      withoutJobs.list kind "shop" = .error e → e.kind = kind := by
    intro kind _ e hFailed
    cases kind <;> cases hFailed
    rfl
  exact ⟨hOwn, (populate_report_shows_forest hOwn).2.2.1⟩

end Populate

end Forest

end KubeInventory
