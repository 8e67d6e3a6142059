import KubeInventory.Proofs.Collection

/-! Inventories are reproducible. Where names tell the objects of a kind apart, neither the order in
which a cluster lists them nor the order in which listings are completed shows in a report, but for
the provider that the control plane takes from the node listed first. -/

namespace KubeInventory

open HasMetadata (ownName)
open PolicedNamespace (objectsOf)

/-- Two outcomes of a listing that tell the same: the same error, or the same objects in any order,
each under a name of its own. -/
inductive Listing.Reordered {kind : Kind} :
    Listing (Resource kind) → Listing (Resource kind) → Prop where
  | failed (e : FetchError) : Reordered (.error e) (.error e)
  | listed {xs ys : List (Resource kind)} (perm : xs.Perm ys)
      (named : ∀ x ∈ xs, x.metadata.name ≠ none) (distinct : (xs.map ownName).Nodup) :
      Reordered (.ok xs) (.ok ys)

/-- What is left of the objects once some are sorted out tells the same too. -/
theorem Listing.Reordered.filter {kind : Kind} {l m : Listing (Resource kind)} (h : l.Reordered m)
    (p : Resource kind → Bool) : Reordered (l.map (·.filter p)) (m.map (·.filter p)) := by
  cases h with
  | failed e => exact .failed e
  | listed hPerm hNamed hDistinct =>
      refine .listed (hPerm.filter p) (fun x hx => hNamed x (List.mem_filter.mp hx).1) ?_
      exact hDistinct.sublist (List.filter_sublist.map _)

namespace Forest

/-- Objects of different names are filed the same in any order. -/
theorem index_eq_of_perm {α : Type} [HasMetadata α] {xs ys : List α} (hPerm : xs.Perm ys)
    (hDistinct : (xs.map ownName).Nodup) : index xs = index ys := by
  refine Dict.ext_get? fun name => ?_
  rw [get?_index, get?_index]
  exact find?_key_eq_of_perm hPerm hDistinct

theorem index_owners_eq_of_perm {k : Kind} {β : Type} [HasMetadata β] {xs ys : List (Resource k)}
    (hPerm : xs.Perm ys) (hDistinct : (xs.map ownName).Nodup) :
    (index (owners xs) : Dict String (Held k β)) = index (owners ys) := by
  refine index_eq_of_perm (hPerm.map _) ?_
  rw [owners, List.map_map]
  exact hDistinct

variable {c d : Cluster} {scope : String}

/-- A forest does not show the order of a listing. -/
theorem addListing_of_reordered {kind : Kind} {l m : Listing (Resource kind)} (h : l.Reordered m)
    (f : Forest) : f.addListing kind l = f.addListing kind m := by
  cases h with
  | failed e => rfl
  | listed hPerm _ hDistinct =>
      cases kind
      case pod => simp only [addListing, load, index_eq_of_perm hPerm hDistinct]
      all_goals simp only [addListing, load, index_owners_eq_of_perm hPerm hDistinct]

/-- So neither does the forest that all listings make, nor its summary. -/
theorem populate_of_reordered
    (h : ∀ kind ∈ Kind.workloads, (c.list kind scope).Reordered (d.list kind scope)) :
    populate c scope = populate d scope := by
  have hList : list c scope = list d scope :=
    list_congr fun kind hKind f => addListing_of_reordered (h kind hKind) f
  rw [populate, populate, hList]

end Forest

namespace PolicedNamespace

variable {k : Kind} {l m : Listing (Resource k)}

/-- Policies stand under their names, whatever the order in which they were listed. -/
theorem withObjects_of_reordered (h : l.Reordered m) (key : String) (detail : Resource k → Value)
    (report : Report) :
    withObjects key detail (objectsOf l) report = withObjects key detail (objectsOf m) report := by
  cases h with
  | failed e => rfl
  | @listed xs ys hPerm hNamed hDistinct =>
      have hKeys : ((xs.map fun r => (r.metadata.anyName, detail r)).map Prod.fst).Nodup := by
        rw [List.map_map]
        refine (List.map_congr_left fun r hr => ?_) ▸ hDistinct
        exact (Metadata.anyName_eq_ownName (hNamed r hr)).symm
      have hDetails := Dict.ofList_eq_of_perm (hPerm.map _) hKeys
      simp only [withObjects, objectsOf, List.isEmpty_iff_length_eq_zero, hPerm.length_eq,
        detailsByName, Value.ofFields, hDetails]

theorem noteError_of_reordered (h : l.Reordered m) : noteError k l = noteError k m := by
  cases h <;> rfl

theorem report_collect_of_reordered {c d : Cluster} {r : Resource .namespace}
    (h : ∀ kind,
      (c.list kind r.metadata.ownName).Reordered (d.list kind r.metadata.ownName)) :
    (collect c r).report = (collect d r).report := by
  have hErrors : (collect c r).errors = (collect d r).errors := by
    simp only [collect, noteError_of_reordered (h .limitRange),
      noteError_of_reordered (h .resourceQuota), noteError_of_reordered (h .podDisruptionBudget)]
  have hQuotas := withObjects_of_reordered (h .resourceQuota) "resourceQuotas" quotaDetail
  have hLimits := withObjects_of_reordered (h .limitRange) "limitRanges" limitsDetail
  have hBudgets :=
    withObjects_of_reordered (h .podDisruptionBudget) "podDisruptionBudgets" budgetDetail
  rw [report, report, hErrors]
  simp only [collect, hQuotas, hLimits, hBudgets]
  rfl

end PolicedNamespace

/-- Nodes are sorted before they are shown. -/
theorem Nodes.ofListing_of_reordered {l m : Listing (Resource .node)} (h : l.Reordered m) :
    Nodes.ofListing l = Nodes.ofListing m := by
  cases h with
  | failed e => rfl
  | @listed xs ys hPerm _ hDistinct =>
      have hNames : (xs.map fun r => r.metadata.name).Nodup := by
        refine List.Nodup.of_map (fun name => name.getD "") ?_
        rw [List.map_map]
        exact hDistinct
      exact congrArg Nodes.listed (mergeSort_key_eq_of_perm hPerm hNames)

/-- Two reports that differ in one detail at most. -/
structure Report.EqualBut (key : String) (r s : Report) : Prop where
  name : r.name = s.name
  status : r.status = s.status
  metadata : r.metadata = s.metadata
  children : r.children = s.children
  details : ∀ other, other ≠ key → r.details.get? other = s.details.get? other

theorem Report.EqualBut.refl (key : String) (r : Report) : r.EqualBut key r :=
  ⟨rfl, rfl, rfl, rfl, fun _ _ => rfl⟩

theorem Report.EqualBut.symm {key : String} {r s : Report} (h : r.EqualBut key s) :
    s.EqualBut key r :=
  ⟨h.name.symm, h.status.symm, h.metadata.symm, h.children.symm,
    fun other hOther => (h.details other hOther).symm⟩

theorem Report.EqualBut.trans {key : String} {r s t : Report} (h : r.EqualBut key s)
    (h' : s.EqualBut key t) : r.EqualBut key t :=
  ⟨h.name.trans h'.name, h.status.trans h'.status, h.metadata.trans h'.metadata,
    h.children.trans h'.children,
    fun other hOther => (h.details other hOther).trans (h'.details other hOther)⟩

theorem Report.equalBut_withOptionalDetail (r : Report) (key : String) (value : Option Value) :
    (r.withOptionalDetail key value).EqualBut key r := by
  cases value with
  | none => exact .refl key r
  | some v =>
      rw [withOptionalDetail]
      split
      · exact .refl key r
      · refine ⟨rfl, rfl, rfl, rfl, fun other hOther => ?_⟩
        rw [get?_details_withDetail, if_neg hOther]

namespace ControlPlane

variable {c d : Cluster}

/-- Whether some pod keeps an audit log does not depend on which pod comes first. -/
theorem auditLogKept_of_reordered
    (h : (c.podsLabelled "kube-system" "component" "kube-apiserver").Reordered
      (d.podsLabelled "kube-system" "component" "kube-apiserver")) :
    auditLogKept c = auditLogKept d := by
  rw [auditLogKept, auditLogKept]
  generalize c.podsLabelled "kube-system" "component" "kube-apiserver" = pods at h ⊢
  generalize d.podsLabelled "kube-system" "component" "kube-apiserver" = pods' at h ⊢
  cases h with
  | failed e => rfl
  | listed hPerm _ _ => exact hPerm.any_eq

/-- Only the provider, which the node listed first names, can differ. -/
theorem report_inspect_of_reordered {l m : Listing (Resource .node)} (h : l.Reordered m)
    (hAudit : auditLogKept c = auditLogKept d) :
    (report (inspect c l)).EqualBut "provider" (report (inspect d m)) := by
  cases h with
  | failed e => exact .refl _ _
  | listed hPerm _ _ =>
      simp only [inspect, ofNodes, hAudit, hPerm.countP_eq, report]
      exact (Report.equalBut_withOptionalDetail _ _ _).trans
        (Report.equalBut_withOptionalDetail _ _ _).symm

end ControlPlane

namespace Snapshot

/-- The objects of each kind are the same in any order, and the same listings fail alike. -/
structure Reordered (a b : Snapshot) : Prop where
  failures : a.failures = b.failures
  objects : ∀ kind, (a.objects kind).Perm (b.objects kind)

/-- Each object has a name that no other object of its kind has in the same namespace, nor in any if
the kind is cluster-wide. -/
structure DistinctlyNamed (s : Snapshot) : Prop where
  named : ∀ kind, ∀ r ∈ s.objects kind, r.metadata.name ≠ none
  distinct : ∀ kind, (s.objects kind).Pairwise fun x y =>
    isClusterWide kind = true ∨ x.metadata.scope = y.metadata.scope →
      x.metadata.name ≠ y.metadata.name

/-- The objects of each kind in the opposite order. -/
def reversed (s : Snapshot) : Snapshot :=
  { s with objects := fun kind => (s.objects kind).reverse }

theorem reordered_reversed (s : Snapshot) : s.Reordered s.reversed where
  failures := rfl
  objects _ := (List.reverse_perm _).symm

theorem ownName_ne_of_name_ne {m m' : Metadata} (hNamed : m.name ≠ none) (hNamed' : m'.name ≠ none)
    (h : m.name ≠ m'.name) : m.ownName ≠ m'.ownName := by
  obtain ⟨name, hName⟩ := Option.ne_none_iff_exists'.mp hNamed
  obtain ⟨name', hName'⟩ := Option.ne_none_iff_exists'.mp hNamed'
  simpa [Metadata.ownName, hName, hName'] using h

/-- Listings of two clusters with the same objects tell the same: a namespace selects from both
alike. -/
theorem Reordered.list {a b : Snapshot} (h : a.Reordered b) (hDistinct : a.DistinctlyNamed)
    (kind : Kind) (scope : String) : (a.list kind scope).Reordered (b.list kind scope) := by
  rw [Snapshot.list, Snapshot.list, ← h.failures]
  cases a.failures.find? fun f => f.error.kind == kind && f.scope == scope with
  | some f => exact .failed f.error
  | none =>
      have hNames {x y : Resource kind} (hx : x ∈ a.objects kind) (hy : y ∈ a.objects kind)
          (hNe : x.metadata.name ≠ y.metadata.name) : ownName x ≠ ownName y :=
        ownName_ne_of_name_ne (hDistinct.named kind x hx) (hDistinct.named kind y hy) hNe
      -- Names are apart within what is listed at once: all of the kind, or those of the namespace.
      cases hWide : isClusterWide kind with
      | true =>
          refine .listed (h.objects kind) (hDistinct.named kind) (List.pairwise_map.mpr ?_)
          refine (hDistinct.distinct kind).imp_of_mem fun hx hy hApart => ?_
          exact hNames hx hy (hApart (.inl hWide))
      | false =>
          refine .listed ((h.objects kind).filter _)
            (fun x hx => hDistinct.named kind x (List.mem_filter.mp hx).1)
            (List.pairwise_map.mpr ?_)
          refine ((hDistinct.distinct kind).sublist List.filter_sublist).imp_of_mem
            fun hx hy hApart => ?_
          obtain ⟨hX, hScopeX⟩ := List.mem_filter.mp hx
          obtain ⟨hY, hScopeY⟩ := List.mem_filter.mp hy
          have hScope := (eq_of_beq hScopeX).trans (eq_of_beq hScopeY).symm
          exact hNames hX hY (hApart (.inr hScope))

end Snapshot

/-- The same settings with another number of listings at a time. -/
def Config.withConcurrency (config : Config) (concurrency : Nat) : Config :=
  { config with collector := { config.collector with concurrency } }

namespace Inventory

section Scan

variable {c d : Cluster} {schedule₁ schedule₂ : Schedule} {m n : Nat}
  {xs ys : List (Resource .namespace)}

/-- Neither the order of namespaces nor that in which they are done shows in their section. -/
theorem namespacesReport_of_reordered
    (h : ∀ kind scope, (c.list kind scope).Reordered (d.list kind scope)) (hPerm : xs.Perm ys)
    (hDistinct : (xs.map ownName).Nodup) :
    namespacesReport (scanSelected schedule₁ c m xs).namespaces =
      namespacesReport (scanSelected schedule₂ d n ys).namespaces := by
  obtain ⟨reports₁, hReports₁, hSection₁⟩ := namespacesReport_scanSelected schedule₁ c m xs
  obtain ⟨reports₂, hReports₂, hSection₂⟩ := namespacesReport_scanSelected schedule₂ d n ys
  have hEach : (fun r => (PolicedNamespace.collect c r).report) =
      fun r => (PolicedNamespace.collect d r).report :=
    funext fun r => PolicedNamespace.report_collect_of_reordered fun kind => h kind _
  have hSame : reports₁.Perm reports₂ := by
    rw [hEach] at hReports₁
    exact hReports₁.trans ((hPerm.map _).trans hReports₂.symm)
  have hNames : (reports₁.map Report.name).Nodup := by
    rw [(hReports₁.map Report.name).nodup_iff, List.map_map]
    simpa [Function.comp_def] using hDistinct
  rw [hSection₁, hSection₂, Report.sortByName, mergeSort_key_eq_of_perm hSame hNames]
  rfl

/-- The forests are filed by namespace, and the summary adds up what does not depend on an order. -/
theorem workloads_of_reordered
    (h : ∀ kind scope, (c.list kind scope).Reordered (d.list kind scope)) (hPerm : xs.Perm ys) :
    (scanSelected schedule₁ c m xs).workloads = (scanSelected schedule₂ d n ys).workloads ∧
      (scanSelected schedule₁ c m xs).summary.adopted =
        (scanSelected schedule₂ d n ys).summary.adopted ∧
      (scanSelected schedule₁ c m xs).summary.orphans.Perm
        (scanSelected schedule₂ d n ys).summary.orphans := by
  have hForests : Forest.populate c = Forest.populate d :=
    funext fun scope => Forest.populate_of_reordered fun kind _ => h kind scope
  have hNames := hPerm.map fun r => r.metadata.anyName
  obtain ⟨hListed, hSummary⟩ :=
    Workloads.populate_of_perm hForests hNames schedule₁.workloads schedule₂.workloads m n
  exact ⟨congrArg Workloads.listed hListed, hSummary⟩

theorem scan_of_reordered (h : ∀ kind scope, (c.list kind scope).Reordered (d.list kind scope))
    (schedule₁ schedule₂ : Schedule) (config : Config) (m n : Nat) :
    namespacesReport (scan schedule₁ c (config.withConcurrency m)).namespaces =
        namespacesReport (scan schedule₂ d (config.withConcurrency n)).namespaces ∧
      (scan schedule₁ c (config.withConcurrency m)).workloads =
        (scan schedule₂ d (config.withConcurrency n)).workloads ∧
      (scan schedule₁ c (config.withConcurrency m)).summary.adopted =
        (scan schedule₂ d (config.withConcurrency n)).summary.adopted ∧
      (scan schedule₁ c (config.withConcurrency m)).summary.orphans.Perm
        (scan schedule₂ d (config.withConcurrency n)).summary.orphans := by
  have hListing := h .namespace ""
  generalize hFirst : c.list .namespace "" = first at hListing
  generalize hSecond : d.list .namespace "" = second at hListing
  cases hListing with
  | failed e =>
      rw [scan_of_error hFirst, scan_of_error hSecond]
      exact ⟨rfl, rfl, rfl, .rfl⟩
  | listed hPerm hNamed hDistinct =>
      rw [scan_of_ok hFirst, scan_of_ok hSecond]
      have hCovered := hPerm.filter fun r => config.selects r.metadata.anyName
      exact ⟨namespacesReport_of_reordered h hCovered
        (hDistinct.sublist (List.filter_sublist.map _)), workloads_of_reordered h hCovered⟩

end Scan

/-- What there is at the places of a report that are the same in every run. -/
theorem find?_report (i : Inventory) :
    i.report.find? ["Namespaces"] = some (namespacesReport i.namespaces) ∧
      i.report.find? ["Namespaced Workloads"] = some i.workloads.report ∧
      i.report.find? ["Cluster Components", "Nodes"] = some i.components.nodes.report ∧
      i.report.find? ["Cluster Components", "Control Plane"] =
        some (ControlPlane.report i.components.controlPlane) := by
  obtain ⟨hComponents, hNamespaces, hWorkloads⟩ := child?_report i
  obtain ⟨hNodes, hControlPlane⟩ := Components.child?_report i.components
  simp only [Report.find?_single, Report.find?_pair, hComponents, Option.bind_some]
  exact ⟨hNamespaces, hWorkloads, hNodes, hControlPlane⟩

/-- Two clusters with the same objects, of which the listings fail alike, have the same reports,
whatever the order of the objects and of completion, and whatever the number of listings at a time.
Only the provider may differ, and the order of the orphans. -/
theorem collect_reproducible {a b : Snapshot} (hSame : a.Reordered b)
    (hDistinct : a.DistinctlyNamed) {site₁ site₂ : Site} (hCluster₁ : site₁.cluster = a.cluster)
    (hCluster₂ : site₂.cluster = b.cluster) {schedule₁ schedule₂ : Schedule} {config : Config}
    {m n : Nat} {runner₁ runner₂ : Option Check.Runner} {i₁ i₂ : Inventory}
    (hTaken₁ : collect schedule₁ site₁ (config.withConcurrency m) runner₁ = .ok i₁)
    (hTaken₂ : collect schedule₂ site₂ (config.withConcurrency n) runner₂ = .ok i₂) :
    (∃ part, i₁.report.find? ["Namespaces"] = some part ∧
        i₂.report.find? ["Namespaces"] = some part) ∧
      (∃ part, i₁.report.find? ["Namespaced Workloads"] = some part ∧
        i₂.report.find? ["Namespaced Workloads"] = some part) ∧
      (∃ part, i₁.report.find? ["Cluster Components", "Nodes"] = some part ∧
        i₂.report.find? ["Cluster Components", "Nodes"] = some part) ∧
      (∃ part₁ part₂, i₁.report.find? ["Cluster Components", "Control Plane"] = some part₁ ∧
        i₂.report.find? ["Cluster Components", "Control Plane"] = some part₂ ∧
        part₁.EqualBut "provider" part₂) ∧
      i₁.summary.adopted = i₂.summary.adopted ∧ i₁.summary.orphans.Perm i₂.summary.orphans := by
  have hLists : ∀ kind scope,
      (site₁.cluster.list kind scope).Reordered (site₂.cluster.list kind scope) := by
    rw [hCluster₁, hCluster₂]
    exact hSame.list hDistinct
  have hAudit :
      ControlPlane.auditLogKept site₁.cluster = ControlPlane.auditLogKept site₂.cluster := by
    have hPods := hSame.list hDistinct .pod "kube-system"
    rw [hCluster₁, hCluster₂]
    exact ControlPlane.auditLogKept_of_reordered (hPods.filter _)
  obtain ⟨hParts₁, hPolicies₁, hForests₁, hSummary₁, -⟩ := of_collect_eq_ok hTaken₁
  obtain ⟨hParts₂, hPolicies₂, hForests₂, hSummary₂, -⟩ := of_collect_eq_ok hTaken₂
  obtain ⟨hPolicies, hForests, hAdopted, hOrphans⟩ :=
    scan_of_reordered hLists schedule₁ schedule₂ config m n
  obtain ⟨hAtPolicies₁, hAtForests₁, hAtNodes₁, hAtPlane₁⟩ := find?_report i₁
  obtain ⟨hAtPolicies₂, hAtForests₂, hAtNodes₂, hAtPlane₂⟩ := find?_report i₂
  refine ⟨⟨_, hAtPolicies₁, ?_⟩, ⟨_, hAtForests₁, ?_⟩, ⟨_, hAtNodes₁, ?_⟩,
    ⟨_, _, hAtPlane₁, hAtPlane₂, ?_⟩, ?_, ?_⟩
  · rw [hAtPolicies₂, hPolicies₁, hPolicies₂, hPolicies]
  · rw [hAtForests₂, hForests₁, hForests₂, hForests]
  · rw [hAtNodes₂, hParts₁, hParts₂, Components.collect, Components.collect]
    exact congrArg (some ·.report) (Nodes.ofListing_of_reordered (hLists .node "")).symm
  · rw [hParts₁, hParts₂]
    exact ControlPlane.report_inspect_of_reordered (hLists .node "") hAudit
  · rw [hSummary₁, hSummary₂, hAdopted]
  · rw [hSummary₁, hSummary₂]
    exact hOrphans

/-- Two namespaces with a pod of the same name each, on nodes of two providers; in one of the
namespaces jobs cannot be listed. -/
def twoClouds : Snapshot where
  objects
    | .namespace => [bareNamespace "shop", bareNamespace "lab"]
    | .node => [("east", "aws:///1"), ("west", "gce:///2")].map fun node =>
      ⟨{ Metadata.empty with name := some node.1 },
        some (.object [("providerID", .string node.2)]), none⟩
    | .pod => ["shop", "lab"].map fun scope =>
      ⟨{ Metadata.empty with name := some "web-0", scope := some scope }, none, none⟩
    | _ => []
  failures := [⟨"lab", .broken .job "reset"⟩]

theorem distinctlyNamed_twoClouds : twoClouds.DistinctlyNamed where
  named kind := by cases kind <;> decide
  distinct kind := by cases kind <;> decide

/-- The site at which a snapshot was taken, without files and without a network. -/
def siteOf (s : Snapshot) : Site := ⟨s.cluster, ⟨∅, []⟩, fun _ => false⟩

theorem collect_reproducible_twoClouds :
    ∃ i₁ i₂, collect .inOrder (siteOf twoClouds) (Config.default.withConcurrency 0) none = .ok i₁ ∧
      collect ⟨⟨fun turn => turn + 1⟩, ⟨fun _ => 1⟩, .inOrder⟩ (siteOf twoClouds.reversed)
        (Config.default.withConcurrency 2) none = .ok i₂ ∧
      (∃ part, i₁.report.find? ["Namespaces"] = some part ∧
        i₂.report.find? ["Namespaces"] = some part) ∧
      ∃ part, i₁.report.find? ["Namespaced Workloads"] = some part ∧
        i₂.report.find? ["Namespaced Workloads"] = some part := by
  obtain ⟨i₁, hTaken₁⟩ : ∃ i, collect .inOrder (siteOf twoClouds)
      (Config.default.withConcurrency 0) none = .ok i := ⟨_, rfl⟩
  obtain ⟨i₂, hTaken₂⟩ : ∃ i, collect ⟨⟨fun turn => turn + 1⟩, ⟨fun _ => 1⟩, .inOrder⟩
      (siteOf twoClouds.reversed) (Config.default.withConcurrency 2) none = .ok i := ⟨_, rfl⟩
  obtain ⟨hPolicies, hWorkloads, -⟩ := collect_reproducible twoClouds.reordered_reversed
    distinctlyNamed_twoClouds rfl rfl hTaken₁ hTaken₂
  exact ⟨i₁, i₂, hTaken₁, hTaken₂, hPolicies, hWorkloads⟩

end Inventory

end KubeInventory
