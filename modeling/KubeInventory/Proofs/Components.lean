import KubeInventory.Proofs.Collection
import KubeInventory.Proofs.Fields
import KubeInventory.Proofs.LabelPolicy

/-! The parts of a cluster that belong to no namespace. The nodes and the control plane come from
one listing: the nodes stand by name, whereas the provider is that of the node listed first. The
container network and the network status are those of the machine, whatever the cluster answers. -/

namespace KubeInventory

open HasMetadata (ownName)

/-- The order of names, in which a missing name comes before all others. -/
def Nodes.NameLE (a b : Option String) : Prop := ∀ m, a = some m → ∃ n, b = some n ∧ m ≤ n

/-- The nodes of a listing, each once, by name; nodes of one name stand as they were listed. -/
structure Nodes.ShowsListed (listed : List (Resource .node)) (report : Report) : Prop where
  status : report.status = "complete"
  children : ∃ ordered : List (Resource .node),
    report.children = ordered.map Resource.nodeReport ∧
    report.children.map Report.name = ordered.map ownName ∧
    ordered.Perm listed ∧
    (ordered.Pairwise fun a b => Nodes.NameLE a.metadata.name b.metadata.name) ∧
    ∀ name, ordered.filter (·.metadata.name == name) = listed.filter (·.metadata.name == name)

/-- Whether the labels of a node tell that it runs a control plane. -/
def Resource.RunsControlPlane (r : Resource .node) : Prop :=
  r.Carries "node-role.kubernetes.io/master" ∨ r.Carries "node-role.kubernetes.io/control-plane"

instance (r : Resource .node) : Decidable r.RunsControlPlane := inferInstanceAs (Decidable (_ ∨ _))

/-- Whether the identifier of a node names the provider: its mark stands there, and that of no
provider before it. -/
def Resource.HasProvider (r : Resource .node) (name : String) : Prop :=
  ∃ id, r.specField? "providerID" = some (.string id) ∧
    ∃ mark before after, [("AWS", "aws://"), ("GKE", "gce://"), ("Azure", "azure://")] =
      before ++ (name, mark) :: after ∧ mark.toList <:+: id.toList ∧
      ∀ earlier ∈ before, ¬earlier.2.toList <:+: id.toList

/-- Whether an option that turns on an audit log stands in a word of the container's command or of
its arguments. -/
def Container.SetsAuditLog (container : Value) : Prop :=
  ∃ field ∈ ["command", "args"], ∃ words, container.field? field = some (.list words) ∧
    ∃ word, .string word ∈ words ∧
      ("audit-log-path".toList <:+: word.toList ∨
        "audit-webhook-config-file".toList <:+: word.toList)

/-- Whether some container of the pod is started with such an option. -/
def Resource.SetsAuditLog (pod : Resource .pod) : Prop :=
  ∃ containers, pod.specField? "containers" = some (.list containers) ∧
    ∃ container ∈ containers, Container.SetsAuditLog container

namespace ControlPlane

/-- How many nodes run the control plane; one that has both labels counts once. -/
def replicas (listed : List (Resource .node)) : Nat := listed.countP fun r => r.RunsControlPlane

/-- What is shown of the control plane of a cluster whose nodes could be listed. -/
structure ShowsInspected (c : Cluster) (listed : List (Resource .node)) (report : Report) :
    Prop where
  status : report.status = "complete"
  numNodes : report.details.get? "numNodes" = some (.int (replicas listed))
  isHA : report.details.get? "isHA" = some (.bool (decide (1 < replicas listed)))
  provider : ∀ value, report.details.get? "provider" = some value ↔
    ∃ first rest name, listed = first :: rest ∧ first.HasProvider name ∧ value = .string name
  auditLogEnabled : ∃ kept, report.details.get? "auditLogEnabled" = some (.bool kept) ∧
    (kept = true ↔ ∃ pods,
      c.podsLabelled "kube-system" "component" "kube-apiserver" = .ok pods ∧
      ∃ pod ∈ pods, pod.SetsAuditLog)

end ControlPlane

@[simp] theorem Resource.name_nodeReport (r : Resource .node) : r.nodeReport.name = ownName r := by
  simp only [nodeReport, Report.name_withOptionalDetail, Report.name_withDetail]
  rfl

namespace Nodes

theorem nameLE_iff {a b : Option String} : NameLE a b ↔ (compare a b).isLE = true := by
  cases a with
  | none => cases b <;> simp [NameLE, compare]
  | some m =>
      cases b with
      | none => simp [NameLE, compare]
      | some n =>
          have hText : m ≤ n ↔ (compare m n).isLE = true :=
            compare_le_iff_le.symm.trans Ordering.ne_gt_iff_isLE
          refine Iff.trans ?_ hText
          simp [NameLE]

/-- Sorting by name keeps each node and the order of those that share a name. -/
theorem showsListed_report (listed : List (Resource .node)) :
    ShowsListed listed (ofListing (.ok listed)).report where
  status := rfl
  children := by
    refine ⟨sorted listed, rfl, ?_, List.mergeSort_perm _ _, ?_, ?_⟩
    · change ((sorted listed).map Resource.nodeReport).map Report.name = _
      simp [Function.comp_def]
    · simp only [nameLE_iff]
      exact pairwise_mergeSort_key (fun r : Resource .node => r.metadata.name) listed
    · exact filter_mergeSort_key (fun r : Resource .node => r.metadata.name) listed

end Nodes

theorem Resource.isControlPlane_iff {r : Resource .node} :
    r.isControlPlane = true ↔ r.RunsControlPlane := by
  rw [RunsControlPlane, carries_iff, carries_iff]
  simp [isControlPlane, controlPlaneLabels]

/-- The mark that a provider goes by is the first of the marks that stand in an identifier. -/
theorem Provider.exists_find?_mark_iff {id name : String} :
    (∃ provider, [Provider.aws, .gke, .azure].find? (fun p => Text.holds id p.mark) =
        some provider ∧ provider.name = name) ↔
      ∃ mark before after, [("AWS", "aws://"), ("GKE", "gce://"), ("Azure", "azure://")] =
        before ++ (name, mark) :: after ∧ mark.toList <:+: id.toList ∧
        ∀ earlier ∈ before, ¬earlier.2.toList <:+: id.toList := by
  have hMarks : [("AWS", "aws://"), ("GKE", "gce://"), ("Azure", "azure://")] =
      [Provider.aws, .gke, .azure].map fun provider => (provider.name, provider.mark) := rfl
  have hFind : [("AWS", "aws://"), ("GKE", "gce://"), ("Azure", "azure://")].find?
      (fun entry => Text.holds id entry.2) =
      ([Provider.aws, .gke, .azure].find? fun p => Text.holds id p.mark).map
        fun provider => (provider.name, provider.mark) := by
    rw [hMarks, List.find?_map]
    rfl
  have hFirst (mark : String) : [("AWS", "aws://"), ("GKE", "gce://"), ("Azure", "azure://")].find?
      (fun entry => Text.holds id entry.2) = some (name, mark) ↔
      ∃ before after, [("AWS", "aws://"), ("GKE", "gce://"), ("Azure", "azure://")] =
        before ++ (name, mark) :: after ∧ mark.toList <:+: id.toList ∧
        ∀ earlier ∈ before, ¬earlier.2.toList <:+: id.toList := by
    simp only [List.find?_eq_some_iff_append, Bool.not_eq_true', ← Bool.not_eq_true, Text.holds_iff]
    constructor
    · rintro ⟨hMark, before, after, hSplit, hEarlier⟩
      exact ⟨before, after, hSplit, hMark, hEarlier⟩
    · rintro ⟨before, after, hSplit, hMark, hEarlier⟩
      exact ⟨hMark, before, after, hSplit, hEarlier⟩
  simp only [← hFirst, hFind, Option.map_eq_some_iff]
  constructor
  · rintro ⟨provider, hProvider, rfl⟩
    exact ⟨provider.mark, provider, hProvider, rfl⟩
  · rintro ⟨mark, provider, hProvider, hEntry⟩
    exact ⟨provider, hProvider, congrArg Prod.fst hEntry⟩

/-- The provider of a node is read from its identifier, which may be missing or no text. -/
theorem Resource.hasProvider_iff {r : Resource .node} {name : String} :
    r.HasProvider name ↔ ∃ provider, r.provider? = some provider ∧ provider.name = name := by
  simp only [provider?, HasProvider, Option.bind_eq_bind, Option.bind_eq_some_iff,
    Value.string?_eq_some_iff]
  constructor
  · rintro ⟨id, hId, hFirst⟩
    obtain ⟨provider, hFound, hName⟩ := Provider.exists_find?_mark_iff.mpr hFirst
    exact ⟨provider, ⟨.string id, hId, id, rfl, hFound⟩, hName⟩
  · rintro ⟨provider, ⟨_, hId, id, rfl, hFound⟩, hName⟩
    exact ⟨id, hId, Provider.exists_find?_mark_iff.mp ⟨provider, hFound, hName⟩⟩

/-- The options are looked for in command and arguments together. -/
theorem Container.keepsAuditLog_iff {container : Value} :
    (ofValue container).keepsAuditLog = true ↔ SetsAuditLog container := by
  have hFlag (word : String) : auditFlags.any (Text.holds word) = true ↔
      "audit-log-path".toList <:+: word.toList ∨
        "audit-webhook-config-file".toList <:+: word.toList := by
    simp [auditFlags, Text.holds_iff]
  simp only [keepsAuditLog, ofValue, List.any_eq_true, List.mem_append, hFlag,
    Value.mem_textsField?_iff, SetsAuditLog]
  constructor
  · rintro ⟨word, ⟨words, hField, hWord⟩ | ⟨words, hField, hWord⟩, hHolds⟩
    · exact ⟨"command", by simp, words, hField, word, hWord, hHolds⟩
    · exact ⟨"args", by simp, words, hField, word, hWord, hHolds⟩
  · rintro ⟨key, hKey, words, hField, word, hWord, hHolds⟩
    simp only [List.mem_cons, List.not_mem_nil, or_false] at hKey
    rcases hKey with rfl | rfl
    · exact ⟨word, .inl ⟨words, hField, hWord⟩, hHolds⟩
    · exact ⟨word, .inr ⟨words, hField, hWord⟩, hHolds⟩

theorem Resource.keepsAuditLog_iff {pod : Resource .pod} :
    pod.keepsAuditLog = true ↔ pod.SetsAuditLog := by
  simp only [keepsAuditLog, containers, List.any_eq_true, List.mem_map, exists_exists_and_eq_and,
    Container.keepsAuditLog_iff, Value.mem_itemsOf_iff, SetsAuditLog]
  constructor
  · rintro ⟨container, ⟨items, hItems, hMem⟩, hSets⟩
    exact ⟨items, hItems, container, hMem, hSets⟩
  · rintro ⟨items, hItems, container, hMem, hSets⟩
    exact ⟨container, ⟨items, hItems, hMem⟩, hSets⟩

namespace ControlPlane

variable {c : Cluster} {listed : List (Resource .node)}

theorem auditLogKept_iff :
    auditLogKept c = true ↔ ∃ pods,
      c.podsLabelled "kube-system" "component" "kube-apiserver" = .ok pods ∧
      ∃ pod ∈ pods, pod.SetsAuditLog := by
  rw [auditLogKept]
  cases c.podsLabelled "kube-system" "component" "kube-apiserver" with
  | error e => simp
  | ok pods => simp [Resource.keepsAuditLog_iff]

theorem nodeCount_ofNodes (kept : Bool) : (ofNodes listed kept).nodeCount = replicas listed := by
  simp only [ofNodes, replicas, ← Resource.isControlPlane_iff, Bool.decide_eq_true]

/-- Nodes are counted, so their order does not matter. -/
theorem replicas_eq_of_perm {others : List (Resource .node)} (h : listed.Perm others) :
    replicas listed = replicas others :=
  h.countP_eq _

theorem provider_report (p : ControlPlane) : (report (.ok p)).details.get? "provider" =
    p.provider.map fun provider => .string provider.name := by
  rw [report, Report.get?_details_withOptionalDetail, if_pos rfl]
  cases p.provider with
  | none => simp [Report.get?_details_withDetail, Report.new]
  | some provider => simp [Option.filter, Value.isNull]

/-- What the control plane shows rests on the nodes in their order for the provider, on their number
for the rest, and on a listing of its own for the audit log. -/
theorem showsInspected_report (c : Cluster) (listed : List (Resource .node)) :
    ShowsInspected c listed (report (inspect c (.ok listed))) := by
  rw [inspect]
  constructor
  case status =>
    rw [report, Report.status_withOptionalDetail]
    rfl
  case numNodes =>
    simp [report, Report.get?_details_withOptionalDetail, Report.get?_details_withDetail,
      nodeCount_ofNodes]
  case isHA =>
    simp [report, Report.get?_details_withOptionalDetail, Report.get?_details_withDetail,
      isHighlyAvailable, nodeCount_ofNodes]
  case provider =>
    intro value
    rw [provider_report]
    cases listed with
    | nil => simp [ofNodes]
    | cons first rest => simp [ofNodes, Resource.hasProvider_iff, @eq_comm _ value]
  case auditLogEnabled =>
    refine ⟨auditLogKept c, ?_, auditLogKept_iff⟩
    simp [report, Report.get?_details_withOptionalDetail, Report.get?_details_withDetail, ofNodes]

end ControlPlane

/-- The report of the nodes of a cluster. -/
def Cluster.nodesReport (c : Cluster) : Report := (Nodes.ofListing (c.list .node "")).report

/-- The report of the control plane of a cluster. -/
def Cluster.controlPlaneReport (c : Cluster) : Report :=
  ControlPlane.report (ControlPlane.inspect c (c.list .node ""))

namespace Cluster

variable {c d : Cluster} {listed : List (Resource .node)}

theorem unread_of_error {e : FetchError} (h : c.list .node "" = .error e) :
    c.nodesReport.Unread e.message ∧ c.controlPlaneReport.Unread e.message := by
  rw [nodesReport, controlPlaneReport, h]
  exact ⟨Report.unread_ofError _ _, Report.unread_ofError _ _⟩

theorem shows_of_ok (h : c.list .node "" = .ok listed) :
    Nodes.ShowsListed listed c.nodesReport ∧
      ControlPlane.ShowsInspected c listed c.controlPlaneReport := by
  rw [nodesReport, controlPlaneReport, h]
  exact ⟨Nodes.showsListed_report listed, ControlPlane.showsInspected_report c listed⟩

theorem numNodes_eq_of_perm {others : List (Resource .node)}
    (hListed : c.list .node "" = .ok listed) (hOthers : d.list .node "" = .ok others)
    (hPerm : listed.Perm others) :
    c.controlPlaneReport.details.get? "numNodes" =
      d.controlPlaneReport.details.get? "numNodes" := by
  rw [(shows_of_ok hListed).2.numNodes, (shows_of_ok hOthers).2.numNodes,
    ControlPlane.replicas_eq_of_perm hPerm]

end Cluster

/-- The parts of a cluster are shown in a fixed order. If its nodes cannot be listed, the nodes and
the control plane tell that error; otherwise they show what was listed. The container network and
the network status do not depend on the cluster, nor does it show in the number of control plane
nodes in which order the nodes were listed. -/
theorem Components.collect_report_shows_cluster (files : FileTree) (resolves : String → Bool)
    (settings : Config.Machine) :
    ∃ (cni network : Report) (nodes controlPlane : Cluster → Report),
      (∀ c, (collect ⟨c, files, resolves⟩ settings).report =
        ⟨"Cluster Components", "complete", ∅, ∅, [nodes c, cni, controlPlane c, network]⟩) ∧
      cni.name = "CNI" ∧ network.name = "Network Status" ∧
      (∀ c, (nodes c).name = "Nodes" ∧ (controlPlane c).name = "Control Plane") ∧
      (∀ c e, c.list .node "" = .error e →
        (nodes c).Unread e.message ∧ (controlPlane c).Unread e.message) ∧
      (∀ c listed, c.list .node "" = .ok listed →
        Nodes.ShowsListed listed (nodes c) ∧
        ControlPlane.ShowsInspected c listed (controlPlane c)) ∧
      ∀ c d xs ys, c.list .node "" = .ok xs → d.list .node "" = .ok ys → xs.Perm ys →
        (controlPlane c).details.get? "numNodes" = (controlPlane d).details.get? "numNodes" := by
  refine ⟨Cni.report (Cni.discover files settings.cniConfDir settings.cniBinDir),
    (NetworkStatus.probe resolves settings.dnsProbeHost).report, Cluster.nodesReport,
    Cluster.controlPlaneReport, fun c => rfl, Cni.name_report _, rfl, fun c => ?_, ?_, ?_, ?_⟩
  · exact ⟨Nodes.name_report _, ControlPlane.name_report _⟩
  · exact fun c e => Cluster.unread_of_error
  · exact fun c listed => Cluster.shows_of_ok
  · exact fun c d xs ys => Cluster.numNodes_eq_of_perm

end KubeInventory
