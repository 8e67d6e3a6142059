import KubeInventory.Cluster.Node
import KubeInventory.Text.Part

/-! The control plane of a cluster: who provides it, how many nodes it has, and whether its servers
keep an audit log. -/

namespace KubeInventory

/-- The providers that a node can name. -/
inductive Provider where
  | aws
  | gke
  | azure
  deriving DecidableEq, Repr

namespace Provider

def name : Provider → String
  | aws => "AWS"
  | gke => "GKE"
  | azure => "Azure"

/-- What marks the provider's identifiers. -/
def mark : Provider → String
  | aws => "aws://"
  | gke => "gce://"
  | azure => "azure://"

end Provider

/-- The options that turn on an audit log. -/
def Container.auditFlags : List String := ["audit-log-path", "audit-webhook-config-file"]

/-- Whether a container is started with an option that turns on an audit log. -/
def Container.keepsAuditLog (c : Container) : Bool :=
  (c.command.getD [] ++ c.args.getD []).any fun word => auditFlags.any (Text.holds word)

namespace Resource

/-- The provider of a node, the first whose mark its provider identifier holds. -/
def provider? (r : Resource .node) : Option Provider := do
  let id ← (← r.specField? "providerID").string?
  [Provider.aws, .gke, .azure].find? fun provider => Text.holds id provider.mark

/-- The labels of the nodes that run a control plane. -/
def controlPlaneLabels : List String :=
  ["node-role.kubernetes.io/master", "node-role.kubernetes.io/control-plane"]

def isControlPlane (r : Resource .node) : Bool :=
  controlPlaneLabels.any r.metadata.labels.contains

def keepsAuditLog (r : Resource .pod) : Bool := r.containers.any Container.keepsAuditLog

end Resource

/-- What is known of a control plane. -/
structure ControlPlane where
  provider : Option Provider
  nodeCount : Nat
  keepsAuditLog : Bool
  deriving DecidableEq, Repr

namespace ControlPlane

/-- What the nodes of a cluster tell, in the order of their listing. -/
def ofNodes (nodes : List (Resource .node)) (keepsAuditLog : Bool) : ControlPlane :=
  { provider := nodes.head?.bind Resource.provider?
    nodeCount := nodes.countP Resource.isControlPlane
    keepsAuditLog }

/-- Whether the control plane outlives the loss of a node. -/
def isHighlyAvailable (p : ControlPlane) : Bool := 1 < p.nodeCount

/-- Whether some server of the cluster is known to keep an audit log. -/
def auditLogKept (c : Cluster) : Bool :=
  match c.podsLabelled "kube-system" "component" "kube-apiserver" with
  | .ok pods => pods.any Resource.keepsAuditLog
  | .error _ => false

/-- Inspects the control plane, or tells the error that kept the nodes from being listed. -/
def inspect (c : Cluster) : Listing (Resource .node) → Except String ControlPlane
  | .ok nodes => .ok (ofNodes nodes (auditLogKept c))
  | .error e => .error e.message

def sectionName : String := "Control Plane"

def report : Except String ControlPlane → Report
  | .ok p =>
    (Report.new sectionName Report.complete)
      |>.withDetail "auditLogEnabled" (.bool p.keepsAuditLog)
      |>.withDetail "isHA" (.bool p.isHighlyAvailable)
      |>.withDetail "numNodes" (.int p.nodeCount)
      |>.withOptionalDetail "provider" (p.provider.map fun provider => .string provider.name)
  | .error error => .ofError sectionName error

end ControlPlane

end KubeInventory
