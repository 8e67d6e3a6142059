import KubeInventory.Cluster.ControlPlane
import KubeInventory.Cni.Discovery
import KubeInventory.Config

/-! The parts of a cluster that belong to no namespace. -/

namespace KubeInventory

/-- What an inventory is taken of: a cluster, and the machine from which it is seen. -/
structure Site where
  cluster : Cluster
  files : FileTree
  /-- Whether the machine can resolve the name of a host. -/
  resolves : String → Bool

/-- Whether a host outside the cluster can be resolved. -/
structure NetworkStatus where
  probeHost : String
  externalDns : Bool
  deriving DecidableEq, Repr

namespace NetworkStatus

def probe (resolves : String → Bool) (host : String) : NetworkStatus := ⟨host, resolves host⟩

def report (s : NetworkStatus) : Report :=
  (Report.new "Network Status" Report.complete).withDetail "externalDNS" (.bool s.externalDns)

end NetworkStatus

structure Components where
  nodes : Nodes
  cni : Except Cni.DiscoveryError Cni.Finding
  controlPlane : Except String ControlPlane
  network : NetworkStatus

namespace Components

/-- Gathers the components. A part that fails leaves the others as they are. -/
def collect (site : Site) (settings : Config.Machine) : Components :=
  let nodes := site.cluster.list .node ""
  { nodes := .ofListing nodes
    cni := Cni.discover site.files settings.cniConfDir settings.cniBinDir
    controlPlane := ControlPlane.inspect site.cluster nodes
    network := .probe site.resolves settings.dnsProbeHost }

def report (c : Components) : Report :=
  (Report.new "Cluster Components" Report.complete).withChildren
    [c.nodes.report, Cni.report c.cni, ControlPlane.report c.controlPlane, c.network.report]

end Components

end KubeInventory
