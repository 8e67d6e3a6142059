import KubeInventory.Text.Duration
import KubeInventory.Yaml.Value

/-! The settings of an inventory. -/

namespace KubeInventory

namespace Config

/-- How the cluster is asked. -/
structure Collector where
  concurrency : Nat
  requestTimeoutSeconds : Nat
  deriving DecidableEq, Repr

/-- Where the facts about the machine are found. -/
structure Machine where
  cniConfDir : String
  cniBinDir : String
  dnsProbeHost : String
  deriving DecidableEq, Repr

/-- A check to run, with a specification that its kind understands. -/
structure Check where
  name : String
  description : Option String
  kind : String
  spec : Yaml.Value
  deriving BEq, Repr

def Collector.default : Collector := ⟨8, 30⟩

def Machine.default : Machine := ⟨"/etc/cni/net.d", "/opt/cni/bin", "google.com"⟩

end Config

structure Config where
  context : Option String
  /-- The namespaces to cover; if there are none, all. -/
  namespaces : List String
  excludeNamespaces : List String
  collector : Config.Collector
  cluster : Config.Machine
  checks : List Config.Check
  deriving BEq, Repr

namespace Config

def default : Config := ⟨none, [], [], .default, .default, []⟩

instance : Inhabited Config := ⟨default⟩

def requestTimeout (c : Config) : Duration := .ofSeconds c.collector.requestTimeoutSeconds

/-- Whether the inventory covers a namespace. -/
def selects (c : Config) (scope : String) : Bool :=
  (c.namespaces.isEmpty || c.namespaces.contains scope) && !c.excludeNamespaces.contains scope

end Config

end KubeInventory
