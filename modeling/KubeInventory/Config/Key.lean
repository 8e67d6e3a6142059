import KubeInventory.Config.Document
import KubeInventory.Config.Error
import KubeInventory.Environment
import KubeInventory.Text.Blank

/-! Single settings, by the keys that name them. -/

namespace KubeInventory.Config

inductive Key where
  | context
  | namespaces
  | excludeNamespaces
  | concurrency
  | requestTimeout
  | cniConfDir
  | cniBinDir
  | dnsProbeHost
  | checks
  deriving DecidableEq, Repr

namespace Key

def all : List Key :=
  [context, namespaces, excludeNamespaces, concurrency, requestTimeout, cniConfDir, cniBinDir,
    dnsProbeHost, checks]

def name : Key → String
  | context => "context"
  | namespaces => "namespaces"
  | excludeNamespaces => "excludeNamespaces"
  | concurrency => "collector.concurrency"
  | requestTimeout => "collector.requestTimeoutSeconds"
  | cniConfDir => "cluster.cniConfDir"
  | cniBinDir => "cluster.cniBinDir"
  | dnsProbeHost => "cluster.dnsProbeHost"
  | checks => "checks"

def ofName? (name : String) : Option Key := all.find? (·.name == name)

end Key

def joinList (items : List String) : String := ",".intercalate items

/-- The text of a setting. Lists are joined with commas; the checks are shown as a document. -/
def setting (c : Config) : Key → String
  | .context => c.context.getD ""
  | .namespaces => joinList c.namespaces
  | .excludeNamespaces => joinList c.excludeNamespaces
  | .concurrency => toString c.collector.concurrency
  | .requestTimeout => toString c.collector.requestTimeoutSeconds
  | .cniConfDir => c.cluster.cniConfDir
  | .cniBinDir => c.cluster.cniBinDir
  | .dnsProbeHost => c.cluster.dnsProbeHost
  | .checks => Yaml.write (checksDocument c.checks)

def lookup (c : Config) (key : String) : Except ConfigError String :=
  match Key.ofName? key with
  | some key => .ok (c.setting key)
  | none => .error (.unknownKey key)

/-- Reads the number that a setting takes. -/
def readNumber (key : Key) (value : String) : Except ConfigError Nat :=
  (Text.readUnsigned Text.maxWord value).mapError (.notNumber key.name)

/-- Changes a setting. An empty context unsets it. -/
def withSetting (env : Environment) (c : Config) (value : String) : Key → Except ConfigError Config
  | .context => .ok { c with context := if value.isEmpty then none else some value }
  | .namespaces => .ok { c with namespaces := Text.splitList value }
  | .excludeNamespaces => .ok { c with excludeNamespaces := Text.splitList value }
  | .concurrency => do
    return { c with
      collector := { c.collector with concurrency := ← readNumber .concurrency value } }
  | .requestTimeout => do
    return { c with
      collector := { c.collector with
        requestTimeoutSeconds := ← readNumber .requestTimeout value } }
  | .cniConfDir => .ok { c with cluster := { c.cluster with cniConfDir := value } }
  | .cniBinDir => .ok { c with cluster := { c.cluster with cniBinDir := value } }
  | .dnsProbeHost => .ok { c with cluster := { c.cluster with dnsProbeHost := value } }
  | .checks => .error (.checksNotSettable env.rootConfigPath)

def assign (env : Environment) (c : Config) (key value : String) : Except ConfigError Config :=
  match Key.ofName? key with
  | some key => c.withSetting env value key
  | none => .error (.unknownKey key)

/-- Assigns a text to a key of the settings at hand. These change at the end, when nothing can go
wrong any more. -/
def update (env : Environment) (key value : String) : ExceptT ConfigError (StateM Config) Unit := do
  let c ← (← getThe Config).assign env key value
  set c

end KubeInventory.Config
