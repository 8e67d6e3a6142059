import KubeInventory.Json.Decode
import KubeInventory.Report.Text

/-! Container networks as their configuration files define them: a list of plugins, or a single
plugin that stands for a list of one. -/

namespace KubeInventory.Cni

structure Plugin where
  name : Option String
  version : Option String
  type : String
  capabilities : Option Value
  ipam : Option Value
  dns : Option Value
  deriving BEq, Repr

structure Network where
  name : String
  version : String
  disableCheck : Bool
  plugins : List Plugin
  deriving BEq, Repr

/-- The two forms of a configuration file. -/
inductive Form where
  | list
  | single
  deriving DecidableEq, Repr

/-- What is said of a file that does not have its form. -/
def Form.message : Form → String
  | .list => "invalid conflist"
  | .single => "invalid conf"

/-- An optional part: missing or null, or what it reads as. -/
def optional {α : Type} (part : Option Json.Syntax) (read : Json.Syntax → Option α) :
    Option (Option α) :=
  match part with
  | none | some .null => some none
  | some part => (read part).map some

namespace Plugin

def fieldNames : List String := ["name", "cniVersion", "type", "capabilities", "ipam", "dns"]

/-- Reads a plugin. `depth` bounds the nesting. -/
def ofJson? : Nat → Json.Syntax → Option Plugin
  | 0, _ => none
  | depth + 1, j => do
    let [name, version, type, capabilities, ipam, dns] ← j.record? fieldNames | none
    return {
      name := ← optional name Json.Syntax.string?
      version := ← optional version Json.Syntax.string?
      type := ← Record.orElse type "" Json.Syntax.string?
      capabilities := ← optional capabilities (Json.Syntax.value? depth)
      ipam := ← optional ipam (Json.Syntax.value? depth)
      dns := ← optional dns (Json.Syntax.value? depth) }

/-- The report of a plugin of a network. -/
def report (network : String) (p : Plugin) : Report :=
  (Report.new (p.name.getD network) "")
    |>.withDetail "version" (((p.version.map .string).getD .null))
    |>.withDetail "type" (.string p.type)
    |>.withDetail "capabilities" (p.capabilities.getD .null)
    |>.withDetail "ipam" (p.ipam.getD .null)
    |>.withDetail "dns" (p.dns.getD .null)

end Plugin

namespace Network

def fieldNames : List String := ["name", "cniVersion", "disableCheck", "plugins"]

/-- Reads a list of plugins with the name and version of their network. `depth` bounds the nesting.
-/
def ofJson? : Nat → Json.Syntax → Option Network
  | depth + 2, j => do
    let [name, version, disableCheck, plugins] ← j.record? fieldNames | none
    return {
      name := ← Record.orElse name "" Json.Syntax.string?
      version := ← Record.orElse version "" Json.Syntax.string?
      disableCheck := ← Record.orElse disableCheck false Json.Syntax.bool?
      plugins := ← Record.orElse plugins [] fun plugins =>
        plugins.array?.bind fun plugins => plugins.mapM (Plugin.ofJson? depth) }
  | _, _ => none

/-- The network of one plugin, which gives it its name and version. -/
def ofPlugin (p : Plugin) : Network :=
  { name := p.name.getD ""
    version := p.version.getD ""
    disableCheck := false
    plugins := [p] }

/-- Reads the text of a configuration file. -/
def read? (form : Form) (text : String) : Option Network := do
  let j ← Json.read text
  match form with
  | .list => ofJson? Json.depthLimit j
  | .single => (Plugin.ofJson? Json.depthLimit j).map ofPlugin

/-- The report of a network with its plugins in order. -/
def report (file : String) (n : Network) : Report :=
  (Report.new n.name Report.complete)
    |>.withMetadata "confFile" file
    |>.withDetail "cniVersion" (.string n.version)
    |>.withDetail "disableCheck" (.bool n.disableCheck)
    |>.withChildren (n.plugins.map (Plugin.report n.name))

end Network

end KubeInventory.Cni
