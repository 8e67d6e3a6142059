import KubeInventory.Config.Source

/-! The commands that show and change settings. -/

namespace KubeInventory

inductive ConfigCommand where
  | get (key : Option String)
  | set (key value : String)
  | list
  | path
  | validate
  | init (force : Bool)
  deriving DecidableEq, Repr

namespace ConfigCommand

/-- The lines of the settings file that `init` writes. -/
def starterLines : List String :=
  ["# kube-inventory configuration",
    "#",
    "# context: my-cluster",
    "# namespaces: []            # empty means every namespace",
    "# excludeNamespaces: []",
    "collector:",
    "  concurrency: 8",
    "  requestTimeoutSeconds: 30",
    "cluster:",
    "  cniConfDir: /etc/cni/net.d",
    "  cniBinDir: /opt/cni/bin",
    "  dnsProbeHost: google.com",
    "# checks:",
    "#   - name: example",
    "#     kind: some-registered-kind",
    "#     spec: \x7b\x7d"]

/-- The settings file that `init` writes. -/
def starterText : String := String.join (starterLines.map (· ++ "\n"))

/-- The settings that count, for showing. -/
def loadShown (env : Environment) (files : FileTree) (named : Option String) :
    Except ConfigError Config :=
  (Config.load env files named).mapError (.during .loading)

/-- The settings that count, if they can be run. -/
def loadRunnable (env : Environment) (files : FileTree) (named : Option String) :
    Except ConfigError Config :=
  (Config.loadValidated env files named).mapError (.during .validating)

/-- The settings of the root file after a change, which must leave them such that they can be run.
-/
def changed (env : Environment) (files : FileTree) (key value : String) :
    Except ConfigError Config := do
  let old ← Config.loadRoot env files
  let new ← (old.assign env key value).mapError (.during (.setting key value))
  new.validate
  return new

/-- Carries out a command, and gives what it prints. Only `set` and `init` change files. -/
def run (env : Environment) (named : Option String) : ConfigCommand → FileM ConfigError String
  | get none | list => do return (← loadShown env (← getThe FileTree) named).text
  | get (some key) => do
    let c ← loadShown env (← getThe FileTree) named
    return (← c.lookup key) ++ "\n"
  | set key value => do
    let c ← changed env (← getThe FileTree) key value
    (c.save env.rootConfigPath).withError (.during .saving)
    return "Configuration saved\n"
  | path => return env.rootConfigPath ++ "\n"
  | validate => do
    let _ ← loadRunnable env (← getThe FileTree) named
    return "Configuration is valid\n"
  | init force => do
    let path := env.rootConfigPath
    if (← getThe FileTree).isThere path && !force then throw (.alreadyThere path)
    Config.writeFile path starterText
    return s!"Wrote {path}\n"

end ConfigCommand

end KubeInventory
