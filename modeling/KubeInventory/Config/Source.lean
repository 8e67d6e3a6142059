import KubeInventory.Config.Key
import KubeInventory.Config.Validity

/-! Where settings come from: defaults, the root file, a file that is named, and the environment, of
which the later count before the earlier. -/

namespace KubeInventory.Config

/-- Settings with others laid over them. A context or a list counts if it is there; the sections of
the upper settings count as a whole. -/
def overlay (base upper : Config) : Config :=
  { context := upper.context.or base.context
    namespaces := if upper.namespaces.isEmpty then base.namespaces else upper.namespaces
    excludeNamespaces :=
      if upper.excludeNamespaces.isEmpty then base.excludeNamespaces else upper.excludeNamespaces
    collector := upper.collector
    cluster := upper.cluster
    checks := if upper.checks.isEmpty then base.checks else upper.checks }

/-- The number that a variable holds; a variable that holds none counts as unset. -/
def numberOf? (env : Environment) (name : String) : Option Nat :=
  (env.get? name).bind fun text => (Text.readUnsigned Text.maxWord text).toOption

/-- Settings with those of the environment laid over them. -/
def override (env : Environment) (c : Config) : Config :=
  { c with
    context := ((env.get? "KUBE_INVENTORY_CONTEXT").filter (!·.isEmpty)).or c.context
    namespaces := ((env.get? "KUBE_INVENTORY_NAMESPACES").map Text.splitList).getD c.namespaces
    collector := {
      concurrency := (numberOf? env "KUBE_INVENTORY_CONCURRENCY").getD c.collector.concurrency
      requestTimeoutSeconds :=
        (numberOf? env "KUBE_INVENTORY_REQUEST_TIMEOUT").getD c.collector.requestTimeoutSeconds } }

/-- Reads a settings file, which must be there. -/
def loadFile (files : FileTree) (path : String) : Except ConfigError Config := do
  if !files.isThere path then throw (.notFound path)
  let text ← (files.readText path).mapError (.unreadable path)
  match read? text with
  | some c => return c
  | none => throw (.malformed path)

/-- The settings of the root file; the defaults if there is none. -/
def loadRoot (env : Environment) (files : FileTree) : Except ConfigError Config :=
  if files.isThere env.rootConfigPath then loadFile files env.rootConfigPath else .ok default

/-- The settings that count, with those of a named file if there is one. -/
def load (env : Environment) (files : FileTree) (named : Option String) :
    Except ConfigError Config := do
  let base ←
    if files.isThere env.rootConfigPath then
      (loadFile files env.rootConfigPath).map (overlay default)
    else .ok default
  let layered ←
    match named with
    | none => .ok base
    | some path => (loadFile files path).map (overlay base)
  return override env layered

/-- The settings that count, which must be ones that can be run. -/
def loadValidated (env : Environment) (files : FileTree) (named : Option String) :
    Except ConfigError Config := do
  let c ← (load env files named).mapError (.during .merging)
  c.validate
  return c

/-- Makes the folder that a file goes into, unless it is there. -/
def ensureFolderOf (path : String) : FileM ConfigError Unit := do
  let folder := (Path.ofText path).parent
  if ((← get).locate folder).isOk then pure ()
  else (FileTree.ensureFolders folder).withError .noFolder

/-- Writes a text to a settings file. -/
def writeFile (path text : String) : FileM ConfigError Unit := do
  ensureFolderOf path
  (FileTree.writeText path text).withError (.unwritable path)

/-- Writes settings to a file. -/
def save (c : Config) (path : String) : FileM ConfigError Unit := writeFile path c.text

end KubeInventory.Config
