import KubeInventory.Config
import KubeInventory.Yaml.Decode
import KubeInventory.Yaml.Writer

/-! Settings as YAML documents. On writing, settings that are unset or empty are left out, apart
from the sections `collector` and `cluster`; on reading, what is left out has its default. -/

namespace KubeInventory.Config

open KubeInventory.Yaml (Node)

/-- A field that is written unless it is unset. -/
def optionalField (name : String) (value : Option String) : List (String × Yaml.Value) :=
  (value.map fun text => (name, Yaml.Value.string text)).toList

/-- A list that is written unless it is empty. -/
def listField (name : String) (items : List Yaml.Value) : List (String × Yaml.Value) :=
  if items.isEmpty then [] else [(name, .list items)]

def Collector.document (c : Collector) : Yaml.Value :=
  .record [("concurrency", .int c.concurrency),
    ("requestTimeoutSeconds", .int c.requestTimeoutSeconds)]

def Machine.document (m : Machine) : Yaml.Value :=
  .record [("cniConfDir", .string m.cniConfDir), ("cniBinDir", .string m.cniBinDir),
    ("dnsProbeHost", .string m.dnsProbeHost)]

def Check.document (c : Check) : Yaml.Value :=
  .record ([("name", .string c.name)] ++ optionalField "description" c.description ++
    [("kind", .string c.kind)] ++ if c.spec.isNull then [] else [("spec", c.spec)])

/-- The checks as a list of their own. -/
def checksDocument (checks : List Check) : Yaml.Value := .list (checks.map Check.document)

def document (c : Config) : Yaml.Value :=
  .record (optionalField "context" c.context ++
    listField "namespaces" (c.namespaces.map .string) ++
    listField "excludeNamespaces" (c.excludeNamespaces.map .string) ++
    [("collector", c.collector.document), ("cluster", c.cluster.document)] ++
    listField "checks" (c.checks.map Check.document))

def text (c : Config) : String := Yaml.write c.document

def textsOfNode? (n : Node) : Option (List String) :=
  n.items?.bind fun items => items.mapM Node.text?

def Collector.ofNode? (n : Node) : Option Collector := do
  let [concurrency, timeout] ← n.record? ["concurrency", "requestTimeoutSeconds"] | none
  return {
    concurrency := ← Record.orElse concurrency Collector.default.concurrency Node.wordField?
    requestTimeoutSeconds :=
      ← Record.orElse timeout Collector.default.requestTimeoutSeconds Node.wordField? }

def Machine.ofNode? (n : Node) : Option Machine := do
  let [confDir, binDir, host] ← n.record? ["cniConfDir", "cniBinDir", "dnsProbeHost"] | none
  return {
    cniConfDir := ← Record.orElse confDir Machine.default.cniConfDir Node.text?
    cniBinDir := ← Record.orElse binDir Machine.default.cniBinDir Node.text?
    dnsProbeHost := ← Record.orElse host Machine.default.dnsProbeHost Node.text? }

/-- How deep a specification may be nested: it stands in a mapping in a list in a mapping. -/
def specDepth : Nat := Yaml.depthLimit - 3

def Check.ofNode? (n : Node) : Option Check := do
  let [some name, description, some kind, spec] ←
    n.record? ["name", "description", "kind", "spec"] | none
  return {
    name := ← name.text?
    description := ← Record.orElse description none Node.optionalText?
    kind := ← kind.text?
    spec := ← Record.orElse spec .null (Node.value? specDepth) }

def ofNode? (n : Node) : Option Config := do
  let [context, namespaces, excluded, collector, cluster, checks] ← n.record?
    ["context", "namespaces", "excludeNamespaces", "collector", "cluster", "checks"] | none
  return {
    context := ← Record.orElse context none Node.optionalText?
    namespaces := ← Record.orElse namespaces [] textsOfNode?
    excludeNamespaces := ← Record.orElse excluded [] textsOfNode?
    collector := ← Record.orElse collector .default Collector.ofNode?
    cluster := ← Record.orElse cluster .default Machine.ofNode?
    checks := ←
      Record.orElse checks [] fun n => n.items?.bind fun items => items.mapM Check.ofNode? }

/-- Reads the text of a settings file. -/
def read? (text : String) : Option Config := (Node.read text).bind ofNode?

end KubeInventory.Config
