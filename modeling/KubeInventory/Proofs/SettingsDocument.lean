import KubeInventory.Config.Document
import KubeInventory.Proofs.YamlDocument

/-! Settings and the documents that they are written as. A document that means what it was written
from is decoded to the settings that it was written from, although what is unset or empty is left
out of it. -/

namespace KubeInventory.Config

open KubeInventory.Yaml (Node)

section Reading

open Record (Reads)

variable {n : Node}

/-- A node is taken apart into the parts of the given names: each name stands at most once, and no
other field matters. -/
theorem record?_eq_some_iff {names : List String} {parts : List (Option Node)} :
    n.record? names = some parts ↔ ∃ fields, n.fields? = some fields ∧
      List.Forall₂ (fun name part => Record.single? fields name = some part) names parts := by
  simp only [Node.record?, Option.bind_eq_some_iff, Record.parts?_eq_some_iff]

/-- What was read of a collector can be traced to its fields, or to the defaults for those that are
missing. -/
theorem Collector.reads_of_ofNode? {c : Collector} (h : ofNode? n = some c) :
    ∃ fields, n.fields? = some fields ∧
      Reads fields "concurrency" default.concurrency Node.wordField? c.concurrency ∧
      Reads fields "requestTimeoutSeconds" default.requestTimeoutSeconds Node.wordField?
        c.requestTimeoutSeconds := by
  simp only [ofNode?, Option.bind_eq_bind, Option.bind_eq_some_iff, record?_eq_some_iff,
    List.forall₂_cons_left_iff, List.forall₂_nil_left_iff] at h
  obtain ⟨_, ⟨fields, hFields, _, _, h1, ⟨_, _, h2, rfl, rfl⟩, rfl⟩, h⟩ := h
  simp only [Option.bind_eq_some_iff, Option.pure_def, Option.some.injEq] at h
  obtain ⟨_, hConcurrency, _, hTimeout, rfl⟩ := h
  exact ⟨fields, hFields, ⟨_, h1, hConcurrency⟩, ⟨_, h2, hTimeout⟩⟩

/-- The same for the part on the machine. -/
theorem Machine.reads_of_ofNode? {m : Machine} (h : ofNode? n = some m) :
    ∃ fields, n.fields? = some fields ∧
      Reads fields "cniConfDir" default.cniConfDir Node.text? m.cniConfDir ∧
      Reads fields "cniBinDir" default.cniBinDir Node.text? m.cniBinDir ∧
      Reads fields "dnsProbeHost" default.dnsProbeHost Node.text? m.dnsProbeHost := by
  simp only [ofNode?, Option.bind_eq_bind, Option.bind_eq_some_iff, record?_eq_some_iff,
    List.forall₂_cons_left_iff, List.forall₂_nil_left_iff] at h
  obtain ⟨_, ⟨fields, hFields, _, _, h1, ⟨_, _, h2, ⟨_, _, h3, rfl, rfl⟩, rfl⟩, rfl⟩, h⟩ := h
  simp only [Option.bind_eq_some_iff, Option.pure_def, Option.some.injEq] at h
  obtain ⟨_, hConf, _, hBin, _, hHost, rfl⟩ := h
  exact ⟨fields, hFields, ⟨_, h1, hConf⟩, ⟨_, h2, hBin⟩, ⟨_, h3, hHost⟩⟩

/-- The same for the settings as a whole. Of the parts only the readers differ. -/
theorem reads_of_ofNode? {c : Config} (h : ofNode? n = some c) :
    ∃ fields, n.fields? = some fields ∧
      Reads fields "context" none Node.optionalText? c.context ∧
      Reads fields "namespaces" [] textsOfNode? c.namespaces ∧
      Reads fields "excludeNamespaces" [] textsOfNode? c.excludeNamespaces ∧
      Reads fields "collector" .default Collector.ofNode? c.collector ∧
      Reads fields "cluster" .default Machine.ofNode? c.cluster ∧
      Reads fields "checks" []
        (fun n => n.items?.bind fun items => items.mapM Check.ofNode?) c.checks := by
  simp only [ofNode?, Option.bind_eq_bind, Option.bind_eq_some_iff, record?_eq_some_iff,
    List.forall₂_cons_left_iff, List.forall₂_nil_left_iff] at h
  obtain ⟨_, ⟨fields, hFields, _, _, h1, ⟨_, _, h2, ⟨_, _, h3, ⟨_, _, h4, ⟨_, _, h5,
    ⟨_, _, h6, rfl, rfl⟩, rfl⟩, rfl⟩, rfl⟩, rfl⟩, rfl⟩, h⟩ := h
  simp only [Option.bind_eq_some_iff, Option.pure_def, Option.some.injEq] at h
  obtain ⟨_, hContext, _, hNamespaces, _, hExcluded, _, hCollector, _, hCluster, _, hChecks, rfl⟩ :=
    h
  refine ⟨fields, hFields, ⟨_, h1, hContext⟩, ⟨_, h2, hNamespaces⟩, ⟨_, h3, hExcluded⟩,
    ⟨_, h4, hCollector⟩, ⟨_, h5, hCluster⟩, ⟨_, h6, ?_⟩⟩
  simpa only [Option.bind_eq_some_iff] using hChecks

end Reading

section Writing

open KubeInventory.Yaml.Node (ofValue)
open Record (orElse written)

variable {depth : Nat}

/-- A record is taken apart into the parts that it was written from, where those left out come back
as missing. -/
theorem record?_ofValue_written (isKey : Bool) {parts : List (String × Option Yaml.Value)}
    (hNames : (parts.map Prod.fst).Nodup) :
    (ofValue isKey (.record (written parts))).record? (parts.map Prod.fst) =
      some (parts.map fun part => part.2.map (ofValue false)) := by
  rw [Node.record?, Node.fields?_ofValue_record, Option.bind_some]
  exact Record.parts?_map_written hNames (ofValue false)

/-- A part of a record that means what it was laid out for does so itself. -/
theorem value?_of_written {isKey : Bool} {parts : List (String × Option Yaml.Value)}
    (h : (ofValue isKey (.record (written parts))).value? (depth + 1) =
      some (.record (written parts))) (name : String) {v : Yaml.Value}
    (hPart : (name, some v) ∈ parts) :
    (ofValue false v).value? depth = some v :=
  Node.value?_of_record h (name, v) (Record.mem_written_iff.mpr hPart)

/-- The part for a list, which is left out if it is empty. -/
def listPart (items : List Yaml.Value) : Option Yaml.Value :=
  if items.isEmpty then none else some (.list items)

/-- A list that is empty is left out, and what is left out reads as the empty list. -/
theorem orElse_listPart {α : Type} {items : List Yaml.Value} {xs : List α}
    {read : Node → Option (List α)} (hEmpty : items = [] → xs = [])
    (hRead : listPart items = some (.list items) → read (ofValue false (.list items)) = some xs) :
    orElse ((listPart items).map (ofValue false)) [] read = some xs := by
  cases items with
  | nil => rw [hEmpty rfl]; rfl
  | cons v rest => exact hRead rfl

/-- The part for a text that may be unset. -/
theorem orElse_optional {text : Option String}
    (h : ∀ s, text = some s → (ofValue false (.string s)).value? depth = some (.string s)) :
    orElse ((text.map Yaml.Value.string).map (ofValue false)) none Node.optionalText? =
      some text := by
  cases text with
  | none => rfl
  | some s => exact Node.optionalText?_ofValue_string (h s rfl)

def Collector.parts (c : Collector) : List (String × Option Yaml.Value) :=
  [("concurrency", some (.int c.concurrency)),
    ("requestTimeoutSeconds", some (.int c.requestTimeoutSeconds))]

/-- A collector comes back from its document if its two numbers do. -/
theorem Collector.ofNode?_document {c : Collector}
    (h : (ofValue false c.document).value? (depth + 1) = some c.document) :
    ofNode? (ofValue false c.document) = some c := by
  have hDocument : c.document = .record (written c.parts) := rfl
  rw [hDocument] at h ⊢
  have hConcurrency := Node.wordField?_ofValue_int (value?_of_written h "concurrency" (.head _))
  have hTimeout := Node.wordField?_ofValue_int
    (value?_of_written h "requestTimeoutSeconds" (.tail _ (.head _)))
  have hRecord : (ofValue false (.record (written c.parts))).record? _ = _ :=
    record?_ofValue_written false (by simp [parts])
  simp only [parts, List.map_cons, List.map_nil, Option.map_some] at hRecord
  rw [ofNode?, parts, hRecord]
  simp only [Option.bind_eq_bind, Option.bind_some, orElse, hConcurrency, hTimeout]
  rfl

def Machine.parts (m : Machine) : List (String × Option Yaml.Value) :=
  [("cniConfDir", some (.string m.cniConfDir)), ("cniBinDir", some (.string m.cniBinDir)),
    ("dnsProbeHost", some (.string m.dnsProbeHost))]

/-- The part on the machine has texts only, which come back in any case. -/
theorem Machine.ofNode?_document (m : Machine) : ofNode? (ofValue false m.document) = some m := by
  have hDocument : m.document = .record (written m.parts) := rfl
  have hRecord : (ofValue false (.record (written m.parts))).record? _ = _ :=
    record?_ofValue_written false (by simp [parts])
  simp only [parts, List.map_cons, List.map_nil, Option.map_some] at hRecord
  rw [hDocument, ofNode?, parts, hRecord]
  rfl

/-- What a check is written from. It may have no description, and a null specification is left out.
-/
def Check.parts (c : Check) : List (String × Option Yaml.Value) :=
  [("name", some (.string c.name)), ("description", c.description.map .string),
    ("kind", some (.string c.kind)), ("spec", if c.spec.isNull then none else some c.spec)]

/-- The four ways to write a check, with and without its optional parts, are one record with parts
left out. -/
theorem Check.document_eq (c : Check) : c.document = .record (written c.parts) := by
  obtain ⟨name, description, kind, spec⟩ := c
  rw [document, parts]
  cases description <;> cases spec.isNull <;> rfl

theorem eq_null_of_isNull {v : Yaml.Value} (h : v.isNull = true) : v = .null := by
  cases v <;> first | rfl | cases h

/-- A check comes back if its document means what it was laid out for, since then its description
and its specification do as well. -/
theorem Check.ofNode?_document {c : Check}
    (h : (ofValue false c.document).value? (specDepth + 1) = some c.document) :
    ofNode? (ofValue false c.document) = some c := by
  rw [document_eq] at h ⊢
  have hDescription : orElse ((c.description.map Yaml.Value.string).map (ofValue false)) none
      Node.optionalText? = some c.description :=
    orElse_optional fun text hText => value?_of_written h "description" (by
      simp [parts, hText])
  have hSpec : orElse ((if c.spec.isNull then none else some c.spec).map (ofValue false)) .null
      (Node.value? specDepth) = some c.spec := by
    cases hNull : c.spec.isNull with
    | true => rw [eq_null_of_isNull hNull]; rfl
    | false => exact value?_of_written h "spec" (by simp [parts, hNull])
  have hRecord : (ofValue false (.record (written c.parts))).record? _ = _ :=
    record?_ofValue_written false (by simp [parts])
  simp only [parts, List.map_cons, List.map_nil, Option.map_some] at hRecord
  rw [ofNode?, parts, hRecord]
  simp only [Option.bind_eq_bind, Option.bind_some, Node.text?_ofValue_string, hDescription, hSpec]
  rfl

def parts (c : Config) : List (String × Option Yaml.Value) :=
  [("context", c.context.map .string), ("namespaces", listPart (c.namespaces.map .string)),
    ("excludeNamespaces", listPart (c.excludeNamespaces.map .string)),
    ("collector", some c.collector.document), ("cluster", some c.cluster.document),
    ("checks", listPart (c.checks.map Check.document))]

/-- The document of the settings is a record whose empty lists and unset texts are left out. -/
theorem document_eq (c : Config) : c.document = .record (written c.parts) := by
  obtain ⟨context, namespaces, excluded, collector, cluster, checks⟩ := c
  simp only [document, parts, listField, listPart]
  cases context <;> cases (namespaces.map Yaml.Value.string).isEmpty <;>
    cases (excluded.map Yaml.Value.string).isEmpty <;>
    cases (checks.map Check.document).isEmpty <;> rfl

theorem textsOfNode?_ofValue_list (texts : List String) :
    textsOfNode? (ofValue false (.list (texts.map .string))) = some texts := by
  rw [textsOfNode?, Node.items?_ofValue_list, Option.bind_some, List.map_map]
  exact mapM_map_eq_some fun text _ => rfl

/-- The checks come back one by one. -/
theorem checks_ofNode?_document {checks : List Check}
    (h : (ofValue false (.list (checks.map Check.document))).value? (specDepth + 2) =
      some (.list (checks.map Check.document))) :
    ((ofValue false (.list (checks.map Check.document))).items?.bind fun items =>
      items.mapM Check.ofNode?) = some checks := by
  have hChecks := Node.value?_of_list h
  rw [List.forall_mem_map] at hChecks
  rw [Node.items?_ofValue_list, Option.bind_some, List.map_map]
  exact mapM_map_eq_some fun check hCheck => Check.ofNode?_document (hChecks check hCheck)

/-- Settings are decoded from the document that they are written as. -/
theorem ofNode?_document {c : Config}
    (h : (ofValue false c.document).value? Yaml.depthLimit = some c.document) :
    ofNode? (ofValue false c.document) = some c := by
  rw [document_eq] at h ⊢
  -- Part by part: each of them is read back by itself, with its default if it was left out.
  have hContext : orElse ((c.context.map Yaml.Value.string).map (ofValue false)) none
      Node.optionalText? = some c.context :=
    orElse_optional fun text hText => value?_of_written h "context" (by
      simp [parts, hText])
  have hNamespaces : orElse ((listPart (c.namespaces.map .string)).map (ofValue false)) []
      textsOfNode? = some c.namespaces :=
    orElse_listPart List.map_eq_nil_iff.mp fun _ => textsOfNode?_ofValue_list c.namespaces
  have hExcluded : orElse ((listPart (c.excludeNamespaces.map .string)).map (ofValue false)) []
      textsOfNode? = some c.excludeNamespaces :=
    orElse_listPart List.map_eq_nil_iff.mp fun _ => textsOfNode?_ofValue_list c.excludeNamespaces
  have hCollector : orElse (some (ofValue false c.collector.document)) .default
      Collector.ofNode? = some c.collector :=
    Collector.ofNode?_document (value?_of_written h "collector" (by simp [parts]))
  have hCluster : orElse (some (ofValue false c.cluster.document)) .default
      Machine.ofNode? = some c.cluster :=
    Machine.ofNode?_document c.cluster
  have hChecks : orElse ((listPart (c.checks.map Check.document)).map (ofValue false)) []
      (fun n => n.items?.bind fun items => items.mapM Check.ofNode?) = some c.checks :=
    orElse_listPart List.map_eq_nil_iff.mp fun hSome =>
      checks_ofNode?_document (value?_of_written h "checks" (by simp [parts, hSome]))
  have hRecord : (ofValue false (.record (written c.parts))).record? _ = _ :=
    record?_ofValue_written false (by simp [parts])
  simp only [parts, List.map_cons, List.map_nil, Option.map_some] at hRecord
  rw [ofNode?, parts, hRecord]
  simp only [Option.bind_eq_bind, Option.bind_some, hContext, hNamespaces, hExcluded, hCollector,
    hCluster, hChecks]
  rfl

/-- Settings are read from the text that they are written as. -/
theorem read?_text {c : Config} (h : Yaml.ReadsBack c.document) : read? c.text = some c := by
  rw [read?, text, h.1, Option.bind_some]
  exact ofNode?_document h.2

end Writing

end KubeInventory.Config
