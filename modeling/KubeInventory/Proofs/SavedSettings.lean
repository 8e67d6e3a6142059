import KubeInventory.Proofs.SettingsCommand
import KubeInventory.Proofs.YamlValue

/-! Settings saved and loaded again. What is left out of a document because it is unset or empty is
what its absence stands for, and the defaults that a root file is laid over add nothing to it: so
settings come back as they were saved, the specifications of checks included, as deep as the reader
goes. -/

namespace KubeInventory

open Yaml (Node)

namespace Yaml.Value

variable {fields : List (String × Value)} {depth : Nat}

/-- A record has no tags if its fields have none, for its keys are different texts. -/
theorem untagged_record (hNames : (fields.map Prod.fst).Nodup)
    (hFields : ∀ field ∈ fields, field.2.Untagged) : (record fields).Untagged := by
  refine .mapping ?_ ?_ ?_
  · rw [List.pairwise_map]
    rw [List.Nodup, List.pairwise_map] at hNames
    exact hNames.imp fun hDifferent => beq_eq_false_iff_ne.mpr (Ne.symm hDifferent)
  · rintro _ hEntry
    obtain ⟨field, -, rfl⟩ := List.mem_map.mp hEntry
    exact .string field.1
  · rintro _ hEntry
    obtain ⟨field, hField, rfl⟩ := List.mem_map.mp hEntry
    exact hFields field hField

/-- A record is nested one level deeper than the deepest of its fields; its keys are texts. -/
theorem nesting_record_le_iff :
    (record fields).nesting ≤ depth + 1 ↔ ∀ field ∈ fields, field.2.nesting ≤ depth := by
  rw [record, nesting_mapping_le_iff, List.forall_mem_map]
  simp [nesting]

end Yaml.Value

namespace Record

theorem names_written_nodup {α : Type} {parts : List (String × Option α)}
    (h : (parts.map Prod.fst).Nodup) : ((written parts).map Prod.fst).Nodup := by
  have hSublist : ((written parts).map Prod.fst).Sublist (parts.map Prod.fst) := by
    induction parts with
    | nil => exact List.nil_sublist _
    | cons part rest ih =>
        obtain ⟨name, value⟩ := part
        have hRest := ih (List.nodup_cons.mp h).2
        cases value with
        | none => exact hRest.cons name
        | some v => exact hRest.cons_cons name
  exact h.sublist hSublist

end Record

namespace Config

open Yaml.Node (ofValue)
open Record (written)

/-- Settings as they are held: the numbers are those of a word, and no specification has tags. -/
structure Held (c : Config) : Prop where
  concurrency : c.collector.concurrency ≤ Text.maxWord
  requestTimeout : c.collector.requestTimeoutSeconds ≤ Text.maxWord
  specs : ∀ check ∈ c.checks, check.spec.Untagged

section Documents

variable {parts : List (String × Option Yaml.Value)} {depth : Nat}

/-- What is left out of a record does no harm. -/
theorem untagged_written (hNames : (parts.map Prod.fst).Nodup)
    (hParts : ∀ name v, (name, some v) ∈ parts → v.Untagged) :
    (Yaml.Value.record (written parts)).Untagged :=
  Yaml.Value.untagged_record (Record.names_written_nodup hNames) fun _ hField =>
    hParts _ _ (Record.mem_written_iff.mp hField)

theorem nesting_written_le (hParts : ∀ name v, (name, some v) ∈ parts → v.nesting ≤ depth) :
    (Yaml.Value.record (written parts)).nesting ≤ depth + 1 :=
  Yaml.Value.nesting_record_le_iff.mpr fun _ hField =>
    hParts _ _ (Record.mem_written_iff.mp hField)

theorem untagged_word {n : Nat} (h : n ≤ Text.maxWord) : (Yaml.Value.int n).Untagged :=
  .int (by omega) (by exact_mod_cast h)

/-- Numbers of one word are written without tags. -/
theorem Collector.untagged_document {c : Collector} (hConcurrency : c.concurrency ≤ Text.maxWord)
    (hTimeout : c.requestTimeoutSeconds ≤ Text.maxWord) : c.document.Untagged := by
  have hDocument : c.document = .record (written c.parts) := rfl
  rw [hDocument]
  refine untagged_written (by simp [parts]) fun name v hPart => ?_
  simp only [parts, List.mem_cons, Prod.mk.injEq, Option.some.injEq, List.not_mem_nil,
    or_false] at hPart
  rcases hPart with ⟨-, rfl⟩ | ⟨-, rfl⟩
  · exact untagged_word hConcurrency
  · exact untagged_word hTimeout

theorem Machine.untagged_document (m : Machine) : m.document.Untagged := by
  have hDocument : m.document = .record (written m.parts) := rfl
  rw [hDocument]
  refine untagged_written (by simp [parts]) fun name v hPart => ?_
  simp only [parts, List.mem_cons, Prod.mk.injEq, Option.some.injEq, List.not_mem_nil,
    or_false] at hPart
  rcases hPart with ⟨-, rfl⟩ | ⟨-, rfl⟩ | ⟨-, rfl⟩ <;> exact .string _

/-- What stands in the document of a check: texts, and its specification unless it is null. -/
theorem Check.cases_of_mem_parts {c : Check} {name : String} {v : Yaml.Value}
    (h : (name, some v) ∈ c.parts) : (∃ text, v = .string text) ∨ v = c.spec := by
  simp only [parts, List.mem_cons, Prod.mk.injEq, Option.some.injEq, List.not_mem_nil,
    or_false] at h
  rcases h with ⟨-, rfl⟩ | ⟨-, hDescription⟩ | ⟨-, rfl⟩ | ⟨-, hSpec⟩
  · exact .inl ⟨_, rfl⟩
  · obtain ⟨text, -, rfl⟩ := Option.map_eq_some_iff.mp hDescription.symm
    exact .inl ⟨text, rfl⟩
  · exact .inl ⟨_, rfl⟩
  · exact .inr (Option.some.inj (Option.ite_none_left_eq_some.mp hSpec.symm).2).symm

/-- A check has no tags beyond those of its specification. -/
theorem Check.untagged_document {c : Check} (h : c.spec.Untagged) : c.document.Untagged := by
  rw [document_eq]
  refine untagged_written (by simp [parts]) fun name v hPart => ?_
  rcases cases_of_mem_parts hPart with ⟨text, rfl⟩ | rfl
  · exact .string text
  · exact h

theorem Check.nesting_document_le {c : Check} (h : c.spec.nesting ≤ depth) :
    c.document.nesting ≤ depth + 1 := by
  rw [document_eq]
  refine nesting_written_le fun name v hPart => ?_
  rcases cases_of_mem_parts hPart with ⟨text, rfl⟩ | rfl
  · exact Nat.zero_le _
  · exact h

theorem listPart_eq_some {items : List Yaml.Value} {v : Yaml.Value}
    (h : listPart items = some v) : v = .list items :=
  (Option.some.inj (Option.ite_none_left_eq_some.mp h).2).symm

/-- What can stand in a part of the settings. -/
theorem cases_of_mem_parts {c : Config} {name : String} {v : Yaml.Value}
    (h : (name, some v) ∈ c.parts) :
    (∃ text, v = .string text) ∨ (∃ texts : List String, v = .list (texts.map .string)) ∨
      v = c.collector.document ∨ v = c.cluster.document ∨
      v = .list (c.checks.map Check.document) := by
  simp only [parts, List.mem_cons, Prod.mk.injEq, Option.some.injEq, List.not_mem_nil,
    or_false] at h
  rcases h with ⟨-, hContext⟩ | ⟨-, hNamespaces⟩ | ⟨-, hExcluded⟩ | ⟨-, rfl⟩ | ⟨-, rfl⟩ |
    ⟨-, hChecks⟩
  · obtain ⟨text, -, rfl⟩ := Option.map_eq_some_iff.mp hContext.symm
    exact .inl ⟨text, rfl⟩
  · exact .inr (.inl ⟨_, listPart_eq_some hNamespaces.symm⟩)
  · exact .inr (.inl ⟨_, listPart_eq_some hExcluded.symm⟩)
  · exact .inr (.inr (.inl rfl))
  · exact .inr (.inr (.inr (.inl rfl)))
  · exact .inr (.inr (.inr (.inr (listPart_eq_some hChecks.symm))))

/-- Settings have no tags if none of their specifications has. -/
theorem untagged_document {c : Config} (h : c.Held) : c.document.Untagged := by
  rw [document_eq]
  refine untagged_written (by simp [parts]) fun name v hPart => ?_
  rcases cases_of_mem_parts hPart with ⟨text, rfl⟩ | ⟨texts, rfl⟩ | rfl | rfl | rfl
  · exact .string text
  · exact .list (List.forall_mem_map.mpr fun text _ => .string text)
  · exact Collector.untagged_document h.concurrency h.requestTimeout
  · exact Machine.untagged_document c.cluster
  · exact .list (List.forall_mem_map.mpr fun check hCheck =>
      Check.untagged_document (h.specs check hCheck))

/-- A document is nested just deep enough to be read if its specifications are. -/
theorem nesting_document_le {c : Config} (h : ∀ check ∈ c.checks, check.spec.nesting ≤ specDepth) :
    c.document.nesting ≤ Yaml.depthLimit := by
  have hLimit : Yaml.depthLimit = specDepth + 2 + 1 := rfl
  rw [document_eq, hLimit]
  refine nesting_written_le fun name v hPart => ?_
  rcases cases_of_mem_parts hPart with ⟨text, rfl⟩ | ⟨texts, rfl⟩ | rfl | rfl | rfl
  · exact Nat.zero_le _
  · exact Yaml.Value.nesting_list_le_iff.mpr (List.forall_mem_map.mpr fun _ _ => Nat.zero_le _)
  · exact (by decide : 1 ≤ specDepth + 2)
  · exact (by decide : 1 ≤ specDepth + 2)
  · exact Yaml.Value.nesting_list_le_iff.mpr (List.forall_mem_map.mpr fun check hCheck =>
      Check.nesting_document_le (h check hCheck))

/-- A check is read only if its specification is nested no deeper than the reader goes. -/
theorem Check.nesting_spec_le {c d : Check} (hSpec : c.spec.Untagged)
    (h : ofNode? (ofValue false c.document) = some d) : c.spec.nesting ≤ specDepth := by
  cases hNull : c.spec.isNull with
  | true =>
      rw [eq_null_of_isNull hNull]
      exact Nat.zero_le _
  | false =>
      have hRecord : (ofValue false (.record (written c.parts))).record? _ = _ :=
        record?_ofValue_written false (by simp [parts])
      simp only [parts, List.map_cons, List.map_nil, Option.map_some, hNull, Bool.false_eq_true,
        if_false] at hRecord
      rw [document_eq, ofNode?, parts, hNull, if_neg Bool.false_ne_true, hRecord] at h
      simp only [Option.bind_eq_bind, Option.bind_some, Option.bind_eq_some_iff] at h
      obtain ⟨_, -, _, -, _, -, v, hRead, -⟩ := h
      exact Node.nesting_le_of_value? hSpec hRead

/-- Settings whose document could be decoded have no specification nested deeper than the reader
goes. -/
theorem nesting_spec_le {c d : Config} (h : c.Held)
    (hRead : ofNode? (ofValue false c.document) = some d) :
    ∀ check ∈ c.checks, check.spec.nesting ≤ specDepth := by
  intro check hCheck
  obtain ⟨fields, hFields, -, -, -, -, -, part, hPart, hChecks⟩ := reads_of_ofNode? hRead
  rw [document_eq, Node.fields?_ofValue_record, Record.map_written] at hFields
  obtain rfl := Option.some.inj hFields
  have hWritten : listPart (c.checks.map Check.document) =
      some (.list (c.checks.map Check.document)) :=
    if_neg (by simpa using List.ne_nil_of_mem hCheck)
  have hNames : ((c.parts.map fun part => (part.1, part.2.map (ofValue false))).map
      Prod.fst).Nodup := by
    simp [parts]
  have hMem : ("checks", some (ofValue false (.list (c.checks.map Check.document)))) ∈
      c.parts.map fun part => (part.1, part.2.map (ofValue false)) := by
    simp [parts, hWritten]
  have hFound := Record.single?_written hNames hMem
  obtain rfl := Option.some.inj (hFound.symm.trans hPart)
  have hItems : (ofValue false (.list (c.checks.map Check.document))).items? = _ :=
    Node.items?_ofValue_list false _
  rw [Record.orElse, hItems, Option.bind_some, List.map_map] at hChecks
  obtain ⟨d, hOne⟩ := isSome_of_mapM hChecks (List.mem_map_of_mem hCheck)
  exact Check.nesting_spec_le (h.specs check hCheck) hOne

/-- Settings are decoded from their document just if no specification is nested too deeply. -/
theorem ofNode?_document_iff {c : Config} (h : c.Held) :
    ofNode? (ofValue false c.document) = some c ↔
      ∀ check ∈ c.checks, check.spec.nesting ≤ specDepth :=
  ⟨nesting_spec_le h, fun hSpecs =>
    ofNode?_document (Node.value?_ofValue (untagged_document h) (nesting_document_le hSpecs))⟩

end Documents

variable {c : Config}

/-- A root file counts as it is if nothing else does. -/
theorem load_of_loadFile {env : Environment} {t : FileTree} (hEnv : env.OverridesNothing)
    (hFile : loadFile t env.rootConfigPath = .ok c) : load env t none = .ok c := by
  obtain ⟨text, hText, hRead⟩ := loadFile_eq_ok_iff.mp hFile
  rw [load_eq_loadRoot hEnv]
  exact loadRoot_of_readText hText hRead

/-- What is saved is read again from the path that it was saved to, unless no file can be written
there. -/
theorem outcome_save_cases (hRead : read? c.text = some c) (t : FileTree) (path : String) :
    (∃ t', (save c path).outcome t = (.ok (), t') ∧ loadFile t' path = .ok c) ∨
    ∃ e t', (save c path).outcome t = (.error e, t') ∧
      ∀ place, t'.writablePlace (.ofText path) ≠ .ok place := by
  rcases outcome_writeFile_cases t path c.text with
    ⟨t', place, -, hPlace, hRun⟩ | ⟨e, t', hRun, -, hUnwritable, -⟩
  · refine .inl ⟨_, hRun, loadFile_eq_ok_iff.mpr ⟨c.text, ?_, hRead⟩⟩
    exact FileTree.readText_of_locate (FileTree.locate_put_file hPlace)
  · exact .inr ⟨e, t', hRun, hUnwritable⟩

/-- Settings are decoded from the document that they are written as, just if no specification is
nested too deeply, and over the defaults they stand as they are. So if the reader gets the document
back from the text, settings that are saved are loaded again as they were, from their path and as
the root file. -/
theorem saved_settings_return (h : c.Held) :
    (ofNode? (ofValue false c.document) = some c ↔
      ∀ check ∈ c.checks, check.spec.nesting ≤ specDepth) ∧
    overlay default c = c ∧
    (∀ (env : Environment) (t : FileTree), env.OverridesNothing →
      loadFile t env.rootConfigPath = .ok c → load env t none = .ok c) ∧
    ((∀ check ∈ c.checks, check.spec.nesting ≤ specDepth) →
      Node.read c.text = some (ofValue false c.document) → ∀ (t : FileTree) (path : String),
      (∃ t', (save c path).outcome t = (.ok (), t') ∧ loadFile t' path = .ok c ∧
        ∀ env : Environment, env.OverridesNothing → env.rootConfigPath = path →
          load env t' none = .ok c) ∨
      ∃ e t', (save c path).outcome t = (.error e, t') ∧
        ∀ place, t'.writablePlace (.ofText path) ≠ .ok place) := by
  refine ⟨ofNode?_document_iff h, overlay_default c, fun _ _ => load_of_loadFile,
    fun hSpecs hText t path => ?_⟩
  have hRead : read? c.text = some c := by
    rw [read?, hText, Option.bind_some]
    exact (ofNode?_document_iff h).mpr hSpecs
  refine (outcome_save_cases hRead t path).imp_left fun hSaved => ?_
  obtain ⟨t', hRun, hFile⟩ := hSaved
  refine ⟨t', hRun, hFile, fun env hEnv hPath => load_of_loadFile hEnv ?_⟩
  rwa [hPath]

/-- Settings of which much is empty or zero, with a specification that has a fraction under a key
without a name. -/
def sparseConfig : Config :=
  { default with
    context := some ""
    collector := ⟨0, 30⟩
    cluster := ⟨"", "/", ""⟩
    checks := [⟨"a", some "", "b", .mapping [(.null, .float (.finite ⟨true, 2 ^ 52, -53⟩))]⟩] }

theorem held_sparseConfig : sparseConfig.Held where
  concurrency := Nat.zero_le _
  requestTimeout := by decide
  specs := by
    refine List.forall_mem_singleton.mpr (.mapping (List.pairwise_singleton _ _) ?_ ?_)
    · exact List.forall_mem_singleton.mpr .null
    · exact List.forall_mem_singleton.mpr (.finite ⟨by decide, by decide, by decide, by decide⟩)

open ConfigCommand (emptyTree plainText plainDocument)

def quotedText (text : String) : Yaml.Node := .scalar none .singleQuoted text

set_option maxRecDepth 4000 in
theorem read_sparseConfig :
    Node.read sparseConfig.text = some (ofValue false sparseConfig.document) := by
  have hText : sparseConfig.text = "context: ''\ncollector:\n  concurrency: 0\n" ++
      "  requestTimeoutSeconds: 30\ncluster:\n  cniConfDir: ''\n  cniBinDir: /\n" ++
      "  dnsProbeHost: ''\nchecks:\n- name: a\n  description: ''\n  kind: b\n  spec:\n" ++
      "    null: -0.5\n" := by
    decide +kernel
  have hDocument : ofValue false sparseConfig.document =
      plainDocument [("context", quotedText ""),
        ("collector", plainDocument [("concurrency", plainText "0"),
          ("requestTimeoutSeconds", plainText "30")]),
        ("cluster", plainDocument [("cniConfDir", quotedText ""), ("cniBinDir", plainText "/"),
          ("dnsProbeHost", quotedText "")]),
        ("checks", .list none [plainDocument [("name", plainText "a"),
          ("description", quotedText ""), ("kind", plainText "b"),
          ("spec", plainDocument [("null", plainText "-0.5")])]])] :=
    rfl
  rw [hText, hDocument]
  cbv

/-- They come back from the root file, and nothing that is empty or zero gives way to a default. -/
theorem saved_settings_return_sparseConfig :
    sparseConfig.Held ∧ (∀ check ∈ sparseConfig.checks, check.spec.nesting ≤ specDepth) ∧
    Node.read sparseConfig.text = some (ofValue false sparseConfig.document) ∧
    ∃ t', (save sparseConfig "conf/config.yaml").outcome emptyTree = (.ok (), t') ∧
      loadFile t' "conf/config.yaml" = .ok sparseConfig ∧
      load (settingsIn "conf") t' none = .ok sparseConfig := by
  have hSpecs : ∀ check ∈ sparseConfig.checks, check.spec.nesting ≤ specDepth :=
    List.forall_mem_singleton.mpr (by decide)
  have hPath : (settingsIn "conf").rootConfigPath = "conf/config.yaml" := by decide +kernel
  have hOk : ((save sparseConfig "conf/config.yaml").outcome emptyTree).1.isOk = true := by
    decide +kernel
  refine ⟨held_sparseConfig, hSpecs, read_sparseConfig, ?_⟩
  rcases (saved_settings_return held_sparseConfig).2.2.2 hSpecs read_sparseConfig emptyTree
    "conf/config.yaml" with ⟨t', hRun, hFile, hLoad⟩ | ⟨e, t', hRun, -⟩
  · exact ⟨t', hRun, hFile, hLoad _ (overridesNothing_settingsIn "conf") hPath⟩
  · rw [hRun] at hOk
    cases hOk

end Config

end KubeInventory
