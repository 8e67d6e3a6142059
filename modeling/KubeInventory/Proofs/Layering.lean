import KubeInventory.Proofs.Dict
import KubeInventory.Proofs.SettingsDocument
import KubeInventory.Proofs.Setting
import Mathlib

/-! Layers of settings. What the root file and a file that is named say is laid over the defaults. A
setting that the named file does not mention comes from the root file if it is a context or a list;
one in a section does not, for the sections of the named file count as a whole and what they leave
out is already filled with defaults. -/

namespace KubeInventory

open Yaml (Node)

/-- Whether a document says something at a path of names. -/
def Yaml.Node.Mentions : List String → Node → Prop
  | [], _ => True
  | name :: rest, n => ∃ fields, n.fields? = some fields ∧
      ∃ field ∈ fields, field.1 = name ∧ Mentions rest field.2

namespace Config

/-- The names on the way to a setting in a document. -/
def Key.path : Key → List String
  | .context => ["context"]
  | .namespaces => ["namespaces"]
  | .excludeNamespaces => ["excludeNamespaces"]
  | .concurrency => ["collector", "concurrency"]
  | .requestTimeout => ["collector", "requestTimeoutSeconds"]
  | .cniConfDir => ["cluster", "cniConfDir"]
  | .cniBinDir => ["cluster", "cniBinDir"]
  | .dnsProbeHost => ["cluster", "dnsProbeHost"]
  | .checks => ["checks"]

/-- Whether a setting is part of one of the two sections. -/
def Key.InSection (key : Key) : Prop := key.path.length = 2

instance (key : Key) : Decidable key.InSection := inferInstanceAs (Decidable (_ = _))

/-- A part of a section has its default if the section is left out or does not mention it. -/
theorem part_eq_of_absent {σ β : Type} {fields : List (String × Node)} {outer name : String}
    {default s : σ} {read : Node → Option σ} (part : σ → β)
    (hSection : Record.Reads fields outer default read s)
    (hAbsent : ∀ n, (outer, n) ∈ fields → ∀ inner, n.fields? = some inner →
      ∀ field ∈ inner, field.1 ≠ name)
    (hPart : ∀ n, read n = some s → ∃ inner readPart, n.fields? = some inner ∧
      Record.Reads inner name (part default) readPart (part s)) : part s = part default := by
  rcases hSection.cases with hDefault | ⟨n, hMem, hRead⟩
  · rw [hDefault]
  · obtain ⟨inner, _, hFields, hReads⟩ := hPart n hRead
    exact hReads.eq_of_absent (hAbsent n hMem inner hFields)

/-- What a document does not mention has its default. -/
theorem content_of_unmentioned {n : Node} {c : Config} (hRead : ofNode? n = some c) {key : Key}
    (hUnmentioned : ¬n.Mentions key.path) : c.content key = default.content key := by
  obtain ⟨fields, hFields, hContext, hNamespaces, hExcluded, hCollector, hCluster, hChecks⟩ :=
    reads_of_ofNode? hRead
  -- A field on the way to the setting would be a mention of it.
  have hAbsent (name : String) (hPath : key.path = [name]) : ∀ field ∈ fields, field.1 ≠ name :=
    fun field hField hName =>
      hUnmentioned (hPath ▸ ⟨fields, hFields, field, hField, hName, trivial⟩)
  have hInner (outer name : String) (hPath : key.path = [outer, name]) (part : Node)
      (hPart : (outer, part) ∈ fields) (inner : List (String × Node))
      (hParts : part.fields? = some inner) : ∀ field ∈ inner, field.1 ≠ name :=
    fun field hField hName => hUnmentioned
      (hPath ▸ ⟨fields, hFields, _, hPart, rfl, inner, hParts, field, hField, hName, trivial⟩)
  cases key with
  | context => exact hContext.eq_of_absent (hAbsent _ rfl)
  | namespaces => exact hNamespaces.eq_of_absent (hAbsent _ rfl)
  | excludeNamespaces => exact hExcluded.eq_of_absent (hAbsent _ rfl)
  | checks => exact hChecks.eq_of_absent (hAbsent _ rfl)
  | concurrency =>
      refine part_eq_of_absent Collector.concurrency hCollector (hInner _ _ rfl)
        fun n hSection => ?_
      obtain ⟨inner, hParts, hReads, -⟩ := Collector.reads_of_ofNode? hSection
      exact ⟨inner, _, hParts, hReads⟩
  | requestTimeout =>
      refine part_eq_of_absent Collector.requestTimeoutSeconds hCollector (hInner _ _ rfl)
        fun n hSection => ?_
      obtain ⟨inner, hParts, -, hReads⟩ := Collector.reads_of_ofNode? hSection
      exact ⟨inner, _, hParts, hReads⟩
  | cniConfDir =>
      refine part_eq_of_absent Machine.cniConfDir hCluster (hInner _ _ rfl) fun n hSection => ?_
      obtain ⟨inner, hParts, hReads, -⟩ := Machine.reads_of_ofNode? hSection
      exact ⟨inner, _, hParts, hReads⟩
  | cniBinDir =>
      refine part_eq_of_absent Machine.cniBinDir hCluster (hInner _ _ rfl) fun n hSection => ?_
      obtain ⟨inner, hParts, -, hReads, -⟩ := Machine.reads_of_ofNode? hSection
      exact ⟨inner, _, hParts, hReads⟩
  | dnsProbeHost =>
      refine part_eq_of_absent Machine.dnsProbeHost hCluster (hInner _ _ rfl) fun n hSection => ?_
      obtain ⟨inner, hParts, -, -, hReads⟩ := Machine.reads_of_ofNode? hSection
      exact ⟨inner, _, hParts, hReads⟩

theorem ite_isEmpty_nil {α : Type} (xs : List α) : (if xs.isEmpty then [] else xs) = xs := by
  cases xs <;> rfl

/-- Over the defaults settings stand as they are. -/
theorem overlay_default (c : Config) : overlay default c = c := by
  refine ext_content fun key => ?_
  cases key with
  | context => exact Option.or_none
  | namespaces => exact ite_isEmpty_nil c.namespaces
  | excludeNamespaces => exact ite_isEmpty_nil c.excludeNamespaces
  | checks => exact ite_isEmpty_nil c.checks
  | _ => rfl

/-- What the upper settings leave at its default is taken from the base, except in a section. -/
theorem content_overlay_of_default {base upper : Config} {key : Key}
    (h : upper.content key = default.content key) :
    (overlay base upper).content key =
      if key.InSection then default.content key else base.content key := by
  cases key <;> simp_all [overlay, content, Key.InSection, Key.path, default]

end Config

/-- Whether the environment leaves all settings alone. -/
def Environment.OverridesNothing (env : Environment) : Prop :=
  ∀ name ∈ ["KUBE_INVENTORY_CONTEXT", "KUBE_INVENTORY_NAMESPACES", "KUBE_INVENTORY_CONCURRENCY",
    "KUBE_INVENTORY_REQUEST_TIMEOUT"], env.get? name = none

namespace Config

variable {env : Environment} {files : FileTree}

/-- Without variables nothing is replaced. -/
theorem override_of_overridesNothing (h : env.OverridesNothing) (c : Config) :
    override env c = c := by
  simp only [Environment.OverridesNothing, List.forall_mem_cons] at h
  obtain ⟨hContext, hNamespaces, hConcurrency, hTimeout, -⟩ := h
  simp [override, numberOf?, hContext, hNamespaces, hConcurrency, hTimeout]

theorem isThere_of_readText {path text : String} (h : files.readText path = .ok text) :
    files.isThere path = true := by
  rw [FileTree.isThere]
  cases hFound : files.locate (.ofText path) with
  | ok found => rfl
  | error e =>
      rw [FileTree.readText, hFound] at h
      cases h

theorem loadFile_eq_ok_iff {path : String} {c : Config} :
    loadFile files path = .ok c ↔ ∃ text, files.readText path = .ok text ∧ read? text = some c := by
  constructor
  · intro h
    cases hThere : files.isThere path with
    | false => simp [loadFile, hThere, throw, throwThe, MonadExceptOf.throw, bind, Except.bind] at h
    | true =>
        cases hText : files.readText path with
        | error e =>
            simp [loadFile, hThere, hText, Except.mapError, bind, Except.bind] at h
        | ok text =>
            refine ⟨text, rfl, ?_⟩
            cases hRead : read? text with
            | none =>
                simp [loadFile, hThere, hText, hRead, Except.mapError, bind, Except.bind, throw,
                  throwThe, MonadExceptOf.throw] at h
            | some d =>
                simpa [loadFile, hThere, hText, hRead, Except.mapError, bind, Except.bind, pure,
                  Except.pure] using h
  · rintro ⟨text, hText, hRead⟩
    simp [loadFile, isThere_of_readText hText, hText, hRead, Except.mapError, bind, Except.bind,
      pure, Except.pure]

/-- A file that holds a document, and the settings that the document stands for. -/
def Holds (files : FileTree) (path : String) (n : Node) (c : Config) : Prop :=
  ∃ text, files.readText path = .ok text ∧ Node.read text = some n ∧ ofNode? n = some c

theorem Holds.loadFile_eq {path : String} {n : Node} {c : Config} (h : Holds files path n c) :
    loadFile files path = .ok c := by
  obtain ⟨text, hText, hDocument, hSettings⟩ := h
  refine loadFile_eq_ok_iff.mpr ⟨text, hText, ?_⟩
  rw [read?, hDocument, Option.bind_some, hSettings]

theorem Holds.isThere {path : String} {n : Node} {c : Config} (h : Holds files path n c) :
    files.isThere path = true := by
  obtain ⟨text, hText, -⟩ := h
  exact isThere_of_readText hText

/-- Two files that can be had are laid one over the other. -/
theorem load_of_holds {path : String} {m n : Node} {root upper : Config}
    (hRoot : Holds files env.rootConfigPath m root) (hUpper : Holds files path n upper)
    (hEnv : env.OverridesNothing) : load env files (some path) = .ok (overlay root upper) := by
  simp only [load, hRoot.isThere, hRoot.loadFile_eq, hUpper.loadFile_eq, if_true, Except.map,
    overlay_default, bind, Except.bind, pure, Except.pure, override_of_overridesNothing hEnv]

/-- What a setting is that the named file does not mention: in a section the default, whatever the
root file says, and elsewhere what the root file says. So the root file's word for it counts just if
the setting is in no section or the root file gives the default anyway. -/
theorem content_load_of_unmentioned {path : String} {m n : Node} {root upper : Config}
    (hRoot : Holds files env.rootConfigPath m root) (hUpper : Holds files path n upper)
    (hEnv : env.OverridesNothing) :
    ∃ c, load env files (some path) = .ok c ∧ ∀ key : Key, ¬n.Mentions key.path →
      c.content key = (if key.InSection then default.content key else root.content key) ∧
      (c.content key = root.content key ↔
        ¬key.InSection ∨ root.content key = default.content key) ∧
      (¬m.Mentions key.path → c.content key = default.content key) := by
  refine ⟨_, load_of_holds hRoot hUpper hEnv, fun key hUnmentioned => ?_⟩
  obtain ⟨text, -, -, hUpperRead⟩ := hUpper
  obtain ⟨rootText, -, -, hRootRead⟩ := hRoot
  have hContent : (overlay root upper).content key =
      if key.InSection then default.content key else root.content key :=
    content_overlay_of_default (content_of_unmentioned hUpperRead hUnmentioned)
  refine ⟨hContent, ?_, fun hNowhere => ?_⟩
  · rw [hContent]
    by_cases hSection : key.InSection
    · simp [hSection, eq_comm]
    · simp [hSection]
  · rw [hContent, content_of_unmentioned hRootRead hNowhere, ite_self]

/-- A root file that says how many requests may run at a time. -/
def fourAtATime : String := "collector:\n  concurrency: 4\n"

/-- The root file in a folder of its own, and beside it a file that names a context and no more. -/
def layeredTree : FileTree :=
  ((⟨∅, []⟩ : FileTree).putFile "conf/config.yaml" fourAtATime.toUTF8).putFile "explicit.yaml"
    "context: x\n".toUTF8

/-- The environment that puts the settings in a folder and overrides none. -/
def settingsIn (folder : String) : Environment :=
  ⟨(∅ : Dict String String).insert "KUBE_INVENTORY_CONFIG_DIR" folder, none⟩

theorem overridesNothing_settingsIn (folder : String) :
    (settingsIn folder).OverridesNothing := by
  simp [Environment.OverridesNothing, Environment.get?, settingsIn, Dict.get?_insert]

theorem holds_root_layeredTree :
    Holds layeredTree (settingsIn "conf").rootConfigPath
      (.mapping none [(.scalar none .plain "collector",
        .mapping none [(.scalar none .plain "concurrency", .scalar none .plain "4")])])
      { default with collector := { Collector.default with concurrency := 4 } } :=
  ⟨fourAtATime, by decide +kernel, by cbv, rfl⟩

theorem holds_explicit_layeredTree :
    Holds layeredTree "explicit.yaml"
      (.mapping none [(.scalar none .plain "context", .scalar none .plain "x")])
      { default with context := some "x" } :=
  ⟨"context: x\n", by decide +kernel, by cbv, rfl⟩

theorem concurrency_unmentioned {text : String} :
    ¬(Node.mapping none [(.scalar none .plain "context", .scalar none .plain text)]).Mentions
      Key.concurrency.path := by
  simp [Yaml.Node.Mentions, Key.path, Node.fields?, Node.text?]

theorem content_load_of_unmentioned_layeredTree :
    ∃ c, load (settingsIn "conf") layeredTree (some "explicit.yaml") = .ok c ∧
      c.content .concurrency = 8 := by
  obtain ⟨c, hLoad, hContent⟩ := content_load_of_unmentioned holds_root_layeredTree
    holds_explicit_layeredTree (overridesNothing_settingsIn "conf")
  obtain ⟨hDefault, -⟩ := hContent .concurrency concurrency_unmentioned
  rw [if_pos (by decide)] at hDefault
  exact ⟨c, hLoad, hDefault⟩

/-- The settings do not come from the layers one by one. -/
theorem not_content_load_eq_root_of_unmentioned :
    ¬∀ (env : Environment) (files : FileTree) (path : String) (m n : Node) (root upper : Config),
      Holds files env.rootConfigPath m root → Holds files path n upper → env.OverridesNothing →
      ∃ c, load env files (some path) = .ok c ∧ ∀ key : Key, ¬n.Mentions key.path →
        c.content key = root.content key := by
  intro h
  obtain ⟨c, hLoad, hContent⟩ := h (settingsIn "conf") layeredTree "explicit.yaml" _ _ _ _
    holds_root_layeredTree holds_explicit_layeredTree (overridesNothing_settingsIn "conf")
  have hFour : c.collector.concurrency = 4 := hContent .concurrency concurrency_unmentioned
  rw [load_of_holds holds_root_layeredTree holds_explicit_layeredTree
    (overridesNothing_settingsIn "conf")] at hLoad
  obtain rfl := Except.ok.inj hLoad
  exact absurd hFour (by decide)

end Config

end KubeInventory
