import KubeInventory.Proofs.Decimal
import KubeInventory.Proofs.Layering

/-! The settings that are loaded, one by one, and when none are. The files that count are taken with
the named file before the root file: a context or a list comes from the first of them that has it,
the sections as a whole from the first of them, and variables replace what the files say. Loading
fails on the first file that cannot be had, the root file before the named one. -/

namespace KubeInventory.Config

variable {env : Environment} {files : FileTree} {named : Option String} {path : String}

section Files

/-- Why the settings of a file that is there cannot be had. -/
inductive Unfit (files : FileTree) (path : String) : ConfigError → Prop
  | unreadable {cause : FileError} (hText : files.readText path = .error cause) :
      Unfit files path (.unreadable path cause)
  | malformed {text : String} (hText : files.readText path = .ok text)
      (hRead : read? text = none) : Unfit files path (.malformed path)

/-- The root file may be missing, but if it is there its settings must be had. -/
def RootFails (env : Environment) (files : FileTree) (e : ConfigError) : Prop :=
  files.isThere env.rootConfigPath = true ∧ Unfit files env.rootConfigPath e

/-- A file that is named must be there, and its settings must be had. -/
inductive NamedFails (files : FileTree) : Option String → ConfigError → Prop
  | missing {path : String} (hThere : files.isThere path = false) :
      NamedFails files (some path) (.notFound path)
  | unfit {path : String} {e : ConfigError} (hThere : files.isThere path = true)
      (hUnfit : Unfit files path e) : NamedFails files (some path) e

/-- The settings of the root file, if it is there. -/
inductive RootLayer (env : Environment) (files : FileTree) : Option Config → Prop
  | missing (hThere : files.isThere env.rootConfigPath = false) : RootLayer env files none
  | decoded {n : Yaml.Node} {c : Config} (hHolds : Holds files env.rootConfigPath n c) :
      RootLayer env files (some c)

/-- The settings of the named file, if one is named. -/
inductive NamedLayer (files : FileTree) : Option String → Option Config → Prop
  | unnamed : NamedLayer files none none
  | decoded {path : String} {n : Yaml.Node} {c : Config} (hHolds : Holds files path n c) :
      NamedLayer files (some path) (some c)

/-- Settings are had from a file that holds a document of settings. -/
theorem loadFile_eq_ok_iff_holds {c : Config} :
    loadFile files path = .ok c ↔ ∃ n, Holds files path n c := by
  constructor
  · intro h
    obtain ⟨text, hText, hRead⟩ := loadFile_eq_ok_iff.mp h
    obtain ⟨n, hDocument, hSettings⟩ := Option.bind_eq_some_iff.mp hRead
    exact ⟨n, text, hText, hDocument, hSettings⟩
  · rintro ⟨n, hHolds⟩
    exact hHolds.loadFile_eq

theorem loadFile_of_missing (h : files.isThere path = false) :
    loadFile files path = .error (.notFound path) := by
  simp [loadFile, h, throw, throwThe, MonadExceptOf.throw, bind, Except.bind]

theorem loadFile_of_there (h : files.isThere path = true) :
    loadFile files path =
      match files.readText path with
      | .error cause => .error (.unreadable path cause)
      | .ok text => (read? text).elim (.error (.malformed path)) .ok := by
  simp only [loadFile, h, Bool.not_true, Bool.false_eq_true, if_false]
  cases files.readText path with
  | error cause => rfl
  | ok text =>
      simp only [Except.mapError, bind, Except.bind]
      cases read? text <;> rfl

/-- A file that is there is unfit for one of two reasons. -/
theorem loadFile_eq_error_iff {e : ConfigError} (hThere : files.isThere path = true) :
    loadFile files path = .error e ↔ Unfit files path e := by
  rw [loadFile_of_there hThere]
  constructor
  · intro h
    cases hText : files.readText path with
    | error cause =>
        rw [hText] at h
        obtain rfl := Except.error.inj h
        exact .unreadable hText
    | ok text =>
        rw [hText] at h
        cases hRead : read? text with
        | some c => simp [hRead] at h
        | none =>
            simp only [hRead, Option.elim_none] at h
            obtain rfl := Except.error.inj h
            exact .malformed hText hRead
  · rintro (hText | ⟨hText, hRead⟩)
    · rw [hText]
    · simp [hText, hRead]

/-- The root file counts if it is there; the defaults stand in for one that is not. -/
theorem loadRoot_eq_ok_iff {base : Config} :
    loadRoot env files = .ok base ↔
      ∃ root, RootLayer env files root ∧ base = root.getD default := by
  rw [loadRoot]
  cases hThere : files.isThere env.rootConfigPath with
  | false =>
      rw [if_neg Bool.false_ne_true]
      constructor
      · intro h
        exact ⟨none, .missing hThere, (Except.ok.inj h).symm⟩
      · rintro ⟨root, hRoot, rfl⟩
        cases hRoot with
        | missing => rfl
        | decoded hHolds =>
            rw [hHolds.isThere] at hThere
            cases hThere
  | true =>
      rw [if_pos rfl, loadFile_eq_ok_iff_holds]
      constructor
      · rintro ⟨n, hHolds⟩
        exact ⟨some base, .decoded hHolds, rfl⟩
      · rintro ⟨root, hRoot, rfl⟩
        cases hRoot with
        | missing hMissing =>
            rw [hThere] at hMissing
            cases hMissing
        | decoded hHolds => exact ⟨_, hHolds⟩

/-- A root file that is there must be fit. -/
theorem loadRoot_eq_error_iff {e : ConfigError} :
    loadRoot env files = .error e ↔ RootFails env files e := by
  rw [loadRoot, RootFails]
  cases hThere : files.isThere env.rootConfigPath with
  | false => simp
  | true => simpa using loadFile_eq_error_iff hThere

theorem map_eq_ok_iff {ε α β : Type} {x : Except ε α} {f : α → β} {y : β} :
    x.map f = .ok y ↔ ∃ a, x = .ok a ∧ f a = y := by
  cases x <;> simp [Except.map]

theorem bind_eq_ok_iff {ε α β : Type} {x : Except ε α} {f : α → Except ε β} {y : β} :
    x.bind f = .ok y ↔ ∃ a, x = .ok a ∧ f a = .ok y := by
  cases x <;> simp [Except.bind]

theorem map_eq_error_iff {ε α β : Type} {x : Except ε α} {f : α → β} {e : ε} :
    x.map f = .error e ↔ x = .error e := by
  cases x <;> simp [Except.map]

/-- Settings with those of the named file laid over them, if one is named. -/
def layered (files : FileTree) (base : Config) : Option String → Except ConfigError Config
  | none => .ok base
  | some path => (loadFile files path).map (overlay base)

/-- First the root file, then the named one over it, then the variables. -/
theorem load_eq (env : Environment) (files : FileTree) (named : Option String) :
    load env files named =
      (loadRoot env files).bind fun base => (layered files base named).map (override env) := by
  have hRoot : (loadFile files env.rootConfigPath).map (overlay default) =
      loadFile files env.rootConfigPath := by
    cases loadFile files env.rootConfigPath with
    | error e => rfl
    | ok c => exact congrArg Except.ok (overlay_default c)
  rw [load, hRoot, loadRoot]
  split
  all_goals
    refine congrArg (Except.bind _) (funext fun base => ?_)
    cases named with
    | none => rfl
    | some path =>
        change ((loadFile files path).map (overlay base)).bind _ = _
        rw [layered]
        cases loadFile files path <;> rfl

/-- A file that is named must be had, and is laid over what is below it. -/
theorem layered_eq_ok_iff {base c : Config} :
    layered files base named = .ok c ↔
      ∃ upper, NamedLayer files named upper ∧ c = upper.elim base (overlay base) := by
  cases named with
  | none =>
      constructor
      · intro h
        exact ⟨none, .unnamed, (Except.ok.inj h).symm⟩
      · rintro ⟨_, ⟨⟩, rfl⟩
        rfl
  | some path =>
      constructor
      · intro h
        obtain ⟨upper, hUpper, rfl⟩ := map_eq_ok_iff.mp h
        obtain ⟨n, hHolds⟩ := loadFile_eq_ok_iff_holds.mp hUpper
        exact ⟨some upper, .decoded hHolds, rfl⟩
      · rintro ⟨_, ⟨⟩ | hHolds, rfl⟩
        exact map_eq_ok_iff.mpr ⟨_, hHolds.loadFile_eq, rfl⟩

theorem layered_eq_error_iff {base : Config} {e : ConfigError} :
    layered files base named = .error e ↔ NamedFails files named e := by
  cases named with
  | none =>
      constructor
      · nofun
      · nofun
  | some path =>
      rw [layered, map_eq_error_iff]
      cases hThere : files.isThere path with
      | false =>
          rw [loadFile_of_missing hThere]
          constructor
          · intro h
            obtain rfl := Except.error.inj h
            exact .missing hThere
          · rintro (- | ⟨hIs, -⟩)
            · rfl
            · rw [hThere] at hIs
              cases hIs
      | true =>
          rw [loadFile_eq_error_iff hThere]
          constructor
          · exact .unfit hThere
          · rintro (hMissing | ⟨-, hUnfit⟩)
            · rw [hThere] at hMissing
              cases hMissing
            · exact hUnfit

end Files

section Merged

/-- What a setting that is a number comes to: what the variable says, if that is a number of 64
bits, and what it would be without the variable otherwise. -/
inductive Overridden (env : Environment) (name : String) (base : Nat) : Nat → Prop
  | number {text : String} {n : Nat} (hText : env.get? name = some text)
      (hNumeral : Text.IsNumeral text n) (hBound : n ≤ 2 ^ 64 - 1) : Overridden env name base n
  | kept (hNone : ∀ text, env.get? name = some text → ¬∃ n ≤ 2 ^ 64 - 1, Text.IsNumeral text n) :
      Overridden env name base base

/-- The first of some lists that is not empty. -/
def firstNonempty {α : Type} (lists : List (List α)) : List α :=
  (lists.find? (!·.isEmpty)).getD []

/-- What settings come to, given those of the files that count, of which the first count before the
later ones. -/
structure Merged (env : Environment) (layers : List Config) (c : Config) : Prop where
  context : c.context = ((env.get? "KUBE_INVENTORY_CONTEXT").filter (!·.isEmpty)).or
    (layers.findSome? (·.context))
  namespaces : c.namespaces = ((env.get? "KUBE_INVENTORY_NAMESPACES").map Text.splitList).getD
    (firstNonempty (layers.map (·.namespaces)))
  excludeNamespaces : c.excludeNamespaces = firstNonempty (layers.map (·.excludeNamespaces))
  checks : c.checks = firstNonempty (layers.map (·.checks))
  concurrency : Overridden env "KUBE_INVENTORY_CONCURRENCY"
    (layers.headD default).collector.concurrency c.collector.concurrency
  requestTimeout : Overridden env "KUBE_INVENTORY_REQUEST_TIMEOUT"
    (layers.headD default).collector.requestTimeoutSeconds c.collector.requestTimeoutSeconds
  cluster : c.cluster = (layers.headD default).cluster

theorem numberOf?_eq_some_iff {name : String} {n : Nat} :
    numberOf? env name = some n ↔
      ∃ text, env.get? name = some text ∧ Text.IsNumeral text n ∧ n ≤ 2 ^ 64 - 1 := by
  simp only [numberOf?, Option.bind_eq_some_iff, Text.toOption_readUnsigned_eq_some_iff,
    Text.maxWord_eq]

/-- A variable counts if it holds a number of one word, and is ignored otherwise. -/
theorem overridden_iff {name : String} {base n : Nat} :
    Overridden env name base n ↔ n = (numberOf? env name).getD base := by
  constructor
  · rintro (⟨hText, hNumeral, hBound⟩ | hNone)
    · rw [numberOf?_eq_some_iff.mpr ⟨_, hText, hNumeral, hBound⟩, Option.getD_some]
    · have hUnset : numberOf? env name = none := by
        refine Option.eq_none_iff_forall_ne_some.mpr fun n hSome => ?_
        obtain ⟨text, hText, hNumeral, hBound⟩ := numberOf?_eq_some_iff.mp hSome
        exact hNone text hText ⟨n, hBound, hNumeral⟩
      rw [hUnset, Option.getD_none]
  · rintro rfl
    cases hNumber : numberOf? env name with
    | some n =>
        obtain ⟨text, hText, hNumeral, hBound⟩ := numberOf?_eq_some_iff.mp hNumber
        exact .number hText hNumeral hBound
    | none =>
        refine .kept fun text hText => ?_
        rintro ⟨n, hBound, hNumeral⟩
        rw [numberOf?_eq_some_iff.mpr ⟨text, hText, hNumeral, hBound⟩] at hNumber
        cases hNumber

variable {root upper : Option Config}

/-- The settings of the two files over each other and over the defaults. -/
def stack (root upper : Option Config) : Config :=
  upper.elim (root.getD default) (overlay (root.getD default))

/-- The context comes from the upper file if that has one. -/
theorem context_stack :
    (stack root upper).context = (upper.toList ++ root.toList).findSome? (·.context) := by
  cases upper with
  | none => cases root <;> simp [stack, default]
  | some u => cases root <;> cases hContext : u.context <;> simp [stack, overlay, default, hContext]

/-- A list comes from the upper file unless it is empty there. -/
theorem list_stack {α : Type} (part : Config → List α) (hDefault : part default = [])
    (hPart : ∀ base u, part (overlay base u) = if (part u).isEmpty then part base else part u) :
    part (stack root upper) = firstNonempty ((upper.toList ++ root.toList).map part) := by
  cases upper with
  | none =>
      cases root with
      | none => exact hDefault
      | some base => cases hBase : part base <;> simp [stack, firstNonempty, hBase]
  | some u =>
      rw [stack, Option.elim_some, hPart]
      cases hUpper : part u with
      | cons x rest => simp [firstNonempty, hUpper]
      | nil =>
          cases root with
          | none => simp [firstNonempty, hUpper, hDefault]
          | some base => cases hBase : part base <;> simp [firstNonempty, hUpper, hBase]

/-- The sections come as a whole from the upper file, if there is one. -/
theorem sections_stack (root upper : Option Config) :
    (stack root upper).collector = ((upper.toList ++ root.toList).headD default).collector ∧
      (stack root upper).cluster = ((upper.toList ++ root.toList).headD default).cluster := by
  cases upper <;> cases root <;> exact ⟨rfl, rfl⟩

/-- Setting by setting, the layers give what counts. -/
theorem merged_override :
    Merged env (upper.toList ++ root.toList) (override env (stack root upper)) := by
  obtain ⟨hCollector, hCluster⟩ := sections_stack root upper
  constructor
  · rw [← context_stack]
    rfl
  · rw [← list_stack Config.namespaces rfl fun _ _ => rfl]
    rfl
  · rw [← list_stack Config.excludeNamespaces rfl fun _ _ => rfl]
    rfl
  · rw [← list_stack Config.checks rfl fun _ _ => rfl]
    rfl
  · rw [← hCollector]
    exact overridden_iff.mpr rfl
  · rw [← hCollector]
    exact overridden_iff.mpr rfl
  · exact hCluster

/-- The layers and the variables leave no setting open. -/
theorem Merged.eq {layers : List Config} {c d : Config} (hc : Merged env layers c)
    (hd : Merged env layers d) : c = d := by
  have hCluster : c.cluster = d.cluster := hc.cluster.trans hd.cluster.symm
  refine ext_content fun key => ?_
  cases key with
  | context => exact hc.context.trans hd.context.symm
  | namespaces => exact hc.namespaces.trans hd.namespaces.symm
  | excludeNamespaces => exact hc.excludeNamespaces.trans hd.excludeNamespaces.symm
  | concurrency =>
      exact (overridden_iff.mp hc.concurrency).trans (overridden_iff.mp hd.concurrency).symm
  | requestTimeout =>
      exact (overridden_iff.mp hc.requestTimeout).trans (overridden_iff.mp hd.requestTimeout).symm
  | cniConfDir => exact congrArg Machine.cniConfDir hCluster
  | cniBinDir => exact congrArg Machine.cniBinDir hCluster
  | dnsProbeHost => exact congrArg Machine.dnsProbeHost hCluster
  | checks => exact hc.checks.trans hd.checks.symm

end Merged

theorem load_eq_ok_iff {c : Config} :
    load env files named = .ok c ↔ ∃ root upper, RootLayer env files root ∧
      NamedLayer files named upper ∧ Merged env (upper.toList ++ root.toList) c := by
  rw [load_eq]
  constructor
  · intro h
    obtain ⟨base, hBase, h⟩ := bind_eq_ok_iff.mp h
    obtain ⟨root, hRoot, rfl⟩ := loadRoot_eq_ok_iff.mp hBase
    obtain ⟨laid, hLaid, rfl⟩ := map_eq_ok_iff.mp h
    obtain ⟨upper, hUpper, rfl⟩ := layered_eq_ok_iff.mp hLaid
    exact ⟨root, upper, hRoot, hUpper, merged_override⟩
  · rintro ⟨root, upper, hRoot, hUpper, hMerged⟩
    obtain rfl := hMerged.eq merged_override
    have hBase := loadRoot_eq_ok_iff.mpr ⟨root, hRoot, rfl⟩
    have hLaid : layered files (root.getD default) named = .ok (stack root upper) :=
      layered_eq_ok_iff.mpr ⟨upper, hUpper, rfl⟩
    exact bind_eq_ok_iff.mpr ⟨_, hBase, map_eq_ok_iff.mpr ⟨_, hLaid, rfl⟩⟩

/-- The error of the root file comes before that of the named one. -/
theorem load_eq_error_iff {e : ConfigError} :
    load env files named = .error e ↔
      RootFails env files e ∨ (∀ cause, ¬RootFails env files cause) ∧ NamedFails files named e := by
  rw [load_eq]
  simp only [← loadRoot_eq_error_iff]
  cases hRoot : loadRoot env files with
  | error cause => simp [Except.bind]
  | ok base =>
      rw [Except.bind, map_eq_error_iff, layered_eq_error_iff]
      simp

/-- Loading fails just if the root file is there and cannot be had, or else a named file is not
there or cannot be had. If it does not fail, each setting is what the variables, the named file, the
root file and the defaults say in this order, where a section counts as a whole and has its defaults
for what the file leaves out of it. -/
theorem load_merges (env : Environment) (files : FileTree) (named : Option String) :
    (∀ e, load env files named = .error e ↔
      RootFails env files e ∨
        (∀ cause, ¬RootFails env files cause) ∧ NamedFails files named e) ∧
    (∀ c, load env files named = .ok c ↔
      ∃ root upper, RootLayer env files root ∧ NamedLayer files named upper ∧
        Merged env (upper.toList ++ root.toList) c) ∧
    ∀ path n c, Holds files path n c → ∀ key : Key, ¬n.Mentions key.path →
      c.content key = default.content key := by
  refine ⟨fun e => load_eq_error_iff, fun c => load_eq_ok_iff, ?_⟩
  rintro path n c ⟨text, -, -, hRead⟩ key hAbsent
  exact content_of_unmentioned hRead hAbsent

end KubeInventory.Config
