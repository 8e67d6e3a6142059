import KubeInventory.Proofs.CommaList
import KubeInventory.Proofs.Decimal
import KubeInventory.Proofs.Setting

/-! Settings that are read and written by name. A text that a key takes is shown in a normal form,
other keys show what they showed before, a second assignment leaves no trace of the first, and
assigning what is shown changes nothing. An assignment that fails leaves the settings as they are.
-/

namespace KubeInventory.Config

/-- The settings that hold any text. -/
def textNames : List String :=
  ["context", "cluster.cniConfDir", "cluster.cniBinDir", "cluster.dnsProbeHost"]

/-- The settings that hold lists of texts, written with commas between them. -/
def listNames : List String := ["namespaces", "excludeNamespaces"]

/-- The settings that hold a number of one word. -/
def numberNames : List String := ["collector.concurrency", "collector.requestTimeoutSeconds"]

/-- Whether a key can be set to a text. A number must be one of 64 bits. -/
def Takes (name value : String) : Prop :=
  name ∈ textNames ++ listNames ++ numberNames ∧
    (name ∈ numberNames → ∃ n ≤ 2 ^ 64 - 1, Text.IsNumeral value n)

/-- How a setting shows the text that it was set to: as it is, without blanks and empty items, or
as a number without a sign and without zeros at the front. -/
inductive ShownAs (name value : String) : String → Prop
  | text (hName : name ∈ textNames) : ShownAs name value value
  | list (hName : name ∈ listNames) : ShownAs name value (joinList (Text.splitList value))
  | number {n : Nat} (hName : name ∈ numberNames) (hNumeral : Text.IsNumeral value n) :
      ShownAs name value (toString n)

namespace Key

variable {key : Key} {value : String}

theorem exists_readUnsigned_iff :
    (∃ n, (Text.readUnsigned Text.maxWord value).toOption = some n) ↔
      ∃ n ≤ 2 ^ 64 - 1, Text.IsNumeral value n := by
  simp only [Text.toOption_readUnsigned_eq_some_iff, Text.maxWord_eq, and_comm]

/-- The texts that a setting takes are those that its key can be set to. -/
theorem exists_read?_iff : (∃ x, key.read? value = some x) ↔ Takes key.name value := by
  have hNumber (hName : key.name ∈ numberNames)
      (hRead : (∃ x, key.read? value = some x) ↔
        ∃ n, (Text.readUnsigned Text.maxWord value).toOption = some n) :
      (∃ x, key.read? value = some x) ↔ Takes key.name value := by
    rw [hRead, exists_readUnsigned_iff, Takes]
    simp [hName]
  cases key with
  | concurrency => exact hNumber (by decide) .rfl
  | requestTimeout => exact hNumber (by decide) .rfl
  | checks =>
      constructor
      · rintro ⟨x, hNone⟩
        cases hNone
      · rintro ⟨hName, -⟩
        exact absurd hName (by decide)
  | _ =>
      refine iff_of_true ⟨_, rfl⟩ ⟨by decide, fun hName => ?_⟩
      exact absurd hName (by decide)

/-- What is shown of a value that was read is its normal form. -/
theorem shownAs_of_read? {x : key.Content} (h : key.read? value = some x) :
    ShownAs key.name value (key.shown x) := by
  cases key with
  | context =>
      rw [shown_of_read? h]
      exact .text (by decide)
  | concurrency => exact .number (by decide) (Text.toOption_readUnsigned_eq_some_iff.mp h).1
  | requestTimeout => exact .number (by decide) (Text.toOption_readUnsigned_eq_some_iff.mp h).1
  | checks => cases h
  | namespaces =>
      rw [shown_of_read? h]
      exact .list (by decide)
  | excludeNamespaces =>
      rw [shown_of_read? h]
      exact .list (by decide)
  | _ =>
      rw [shown_of_read? h]
      exact .text (by decide)

/-- What a setting shows is read as what it holds. -/
theorem read?_shown {x : key.Content} (h : key.read? value = some x) :
    key.read? (key.shown x) = some x := by
  have hNumber {n : Nat} (hRead : (Text.readUnsigned Text.maxWord value).toOption = some n) :
      (Text.readUnsigned Text.maxWord (toString n)).toOption = some n :=
    Text.toOption_readUnsigned_eq_some_iff.mpr
      ⟨Text.isNumeral_toString n, (Text.toOption_readUnsigned_eq_some_iff.mp hRead).2⟩
  have hList : Text.splitList (joinList (Text.splitList value)) = Text.splitList value :=
    Text.splitList_joinList fun _ => Text.isItem_of_mem_splitList
  cases key with
  | context =>
      obtain rfl := Option.some.inj h
      cases hEmpty : value.isEmpty with
      | true => rfl
      | false => simp [read?, shown, hEmpty]
  | concurrency => exact hNumber h
  | requestTimeout => exact hNumber h
  | checks => cases h
  | namespaces =>
      obtain rfl := Option.some.inj h
      exact congrArg some hList
  | excludeNamespaces =>
      obtain rfl := Option.some.inj h
      exact congrArg some hList
  | _ => rfl

end Key

section Updates

variable {env : Environment} {c d : Config} {name value : String}

/-- What an assignment in place gives, and the settings that it leaves. -/
def updated (env : Environment) (name value : String) (c : Config) :
    Except ConfigError Unit × Config :=
  (update env name value).run.run c

theorem updated_eq (env : Environment) (name value : String) (c : Config) :
    updated env name value c =
      match c.assign env name value with
      | .ok new => (.ok (), new)
      | .error e => (.error e, c) := by
  have hRun : updated env name value c =
      ((liftM (c.assign env name value) >>= fun new => set new :
        ExceptT ConfigError (StateM Config) Unit).run.run c) := rfl
  rw [hRun]
  cases c.assign env name value <;> rfl

theorem updated_eq_ok_iff :
    updated env name value c = (.ok (), d) ↔ c.assign env name value = .ok d := by
  rw [updated_eq]
  cases c.assign env name value <;> simp

/-- An assignment that fails changes nothing. -/
theorem eq_of_updated_eq_error {e : ConfigError} (h : updated env name value c = (.error e, d)) :
    d = c := by
  rw [updated_eq] at h
  cases hAssign : c.assign env name value with
  | ok new =>
      rw [hAssign] at h
      cases h
  | error cause =>
      rw [hAssign] at h
      exact (Prod.mk.inj h).2.symm

/-- An assignment puts the value that its text reads as under its key. -/
theorem assign_eq_put_iff (key : Key) :
    c.assign env key.name value = .ok d ↔ ∃ x, key.read? value = some x ∧ d = c.put key x := by
  rw [assign, Key.ofName?_eq_some_iff.mpr rfl]
  exact withSetting_eq_ok_iff

theorem exists_key_of_takes (h : Takes name value) : ∃ key : Key, key.name = name := by
  have hKnown : ∀ name ∈ textNames ++ listNames ++ numberNames,
      (Key.ofName? name).isSome = true := by
    decide
  obtain ⟨key, hKey⟩ := Option.isSome_iff_exists.mp (hKnown name h.1)
  exact ⟨key, Key.ofName?_eq_some_iff.mp hKey⟩

theorem exists_key_of_assign (h : c.assign env name value = .ok d) :
    ∃ key : Key, key.name = name := by
  obtain ⟨key, hName, -⟩ := assign_eq_ok_iff.mp h
  exact ⟨key, hName⟩

/-- Whether an assignment succeeds depends on the key and the text alone, not on the settings. -/
theorem exists_assign_iff : (∃ d, c.assign env name value = .ok d) ↔ Takes name value := by
  constructor
  · rintro ⟨d, hAssign⟩
    obtain ⟨key, rfl⟩ := exists_key_of_assign hAssign
    obtain ⟨x, hRead, -⟩ := (assign_eq_put_iff key).mp hAssign
    exact Key.exists_read?_iff.mp ⟨x, hRead⟩
  · intro hTakes
    obtain ⟨key, rfl⟩ := exists_key_of_takes hTakes
    obtain ⟨x, hRead⟩ := Key.exists_read?_iff.mpr hTakes
    exact ⟨_, (assign_eq_put_iff key).mpr ⟨x, hRead, rfl⟩⟩

/-- The second value replaces the first. -/
theorem put_put (c : Config) (key : Key) (x y : key.Content) :
    (c.put key x).put key y = c.put key y := by
  cases key <;> rfl

/-- No two keys share a part of the settings. -/
theorem lookup_put_of_ne {key : Key} {x : key.Content} {other : String} (h : other ≠ key.name) :
    (c.put key x).lookup other = c.lookup other := by
  rw [lookup, lookup]
  cases hOther : Key.ofName? other with
  | none => rfl
  | some another =>
      have hNe : another ≠ key := by
        rintro rfl
        exact h (Key.ofName?_eq_some_iff.mp hOther).symm
      dsimp only
      rw [setting_eq, setting_eq, content_put_of_ne c hNe]

/-- Settings are read and written by name as a lens is: a key takes just the texts of its kind, and
then shows their normal form while other keys show what they did; the second of two assignments
wins, and assigning what is shown changes nothing. An assignment that fails changes nothing either.
-/
theorem updated_lens (env : Environment) (c : Config) (name value : String) :
    ((∃ d, updated env name value c = (.ok (), d)) ↔ Takes name value) ∧
    (∀ e d, updated env name value c = (.error e, d) → d = c) ∧
    ∀ d, updated env name value c = (.ok (), d) →
      (∃ shown, ShownAs name value shown ∧ d.lookup name = .ok shown ∧
        updated env name shown d = (.ok (), d)) ∧
      (∀ other ≠ name, d.lookup other = c.lookup other) ∧
      ∀ again d', updated env name again d = (.ok (), d') ↔
        updated env name again c = (.ok (), d') := by
  simp only [updated_eq_ok_iff]
  refine ⟨exists_assign_iff, fun e d => eq_of_updated_eq_error, fun d hAssign => ?_⟩
  obtain ⟨key, rfl⟩ := exists_key_of_assign hAssign
  obtain ⟨x, hRead, rfl⟩ := (assign_eq_put_iff key).mp hAssign
  refine ⟨⟨key.shown x, Key.shownAs_of_read? hRead, ?_, ?_⟩, fun other => lookup_put_of_ne,
    fun again d' => ?_⟩
  · rw [lookup_name, setting_eq, content_put_self]
  · exact (assign_eq_put_iff key).mpr ⟨x, Key.read?_shown hRead, (put_put c key x x).symm⟩
  · simp only [assign_eq_put_iff, put_put]

end Updates

end KubeInventory.Config
