import KubeInventory.Config.Source

/-! Settings one by one. What a key names can be taken out of the settings and put back, and the
settings are no more than what their keys name. Assigning a text to a key changes that setting to
what the text says, and no other. -/

namespace KubeInventory.Config

/-- What a setting holds. -/
abbrev Key.Content : Key → Type
  | .context => Option String
  | .namespaces | .excludeNamespaces => List String
  | .concurrency | .requestTimeout => Nat
  | .cniConfDir | .cniBinDir | .dnsProbeHost => String
  | .checks => List Check

/-- What the settings hold under a key. -/
def content (c : Config) : (key : Key) → key.Content
  | .context => c.context
  | .namespaces => c.namespaces
  | .excludeNamespaces => c.excludeNamespaces
  | .concurrency => c.collector.concurrency
  | .requestTimeout => c.collector.requestTimeoutSeconds
  | .cniConfDir => c.cluster.cniConfDir
  | .cniBinDir => c.cluster.cniBinDir
  | .dnsProbeHost => c.cluster.dnsProbeHost
  | .checks => c.checks

/-- The settings with another content under a key. -/
def put (c : Config) : (key : Key) → key.Content → Config
  | .context, x => { c with context := x }
  | .namespaces, x => { c with namespaces := x }
  | .excludeNamespaces, x => { c with excludeNamespaces := x }
  | .concurrency, x => { c with collector := { c.collector with concurrency := x } }
  | .requestTimeout, x => { c with collector := { c.collector with requestTimeoutSeconds := x } }
  | .cniConfDir, x => { c with cluster := { c.cluster with cniConfDir := x } }
  | .cniBinDir, x => { c with cluster := { c.cluster with cniBinDir := x } }
  | .dnsProbeHost, x => { c with cluster := { c.cluster with dnsProbeHost := x } }
  | .checks, x => { c with checks := x }

/-- Settings that agree under every key are equal, so the keys leave out nothing. -/
theorem ext_content {c d : Config} (h : ∀ key, c.content key = d.content key) : c = d := by
  obtain ⟨context, namespaces, excluded, ⟨concurrency, timeout⟩, ⟨confDir, binDir, host⟩, checks⟩ :=
    c
  obtain rfl := h .context
  obtain rfl := h .namespaces
  obtain rfl := h .excludeNamespaces
  obtain rfl := h .concurrency
  obtain rfl := h .requestTimeout
  obtain rfl := h .cniConfDir
  obtain rfl := h .cniBinDir
  obtain rfl := h .dnsProbeHost
  obtain rfl := h .checks
  rfl

@[simp] theorem content_put_self (c : Config) (key : Key) (x : key.Content) :
    (c.put key x).content key = x := by
  cases key <;> rfl

/-- What is put under one key shows under no other. -/
theorem content_put_of_ne (c : Config) {key other : Key} (h : other ≠ key) (x : key.Content) :
    (c.put key x).content other = c.content other := by
  cases key <;> cases other <;> first | rfl | exact absurd rfl h

/-- To have put something is to hold it under its key and to have left the other keys alone. -/
theorem eq_put_iff {c d : Config} {key : Key} {x : key.Content} :
    d = c.put key x ↔ d.content key = x ∧ ∀ other ≠ key, d.content other = c.content other := by
  constructor
  · rintro rfl
    exact ⟨content_put_self c key x, fun other hOther => content_put_of_ne c hOther x⟩
  · rintro ⟨hKey, hOthers⟩
    refine ext_content fun other => ?_
    by_cases hOther : other = key
    · subst hOther
      rw [hKey, content_put_self]
    · rw [hOthers other hOther, content_put_of_ne c hOther]

namespace Key

theorem ofName?_eq_some_iff {name : String} {key : Key} :
    ofName? name = some key ↔ key.name = name := by
  constructor
  · intro hFound
    have hName := List.find?_some hFound
    exact eq_of_beq hName
  · rintro rfl
    cases key <;> decide

/-- What a text says as the value of a setting, if the setting takes it. -/
def read? : (key : Key) → String → Option key.Content
  | .context, value => some (if value.isEmpty then none else some value)
  | .namespaces, value => some (Text.splitList value)
  | .excludeNamespaces, value => some (Text.splitList value)
  | .concurrency, value => (Text.readUnsigned Text.maxWord value).toOption
  | .requestTimeout, value => (Text.readUnsigned Text.maxWord value).toOption
  | .cniConfDir, value => some value
  | .cniBinDir, value => some value
  | .dnsProbeHost, value => some value
  | .checks, _ => none

/-- The text that shows the content of a setting. -/
def shown : (key : Key) → key.Content → String
  | .context, x => x.getD ""
  | .namespaces, x => joinList x
  | .excludeNamespaces, x => joinList x
  | .concurrency, x => toString x
  | .requestTimeout, x => toString x
  | .cniConfDir, x => x
  | .cniBinDir, x => x
  | .dnsProbeHost, x => x
  | .checks, x => Yaml.write (checksDocument x)

/-- A number in decimal, without a sign and without zeros before it. -/
def canonicalNumber (value : String) : String :=
  match Text.readUnsigned Text.maxWord value with
  | .ok n => toString n
  | .error _ => value

/-- The form in which a setting shows a text that it was set to: lists lose blanks and empty pieces,
and numbers signs and zeros before them. -/
def normalForm : Key → String → String
  | .namespaces, value | .excludeNamespaces, value => joinList (Text.splitList value)
  | .concurrency, value | .requestTimeout, value => canonicalNumber value
  | .context, value | .cniConfDir, value | .cniBinDir, value | .dnsProbeHost, value
  | .checks, value => value

theorem canonicalNumber_eq {value : String} {n : Nat}
    (h : (Text.readUnsigned Text.maxWord value).toOption = some n) :
    canonicalNumber value = toString n := by
  rw [canonicalNumber]
  split
  · rename_i m hOk
    rw [hOk] at h
    rw [Option.some.inj h]
  · rename_i hError
    rw [hError] at h
    cases h

/-- A value that was read is shown in the normal form of its text. -/
theorem shown_of_read? {key : Key} {value : String} {x : key.Content}
    (h : key.read? value = some x) : key.shown x = key.normalForm value := by
  cases key with
  | context =>
      obtain rfl := Option.some.inj h
      by_cases hEmpty : value.isEmpty
      · simp [shown, normalForm, String.isEmpty_iff.mp hEmpty]
      · simp [shown, normalForm, hEmpty]
  | concurrency => exact (canonicalNumber_eq h).symm
  | requestTimeout => exact (canonicalNumber_eq h).symm
  | checks => cases h
  | namespaces => rw [← Option.some.inj h]; rfl
  | excludeNamespaces => rw [← Option.some.inj h]; rfl
  | cniConfDir => rw [← Option.some.inj h]; rfl
  | cniBinDir => rw [← Option.some.inj h]; rfl
  | dnsProbeHost => rw [← Option.some.inj h]; rfl

end Key

theorem setting_eq (c : Config) (key : Key) : c.setting key = key.shown (c.content key) := by
  cases key <;> rfl

/-- A setting is looked up by the name of its key. -/
theorem lookup_name (c : Config) (key : Key) : c.lookup key.name = .ok (c.setting key) := by
  rw [lookup, Key.ofName?_eq_some_iff.mpr rfl]

theorem ok_put_eq_iff {c d : Config} (key : Key) {x : key.Content} :
    (.ok (c.put key x) : Except ConfigError Config) = .ok d ↔
      ∃ y, some x = some y ∧ d = c.put key y := by
  constructor
  · intro h
    exact ⟨x, rfl, (Except.ok.inj h).symm⟩
  · rintro ⟨y, hSame, rfl⟩
    rw [Option.some.inj hSame]

theorem readNumber_map_eq_ok_iff {key : Key} {value : String} {f : Nat → Config} {d : Config} :
    (readNumber key value).map f = .ok d ↔
      ∃ n, (Text.readUnsigned Text.maxWord value).toOption = some n ∧ d = f n := by
  rw [readNumber]
  cases Text.readUnsigned Text.maxWord value with
  | ok n =>
      constructor
      · intro h
        exact ⟨n, rfl, (Except.ok.inj h).symm⟩
      · rintro ⟨m, hSame, rfl⟩
        rw [← Option.some.inj hSame]
        rfl
  | error e =>
      constructor
      · intro h
        cases h
      · rintro ⟨m, hNone, -⟩
        cases hNone

/-- To set a key to a text is to put there what the text reads as for that key. Texts that are no
value for it are errors. -/
theorem withSetting_eq_ok_iff {env : Environment} {c d : Config} {value : String} {key : Key} :
    c.withSetting env value key = .ok d ↔ ∃ x, key.read? value = some x ∧ d = c.put key x := by
  cases key with
  | concurrency => exact readNumber_map_eq_ok_iff
  | requestTimeout => exact readNumber_map_eq_ok_iff
  | checks =>
      constructor
      · intro h
        cases h
      · rintro ⟨x, hNone, -⟩
        cases hNone
  | context => exact ok_put_eq_iff .context
  | namespaces => exact ok_put_eq_iff .namespaces
  | excludeNamespaces => exact ok_put_eq_iff .excludeNamespaces
  | cniConfDir => exact ok_put_eq_iff .cniConfDir
  | cniBinDir => exact ok_put_eq_iff .cniBinDir
  | dnsProbeHost => exact ok_put_eq_iff .dnsProbeHost

/-- A text can be assigned to a key that names a setting which takes it, and then nothing but that
setting changes. -/
theorem assign_eq_ok_iff {env : Environment} {c d : Config} {name value : String} :
    c.assign env name value = .ok d ↔ ∃ key : Key, key.name = name ∧
      key.read? value = some (d.content key) ∧
      ∀ other ≠ key, d.content other = c.content other := by
  rw [assign]
  constructor
  · intro h
    cases hKey : Key.ofName? name with
    | none =>
        rw [hKey] at h
        cases h
    | some key =>
        rw [hKey] at h
        obtain ⟨x, hRead, hPut⟩ := withSetting_eq_ok_iff.mp h
        obtain ⟨rfl, hOthers⟩ := eq_put_iff.mp hPut
        exact ⟨key, Key.ofName?_eq_some_iff.mp hKey, hRead, hOthers⟩
  · rintro ⟨key, hName, hRead, hOthers⟩
    rw [Key.ofName?_eq_some_iff.mpr hName]
    exact withSetting_eq_ok_iff.mpr ⟨_, hRead, eq_put_iff.mpr ⟨rfl, hOthers⟩⟩

end KubeInventory.Config
