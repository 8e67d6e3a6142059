import KubeInventory.Command.Settings
import KubeInventory.Proofs.FileTree
import KubeInventory.Proofs.Layering

/-! The commands on settings and the files that they leave. Setting a key replaces that setting in
the root file, or fails and changes no file; what is set stays until it is set again. -/

namespace KubeInventory

variable {env : Environment} {t t' : FileTree}

namespace Config

/-- Making the folder of a file adds folders at most, and if it fails, the path leads nowhere. -/
theorem grown_ensureFolderOf (t : FileTree) (path : String) :
    FileTree.Grown t ((ensureFolderOf path).outcome t).2 ∧
      ∀ e, ((ensureFolderOf path).outcome t).1 = .error e →
        ∀ place, ((ensureFolderOf path).outcome t).2.resolve (.ofText path) ≠ .ok place := by
  simp only [ensureFolderOf, FileM.outcome_bind, FileM.outcome_get]
  cases (t.locate (Path.ofText path).parent).isOk with
  | true => exact ⟨.refl t, nofun⟩
  | false =>
      simp only [Bool.false_eq_true, if_false, FileM.outcome_withError]
      obtain ⟨hAlong, hNowhere⟩ := FileTree.along_ensureFolders_parent t path
      refine ⟨hAlong.grown, fun e hError => ?_⟩
      cases hResult : ((FileTree.ensureFolders (Path.ofText path).parent).outcome t).1 with
      | ok _ =>
          rw [hResult] at hError
          cases hError
      | error cause => exact hNowhere cause hResult

/-- Writing a settings file puts it where its path leads once its folder is there. If this fails,
the tree has more folders at most, but no file can be written to the path, which leads nowhere or to
a folder. -/
theorem outcome_writeFile_cases (t : FileTree) (path text : String) :
    (∃ t' place, FileTree.Grown t t' ∧ t'.writablePlace (.ofText path) = .ok place ∧
      (writeFile path text).outcome t = (.ok (), t'.put place (.file text.toUTF8))) ∨
    ∃ e t', (writeFile path text).outcome t = (.error e, t') ∧ FileTree.Grown t t' ∧
      (∀ place, t'.writablePlace (.ofText path) ≠ .ok place) ∧
      (t'.isThere path = true → t'.isFolderAt (.ofText path) = true) := by
  obtain ⟨hGrown, hNowhere⟩ := grown_ensureFolderOf t path
  simp only [writeFile, FileM.outcome_bind, FileM.outcome_withError, FileTree.outcome_writeText]
  rcases hFolder : (ensureFolderOf path).outcome t with ⟨result, t'⟩
  rw [hFolder] at hGrown hNowhere
  cases result with
  | error e =>
      refine .inr ⟨e, t', rfl, hGrown, fun place hPlace => ?_, fun hThere => ?_⟩
      · exact hNowhere e rfl place (FileTree.writablePlace_eq_ok_iff.mp hPlace).1
      · obtain ⟨⟨place, entry⟩, hFound⟩ := FileTree.isThere_iff.mp hThere
        exact absurd (FileTree.locate_eq_ok_iff.mp hFound).1 (hNowhere e rfl place)
  | ok _ =>
      dsimp only
      cases hPlace : t'.writablePlace (.ofText path) with
      | ok place => exact .inl ⟨t', place, hGrown, hPlace, rfl⟩
      | error e =>
          refine .inr ⟨_, t', rfl, hGrown, fun place hOther => ?_, fun hThere => ?_⟩
          · cases hPlace.symm.trans hOther
          · obtain ⟨found, hFound⟩ := FileTree.isThere_iff.mp hThere
            exact FileTree.isFolderAt_of_writablePlace_error hPlace hFound

theorem isThere_of_isFolderAt {path : String} (h : t.isFolderAt (.ofText path) = true) :
    t.isThere path = true := by
  obtain ⟨place, hResolve, hEntry⟩ := FileTree.isFolderAt_iff.mp h
  exact FileTree.isThere_iff.mpr
    ⟨_, FileTree.locate_eq_ok_iff.mpr ⟨hResolve, hEntry, .inl rfl⟩⟩

theorem loadRoot_of_readText {text : String} {c : Config}
    (hText : t.readText env.rootConfigPath = .ok text) (hRead : read? text = some c) :
    loadRoot env t = .ok c := by
  rw [loadRoot, if_pos (isThere_of_readText hText)]
  exact loadFile_eq_ok_iff.mpr ⟨text, hText, hRead⟩

/-- A folder in the place of the root file keeps settings from being loaded. -/
theorem loadRoot_ne_ok_of_isFolderAt (h : t.isFolderAt (.ofText env.rootConfigPath) = true)
    (c : Config) : loadRoot env t ≠ .ok c := by
  rw [loadRoot, if_pos (isThere_of_isFolderAt h)]
  intro hLoad
  obtain ⟨text, hText, -⟩ := loadFile_eq_ok_iff.mp hLoad
  obtain ⟨place, hResolve, hEntry⟩ := FileTree.isFolderAt_iff.mp h
  have hFound := FileTree.locate_eq_ok_iff.mpr ⟨hResolve, hEntry, .inl rfl⟩
  simp [FileTree.readText, hFound, bind, Except.bind] at hText

/-- More folders leave the settings of the root file as they are, unless one takes its place. -/
theorem loadRoot_of_grown (h : FileTree.Grown t t')
    (hFolder : t'.isThere env.rootConfigPath = true →
      t'.isFolderAt (.ofText env.rootConfigPath) = true) {c : Config}
    (hLoad : loadRoot env t = .ok c) :
    loadRoot env t' = .ok c ∨ t'.isFolderAt (.ofText env.rootConfigPath) = true := by
  cases hThere : t.isThere env.rootConfigPath with
  | true =>
      rw [loadRoot, if_pos hThere, loadFile_eq_ok_iff] at hLoad
      obtain ⟨text, hText, hRead⟩ := hLoad
      exact .inl (loadRoot_of_readText ((h.readText_eq hThere).trans hText) hRead)
  | false =>
      cases hAfter : t'.isThere env.rootConfigPath with
      | true => exact .inr (hFolder hAfter)
      | false =>
          left
          simpa only [loadRoot, hThere, hAfter, Bool.false_eq_true, if_false] using hLoad

/-- Without a named file and without variables the settings of the root file count. -/
theorem load_eq_loadRoot (hEnv : env.OverridesNothing) : load env t none = loadRoot env t := by
  rw [load, loadRoot]
  cases t.isThere env.rootConfigPath with
  | false => simp [bind, Except.bind, pure, Except.pure, override_of_overridesNothing hEnv]
  | true =>
      cases loadFile t env.rootConfigPath <;>
        simp [Except.map, bind, Except.bind, pure, Except.pure, overlay_default,
          override_of_overridesNothing hEnv]

end Config

namespace ConfigCommand

open Config (loadRoot Key settingsIn overridesNothing_settingsIn)

/-- Settings with just the one under the key replaced, by what the text stands for. -/
def ReplacedBy (name value : String) (old new : Config) : Prop :=
  ∃ key : Key, key.name = name ∧ key.read? value = some (new.content key) ∧
    ∀ other ≠ key, new.content other = old.content other

theorem changed_eq_ok_iff {name value : String} {new : Config} :
    changed env t name value = .ok new ↔
      ∃ old, loadRoot env t = .ok old ∧ ReplacedBy name value old new ∧ new.validate = .ok () := by
  have hAssigned (old : Config) :
      ReplacedBy name value old new ↔ old.assign env name value = .ok new :=
    Config.assign_eq_ok_iff.symm
  simp only [changed, hAssigned]
  cases loadRoot env t with
  | error e => simp [bind, Except.bind]
  | ok old =>
      cases hAssign : old.assign env name value with
      | error e => simp [bind, Except.bind, hAssign, Except.mapError]
      | ok c =>
          cases hValid : c.validate with
          | error e =>
              simp only [bind, Except.bind, hAssign, Except.mapError, hValid, Except.ok.injEq,
                exists_eq_left', reduceCtorEq, false_iff, not_and]
              rintro rfl hOk
              rw [hValid] at hOk
              cases hOk
          | ok _ =>
              simp only [bind, Except.bind, hAssign, Except.mapError, hValid, pure, Except.pure,
                Except.ok.injEq, exists_eq_left']
              constructor
              · rintro rfl
                exact ⟨rfl, hValid⟩
              · exact And.left

theorem outcome_set (env : Environment) (named : Option String) (name value : String)
    (t : FileTree) :
    ((set name value).run env named).outcome t =
      match changed env t name value with
      | .error e => (.error e, t)
      | .ok c =>
        match (Config.writeFile env.rootConfigPath c.text).outcome t with
        | (.ok _, t') => (.ok "Configuration saved\n", t')
        | (.error e, t') => (.error (.during .saving e), t') := by
  simp only [run, FileM.outcome_bind, FileM.outcome_getThe, FileM.outcome_lift,
    FileM.outcome_withError, FileM.outcome_pure, Config.save]
  cases changed env t name value with
  | error e => rfl
  | ok c =>
      dsimp only
      rcases (Config.writeFile env.rootConfigPath c.text).outcome t with ⟨result, t'⟩
      cases result <;> rfl

/-- What a `set` that succeeds leaves: the settings that the root path led to, with just the one
under the key replaced, in the one file that is new or changed. -/
structure Replaces (env : Environment) (t : FileTree) (name value : String) (old new : Config)
    (place : Place) (t' : FileTree) : Prop where
  loaded : loadRoot env t = .ok old
  replaced : ReplacedBy name value old new
  valid : new.validate = .ok ()
  written : t'.locate (.ofText env.rootConfigPath) = .ok (place, .file new.text.toUTF8)
  others : ∀ other ≠ place, ∀ bytes,
    t'.entry? other = some (.file bytes) ↔ t.entry? other = some (.file bytes)
  decoded : Yaml.ReadsBack new.document → loadRoot env t' = .ok new

/-- What a `set` that fails leaves: each file as it was, and the settings of the root file unless a
folder has come to stand in its place. A change that can be run fails only if no file can be written
to the root path. -/
structure Refuses (env : Environment) (t : FileTree) (name value : String) (t' : FileTree) :
    Prop where
  files : ∀ place bytes,
    t'.entry? place = some (.file bytes) ↔ t.entry? place = some (.file bytes)
  kept : ∀ {c}, loadRoot env t = .ok c →
    loadRoot env t' = .ok c ∨ t'.isFolderAt (.ofText env.rootConfigPath) = true
  unwritable : ∀ {old new}, loadRoot env t = .ok old → ReplacedBy name value old new →
    new.validate = .ok () → ∀ place, t'.writablePlace (.ofText env.rootConfigPath) ≠ .ok place

theorem outcome_set_cases (env : Environment) (named : Option String) (name value : String)
    (t : FileTree) :
    (∃ old new place t', ((set name value).run env named).outcome t =
      (.ok "Configuration saved\n", t') ∧ Replaces env t name value old new place t') ∨
    ∃ e t', ((set name value).run env named).outcome t = (.error e, t') ∧
      Refuses env t name value t' := by
  rw [outcome_set]
  cases hChanged : changed env t name value with
  | error e =>
      -- Nothing has been written.
      refine .inr ⟨e, t, rfl, fun _ _ => .rfl, .inl, fun hLoad hReplaced hValid => ?_⟩
      rw [changed_eq_ok_iff.mpr ⟨_, hLoad, hReplaced, hValid⟩] at hChanged
      cases hChanged
  | ok new =>
      obtain ⟨old, hLoad, hReplaced, hValid⟩ := changed_eq_ok_iff.mp hChanged
      dsimp only
      rcases Config.outcome_writeFile_cases t env.rootConfigPath new.text with
        ⟨grown, place, hGrown, hPlace, hRun⟩ | ⟨e, t', hRun, hGrown, hUnwritable, hFolder⟩
      · have hFound : (grown.put place (.file new.text.toUTF8)).locate
            (.ofText env.rootConfigPath) = .ok (place, .file new.text.toUTF8) :=
          FileTree.locate_put_file hPlace
        rw [hRun]
        refine .inl ⟨old, new, place, _, rfl, hLoad, hReplaced, hValid, hFound,
          fun other hOther bytes => ?_, fun hReads => ?_⟩
        · have hSome := FileTree.ne_nil_of_entry? (FileTree.writablePlace_eq_ok_iff.mp hPlace).2.2
          rw [FileTree.entry?_put hSome, if_neg hOther]
          exact hGrown.file_iff
        · exact Config.loadRoot_of_readText (FileTree.readText_of_locate hFound)
            (Config.read?_text hReads)
      · rw [hRun]
        exact .inr ⟨_, t', rfl, fun _ _ => hGrown.file_iff,
          Config.loadRoot_of_grown hGrown hFolder, fun _ _ _ => hUnwritable⟩

/-- Commands that only look. -/
def Looks : ConfigCommand → Prop
  | set _ _ | init _ => False
  | get _ | list | path | validate => True

theorem tree_of_looks (env : Environment) (named : Option String) (t : FileTree)
    {command : ConfigCommand} (h : command.Looks) : ((command.run env named).outcome t).2 = t := by
  cases command with
  | get key =>
      cases key with
      | none =>
          simp only [run, FileM.outcome_bind, FileM.outcome_getThe, FileM.outcome_lift]
          cases loadShown env t named <;> rfl
      | some key =>
          simp only [run, FileM.outcome_bind, FileM.outcome_getThe, FileM.outcome_lift]
          cases loadShown env t named with
          | error e => rfl
          | ok c =>
              dsimp only
              cases c.lookup key <;> rfl
  | list =>
      simp only [run, FileM.outcome_bind, FileM.outcome_getThe, FileM.outcome_lift]
      cases loadShown env t named <;> rfl
  | path => rfl
  | validate =>
      simp only [run, FileM.outcome_bind, FileM.outcome_getThe, FileM.outcome_lift]
      cases loadRunnable env t named <;> rfl
  | set name value => exact h.elim
  | init force => exact h.elim

section Runs

/-- Setting a key without a named file: what it gives, and the tree that it leaves. -/
def setKey (env : Environment) (setting : String × String) (t : FileTree) :
    Except ConfigError String × FileTree :=
  ((set setting.1 setting.2).run env none).outcome t

/-- The tree after setting keys one after the other, whether that succeeds or not. -/
def afterSets (env : Environment) : List (String × String) → FileTree → FileTree
  | [], t => t
  | setting :: rest, t => afterSets env rest (setKey env setting t).2

/-- The last text that a key was set to with success. -/
def lastSet? (env : Environment) (key : Key) : List (String × String) → FileTree → Option String
  | [], _ => none
  | setting :: rest, t =>
    (lastSet? env key rest (setKey env setting t).2).or
      (if (setKey env setting t).1.isOk && setting.1 == key.name then some setting.2 else none)

/-- Whether each document that is written is read back. -/
def ReadsBackAlong (env : Environment) : List (String × String) → FileTree → Prop
  | [], _ => True
  | setting :: rest, t =>
    ((setKey env setting t).1.isOk = true →
      ∀ new, changed env t setting.1 setting.2 = .ok new → Yaml.ReadsBack new.document) ∧
    ReadsBackAlong env rest (setKey env setting t).2

/-- What `get` prints of a key. -/
def printed (env : Environment) (key : Key) (t : FileTree) : Except ConfigError String :=
  (((get (some key.name)).run env none).outcome t).1

/-- What `validate` prints. -/
def verdict (env : Environment) (t : FileTree) : Except ConfigError String :=
  ((validate.run env none).outcome t).1

theorem printed_eq (hEnv : env.OverridesNothing) {c : Config} (hLoad : loadRoot env t = .ok c)
    (key : Key) : printed env key t = .ok (c.setting key ++ "\n") := by
  simp only [printed, run, FileM.outcome_bind, FileM.outcome_getThe, FileM.outcome_lift, loadShown,
    Config.load_eq_loadRoot hEnv, hLoad, Except.mapError, Config.lookup_name, FileM.outcome_pure]

theorem verdict_eq (hEnv : env.OverridesNothing) {c : Config} (hLoad : loadRoot env t = .ok c)
    (hValid : c.validate = .ok ()) : verdict env t = .ok "Configuration is valid\n" := by
  have hRun : loadRunnable env t none = .ok c := by
    simp only [loadRunnable, Config.loadValidated, Config.load_eq_loadRoot hEnv, hLoad,
      Except.mapError, bind, Except.bind, hValid, pure, Except.pure]
  simp only [verdict, run, FileM.outcome_bind, FileM.outcome_getThe, FileM.outcome_lift, hRun,
    FileM.outcome_pure]

/-- What one `set` does to the settings of the root file. -/
theorem setKey_step {setting : String × String} {c : Config} (hLoad : loadRoot env t = .ok c)
    (hReads : (setKey env setting t).1.isOk = true →
      ∀ new, changed env t setting.1 setting.2 = .ok new → Yaml.ReadsBack new.document)
    (hFolder : (setKey env setting t).2.isFolderAt (.ofText env.rootConfigPath) = false) :
    ∃ c', loadRoot env (setKey env setting t).2 = .ok c' ∧
      (∀ key : Key, c'.setting key =
        if (setKey env setting t).1.isOk && setting.1 == key.name then key.normalForm setting.2
        else c.setting key) ∧
      if (setKey env setting t).1.isOk then c'.validate = .ok () else c' = c := by
  rcases outcome_set_cases env none setting.1 setting.2 t with
    ⟨old, new, place, t', hRun, hNew⟩ | ⟨e, t', hRun, hSame⟩
  · rw [setKey, hRun] at hReads hFolder ⊢
    obtain rfl : old = c := Except.ok.inj (hNew.loaded.symm.trans hLoad)
    obtain ⟨key, hName, hRead, hOthers⟩ := hNew.replaced
    have hChanged : changed env t setting.1 setting.2 = .ok new :=
      changed_eq_ok_iff.mpr ⟨old, hLoad, hNew.replaced, hNew.valid⟩
    refine ⟨new, hNew.decoded (hReads rfl new hChanged), fun other => ?_, hNew.valid⟩
    rw [Config.setting_eq, Config.setting_eq]
    by_cases hKey : other = key
    · subst hKey
      rw [Key.shown_of_read? hRead]
      simp [Except.isOk, Except.toBool, hName]
    · have hOther : setting.1 ≠ other.name := fun hSameName => hKey
        (Option.some.inj ((Key.ofName?_eq_some_iff.mpr hSameName.symm).symm.trans
          (Key.ofName?_eq_some_iff.mpr hName)))
      simp [hOther, hOthers other hKey]
  · rw [setKey, hRun] at hFolder ⊢
    refine ⟨c, (hSame.kept hLoad).resolve_right (Bool.eq_false_iff.mp hFolder), fun key => ?_, ?_⟩
    · simp [Except.isOk, Except.toBool]
    · simp [Except.isOk, Except.toBool]

/-- Once a folder stands in the place of the root file, nothing can be set. -/
theorem afterSets_of_isFolderAt (h : t.isFolderAt (.ofText env.rootConfigPath) = true)
    (sets : List (String × String)) : afterSets env sets t = t := by
  induction sets with
  | nil => rfl
  | cons setting rest ih =>
      have hKept : (setKey env setting t).2 = t := by
        rw [setKey, outcome_set]
        cases hChanged : changed env t setting.1 setting.2 with
        | error e => rfl
        | ok new =>
            obtain ⟨old, hLoad, -⟩ := changed_eq_ok_iff.mp hChanged
            exact absurd hLoad (Config.loadRoot_ne_ok_of_isFolderAt h old)
      rw [afterSets, hKept, ih]

/-- What a run of `set` commands does to the settings of the root file: each key has the text that
it was last set to, and what was never set is as before. -/
theorem loadRoot_afterSets {sets : List (String × String)} {c : Config}
    (hLoad : loadRoot env t = .ok c) (hReads : ReadsBackAlong env sets t)
    (hFolder : (afterSets env sets t).isFolderAt (.ofText env.rootConfigPath) = false) :
    ∃ c', loadRoot env (afterSets env sets t) = .ok c' ∧
      (∀ key : Key, c'.setting key =
        ((lastSet? env key sets t).map key.normalForm).getD (c.setting key)) ∧
      ((∃ key value, lastSet? env key sets t = some value) ∨ c.validate = .ok () →
        c'.validate = .ok ()) := by
  induction sets generalizing t c with
  | nil =>
      refine ⟨c, hLoad, fun _ => rfl, ?_⟩
      rintro (⟨key, value, hNone⟩ | hValid)
      · cases hNone
      · exact hValid
  | cons setting rest ih =>
      obtain ⟨hReadsNow, hReadsLater⟩ := hReads
      rw [afterSets] at hFolder ⊢
      -- The last tree decides for all before it: a folder at the root path stays there.
      have hFree : (setKey env setting t).2.isFolderAt (.ofText env.rootConfigPath) = false := by
        by_contra hStands
        rw [Bool.not_eq_false] at hStands
        rw [afterSets_of_isFolderAt hStands, hStands] at hFolder
        cases hFolder
      obtain ⟨now, hLoadNow, hSetNow, hValidNow⟩ := setKey_step hLoad hReadsNow hFree
      obtain ⟨later, hLoadLater, hSetLater, hValidLater⟩ := ih hLoadNow hReadsLater hFolder
      refine ⟨later, hLoadLater, fun key => ?_, fun hSome => hValidLater ?_⟩
      · rw [hSetLater, hSetNow, lastSet?]
        cases lastSet? env key rest (setKey env setting t).2 with
        | some value => rfl
        | none =>
            cases (setKey env setting t).1.isOk && setting.1 == key.name <;> rfl
      · cases hOk : (setKey env setting t).1.isOk with
        | true =>
            rw [hOk, if_pos rfl] at hValidNow
            exact .inr hValidNow
        | false =>
            rw [hOk] at hValidNow
            obtain rfl : now = c := hValidNow
            refine hSome.imp_left ?_
            rintro ⟨key, value, hLast⟩
            rw [lastSet?, hOk] at hLast
            exact ⟨key, value, by simpa using hLast⟩

/-- Setting a key is all or nothing, and what it leaves can be run. A run of `set` commands, failed
ones included, leaves each key at the text that it was last set to, or as it was, unless a folder
has come to stand in the place of the root file, as may happen if the path of that file goes up from
a folder that is made on the way. Commands that only look leave the tree as it is. -/
theorem set_is_atomic (env : Environment) :
    (∀ (named : Option String) (t : FileTree) (name value : String),
      (∃ old new place t', ((set name value).run env named).outcome t =
        (.ok "Configuration saved\n", t') ∧ Replaces env t name value old new place t') ∨
      ∃ e t', ((set name value).run env named).outcome t = (.error e, t') ∧
        Refuses env t name value t') ∧
    (env.OverridesNothing → ∀ (t : FileTree) (sets : List (String × String)) (c : Config),
      loadRoot env t = .ok c → ReadsBackAlong env sets t →
      (afterSets env sets t).isFolderAt (.ofText env.rootConfigPath) = false →
      (∀ key : Key, printed env key (afterSets env sets t) =
        match lastSet? env key sets t with
        | some value => .ok (key.normalForm value ++ "\n")
        | none => printed env key t) ∧
      ∀ (key : Key) (value : String), lastSet? env key sets t = some value →
        verdict env (afterSets env sets t) = .ok "Configuration is valid\n") ∧
    ∀ (named : Option String) (t : FileTree) (command : ConfigCommand), command.Looks →
      ((command.run env named).outcome t).2 = t := by
  refine ⟨fun named t name value => outcome_set_cases env named name value t,
    fun hEnv t sets c hLoad hReads hFolder => ?_,
    fun named t command h => tree_of_looks env named t h⟩
  obtain ⟨c', hAfter, hSettings, hValid⟩ := loadRoot_afterSets hLoad hReads hFolder
  refine ⟨fun key => ?_, fun key value hLast => ?_⟩
  · rw [printed_eq hEnv hAfter, hSettings, printed_eq hEnv hLoad]
    cases lastSet? env key sets t <;> rfl
  · exact verdict_eq hEnv hAfter (hValid (.inl ⟨key, value, hLast⟩))

def emptyTree : FileTree := ⟨∅, []⟩

/-- A key that there is not, and then one that there is. -/
def nopeThenContext : List (String × String) := [("nope", "1"), ("context", "prod")]

def prodConfig : Config := { Config.default with context := some "prod" }

def plainText (text : String) : Yaml.Node := .scalar none .plain text

def plainDocument (fields : List (String × Yaml.Node)) : Yaml.Node :=
  .mapping none (fields.map fun field => (plainText field.1, field.2))

theorem readsBack_prodConfig : Yaml.ReadsBack prodConfig.document := by
  have hText : Yaml.write prodConfig.document = "context: prod\ncollector:\n  concurrency: 8\n" ++
      "  requestTimeoutSeconds: 30\ncluster:\n  cniConfDir: /etc/cni/net.d\n" ++
      "  cniBinDir: /opt/cni/bin\n  dnsProbeHost: google.com\n" := by
    decide +kernel
  have hDocument : Yaml.Node.ofValue false prodConfig.document =
      plainDocument [("context", plainText "prod"),
        ("collector", plainDocument [("concurrency", plainText "8"),
          ("requestTimeoutSeconds", plainText "30")]),
        ("cluster", plainDocument [("cniConfDir", plainText "/etc/cni/net.d"),
          ("cniBinDir", plainText "/opt/cni/bin"), ("dnsProbeHost", plainText "google.com")])] :=
    rfl
  rw [Yaml.ReadsBack, hText, hDocument]
  exact ⟨by cbv, rfl⟩

theorem set_is_atomic_nopeThenContext :
    printed (settingsIn "conf") .context (afterSets (settingsIn "conf") nopeThenContext emptyTree) =
        .ok "prod\n" ∧
      verdict (settingsIn "conf") (afterSets (settingsIn "conf") nopeThenContext emptyTree) =
        .ok "Configuration is valid\n" ∧
      ((validate.run (settingsIn "conf") none).outcome emptyTree).2 = emptyTree := by
  have hLoad : loadRoot (settingsIn "conf") emptyTree = .ok .default := by
    rw [loadRoot, if_neg (by decide +kernel)]
  have hFails : setKey (settingsIn "conf") ("nope", "1") emptyTree =
      (.error (.during (.setting "nope" "1") (.unknownKey "nope")), emptyTree) := rfl
  have hChanged : changed (settingsIn "conf") emptyTree "context" "prod" = .ok prodConfig := by
    rw [changed, hLoad]
    rfl
  have hReads : ReadsBackAlong (settingsIn "conf") nopeThenContext emptyTree := by
    refine ⟨fun hOk => ?_, fun _ new hNew => ?_, trivial⟩
    · rw [hFails] at hOk
      cases hOk
    · rw [hFails, hChanged] at hNew
      obtain rfl := Except.ok.inj hNew
      exact readsBack_prodConfig
  have hLast : lastSet? (settingsIn "conf") .context nopeThenContext emptyTree = some "prod" := by
    decide +kernel
  obtain ⟨-, hRuns, hLooks⟩ := set_is_atomic (settingsIn "conf")
  obtain ⟨hPrinted, hVerdict⟩ := hRuns (overridesNothing_settingsIn "conf") emptyTree
    nopeThenContext .default hLoad hReads (by decide +kernel)
  refine ⟨?_, hVerdict .context "prod" hLast, hLooks none emptyTree validate trivial⟩
  rw [hPrinted, hLast]
  rfl

/-- A tree with settings in a folder that a path may also reach by stepping up. -/
def prodTree : FileTree := emptyTree.putFile "y/config.yaml" "context: prod\n".toUTF8

theorem read?_context : Config.read? "context: prod\n" = some prodConfig := by
  have hDocument : Yaml.Node.read "context: prod\n" =
      some (plainDocument [("context", plainText "prod")]) := by
    cbv
  rw [Config.read?, hDocument]
  rfl

def overwrittenText : String :=
  "collector:\n  concurrency: 4\n  requestTimeoutSeconds: 30\ncluster:\n" ++
    "  cniConfDir: /etc/cni/net.d\n  cniBinDir: /opt/cni/bin\n  dnsProbeHost: google.com\n"

theorem read?_overwrittenText : Config.read? overwrittenText =
    some { Config.default with
      collector := { Config.Collector.default with concurrency := 4 } } := by
  have hDocument : Yaml.Node.read overwrittenText =
      some (plainDocument [("collector", plainDocument [("concurrency", plainText "4"),
          ("requestTimeoutSeconds", plainText "30")]),
        ("cluster", plainDocument [("cniConfDir", plainText "/etc/cni/net.d"),
          ("cniBinDir", plainText "/opt/cni/bin"),
          ("dnsProbeHost", plainText "google.com")])]) := by
    cbv
  rw [Config.read?, hDocument]
  rfl

/-- A path that goes up again from a folder that is only made on the way may lead to settings that
`set` has not read, which it then replaces as a whole, or to a folder that keeps settings from being
read from then on. -/
theorem not_set_is_atomic_of_stepping_up :
    (¬∀ (env : Environment) (t : FileTree) (name value text : String) (place : Place)
        (bytes : ByteArray) (old new : Config),
      (setKey env (name, value) t).1.isOk = true →
      (setKey env (name, value) t).2.locate (.ofText env.rootConfigPath) =
        .ok (place, .file bytes) →
      t.entry? place = some (.file text.toUTF8) → Config.read? text = some old →
      loadRoot env (setKey env (name, value) t).2 = .ok new →
      ∀ key : Key, key.name ≠ name → new.content key = old.content key) ∧
    ¬∀ (env : Environment), env.OverridesNothing →
        ∀ (t : FileTree) (sets : List (String × String)) (c : Config),
      loadRoot env t = .ok c → ReadsBackAlong env sets t → ∀ key : Key,
      lastSet? env key sets t = none →
        printed env key (afterSets env sets t) = printed env key t := by
  constructor
  · intro h
    have hAfter : (setKey (settingsIn "x/../y") ("collector.concurrency", "4") prodTree).2.readText
        (settingsIn "x/../y").rootConfigPath = .ok overwrittenText := by
      decide +kernel
    have hContext := h (settingsIn "x/../y") prodTree "collector.concurrency" "4" "context: prod\n"
      ["y", "config.yaml"] overwrittenText.toUTF8 prodConfig _ (by decide +kernel)
      (by decide +kernel) (by decide +kernel) read?_context
      (Config.loadRoot_of_readText hAfter read?_overwrittenText) .context (by decide)
    exact absurd (show (none : Option String) = some "prod" from hContext) nofun
  · intro h
    have hLoad : loadRoot (settingsIn "d/config.yaml/..") emptyTree = .ok .default := by
      rw [loadRoot, if_neg (by decide +kernel)]
    have hFails : (setKey (settingsIn "d/config.yaml/..") ("context", "prod") emptyTree).1.isOk =
        false := by
      decide +kernel
    have hSame := h (settingsIn "d/config.yaml/..") (overridesNothing_settingsIn _) emptyTree
      [("context", "prod")] .default hLoad
      ⟨fun hOk => absurd (hOk.symm.trans hFails) nofun, trivial⟩ .context (by decide +kernel)
    rw [printed_eq (overridesNothing_settingsIn _) hLoad] at hSame
    exact absurd (congrArg Except.isOk hSame) (by decide +kernel)

end Runs

end ConfigCommand

end KubeInventory
