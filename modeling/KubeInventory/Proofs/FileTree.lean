import KubeInventory.File.Tree
import KubeInventory.Proofs.Dict

/-! File operations and the trees that they leave. Making folders adds folders on the way of the
path where nothing was and touches nothing else, whether it succeeds or not; writing a text changes
one file, or nothing if it fails. -/

namespace KubeInventory

namespace FileM

variable {ε ε' α β : Type}

/-- What a computation over a tree gives, and the tree that it leaves. -/
def outcome (m : FileM ε α) (t : FileTree) : Except ε α × FileTree := m.run.run t

variable (t : FileTree)

@[simp] theorem outcome_pure (x : α) : (pure x : FileM ε α).outcome t = (.ok x, t) := rfl

@[simp] theorem outcome_get : (get : FileM ε FileTree).outcome t = (.ok t, t) := rfl

@[simp] theorem outcome_getThe : (getThe FileTree : FileM ε FileTree).outcome t = (.ok t, t) := rfl

@[simp] theorem outcome_modify (f : FileTree → FileTree) :
    (modify f : FileM ε Unit).outcome t = (.ok (), f t) := rfl

@[simp] theorem outcome_lift (x : Except ε α) : (liftM x : FileM ε α).outcome t = (x, t) := rfl

/-- What comes first may change the tree even if it fails; what comes after starts from that tree.
-/
@[simp] theorem outcome_bind (m : FileM ε α) (f : α → FileM ε β) :
    (m >>= f).outcome t =
      match m.outcome t with
      | (.ok x, t') => (f x).outcome t'
      | (.error e, t') => (.error e, t') := by
  rcases h : m.outcome t with ⟨x, t'⟩
  rw [outcome] at h
  simp only [outcome, ExceptT.run_bind, StateT.run_bind, h]
  cases x <;> rfl

/-- What is done about an error starts from the tree that the error has left. -/
@[simp] theorem outcome_tryCatch (m : FileM ε α) (f : ε → FileM ε α) :
    (tryCatch m f).outcome t =
      match m.outcome t with
      | (.ok x, t') => (.ok x, t')
      | (.error e, t') => (f e).outcome t' := by
  rcases h : m.outcome t with ⟨x, t'⟩
  have hRun : (tryCatch m f).run = m.run >>= (fun
      | .ok x => pure (.ok x)
      | .error e => (f e).run) := rfl
  rw [outcome] at h
  simp only [outcome, hRun, StateT.run_bind, h]
  cases x <;> rfl

@[simp] theorem outcome_withError (f : ε → ε') (m : FileM ε α) :
    (m.withError f).outcome t = ((m.outcome t).1.mapError f, (m.outcome t).2) := by
  show (match (m.run.run t : Except ε α × FileTree) with | (x, t') => _) = _
  rw [outcome]
  generalize (m.run.run t) = r
  obtain ⟨x, t'⟩ := r
  cases x <;> rfl

end FileM

namespace FileTree

variable {t t' t'' : FileTree} {p : Path} {place : Place}

/-- A place shows what was put there last. The root is a folder and stays one. -/
theorem entry?_put {e : Entry} (h : place ≠ []) (other : Place) :
    entry? (t.put place e) other = if other = place then some e else t.entry? other := by
  rw [put]
  simp only [ entry?, Dict.get?_insert]
  by_cases hOther : other = place
  · simp [hOther, h]
  · simp [hOther]

/-- Where no folder is, the root is not. -/
theorem ne_nil_of_entry? (h : t.entry? place ≠ some .folder) : place ≠ [] := by
  rintro rfl
  exact h rfl

/-- What is put where no folder is takes no folder away. -/
theorem entry?_put_of_folder {e : Entry} (h : t.entry? place ≠ some .folder) {q : Place}
    (hEntry : t.entry? q = some .folder) : entry? (t.put place e) q = some .folder := by
  have hOther : q ≠ place := by
    rintro rfl
    exact h hEntry
  have hPlace := ne_nil_of_entry? h
  rw [entry?_put hPlace, if_neg hOther, hEntry]

/-- A tree with more folders. -/
structure Grown (t t' : FileTree) : Prop where
  base_eq : t'.base = t.base
  entry_eq : ∀ place, t'.entry? place = t.entry? place ∨
    t.entry? place = none ∧ t'.entry? place = some .folder

namespace Grown

theorem refl (t : FileTree) : Grown t t := ⟨rfl, fun _ => .inl rfl⟩

/-- What is there stays as it is. -/
theorem entry?_eq_some (h : Grown t t') {e : Entry} (hEntry : t.entry? place = some e) :
    t'.entry? place = some e := by
  rcases h.entry_eq place with hSame | ⟨hFree, -⟩
  · rw [hSame, hEntry]
  · rw [hEntry] at hFree
    cases hFree

/-- Growth adds folders only, so files are the same before and after. -/
theorem file_iff (h : Grown t t') {bytes : ByteArray} :
    t'.entry? place = some (.file bytes) ↔ t.entry? place = some (.file bytes) := by
  refine ⟨fun hFile => ?_, h.entry?_eq_some⟩
  rcases h.entry_eq place with hSame | ⟨-, hFolder⟩
  · rw [← hSame, hFile]
  · rw [hFile] at hFolder
    cases hFolder

end Grown

section Paths

/-- A walk can stop and go on from where it stands. -/
theorem walk_append (t : FileTree) (place : Place) (steps more : List Path.Step) :
    t.walk place (steps ++ more) =
      (t.walk place steps).bind fun reached => t.walk reached more := by
  induction steps generalizing place with
  | nil => rfl
  | cons step rest ih =>
      rw [List.cons_append, walk, walk]
      cases t.entry? place with
      | none => rfl
      | some e =>
          cases e with
          | file bytes => rfl
          | folder =>
              cases stepFrom place step with
              | error e => rfl
              | ok next => exact ih next

/-- A path leads to the same place as long as no folder is lost. -/
theorem walk_of_folders_kept (hKept : ∀ q, t.entry? q = some .folder → t'.entry? q = some .folder)
    {start : Place} {steps : List Path.Step} (h : t.walk start steps = .ok place) :
    t'.walk start steps = .ok place := by
  induction steps generalizing start with
  | nil => exact h
  | cons step rest ih =>
      rw [walk] at h ⊢
      cases hEntry : t.entry? start with
      | none => simp [hEntry] at h
      | some e =>
          cases e with
          | file bytes => simp [hEntry] at h
          | folder =>
              rw [hEntry] at h
              rw [hKept start hEntry]
              cases hStep : stepFrom start step with
              | error e =>
                  rw [hStep] at h
                  cases h
              | ok next =>
                  rw [hStep] at h
                  exact ih h

/-- A path leads somewhere if its text is one and each of its steps can be gone. -/
theorem resolve_eq_ok_iff : t.resolve p = .ok place ↔
    p.hasNul = false ∧ p.isEmpty = false ∧
      t.walk (if p.absolute then [] else t.base) p.steps = .ok place := by
  rw [resolve]
  cases p.hasNul <;> cases p.isEmpty <;> simp

theorem resolve_of_folders_kept (hBase : t'.base = t.base)
    (hKept : ∀ q, t.entry? q = some .folder → t'.entry? q = some .folder)
    (h : t.resolve p = .ok place) : t'.resolve p = .ok place := by
  rw [resolve_eq_ok_iff] at h ⊢
  rw [hBase]
  exact ⟨h.1, h.2.1, walk_of_folders_kept hKept h.2.2⟩

/-- A place that the path leads to with all its steps, or with only the first of them. -/
def Passes (t : FileTree) (p : Path) (place : Place) : Prop :=
  ∃ steps, steps <+: p.steps ∧ t.resolve ⟨p.absolute, steps, .plain⟩ = .ok place

theorem Passes.of_folders_kept (hBase : t'.base = t.base)
    (hKept : ∀ q, t.entry? q = some .folder → t'.entry? q = some .folder)
    (h : t.Passes p place) : t'.Passes p place := by
  obtain ⟨steps, hSteps, hResolve⟩ := h
  exact ⟨steps, hSteps, resolve_of_folders_kept hBase hKept hResolve⟩

/-- Something is found where the path leads; a path that ends like that of a folder finds folders
only. -/
theorem locate_eq_ok_iff {e : Entry} : t.locate p = .ok (place, e) ↔
    t.resolve p = .ok place ∧ t.entry? place = some e ∧ (e = .folder ∨ p.ending = .plain) := by
  rw [locate]
  cases hResolve : t.resolve p with
  | error e => simp [bind, Except.bind]
  | ok reached =>
      simp only [bind, Except.bind, Except.ok.injEq]
      constructor
      · intro h
        split at h
        · cases h
        · split at h
          · rename_i hEntry hPlain
            obtain ⟨rfl, rfl⟩ := Prod.mk.inj (Except.ok.inj h)
            exact ⟨rfl, hEntry, .inr (eq_of_beq hPlain)⟩
          · cases h
        · rename_i hEntry
          obtain ⟨rfl, rfl⟩ := Prod.mk.inj (Except.ok.inj h)
          exact ⟨rfl, hEntry, .inl rfl⟩
      · rintro ⟨rfl, hEntry, hKind⟩
        rw [hEntry]
        cases e with
        | folder => rfl
        | file bytes =>
            have hPlain := hKind.resolve_left Entry.noConfusion
            simp [hPlain]

theorem isFolderAt_iff : t.isFolderAt p = true ↔
    ∃ place, t.resolve p = .ok place ∧ t.entry? place = some .folder := by
  rw [isFolderAt]
  constructor
  · intro h
    split at h
    · rename_i place hFound
      obtain ⟨hResolve, hEntry, -⟩ := locate_eq_ok_iff.mp hFound
      exact ⟨place, hResolve, hEntry⟩
    · cases h
  · rintro ⟨place, hResolve, hEntry⟩
    rw [locate_eq_ok_iff.mpr ⟨hResolve, hEntry, .inl rfl⟩]

/-- What was found is found in the grown tree too. -/
theorem Grown.locate_eq_ok (h : Grown t t') {found : Place × Entry}
    (hFound : t.locate p = .ok found) :
    t'.locate p = .ok found := by
  obtain ⟨place, e⟩ := found
  obtain ⟨hResolve, hEntry, hKind⟩ := locate_eq_ok_iff.mp hFound
  exact locate_eq_ok_iff.mpr
    ⟨resolve_of_folders_kept h.base_eq (fun _ => h.entry?_eq_some) hResolve,
      h.entry?_eq_some hEntry, hKind⟩

/-- A folder on the way of a path that was not there before. -/
structure NewFolder (p : Path) (t t' : FileTree) (place : Place) : Prop where
  free : t.entry? place = none
  folder : t'.entry? place = some .folder
  passed : t'.Passes p place

/-- A tree with more folders, all on the way of a path. -/
structure GrownAlong (p : Path) (t t' : FileTree) : Prop where
  base_eq : t'.base = t.base
  entry_eq : ∀ place, t'.entry? place = t.entry? place ∨ NewFolder p t t' place

namespace GrownAlong

theorem grown (h : GrownAlong p t t') : Grown t t' where
  base_eq := h.base_eq
  entry_eq place := (h.entry_eq place).imp_right fun hNew => ⟨hNew.free, hNew.folder⟩

theorem refl (p : Path) (t : FileTree) : GrownAlong p t t := ⟨rfl, fun _ => .inl rfl⟩

theorem trans (h : GrownAlong p t t') (h' : GrownAlong p t' t'') : GrownAlong p t t'' where
  base_eq := h'.base_eq.trans h.base_eq
  entry_eq := by
    intro place
    rcases h'.entry_eq place with hKept | hNew
    · refine (h.entry_eq place).imp (hKept.trans ·) fun hNew => ⟨hNew.free, ?_, ?_⟩
      · rw [hKept, hNew.folder]
      · exact hNew.passed.of_folders_kept h'.base_eq fun _ => h'.grown.entry?_eq_some
    · rcases h.entry_eq place with hSame | hOld
      · exact .inr ⟨hSame ▸ hNew.free, hNew.folder, hNew.passed⟩
      · cases hNew.free.symm.trans hOld.folder

/-- What is on the way of a path is on the way of any that goes on from it. -/
theorem of_prefix {p' : Path} (h : GrownAlong p t t') (hAbsolute : p.absolute = p'.absolute)
    (hSteps : p.steps <+: p'.steps) : GrownAlong p' t t' where
  base_eq := h.base_eq
  entry_eq place := (h.entry_eq place).imp_right fun hNew => by
    obtain ⟨steps, hBefore, hResolve⟩ := hNew.passed
    exact ⟨hNew.free, hNew.folder, steps, hBefore.trans hSteps, hAbsolute ▸ hResolve⟩

end GrownAlong

/-- The last step of a path that leads somewhere starts from a folder. -/
theorem isFolderAt_of_resolve_append {absolute : Bool} {steps : List Path.Step} {step : Path.Step}
    {ending : Path.Ending} (hSome : steps ≠ [])
    (h : t.resolve ⟨absolute, steps ++ [step], ending⟩ = .ok place) :
    t.isFolderAt ⟨absolute, steps, .plain⟩ = true := by
  obtain ⟨hNul, -, hWalk⟩ := resolve_eq_ok_iff.mp h
  rw [walk_append] at hWalk
  cases hPrior : t.walk (if absolute then [] else t.base) steps with
  | error e =>
      rw [hPrior] at hWalk
      cases hWalk
  | ok reached =>
      rw [hPrior] at hWalk
      refine isFolderAt_iff.mpr ⟨reached, resolve_eq_ok_iff.mpr ⟨?_, ?_, hPrior⟩, ?_⟩
      · simp only [Path.hasNul, List.any_append, Bool.or_eq_false_iff] at hNul ⊢
        exact hNul.1
      · simp [Path.isEmpty, hSome]
      · cases hEntry : t.entry? reached with
        | none => simp [Except.bind, walk, hEntry] at hWalk
        | some e =>
            cases e with
            | folder => rfl
            | file bytes => simp [Except.bind, walk, hEntry] at hWalk

end Paths

section Folders

/-- One folder is made at a free place, or else the tree stays. -/
theorem outcome_makeFolder (t : FileTree) (p : Path) :
    (makeFolder p).outcome t =
      match t.freePlace p with
      | .ok place => (.ok (), t.put place .folder)
      | .error e => (.error e, t) := by
  simp only [makeFolder, FileM.outcome_bind, FileM.outcome_get, FileM.outcome_lift,
    FileM.outcome_modify]
  cases t.freePlace p <;> rfl

theorem outcome_orFolder (t : FileTree) (p : Path) (e : FileError) :
    (orFolder p e).outcome t = (if t.isFolderAt p then .ok () else .error e, t) := by
  simp only [orFolder, FileM.outcome_bind, FileM.outcome_get]
  cases t.isFolderAt p <;> rfl

/-- A place is free if the way to it is there and nothing stands at its end. -/
theorem freePlace_eq_ok_iff :
    t.freePlace p = .ok place ↔ t.resolve p = .ok place ∧ t.entry? place = none := by
  rw [freePlace]
  cases t.resolve p with
  | error e => simp [bind, Except.bind]
  | ok reached =>
      simp only [bind, Except.bind, Except.ok.injEq]
      constructor
      · intro h
        split at h
        · cases h
        · rename_i hFree
          obtain rfl := Except.ok.inj h
          exact ⟨rfl, hFree⟩
      · rintro ⟨rfl, hFree⟩
        rw [hFree]

/-- The folder at the end of a path that leads to where nothing is. -/
theorem GrownAlong.put_folder {absolute : Bool} {steps : List Path.Step}
    (h : t.freePlace ⟨absolute, steps, .plain⟩ = .ok place) :
    GrownAlong ⟨absolute, steps, .plain⟩ t (t.put place .folder) := by
  obtain ⟨hResolve, hFree⟩ := freePlace_eq_ok_iff.mp h
  have hNone : t.entry? place ≠ some .folder := by simp [hFree]
  have hPlace := ne_nil_of_entry? hNone
  refine ⟨rfl, fun other => ?_⟩
  rw [entry?_put hPlace]
  by_cases hOther : other = place
  · subst hOther
    refine .inr ⟨hFree, ?_, steps, List.prefix_rfl, ?_⟩
    · rw [entry?_put hPlace, if_pos rfl]
    · exact resolve_of_folders_kept (t := t) rfl (fun _ => entry?_put_of_folder hNone) hResolve
  · exact .inl (if_neg hOther)

/-- What making a folder leaves: more folders on the way of the path at most, and if it fails, none
at its end. -/
structure Made (t : FileTree) (p : Path) (outcome : Except FileError Unit × FileTree) : Prop where
  along : GrownAlong p t outcome.2
  not_folder_of_error : ∀ e, outcome.1 = .error e → outcome.2.isFolderAt p = false

/-- A folder that is there already is as good as one that was made. -/
theorem made_orFolder (h : GrownAlong p t t') (e : FileError) :
    Made t p ((orFolder p e).outcome t') := by
  rw [outcome_orFolder]
  refine ⟨h, fun e hError => ?_⟩
  cases hFolder : t'.isFolderAt p with
  | false => rfl
  | true =>
      rw [hFolder] at hError
      cases hError

theorem made_put_folder {absolute : Bool} {steps : List Path.Step}
    (h : GrownAlong ⟨absolute, steps, .plain⟩ t t')
    (hFree : t'.freePlace ⟨absolute, steps, .plain⟩ = .ok place) :
    Made t ⟨absolute, steps, .plain⟩ (.ok (), t'.put place .folder) :=
  ⟨h.trans (.put_folder hFree), nofun⟩

/-- A folder cannot be at a path if there is none at the path above it. -/
theorem not_isFolderAt_of_above {absolute : Bool} {step : Path.Step} {above : List Path.Step}
    (hSome : above ≠ []) (h : t.isFolderAt ⟨absolute, above.reverse, .plain⟩ = false) :
    t.isFolderAt ⟨absolute, (step :: above).reverse, .plain⟩ = false := by
  rw [Bool.eq_false_iff] at h ⊢
  intro hFolder
  obtain ⟨place, hResolve, -⟩ := isFolderAt_iff.mp hFolder
  rw [List.reverse_cons] at hResolve
  exact h (isFolderAt_of_resolve_append (List.reverse_ne_nil_iff.mpr hSome) hResolve)

/-- By induction on the steps from the last to the first: the folder is made if all above it are
there, and they are made first if not. -/
theorem made_makeFolders (absolute : Bool) {steps : List Path.Step} (hSome : steps ≠ [])
    (t : FileTree) :
    Made t ⟨absolute, steps.reverse, .plain⟩ ((makeFolders absolute steps).outcome t) := by
  induction steps generalizing t with
  | nil => exact absurd rfl hSome
  | cons step above ih =>
      rw [makeFolders, FileM.outcome_tryCatch, outcome_makeFolder]
      cases hFree : t.freePlace ⟨absolute, (step :: above).reverse, .plain⟩ with
      | ok place => exact made_put_folder (.refl _ t) hFree
      | error e =>
          by_cases hMissing : e = .missing
          · subst hMissing
            simp only [FileM.outcome_bind, FileM.outcome_tryCatch, outcome_makeFolder]
            -- The folders above come first, and there may be none to make.
            rcases hRun : (makeFolders absolute above).outcome t with ⟨result, t'⟩
            have hAbove : Made t ⟨absolute, (step :: above).reverse, .plain⟩ (result, t') := by
              by_cases hNil : above = []
              · subst hNil
                obtain ⟨rfl, rfl⟩ := Prod.mk.inj hRun
                exact ⟨.refl _ t, nofun⟩
              · have hMade := hRun ▸ ih hNil t
                have hWay : above.reverse <+: (step :: above).reverse := by simp
                exact ⟨hMade.along.of_prefix rfl hWay, fun e hError =>
                  not_isFolderAt_of_above hNil (hMade.not_folder_of_error e hError)⟩
            cases result with
            | error e => exact hAbove
            | ok _ =>
                dsimp only
                cases hFree : t'.freePlace ⟨absolute, (step :: above).reverse, .plain⟩ with
                | ok place => exact made_put_folder hAbove.along hFree
                | error e => exact made_orFolder hAbove.along e
          · cases e with
            | missing => exact absurd rfl hMissing
            | _ => exact made_orFolder (.refl _ t) _

/-- The folders of a path are made from the top down, as far as they can be. -/
theorem made_ensureFolders (hSome : p.steps ≠ []) (t : FileTree) :
    Made t ⟨p.absolute, p.steps, .plain⟩ ((ensureFolders p).outcome t) := by
  have hMade := made_makeFolders p.absolute (List.reverse_ne_nil_iff.mpr hSome) t
  rwa [List.reverse_reverse] at hMade

theorem outcome_ensureFolders_of_nil (h : p.steps = []) (t : FileTree) :
    (ensureFolders p).outcome t = (.ok (), t) := by
  rw [ensureFolders, h]
  rfl

end Folders

section Writing

variable {path text : String}

/-- A text is written as a whole at one place, or nothing is. -/
theorem outcome_writeText (t : FileTree) (path text : String) :
    (writeText path text).outcome t =
      match t.writablePlace (.ofText path) with
      | .ok place => (.ok (), t.put place (.file text.toUTF8))
      | .error e => (.error e, t) := by
  simp only [writeText, FileM.outcome_bind, FileM.outcome_get, FileM.outcome_lift,
    FileM.outcome_modify]
  cases t.writablePlace (.ofText path) <;> rfl

/-- A text can be written where the way is there and does not end at a folder. -/
theorem writablePlace_eq_ok_iff : t.writablePlace p = .ok place ↔
    t.resolve p = .ok place ∧ p.ending = .plain ∧ t.entry? place ≠ some .folder := by
  rw [writablePlace]
  cases p.ending with
  | slash =>
      cases p.hasNul <;> cases t.locate ⟨p.absolute, p.steps.dropLast, .slash⟩ <;>
        simp [bind, Except.bind, throw, throwThe, MonadExceptOf.throw]
  | dot => cases t.locate p <;> simp [bind, Except.bind, throw, throwThe, MonadExceptOf.throw]
  | plain =>
      cases t.resolve p with
      | error e => simp [bind, Except.bind]
      | ok reached =>
          simp only [bind, Except.bind, true_and, Except.ok.injEq]
          constructor
          · intro h
            split at h
            · cases h
            · rename_i hFolder
              obtain rfl := Except.ok.inj h
              exact ⟨rfl, hFolder⟩
          · rintro ⟨rfl, hFolder⟩
            split
            · rename_i hIs
              exact absurd hIs hFolder
            · rfl

/-- A path that no file can be written to leads nowhere or to a folder. -/
theorem isFolderAt_of_writablePlace_error {e : FileError} (h : t.writablePlace p = .error e)
    {found : Place × Entry} (hFound : t.locate p = .ok found) : t.isFolderAt p = true := by
  obtain ⟨place, entry⟩ := found
  obtain ⟨hResolve, hEntry, hKind⟩ := locate_eq_ok_iff.mp hFound
  by_cases hFolder : entry = .folder
  · exact isFolderAt_iff.mpr ⟨place, hResolve, hFolder ▸ hEntry⟩
  · have hNotFolder : t.entry? place ≠ some .folder := by
      rw [hEntry]
      exact fun hSame => hFolder (Option.some.inj hSame)
    rw [writablePlace_eq_ok_iff.mpr ⟨hResolve, hKind.resolve_left hFolder, hNotFolder⟩] at h
    cases h

/-- A path that a file was written to leads to that file. -/
theorem locate_put_file {bytes : ByteArray} (h : t.writablePlace p = .ok place) :
    (t.put place (.file bytes)).locate p = .ok (place, .file bytes) := by
  obtain ⟨hResolve, hPlain, hFolder⟩ := writablePlace_eq_ok_iff.mp h
  have hPlace := ne_nil_of_entry? hFolder
  refine locate_eq_ok_iff.mpr ⟨?_, ?_, .inr hPlain⟩
  · exact resolve_of_folders_kept (t := t) rfl (fun _ => entry?_put_of_folder hFolder) hResolve
  · rw [entry?_put hPlace, if_pos rfl]

theorem fromUTF8?_toUTF8 (text : String) : String.fromUTF8? text.toUTF8 = some text :=
  dif_pos text.isValidUTF8

/-- A text is read back from the bytes that it was written as. -/
theorem readText_of_locate (h : t.locate (.ofText path) = .ok (place, .file text.toUTF8)) :
    t.readText path = .ok text := by
  simp only [readText, h, bind, Except.bind, fromUTF8?_toUTF8]

theorem isThere_iff : t.isThere path = true ↔ ∃ found, t.locate (.ofText path) = .ok found := by
  rw [isThere]
  cases t.locate (.ofText path) <;> simp [Except.isOk, Except.toBool]

/-- What could be read before reads the same in the grown tree. -/
theorem Grown.readText_eq (h : Grown t t') (hThere : t.isThere path = true) :
    t'.readText path = t.readText path := by
  obtain ⟨found, hFound⟩ := isThere_iff.mp hThere
  rw [readText, readText, hFound, h.locate_eq_ok hFound]

/-- The folder of a path that leads somewhere is there, unless it is the working folder. -/
theorem isFolderAt_parent (hResolve : t.resolve (.ofText path) = .ok place)
    (hSome : (Path.ofText path).parent.steps ≠ []) :
    t.isFolderAt (Path.ofText path).parent = true := by
  generalize Path.ofText path = p at hSome hResolve
  obtain ⟨absolute, steps, ending⟩ := p
  obtain rfl | ⟨above, last, rfl⟩ := List.eq_nil_or_concat steps
  · exact absurd rfl hSome
  · simp only [Path.parent, List.concat_eq_append, List.dropLast_concat] at hSome hResolve ⊢
    exact isFolderAt_of_resolve_append hSome hResolve

/-- Making the folders above a file adds folders on the way to it at most, and if it fails, the path
of the file leads nowhere. -/
theorem along_ensureFolders_parent (t : FileTree) (path : String) :
    GrownAlong (Path.ofText path).parent t
        ((ensureFolders (Path.ofText path).parent).outcome t).2 ∧
      ∀ e, ((ensureFolders (Path.ofText path).parent).outcome t).1 = .error e →
        ∀ place, ((ensureFolders (Path.ofText path).parent).outcome t).2.resolve (.ofText path) ≠
          .ok place := by
  by_cases hSome : (Path.ofText path).parent.steps = []
  · rw [outcome_ensureFolders_of_nil hSome]
    exact ⟨.refl _ t, nofun⟩
  · have hMade := made_ensureFolders hSome t
    refine ⟨hMade.along, fun e hError place hResolve => ?_⟩
    -- Whatever the path leads to is in the folder that could not be made.
    have hFolder := isFolderAt_parent hResolve hSome
    exact Bool.false_ne_true ((hMade.not_folder_of_error e hError).symm.trans hFolder)

end Writing

end FileTree

end KubeInventory
