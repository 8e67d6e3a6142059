import KubeInventory.Cni.Discovery
import KubeInventory.Proofs.FilePath
import KubeInventory.Proofs.Keys
import Mathlib.Data.Option.Basic

/-! Which network is found. The files of a folder are taken in the order of their paths, so the
network in use is that of the least path among the files that can be used, in whatever order the
folder lists them. -/

namespace KubeInventory

theorem FileError.message_injective {e other : FileError} (h : e.message = other.message) :
    e = other := by
  cases e <;> cases other <;> first | rfl | exact absurd h (by decide)

namespace Cni

variable {files : FileTree} {confDir binDir path : String} {names : List String} {n : Network}
  {finding : Finding} {e : DiscoveryError}

section Files

/-- The files directly in a folder that have an extension of configuration files. -/
def Candidate (files : FileTree) (confDir path : String) : Prop :=
  ∃ names name, files.names confDir = .ok names ∧ name ∈ names ∧ path = Path.join confDir name ∧
    files.isFile path = true ∧ ∃ extension ∈ extensions, Path.extension? path = some extension

/-- The form that a configuration file must have: lists of plugins have an extension of their own.
-/
inductive HasForm (path : String) : Form → Prop
  | list (h : Path.extension? path = some "conflist") : HasForm path .list
  | single (h : Path.extension? path ≠ some "conflist") : HasForm path .single

/-- The files that configure a network whose plugins are all installed. -/
structure Usable (files : FileTree) (binDir path : String) (n : Network) : Prop where
  reads : ∃ text form, files.readText path = .ok text ∧ HasForm path form ∧
    Network.read? form text = some n
  has_plugins : n.plugins ≠ []
  installed : ∀ p ∈ n.plugins, p.type ≠ "" ∧ files.isFile (Path.join binDir p.type) = true

/-- The usable file of the least path, with its network. -/
structure Selected (files : FileTree) (confDir binDir : String) (finding : Finding) : Prop where
  candidate : Candidate files confDir finding.file
  usable : Usable files binDir finding.file finding.network
  least : ∀ other n, Candidate files confDir other → Usable files binDir other n →
    (compare finding.file other).isLE = true

/-- Why no network is found in a folder. -/
inductive Fails (files : FileTree) (confDir binDir : String) : DiscoveryError → Prop
  | unreadable {cause : FileError} (hNames : files.names confDir = .error cause) :
      Fails files confDir binDir (.unreadable confDir cause)
  | noFiles {names : List String} (hNames : files.names confDir = .ok names)
      (hNone : ∀ path, ¬Candidate files confDir path) :
      Fails files confDir binDir (.noFiles confDir)
  | noneUsable {path : String} (hSome : Candidate files confDir path)
      (hNone : ∀ path n, Candidate files confDir path → ¬Usable files binDir path n) :
      Fails files confDir binDir (.noneUsable confDir)

theorem isCandidate_iff : isCandidate files path = true ↔
    files.isFile path = true ∧ ∃ extension ∈ extensions, Path.extension? path = some extension := by
  rw [isCandidate, Bool.and_eq_true, Option.any_eq_true]
  simp only [List.contains_iff_mem, and_comm]

theorem hasForm_iff {form : Form} : HasForm path form ↔ formOf path = form := by
  rw [formOf]
  constructor
  · rintro (h | h) <;> simp [h]
  · rintro rfl
    split
    · rename_i h
      exact .list (eq_of_beq h)
    · rename_i h
      exact .single (by simpa using h)

/-- A network can be used if it has plugins, each with its program in the folder for these. -/
theorem isUsable_iff : isUsable files binDir n = true ↔ n.plugins ≠ [] ∧
    ∀ p ∈ n.plugins, p.type ≠ "" ∧ files.isFile (Path.join binDir p.type) = true := by
  simp [isUsable, isInstalled]

theorem toOption_eq_some_iff {ε α : Type} {x : Except ε α} {a : α} :
    x.toOption = some a ↔ x = .ok a := by
  cases x <;> simp [Except.toOption]

theorem usable?_eq_some_iff : usable? files binDir path = some finding ↔
    finding.file = path ∧ Usable files binDir path finding.network := by
  obtain ⟨file, network⟩ := finding
  simp only [usable?, Option.bind_eq_bind, Option.bind_eq_some_iff, toOption_eq_some_iff,
    Option.guard_eq_some', exists_const, Option.pure_def, Option.some.injEq, Finding.mk.injEq,
    isUsable_iff]
  constructor
  · rintro ⟨text, hText, n, hRead, ⟨hPlugins, hInstalled⟩, rfl, rfl⟩
    exact ⟨rfl, ⟨text, _, hText, hasForm_iff.mpr rfl, hRead⟩, hPlugins, hInstalled⟩
  · rintro ⟨rfl, ⟨text, form, hText, hForm, hRead⟩, hPlugins, hInstalled⟩
    obtain rfl := hasForm_iff.mp hForm
    exact ⟨text, hText, network, hRead, ⟨hPlugins, hInstalled⟩, rfl, rfl⟩

theorem usable?_eq_none_iff :
    usable? files binDir path = none ↔ ∀ n, ¬Usable files binDir path n := by
  rw [Option.eq_none_iff_forall_ne_some]
  constructor
  · intro h n hUsable
    exact h ⟨path, n⟩ (usable?_eq_some_iff.mpr ⟨rfl, hUsable⟩)
  · intro h finding hSome
    exact h finding.network (usable?_eq_some_iff.mp hSome).2

end Files

section Choice

theorem mem_candidates_iff (hNames : files.names confDir = .ok names) :
    path ∈ candidates files confDir names ↔ Candidate files confDir path := by
  rw [candidates, List.mem_mergeSort, List.mem_filter, List.mem_map, isCandidate_iff]
  constructor
  · rintro ⟨⟨name, hName, rfl⟩, hFile, hExtension⟩
    exact ⟨names, name, hNames, hName, rfl, hFile, hExtension⟩
  · rintro ⟨listed, name, hListed, hName, rfl, hFile, hExtension⟩
    rw [hNames] at hListed
    obtain rfl := Except.ok.inj hListed
    exact ⟨⟨name, hName, rfl⟩, hFile, hExtension⟩

theorem pairwise_candidates (files : FileTree) (confDir : String) (names : List String) :
    (candidates files confDir names).Pairwise fun a b => (compare a b).isLE = true :=
  pairwise_mergeSort_key id _

/-- Candidates are told apart by their paths alone, so their order is that of the paths. -/
theorem candidates_of_perm {order : List String} (h : order.Perm names) :
    candidates files confDir order = candidates files confDir names := by
  have hPerm : (candidates files confDir order).Perm (candidates files confDir names) :=
    ((List.mergeSort_perm _ _).trans ((h.map _).filter _)).trans (List.mergeSort_perm _ _).symm
  exact hPerm.eq_of_pairwise
    (fun a b _ _ hab hba => Std.LawfulEqOrd.eq_of_compare (Std.OrientedCmp.isLE_antisymm hab hba))
    (pairwise_candidates files confDir order) (pairwise_candidates files confDir names)

/-- The first candidate that can be used is chosen, in the order of paths. -/
theorem choose_eq (files : FileTree) (confDir binDir : String) (names : List String) :
    choose files confDir binDir names =
      if candidates files confDir names = [] then .error (.noFiles confDir)
      else ((candidates files confDir names).findSome? (usable? files binDir)).elim
        (.error (.noneUsable confDir)) .ok := by
  rw [choose]
  cases hPaths : candidates files confDir names with
  | nil => rfl
  | cons first rest =>
      rw [if_neg (List.cons_ne_nil _ _)]
      dsimp only
      cases (first :: rest).findSome? (usable? files binDir) <;> rfl

theorem candidates_eq_nil_iff (hNames : files.names confDir = .ok names) :
    candidates files confDir names = [] ↔ ∀ path, ¬Candidate files confDir path := by
  simp only [List.eq_nil_iff_forall_not_mem, mem_candidates_iff hNames]

theorem findSome?_candidates_eq_some_iff (hNames : files.names confDir = .ok names) :
    (candidates files confDir names).findSome? (usable? files binDir) = some finding ↔
      Selected files confDir binDir finding := by
  rw [findSome?_eq_some_iff_least (pairwise_candidates files confDir names)]
  simp only [mem_candidates_iff hNames, usable?_eq_some_iff, ne_eq, usable?_eq_none_iff]
  constructor
  · rintro ⟨_, hCandidate, ⟨rfl, hUsable⟩, hLeast⟩
    exact ⟨hCandidate, hUsable, fun other n hOther hn =>
      hLeast other hOther fun hNone => hNone n hn⟩
  · rintro ⟨hCandidate, hUsable, hLeast⟩
    refine ⟨finding.file, hCandidate, ⟨rfl, hUsable⟩, fun other hOther hSome => ?_⟩
    obtain ⟨n, hn⟩ := not_forall_not.mp hSome
    exact hLeast other n hOther hn

theorem findSome?_candidates_eq_none_iff (hNames : files.names confDir = .ok names) :
    (candidates files confDir names).findSome? (usable? files binDir) = none ↔
      ∀ path n, Candidate files confDir path → ¬Usable files binDir path n := by
  simp only [List.findSome?_eq_none_iff, mem_candidates_iff hNames, usable?_eq_none_iff]
  exact ⟨fun h path n hCandidate => h path hCandidate n, fun h path hCandidate n =>
    h path n hCandidate⟩

theorem discover_of_names (hNames : files.names confDir = .ok names) :
    discover files confDir binDir = choose files confDir binDir names := by
  rw [discover, hNames]

theorem not_candidate_of_unreadable {cause : FileError}
    (hNames : files.names confDir = .error cause) (path : String) :
    ¬Candidate files confDir path := by
  rintro ⟨names, name, hListed, -⟩
  rw [hNames] at hListed
  cases hListed

/-- What is found is the least of what can be used. -/
theorem discover_eq_ok_iff : discover files confDir binDir = .ok finding ↔
    Selected files confDir binDir finding := by
  cases hNames : files.names confDir with
  | error cause =>
      rw [discover, hNames]
      constructor
      · intro h
        cases h
      · intro hSelected
        exact absurd hSelected.candidate (not_candidate_of_unreadable hNames _)
  | ok names =>
      rw [discover_of_names hNames, choose_eq, ← findSome?_candidates_eq_some_iff hNames]
      split
      · rename_i hNil
        simp [hNil]
      · cases (candidates files confDir names).findSome? (usable? files binDir) <;> simp

theorem fails_iff (hNames : files.names confDir = .ok names) : Fails files confDir binDir e ↔
    candidates files confDir names = [] ∧ e = .noFiles confDir ∨
      candidates files confDir names ≠ [] ∧
        (candidates files confDir names).findSome? (usable? files binDir) = none ∧
          e = .noneUsable confDir := by
  constructor
  · rintro (hCause | ⟨-, hNone⟩ | ⟨hSome, hNone⟩)
    · rw [hNames] at hCause
      cases hCause
    · exact .inl ⟨(candidates_eq_nil_iff hNames).mpr hNone, rfl⟩
    · refine .inr ⟨fun hNil => ?_, (findSome?_candidates_eq_none_iff hNames).mpr hNone, rfl⟩
      exact (candidates_eq_nil_iff hNames).mp hNil _ hSome
  · rintro (⟨hNil, rfl⟩ | ⟨hSome, hNone, rfl⟩)
    · exact .noFiles hNames ((candidates_eq_nil_iff hNames).mp hNil)
    · obtain ⟨path, hPath⟩ := not_forall_not.mp (mt (candidates_eq_nil_iff hNames).mpr hSome)
      exact .noneUsable hPath ((findSome?_candidates_eq_none_iff hNames).mp hNone)

/-- Nothing is found for one of three reasons. -/
theorem discover_eq_error_iff : discover files confDir binDir = .error e ↔
    Fails files confDir binDir e := by
  cases hNames : files.names confDir with
  | error cause =>
      rw [discover, hNames]
      constructor
      · intro h
        obtain rfl := Except.error.inj h
        exact .unreadable hNames
      · rintro (hCause | ⟨hListed, -⟩ | ⟨hSome, -⟩)
        · rw [hNames] at hCause
          rw [Except.error.inj hCause]
        · rw [hNames] at hListed
          cases hListed
        · exact absurd hSome (not_candidate_of_unreadable hNames _)
  | ok names =>
      rw [discover_of_names hNames, choose_eq, fails_iff hNames]
      split
      · rename_i hNil
        simp [hNil, eq_comm]
      · rename_i hSome
        cases (candidates files confDir names).findSome? (usable? files binDir) <;>
          simp [hSome, eq_comm]

/-- Nothing is found just if no file is usable, for whatever reason. -/
theorem exists_error_iff : (∃ e, discover files confDir binDir = .error e) ↔
    ∀ path n, Candidate files confDir path → ¬Usable files binDir path n := by
  constructor
  · rintro ⟨e, h⟩
    cases discover_eq_error_iff.mp h with
    | unreadable hNames =>
        exact fun path n hCandidate => absurd hCandidate (not_candidate_of_unreadable hNames path)
    | noFiles hNames hNone => exact fun path n hCandidate => absurd hCandidate (hNone path)
    | noneUsable hSome hNone => exact hNone
  · intro hNone
    cases hFound : discover files confDir binDir with
    | error e => exact ⟨e, rfl⟩
    | ok finding =>
        have hSelected := discover_eq_ok_iff.mp hFound
        exact absurd hSelected.usable (hNone _ _ hSelected.candidate)

/-- The start of a message tells what it is about. -/
theorem DiscoveryError.take_message (e : DiscoveryError) : e.message.toList.take 4 =
    match e with
    | .unreadable .. => ['c', 'o', 'u', 'l']
    | .noFiles _ => ['n', 'o', ' ', 'C']
    | .noneUsable _ => ['n', 'o', ' ', 'v'] := by
  unfold message
  cases e <;> simp [toString]

theorem DiscoveryError.unreadable_message_inj {cause other : FileError}
    (h : (unreadable confDir cause).message = (unreadable confDir other).message) :
    cause = other := by
  unfold message at h
  exact FileError.message_injective ((String.append_right_inj _).mp h)

/-- Of one folder, the message tells which error it is: that the folder cannot be read and why, that
it has no configuration files, or that none of them is usable. -/
theorem Fails.eq_of_message_eq {others : FileTree} {otherBin : String} {other : DiscoveryError}
    (h : Fails files confDir binDir e) (hOther : Fails others confDir otherBin other)
    (hMessage : e.message = other.message) : e = other := by
  have hStart := congrArg (fun message => message.toList.take 4) hMessage
  rw [DiscoveryError.take_message, DiscoveryError.take_message] at hStart
  cases h with
  | unreadable =>
      cases hOther with
      | unreadable => rw [DiscoveryError.unreadable_message_inj hMessage]
      | _ => cases hStart
  | noFiles =>
      cases hOther with
      | noFiles => rfl
      | _ => cases hStart
  | noneUsable =>
      cases hOther with
      | noneUsable => rfl
      | _ => cases hStart

end Choice

section Reports

/-- What the report of a plugin shows: its own name or that of its network, and its parts, with
nulls for those that it does not have. -/
structure ShowsPlugin (network : Network) (p : Plugin) (r : Report) : Prop where
  name_eq : r.name = p.name.getD network.name
  status_eq : r.status = ""
  metadata_eq : r.metadata = ∅
  details_eq : r.details = .ofList [("version", (p.version.map .string).getD .null),
    ("type", .string p.type), ("capabilities", p.capabilities.getD .null),
    ("ipam", p.ipam.getD .null), ("dns", p.dns.getD .null)]
  children_eq : r.children = []

/-- What the report of a network shows: the file that it comes from, and a child for each plugin, in
order. -/
structure ShowsNetwork (finding : Finding) (r : Report) : Prop where
  name_eq : r.name = finding.network.name
  status_eq : r.status = "complete"
  metadata_eq : r.metadata = .ofList [("confFile", finding.file)]
  details_eq : r.details = .ofList [("cniVersion", .string finding.network.version),
    ("disableCheck", .bool finding.network.disableCheck)]
  children : List.Forall₂ (ShowsPlugin finding.network) finding.network.plugins r.children

/-- What the section on networks shows: one child for the network that is found, or why none is. -/
inductive ShowsOutcome : Except DiscoveryError Finding → Report → Prop
  | found {finding : Finding} {r child : Report} (hName : r.name = "CNI")
      (hStatus : r.status = "complete") (hMetadata : r.metadata = ∅)
      (hDetails : r.details = ∅) (hChildren : r.children = [child])
      (hChild : ShowsNetwork finding child) : ShowsOutcome (.ok finding) r
  | failed {e : DiscoveryError} {r : Report} (hName : r.name = "CNI")
      (hStatus : r.status = "incomplete") (hMetadata : r.metadata = ∅)
      (hDetails : r.details = .ofList [("error", .string e.message)])
      (hChildren : r.children = []) : ShowsOutcome (.error e) r

theorem showsNetwork_report (finding : Finding) :
    ShowsNetwork finding (finding.network.report finding.file) := by
  refine ⟨rfl, rfl, rfl, rfl, ?_⟩
  have hChildren : (finding.network.report finding.file).children =
      finding.network.plugins.map (Plugin.report finding.network.name) := rfl
  rw [hChildren, List.forall₂_map_right_iff, List.forall₂_same]
  exact fun p _ => ⟨rfl, rfl, rfl, rfl, rfl⟩

theorem showsOutcome_report (outcome : Except DiscoveryError Finding) :
    ShowsOutcome outcome (report outcome) := by
  cases outcome with
  | ok finding => exact .found rfl rfl rfl rfl rfl (showsNetwork_report finding)
  | error e => exact .failed rfl rfl rfl rfl rfl

end Reports

section Places

/-- Candidates by what stands in the tree, whose entries have the names that entries can have. -/
theorem candidate_iff_entry (hNamed : files.WellNamed) : Candidate files confDir path ↔
    ∃ folder name bytes, files.locate (.ofText confDir) = .ok (folder, .folder) ∧
      files.entry? (folder ++ [name]) = some (.file bytes) ∧
      (∃ extension ∈ extensions, Path.nameExtension? name = some extension) ∧
      path = Path.join confDir name := by
  constructor
  · rintro ⟨names, name, hNames, hName, rfl, hFile, hExtension⟩
    obtain ⟨folder, hFolder, rfl⟩ := FileTree.names_eq_ok_iff.mp hNames
    have hIs := hNamed.isName_of_entry? (FileTree.mem_filterMap_nameIn?_iff.mp hName)
    obtain ⟨bytes, hEntry⟩ := (FileTree.isFile_join_iff hFolder hIs).mp hFile
    rw [Path.extension?_join (FileTree.ne_empty_of_locate hFolder) hIs] at hExtension
    exact ⟨folder, name, bytes, hFolder, hEntry, hExtension, rfl⟩
  · rintro ⟨folder, name, bytes, hFolder, hEntry, hExtension, rfl⟩
    have hSome : (files.entry? (folder ++ [name])).isSome = true := by rw [hEntry]; rfl
    have hIs := hNamed.isName_of_entry? hSome
    refine ⟨_, name, FileTree.names_eq_ok_iff.mpr ⟨folder, hFolder, rfl⟩,
      FileTree.mem_filterMap_nameIn?_iff.mpr hSome, rfl,
      (FileTree.isFile_join_iff hFolder hIs).mpr ⟨bytes, hEntry⟩, ?_⟩
    rwa [Path.extension?_join (FileTree.ne_empty_of_locate hFolder) hIs]

/-- The paths of the names in a folder stand in the order of the names. -/
theorem compare_paths (hNamed : files.WellNamed) (hNames : files.names confDir = .ok names)
    {a b : String} (ha : a ∈ names) (hb : b ∈ names) :
    compare (Path.join confDir a) (Path.join confDir b) = compare a b := by
  obtain ⟨folder, -, rfl⟩ := FileTree.names_eq_ok_iff.mp hNames
  exact Path.compare_join
    (hNamed.isName_of_entry? (FileTree.mem_filterMap_nameIn?_iff.mp ha))
    (hNamed.isName_of_entry? (FileTree.mem_filterMap_nameIn?_iff.mp hb))

end Places

/-- The network in use is that of the usable file with the least path, in whatever order the names
of the folder come. Nothing is found just if no file is usable, and the error tells whether the
folder cannot be read, has no files or has no usable one. The report shows the network with its
plugins in order, or the error. In a tree with proper names, the files that count are those that
stand in the folder, and the order of their paths is that of their names. -/
theorem discover_least_usable (files : FileTree) (confDir binDir : String) :
    (∀ names order, files.names confDir = .ok names → order.Perm names →
      choose files confDir binDir order = discover files confDir binDir) ∧
    (∀ finding, discover files confDir binDir = .ok finding ↔
      Selected files confDir binDir finding) ∧
    (∀ e, discover files confDir binDir = .error e ↔ Fails files confDir binDir e) ∧
    ((∃ e, discover files confDir binDir = .error e) ↔
      ∀ path n, Candidate files confDir path → ¬Usable files binDir path n) ∧
    (∀ e, Fails files confDir binDir e → ∀ others otherBin other,
      Fails others confDir otherBin other → e.message = other.message → e = other) ∧
    ShowsOutcome (discover files confDir binDir) (report (discover files confDir binDir)) ∧
    (files.WellNamed →
      (∀ path, Candidate files confDir path ↔
        ∃ folder name bytes, files.locate (.ofText confDir) = .ok (folder, .folder) ∧
          files.entry? (folder ++ [name]) = some (.file bytes) ∧
          (∃ extension ∈ extensions, Path.nameExtension? name = some extension) ∧
          path = Path.join confDir name) ∧
      ∀ names, files.names confDir = .ok names → ∀ a ∈ names, ∀ b ∈ names,
        compare (Path.join confDir a) (Path.join confDir b) = compare a b) := by
  refine ⟨fun names order hNames hPerm => ?_, fun _ => discover_eq_ok_iff,
    fun _ => discover_eq_error_iff, exists_error_iff,
    fun _ h _ _ _ hOther hMessage => h.eq_of_message_eq hOther hMessage,
    showsOutcome_report _, fun hNamed => ⟨fun _ => candidate_iff_entry hNamed, ?_⟩⟩
  · rw [discover_of_names hNames, choose_eq, choose_eq, candidates_of_perm hPerm]
  · exact fun names hNames a ha b hb => compare_paths hNamed hNames ha hb

end Cni

end KubeInventory
