import KubeInventory.Proofs.FileTree
import KubeInventory.Report.File

/-! Report files and the trees that they are written to. A report changes the one file that its path
leads to, or none if it cannot be written there; nothing else comes to be but folders above that
file. -/

namespace KubeInventory.Report

open FileTree (GrownAlong NewFolder)

variable {format : Format} {r : Report} {path : String} {t grown : FileTree} {place : Place}

/-- What a report that was written leaves: its text and nothing else in the file of its path, be it
new or one that was there, and all other entries as they were, but for new folders above that
file. -/
structure Written (format : Format) (r : Report) (path : String) (t : FileTree) (place : Place)
    (t' : FileTree) : Prop where
  base_eq : t'.base = t.base
  located : t'.locate (.ofText path) = .ok (place, .file (r.write format).toUTF8)
  replaced : ∀ found, t.locate (.ofText path) = .ok found → ∃ bytes, found = (place, .file bytes)
  not_folder : t.entry? place ≠ some .folder
  others : ∀ other ≠ place, t'.entry? other = t.entry? other ∨
    NewFolder (Path.ofText path).parent t t' other

/-- What a report that could not be written leaves: each entry as it was, but for new folders on the
way to a path that no file can be written to. -/
structure Unwritten (path : String) (t t' : FileTree) : Prop where
  along : GrownAlong (Path.ofText path).parent t t'
  unwritable : ∀ place, t'.writablePlace (.ofText path) ≠ .ok place

/-- Once the folders above it are there, a report that is written changes no other entry. -/
theorem written_put (hAlong : GrownAlong (Path.ofText path).parent t grown)
    (hPlace : grown.writablePlace (.ofText path) = .ok place) :
    Written format r path t place (grown.put place (.file (r.write format).toUTF8)) := by
  obtain ⟨hResolve, -, hGrownFolder⟩ := FileTree.writablePlace_eq_ok_iff.mp hPlace
  have hFolder : t.entry? place ≠ some .folder :=
    fun hEntry => hGrownFolder (hAlong.grown.entry?_eq_some hEntry)
  refine ⟨hAlong.base_eq, FileTree.locate_put_file hPlace, ?_, hFolder, fun other hOther => ?_⟩
  · rintro ⟨reached, e⟩ hFound
    obtain ⟨hReached, hEntry, -⟩ :=
      FileTree.locate_eq_ok_iff.mp (hAlong.grown.locate_eq_ok hFound)
    obtain rfl : reached = place := Except.ok.inj (hReached.symm.trans hResolve)
    cases e with
    | folder => exact absurd hEntry hGrownFolder
    | file bytes => exact ⟨bytes, rfl⟩
  · have hSome := FileTree.ne_nil_of_entry? hGrownFolder
    rw [FileTree.entry?_put hSome, if_neg hOther]
    refine (hAlong.entry_eq other).imp_right fun hNew => ⟨hNew.free, ?_, ?_⟩
    · exact FileTree.entry?_put_of_folder hGrownFolder hNew.folder
    · exact FileTree.Passes.of_folders_kept (t := grown) rfl
        (fun _ => FileTree.entry?_put_of_folder hGrownFolder) hNew.passed

/-- Writing a report is all or nothing. Either the file of its path holds its text and no other file
is changed or made, or some file operation fails and no file is changed or made at all. Only folders
above the file may be new, and it fails only where no file can be written. -/
theorem writeFile_touches_one_file_or_none (format : Format) (r : Report) (path : String)
    (t : FileTree) :
    (∃ place t', (r.writeFile format path).outcome t = (.ok (), t') ∧
      Written format r path t place t') ∨
    ∃ (e : FileError) (t' : FileTree), (r.writeFile format path).outcome t = (.error e, t') ∧
      Unwritten path t t' := by
  obtain ⟨hAlong, hNowhere⟩ := FileTree.along_ensureFolders_parent t path
  simp only [writeFile, FileM.outcome_bind, FileTree.outcome_writeText]
  rcases hFolders : (FileTree.ensureFolders (Path.ofText path).parent).outcome t with
    ⟨result, grown⟩
  rw [hFolders] at hAlong hNowhere
  cases result with
  | error e =>
      refine .inr ⟨e, grown, rfl, hAlong, fun place hPlace => ?_⟩
      exact hNowhere e rfl place (FileTree.writablePlace_eq_ok_iff.mp hPlace).1
  | ok _ =>
      dsimp only
      cases hPlace : grown.writablePlace (.ofText path) with
      | ok place => exact .inl ⟨place, _, rfl, written_put hAlong hPlace⟩
      | error e =>
          refine .inr ⟨e, grown, rfl, hAlong, fun place hOther => ?_⟩
          cases hPlace.symm.trans hOther

/-- No report is written to a path that asks for a folder, although the folder above it is made. -/
example :
    let (result, t) :=
      ((⟨"Checks", "passed", ∅, ∅, []⟩ : Report).writeFile .json "new/checks/").outcome ⟨∅, []⟩
    result = .error .isFolder ∧ t.entries.keys = [["new"]] := by
  decide +kernel

end KubeInventory.Report
