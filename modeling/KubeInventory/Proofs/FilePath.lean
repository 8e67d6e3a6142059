import KubeInventory.Proofs.CommaList
import KubeInventory.Proofs.FileTree

/-! Paths that join the name of an entry to the path of its folder. In a tree whose entries have
names that files can have, what such a path leads to is that entry. -/

namespace KubeInventory

namespace Path

variable {folder name : String}

/-- The names that an entry of a folder can have. -/
structure IsName (name : String) : Prop where
  nonempty : name ≠ ""
  ne_dot : name ≠ "."
  ne_up : name ≠ ".."
  no_slash : '/' ∉ name.toList
  no_nul : '\x00' ∉ name.toList
  short : name.utf8ByteSize ≤ FileTree.longestName

/-- A name is a step into the folder, and neither stays nor goes up. -/
theorem IsName.stepOf?_eq (h : IsName name) : stepOf? name = some (.into name) := by
  simp [stepOf?, h.nonempty, h.ne_dot, h.ne_up]

theorem IsName.not_isAbsolute (h : IsName name) : isAbsolute name = false := by
  rw [isAbsolute, beq_eq_false_iff_ne]
  exact fun hHead => h.no_slash (List.mem_of_head? hHead)

/-- A name holds no slash, so it is one piece behind the last slash. -/
theorem pieces_append_slash (front : List Char) (hName : IsName name) :
    pieces (String.ofList (front ++ '/' :: name.toList)) =
      pieces (String.ofList front) ++ [name] := by
  have hSingle := List.splitOn_eq_singleton hName.no_slash
  rw [List.splitOn] at hSingle
  simp only [pieces, String.toList_ofList, Text.splitAt_eq_splitOn, List.splitOn]
  rw [List.splitOnP_append_cons front name.toList (by simp), hSingle, List.map_append]
  simp

/-- A slash at the end of a path adds no step. -/
theorem steps_append_slash (front : List Char) :
    (ofText (String.ofList (front ++ ['/']))).steps = (ofText (String.ofList front)).steps := by
  simp only [ofText, pieces, String.toList_ofList, Text.splitAt_eq_splitOn, List.splitOn]
  rw [List.splitOnP_append_cons front [] (by simp), List.map_append, List.filterMap_append]
  exact List.append_nil _

/-- A joined path is what precedes the last slash, the slash and the name. -/
theorem exists_front (hFolder : folder ≠ "") (hName : IsName name) :
    ∃ front, join folder name = String.ofList (front ++ '/' :: name.toList) ∧
      (folder = String.ofList front ∨ folder = String.ofList (front ++ ['/'])) := by
  rw [join, hName.not_isAbsolute, if_neg Bool.false_ne_true]
  cases hSlash : endsWithSlash folder with
  | false =>
      refine ⟨folder.toList, ?_, .inl String.ofList_toList.symm⟩
      simp [hFolder, String.ext_iff]
  | true =>
      obtain ⟨front, hFront⟩ := List.getLast?_eq_some_iff.mp (eq_of_beq hSlash)
      have hText : folder = String.ofList (front ++ ['/']) := by
        rw [← hFront, String.ofList_toList]
      exact ⟨front, by simp [String.ext_iff, hFront], .inr hText⟩

/-- The path of the folder tells where the joined path starts. -/
theorem isAbsolute_join (hFolder : folder ≠ "") (hName : IsName name) :
    isAbsolute (join folder name) = isAbsolute folder := by
  have hSome : folder.toList ≠ [] := fun h => hFolder (String.toList_eq_nil_iff.mp h)
  obtain ⟨c, rest, hChars⟩ := List.exists_cons_of_ne_nil hSome
  rw [join, hName.not_isAbsolute, if_neg Bool.false_ne_true]
  split <;> simp [isAbsolute, hChars]

/-- Joining a name to a path takes one step more, into that name. -/
theorem ofText_join (hFolder : folder ≠ "") (hName : IsName name) :
    ofText (join folder name) =
      ⟨(ofText folder).absolute, (ofText folder).steps ++ [.into name], .plain⟩ := by
  obtain ⟨front, hJoin, hFront⟩ := exists_front hFolder hName
  have hSteps : (ofText (join folder name)).steps =
      (ofText (String.ofList front)).steps ++ [.into name] := by
    rw [hJoin, ofText, pieces_append_slash front hName, List.filterMap_append,
      List.filterMap_cons_some hName.stepOf?_eq, List.filterMap_nil]
    rfl
  have hEnding : (ofText (join folder name)).ending = .plain := by
    have hDot : name ≠ "." := hName.ne_dot
    have hSlash : endsWithSlash (join folder name) = false := by
      rw [endsWithSlash, beq_eq_false_iff_ne, hJoin, String.toList_ofList]
      intro hLast
      have hNone : name.toList ≠ [] := fun h => hName.nonempty (String.toList_eq_nil_iff.mp h)
      rw [List.getLast?_append_of_ne_nil _ (by simp), List.getLast?_cons_of_ne_nil hNone] at hLast
      exact hName.no_slash (List.mem_of_getLast? hLast)
    rw [ofText, hSlash, hJoin, pieces_append_slash front hName, List.filter_append]
    simp [hName.nonempty, hDot]
  have hFolderSteps : (ofText (String.ofList front)).steps = (ofText folder).steps := by
    rcases hFront with rfl | rfl
    · rfl
    · rw [steps_append_slash]
  rw [← hFolderSteps, ← hSteps, ← hEnding]
  have hAbsolute : (ofText (join folder name)).absolute = (ofText folder).absolute :=
    isAbsolute_join hFolder hName
  rw [← hAbsolute]

/-- Texts that begin alike are ordered by what is behind. -/
theorem append_lt_append_iff (front a b : List Char) : front ++ a < front ++ b ↔ a < b := by
  induction front with
  | nil => rfl
  | cons c rest ih => rw [List.cons_append, List.cons_append, List.cons_lt_cons_self, ih]

theorem compare_append_left (front a b : String) :
    compare (front ++ a) (front ++ b) = compare a b := by
  have hLt : front ++ a < front ++ b ↔ a < b := by
    rw [String.lt_iff, String.lt_iff, String.toList_append, String.toList_append,
      append_lt_append_iff]
  show compareOfLessAndEq _ _ = compareOfLessAndEq _ _
  simp only [compareOfLessAndEq, hLt, String.append_right_inj]

/-- Paths in one folder stand in the order of their names. -/
theorem compare_join {a b : String} (ha : IsName a) (hb : IsName b) :
    compare (join folder a) (join folder b) = compare a b := by
  rw [join, join, ha.not_isAbsolute, hb.not_isAbsolute, if_neg Bool.false_ne_true,
    if_neg Bool.false_ne_true]
  split <;> rw [compare_append_left]

theorem extension?_join (hFolder : folder ≠ "") (hName : IsName name) :
    extension? (join folder name) = nameExtension? name := by
  simp [extension?, ofText_join hFolder hName]

end Path

namespace FileTree

variable {t : FileTree} {folder name : String} {place : Place}

/-- Trees whose entries have names that entries can have. -/
def WellNamed (t : FileTree) : Prop := ∀ place ∈ t.entries.keys, ∀ name ∈ place, Path.IsName name

/-- The names in a folder are those of the places one step below it. -/
theorem nameIn?_eq_some_iff {q : Place} :
    nameIn? place q = some name ↔ q = place ++ [name] := by
  rw [nameIn?]
  constructor
  · intro h
    split at h
    · cases h
    · rename_i last above hReverse
      split at h
      · rename_i hAbove
        cases h
        rw [← List.reverse_reverse q, hReverse, List.reverse_cons, eq_of_beq hAbove]
      · cases h
  · rintro rfl
    simp

theorem ne_empty_of_locate {found : Place × Entry} (h : t.locate (.ofText folder) = .ok found) :
    folder ≠ "" := by
  rintro rfl
  cases h

/-- The names of a folder are read off the places in the tree. -/
theorem names_eq_ok_iff {names : List String} :
    t.names folder = .ok names ↔ ∃ place, t.locate (.ofText folder) = .ok (place, .folder) ∧
      t.entries.keys.filterMap (nameIn? place) = names := by
  rw [FileTree.names]
  cases hFound : t.locate (.ofText folder) with
  | error e => simp [bind, Except.bind]
  | ok found =>
      obtain ⟨place, entry⟩ := found
      cases entry <;> simp [bind, Except.bind]

/-- A name is listed just if something stands under it. -/
theorem mem_filterMap_nameIn?_iff :
    name ∈ t.entries.keys.filterMap (nameIn? place) ↔
      (t.entry? (place ++ [name])).isSome = true := by
  rw [List.mem_filterMap]
  simp only [nameIn?_eq_some_iff, exists_eq_right, Dict.mem_keys_iff, entry?]
  simp

/-- A name that is joined to a folder leads to the entry of that name in the folder. -/
theorem locate_join_eq_ok_iff (hFolder : t.locate (.ofText folder) = .ok (place, .folder))
    (hName : Path.IsName name) {q : Place} {e : Entry} :
    t.locate (.ofText (Path.join folder name)) = .ok (q, e) ↔
      q = place ++ [name] ∧ t.entry? q = some e := by
  obtain ⟨hResolve, hEntry, -⟩ := locate_eq_ok_iff.mp hFolder
  obtain ⟨hNul, hEmpty, hWalk⟩ := resolve_eq_ok_iff.mp hResolve
  rw [Path.ofText_join (ne_empty_of_locate hFolder) hName, locate_eq_ok_iff, resolve_eq_ok_iff]
  have hNulJoined : Path.hasNul ⟨(Path.ofText folder).absolute,
      (Path.ofText folder).steps ++ [.into name], .plain⟩ = false := by
    rw [Path.hasNul] at hNul ⊢
    rw [List.any_append, hNul]
    simp [hName.no_nul]
  have hWalkJoined : t.walk (if (Path.ofText folder).absolute then [] else t.base)
      ((Path.ofText folder).steps ++ [.into name]) = .ok (place ++ [name]) := by
    rw [walk_append, hWalk]
    simp [Except.bind, walk, hEntry, stepFrom, Nat.not_lt.mpr hName.short, bind]
  have hEmptyJoined : Path.isEmpty ⟨(Path.ofText folder).absolute,
      (Path.ofText folder).steps ++ [.into name], .plain⟩ = false := by
    simp [Path.isEmpty]
  constructor
  · rintro ⟨⟨-, -, hReached⟩, hThere, -⟩
    rw [hWalkJoined] at hReached
    exact ⟨(Except.ok.inj hReached).symm, hThere⟩
  · rintro ⟨rfl, hThere⟩
    exact ⟨⟨hNulJoined, hEmptyJoined, hWalkJoined⟩, hThere, .inr rfl⟩

theorem isFile_eq_true_iff {path : String} :
    t.isFile path = true ↔ ∃ q bytes, t.locate (.ofText path) = .ok (q, .file bytes) := by
  rw [isFile]
  cases t.locate (.ofText path) with
  | error e => simp
  | ok found =>
      obtain ⟨q, e⟩ := found
      cases e <;> simp

/-- The path of an entry leads to a file just if the entry is one. -/
theorem isFile_join_iff (hFolder : t.locate (.ofText folder) = .ok (place, .folder))
    (hName : Path.IsName name) :
    t.isFile (Path.join folder name) = true ↔
      ∃ bytes, t.entry? (place ++ [name]) = some (.file bytes) := by
  simp [isFile_eq_true_iff, locate_join_eq_ok_iff hFolder hName]

theorem WellNamed.isName_of_entry? (h : t.WellNamed)
    (hEntry : (t.entry? (place ++ [name])).isSome = true) : Path.IsName name := by
  have hKey : place ++ [name] ∈ t.entries.keys := by
    rw [Dict.mem_keys_iff]
    simpa [ entry?] using hEntry
  exact h _ hKey name (by simp)

end FileTree

end KubeInventory
