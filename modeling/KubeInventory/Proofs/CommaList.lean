import KubeInventory.Config.Key
import Mathlib.Data.List.DropRight

/-! Lists written with commas. Splitting gives items only, which are neither empty nor blank at an
end and hold no comma; items joined with commas are split into themselves. -/

namespace KubeInventory.Text

theorem splitAt_eq_splitOn (separator : Char) (cs : List Char) :
    splitAt separator cs = cs.splitOn separator := by
  induction cs with
  | nil => rfl
  | cons c rest ih =>
      obtain ⟨piece, pieces, hPieces⟩ :=
        List.exists_cons_of_ne_nil (List.splitOnP_ne_nil (fun x => x == separator) rest)
      rw [splitAt, ih, List.splitOn, List.splitOn, List.splitOnP_cons_eq_if_modifyHead, hPieces]
      rfl

/-- No piece holds the character that the pieces stand between. -/
theorem not_mem_of_mem_splitAt {separator : Char} {cs piece : List Char}
    (h : piece ∈ splitAt separator cs) : separator ∉ piece := by
  induction cs generalizing piece with
  | nil =>
      obtain rfl := List.mem_singleton.mp h
      exact List.not_mem_nil
  | cons c rest ih =>
      rw [splitAt] at h
      split at h
      · rename_i hNone
        rw [splitAt_eq_splitOn] at hNone
        exact absurd hNone (List.splitOnP_ne_nil _ rest)
      · rename_i first others hRest
        rw [hRest] at ih
        split at h
        · rcases List.mem_cons.mp h with rfl | hLater
          · exact List.not_mem_nil
          · exact ih hLater
        · rename_i hOther
          rcases List.mem_cons.mp h with rfl | hLater
          · have hFirst := ih List.mem_cons_self
            simp only [beq_iff_eq] at hOther
            simp [hFirst, Ne.symm hOther]
          · exact ih (List.mem_cons_of_mem _ hLater)

/-- White space is taken off both ends. -/
theorem trimChars_eq (cs : List Char) : trimChars cs = (cs.dropWhile isBlank).rdropWhile isBlank :=
  rfl

theorem trimChars_subset (cs : List Char) : trimChars cs ⊆ cs := by
  rw [trimChars_eq]
  exact List.Subset.trans (List.rdropWhile_prefix _ _).subset (List.dropWhile_suffix _).subset

/-- There is none to take off a second time. -/
theorem trimChars_trimChars (cs : List Char) : trimChars (trimChars cs) = trimChars cs := by
  -- What is left starts as it did before the blanks at the end were taken away.
  have hFront : (trimChars cs).dropWhile isBlank = trimChars cs := by
    rw [List.dropWhile_eq_self_iff]
    intro hSome hBlank
    have hPrefix : trimChars cs <+: cs.dropWhile isBlank := List.rdropWhile_prefix _ _
    have hNonempty : cs.dropWhile isBlank ≠ [] :=
      List.ne_nil_of_length_pos (Nat.lt_of_lt_of_le hSome hPrefix.length_le)
    have hHead := List.head_dropWhile_not isBlank hNonempty
    rw [← List.getElem_zero (List.length_pos_iff.mpr hNonempty), ← hPrefix.getElem hSome] at hHead
    rw [hHead] at hBlank
    cases hBlank
  rw [trimChars_eq (trimChars cs), hFront]
  exact List.rdropWhile_idempotent _ _

/-- Whether a text neither starts nor ends with white space. -/
def Tight (text : String) : Prop :=
  (∀ c ∈ text.toList.head?, isBlank c = false) ∧ ∀ c ∈ text.toList.getLast?, isBlank c = false

theorem dropWhile_isBlank_eq_self_iff {cs : List Char} :
    cs.dropWhile isBlank = cs ↔ ∀ c ∈ cs.head?, isBlank c = false := by
  cases cs with
  | nil => simp
  | cons c rest => simp [List.dropWhile_eq_self_iff]

theorem rdropWhile_isBlank_eq_self_iff {cs : List Char} :
    cs.rdropWhile isBlank = cs ↔ ∀ c ∈ cs.getLast?, isBlank c = false := by
  rw [List.rdropWhile_eq_self_iff]
  constructor
  · intro h c hc
    obtain ⟨hSome, rfl⟩ := List.mem_getLast?_eq_getLast hc
    simpa using h hSome
  · intro h hSome
    simp [h _ (List.getLast?_eq_some_getLast hSome)]

/-- Nothing is taken off just if there is white space at neither end. -/
theorem trimChars_eq_self_iff {cs : List Char} : trimChars cs = cs ↔
    (∀ c ∈ cs.head?, isBlank c = false) ∧ ∀ c ∈ cs.getLast?, isBlank c = false := by
  rw [← dropWhile_isBlank_eq_self_iff, ← rdropWhile_isBlank_eq_self_iff, trimChars_eq]
  constructor
  · intro h
    -- Nothing is taken away at the front, or what is left could not be as long.
    have hPrefix : cs <+: cs.dropWhile isBlank := by
      have hLeft := List.rdropWhile_prefix isBlank (cs.dropWhile isBlank)
      rwa [h] at hLeft
    have hFront : cs.dropWhile isBlank = cs :=
      (List.dropWhile_suffix isBlank).eq_of_length_le hPrefix.length_le
    exact ⟨hFront, by rwa [hFront] at h⟩
  · rintro ⟨hFront, hBack⟩
    rw [hFront, hBack]

theorem trim_eq_self_iff {text : String} : trim text = text ↔ Tight text := by
  rw [← String.toList_inj, trim, String.toList_ofList, trimChars_eq_self_iff, Tight]

/-- Texts that can be items of a list written with commas. -/
structure IsItem (text : String) : Prop where
  nonempty : text ≠ ""
  no_comma : ',' ∉ text.toList
  trim_eq : trim text = text

/-- Whatever the text, splitting gives items only. -/
theorem isItem_of_mem_splitList {text item : String} (h : item ∈ splitList text) : IsItem item := by
  obtain ⟨cs, hKept, rfl⟩ := List.mem_map.mp h
  obtain ⟨hTrimmed, hSome⟩ := List.mem_filter.mp hKept
  obtain ⟨piece, hPiece, rfl⟩ := List.mem_map.mp hTrimmed
  refine ⟨?_, ?_, ?_⟩
  · simpa using hSome
  · rw [String.toList_ofList]
    exact fun hComma => not_mem_of_mem_splitAt hPiece (trimChars_subset piece hComma)
  · rw [trim, String.toList_ofList, trimChars_trimChars]

/-- Items joined with commas are split into the same items. -/
theorem splitList_joinList {items : List String} (h : ∀ item ∈ items, IsItem item) :
    splitList (Config.joinList items) = items := by
  rcases eq_or_ne items [] with rfl | hSome
  · rfl
  · have hPieces : splitAt ',' (Config.joinList items).toList = items.map String.toList := by
      rw [splitAt_eq_splitOn, Config.joinList, String.toList_intercalate]
      refine List.splitOn_intercalate ',' ?_ (by simpa using hSome)
      rw [List.forall_mem_map]
      exact fun item hItem => (h item hItem).no_comma
    have hTrimmed : (items.map String.toList).map trimChars = items.map String.toList := by
      rw [List.map_map]
      refine List.map_congr_left fun item hItem => ?_
      have hTrim := congrArg String.toList (h item hItem).trim_eq
      rwa [trim, String.toList_ofList] at hTrim
    have hKept : (items.map String.toList).filter (fun piece => !piece.isEmpty) =
        items.map String.toList := by
      rw [List.filter_eq_self, List.forall_mem_map]
      intro item hItem
      simpa using (h item hItem).nonempty
    rw [splitList, hPieces, hTrimmed, hKept, List.map_map]
    exact (List.map_congr_left fun item _ => String.ofList_toList).trans (List.map_id items)

/-- The pieces on either side of a comma are split by themselves. -/
theorem splitList_append_comma (a b : String) :
    splitList (a ++ "," ++ b) = splitList a ++ splitList b := by
  have hChars : (a ++ "," ++ b).toList = a.toList ++ ',' :: b.toList := by
    rw [String.toList_append, String.toList_append, List.append_assoc]
    rfl
  simp only [splitList, hChars, splitAt_eq_splitOn, List.splitOn_append_cons_self, List.map_append,
    List.filter_append]

/-- A list comes back from its text if and only if it holds items only. -/
theorem splitList_joinList_eq_iff {items : List String} :
    splitList (Config.joinList items) = items ↔ ∀ item ∈ items, IsItem item := by
  refine ⟨fun h item hItem => ?_, splitList_joinList⟩
  rw [← h] at hItem
  exact isItem_of_mem_splitList hItem

/-- Splitting undoes joining. Whatever is split gives items; the two sides of a comma do not affect
each other; and a list comes back from being joined if and only if it is one of items, as those are
that splitting gives. -/
theorem splitList_inverts_joinList :
    (∀ text, ∀ item ∈ splitList text, item ≠ "" ∧ ',' ∉ item.toList ∧ Tight item) ∧
    (∀ a b, splitList (a ++ "," ++ b) = splitList a ++ splitList b) ∧
    (∀ items, splitList (Config.joinList items) = items ↔
      ∀ item ∈ items, item ≠ "" ∧ ',' ∉ item.toList ∧ trim item = item) ∧
    ∀ text, splitList (Config.joinList (splitList text)) = splitList text := by
  refine ⟨fun text item hItem => ?_, splitList_append_comma, fun items => ?_, fun text => ?_⟩
  · have h := isItem_of_mem_splitList hItem
    exact ⟨h.nonempty, h.no_comma, trim_eq_self_iff.mp h.trim_eq⟩
  · rw [splitList_joinList_eq_iff]
    exact forall₂_congr fun item _ =>
      ⟨fun h => ⟨h.nonempty, h.no_comma, h.trim_eq⟩, fun h => ⟨h.1, h.2.1, h.2.2⟩⟩
  · exact splitList_joinList fun item hItem => isItem_of_mem_splitList hItem

end KubeInventory.Text
