import KubeInventory.Dict
import KubeInventory.Proofs.Keys

/-! Dictionaries through their look-ups. Two dictionaries with the same look-ups are equal, so most
facts about what an operation leaves behind are read off one key at a time. The entries themselves
are described only up to their order, which the keys determine. -/

namespace KubeInventory.Dict

variable {κ α β : Type} [Ord κ]

/-- What a look-up finds stands among the entries under that very key. -/
theorem mem_of_lookup {key : κ} {value : α} [Std.LawfulEqOrd κ] {entries : List (κ × α)}
    (h : lookup key entries = some value) : (key, value) ∈ entries := by
  induction entries with
  | nil => cases h
  | cons head rest ih =>
      obtain ⟨k, v⟩ := head
      rw [lookup] at h
      split at h
      · rename_i hEq
        obtain rfl := Std.LawfulEqOrd.eq_of_compare hEq
        cases h
        exact List.mem_cons_self
      · exact List.mem_cons_of_mem _ (ih h)

/-- Values may be replaced before a look-up or after it, also by what depends on the key. -/
theorem lookup_map (f : κ → α → β) (key : κ) [Std.LawfulEqOrd κ] (entries : List (κ × α)) :
    lookup key (entries.map fun e => (e.1, f e.1 e.2)) = (lookup key entries).map (f key) := by
  induction entries with
  | nil => rfl
  | cons head rest ih =>
      obtain ⟨k, v⟩ := head
      simp only [List.map_cons, lookup, ih]
      split
      · rename_i hEq
        obtain rfl := Std.LawfulEqOrd.eq_of_compare hEq
        rfl
      · rfl

@[simp] theorem entries_empty : (∅ : Dict κ α).entries = [] := rfl

theorem eq_empty_of_isEmpty {d : Dict κ α} (h : d.isEmpty = true) : d = ∅ :=
  ext (List.isEmpty_iff.mp h)

@[simp] theorem get?_empty (key : κ) : (∅ : Dict κ α).get? key = none := rfl

variable [Std.TransOrd κ] [Std.LawfulEqOrd κ]

/-- In sorted entries each is found under its key. All entries before it have smaller keys, so the
look-up passes them. -/
theorem lookup_of_mem {key : κ} {value : α} {entries : List (κ × α)}
    (hSorted : entries.Pairwise fun a b => compare a.1 b.1 = .lt) (h : (key, value) ∈ entries) :
    lookup key entries = some value := by
  induction entries with
  | nil => cases h
  | cons head rest ih =>
      obtain ⟨k, v⟩ := head
      rw [lookup]
      rcases List.mem_cons.mp h with hHead | hRest
      · cases hHead
        rw [if_pos Std.ReflOrd.compare_self]
      · have hLt : compare k key = .lt := List.rel_of_pairwise_cons hSorted hRest
        have hGt : compare key k = .gt := Std.OrientedCmp.gt_of_lt hLt
        rw [hGt, if_neg (by decide)]
        exact ih hSorted.of_cons hRest

/-- Look-ups tell the same as entries, so that what is proved of one holds of the other. -/
theorem mem_entries_iff {d : Dict κ α} {key : κ} {value : α} :
    (key, value) ∈ d.entries ↔ d.get? key = some value :=
  ⟨lookup_of_mem d.sorted, mem_of_lookup⟩

theorem isEmpty_iff {d : Dict κ α} : d.isEmpty = true ↔ ∀ key, d.get? key = none := by
  rw [isEmpty, List.isEmpty_iff, List.eq_nil_iff_forall_not_mem]
  refine ⟨fun h key => Option.eq_none_iff_forall_ne_some.mpr fun value hGet => ?_, fun h e he => ?_⟩
  · exact h _ (mem_entries_iff.mpr hGet)
  · have hGet := mem_entries_iff.mp he
    rw [h] at hGet
    cases hGet

theorem mem_keys_iff {d : Dict κ α} {key : κ} : key ∈ d.keys ↔ (d.get? key).isSome = true := by
  rw [keys, List.mem_map, Option.isSome_iff_exists]
  constructor
  · rintro ⟨⟨k, value⟩, hEntry, rfl⟩
    exact ⟨value, mem_entries_iff.mp hEntry⟩
  · rintro ⟨value, hGet⟩
    exact ⟨(key, value), mem_entries_iff.mpr hGet, rfl⟩

omit [Std.TransOrd κ] in
/-- A key stands once, for it is less than all keys behind it. -/
theorem keys_nodup (d : Dict κ α) : (d.entries.map Prod.fst).Nodup := by
  refine List.pairwise_map.mpr (d.sorted.imp fun {x y} hLt hEq => ?_)
  rw [hEq, Std.ReflOrd.compare_self] at hLt
  cases hLt

omit [Std.TransOrd κ] in
theorem entries_nodup (d : Dict κ α) : d.entries.Nodup := d.keys_nodup.of_map

omit [Std.LawfulEqOrd κ] in
/-- The same entries are in the same order, because both sides stand in the one order of their keys.
-/
theorem ext_perm {a b : Dict κ α} (h : a.entries.Perm b.entries) : a = b := by
  apply ext
  refine h.eq_of_pairwise (fun x y _ _ hxy hyx => ?_) a.sorted b.sorted
  have hGt : compare x.1 y.1 = .gt := Std.OrientedCmp.gt_of_lt hyx
  rw [hxy] at hGt
  cases hGt

/-- Equal look-ups force equal entries. -/
theorem ext_get? {a b : Dict κ α} (h : ∀ key, a.get? key = b.get? key) : a = b := by
  apply ext_perm
  rw [List.perm_ext_iff_of_nodup a.entries_nodup b.entries_nodup]
  rintro ⟨key, value⟩
  rw [mem_entries_iff, mem_entries_iff, h]

section Updates

variable [DecidableEq κ]

omit [Std.TransOrd κ] in
/-- What is placed is found under its key, and under each other key what was found there before. The
cases are those of the comparison with the first entry, and only in the last one does the search for
the place go on. -/
theorem lookup_place (key other : κ) (value : α) (entries : List (κ × α)) :
    lookup other (place key value entries) =
      if other = key then some value else lookup other entries := by
  induction entries with
  | nil =>
      simp only [place, lookup, Std.LawfulEqOrd.compare_eq_iff_eq]
  | cons head rest ih =>
      obtain ⟨k, v⟩ := head
      cases hOrder : compare key k with
      | lt => simp only [place, hOrder, lookup, Std.LawfulEqOrd.compare_eq_iff_eq]
      | eq =>
          obtain rfl := Std.LawfulEqOrd.eq_of_compare hOrder
          simp only [place, hOrder, lookup, Std.LawfulEqOrd.compare_eq_iff_eq]
          split <;> rfl
      | gt =>
          have hNe : k ≠ key := by
            rintro rfl
            rw [Std.ReflOrd.compare_self] at hOrder
            cases hOrder
          simp only [place, hOrder, lookup, ih, Std.LawfulEqOrd.compare_eq_iff_eq]
          by_cases hOther : other = k
          · rw [if_pos hOther, if_neg (hOther ▸ hNe), if_pos hOther]
          · rw [if_neg hOther, if_neg hOther]

/-- An insertion shows under one key. -/
theorem get?_insert (d : Dict κ α) (key other : κ) (value : α) :
    (d.insert key value).get? other = if other = key then some value else d.get? other :=
  lookup_place key other value d.entries

theorem insert_insert (d : Dict κ α) (key : κ) (value value' : α) :
    (d.insert key value).insert key value' = d.insert key value' := by
  refine ext_get? fun other => ?_
  simp only [get?_insert]
  split <;> rfl

/-- A value that is put in only where there is none gives way to the one that is held. -/
theorem get?_insertNew (d : Dict κ α) (key other : κ) (value : α) :
    (d.insertNew key value).get? other =
      (d.get? other).or (if other = key then some value else none) := by
  rw [insertNew, contains]
  cases hHeld : d.get? key with
  | some held =>
      rw [Option.isSome_some, if_pos rfl]
      by_cases hOther : other = key
      · rw [hOther, hHeld, Option.some_or]
      · rw [if_neg hOther, Option.or_none]
  | none =>
      rw [Option.isSome_none, if_neg Bool.false_ne_true, get?_insert]
      by_cases hOther : other = key
      · rw [if_pos hOther, if_pos hOther, hOther, hHeld, Option.none_or]
      · rw [if_neg hOther, if_neg hOther, Option.or_none]

omit [Std.TransOrd κ] [Std.LawfulEqOrd κ] [DecidableEq κ] in
theorem entries_erase_subset (d : Dict κ α) (key : κ) : (d.erase key).entries ⊆ d.entries :=
  List.filter_sublist.subset

/-- The entry that is put in stands there, and so do all others but the one of its key. -/
theorem mem_entries_insert {d : Dict κ α} {key : κ} {value : α} {e : κ × α} :
    e ∈ (d.insert key value).entries ↔ e = (key, value) ∨ e.1 ≠ key ∧ e ∈ d.entries := by
  obtain ⟨k, v⟩ := e
  rw [mem_entries_iff, mem_entries_iff, get?_insert]
  by_cases hKey : k = key
  · simp [hKey, eq_comm]
  · simp [hKey]

/-- Up to order an insertion adds one entry, and takes away the one that had its key. -/
theorem entries_insert_perm (d : Dict κ α) (key : κ) (value : α) :
    (d.insert key value).entries.Perm ((key, value) :: d.entries.filter fun e => e.1 ≠ key) := by
  have hFresh : (key, value) ∉ d.entries.filter fun e => e.1 ≠ key := by simp
  rw [List.perm_ext_iff_of_nodup (entries_nodup _)
    (List.nodup_cons.mpr ⟨hFresh, d.entries_nodup.filter _⟩)]
  intro e
  rw [mem_entries_insert, List.mem_cons, List.mem_filter, decide_eq_true_iff, and_comm]

/-- Entries of distinct keys that are put in one by one displace those that held their keys. -/
theorem entries_foldl_insert_perm {pairs : List (κ × α)} (hDistinct : (pairs.map Prod.fst).Nodup)
    (d : Dict κ α) :
    (pairs.foldl (fun d e => d.insert e.1 e.2) d).entries.Perm
      (d.entries.filter (fun e => e.1 ∉ pairs.map Prod.fst) ++ pairs) := by
  induction pairs generalizing d with
  | nil => simp
  | cons head rest ih =>
      obtain ⟨key, value⟩ := head
      obtain ⟨hFresh, hRest⟩ := List.nodup_cons.mp hDistinct
      refine (ih hRest (d.insert key value)).trans ?_
      have hInsert := (d.entries_insert_perm key value).filter
        fun e => decide (e.1 ∉ rest.map Prod.fst)
      rw [List.filter_cons_of_pos (by simpa using hFresh), List.filter_filter] at hInsert
      refine (hInsert.append_right rest).trans ?_
      rw [List.cons_append]
      refine (List.perm_middle.symm).trans (List.Perm.of_eq ?_)
      congr 1
      refine List.filter_congr fun e _ => ?_
      rw [Bool.eq_iff_iff]
      simp [and_comm]

/-- The order in which entries of distinct keys are put in leaves no trace. -/
theorem foldl_insert_eq_of_perm {xs ys : List (κ × α)} (hPerm : xs.Perm ys)
    (hDistinct : (xs.map Prod.fst).Nodup) (d : Dict κ α) :
    xs.foldl (fun d e => d.insert e.1 e.2) d = ys.foldl (fun d e => d.insert e.1 e.2) d := by
  have hKeys := hPerm.map Prod.fst
  have hXs := entries_foldl_insert_perm hDistinct d
  have hYs := entries_foldl_insert_perm (hKeys.nodup_iff.mp hDistinct) d
  have hKept : d.entries.filter (fun e => e.1 ∉ xs.map Prod.fst) =
      d.entries.filter fun e => e.1 ∉ ys.map Prod.fst := by
    simp only [hKeys.mem_iff]
  rw [hKept] at hXs
  -- Both sides have the entries that are kept and the same new ones; their order is that of keys.
  exact ext_perm (hXs.trans ((hPerm.append_left _).trans hYs.symm))

omit [DecidableEq κ] in
/-- The last pair is put in last. -/
theorem ofList_concat (pairs : List (κ × α)) (e : κ × α) :
    ofList (pairs ++ [e]) = (ofList pairs).insert e.1 e.2 := by
  rw [ofList, List.foldl_append]
  rfl

/-- Of several pairs of one key the last stays. -/
theorem get?_ofList_eq_some_iff {pairs : List (κ × α)} {key : κ} {value : α} :
    (ofList pairs).get? key = some value ↔ IsLast Prod.fst pairs (key, value) := by
  induction pairs using List.reverseRecOn with
  | nil => simp [ofList, IsLast]
  | append_singleton prior last ih =>
      obtain ⟨k, v⟩ := last
      rw [ofList_concat, get?_insert, isLast_concat_iff, ← ih]
      by_cases hKey : key = k
      · simp [hKey, eq_comm]
      · simp [hKey, Ne.symm hKey]

/-- Elements filed by name: found is the last of the name. -/
theorem get?_ofList_map_eq_some_iff {γ : Type} {xs : List γ} {name : γ → κ} {f : γ → α} {key : κ}
    {value : α} : (ofList (xs.map fun x => (name x, f x))).get? key = some value ↔
      ∃ x, IsLast name xs x ∧ name x = key ∧ f x = value := by
  have hMap : IsLast Prod.fst (xs.map fun x => (name x, f x)) (key, value) ↔
      ∃ x, (name x, f x) = (key, value) ∧ IsLast name xs x := isLast_map_iff fun _ => rfl
  rw [get?_ofList_eq_some_iff, hMap]
  simp only [Prod.mk.injEq, and_comm]

/-- Nothing is found under a key that no pair has. -/
theorem get?_ofList_eq_none_iff {pairs : List (κ × α)} {key : κ} :
    (ofList pairs).get? key = none ↔ ∀ e ∈ pairs, e.1 ≠ key := by
  induction pairs using List.reverseRecOn with
  | nil => simp [ofList]
  | append_singleton prior last ih =>
      rw [ofList_concat, get?_insert, List.forall_mem_append, ← ih]
      by_cases hKey : key = last.1
      · simp [hKey]
      · simp [hKey, Ne.symm hKey]

/-- Of several names that each may give a value of its own, those stay that do. -/
theorem get?_ofList_append_filterMap (pairs : List (κ × α)) (names : List κ) (f : κ → Option α)
    (key : κ) :
    (ofList (pairs ++ names.filterMap fun name => (f name).map (name, ·))).get? key =
      (if key ∈ names then f key else none).or ((ofList pairs).get? key) := by
  induction names using List.reverseRecOn with
  | nil => simp
  | append_singleton prior last ih =>
      rw [List.filterMap_append, ← List.append_assoc]
      cases hValue : f last with
      | none =>
          rw [List.filterMap_cons_none (by rw [hValue]; rfl), List.filterMap_nil, List.append_nil,
            ih]
          by_cases hKey : key = last <;> simp [hKey, hValue]
      | some value =>
          rw [List.filterMap_cons_some (by rw [hValue]; rfl), List.filterMap_nil, ofList_concat,
            get?_insert, ih]
          by_cases hKey : key = last <;> simp [hKey, hValue]

theorem mem_keys_ofList_iff {pairs : List (κ × α)} {key : κ} :
    key ∈ (ofList pairs).keys ↔ ∃ e ∈ pairs, e.1 = key := by
  rw [mem_keys_iff, Option.isSome_iff_ne_none, ne_eq, get?_ofList_eq_none_iff]
  push Not
  rfl

/-- Pairs of distinct keys make the same dictionary in any order. -/
theorem ofList_eq_of_perm {xs ys : List (κ × α)} (hPerm : xs.Perm ys)
    (hDistinct : (xs.map Prod.fst).Nodup) : ofList xs = ofList ys :=
  foldl_insert_eq_of_perm hPerm hDistinct ∅

end Updates

omit [Std.TransOrd κ] in
theorem get?_map (d : Dict κ α) (f : α → β) (key : κ) : (d.map f).get? key = (d.get? key).map f :=
  lookup_map (fun _ => f) key d.entries

omit [Std.LawfulEqOrd κ] in
/-- A key beyond all others is placed behind them. -/
theorem place_eq_append {key : κ} {value : α} {entries : List (κ × α)}
    (h : ∀ e ∈ entries, compare e.1 key = .lt) :
    place key value entries = entries ++ [(key, value)] := by
  induction entries with
  | nil => rfl
  | cons head rest ih =>
      have hGt : compare key head.1 = .gt := Std.OrientedCmp.gt_of_lt (h head List.mem_cons_self)
      rw [place, hGt, ih fun e he => h e (List.mem_cons_of_mem _ he)]
      rfl

/-- Entries that stand in key order already are not moved. -/
theorem entries_ofList_of_sorted {pairs : List (κ × α)}
    (hSorted : pairs.Pairwise fun a b => compare a.1 b.1 = .lt) :
    (ofList pairs).entries = pairs := by
  induction pairs using List.reverseRecOn with
  | nil => rfl
  | append_singleton prior last ih =>
      obtain ⟨hPrior, -, hLast⟩ := List.pairwise_append.mp hSorted
      rw [ofList, List.foldl_append]
      change place last.1 last.2 (ofList prior).entries = _
      rw [ih hPrior]
      exact place_eq_append fun e he => hLast e he last List.mem_cons_self

/-- Leaves out the values that are taken. -/
def without (d : Dict κ α) (taken : α → Bool) : Dict κ α :=
  ofList (d.entries.filter fun e => !taken e.2)

/-- Those that stay keep their places. -/
theorem entries_without (d : Dict κ α) (taken : α → Bool) :
    (d.without taken).entries = d.entries.filter fun e => !taken e.2 :=
  entries_ofList_of_sorted (sorted_filter _ d)

theorem values_without (d : Dict κ α) (taken : α → Bool) :
    (d.without taken).values = d.values.filter fun x => !taken x := by
  rw [values, entries_without, values, List.filter_map]
  rfl

theorem mem_values_without {d : Dict κ α} {taken : α → Bool} {x : α} :
    x ∈ (d.without taken).values ↔ x ∈ d.values ∧ taken x = false := by
  rw [values_without, List.mem_filter, Bool.not_eq_true']

/-- Nothing changes where nothing is taken. -/
theorem without_eq_self {d : Dict κ α} {taken : α → Bool} (h : ∀ x ∈ d.values, taken x = false) :
    d.without taken = d := by
  apply ext
  rw [entries_without, List.filter_eq_self]
  intro e he
  rw [h e.2 (List.mem_map_of_mem he)]
  rfl

theorem entries_without_subset (d : Dict κ α) (taken : α → Bool) :
    (d.without taken).entries ⊆ d.entries := by
  rw [entries_without]
  exact List.filter_sublist.subset

omit [Std.TransOrd κ] [Std.LawfulEqOrd κ] in
theorem sorted_mapWithKey (f : κ → α → β) (d : Dict κ α) :
    (d.entries.map fun e => (e.1, f e.1 e.2)).Pairwise fun a b => compare a.1 b.1 = .lt := by
  rw [List.pairwise_map]
  exact d.sorted

/-- Applies a function to every value and its key. -/
def mapWithKey (d : Dict κ α) (f : κ → α → β) : Dict κ β :=
  ⟨d.entries.map fun e => (e.1, f e.1 e.2), sorted_mapWithKey f d⟩

omit [Std.TransOrd κ] in
/-- Look-ups see the new values, each made for its own key. -/
theorem get?_mapWithKey (d : Dict κ α) (f : κ → α → β) (key : κ) :
    (d.mapWithKey f).get? key = (d.get? key).map (f key) :=
  lookup_map f key d.entries

end KubeInventory.Dict
