import Mathlib.Data.List.Induction
import Mathlib.Data.List.Nodup
import Mathlib.Data.List.Perm.Basic

/-! Lists whose elements are told apart by a key. The order in which such a list was given shows
neither in what is found by a key nor in the list sorted by keys, and what is found first in a
sorted list is found at the least key. Of the elements of one key, one is the first and one the
last. -/

namespace KubeInventory

variable {α κ : Type}

section Found

variable [BEq κ] [LawfulBEq κ] {key : α → κ} {k : κ}

/-- Where keys are distinct, found by a key is the one element that has it. -/
theorem find?_key_eq_some_iff {xs : List α} (hKeys : (xs.map key).Nodup) {x : α} :
    xs.find? (fun y => key y == k) = some x ↔ x ∈ xs ∧ key x = k := by
  constructor
  · intro hFound
    have hKey := List.find?_some hFound
    exact ⟨List.mem_of_find?_eq_some hFound, eq_of_beq hKey⟩
  · rintro ⟨hMem, rfl⟩
    cases hFound : xs.find? fun y => key y == key x with
    | none => exact absurd BEq.rfl (List.find?_eq_none.mp hFound x hMem)
    | some y =>
        have hKey := List.find?_some hFound
        have hOther := List.mem_of_find?_eq_some hFound
        exact congrArg some (List.inj_on_of_nodup_map hKeys hOther hMem (eq_of_beq hKey))

/-- So what is found does not depend on the order. -/
theorem find?_key_eq_of_perm {xs ys : List α} (hPerm : xs.Perm ys) (hKeys : (xs.map key).Nodup) :
    xs.find? (fun y => key y == k) = ys.find? fun y => key y == k := by
  ext x
  rw [find?_key_eq_some_iff hKeys, find?_key_eq_some_iff ((hPerm.map key).nodup_iff.mp hKeys),
    hPerm.mem_iff]

end Found

section FirstAndLast

variable {key : α → κ} {xs : List α} {x : α}

/-- An element that no earlier one of its key stands before. -/
def IsFirst (key : α → κ) (xs : List α) (x : α) : Prop :=
  ∃ before after, xs = before ++ x :: after ∧ ∀ earlier ∈ before, key earlier ≠ key x

/-- Where keys may repeat, found is the first element that has the key. -/
theorem find?_key_eq_some_iff_isFirst [BEq κ] [LawfulBEq κ] {k : κ} :
    xs.find? (fun y => key y == k) = some x ↔ IsFirst key xs x ∧ key x = k := by
  rw [List.find?_eq_some_iff_append, and_comm, beq_iff_eq]
  refine and_congr_left fun hKey => ?_
  simp [IsFirst, hKey]

/-- An element that no later one of its key follows. -/
def IsLast (key : α → κ) (xs : List α) (x : α) : Prop :=
  ∃ before after, xs = before ++ x :: after ∧ ∀ later ∈ after, key later ≠ key x

/-- One more element at the end takes the place of the last of its key, and of no other key. -/
theorem isLast_concat_iff {last : α} :
    IsLast key (xs ++ [last]) x ↔ x = last ∨ key last ≠ key x ∧ IsLast key xs x := by
  constructor
  · rintro ⟨before, after, hSplit, hAfter⟩
    rcases List.eq_nil_or_concat after with rfl | ⟨init, final, rfl⟩
    · exact .inl (List.append_inj_right' hSplit rfl |> List.singleton_inj.mp).symm
    · rw [List.concat_eq_append, ← List.cons_append, ← List.append_assoc] at hSplit
      obtain rfl : last = final := List.singleton_inj.mp (List.append_inj_right' hSplit rfl)
      refine .inr ⟨hAfter last (by simp), before, init, List.append_inj_left' hSplit rfl, ?_⟩
      exact fun later hLater => hAfter later (by simp [hLater])
  · rintro (rfl | ⟨hKey, before, after, rfl, hAfter⟩)
    · exact ⟨xs, [], rfl, fun _ h => absurd h List.not_mem_nil⟩
    · refine ⟨before, after ++ [last], by simp, fun later hLater => ?_⟩
      rcases List.mem_append.mp hLater with hEarlier | hFinal
      · exact hAfter later hEarlier
      · rwa [List.mem_singleton.mp hFinal]

theorem isLast_map_iff {β : Type} {f : α → β} {key' : β → κ} (hKey : ∀ y, key' (f y) = key y)
    {z : β} : IsLast key' (xs.map f) z ↔ ∃ y, f y = z ∧ IsLast key xs y := by
  constructor
  · rintro ⟨before, after, hSplit, hAfter⟩
    obtain ⟨init, rest, rfl, -, hRest⟩ := List.map_eq_append_iff.mp hSplit
    obtain ⟨y, final, rfl, rfl, rfl⟩ := List.map_eq_cons_iff.mp hRest
    refine ⟨y, rfl, init, final, rfl, fun later hLater => ?_⟩
    rw [← hKey, ← hKey]
    exact hAfter _ (List.mem_map_of_mem hLater)
  · rintro ⟨y, rfl, before, after, rfl, hAfter⟩
    refine ⟨before.map f, after.map f, by simp, fun later hLater => ?_⟩
    obtain ⟨w, hw, rfl⟩ := List.mem_map.mp hLater
    rw [hKey, hKey]
    exact hAfter w hw

/-- With distinct keys each element is the last of its own. -/
theorem isLast_iff_mem (hKeys : (xs.map key).Nodup) : IsLast key xs x ↔ x ∈ xs := by
  constructor
  · rintro ⟨before, after, rfl, -⟩
    exact List.mem_append_right _ List.mem_cons_self
  · intro hMem
    obtain ⟨before, after, rfl⟩ := List.append_of_mem hMem
    refine ⟨before, after, rfl, fun later hLater hSame => ?_⟩
    rw [List.map_append, List.map_cons] at hKeys
    have hFresh := (List.nodup_cons.mp hKeys.of_append_right).1
    exact hFresh (hSame ▸ List.mem_map_of_mem hLater)

end FirstAndLast

section Sorted

variable [Ord κ] [Std.TransOrd κ]

theorem isLE_total (key : α → κ) (a b : α) :
    ((compare (key a) (key b)).isLE || (compare (key b) (key a)).isLE) = true := by
  rw [Std.OrientedOrd.eq_swap (a := key b)]
  cases compare (key a) (key b) <;> rfl

theorem isLE_trans (key : α → κ) (a b c : α) (hab : (compare (key a) (key b)).isLE = true)
    (hbc : (compare (key b) (key c)).isLE = true) : (compare (key a) (key c)).isLE = true :=
  Std.TransOrd.isLE_trans hab hbc

/-- Lists sorted by keys are in the order of their keys. -/
theorem pairwise_mergeSort_key (key : α → κ) (xs : List α) :
    (xs.mergeSort fun a b => (compare (key a) (key b)).isLE).Pairwise fun a b =>
      (compare (key a) (key b)).isLE = true :=
  List.pairwise_mergeSort (isLE_trans key) (isLE_total key) xs

/-- Sorting leaves elements of one key in their order. -/
theorem filter_mergeSort_key [BEq κ] [LawfulBEq κ] (key : α → κ) (xs : List α) (k : κ) :
    (xs.mergeSort fun a b => (compare (key a) (key b)).isLE).filter (fun x => key x == k) =
      xs.filter fun x => key x == k := by
  have hPerm := List.mergeSort_perm xs fun a b => (compare (key a) (key b)).isLE
  have hSame : (xs.filter fun x => key x == k).Pairwise fun a b =>
      (compare (key a) (key b)).isLE = true := by
    refine List.pairwise_of_forall_mem_list fun a ha b hb => ?_
    have haKey := eq_of_beq (List.mem_filter.mp ha).2
    have hbKey := eq_of_beq (List.mem_filter.mp hb).2
    simp [haKey, hbKey, Std.ReflOrd.compare_self]
  have hKept := List.sublist_mergeSort (isLE_trans key) (isLE_total key) hSame List.filter_sublist
  have hFiltered := hKept.filter fun x => key x == k
  simp only [List.filter_filter, Bool.and_self] at hFiltered
  exact (hFiltered.eq_of_length (hPerm.filter _).length_eq.symm).symm

/-- With distinct keys the order before sorting leaves no trace. -/
theorem mergeSort_key_eq_of_perm [Std.LawfulEqOrd κ] {key : α → κ} {xs ys : List α}
    (hPerm : xs.Perm ys) (hKeys : (xs.map key).Nodup) :
    (xs.mergeSort fun a b => (compare (key a) (key b)).isLE) =
      ys.mergeSort fun a b => (compare (key a) (key b)).isLE := by
  have hXs := List.mergeSort_perm xs fun a b => (compare (key a) (key b)).isLE
  have hYs := List.mergeSort_perm ys fun a b => (compare (key a) (key b)).isLE
  refine List.Perm.eq_of_pairwise (fun a b ha hb hab hba => ?_) (pairwise_mergeSort_key key xs)
    (pairwise_mergeSort_key key ys) (hXs.trans (hPerm.trans hYs.symm))
  have hEq : key a = key b :=
    Std.LawfulEqOrd.eq_of_compare (Std.OrientedCmp.isLE_antisymm hab hba)
  exact List.inj_on_of_nodup_map hKeys (hXs.mem_iff.mp ha)
    (hPerm.mem_iff.mpr (hYs.mem_iff.mp hb)) hEq

/-- What is passed over in the search has no value, and what comes after is no less. -/
theorem exists_least_of_findSome? {xs : List κ} {f : κ → Option α} {y : α}
    (hSorted : xs.Pairwise fun a b => (compare a b).isLE = true) (h : xs.findSome? f = some y) :
    ∃ x ∈ xs, f x = some y ∧ ∀ other ∈ xs, f other ≠ none → (compare x other).isLE = true := by
  obtain ⟨before, x, after, rfl, hFound, hBefore⟩ := List.findSome?_eq_some_iff.mp h
  refine ⟨x, by simp, hFound, fun other hOther hSome => ?_⟩
  rcases List.mem_append.mp hOther with hEarlier | hLater
  · exact absurd (hBefore other hEarlier) hSome
  · rcases List.mem_cons.mp hLater with rfl | hAfter
    · simp
    · exact List.rel_of_pairwise_cons (List.pairwise_append.mp hSorted).2.1 hAfter

/-- In a sorted list, what is found first is found at the least of the elements that have it. -/
theorem findSome?_eq_some_iff_least [Std.LawfulEqOrd κ] {xs : List κ} {f : κ → Option α} {y : α}
    (hSorted : xs.Pairwise fun a b => (compare a b).isLE = true) :
    xs.findSome? f = some y ↔ ∃ x ∈ xs, f x = some y ∧
      ∀ other ∈ xs, f other ≠ none → (compare x other).isLE = true := by
  refine ⟨exists_least_of_findSome? hSorted, ?_⟩
  rintro ⟨x, hMem, hFound, hLeast⟩
  cases hFirst : xs.findSome? f with
  | none => simp [List.findSome?_eq_none_iff.mp hFirst x hMem] at hFound
  | some z =>
      obtain ⟨w, hw, hAt, hBelow⟩ := exists_least_of_findSome? hSorted hFirst
      have hwx := hBelow x hMem (by simp [hFound])
      have hxw := hLeast w hw (by simp [hAt])
      obtain rfl : w = x :=
        Std.LawfulEqOrd.eq_of_compare (Std.OrientedCmp.isLE_antisymm hwx hxw)
      exact hAt.symm.trans hFound

end Sorted

end KubeInventory
