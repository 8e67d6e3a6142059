import KubeInventory.Forest.Workloads
import KubeInventory.Proofs.Pool
import KubeInventory.Proofs.Resolution
import KubeInventory.Proofs.Listing
import Mathlib.Data.String.Basic

/-! The workloads of many namespaces, whatever the order in which the namespaces are done. Each
namespace has the forest that it has alone, and the summary adds up what the namespaces have. -/

namespace KubeInventory

theorem Forest.scope_populate (c : Cluster) (scope : String) :
    (populate c scope).1.scope = scope := by
  have hScope : (populate c scope).1.scope = (list c scope).scope :=
    (resolve_frame (list c scope)).1
  rw [hScope, list_eq]

theorem Forest.list_congr {c d : Cluster} {scope : String}
    (h : ∀ kind ∈ Kind.workloads, ∀ f : Forest,
      f.addListing kind (c.list kind scope) = f.addListing kind (d.list kind scope)) :
    list c scope = list d scope :=
  List.foldl_ext _ _ _ fun f kind hKind => h kind hKind f

namespace Workloads

variable {c : Cluster}

/-- Of the namespaces of one name the last one counts, but all of them have the same forest. -/
theorem get?_collect (scopes : List String) (name : String) :
    (collect c scopes).1.get? name =
      if name ∈ scopes then some (Forest.populate c name).1 else none := by
  induction scopes using List.reverseRecOn with
  | nil => rfl
  | append_singleton prior last ih =>
      rw [collect, List.map_append, List.foldl_append]
      change (add (collect c prior) (Forest.populate c last)).1.get? name = _
      rw [add, Dict.get?_insert, ih, Forest.scope_populate]
      by_cases hLast : name = last
      · simp [hLast]
      · simp [hLast]

/-- One namespace after the other adds its summary. -/
theorem summary_collect (scopes : List String) :
    (collect c scopes).2 =
      ⟨(scopes.map fun scope => (Forest.populate c scope).2.adopted).sum,
        scopes.flatMap fun scope => (Forest.populate c scope).2.orphans⟩ := by
  induction scopes using List.reverseRecOn with
  | nil => rfl
  | append_singleton prior last ih =>
      rw [collect, List.map_append, List.foldl_append]
      change (add (collect c prior) (Forest.populate c last)).2 = _
      rw [add, ih, Summary.merge]
      simp

section Populate

variable (completion : Completion) (concurrency : Nat) (scopes : List String)

theorem get?_populate (name : String) :
    (populate completion concurrency c scopes).1.get? name =
      if name ∈ scopes then some (Forest.populate c name).1 else none := by
  rw [populate, get?_collect]
  simp only [(completion.order_perm (.ofWanted concurrency) scopes).mem_iff]

theorem adopted_populate :
    (populate completion concurrency c scopes).2.adopted =
      (scopes.map fun scope => (Forest.populate c scope).2.adopted).sum := by
  rw [populate, summary_collect]
  exact ((completion.order_perm (.ofWanted concurrency) scopes).map _).sum_eq

/-- The orphans come in the order in which the namespaces are done, each of them once. -/
theorem orphans_populate_perm :
    (populate completion concurrency c scopes).2.orphans.Perm
      (scopes.flatMap fun scope => (Forest.populate c scope).2.orphans) := by
  rw [populate, summary_collect]
  exact (completion.order_perm (.ofWanted concurrency) scopes).flatMap_right _

/-- The names of the namespaces, each once and in order. -/
theorem keys_populate :
    (populate completion concurrency c scopes).1.keys.Pairwise (· < ·) ∧
      ∀ name, name ∈ (populate completion concurrency c scopes).1.keys ↔ name ∈ scopes := by
  constructor
  · rw [Dict.keys, List.pairwise_map]
    refine (populate completion concurrency c scopes).1.sorted.imp fun hLt => ?_
    exact compare_lt_iff_lt.mp hLt
  · intro name
    rw [Dict.mem_keys_iff, get?_populate]
    split <;> simp_all

/-- The forests stand in order of the names of their namespaces. -/
theorem values_populate :
    (populate completion concurrency c scopes).1.values =
      (populate completion concurrency c scopes).1.keys.map
        fun name => (Forest.populate c name).1 := by
  rw [Dict.values, Dict.keys, List.map_map]
  refine List.map_congr_left fun e he => ?_
  have hGet := Dict.mem_entries_iff.mp he
  rw [get?_populate] at hGet
  split at hGet
  · exact (Option.some.inj hGet).symm
  · cases hGet

/-- However many namespaces are done at a time, and in whatever order, each name that is given has
the forest of its namespace and no other name has one. What was adopted is added up and the orphans
are put together over the names as they are given, so a name that is given twice counts twice. -/
theorem populate_aggregates (c : Cluster) :
    (populate completion concurrency c scopes).1.keys.Pairwise (· < ·) ∧
      (∀ name, name ∈ (populate completion concurrency c scopes).1.keys ↔ name ∈ scopes) ∧
      (∀ name, (populate completion concurrency c scopes).1.get? name =
        if name ∈ scopes then some (Forest.populate c name).1 else none) ∧
      (populate completion concurrency c scopes).2.adopted =
        (scopes.map fun scope => (Forest.populate c scope).2.adopted).sum ∧
      (populate completion concurrency c scopes).2.orphans.Perm
        (scopes.flatMap fun scope => (Forest.populate c scope).2.orphans) := by
  obtain ⟨hSorted, hKeys⟩ := keys_populate (c := c) completion concurrency scopes
  exact ⟨hSorted, hKeys, get?_populate completion concurrency scopes,
    adopted_populate completion concurrency scopes,
    orphans_populate_perm completion concurrency scopes⟩

end Populate

/-- Neither the order of the namespaces nor that in which they are done makes a difference, and the
number of places makes none. -/
theorem populate_of_perm {c d : Cluster} (hForests : Forest.populate c = Forest.populate d)
    {scopes scopes' : List String} (hPerm : scopes.Perm scopes')
    (completion completion' : Completion) (concurrency concurrency' : Nat) :
    (populate completion concurrency c scopes).1 = (populate completion' concurrency' d scopes').1 ∧
      (populate completion concurrency c scopes).2.adopted =
        (populate completion' concurrency' d scopes').2.adopted ∧
      (populate completion concurrency c scopes).2.orphans.Perm
        (populate completion' concurrency' d scopes').2.orphans := by
  refine ⟨Dict.ext_get? fun name => ?_, ?_, ?_⟩
  · rw [get?_populate, get?_populate, hForests]
    simp only [hPerm.mem_iff]
  · rw [adopted_populate, adopted_populate, hForests]
    exact (hPerm.map _).sum_eq
  · refine (orphans_populate_perm completion concurrency scopes).trans ?_
    refine List.Perm.trans ?_ (orphans_populate_perm completion' concurrency' scopes').symm
    rw [hForests]
    exact hPerm.flatMap_right _

end Workloads

end KubeInventory
