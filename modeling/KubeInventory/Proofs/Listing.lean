import KubeInventory.Namespace
import KubeInventory.Proofs.Filing

/-! What the listings of a namespace put into a forest before ownership is resolved. A listing that
failed contributes nothing, and of several objects of one name only the first is filed. -/

namespace KubeInventory

open HasMetadata (ownName)
open PolicedNamespace (objectsOf)

/-- The first object of each name, in the order in which they are listed. -/
def firstOfEachName {α : Type} [HasMetadata α] : List α → List α
  | [] => []
  | x :: rest => x :: (firstOfEachName rest).filter fun y => ownName y ≠ ownName x

section FirstOfEachName

variable {α : Type} [HasMetadata α]

/-- Kept are those that are found by their own names. -/
theorem mem_firstOfEachName_iff {xs : List α} {x : α} :
    x ∈ firstOfEachName xs ↔ xs.find? (fun y => ownName y == ownName x) = some x := by
  induction xs with
  | nil => simp [firstOfEachName]
  | cons head rest ih =>
      rw [firstOfEachName, List.mem_cons, List.mem_filter, List.find?_cons, ih]
      by_cases hName : ownName head = ownName x
      · simp [hName, eq_comm]
      · have hNe : x ≠ head := fun hEq => hName (hEq ▸ rfl)
        have hBeq : (ownName head == ownName x) = false := beq_false_of_ne hName
        rw [hBeq]
        simp [hNe, Ne.symm hName]

theorem names_firstOfEachName_nodup (xs : List α) :
    ((firstOfEachName xs).map ownName).Nodup := by
  induction xs with
  | nil => exact List.nodup_nil
  | cons head rest ih =>
      rw [firstOfEachName, List.map_cons, List.nodup_cons]
      refine ⟨?_, ih.sublist (List.filter_sublist.map _)⟩
      intro hMem
      obtain ⟨y, hy, hName⟩ := List.mem_map.mp hMem
      exact of_decide_eq_true (List.mem_filter.mp hy).2 hName

/-- Objects that keep their names under a map are the first of them before as after. -/
theorem firstOfEachName_map {β : Type} [HasMetadata β] {g : α → β}
    (hName : ∀ x, ownName (g x) = ownName x) (xs : List α) :
    firstOfEachName (xs.map g) = (firstOfEachName xs).map g := by
  induction xs with
  | nil => rfl
  | cons head rest ih =>
      rw [List.map_cons, firstOfEachName, ih, firstOfEachName, List.map_cons, List.filter_map]
      simp only [Function.comp_def, hName]

end FirstOfEachName

namespace Forest

section Index

variable {α : Type} [HasMetadata α]

/-- Objects are filed by name, and of those that share one the first is found. -/
theorem get?_index (xs : List α) (name : String) :
    (index xs).get? name = xs.find? fun x => ownName x == name := by
  induction xs using List.reverseRecOn with
  | nil => rfl
  | append_singleton prior last ih =>
      rw [index, List.foldl_append]
      change ((index prior).insertNew (ownName last) last).get? name = _
      rw [Dict.get?_insertNew, ih, List.find?_append]
      congr 1
      by_cases hName : name = ownName last
      · simp [hName]
      · simp [hName, Ne.symm hName]

/-- What is filed is the first object of each name, in another order. -/
theorem values_index_perm [Nested α] {xs : List α} (hFiled : (index xs).WellFiled) :
    (index xs).values.Perm (firstOfEachName xs) := by
  rw [List.perm_ext_iff_of_nodup hFiled.names_nodup.of_map (names_firstOfEachName_nodup xs).of_map]
  intro x
  rw [mem_firstOfEachName_iff, ← get?_index, ← Dict.mem_entries_iff, Dict.values, List.mem_map]
  constructor
  · rintro ⟨⟨name, value⟩, hEntry, rfl⟩
    rwa [← (hFiled _ hEntry).1]
  · intro hEntry
    exact ⟨_, hEntry, rfl⟩

theorem mem_of_mem_entries_index {xs : List α} {e : String × α} (h : e ∈ (index xs).entries) :
    e.2 ∈ xs := by
  have hGet : (index xs).get? e.1 = some e.2 := Dict.mem_entries_iff.mp h
  rw [get?_index] at hGet
  exact List.mem_of_find?_eq_some hGet

end Index

section Owners

variable {k : Kind} {β : Type} [HasMetadata β] [Nested β] {objects : List (Resource k)}

theorem items_index_owners_perm
    (hFiled : (index (owners objects) : Dict String (Held k β)).WellFiled) :
    (index (owners objects) : Dict String (Held k β)).items.Perm
      ((firstOfEachName objects).map (Item.mk k)) := by
  have hFirst := firstOfEachName_map (g := (Held.ofResource : Resource k → Held k β))
    (fun _ => rfl) objects
  have hItems := (values_index_perm hFiled).map Nested.item
  rw [owners, hFirst, List.map_map] at hItems
  exact hItems

/-- Objects that hold nothing are alone in their lineages. -/
theorem lineages_of_below_nil {d : Dict String β} (h : ∀ e ∈ d.entries, Nested.below e.2 = []) :
    d.lineages = d.items.map (Lineage.mk []) := by
  have hAlone : ∀ value ∈ d.values,
      Nested.lineages value = [Lineage.mk [] (Nested.item value)] := by
    intro value hValue
    obtain ⟨e, he, rfl⟩ := List.mem_map.mp hValue
    rw [Nested.lineages, h e he, List.map_nil]
  rw [Dict.lineages, List.flatMap_congr hAlone, Dict.items, List.map_map, List.map_eq_flatMap]
  rfl

theorem lineages_index_owners (objects : List (Resource k)) :
    (index (owners objects) : Dict String (Held k β)).lineages =
      (index (owners objects) : Dict String (Held k β)).items.map (Lineage.mk []) := by
  refine lineages_of_below_nil fun e he => ?_
  obtain ⟨object, -, hObject⟩ := List.mem_map.mp (mem_of_mem_entries_index he)
  rw [← hObject]
  rfl

end Owners

theorem extend_empty {β : Type} (d : Dict String β) : extend ∅ d = d :=
  Dict.ext (Dict.entries_ofList_of_sorted d.sorted)

/-- The errors once the outcome of a listing is noted. -/
def noted {α : Type} (listing : Listing α) (errors : Dict Kind String) : Dict Kind String :=
  match listing with
  | .ok _ => errors
  | .error e => errors.insert e.kind e.message

/-- To add a listing is to load what it has and to note its error if it failed. -/
theorem addListing_eq (f : Forest) (kind : Kind) (listing : Listing (Resource kind)) :
    f.addListing kind listing =
      { f.load kind (objectsOf listing) with errors := noted listing f.errors } := by
  cases listing with
  | ok objects => cases kind <;> rfl
  | error e => cases kind <;> rfl

/-- The forest of eight listings, each filed by name. -/
theorem list_eq (c : Cluster) (scope : String) :
    list c scope =
      { scope := scope
        deployments := index (owners (objectsOf (c.list .deployment scope)))
        replicaSets := index (owners (objectsOf (c.list .replicaSet scope)))
        replicationControllers := index (owners (objectsOf (c.list .replicationController scope)))
        statefulSets := index (owners (objectsOf (c.list .statefulSet scope)))
        daemonSets := index (owners (objectsOf (c.list .daemonSet scope)))
        cronJobs := index (owners (objectsOf (c.list .cronJob scope)))
        jobs := index (owners (objectsOf (c.list .job scope)))
        pods := index (objectsOf (c.list .pod scope))
        errors :=
          Kind.workloads.foldl (fun errors kind => noted (c.list kind scope) errors) ∅ } := by
  simp only [list, Kind.workloads, List.foldl_cons, List.foldl_nil, addListing_eq, load, new,
    extend_empty]

/-- The objects that the listing of a kind contributes; none if it failed. -/
def listed (c : Cluster) (scope : String) (kind : Kind) : List Item :=
  (firstOfEachName (objectsOf (c.list kind scope))).map (Item.mk kind)

/-- All that the listings of a namespace's workloads contribute. -/
def inventory (c : Cluster) (scope : String) : List Item :=
  Kind.workloads.flatMap (listed c scope)

variable {c : Cluster} {scope : String}

theorem kind_of_mem_listed {kind : Kind} {x : Item} (h : x ∈ listed c scope kind) :
    x.kind = kind := by
  obtain ⟨object, -, rfl⟩ := List.mem_map.mp h
  rfl

theorem listed_nodup (c : Cluster) (scope : String) (kind : Kind) :
    (listed c scope kind).Nodup := by
  have hNames : ((listed c scope kind).map Item.name).Nodup := by
    rw [listed, List.map_map]
    exact names_firstOfEachName_nodup _
  exact hNames.of_map

/-- No object is listed twice: kinds tell apart those of different listings, names those of one. -/
theorem inventory_nodup (c : Cluster) (scope : String) : (inventory c scope).Nodup := by
  rw [inventory, List.nodup_flatMap]
  refine ⟨fun kind _ => listed_nodup c scope kind, ?_⟩
  have hKinds : Kind.workloads.Nodup := by decide
  refine hKinds.imp fun {a b} hNe x hx hy => hNe ?_
  rw [← kind_of_mem_listed hx, kind_of_mem_listed hy]

/-- A forest that was only listed is filed by name. -/
theorem wellFiled_list (c : Cluster) (scope : String) : (list c scope).WellFiled := by
  rw [list_eq]
  constructor
  case pods => exact wellFiled_index fun _ _ => trivial
  all_goals exact wellFiled_index (wellFiled_owners _)

theorem rootsOf_list_perm {kind : Kind} (hWorkload : kind ∈ Kind.workloads) :
    ((list c scope).rootsOf kind).Perm (listed c scope kind) := by
  have hFiled := wellFiled_list c scope
  rw [list_eq] at hFiled ⊢
  cases kind
  case deployment => exact items_index_owners_perm hFiled.deployments
  case replicaSet => exact items_index_owners_perm hFiled.replicaSets
  case replicationController => exact items_index_owners_perm hFiled.replicationControllers
  case statefulSet => exact items_index_owners_perm hFiled.statefulSets
  case daemonSet => exact items_index_owners_perm hFiled.daemonSets
  case cronJob => exact items_index_owners_perm hFiled.cronJobs
  case job => exact items_index_owners_perm hFiled.jobs
  case pod => exact (values_index_perm hFiled.pods).map Nested.item
  all_goals exact absurd hWorkload (by decide)

/-- The roots before resolution are what the listings contribute. -/
theorem roots_list_perm (c : Cluster) (scope : String) :
    (list c scope).roots.Perm (inventory c scope) := by
  rw [roots_eq_flatMap, inventory]
  exact List.Perm.flatMap_left _ fun kind hKind => rootsOf_list_perm hKind

/-- Nothing stands below anything before ownership is resolved. -/
theorem lineages_list (c : Cluster) (scope : String) :
    (list c scope).lineages = (list c scope).roots.map (Lineage.mk []) := by
  have hPods := lineages_of_below_nil (d := (list c scope).pods) fun _ _ => rfl
  rw [lineages, hPods, roots, list_eq]
  simp only [lineages_index_owners, List.map_append]

end Forest

end KubeInventory
