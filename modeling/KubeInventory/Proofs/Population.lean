import KubeInventory.Proofs.Listing
import KubeInventory.Proofs.Resolution

/-! The forest of a namespace, listed and resolved. Every listed object stands in it exactly once:
below the listed object that owns it, or at a root if none does. -/

namespace KubeInventory.Forest

variable {c : Cluster} {scope : String}

/-- Each listed object is placed once. Nothing has been adopted before, so nothing is displaced. -/
theorem lineages_populate (c : Cluster) (scope : String) :
    ((populate c scope).1.lineages : Multiset Lineage) =
      (inventory c scope : Multiset Item).map (list c scope).place := by
  have hAlone : ∀ lineage ∈ ((list c scope).lineages : Multiset Lineage),
      ¬lineage.DisplacedBy (list c scope).roots := by
    intro lineage hLineage
    rw [lineages_list, Multiset.mem_coe, List.mem_map] at hLineage
    obtain ⟨x, -, rfl⟩ := hLineage
    exact id
  rw [populate, lineages_resolve (wellFiled_list c scope), Multiset.filter_eq_self.mpr hAlone,
    lineages_list, ← Multiset.map_coe, Multiset.map_map,
    Multiset.coe_eq_coe.mpr (roots_list_perm c scope)]
  rfl

theorem mem_lineages_populate {lineage : Lineage} :
    lineage ∈ (populate c scope).1.lineages ↔
      ∃ x ∈ inventory c scope, (list c scope).place x = lineage := by
  rw [← Multiset.mem_coe, lineages_populate, Multiset.mem_map]
  rfl

/-- The owner of a listed object is looked for among all that was listed. -/
theorem parent?_list_iff {x p : Item} :
    (list c scope).parent? x = some p ↔ p ∈ inventory c scope ∧ x.OwnedBy p := by
  rw [parent?_eq_some_iff (wellFiled_list c scope), (roots_list_perm c scope).mem_iff]

theorem parent?_list_eq_none_iff {x : Item} :
    (list c scope).parent? x = none ↔ ∀ p ∈ inventory c scope, ¬x.OwnedBy p := by
  simp only [parent?_eq_none_iff, (roots_list_perm c scope).mem_iff]

/-- So none of them is lost or doubled. -/
theorem objects_populate_perm (c : Cluster) (scope : String) :
    (populate c scope).1.objects.Perm (inventory c scope) := by
  rw [← Multiset.coe_eq_coe, objects, ← Multiset.map_coe, lineages_populate, Multiset.map_map]
  simp only [Function.comp_def, object_place, Multiset.map_id']

theorem root_mem_lineages_populate_iff {x : Item} :
    ⟨[], x⟩ ∈ (populate c scope).1.lineages ↔
      x ∈ inventory c scope ∧ ∀ p ∈ inventory c scope, ¬x.OwnedBy p := by
  rw [root_lineage_mem_iff, populate, mem_roots_resolve (wellFiled_list c scope),
    (roots_list_perm c scope).mem_iff, parent?_list_eq_none_iff]

/-- What stands directly below an object, which takes with it what stands below itself. -/
theorem below_mem_lineages_populate_iff {above : List Item} {p x : Item} :
    ⟨above ++ [p], x⟩ ∈ (populate c scope).1.lineages ↔
      ⟨above, p⟩ ∈ (populate c scope).1.lineages ∧ x ∈ inventory c scope ∧ x.OwnedBy p := by
  simp only [mem_lineages_populate]
  constructor
  · rintro ⟨y, hListed, hPlace⟩
    obtain rfl : y = x := by rw [← object_place (f := list c scope) y, hPlace]
    cases hParent : (list c scope).parent? y with
    | none =>
        rw [place_of_none hParent] at hPlace
        exact absurd (congrArg Lineage.ancestors hPlace).symm (by simp)
    | some q =>
        rw [place_of_some hParent] at hPlace
        obtain ⟨hAbove, hLast⟩ := List.append_inj' (congrArg Lineage.ancestors hPlace) rfl
        obtain rfl : q = p := by simpa using hLast
        obtain ⟨hOwner, hOwned⟩ := parent?_list_iff.mp hParent
        refine ⟨⟨q, hOwner, ?_⟩, hListed, hOwned⟩
        rw [← hAbove]
        exact place_eq_mk q
  · rintro ⟨⟨y, hOwner, hPlace⟩, hListed, hOwned⟩
    obtain rfl : y = p := by rw [← object_place (f := list c scope) y, hPlace]
    refine ⟨x, hListed, ?_⟩
    rw [place_of_some (parent?_list_iff.mpr ⟨hOwner, hOwned⟩), hPlace]

/-- The kinds that no kind holds. -/
theorem root_of_unheld {x : Item} (hListed : x ∈ inventory c scope)
    (hUnheld : ∀ k : Kind, k.held? ≠ some x.kind) : ⟨[], x⟩ ∈ (populate c scope).1.lineages := by
  rw [root_mem_lineages_populate_iff]
  exact ⟨hListed, fun p _ hOwned => hUnheld p.kind hOwned.1⟩

theorem mem_inventory_of_mem_listed {kind : Kind} (hWorkload : kind ∈ Kind.workloads) {x : Item}
    (h : x ∈ listed c scope kind) : x ∈ inventory c scope :=
  List.mem_flatMap.mpr ⟨kind, hWorkload, h⟩

/-- Of two listed objects one stands below the other if and only if that owns it. -/
theorem sitsUnder_populate_iff {x p : Item} (hx : x ∈ inventory c scope)
    (hp : p ∈ inventory c scope) : (populate c scope).1.SitsUnder x p ↔ x.OwnedBy p := by
  constructor
  · rintro ⟨above, hBelow⟩
    exact (below_mem_lineages_populate_iff.mp hBelow).2.2
  · intro hOwned
    have hObject : p ∈ (populate c scope).1.objects :=
      (objects_populate_perm c scope).mem_iff.mpr hp
    obtain ⟨⟨above, object⟩, hLineage, rfl⟩ := List.mem_map.mp hObject
    exact ⟨above, below_mem_lineages_populate_iff.mpr ⟨hLineage, hx, hOwned⟩⟩

/-- The forest of a namespace holds the first object of each name of every listing that did not
fail, each of them once and nothing else. An object stands below the listed object that is its
controller, if that is of a kind that can hold it, and takes along what stands below itself. All
others stand at roots. -/
theorem populate_places_each_listed_object (c : Cluster) (scope : String) :
    (populate c scope).1.objects.Perm (inventory c scope) ∧ (inventory c scope).Nodup ∧
      (∀ x ∈ inventory c scope, ∀ p ∈ inventory c scope,
        (populate c scope).1.SitsUnder x p ↔ x.OwnedBy p) ∧
      (∀ above p x, ⟨above ++ [p], x⟩ ∈ (populate c scope).1.lineages ↔
        ⟨above, p⟩ ∈ (populate c scope).1.lineages ∧ x ∈ inventory c scope ∧ x.OwnedBy p) ∧
      (∀ x, ⟨[], x⟩ ∈ (populate c scope).1.lineages ↔
        x ∈ inventory c scope ∧ ∀ p ∈ inventory c scope, ¬x.OwnedBy p) ∧
      ∀ kind ∈ [Kind.deployment, .cronJob, .replicationController, .statefulSet, .daemonSet],
        ∀ x ∈ listed c scope kind, ⟨[], x⟩ ∈ (populate c scope).1.lineages := by
  refine ⟨objects_populate_perm c scope, inventory_nodup c scope,
    fun x hx p hp => sitsUnder_populate_iff hx hp,
    fun _ _ _ => below_mem_lineages_populate_iff, fun _ => root_mem_lineages_populate_iff, ?_⟩
  intro kind hKind x hListed
  simp only [List.mem_cons, List.not_mem_nil, or_false] at hKind
  refine root_of_unheld (mem_inventory_of_mem_listed ?_ hListed) fun k => ?_
  · rcases hKind with rfl | rfl | rfl | rfl | rfl <;> decide
  · rw [kind_of_mem_listed hListed]
    rcases hKind with rfl | rfl | rfl | rfl | rfl <;> cases k <;> decide

open Shop in
/-- A cluster with a deployment and a pod, in which the listing of replica sets comes out as told.
-/
def Shop.cluster (replicaSets : Listing (Resource .replicaSet)) : Cluster where
  list
    | .deployment, _ => .ok [site]
    | .replicaSet, _ => replicaSets
    | .pod, _ => .ok [pod]
    | _, _ => .ok []
  podsLabelled _ _ _ := .ok []

open Shop in
/-- The pod stands below the replica set that is its controller, and with it below the deployment.
Below a replica set that only has the name of its controller it does not stand. -/
theorem populate_places_each_listed_object_shop :
    (populate (cluster (.ok [web])) "shop").1.SitsUnder (.mk .pod pod) (.mk .replicaSet web) ∧
      ⟨[.mk .deployment site, .mk .replicaSet web], .mk .pod pod⟩ ∈
        (populate (cluster (.ok [web])) "shop").1.lineages ∧
      (populate (cluster (.ok [successor])) "shop").1.SitsUnder (.mk .replicaSet successor)
        (.mk .deployment site) ∧
      ⟨[], .mk .pod pod⟩ ∈ (populate (cluster (.ok [successor])) "shop").1.lineages := by
  have hWeb : inventory (cluster (.ok [web])) "shop" =
      [.mk .deployment site, .mk .replicaSet web, .mk .pod pod] := rfl
  have hSuccessor : inventory (cluster (.ok [successor])) "shop" =
      [.mk .deployment site, .mk .replicaSet successor, .mk .pod pod] := rfl
  obtain ⟨-, -, hSits, hBelow, -, hRoots⟩ :=
    populate_places_each_listed_object (cluster (.ok [web])) "shop"
  obtain ⟨-, -, hSitsAgain, -, hRoot, -⟩ :=
    populate_places_each_listed_object (cluster (.ok [successor])) "shop"
  rw [hWeb] at hSits hBelow
  rw [hSuccessor] at hSitsAgain hRoot
  have hSite : ⟨[], .mk .deployment site⟩ ∈ (populate (cluster (.ok [web])) "shop").1.lineages :=
    hRoots .deployment (by simp) _ (List.mem_singleton.mpr rfl)
  have hSet := (hBelow [] (.mk .deployment site) (.mk .replicaSet web)).mpr
    ⟨hSite, by simp, by decide⟩
  refine ⟨(hSits _ (by simp) _ (by simp)).mpr (by decide), ?_,
    (hSitsAgain _ (by simp) _ (by simp)).mpr (by decide), (hRoot _).mpr ⟨by simp, ?_⟩⟩
  · exact (hBelow [.mk .deployment site] _ _).mpr ⟨hSet, by simp, by decide⟩
  · decide

end KubeInventory.Forest
