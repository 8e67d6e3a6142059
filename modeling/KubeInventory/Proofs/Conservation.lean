import KubeInventory.Proofs.History

/-! What resolution keeps and what it loses. An object that moves below its owner takes the place of
one of its name that is there already, and that one is gone, with everything below it and without
any error. Nothing else is lost, and nothing is doubled. -/

namespace KubeInventory.Forest

variable {f : Forest}

/-- The lineages that resolution loses. Each leads from a root through a child to whose place a root
of the same name and the same owner moves. -/
def displaced (f : Forest) : Multiset Lineage :=
  (f.lineages : Multiset Lineage).filter fun lineage => lineage.DisplacedBy f.roots

theorem objects_resolve (h : f.WellFiled) :
    (f.objects : Multiset Item) = f.resolve.1.objects + f.displaced.map Lineage.object := by
  have hAfter : (f.resolve.1.objects : Multiset Item) =
      ((f.lineages : Multiset Lineage).filter fun lineage =>
        ¬lineage.DisplacedBy f.roots).map Lineage.object := by
    rw [objects, ← Multiset.map_coe, lineages_resolve h, Multiset.map_map]
    simp only [Function.comp_def, Lineage.object_lift]
  rw [hAfter, displaced, ← Multiset.map_add, add_comm, Multiset.filter_add_not, objects,
    Multiset.map_coe]

theorem displaced_eq_zero (h : ∀ lineage ∈ f.lineages, ¬lineage.DisplacedBy f.roots) :
    f.displaced = 0 :=
  Multiset.filter_eq_nil.mpr h

/-- Nothing is displaced where nothing is adopted. -/
theorem not_displacedBy_of_root {lineage : Lineage} (h : lineage.ancestors = [])
    (children : List Item) : ¬lineage.DisplacedBy children := by
  obtain ⟨ancestors, object⟩ := lineage
  obtain rfl : ancestors = [] := h
  exact id

/-- A root that has an owner among the roots stands below it afterwards. -/
theorem sitsUnder_resolve (h : f.WellFiled) {x p : Item} (hx : x ∈ f.roots) (hp : p ∈ f.roots)
    (hOwned : x.OwnedBy p) : f.resolve.1.SitsUnder x p := by
  have hPlace := place_of_some ((parent?_eq_some_iff h).mpr ⟨hp, hOwned⟩)
  refine ⟨(f.place p).ancestors, (mem_lineages_resolve h).mpr ⟨⟨[], x⟩, ?_, id, hPlace⟩⟩
  exact root_lineage_mem_iff.mpr hx

/-- The objects before resolution are those after it and those that are lost. Lost is a child whose
owner gets another root of its name below it, with everything below that child. So nothing is lost
where no two names meet, in particular where nothing has been adopted before. -/
theorem resolve_conserves_objects (h : f.WellFiled) :
    (f.objects : Multiset Item) = f.resolve.1.objects + f.displaced.map Lineage.object ∧
      (∀ x ∈ f.roots, ∀ p ∈ f.roots, x.OwnedBy p → f.resolve.1.SitsUnder x p) ∧
      (∀ x, x ∈ f.resolve.1.roots ↔ x ∈ f.roots ∧ ∀ p ∈ f.roots, ¬x.OwnedBy p) ∧
      ((∀ lineage ∈ f.lineages, ¬lineage.DisplacedBy f.roots) →
        f.resolve.1.objects.Perm f.objects) ∧
      ((∀ lineage ∈ f.lineages, lineage.ancestors = []) → f.resolve.1.objects.Perm f.objects) ∧
      f.resolve.1.scope = f.scope ∧ f.resolve.1.errors = f.errors ∧
      f.resolve.1.deployments.keys = f.deployments.keys ∧
      f.resolve.1.cronJobs.keys = f.cronJobs.keys ∧
      f.resolve.1.replicationControllers.keys = f.replicationControllers.keys ∧
      f.resolve.1.statefulSets.keys = f.statefulSets.keys ∧
      f.resolve.1.daemonSets.keys = f.daemonSets.keys := by
  have hObjects := objects_resolve h
  have hNoClash : (∀ lineage ∈ f.lineages, ¬lineage.DisplacedBy f.roots) →
      f.resolve.1.objects.Perm f.objects := by
    intro hApart
    rw [displaced_eq_zero hApart, Multiset.map_zero, add_zero] at hObjects
    exact Multiset.coe_eq_coe.mp hObjects.symm
  refine ⟨hObjects, fun x hx p hp => sitsUnder_resolve h hx hp, fun x => ?_, hNoClash, ?_,
    resolve_frame f⟩
  · rw [mem_roots_resolve h, parent?_eq_none_iff]
  · intro hBare
    exact hNoClash fun lineage hLineage => not_displacedBy_of_root (hBare lineage hLineage) f.roots

/-- A replica set, and a pod of it that is listed again after it has been adopted. -/
def listedTwice : List Operation :=
  let web : Resource .replicaSet :=
    ⟨{ Metadata.empty with name := some "web", uid := some "u1" }, none, none⟩
  let pod : Resource .pod :=
    ⟨{ Metadata.empty with
        name := some "web-0", owners := [⟨"ReplicaSet", "web", "u1", some true⟩] }, none, none⟩
  [.load .replicaSet [web], .load .pod [pod], .resolve, .load .pod [pod]]

/-- Of the two copies of the pod one is lost. -/
theorem resolve_conserves_objects_listedTwice :
    ((new "shop").run listedTwice).WellFiled ∧
      (∃ lineage ∈ ((new "shop").run listedTwice).lineages,
        lineage.DisplacedBy ((new "shop").run listedTwice).roots) ∧
      (((new "shop").run listedTwice).objects : Multiset Item) =
        ((new "shop").run listedTwice).resolve.1.objects +
          ((new "shop").run listedTwice).displaced.map Lineage.object := by
  have hFiled := ((sound_new "shop").run listedTwice).wellFiled
  refine ⟨hFiled, ?_, (resolve_conserves_objects hFiled).1⟩
  decide +kernel

end KubeInventory.Forest
