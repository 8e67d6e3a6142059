import KubeInventory.Forest.Resolution
import KubeInventory.Proofs.Dict

/-! A forest seen as the list of its lineages: each object with the objects above it. The
dictionaries of a forest hold values of different types, and the lineages forget those types, so
that one statement can speak of all roots and of all objects below them. -/

namespace KubeInventory

namespace Metadata

variable {m : Metadata} {link other : OwnerReference}

/-- The link is the first owner that is marked as the controller. Those before it carry no mark, or
one that says that they are not. -/
def HasController (m : Metadata) (link : OwnerReference) : Prop :=
  ∃ before after, m.owners = before ++ link :: after ∧ link.controller = some true ∧
    ∀ earlier ∈ before, earlier.controller ≠ some true

theorem controller?_eq_some_iff : m.controller? = some link ↔ m.HasController link := by
  rw [controller?, List.find?_eq_some_iff_append]
  constructor
  · rintro ⟨hMarked, before, after, hOwners, hEarlier⟩
    exact ⟨before, after, hOwners, by simpa using hMarked, by simpa using hEarlier⟩
  · rintro ⟨before, after, hOwners, hMarked, hEarlier⟩
    exact ⟨by simpa using hMarked, before, after, hOwners, by simpa using hEarlier⟩

/-- Several owners may be marked, but only the first of them counts. -/
theorem HasController.unique (h : m.HasController link) (hOther : m.HasController other) :
    link = other :=
  Option.some.inj ((controller?_eq_some_iff.mpr h).symm.trans (controller?_eq_some_iff.mpr hOther))

/-- Some owner is marked as the controller. -/
def DeclaresController (m : Metadata) : Prop := ∃ owner ∈ m.owners, owner.controller = some true

instance (m : Metadata) : Decidable m.DeclaresController :=
  inferInstanceAs (Decidable (∃ owner ∈ m.owners, _))

theorem isSome_controller?_iff : m.controller?.isSome = true ↔ m.DeclaresController := by
  simp [controller?, DeclaresController, List.find?_isSome]

end Metadata

/-- An object together with its kind. -/
structure Item where
  kind : Kind
  object : Resource kind

namespace Item

def metadata (x : Item) : Metadata := x.object.metadata

def name (x : Item) : String := x.metadata.ownName

/-- The first owner that the object marks as its controller has the kind, the name and the uid of
`p`. An object without a uid controls nothing. -/
def ControlledBy (x p : Item) : Prop :=
  ∃ link, x.metadata.HasController link ∧ link.kind = p.kind.name ∧ link.name = p.name ∧
    p.metadata.uid = some link.uid

theorem controlledBy_iff {x p : Item} : x.ControlledBy p ↔
    ∃ link ∈ x.metadata.controller?, link.kind = p.kind.name ∧ link.name = p.name ∧
      p.metadata.uid = some link.uid := by
  simp only [ControlledBy, ← Metadata.controller?_eq_some_iff, Option.mem_def]

instance (x p : Item) : Decidable (x.ControlledBy p) :=
  decidable_of_iff _ controlledBy_iff.symm

end Item

/-- The kind of the objects that those of a kind can hold: pods stand below what runs them, replica
sets below deployments and jobs below cron jobs. -/
def Kind.held? : Kind → Option Kind
  | .replicaSet | .replicationController | .daemonSet | .statefulSet | .job => some .pod
  | .deployment => some .replicaSet
  | .cronJob => some .job
  | _ => none

/-- The object can be held below `p`, which is its controller. -/
def Item.OwnedBy (x p : Item) : Prop := p.kind.held? = some x.kind ∧ x.ControlledBy p

instance (x p : Item) : Decidable (x.OwnedBy p) :=
  inferInstanceAs (Decidable (_ ∧ _))

/-- An object in a forest, with the objects above it from the root down. -/
structure Lineage where
  ancestors : List Item
  object : Item

namespace Lineage

/-- The object at the root, which is the object itself if nothing stands above it. -/
def root (lineage : Lineage) : Item := lineage.ancestors.headD lineage.object

/-- The same lineage once its root stands below another object. -/
def under (above : Item) (lineage : Lineage) : Lineage :=
  { lineage with ancestors := above :: lineage.ancestors }

@[simp] theorem root_under (above : Item) (lineage : Lineage) :
    (lineage.under above).root = above := rfl

end Lineage

/-- What a forest files under a name: an object, and the lineages of what lies below it, in which
the object itself is left out. -/
class Nested (β : Type) [HasMetadata β] where
  item : β → Item
  below : β → List Lineage
  /-- All that lies below is filed under its own name. -/
  WellFiled : β → Prop
  kind_item (x : β) : (item x).kind = HasMetadata.kind β
  metadata_item (x : β) : (item x).metadata = HasMetadata.metadata x

namespace Nested

variable {β : Type} [HasMetadata β] [Nested β]

theorem name_item (x : β) : (item x).name = HasMetadata.ownName x := by
  rw [Item.name, metadata_item, HasMetadata.ownName]

/-- The lineages of the object and of all below it, if it stands at a root. -/
def lineages (x : β) : List Lineage := ⟨[], item x⟩ :: (below x).map (Lineage.under (item x))

theorem root_of_mem_lineages {x : β} {lineage : Lineage} (h : lineage ∈ lineages x) :
    lineage.root = item x := by
  rcases List.mem_cons.mp h with rfl | hBelow
  · rfl
  · obtain ⟨inner, -, rfl⟩ := List.mem_map.mp hBelow
    rfl

end Nested

instance (k : Kind) : Nested (Resource k) where
  item r := ⟨k, r⟩
  below _ := []
  WellFiled _ := True
  kind_item _ := rfl
  metadata_item _ := rfl

namespace Dict

variable {β : Type} [HasMetadata β] [Nested β]

/-- The objects that are filed themselves, without what is below them. -/
def items (d : Dict String β) : List Item := d.values.map Nested.item

def lineages (d : Dict String β) : List Lineage := d.values.flatMap Nested.lineages

/-- Each value is filed under its own name, and so is all that lies below it. -/
def WellFiled (d : Dict String β) : Prop :=
  ∀ e ∈ d.entries, e.1 = HasMetadata.ownName e.2 ∧ Nested.WellFiled e.2

theorem mem_items_iff {d : Dict String β} {x : Item} :
    x ∈ d.items ↔ ∃ e ∈ d.entries, Nested.item e.2 = x := by
  simp [items, values]

theorem mem_lineages_iff {d : Dict String β} {lineage : Lineage} :
    lineage ∈ d.lineages ↔ ∃ e ∈ d.entries, lineage ∈ Nested.lineages e.2 := by
  rw [lineages, List.mem_flatMap]
  simp only [values, List.mem_map, exists_exists_and_eq_and]

theorem root_mem_items {d : Dict String β} {lineage : Lineage} (h : lineage ∈ d.lineages) :
    lineage.root ∈ d.items := by
  obtain ⟨e, he, hLineage⟩ := mem_lineages_iff.mp h
  exact mem_items_iff.mpr ⟨e, he, (Nested.root_of_mem_lineages hLineage).symm⟩

theorem root_lineage_mem_iff {d : Dict String β} {x : Item} :
    ⟨[], x⟩ ∈ d.lineages ↔ x ∈ d.items := by
  constructor
  · intro h
    exact root_mem_items h
  · intro h
    obtain ⟨e, he, rfl⟩ := mem_items_iff.mp h
    exact mem_lineages_iff.mpr ⟨e, he, List.mem_cons_self⟩

theorem kind_of_mem_items {d : Dict String β} {x : Item} (h : x ∈ d.items) :
    x.kind = HasMetadata.kind β := by
  obtain ⟨e, -, rfl⟩ := mem_items_iff.mp h
  exact Nested.kind_item e.2

/-- Objects that are filed under their own names have different names. -/
theorem WellFiled.names_nodup {d : Dict String β} (h : d.WellFiled) :
    (d.values.map HasMetadata.ownName).Nodup := by
  have hKeys : d.values.map HasMetadata.ownName = d.entries.map Prod.fst := by
    rw [values, List.map_map]
    exact List.map_congr_left fun e he => (h e he).1.symm
  rw [hKeys]
  exact d.keys_nodup

end Dict

namespace Held

variable {k : Kind} {β : Type} [HasMetadata β] [Nested β]

instance : Nested (Held k β) where
  item h := ⟨k, h.object⟩
  below h := h.adopted.lineages
  WellFiled h := h.adopted.WellFiled
  kind_item _ := rfl
  metadata_item _ := rfl

end Held

namespace Forest

/-- The lineages of all objects: the roots in the order of a report, each before what is below it.
-/
def lineages (f : Forest) : List Lineage :=
  f.deployments.lineages ++ f.replicaSets.lineages ++ f.replicationControllers.lineages ++
    f.statefulSets.lineages ++ f.daemonSets.lineages ++ f.cronJobs.lineages ++ f.jobs.lineages ++
    f.pods.lineages

/-- The objects of a forest, at its roots and below. -/
def objects (f : Forest) : List Item := f.lineages.map Lineage.object

/-- Whether the first object stands directly below the second. -/
def SitsUnder (f : Forest) (x p : Item) : Prop := ∃ above, ⟨above ++ [p], x⟩ ∈ f.lineages

/-- The objects at the roots of a forest. -/
def roots (f : Forest) : List Item :=
  f.deployments.items ++ f.replicaSets.items ++ f.replicationControllers.items ++
    f.statefulSets.items ++ f.daemonSets.items ++ f.cronJobs.items ++ f.jobs.items ++ f.pods.items

/-- The objects of one kind at the roots of a forest. -/
def rootsOf (f : Forest) : Kind → List Item
  | .deployment => f.deployments.items
  | .replicaSet => f.replicaSets.items
  | .replicationController => f.replicationControllers.items
  | .statefulSet => f.statefulSets.items
  | .daemonSet => f.daemonSets.items
  | .cronJob => f.cronJobs.items
  | .job => f.jobs.items
  | .pod => f.pods.items
  | _ => []

/-- The lineages of all objects below the roots of one kind, and of those roots. -/
def lineagesOf (f : Forest) : Kind → List Lineage
  | .deployment => f.deployments.lineages
  | .replicaSet => f.replicaSets.lineages
  | .replicationController => f.replicationControllers.lineages
  | .statefulSet => f.statefulSets.lineages
  | .daemonSet => f.daemonSets.lineages
  | .cronJob => f.cronJobs.lineages
  | .job => f.jobs.lineages
  | .pod => f.pods.lineages
  | _ => []

/-- All dictionaries of the forest, those of the roots and those of adopted objects, hold each
object under its own name. -/
structure WellFiled (f : Forest) : Prop where
  deployments : f.deployments.WellFiled
  replicaSets : f.replicaSets.WellFiled
  replicationControllers : f.replicationControllers.WellFiled
  statefulSets : f.statefulSets.WellFiled
  daemonSets : f.daemonSets.WellFiled
  cronJobs : f.cronJobs.WellFiled
  jobs : f.jobs.WellFiled
  pods : f.pods.WellFiled

variable {f : Forest}

theorem kind_of_mem_rootsOf {kind : Kind} {x : Item} (h : x ∈ f.rootsOf kind) : x.kind = kind := by
  cases kind <;> first | exact Dict.kind_of_mem_items h | exact absurd h List.not_mem_nil

theorem workload_of_mem_rootsOf {kind : Kind} {x : Item} (h : x ∈ f.rootsOf kind) :
    kind ∈ Kind.workloads := by
  cases kind <;> first | decide | exact absurd h List.not_mem_nil

theorem roots_eq_flatMap (f : Forest) : f.roots = Kind.workloads.flatMap f.rootsOf := by
  simp [roots, rootsOf, Kind.workloads]

/-- The roots of one kind are those roots that have the kind. -/
theorem mem_rootsOf_iff {kind : Kind} {x : Item} :
    x ∈ f.rootsOf kind ↔ x ∈ f.roots ∧ x.kind = kind := by
  constructor
  · intro h
    rw [roots_eq_flatMap, List.mem_flatMap]
    exact ⟨⟨kind, workload_of_mem_rootsOf h, h⟩, kind_of_mem_rootsOf h⟩
  · rintro ⟨hRoot, hKind⟩
    rw [roots_eq_flatMap, List.mem_flatMap] at hRoot
    obtain ⟨other, -, hOther⟩ := hRoot
    rwa [← hKind, kind_of_mem_rootsOf hOther]

theorem lineages_eq_flatMap (f : Forest) : f.lineages = Kind.workloads.flatMap f.lineagesOf := by
  simp [lineages, lineagesOf, Kind.workloads]

theorem root_mem_rootsOf {kind : Kind} {lineage : Lineage} (h : lineage ∈ f.lineagesOf kind) :
    lineage.root ∈ f.rootsOf kind := by
  cases kind <;> first | exact Dict.root_mem_items h | exact absurd h List.not_mem_nil

theorem root_lineage_mem_iff {x : Item} : ⟨[], x⟩ ∈ f.lineages ↔ x ∈ f.roots := by
  simp only [lineages, roots, List.mem_append, Dict.root_lineage_mem_iff]

namespace Shop

/-- A deployment. -/
def site : Resource .deployment :=
  ⟨{ Metadata.empty with name := some "site", uid := some "u1" }, none, none⟩

/-- A replica set that the deployment controls. -/
def web : Resource .replicaSet :=
  ⟨{ Metadata.empty with
      name := some "web", uid := some "u2"
      owners := [⟨"Deployment", "site", "u1", some true⟩] }, none, none⟩

/-- A pod that the replica set controls. -/
def pod : Resource .pod :=
  ⟨{ Metadata.empty with
      name := some "web-0", owners := [⟨"ReplicaSet", "web", "u2", some true⟩] }, none, none⟩

/-- A replica set made under the same name after the first. Of its two owners only the second is its
controller. -/
def successor : Resource .replicaSet :=
  ⟨{ Metadata.empty with
      name := some "web", uid := some "u3"
      owners := [⟨"Rollout", "site", "u9", none⟩, ⟨"Deployment", "site", "u1", some true⟩] },
    none, none⟩

/-- The pod does not belong to the successor of its replica set. -/
example : (Item.mk .pod pod).OwnedBy (.mk .replicaSet web) ∧
    ¬(Item.mk .pod pod).OwnedBy (.mk .replicaSet successor) ∧
    (Item.mk .replicaSet successor).OwnedBy (.mk .deployment site) := by
  decide

end Shop

end Forest

end KubeInventory
