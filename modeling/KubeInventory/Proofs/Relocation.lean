import KubeInventory.Proofs.Adoption
import KubeInventory.Proofs.Lineage
import Mathlib.Data.Multiset.Bind
import Mathlib.Tactic.Abel

/-! Resolution seen on lineages. A pass puts the parents of moved children in front of their
lineages and loses the lineages of the children they displace; nothing else happens to any lineage.
The lineages are compared as multisets, so that an object that is lost or doubled is noticed. -/

namespace KubeInventory

namespace Lineage

/-- Whether one of the children moves in below the root and has the name of what stands next below
that root on the lineage. -/
def DisplacedBy (children : List Item) : Lineage → Prop
  | ⟨[], _⟩ => False
  | ⟨top :: rest, object⟩ =>
    ∃ child ∈ children, child.OwnedBy top ∧ child.name = (rest.headD object).name

instance (children : List Item) : DecidablePred (DisplacedBy children)
  | ⟨[], _⟩ => inferInstanceAs (Decidable False)
  | ⟨_ :: _, _⟩ => inferInstanceAs (Decidable (∃ child ∈ children, _ ∧ _))

theorem displacedBy_under {children : List Item} {top : Item} {lineage : Lineage} :
    DisplacedBy children (lineage.under top) ↔
      ∃ child ∈ children, child.OwnedBy top ∧ child.name = lineage.root.name := Iff.rfl

/-- Children of a kind that the root cannot hold displace nothing below it. -/
theorem not_displacedBy {children : List Item} {lineage : Lineage}
    (h : ∀ child ∈ children, lineage.root.kind.held? ≠ some child.kind) :
    ¬lineage.DisplacedBy children := by
  obtain ⟨ancestors, object⟩ := lineage
  cases ancestors with
  | nil => exact id
  | cons top rest =>
      rintro ⟨child, hChild, ⟨hHolds, -⟩, -⟩
      exact h child hChild hHolds

theorem DisplacedBy.mono {fewer children : List Item} {lineage : Lineage}
    (h : lineage.DisplacedBy fewer) (hSub : fewer ⊆ children) : lineage.DisplacedBy children := by
  obtain ⟨ancestors, object⟩ := lineage
  cases ancestors with
  | nil => exact h
  | cons top rest =>
      obtain ⟨child, hChild, hRest⟩ := h
      exact ⟨child, hSub hChild, hRest⟩

/-- Puts the parent of the root in front, if the root has one. -/
def lift (parent? : Item → Option Item) (lineage : Lineage) : Lineage :=
  match parent? lineage.root with
  | none => lineage
  | some top => lineage.under top

theorem lift_of_none {parent? : Item → Option Item} {lineage : Lineage}
    (h : parent? lineage.root = none) : lineage.lift parent? = lineage := by
  rw [lift, h]

theorem lift_of_some {parent? : Item → Option Item} {lineage : Lineage} {top : Item}
    (h : parent? lineage.root = some top) : lineage.lift parent? = lineage.under top := by
  rw [lift, h]

@[simp] theorem object_lift (parent? : Item → Option Item) (lineage : Lineage) :
    (lineage.lift parent?).object = lineage.object := by
  unfold lift
  split <;> rfl

end Lineage

/-- The first of the objects that owns the other. -/
def Item.ownerAmong (parents : List Item) (x : Item) : Option Item :=
  parents.find? fun p => x.OwnedBy p

theorem Item.ownerAmong_eq_none {parents : List Item} {x : Item}
    (h : ∀ p ∈ parents, p.kind.held? ≠ some x.kind) : x.ownerAmong parents = none := by
  rw [ownerAmong, List.find?_eq_none]
  intro p hp hOwned
  exact h p hp (of_decide_eq_true hOwned).1

/-- An owner that is found is one of those looked through. -/
theorem Item.ownedBy_of_ownerAmong {parents : List Item} {x p : Item}
    (h : x.ownerAmong parents = some p) : p ∈ parents ∧ x.OwnedBy p := by
  rw [ownerAmong] at h
  have hFound := List.find?_some h
  exact ⟨List.mem_of_find?_eq_some h, by simpa using hFound⟩

/-- An object has one controller, so its owners have one kind and one name. -/
theorem Item.OwnedBy.same {x p q : Item} (hp : x.OwnedBy p) (hq : x.OwnedBy q) :
    p.kind = q.kind ∧ p.name = q.name := by
  obtain ⟨-, link, hLink, hKind, hName, -⟩ := hp
  obtain ⟨-, other, hOther, hOtherKind, hOtherName, -⟩ := hq
  obtain rfl : link = other := hLink.unique hOther
  exact ⟨Kind.name_injective (hKind.symm.trans hOtherKind), hName.symm.trans hOtherName⟩

/-- What a pass does to lineages: those displaced are lost, and owners come in front of the rest. -/
def Lineage.pass (owners children : List Item) (s : Multiset Lineage) : Multiset Lineage :=
  (s.filter fun lineage => ¬lineage.DisplacedBy children).map
    (Lineage.lift (Item.ownerAmong owners))

theorem Lineage.pass_add (owners children : List Item) (s t : Multiset Lineage) :
    Lineage.pass owners children (s + t) =
      Lineage.pass owners children s + Lineage.pass owners children t := by
  rw [pass, Multiset.filter_add, Multiset.map_add, pass, pass]

theorem filter_eq_toList_find? {α : Type} {p : α → Bool} {xs : List α}
    (h : xs.Pairwise fun a b => p a = true → p b = true → False) :
    xs.filter p = (xs.find? p).toList := by
  induction xs with
  | nil => rfl
  | cons head rest ih =>
      obtain ⟨hHead, hRest⟩ := List.pairwise_cons.mp h
      cases hp : p head with
      | false => rw [List.filter_cons, hp, List.find?_cons, hp, ih hRest]; rfl
      | true =>
          have hNone : rest.filter p = [] :=
            List.filter_eq_nil_iff.mpr fun b hb hpb => hHead b hb hp hpb
          rw [List.filter_cons, hp, List.find?_cons, hp, hNone]
          rfl

theorem bind_filter_swap {α β γ : Type} (s : Multiset α) (t : Multiset β) (r : α → β → Prop)
    [∀ a, DecidablePred (r a)] (f : α → β → Multiset γ) :
    (s.bind fun a => (t.filter (r a)).bind (f a)) =
      t.bind fun b => (s.filter fun a => r a b).bind fun a => f a b := by
  simp only [Multiset.bind_filter]
  exact Multiset.bind_bind s t

namespace Dict

variable {β : Type} [HasMetadata β] [Nested β]

theorem lineages_eq_bind (d : Dict String β) :
    (d.lineages : Multiset Lineage) =
      (d.entries : Multiset (String × β)).bind fun e =>
        (Nested.lineages e.2 : Multiset Lineage) := by
  rw [Multiset.coe_bind, lineages, values, List.flatMap_map]

/-- Objects of one dictionary differ in their names, so at most one of them owns an object. -/
theorem WellFiled.pairwise_owners {d : Dict String β} (h : d.WellFiled) (x : Item) :
    d.items.Pairwise fun p q => x.OwnedBy p → x.OwnedBy q → False := by
  have hNames : (d.items.map Item.name).Nodup := by
    have hSame : d.items.map Item.name = d.values.map HasMetadata.ownName := by
      rw [Dict.items, List.map_map]
      exact List.map_congr_left fun value _ => Nested.name_item value
    rw [hSame]
    exact h.names_nodup
  refine (List.pairwise_map.mp hNames).imp fun hNe hp hq => ?_
  exact hNe (hp.same hq).2

end Dict

namespace Held

variable {k : Kind} {β : Type} [HasMetadata β] [Nested β]

theorem controls_iff_ownedBy {name : String} {h : Held k β} {child : β}
    (hHolds : k.held? = some (HasMetadata.kind β)) (hName : name = h.metadata.ownName) :
    h.controls name child = true ↔ (Nested.item child).OwnedBy (Nested.item h) := by
  rw [controls_iff, Item.OwnedBy, Item.controlledBy_iff, Nested.kind_item, Nested.kind_item,
    Nested.metadata_item, Nested.metadata_item, Nested.name_item, hName]
  constructor
  · rintro ⟨link, hLink, hRest⟩
    exact ⟨hHolds, link, hLink, hRest⟩
  · rintro ⟨-, link, hLink, hRest⟩
    exact ⟨link, hLink, hRest⟩

theorem item_gather (children : List β) (name : String) (h : Held k β) :
    Nested.item (h.gather children name) = Nested.item h := by
  change Item.mk k (h.gather children name).object = ⟨k, h.object⟩
  rw [gather_object]

/-- What a parent holds once it has gathered its children: what it held before, but for objects of
the same names, and the children. -/
theorem below_gather {children : List β} (hNames : (children.map HasMetadata.ownName).Nodup)
    (name : String) {h : Held k β} (hFiled : h.adopted.WellFiled) :
    (Nested.below (h.gather children name) : Multiset Lineage) =
      (h.adopted.lineages : Multiset Lineage).filter (fun lineage =>
        lineage.root.name ∉ (children.filter (h.controls name)).map HasMetadata.ownName) +
      ((children.filter (h.controls name) : List β) : Multiset β).bind
        fun child => (Nested.lineages child : Multiset Lineage) := by
  have hGathered : ((children.filter (h.controls name)).map HasMetadata.ownName).Nodup :=
    hNames.sublist (List.filter_sublist.map _)
  change ((h.gather children name).adopted.lineages : Multiset Lineage) = _
  rw [gather, foldl_adopt_adopted]
  generalize children.filter (h.controls name) = gathered at hGathered ⊢
  have hKeys : (gathered.map fun child => (HasMetadata.ownName child, child)).map Prod.fst =
      gathered.map HasMetadata.ownName := by
    rw [List.map_map]
    rfl
  have hPerm := Dict.entries_foldl_insert_perm (hKeys.symm ▸ hGathered) h.adopted
  rw [Dict.lineages_eq_bind, Multiset.coe_eq_coe.mpr hPerm, hKeys, ← Multiset.coe_add,
    Multiset.add_bind, ← Multiset.map_coe, Multiset.bind_map, ← Multiset.filter_coe,
    Dict.lineages_eq_bind, Multiset.filter_bind, Multiset.bind_filter]
  -- All lineages of an entry have its key at the root, so they are kept or lost together.
  congr 1
  refine Multiset.bind_congr fun e he => ?_
  have hKey : ∀ lineage ∈ Nested.lineages e.2, lineage.root.name = e.1 := by
    intro lineage hLineage
    rw [Nested.root_of_mem_lineages hLineage, Nested.name_item, (hFiled e he).1]
  by_cases hTaken : e.1 ∈ gathered.map HasMetadata.ownName
  · rw [if_neg (not_not_intro hTaken), eq_comm, Multiset.filter_eq_nil]
    intro lineage hLineage
    rw [hKey lineage hLineage]
    exact not_not_intro hTaken
  · rw [if_pos hTaken, eq_comm, Multiset.filter_eq_self]
    intro lineage hLineage
    rwa [hKey lineage hLineage]

/-- A parent that gathers its children keeps its own lineages but for those displaced, and gets
those of the children below it. -/
theorem lineages_gather {children : List β} (hHolds : k.held? = some (HasMetadata.kind β))
    (hNames : (children.map HasMetadata.ownName).Nodup) {name : String} {h : Held k β}
    (hName : name = h.metadata.ownName) (hFiled : h.adopted.WellFiled) :
    (Nested.lineages (h.gather children name) : Multiset Lineage) =
      (Nested.lineages h : Multiset Lineage).filter
        (fun lineage => ¬lineage.DisplacedBy (children.map Nested.item)) +
      ((children : Multiset β).filter fun child =>
        (Nested.item child).OwnedBy (Nested.item h)).bind fun child =>
          (Nested.lineages child : Multiset Lineage).map (Lineage.under (Nested.item h)) := by
  have hGathered : children.filter (h.controls name) =
      children.filter fun child => (Nested.item child).OwnedBy (Nested.item h) := by
    refine List.filter_congr fun child _ => ?_
    rw [Bool.eq_iff_iff, decide_eq_true_iff]
    exact controls_iff_ownedBy hHolds hName
  have hDisplaced : ∀ lineage ∈ h.adopted.lineages,
      (lineage.root.name ∉ (children.filter (h.controls name)).map HasMetadata.ownName ↔
        ¬(lineage.under (Nested.item h)).DisplacedBy (children.map Nested.item)) := by
    intro lineage _
    rw [hGathered, Lineage.displacedBy_under]
    simp [Nested.name_item]
  -- Only what is held is displaced: the parent itself stays.
  have hRoot : ¬Lineage.DisplacedBy (children.map Nested.item) ⟨[], Nested.item h⟩ := id
  rw [Nested.lineages, item_gather, Nested.lineages, ← Multiset.cons_coe, ← Multiset.map_coe,
    below_gather hNames name hFiled, Multiset.map_add, Multiset.map_bind, ← Multiset.cons_coe,
    Multiset.filter_cons_of_pos (p := fun lineage => ¬Lineage.DisplacedBy _ lineage) _ hRoot,
    Multiset.cons_add, ← Multiset.map_coe, Multiset.filter_map]
  congr 2
  · congr 1
    exact Multiset.filter_congr hDisplaced
  · rw [hGathered, Multiset.filter_coe]

end Held

namespace Forest

variable {k : Kind} {β : Type} [HasMetadata β] [Nested β]

/-- What parents look like after a pass: the lineages they had, but for those displaced, and below
each parent the lineages of the children it owns. -/
theorem lineages_receive {parents : Dict String (Held k β)} {children : List β}
    (hHolds : k.held? = some (HasMetadata.kind β))
    (hNames : (children.map HasMetadata.ownName).Nodup) (hFiled : parents.WellFiled) :
    ((receive children parents).lineages : Multiset Lineage) =
      (parents.lineages : Multiset Lineage).filter
        (fun lineage => ¬lineage.DisplacedBy (children.map Nested.item)) +
      (parents.items : Multiset Item).bind fun parent =>
        ((children : Multiset β).filter fun child => (Nested.item child).OwnedBy parent).bind
          fun child => (Nested.lineages child : Multiset Lineage).map (Lineage.under parent) := by
  have hEach : ∀ e ∈ (parents.entries : Multiset (String × Held k β)),
      (Nested.lineages (e.2.gather children e.1) : Multiset Lineage) = _ := fun e he =>
    Held.lineages_gather hHolds hNames (hFiled e he).1 (hFiled e he).2
  have hItems : (parents.items : Multiset Item) =
      (parents.entries : Multiset (String × Held k β)).map fun e => Nested.item e.2 := by
    rw [Dict.items, Dict.values, List.map_map, Multiset.map_coe]
    rfl
  rw [Dict.lineages_eq_bind, entries_receive, ← Multiset.map_coe, Multiset.bind_map,
    Multiset.bind_congr hEach, Multiset.bind_add, Dict.lineages_eq_bind, Multiset.filter_bind,
    hItems, Multiset.bind_map]

/-- Lineages of children with the parents that own them in front, sorted by what happens to the
child: some stay as they are, the others stand below one parent each. -/
theorem bind_lift_ownerAmong {parents : List Item} (children : Multiset β)
    (hOne : ∀ child : β, parents.Pairwise fun p q =>
      (Nested.item child).OwnedBy p → (Nested.item child).OwnedBy q → False) :
    (children.bind fun child => (Nested.lineages child : Multiset Lineage).map
        (Lineage.lift (Item.ownerAmong parents))) =
      ((children.filter fun child => ∀ p ∈ parents, ¬(Nested.item child).OwnedBy p).bind
        fun child => (Nested.lineages child : Multiset Lineage)) +
      (parents : Multiset Item).bind fun parent =>
        (children.filter fun child => (Nested.item child).OwnedBy parent).bind fun child =>
          (Nested.lineages child : Multiset Lineage).map (Lineage.under parent) := by
  rw [bind_filter_swap, Multiset.bind_filter, ← Multiset.bind_add]
  -- At most one parent owns a child: the parents that own it are the one that is found, if any.
  refine Multiset.bind_congr fun child _ => ?_
  have hOwners := filter_eq_toList_find? (p := fun p => decide ((Nested.item child).OwnedBy p))
    (by simpa using hOne child)
  have hLift : ∀ lineage ∈ (Nested.lineages child : Multiset Lineage),
      lineage.lift (Item.ownerAmong parents) =
        match Item.ownerAmong parents (Nested.item child) with
        | none => lineage
        | some top => lineage.under top := by
    intro lineage hLineage
    rw [Lineage.lift, Nested.root_of_mem_lineages hLineage]
  rw [Multiset.map_congr rfl hLift, Multiset.filter_coe, hOwners]
  rw [← Item.ownerAmong]
  cases hOwner : Item.ownerAmong parents (Nested.item child) with
  | none =>
      have hNone : ∀ p ∈ parents, ¬(Nested.item child).OwnedBy p := by
        simpa [Item.ownerAmong] using hOwner
      rw [if_pos hNone]
      simp
  | some top =>
      have hFound := List.find?_some hOwner
      have hMem := List.mem_of_find?_eq_some hOwner
      rw [if_neg fun hNone => hNone top hMem (by simpa using hFound)]
      simp

theorem items_receive (children : List β) (parents : Dict String (Held k β)) :
    (receive children parents).items = parents.items := by
  rw [Dict.items, values_receive, List.map_map, Dict.items, Dict.values, List.map_map]
  refine List.map_congr_left fun e _ => ?_
  exact Held.item_gather children e.1 e.2

/-- The children that stay at their roots are those that no parent owns. -/
theorem lineages_left {d : Dict String β} {taken : β → Bool} {parents : List Item}
    (hTaken : ∀ e ∈ d.entries, taken e.2 = true ↔ ∃ p ∈ parents, (Nested.item e.2).OwnedBy p) :
    ((d.without taken).lineages : Multiset Lineage) =
      ((d.values : Multiset β).filter fun child =>
        ∀ p ∈ parents, ¬(Nested.item child).OwnedBy p).bind
          fun child => (Nested.lineages child : Multiset Lineage) := by
  have hLeft : (d.entries.filter fun e => !taken e.2) =
      d.entries.filter fun e => ∀ p ∈ parents, ¬(Nested.item e.2).OwnedBy p := by
    refine List.filter_congr fun e he => ?_
    rw [Bool.eq_iff_iff, Bool.not_eq_true', ← Bool.not_eq_true, hTaken e he, decide_eq_true_iff]
    simp only [not_exists, not_and]
  rw [Dict.lineages_eq_bind, Dict.entries_without, hLeft, ← Multiset.filter_coe,
    Multiset.bind_filter, Multiset.bind_filter, Dict.values, ← Multiset.map_coe, Multiset.bind_map]

section Unmoved

variable {β : Type} [HasMetadata β] [Nested β] {d : Dict String β} {owners children : List Item}

/-- No owner comes in front of roots that none of the owners can hold. -/
theorem map_lift_eq_self {s : Multiset Lineage} (hSub : ∀ lineage ∈ s, lineage ∈ d.lineages)
    (hOwners : ∀ p ∈ owners, p.kind.held? ≠ some (HasMetadata.kind β)) :
    s.map (Lineage.lift (Item.ownerAmong owners)) = s := by
  refine (Multiset.map_congr rfl fun lineage hLineage => ?_).trans (Multiset.map_id' s)
  have hKind := Dict.kind_of_mem_items (Dict.root_mem_items (hSub lineage hLineage))
  refine Lineage.lift_of_none (Item.ownerAmong_eq_none fun p hp => ?_)
  rw [hKind]
  exact hOwners p hp

/-- Nothing is displaced below roots that can hold none of the children. -/
theorem filter_displaced_eq_self
    (hChildren : ∀ child ∈ children, (HasMetadata.kind β).held? ≠ some child.kind) :
    ((d.lineages : Multiset Lineage).filter fun lineage => ¬lineage.DisplacedBy children) =
      d.lineages := by
  refine Multiset.filter_eq_self.mpr fun lineage hLineage => ?_
  have hKind := Dict.kind_of_mem_items (Dict.root_mem_items (Multiset.mem_coe.mp hLineage))
  refine Lineage.not_displacedBy fun child hChild => ?_
  rw [hKind]
  exact hChildren child hChild

/-- A pass leaves alone the roots that neither move nor hold what moves. -/
theorem pass_rest (hOwners : ∀ p ∈ owners, p.kind.held? ≠ some (HasMetadata.kind β))
    (hChildren : ∀ child ∈ children, (HasMetadata.kind β).held? ≠ some child.kind) :
    Lineage.pass owners children d.lineages = d.lineages := by
  rw [Lineage.pass, filter_displaced_eq_self hChildren,
    map_lift_eq_self (fun lineage h => Multiset.mem_coe.mp h) hOwners]

/-- The parents of a pass lose what is displaced and move nowhere. -/
theorem pass_parents (hOwners : ∀ p ∈ owners, p.kind.held? ≠ some (HasMetadata.kind β)) :
    Lineage.pass owners children d.lineages =
      (d.lineages : Multiset Lineage).filter fun lineage => ¬lineage.DisplacedBy children := by
  have hSub : ∀ lineage ∈ (d.lineages : Multiset Lineage).filter
      fun lineage => ¬lineage.DisplacedBy children, lineage ∈ d.lineages := by
    intro lineage hLineage
    exact Multiset.mem_coe.mp (Multiset.mem_of_mem_filter hLineage)
  rw [Lineage.pass]
  exact map_lift_eq_self hSub hOwners

end Unmoved

/-- The children of a pass: some stay at their roots, and the others stand below one owner each. -/
theorem pass_children {d : Dict String β} (taken : β → Bool) {owners children : List Item}
    (hTaken : ∀ e ∈ d.entries, taken e.2 = true ↔ ∃ p ∈ owners, (Nested.item e.2).OwnedBy p)
    (hOne : ∀ child : β, owners.Pairwise fun p q =>
      (Nested.item child).OwnedBy p → (Nested.item child).OwnedBy q → False)
    (hLeaf : ∀ child ∈ children, (HasMetadata.kind β).held? ≠ some child.kind) :
    Lineage.pass owners children d.lineages =
      (d.without taken).lineages +
      (owners : Multiset Item).bind fun owner =>
        ((d.values : Multiset β).filter fun child => (Nested.item child).OwnedBy owner).bind
          fun child => (Nested.lineages child : Multiset Lineage).map (Lineage.under owner) := by
  rw [Lineage.pass, filter_displaced_eq_self hLeaf, lineages_left hTaken,
    ← bind_lift_ownerAmong _ hOne, Dict.lineages, ← Multiset.coe_bind, Multiset.map_bind]

/-- To be taken is to be owned by some parent. -/
theorem takes_iff_ownedBy {parents : Dict String (Held k β)} (hFiled : parents.WellFiled)
    (hHolds : k.held? = some (HasMetadata.kind β)) {child : β} :
    takes parents child = true ↔ ∃ p ∈ parents.items, (Nested.item child).OwnedBy p := by
  rw [takes_iff]
  constructor
  · rintro ⟨e, he, hControls⟩
    exact ⟨Nested.item e.2, Dict.mem_items_iff.mpr ⟨e, he, rfl⟩,
      (Held.controls_iff_ownedBy hHolds (hFiled e he).1).mp hControls⟩
  · rintro ⟨p, hp, hOwned⟩
    obtain ⟨e, he, rfl⟩ := Dict.mem_items_iff.mp hp
    exact ⟨e, he, (Held.controls_iff_ownedBy hHolds (hFiled e he).1).mpr hOwned⟩

/-- A pass over the children of one kind and the parents of another. -/
theorem lineages_run_adoptUnder {parents : Dict String (Held k β)} {d : Dict String β}
    (hHolds : k.held? = some (HasMetadata.kind β)) (hSelf : k.held? ≠ some k)
    (hLeaf : (HasMetadata.kind β).held? ≠ some (HasMetadata.kind β))
    (hParents : parents.WellFiled) (hChildren : d.WellFiled) :
    ((Settling.run adoptUnder parents d.entries).parents.lineages : Multiset Lineage) +
        (Settling.run adoptUnder parents d.entries).left.lineages =
      Lineage.pass parents.items d.items (parents.lineages + d.lineages) := by
  have hParentKind : ∀ p ∈ parents.items, p.kind.held? ≠ some k := fun p hp => by
    rw [Dict.kind_of_mem_items hp]
    exact hSelf
  have hChildKind : ∀ child ∈ d.items, (HasMetadata.kind β).held? ≠ some child.kind :=
    fun child hChild => by
      rw [Dict.kind_of_mem_items hChild]
      exact hLeaf
  rw [run_adoptUnder, Lineage.pass_add, pass_parents hParentKind,
    pass_children (takes parents) (fun e _ => takes_iff_ownedBy hParents hHolds)
      (fun child => hParents.pairwise_owners (Nested.item child)) hChildKind]
  change ((receive d.values parents).lineages : Multiset Lineage) + _ = _
  rw [lineages_receive hHolds hChildren.names_nodup hParents, ← Dict.items]
  abel

end Forest

end KubeInventory
