import KubeInventory.Proofs.Listing
import KubeInventory.Proofs.Resolution

/-! Forests under any sequence of operations. Objects are listed again while others are resolved
already, roots disappear, and resolution runs at any time. Through all of this each object is filed
under its own name, and what stands below an object has it as its controller. -/

namespace KubeInventory

/-- What can be done to a forest. -/
inductive Operation where
  | load (kind : Kind) (objects : List (Resource kind))
  | drop (kind : Kind) (name : String)
  | recordError (error : FetchError)
  | resolve

/-- What stands directly above the object, if anything does, owns it. -/
def Lineage.Owned (lineage : Lineage) : Prop :=
  ∀ p ∈ lineage.ancestors.getLast?, lineage.object.OwnedBy p

theorem Lineage.owned_of_root (x : Item) : (⟨[], x⟩ : Lineage).Owned := by
  intro p hp
  cases hp

namespace Forest

variable {f : Forest}

def apply (f : Forest) : Operation → Forest
  | .load kind objects => f.load kind objects
  | .drop kind name => f.drop kind name
  | .recordError error => f.recordError error
  | .resolve => f.resolve.1

/-- The forest after operations in the order given. -/
def run (f : Forest) (operations : List Operation) : Forest := operations.foldl apply f

theorem run_append (f : Forest) (earlier later : List Operation) :
    f.run (earlier ++ later) = (f.run earlier).run later :=
  List.foldl_append

/-- What holds of a forest at all times. -/
structure Sound (f : Forest) : Prop where
  wellFiled : f.WellFiled
  owned : ∀ lineage ∈ f.lineages, lineage.Owned

/-- Lineages that are owned stay so when an owner comes on top. -/
theorem owned_lift {lineage : Lineage} (h : lineage.Owned) : (lineage.lift f.parent?).Owned := by
  cases hParent : f.parent? lineage.root with
  | none => rwa [Lineage.lift_of_none hParent]
  | some top =>
      rw [Lineage.lift_of_some hParent]
      obtain ⟨ancestors, object⟩ := lineage
      cases ancestors with
      | nil =>
          intro p hp
          obtain rfl : top = p := by simpa [Lineage.under] using hp
          exact (Item.ownedBy_of_ownerAmong hParent).2
      | cons next rest =>
          -- The object has its old parent still, for the new one is farther up.
          intro p hp
          apply h p
          simpa [Lineage.under] using hp

/-- What is filed comes from either side. -/
theorem mem_lineages_extend {β : Type} [HasMetadata β] [Nested β] {filed more : Dict String β}
    {lineage : Lineage} (h : lineage ∈ (extend filed more).lineages) :
    lineage ∈ filed.lineages ∨ lineage ∈ more.lineages := by
  simp only [Dict.mem_lineages_iff] at h ⊢
  obtain ⟨e, he, hLineage⟩ := h
  rcases mem_entries_extend he with hOld | hNew
  · exact Or.inl ⟨e, hOld, hLineage⟩
  · exact Or.inr ⟨e, hNew, hLineage⟩

/-- Loading files objects that hold nothing. What they replace is gone with all below it. -/
theorem owned_of_mem_lineagesOf_load {kind other : Kind} {objects : List (Resource kind)}
    {lineage : Lineage} (h : lineage ∈ (f.load kind objects).lineagesOf other) :
    lineage ∈ f.lineagesOf other ∨ lineage.Owned := by
  have hHeld {k : Kind} {β : Type} [HasMetadata β] [Nested β] {filed : Dict String (Held k β)}
      {listed : List (Resource k)}
      (hMem : lineage ∈ (extend filed (index (owners listed))).lineages) :
      lineage ∈ filed.lineages ∨ lineage.Owned := by
    refine (mem_lineages_extend hMem).imp_right fun hNew => ?_
    rw [lineages_index_owners, List.mem_map] at hNew
    obtain ⟨x, -, rfl⟩ := hNew
    exact Lineage.owned_of_root x
  have hPods {listed : List (Resource .pod)}
      (hMem : lineage ∈ (extend f.pods (index listed)).lineages) :
      lineage ∈ f.pods.lineages ∨ lineage.Owned := by
    refine (mem_lineages_extend hMem).imp_right fun hNew => ?_
    rw [lineages_of_below_nil fun _ _ => rfl, List.mem_map] at hNew
    obtain ⟨x, -, rfl⟩ := hNew
    exact Lineage.owned_of_root x
  by_cases hKind : kind = other
  · subst hKind
    cases kind <;> first | exact hHeld h | exact hPods h | exact Or.inl h
  · have hSame : (f.load kind objects).lineagesOf other = f.lineagesOf other := by
      cases kind <;> cases other <;> first | rfl | exact absurd rfl hKind
    rw [hSame] at h
    exact Or.inl h

/-- A root that is dropped takes with it what stands below, and adds nothing. -/
theorem lineagesOf_drop_subset {kind other : Kind} {name : String} :
    (f.drop kind name).lineagesOf other ⊆ f.lineagesOf other := by
  have hErase {β : Type} [HasMetadata β] [Nested β] (d : Dict String β) :
      (d.erase name).lineages ⊆ d.lineages := by
    intro lineage h
    obtain ⟨e, he, hLineage⟩ := Dict.mem_lineages_iff.mp h
    exact Dict.mem_lineages_iff.mpr ⟨e, Dict.entries_erase_subset d name he, hLineage⟩
  by_cases hKind : kind = other
  · subst hKind
    cases kind <;> first | exact hErase _ | exact List.Subset.refl _
  · have hSame : (f.drop kind name).lineagesOf other = f.lineagesOf other := by
      cases kind <;> cases other <;> first | rfl | exact absurd rfl hKind
    rw [hSame]
    exact List.Subset.refl _

/-- The step for a listing. -/
theorem Sound.load (h : f.Sound) (kind : Kind) (objects : List (Resource kind)) :
    (f.load kind objects).Sound := by
  refine ⟨h.wellFiled.load kind objects, fun lineage hLineage => ?_⟩
  rw [lineages_eq_flatMap, List.mem_flatMap] at hLineage
  obtain ⟨other, hWorkload, hOther⟩ := hLineage
  rcases owned_of_mem_lineagesOf_load hOther with hOld | hNew
  · apply h.owned
    rw [lineages_eq_flatMap]
    exact List.mem_flatMap.mpr ⟨other, hWorkload, hOld⟩
  · exact hNew

theorem Sound.drop (h : f.Sound) (kind : Kind) (name : String) : (f.drop kind name).Sound := by
  refine ⟨h.wellFiled.drop kind name, fun lineage hLineage => h.owned lineage ?_⟩
  rw [lineages_eq_flatMap, List.mem_flatMap] at hLineage ⊢
  obtain ⟨other, hWorkload, hOther⟩ := hLineage
  exact ⟨other, hWorkload, lineagesOf_drop_subset hOther⟩

theorem Sound.recordError (h : f.Sound) (error : FetchError) : (f.recordError error).Sound :=
  ⟨{ h.wellFiled with }, h.owned⟩

/-- The step for resolution. Each pass puts an owner on top of what it moves, twice for what moves
with its parent. -/
theorem Sound.resolve (h : f.Sound) : f.resolve.1.Sound := by
  refine ⟨h.wellFiled.resolve, fun lineage hLineage => ?_⟩
  obtain ⟨old, hOld, -, rfl⟩ := (mem_lineages_resolve h.wellFiled).mp hLineage
  exact owned_lift (owned_lift (h.owned old hOld))

/-- Every operation keeps what holds of a forest at all times. -/
theorem Sound.apply (h : f.Sound) (operation : Operation) : (f.apply operation).Sound := by
  cases operation with
  | load kind objects => exact h.load kind objects
  | drop kind name => exact h.drop kind name
  | recordError error => exact h.recordError error
  | resolve => exact h.resolve

/-- So does every run, by induction on its operations. -/
theorem Sound.run (h : f.Sound) (operations : List Operation) : (f.run operations).Sound := by
  induction operations generalizing f with
  | nil => exact h
  | cons first rest ih => exact ih (h.apply first)

theorem sound_new (scope : String) : (new scope).Sound := by
  refine ⟨wellFiled_new scope, fun lineage hLineage => ?_⟩
  cases hLineage

/-- The passes leave no root that another root owns: later passes take roots away, and none of them
adds one that could own what an earlier pass has left. -/
theorem not_ownedBy_of_mem_roots_resolve (h : f.WellFiled) {x p : Item}
    (hx : x ∈ f.resolve.1.roots) (hp : p ∈ f.resolve.1.roots) : ¬x.OwnedBy p := by
  obtain ⟨-, hFree⟩ := (mem_roots_resolve h).mp hx
  obtain ⟨hRoot, -⟩ := (mem_roots_resolve h).mp hp
  exact parent?_eq_none_iff.mp hFree p hRoot

/-- Whatever is done to a forest, everything in it is filed under its own name, at the roots and
below; what stands below an object is owned by it; and once ownership has been resolved, no root
owns another. -/
theorem run_new_sound (scope : String) (operations : List Operation) :
    ((new scope).run operations).WellFiled ∧
      (∀ above p x, ⟨above ++ [p], x⟩ ∈ ((new scope).run operations).lineages → x.OwnedBy p) ∧
      ∀ x ∈ ((new scope).run (operations ++ [.resolve])).roots,
        ∀ p ∈ ((new scope).run (operations ++ [.resolve])).roots, ¬x.OwnedBy p := by
  have hSound := (sound_new scope).run operations
  refine ⟨hSound.wellFiled, fun above p x hLineage => ?_, fun x hx p hp => ?_⟩
  · apply hSound.owned _ hLineage
    simp
  · rw [run_append] at hx hp
    exact not_ownedBy_of_mem_roots_resolve hSound.wellFiled hx hp

open Shop in
/-- The pod is listed again after its replica set has gone below the deployment. -/
def Shop.listings : List Operation :=
  [.load .replicaSet [web], .load .pod [pod], .resolve, .load .deployment [site], .resolve,
    .load .pod [pod]]

open Shop in
/-- The pod that was adopted stands below its controller. The one listed again stays at a root, for
its controller is at none. -/
theorem run_new_sound_shop :
    ((new "shop").run listings).WellFiled ∧
      ((new "shop").run listings).lineages =
        [⟨[], .mk .deployment site⟩, ⟨[.mk .deployment site], .mk .replicaSet web⟩,
          ⟨[.mk .deployment site, .mk .replicaSet web], .mk .pod pod⟩, ⟨[], .mk .pod pod⟩] ∧
      (Item.mk .pod pod).OwnedBy (.mk .replicaSet web) ∧
      ((new "shop").run (listings ++ [.resolve])).roots = [.mk .deployment site, .mk .pod pod] ∧
      ¬(Item.mk .pod pod).OwnedBy (.mk .deployment site) := by
  obtain ⟨hFiled, hOwned, hFree⟩ := run_new_sound "shop" listings
  have hLineages : ((new "shop").run listings).lineages =
      [⟨[], .mk .deployment site⟩, ⟨[.mk .deployment site], .mk .replicaSet web⟩,
        ⟨[.mk .deployment site, .mk .replicaSet web], .mk .pod pod⟩, ⟨[], .mk .pod pod⟩] := by rfl
  have hRoots : ((new "shop").run (listings ++ [.resolve])).roots =
      [.mk .deployment site, .mk .pod pod] := by rfl
  refine ⟨hFiled, hLineages, hOwned [.mk .deployment site] _ _ ?_, hRoots, hFree _ ?_ _ ?_⟩
  · simp [hLineages]
  · simp [hRoots]
  · simp [hRoots]

end Forest

end KubeInventory
