import KubeInventory.Proofs.Filing
import KubeInventory.Proofs.Relocation

/-! Resolution as a whole. Its three passes compose to one relocation of lineages: the parent of a
root comes in front, then the parent of that parent, and no chain of owners is longer. -/

namespace KubeInventory

@[simp] theorem HasMetadata.kind_resource (k : Kind) : HasMetadata.kind (Resource k) = k := rfl

@[simp] theorem HasMetadata.kind_held (k : Kind) (β : Type) :
    HasMetadata.kind (Held k β) = k := rfl

/-- What holds something that holds something is held by nothing itself. -/
theorem Kind.not_held_of_held {a b c : Kind} (hHeld : a.held? = some b) (hNext : b.held? = some c)
    (k : Kind) : k.held? ≠ some a := by
  cases a <;> cases hHeld <;> first | cases hNext; done | (cases k <;> decide)

namespace Forest

/-- The root that owns the object, if there is one. -/
def parent? (f : Forest) (x : Item) : Option Item := x.ownerAmong f.roots

/-- The roots that can hold objects of the kind. -/
def ownersOf (f : Forest) (kind : Kind) : List Item :=
  f.roots.filter fun p => p.kind.held? = some kind

theorem filter_items {β : Type} [HasMetadata β] [Nested β] (d : Dict String β) (kind : Kind) :
    (d.items.filter fun p => p.kind.held? = some kind) =
      if (HasMetadata.kind β).held? = some kind then d.items else [] := by
  split
  · rename_i hHolds
    refine List.filter_eq_self.mpr fun p hp => ?_
    rw [Dict.kind_of_mem_items hp]
    exact decide_eq_true hHolds
  · rename_i hHolds
    refine List.filter_eq_nil_iff.mpr fun p hp => ?_
    rw [Dict.kind_of_mem_items hp, decide_eq_true_iff]
    exact hHolds

variable {f : Forest}

theorem ownersOf_pod : f.ownersOf .pod =
    f.replicaSets.items ++ f.replicationControllers.items ++ f.statefulSets.items ++
      f.daemonSets.items ++ f.jobs.items := by
  simp only [ownersOf, roots, List.filter_append, filter_items, HasMetadata.kind_held,
    HasMetadata.kind_resource]
  simp [Kind.held?]

theorem ownersOf_replicaSet : f.ownersOf .replicaSet = f.deployments.items := by
  simp only [ownersOf, roots, List.filter_append, filter_items, HasMetadata.kind_held,
    HasMetadata.kind_resource]
  simp [Kind.held?]

theorem ownersOf_job : f.ownersOf .job = f.cronJobs.items := by
  simp only [ownersOf, roots, List.filter_append, filter_items, HasMetadata.kind_held,
    HasMetadata.kind_resource]
  simp [Kind.held?]

/-- Each pass looks for owners among the roots that can hold what it moves, which are all that could
own it. -/
theorem ownerAmong_ownersOf (x : Item) : x.ownerAmong (f.ownersOf x.kind) = f.parent? x := by
  rw [Item.ownerAmong, ownersOf, List.find?_filter, parent?, Item.ownerAmong]
  congr 1
  funext p
  rw [Bool.eq_iff_iff]
  simp only [decide_eq_true_iff]
  exact ⟨And.right, fun h => ⟨h.1, h⟩⟩

theorem ownerAmong_ownersOf_of_ne {x : Item} {kind : Kind} (h : x.kind ≠ kind) :
    x.ownerAmong (f.ownersOf kind) = none := by
  apply Item.ownerAmong_eq_none
  intro p hp hHeld
  have hKind : p.kind.held? = some kind := of_decide_eq_true (List.mem_filter.mp hp).2
  exact h (Option.some.inj (hHeld.symm.trans hKind))

theorem WellFiled.pairwise_roots (h : f.WellFiled) (x : Item) :
    f.roots.Pairwise fun p q => x.OwnedBy p → x.OwnedBy q → False := by
  have hOne {β : Type} [HasMetadata β] [Nested β] {d : Dict String β} (hd : d.WellFiled) :
      d.items.Pairwise fun p q => x.OwnedBy p → x.OwnedBy q → False :=
    hd.pairwise_owners x
  have hTwo {β γ : Type} [HasMetadata β] [Nested β] [HasMetadata γ] [Nested γ]
      {d : Dict String β} {e : Dict String γ} (hKinds : HasMetadata.kind β ≠ HasMetadata.kind γ) :
      ∀ p ∈ d.items, ∀ q ∈ e.items, x.OwnedBy p → x.OwnedBy q → False := by
    intro p hp q hq hOwnP hOwnQ
    have hSame := (hOwnP.same hOwnQ).1
    rw [Dict.kind_of_mem_items hp, Dict.kind_of_mem_items hq] at hSame
    exact hKinds hSame
  simp only [roots, List.pairwise_append, List.mem_append, or_imp, forall_and]
  have hDeployments := hOne h.deployments
  have hReplicaSets := hOne h.replicaSets
  have hReplicationControllers := hOne h.replicationControllers
  have hStatefulSets := hOne h.statefulSets
  have hDaemonSets := hOne h.daemonSets
  have hCronJobs := hOne h.cronJobs
  have hJobs := hOne h.jobs
  have hPods := hOne h.pods
  and_intros
  all_goals first | assumption | exact hTwo (by decide)

theorem coe_lineages (f : Forest) :
    (f.lineages : Multiset Lineage) =
      f.deployments.lineages + f.replicaSets.lineages + f.replicationControllers.lineages +
        f.statefulSets.lineages + f.daemonSets.lineages + f.cronJobs.lineages + f.jobs.lineages +
        f.pods.lineages := by
  simp only [lineages, Multiset.coe_add]

theorem held?_of_mem_ownersOf {p : Item} {kind : Kind} (h : p ∈ f.ownersOf kind) :
    p.kind.held? = some kind :=
  of_decide_eq_true (List.mem_filter.mp h).2

/-- No root of this kind can move in a pass over another kind, nor can it lose anything by it. -/
theorem pass_ownersOf_rest {β : Type} [HasMetadata β] [Nested β] (d : Dict String β) {kind : Kind}
    {children : List Item} (hChildren : ∀ child ∈ children, child.kind = kind)
    (hApart : HasMetadata.kind β ≠ kind ∧ (HasMetadata.kind β).held? ≠ some kind) :
    Lineage.pass (f.ownersOf kind) children d.lineages = d.lineages := by
  obtain ⟨hKind, hHeld⟩ := hApart
  apply pass_rest
  · intro p hp hHolds
    rw [held?_of_mem_ownersOf hp] at hHolds
    exact hKind (Option.some.inj hHolds).symm
  · intro child hChild
    rw [hChildren child hChild]
    exact hHeld

/-- A pod is taken if some root owns it. -/
theorem takesPod_iff (h : f.WellFiled) {pod : Resource .pod} :
    f.takesPod pod = true ↔ ∃ p ∈ f.ownersOf .pod, (Nested.item pod).OwnedBy p := by
  have hOr {xs ys : List Item} : (∃ p ∈ xs ++ ys, (Nested.item pod).OwnedBy p) ↔
      (∃ p ∈ xs, (Nested.item pod).OwnedBy p) ∨ ∃ p ∈ ys, (Nested.item pod).OwnedBy p := by
    simp only [List.mem_append, or_and_right, exists_or]
  rw [takesPod, ownersOf_pod]
  simp only [hOr, Bool.or_eq_true]
  rw [takes_iff_ownedBy h.replicaSets rfl, takes_iff_ownedBy h.replicationControllers rfl,
    takes_iff_ownedBy h.statefulSets rfl, takes_iff_ownedBy h.daemonSets rfl,
    takes_iff_ownedBy h.jobs rfl]
  simp only [or_assoc, or_left_comm, or_comm]

/-- What owners of pods look like after the pods have been offered to them. -/
theorem lineages_receivePods {k : Kind} {parents : Dict String (PodOwner k)}
    (hHolds : k.held? = some .pod) (hParents : parents.WellFiled) (hPods : f.pods.WellFiled) :
    ((receive f.pods.values parents).lineages : Multiset Lineage) =
      Lineage.pass (f.ownersOf .pod) f.pods.items parents.lineages +
        (parents.items : Multiset Item).bind fun parent =>
          ((f.pods.values : Multiset (Resource .pod)).filter fun pod =>
            (Nested.item pod).OwnedBy parent).bind fun pod =>
              (Nested.lineages pod : Multiset Lineage).map (Lineage.under parent) := by
  have hNotPod : k ≠ .pod := by
    rintro rfl
    cases hHolds
  have hOwners : ∀ p ∈ f.ownersOf .pod, p.kind.held? ≠ some k := by
    intro p hp
    rw [held?_of_mem_ownersOf hp]
    exact fun hEq => hNotPod (Option.some.inj hEq).symm
  rw [pass_parents hOwners]
  exact lineages_receive hHolds hPods.names_nodup hParents

/-- The pass over pods. -/
theorem lineages_settlePods (h : f.WellFiled) :
    (f.settlePods.1.lineages : Multiset Lineage) =
      Lineage.pass (f.ownersOf .pod) f.pods.items f.lineages := by
  have hPods : ∀ child ∈ f.pods.items, child.kind = .pod := fun _ => Dict.kind_of_mem_items
  have hOne (pod : Resource .pod) : (f.ownersOf .pod).Pairwise fun p q =>
      (Nested.item pod).OwnedBy p → (Nested.item pod).OwnedBy q → False :=
    (h.pairwise_roots (Nested.item pod)).filter _
  have hLeaf : ∀ child ∈ f.pods.items, Kind.held? .pod ≠ some child.kind := by
    intro child hChild
    rw [hPods child hChild]
    decide
  have hLeft := pass_children (d := f.pods) f.takesPod (fun e _ => takesPod_iff h) hOne hLeaf
  rw [settlePods_eq, coe_lineages, coe_lineages f]
  simp only [Lineage.pass_add]
  rw [hLeft, pass_ownersOf_rest f.deployments hPods (by decide),
    pass_ownersOf_rest f.cronJobs hPods (by decide)]
  change (f.deployments.lineages : Multiset Lineage) +
      (receive f.pods.values f.replicaSets).lineages +
      (receive f.pods.values f.replicationControllers).lineages +
      (receive f.pods.values f.statefulSets).lineages +
      (receive f.pods.values f.daemonSets).lineages + f.cronJobs.lineages +
      (receive f.pods.values f.jobs).lineages + _ = _
  rw [lineages_receivePods rfl h.replicaSets h.pods,
    lineages_receivePods rfl h.replicationControllers h.pods,
    lineages_receivePods rfl h.statefulSets h.pods, lineages_receivePods rfl h.daemonSets h.pods,
    lineages_receivePods rfl h.jobs h.pods, ownersOf_pod]
  simp only [← Multiset.coe_add, Multiset.add_bind]
  abel

/-- The pass over replica sets. -/
theorem lineages_settleReplicaSets (h : f.WellFiled) :
    (f.settleReplicaSets.1.lineages : Multiset Lineage) =
      Lineage.pass (f.ownersOf .replicaSet) f.replicaSets.items f.lineages := by
  have hChildren : ∀ child ∈ f.replicaSets.items, child.kind = .replicaSet :=
    fun _ => Dict.kind_of_mem_items
  have hMoved := lineages_run_adoptUnder (by rfl) (by decide) (by decide) h.deployments
    h.replicaSets
  rw [← ownersOf_replicaSet] at hMoved
  rw [settleReplicaSets, coe_lineages, coe_lineages f]
  simp only [Lineage.pass_add]
  rw [Lineage.pass_add] at hMoved
  rw [hMoved, pass_ownersOf_rest f.replicationControllers hChildren (by decide),
    pass_ownersOf_rest f.statefulSets hChildren (by decide),
    pass_ownersOf_rest f.daemonSets hChildren (by decide),
    pass_ownersOf_rest f.cronJobs hChildren (by decide),
    pass_ownersOf_rest f.jobs hChildren (by decide),
    pass_ownersOf_rest f.pods hChildren (by decide)]

/-- The pass over jobs. -/
theorem lineages_settleJobs (h : f.WellFiled) :
    (f.settleJobs.1.lineages : Multiset Lineage) =
      Lineage.pass (f.ownersOf .job) f.jobs.items f.lineages := by
  have hChildren : ∀ child ∈ f.jobs.items, child.kind = .job := fun _ => Dict.kind_of_mem_items
  have hMoved := lineages_run_adoptUnder (by rfl) (by decide) (by decide) h.cronJobs h.jobs
  rw [← ownersOf_job, Lineage.pass_add] at hMoved
  rw [settleJobs, coe_lineages, coe_lineages f]
  simp only [Lineage.pass_add]
  rw [pass_ownersOf_rest f.deployments hChildren (by decide),
    pass_ownersOf_rest f.replicaSets hChildren (by decide),
    pass_ownersOf_rest f.replicationControllers hChildren (by decide),
    pass_ownersOf_rest f.statefulSets hChildren (by decide),
    pass_ownersOf_rest f.daemonSets hChildren (by decide),
    pass_ownersOf_rest f.pods hChildren (by decide)]
  rw [add_assoc _ (Lineage.pass _ _ (f.cronJobs.lineages : Multiset Lineage)), ← hMoved]
  abel

/-- The owner among the roots, if there is one, is the only one. -/
theorem parent?_eq_some_iff (h : f.WellFiled) {x p : Item} :
    f.parent? x = some p ↔ p ∈ f.roots ∧ x.OwnedBy p := by
  constructor
  · exact Item.ownedBy_of_ownerAmong
  · rintro ⟨hRoot, hOwned⟩
    have hFound := filter_eq_toList_find? (p := fun p => decide (x.OwnedBy p))
      (by simpa using h.pairwise_roots x)
    have hMem : p ∈ f.roots.filter fun p => x.OwnedBy p :=
      List.mem_filter.mpr ⟨hRoot, decide_eq_true hOwned⟩
    rw [hFound, Option.mem_toList] at hMem
    exact hMem

theorem parent?_eq_none_iff {x : Item} : f.parent? x = none ↔ ∀ p ∈ f.roots, ¬x.OwnedBy p := by
  simp [parent?, Item.ownerAmong]

theorem lift_ownersOf (kind : Kind) (lineage : Lineage) :
    lineage.lift (Item.ownerAmong (f.ownersOf kind)) =
      if lineage.root.kind = kind then lineage.lift f.parent? else lineage := by
  split
  · rename_i hKind
    rw [Lineage.lift, ← hKind, ownerAmong_ownersOf, Lineage.lift]
  · rename_i hKind
    exact Lineage.lift_of_none (ownerAmong_ownersOf_of_ne hKind)

theorem kind_root_lift (lineage : Lineage) :
    (lineage.lift f.parent?).root.kind = lineage.root.kind ∨
      (lineage.lift f.parent?).root.kind.held? = some lineage.root.kind := by
  cases hParent : f.parent? lineage.root with
  | none => exact Or.inl (by rw [Lineage.lift_of_none hParent])
  | some top =>
      right
      rw [Lineage.lift_of_some hParent]
      exact (Item.ownedBy_of_ownerAmong hParent).2.1

/-- Nothing comes in front of a root of a kind that no kind holds. -/
theorem lift_of_unheld {lineage : Lineage} (h : ∀ k : Kind, k.held? ≠ some lineage.root.kind) :
    lineage.lift f.parent? = lineage :=
  Lineage.lift_of_none (Item.ownerAmong_eq_none fun p _ => h p.kind)

/-- The passes go through the kinds in such an order that each root meets first its parent and then
the parent of its parent: pods come before replica sets and jobs, which come before no other. -/
theorem lift_passes (lineage : Lineage) :
    ((lineage.lift (Item.ownerAmong (f.ownersOf .pod))).lift
        (Item.ownerAmong (f.ownersOf .replicaSet))).lift (Item.ownerAmong (f.ownersOf .job)) =
      (lineage.lift f.parent?).lift f.parent? := by
  simp only [lift_ownersOf]
  cases hParent : f.parent? lineage.root with
  | none => simp [Lineage.lift_of_none hParent]
  | some top =>
      have hHolds : top.kind.held? = some lineage.root.kind :=
        (Item.ownedBy_of_ownerAmong hParent).2.1
      have hLift : lineage.lift f.parent? = lineage.under top := Lineage.lift_of_some hParent
      cases hTop : top.kind
      case replicaSet =>
        -- The second pass may lift the replica set to a deployment, which is no job.
        obtain hKind : .pod = lineage.root.kind := by simpa [hTop, Kind.held?] using hHolds
        have hNotJob : ((lineage.under top).lift f.parent?).root.kind ≠ .job := by
          intro hJob
          have hRoot := kind_root_lift (f := f) (lineage.under top)
          rw [hJob, Lineage.root_under, hTop] at hRoot
          revert hRoot
          decide
        simp [← hKind, hLift, hTop, hNotJob]
      case job =>
        obtain hKind : .pod = lineage.root.kind := by simpa [hTop, Kind.held?] using hHolds
        simp [← hKind, hLift, hTop]
      case deployment | replicationController | statefulSet | daemonSet | cronJob =>
        have hStay : (lineage.under top).lift f.parent? = lineage.under top := by
          refine lift_of_unheld fun k => ?_
          rw [Lineage.root_under, hTop]
          cases k <;> decide
        rw [hTop] at hHolds
        have hKind := Option.some.inj hHolds
        simp [← hKind, hLift, hTop, hStay]
      all_goals simp [hTop, Kind.held?] at hHolds

/-- Only pods, replica sets and jobs displace anything, for no other kind can be held. -/
theorem displacedBy_roots_iff {lineage : Lineage} :
    lineage.DisplacedBy f.roots ↔
      lineage.DisplacedBy f.pods.items ∨ lineage.DisplacedBy f.replicaSets.items ∨
        lineage.DisplacedBy f.jobs.items := by
  have hOnly : lineage.DisplacedBy f.roots ↔ ∃ kind, lineage.DisplacedBy (f.rootsOf kind) := by
    constructor
    · intro h
      obtain ⟨ancestors, object⟩ := lineage
      cases ancestors with
      | nil => cases h
      | cons top rest =>
          obtain ⟨child, hChild, hRest⟩ := h
          exact ⟨child.kind, child, mem_rootsOf_iff.mpr ⟨hChild, rfl⟩, hRest⟩
    · rintro ⟨kind, h⟩
      exact h.mono fun x hx => (mem_rootsOf_iff.mp hx).1
  rw [hOnly]
  constructor
  · rintro ⟨kind, h⟩
    have hHeld : ∃ k : Kind, k.held? = some kind := by
      by_contra hNone
      refine absurd h (Lineage.not_displacedBy fun child hChild hHolds => hNone ?_)
      rw [← kind_of_mem_rootsOf hChild]
      exact ⟨_, hHolds⟩
    -- The kinds that are held are those of the three passes.
    obtain ⟨k, hk⟩ := hHeld
    cases k <;> cases hk <;>
      first | exact Or.inl h | exact Or.inr (Or.inl h) | exact Or.inr (Or.inr h)
  · rintro (h | h | h)
    exacts [⟨.pod, h⟩, ⟨.replicaSet, h⟩, ⟨.job, h⟩]

/-- Moving the owners in front of a root of one kind does not change what objects of another kind
displace, unless the one kind holds the other. -/
theorem displacedBy_lift_ownersOf {kind : Kind} {children : List Item}
    (hChildren : ∀ child ∈ children, child.kind ≠ kind ∧ kind.held? ≠ some child.kind)
    (lineage : Lineage) :
    (lineage.lift (Item.ownerAmong (f.ownersOf kind))).DisplacedBy children ↔
      lineage.DisplacedBy children := by
  cases hParent : lineage.root.ownerAmong (f.ownersOf kind) with
  | none => rw [Lineage.lift_of_none hParent]
  | some top =>
      obtain ⟨hTop, hOwned⟩ := Item.ownedBy_of_ownerAmong hParent
      have hHeld := held?_of_mem_ownersOf hTop
      have hKind : lineage.root.kind = kind := Option.some.inj (hOwned.1.symm.trans hHeld)
      rw [Lineage.lift_of_some hParent]
      constructor
      · rintro ⟨child, hChild, ⟨hHolds, -⟩, -⟩
        rw [hHeld] at hHolds
        exact absurd (Option.some.inj hHolds).symm (hChildren child hChild).1
      · intro hDisplaced
        refine absurd hDisplaced (Lineage.not_displacedBy fun child hChild => ?_)
        rw [hKind]
        exact (hChildren child hChild).2

/-- What resolution does to all lineages at once. -/
theorem lineages_resolve (h : f.WellFiled) :
    (f.resolve.1.lineages : Multiset Lineage) =
      ((f.lineages : Multiset Lineage).filter fun lineage => ¬lineage.DisplacedBy f.roots).map
        fun lineage => (lineage.lift f.parent?).lift f.parent? := by
  have hPods := h.settlePods
  have hReplicaSets := hPods.settleReplicaSets
  have hFirst := lineages_settlePods h
  have hSecond := lineages_settleReplicaSets hPods
  have hThird := lineages_settleJobs hReplicaSets
  have hOwners : f.settlePods.1.ownersOf .replicaSet = f.ownersOf .replicaSet := by
    rw [ownersOf_replicaSet, ownersOf_replicaSet, settlePods_eq]
    rfl
  have hOwnersLast : f.settlePods.1.settleReplicaSets.1.ownersOf .job = f.ownersOf .job := by
    rw [ownersOf_job, ownersOf_job, settleReplicaSets, settlePods_eq]
    rfl
  have hChildren : f.settlePods.1.replicaSets.items = f.replicaSets.items := by
    rw [settlePods_eq]
    exact items_receive _ _
  have hChildrenLast : f.settlePods.1.settleReplicaSets.1.jobs.items = f.jobs.items := by
    rw [settleReplicaSets, settlePods_eq]
    exact items_receive _ _
  -- Each pass changes what is held only, so a later one meets the owners and children of before.
  rw [hOwners, hChildren] at hSecond
  rw [hOwnersLast, hChildrenLast] at hThird
  change (f.settlePods.1.settleReplicaSets.1.settleJobs.1.lineages : Multiset Lineage) = _
  rw [hThird, hSecond, hFirst]
  have hSets (lineage : Lineage) :
      (lineage.lift (Item.ownerAmong (f.ownersOf .pod))).DisplacedBy f.replicaSets.items ↔
        lineage.DisplacedBy f.replicaSets.items :=
    displacedBy_lift_ownersOf (fun child hChild => by
      rw [Dict.kind_of_mem_items hChild]
      decide) lineage
  have hJobs (kind : Kind) (hKind : .job ≠ kind) (hHeld : kind.held? ≠ some .job)
      (lineage : Lineage) :
      (lineage.lift (Item.ownerAmong (f.ownersOf kind))).DisplacedBy f.jobs.items ↔
        lineage.DisplacedBy f.jobs.items :=
    displacedBy_lift_ownersOf (fun child hChild => by
      rw [Dict.kind_of_mem_items hChild]
      exact ⟨hKind, hHeld⟩) lineage
  simp only [Lineage.pass, Multiset.filter_map, Multiset.map_map, Multiset.filter_filter]
  refine congrArg₂ Multiset.map (funext lift_passes) (Multiset.filter_congr fun lineage _ => ?_)
  simp only [Function.comp_apply, hSets, hJobs .replicaSet (by decide) (by decide),
    hJobs .pod (by decide) (by decide)]
  rw [displacedBy_roots_iff, not_or, not_or]
  constructor
  · rintro ⟨hNoJob, hNoSet, hNoPod⟩
    exact ⟨hNoPod, hNoSet, hNoJob⟩
  · rintro ⟨hNoPod, hNoSet, hNoJob⟩
    exact ⟨hNoJob, hNoSet, hNoPod⟩

/-- After resolution a lineage is an old one that was not displaced, with its owners on top. -/
theorem mem_lineages_resolve (h : f.WellFiled) {lineage : Lineage} :
    lineage ∈ f.resolve.1.lineages ↔
      ∃ old ∈ f.lineages, ¬old.DisplacedBy f.roots ∧
        (old.lift f.parent?).lift f.parent? = lineage := by
  rw [← Multiset.mem_coe, lineages_resolve h]
  simp only [Multiset.mem_map, Multiset.mem_filter, Multiset.mem_coe, and_assoc]

/-- Nothing stands above the parent of a parent: it is a deployment or a cron job. -/
theorem parent?_parent? {x p q : Item} (hParent : f.parent? x = some p)
    (hGrand : f.parent? p = some q) : f.parent? q = none := by
  have hHolds : p.kind.held? = some x.kind := (Item.ownedBy_of_ownerAmong hParent).2.1
  have hAbove : q.kind.held? = some p.kind := (Item.ownedBy_of_ownerAmong hGrand).2.1
  exact Item.ownerAmong_eq_none fun r _ => Kind.not_held_of_held hAbove hHolds r.kind

theorem lift_eq_root_iff {lineage : Lineage} {x : Item} :
    lineage.lift f.parent? = ⟨[], x⟩ ↔ lineage = ⟨[], x⟩ ∧ f.parent? x = none := by
  constructor
  · intro hLift
    cases hParent : f.parent? lineage.root with
    | none =>
        rw [Lineage.lift_of_none hParent] at hLift
        rw [hLift] at hParent
        exact ⟨hLift, hParent⟩
    | some top =>
        rw [Lineage.lift_of_some hParent] at hLift
        cases hLift
  · rintro ⟨rfl, hParent⟩
    exact Lineage.lift_of_none hParent

/-- The roots after resolution are the roots before it that no root owns. -/
theorem mem_roots_resolve (h : f.WellFiled) {x : Item} :
    x ∈ f.resolve.1.roots ↔ x ∈ f.roots ∧ f.parent? x = none := by
  rw [← root_lineage_mem_iff, mem_lineages_resolve h, ← root_lineage_mem_iff]
  constructor
  · rintro ⟨old, hOld, -, hLift⟩
    obtain ⟨hOnce, hFree⟩ := lift_eq_root_iff.mp hLift
    obtain ⟨rfl, -⟩ := lift_eq_root_iff.mp hOnce
    exact ⟨hOld, hFree⟩
  · rintro ⟨hRoot, hFree⟩
    have hOnce : (⟨[], x⟩ : Lineage).lift f.parent? = ⟨[], x⟩ := lift_eq_root_iff.mpr ⟨rfl, hFree⟩
    refine ⟨⟨[], x⟩, hRoot, id, ?_⟩
    rw [hOnce, hOnce]

/-- Where resolution puts a root. -/
def place (f : Forest) (x : Item) : Lineage := ((⟨[], x⟩ : Lineage).lift f.parent?).lift f.parent?

@[simp] theorem object_place (x : Item) : (f.place x).object = x := by
  rw [place, Lineage.object_lift, Lineage.object_lift]

theorem place_eq_mk (x : Item) : f.place x = ⟨(f.place x).ancestors, x⟩ :=
  congrArg (Lineage.mk (f.place x).ancestors) (object_place x)

theorem place_of_none {x : Item} (h : f.parent? x = none) : f.place x = ⟨[], x⟩ := by
  have hOnce : (⟨[], x⟩ : Lineage).lift f.parent? = ⟨[], x⟩ := Lineage.lift_of_none h
  rw [place, hOnce, hOnce]

/-- A root that has a parent is put below it, wherever the parent itself is put. -/
theorem place_of_some {x p : Item} (h : f.parent? x = some p) :
    f.place x = ⟨(f.place p).ancestors ++ [p], x⟩ := by
  have hOnce : (⟨[], x⟩ : Lineage).lift f.parent? = ⟨[p], x⟩ := Lineage.lift_of_some h
  rw [place, hOnce]
  cases hGrand : f.parent? p with
  | none =>
      rw [place_of_none hGrand]
      exact Lineage.lift_of_none hGrand
  | some q =>
      have hAbove : f.place p = ⟨[q], p⟩ := by
        have hLifted : (⟨[], p⟩ : Lineage).lift f.parent? = ⟨[q], p⟩ := Lineage.lift_of_some hGrand
        rw [place, hLifted]
        exact Lineage.lift_of_none (parent?_parent? h hGrand)
      rw [hAbove]
      exact Lineage.lift_of_some hGrand

/-- What resolution leaves alone: the roots that nothing can own keep their names, and the errors
stay. -/
theorem resolve_frame (f : Forest) :
    f.resolve.1.scope = f.scope ∧ f.resolve.1.errors = f.errors ∧
      f.resolve.1.deployments.keys = f.deployments.keys ∧
      f.resolve.1.cronJobs.keys = f.cronJobs.keys ∧
      f.resolve.1.replicationControllers.keys = f.replicationControllers.keys ∧
      f.resolve.1.statefulSets.keys = f.statefulSets.keys ∧
      f.resolve.1.daemonSets.keys = f.daemonSets.keys := by
  rw [forest_resolve]
  exact ⟨rfl, rfl, keys_receive _ _, keys_receive _ _, keys_receive _ _, keys_receive _ _,
    keys_receive _ _⟩

end Forest

end KubeInventory
