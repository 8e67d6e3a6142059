import KubeInventory.Forest.Resolution
import KubeInventory.Proofs.Dict

/-! A pass of the resolution in closed form. The pass looks at one child after the other, but what
it decides for a child does not depend on the children before it: adoption changes neither the names
nor the uids of the parents. So each parent ends up with the children that it controls, and the
others stay in the order of their names. -/

namespace KubeInventory

theorem Kind.ofName?_eq_some_iff {text : String} {k : Kind} :
    Kind.ofName? text = some k ↔ text = k.name := by
  constructor
  · intro h
    have hFound := List.find?_some h
    exact (beq_iff_eq.mp hFound).symm
  · rintro rfl
    exact ofName?_name k

/-- Kinds have different names. -/
theorem Kind.name_injective {a b : Kind} (h : a.name = b.name) : a = b :=
  Option.some.inj ((ofName?_name a).symm.trans (h ▸ ofName?_name b))

namespace Held

variable {k : Kind} {β : Type} [HasMetadata β]

/-- Whether the controller of a child is the parent that is filed under the name. -/
def controls (name : String) (h : Held k β) (child : β) : Bool :=
  (HasMetadata.metadata child).controller?.any fun link =>
    link.kind == k.name && link.name == name && h.metadata.uid == some link.uid

/-- Adopts those of the children that the parent controls. -/
def gather (children : List β) (name : String) (h : Held k β) : Held k β :=
  (children.filter (h.controls name)).foldl adopt h

/-- The controller must be of the kind of the parent, and have its name and its uid. -/
theorem controls_iff {name : String} {h : Held k β} {child : β} :
    h.controls name child = true ↔
      ∃ link, (HasMetadata.metadata child).controller? = some link ∧ link.kind = k.name ∧
        link.name = name ∧ h.metadata.uid = some link.uid := by
  simp [controls, Option.any_eq_true, and_assoc]

@[simp] theorem gather_nil (name : String) (h : Held k β) : gather [] name h = h := rfl

theorem foldl_adopt_object (children : List β) (h : Held k β) :
    (children.foldl adopt h).object = h.object := by
  induction children generalizing h with
  | nil => rfl
  | cons child rest ih => exact ih (h.adopt child)

@[simp] theorem gather_object (children : List β) (name : String) (h : Held k β) :
    (h.gather children name).object = h.object :=
  foldl_adopt_object _ h

/-- A parent stays who it is, whatever it adopts. -/
@[simp] theorem gather_metadata (children : List β) (name : String) (h : Held k β) :
    (h.gather children name).metadata = h.metadata := by
  rw [metadata, gather_object, metadata]

/-- Children are looked at one after the other. -/
theorem gather_append (children : List β) (child : β) (name : String) (h : Held k β) :
    h.gather (children ++ [child]) name =
      if h.controls name child then (h.gather children name).adopt child
      else h.gather children name := by
  rw [gather, List.filter_append, List.foldl_append]
  cases hControls : h.controls name child with
  | true => simp [hControls, gather]
  | false => simp [hControls, gather]

theorem foldl_adopt_adopted (children : List β) (h : Held k β) :
    (children.foldl adopt h).adopted =
      (children.map fun c => (HasMetadata.ownName c, c)).foldl (fun d e => d.insert e.1 e.2)
        h.adopted := by
  induction children generalizing h with
  | nil => rfl
  | cons child rest ih => exact ih (h.adopt child)

end Held

namespace Settling

variable {P β : Type} [HasMetadata β]

/-- The children that have a controller but are not taken, as a summary lists them. -/
def orphans (taken : β → Bool) (entries : List (String × β)) : List Ref :=
  (entries.filter fun e =>
    (HasMetadata.metadata e.2).controller?.isSome && !taken e.2).map fun e => HasMetadata.ref e.2

/-- A pass whose decisions do not depend on the children already moved: `grown` gives the parents
after any list of children has been offered to them. -/
theorem run_eq (adopt? : OwnerReference → β → P → Option P) (taken : β → Bool)
    (grown : List β → P)
    (hFree : ∀ child, (HasMetadata.metadata child).controller? = none → taken child = false)
    (hLeft : ∀ children child, taken child = false → grown (children ++ [child]) = grown children)
    (hAdopt : ∀ children child link, (HasMetadata.metadata child).controller? = some link →
      adopt? link child (grown children) =
        if taken child then some (grown (children ++ [child])) else none)
    (entries : List (String × β)) :
    run adopt? (grown []) entries =
      { parents := grown (entries.map Prod.snd)
        left := Dict.ofList (entries.filter fun e => !taken e.2)
        summary := ⟨entries.countP fun e => taken e.2, orphans taken entries⟩ } := by
  -- A pass is a fold from the left, so the induction takes entries off the end.
  induction entries using List.reverseRecOn with
  | nil => rfl
  | append_singleton prior entry ih =>
      rw [run, List.foldl_append]
      change step adopt? (run adopt? (grown []) prior) entry = _
      rw [ih, step]
      cases hLink : (HasMetadata.metadata entry.2).controller? with
      | none =>
          have hTaken := hFree entry.2 hLink
          simp [hLink, hTaken, hLeft, stay, orphans, Dict.ofList, List.filter_append]
      | some link =>
          simp only [hAdopt _ _ _ hLink]
          cases hTaken : taken entry.2 with
          | true => simp [hTaken, orphans, List.filter_append]
          | false =>
              simp [hLink, hTaken, hLeft, stay, orphans, Dict.ofList, List.filter_append]

end Settling

namespace Forest

variable {k : Kind} {β : Type} [HasMetadata β]

/-- Whether one of the parents controls the child. -/
def takes (parents : Dict String (Held k β)) (child : β) : Bool :=
  parents.entries.any fun e => e.2.controls e.1 child

/-- The parents with the children that each of them controls. -/
def receive (children : List β) (parents : Dict String (Held k β)) : Dict String (Held k β) :=
  parents.mapWithKey fun name h => h.gather children name

theorem entries_receive (children : List β) (parents : Dict String (Held k β)) :
    (receive children parents).entries =
      parents.entries.map fun e => (e.1, e.2.gather children e.1) := rfl

theorem values_receive (children : List β) (parents : Dict String (Held k β)) :
    (receive children parents).values = parents.entries.map fun e => e.2.gather children e.1 := by
  rw [Dict.values, entries_receive, List.map_map]
  rfl

theorem keys_receive (children : List β) (parents : Dict String (Held k β)) :
    (receive children parents).keys = parents.keys := by
  rw [Dict.keys, entries_receive, List.map_map]
  rfl

theorem takes_iff {parents : Dict String (Held k β)} {child : β} :
    takes parents child = true ↔ ∃ e ∈ parents.entries, e.2.controls e.1 child = true := by
  rw [takes, List.any_eq_true]

theorem takes_eq_false_iff {parents : Dict String (Held k β)} {child : β} :
    takes parents child = false ↔ ∀ e ∈ parents.entries, e.2.controls e.1 child = false := by
  simp [takes]

/-- Only the parent that is filed under the name in question can take a child, so one look-up
decides. -/
theorem takes_of_link {parents : Dict String (Held k β)} {child : β} {link : OwnerReference}
    (hLink : (HasMetadata.metadata child).controller? = some link) :
    takes parents child =
      (link.kind == k.name && (parents.get? link.name).any (·.metadata.uid == some link.uid)) := by
  rw [Bool.eq_iff_iff, takes_iff, Bool.and_eq_true, beq_iff_eq, Option.any_eq_true]
  constructor
  · rintro ⟨⟨name, h⟩, hMem, hControls⟩
    obtain ⟨other, hOther, hKind, hName, hUid⟩ := Held.controls_iff.mp hControls
    obtain rfl : link = other := Option.some.inj (hLink.symm.trans hOther)
    refine ⟨hKind, h, ?_, beq_iff_eq.mpr hUid⟩
    rw [hName]
    exact Dict.mem_entries_iff.mp hMem
  · rintro ⟨hKind, h, hGet, hUid⟩
    exact ⟨(link.name, h), Dict.mem_entries_iff.mpr hGet,
      Held.controls_iff.mpr ⟨link, hLink, hKind, rfl, beq_iff_eq.mp hUid⟩⟩

theorem takes_of_no_link {parents : Dict String (Held k β)} {child : β}
    (hLink : (HasMetadata.metadata child).controller? = none) : takes parents child = false := by
  rw [takes_eq_false_iff]
  intro e _
  simp [Held.controls, hLink]

theorem get?_receive (children : List β) (parents : Dict String (Held k β)) (name : String) :
    (receive children parents).get? name =
      (parents.get? name).map fun h => h.gather children name :=
  Dict.get?_mapWithKey parents _ name

@[simp] theorem receive_nil (parents : Dict String (Held k β)) : receive [] parents = parents :=
  Dict.ext_get? fun name => by simp [get?_receive]

/-- A child that nobody takes changes no parent. -/
theorem receive_append_of_not_takes {parents : Dict String (Held k β)} {child : β}
    (h : takes parents child = false) (children : List β) :
    receive (children ++ [child]) parents = receive children parents := by
  apply Dict.ext_get?
  intro name
  rw [get?_receive, get?_receive]
  cases hGet : parents.get? name with
  | none => rfl
  | some parent =>
      have hOther := takes_eq_false_iff.mp h (name, parent) (Dict.mem_entries_iff.mpr hGet)
      simp [Held.gather_append, hOther]

/-- Offering one more child to parents that have received others already. -/
theorem adoptUnder_receive {parents : Dict String (Held k β)} {child : β} {link : OwnerReference}
    (hLink : (HasMetadata.metadata child).controller? = some link) (children : List β) :
    adoptUnder link child (receive children parents) =
      if takes parents child then some (receive (children ++ [child]) parents) else none := by
  rw [adoptUnder, takes_of_link hLink]
  by_cases hKind : link.kind = k.name
  case neg => simp [hKind]
  rw [if_pos (beq_iff_eq.mpr hKind), adoptInto, get?_receive]
  cases hGet : parents.get? link.name with
  | none => simp
  | some parent =>
      by_cases hUid : parent.metadata.uid = some link.uid
      case neg => simp [hUid]
      simp only [Option.map_some, Held.gather_metadata, hUid, hKind, Option.any_some,
        beq_self_eq_true, Bool.and_self, if_true, Option.some.injEq]
      apply Dict.ext_get?
      intro name
      rw [Dict.get?_insert, get?_receive, get?_receive]
      by_cases hName : name = link.name
      · have hControls : parent.controls name child = true :=
          Held.controls_iff.mpr ⟨link, hLink, hKind, hName.symm, hUid⟩
        subst hName
        simp [hGet, Held.gather_append, hControls]
      · -- A parent of another name does not control the child, so its gathering is what it was.
        have hNone : ∀ h : Held k β, h.controls name child = false := by
          intro h
          rw [← Bool.not_eq_true, Held.controls_iff]
          rintro ⟨other, hOther, -, hOtherName, -⟩
          obtain rfl : link = other := Option.some.inj (hLink.symm.trans hOther)
          exact hName hOtherName.symm
        simp [hName, Held.gather_append, hNone]

/-- Parents of another kind do not take a child. -/
theorem takes_eq_false_of_kind_ne {parents : Dict String (Held k β)} {child : β}
    {link : OwnerReference} (hLink : (HasMetadata.metadata child).controller? = some link)
    (hKind : link.kind ≠ k.name) : takes parents child = false := by
  rw [takes_of_link hLink]
  simp [hKind]

/-- The forest after pods have been offered to every root that can own pods. -/
def receivePods (pods : List (Resource .pod)) (f : Forest) : Forest :=
  { f with
    replicaSets := receive pods f.replicaSets
    replicationControllers := receive pods f.replicationControllers
    daemonSets := receive pods f.daemonSets
    statefulSets := receive pods f.statefulSets
    jobs := receive pods f.jobs }

/-- Whether some root controls the pod. -/
def takesPod (f : Forest) (pod : Resource .pod) : Bool :=
  takes f.replicaSets pod || takes f.replicationControllers pod || takes f.daemonSets pod ||
    takes f.statefulSets pod || takes f.jobs pod

/-- Where the link is to an object of one kind, no root of another kind controls the pod, so only
the roots of that kind are changed by it. -/
theorem adoptPod?_receivePods {f : Forest} {pod : Resource .pod} {link : OwnerReference}
    (hLink : pod.metadata.controller? = some link) (pods : List (Resource .pod)) :
    adoptPod? link pod (receivePods pods f) =
      if takesPod f pod then some (receivePods (pods ++ [pod]) f) else none := by
  have hOther {k : Kind} (parents : Dict String (Held k (Resource .pod)))
      (hKind : link.kind ≠ k.name) : takes parents pod = false :=
    takes_eq_false_of_kind_ne hLink hKind
  have hInto {k : Kind} (parents : Dict String (Held k (Resource .pod)))
      (hKind : link.kind = k.name) :
      adoptInto (receive pods parents) link pod =
        if takes parents pod then some (receive (pods ++ [pod]) parents) else none := by
    rw [← adoptUnder_receive hLink, adoptUnder, if_pos (beq_iff_eq.mpr hKind)]
  have hSame {k : Kind} (parents : Dict String (Held k (Resource .pod)))
      (hKind : link.kind ≠ k.name) : receive (pods ++ [pod]) parents = receive pods parents :=
    receive_append_of_not_takes (hOther parents hKind) pods
  rw [adoptPod?]
  cases hRead : Kind.ofName? link.kind with
  | none =>
      have hNe (k : Kind) : link.kind ≠ k.name := fun h => by
        rw [Kind.ofName?_eq_some_iff.mpr h] at hRead
        cases hRead
      simp [takesPod, hOther, hNe]
  | some found =>
      have hFound : link.kind = found.name := Kind.ofName?_eq_some_iff.mp hRead
      have hNe (k : Kind) (h : k ≠ found) : link.kind ≠ k.name := fun hName =>
        h (Kind.name_injective (hName.symm.trans hFound))
      cases found
      case replicaSet | replicationController | daemonSet | statefulSet | job =>
        simp [receivePods, takesPod, hInto _ hFound, hOther, hSame, hNe, apply_ite (Option.map _)]
      all_goals simp [takesPod, hOther, hNe]

/-- Moving pods below the owners of all kinds. -/
theorem run_adoptPod (f : Forest) (entries : List (String × Resource .pod)) :
    Settling.run adoptPod? f entries =
      { parents := receivePods (entries.map Prod.snd) f
        left := Dict.ofList (entries.filter fun e => !f.takesPod e.2)
        summary := ⟨entries.countP fun e => f.takesPod e.2,
          Settling.orphans f.takesPod entries⟩ } := by
  have hNil : receivePods [] f = f := by simp [receivePods]
  have hRun := Settling.run_eq adoptPod? f.takesPod (fun pods => receivePods pods f)
    (fun pod hLink => by
      have hNone {k : Kind} (parents : Dict String (Held k (Resource .pod))) :
          takes parents pod = false := takes_of_no_link hLink
      simp [takesPod, hNone])
    (fun pods pod hTaken => by
      simp only [takesPod, Bool.or_eq_false_iff] at hTaken
      simp [receivePods, receive_append_of_not_takes, hTaken])
    (fun pods pod link hLink => adoptPod?_receivePods hLink pods) entries
  rwa [hNil] at hRun

theorem settlePods_eq (f : Forest) :
    f.settlePods =
      ({ receivePods f.pods.values f with pods := f.pods.without f.takesPod },
        ⟨f.pods.entries.countP fun e => f.takesPod e.2,
          Settling.orphans f.takesPod f.pods.entries⟩) := by
  rw [settlePods, run_adoptPod]
  rfl

/-- Moving the children of one kind below the parents of another. -/
theorem run_adoptUnder (parents : Dict String (Held k β)) (entries : List (String × β)) :
    Settling.run adoptUnder parents entries =
      { parents := receive (entries.map Prod.snd) parents
        left := Dict.ofList (entries.filter fun e => !takes parents e.2)
        summary := ⟨entries.countP fun e => takes parents e.2,
          Settling.orphans (takes parents) entries⟩ } := by
  have hRun := Settling.run_eq adoptUnder (takes parents)
    (fun children => receive children parents)
    (fun child hLink => takes_of_no_link hLink)
    (fun children child hTaken => receive_append_of_not_takes hTaken children)
    (fun children child link hLink => adoptUnder_receive hLink children) entries
  rwa [receive_nil] at hRun

/-- What becomes of the roots of each kind. Replica sets and jobs are moved with the pods that they
have received. -/
theorem forest_resolve (f : Forest) :
    f.resolve.1 =
      { scope := f.scope
        deployments := receive (receive f.pods.values f.replicaSets).values f.deployments
        replicaSets := (receive f.pods.values f.replicaSets).without (takes f.deployments)
        replicationControllers := receive f.pods.values f.replicationControllers
        statefulSets := receive f.pods.values f.statefulSets
        daemonSets := receive f.pods.values f.daemonSets
        cronJobs := receive (receive f.pods.values f.jobs).values f.cronJobs
        jobs := (receive f.pods.values f.jobs).without (takes f.cronJobs)
        pods := f.pods.without f.takesPod
        errors := f.errors } := by
  change f.settlePods.1.settleReplicaSets.1.settleJobs.1 = _
  rw [settleJobs, settleReplicaSets, run_adoptUnder, run_adoptUnder, settlePods_eq]
  rfl

end Forest

end KubeInventory
