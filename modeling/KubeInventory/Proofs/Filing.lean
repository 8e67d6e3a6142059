import KubeInventory.Proofs.Adoption
import KubeInventory.Proofs.Lineage

/-! Everything is filed under its own name. Loading, dropping and resolving all keep this, because
each of them puts an object under no other name than its own. -/

namespace KubeInventory

namespace Dict

variable {β : Type} [HasMetadata β] [Nested β] {d : Dict String β}

theorem wellFiled_empty : (∅ : Dict String β).WellFiled := by
  intro e he
  cases he

/-- An object that goes in under its own name may displace another of that name, and nothing else.
-/
theorem WellFiled.insert (h : d.WellFiled) {x : β} (hx : Nested.WellFiled x) :
    (d.insert (HasMetadata.ownName x) x).WellFiled := by
  intro e he
  rcases mem_entries_insert.mp he with rfl | ⟨-, hOld⟩
  · exact ⟨rfl, hx⟩
  · exact h e hOld

/-- Fewer entries are filed as well as more. -/
theorem WellFiled.of_subset {fewer : Dict String β} (h : d.WellFiled)
    (hSub : fewer.entries ⊆ d.entries) : fewer.WellFiled :=
  fun e he => h e (hSub he)

end Dict

namespace Held

variable {k : Kind} {β : Type} [HasMetadata β] [Nested β]

/-- What a parent adopts is filed below it by name, one child after the other. -/
theorem wellFiled_foldl_adopt {children : List β} (hChildren : ∀ c ∈ children, Nested.WellFiled c)
    {h : Held k β} (hFiled : Nested.WellFiled h) :
    Nested.WellFiled (children.foldl Held.adopt h) := by
  induction children generalizing h with
  | nil => exact hFiled
  | cons child rest ih =>
      have hAdopted : Nested.WellFiled (h.adopt child) :=
        Dict.WellFiled.insert (d := h.adopted) hFiled (hChildren child List.mem_cons_self)
      exact ih (fun c hc => hChildren c (List.mem_cons_of_mem _ hc)) hAdopted

end Held

namespace Forest

variable {k : Kind} {β : Type} [HasMetadata β] [Nested β]

omit [Nested β] in
/-- Each parent gathers the children that are its own, and keeps its place. -/
theorem mem_entries_receive {children : List β} {parents : Dict String (Held k β)}
    {e : String × Held k β} :
    e ∈ (receive children parents).entries ↔
      ∃ old ∈ parents.entries, e = (old.1, old.2.gather children old.1) := by
  rw [entries_receive, List.mem_map]
  simp only [eq_comm]

/-- Children received change what lies below a parent but not its metadata, so not its name either.
-/
theorem wellFiled_receive {children : List β} {parents : Dict String (Held k β)}
    (hParents : parents.WellFiled) (hChildren : ∀ c ∈ children, Nested.WellFiled c) :
    (receive children parents).WellFiled := by
  intro e he
  obtain ⟨⟨name, h⟩, hOld, rfl⟩ := mem_entries_receive.mp he
  obtain ⟨hName, hFiled⟩ := hParents _ hOld
  have hGathered : ∀ c ∈ children.filter (h.controls name), Nested.WellFiled c :=
    fun c hc => hChildren c (List.mem_of_mem_filter hc)
  refine ⟨?_, Held.wellFiled_foldl_adopt hGathered hFiled⟩
  change name = (h.gather children name).metadata.ownName
  rw [Held.gather_metadata]
  exact hName

theorem wellFiled_values {d : Dict String β} (h : d.WellFiled) :
    ∀ x ∈ d.entries.map Prod.snd, Nested.WellFiled x := by
  intro x hx
  obtain ⟨e, he, rfl⟩ := List.mem_map.mp hx
  exact (h e he).2

/-- One pass over one kind of parents: the parents stay filed with what they adopt, and so do the
children that nobody takes. -/
theorem wellFiled_run_adoptUnder {parents : Dict String (Held k β)} {d : Dict String β}
    (hParents : parents.WellFiled) (hChildren : d.WellFiled) :
    (Settling.run adoptUnder parents d.entries).parents.WellFiled ∧
      (Settling.run adoptUnder parents d.entries).left.WellFiled := by
  rw [run_adoptUnder]
  exact ⟨wellFiled_receive hParents (wellFiled_values hChildren),
    hChildren.of_subset (Dict.entries_without_subset _ _)⟩

variable {f : Forest}

/-- Pods settle under parents of five kinds. Deployments and cron jobs hold no pods themselves and
are left alone by this pass. -/
theorem WellFiled.settlePods (h : f.WellFiled) : f.settlePods.1.WellFiled := by
  have hPods : ∀ pod ∈ f.pods.entries.map Prod.snd, Nested.WellFiled pod := fun _ _ => trivial
  rw [settlePods_eq]
  exact
    { deployments := h.deployments
      replicaSets := wellFiled_receive h.replicaSets hPods
      replicationControllers := wellFiled_receive h.replicationControllers hPods
      statefulSets := wellFiled_receive h.statefulSets hPods
      daemonSets := wellFiled_receive h.daemonSets hPods
      cronJobs := h.cronJobs
      jobs := wellFiled_receive h.jobs hPods
      pods := h.pods.of_subset (Dict.entries_without_subset _ _) }

theorem WellFiled.settleReplicaSets (h : f.WellFiled) : f.settleReplicaSets.1.WellFiled := by
  obtain ⟨hParents, hLeft⟩ := wellFiled_run_adoptUnder h.deployments h.replicaSets
  exact { h with deployments := hParents, replicaSets := hLeft }

theorem WellFiled.settleJobs (h : f.WellFiled) : f.settleJobs.1.WellFiled := by
  obtain ⟨hParents, hLeft⟩ := wellFiled_run_adoptUnder h.cronJobs h.jobs
  exact { h with cronJobs := hParents, jobs := hLeft }

/-- Resolution is one pass after the other, each of which leaves a forest filed by name. -/
theorem WellFiled.resolve (h : f.WellFiled) : f.resolve.1.WellFiled :=
  h.settlePods.settleReplicaSets.settleJobs

/-- Filing objects by name puts each under its own. -/
theorem wellFiled_index {objects : List β} (hObjects : ∀ x ∈ objects, Nested.WellFiled x) :
    (index objects).WellFiled := by
  induction objects using List.reverseRecOn with
  | nil => exact Dict.wellFiled_empty
  | append_singleton prior last ih =>
      have hPrior := ih fun x hx => hObjects x (List.mem_append_left _ hx)
      rw [index, List.foldl_append]
      change ((index prior).insertNew (HasMetadata.ownName last) last).WellFiled
      rw [Dict.insertNew]
      split
      · exact hPrior
      · exact hPrior.insert (hObjects last (List.mem_append_right _ List.mem_cons_self))

omit [HasMetadata β] [Nested β] in
/-- Extending a dictionary makes no entries of its own. -/
theorem mem_entries_extend {filed more : Dict String β} {e : String × β}
    (h : e ∈ (extend filed more).entries) : e ∈ filed.entries ∨ e ∈ more.entries := by
  rw [extend] at h
  generalize more.entries = entries at h ⊢
  induction entries generalizing filed with
  | nil => exact Or.inl h
  | cons head rest ih =>
      rcases ih h with hFiled | hRest
      · rcases Dict.mem_entries_insert.mp hFiled with rfl | ⟨-, hOld⟩
        · exact Or.inr List.mem_cons_self
        · exact Or.inl hOld
      · exact Or.inr (List.mem_cons_of_mem _ hRest)

theorem wellFiled_extend {filed more : Dict String β} (hFiled : filed.WellFiled)
    (hMore : more.WellFiled) : (extend filed more).WellFiled := by
  intro e he
  rcases mem_entries_extend he with hOld | hNew
  · exact hFiled e hOld
  · exact hMore e hNew

/-- Objects that are newly listed hold nothing, so nothing below them is out of place. -/
theorem wellFiled_owners (objects : List (Resource k)) :
    ∀ h ∈ (owners objects : List (Held k β)), Nested.WellFiled h := by
  intro h hMem
  obtain ⟨object, -, rfl⟩ := List.mem_map.mp hMem
  exact Dict.wellFiled_empty

/-- Whatever the kind, a listing goes in under the names of its objects, and the roots of the other
kinds stay. -/
theorem WellFiled.load (h : f.WellFiled) (kind : Kind) (objects : List (Resource kind)) :
    (f.load kind objects).WellFiled := by
  have hHeld {k : Kind} {β : Type} [HasMetadata β] [Nested β] {filed : Dict String (Held k β)}
      (hFiled : filed.WellFiled) (listed : List (Resource k)) :
      (extend filed (index (owners listed))).WellFiled :=
    wellFiled_extend hFiled (wellFiled_index (wellFiled_owners listed))
  cases kind
  case deployment => exact { h with deployments := hHeld h.deployments objects }
  case replicaSet => exact { h with replicaSets := hHeld h.replicaSets objects }
  case replicationController =>
    exact { h with replicationControllers := hHeld h.replicationControllers objects }
  case statefulSet => exact { h with statefulSets := hHeld h.statefulSets objects }
  case daemonSet => exact { h with daemonSets := hHeld h.daemonSets objects }
  case cronJob => exact { h with cronJobs := hHeld h.cronJobs objects }
  case job => exact { h with jobs := hHeld h.jobs objects }
  case pod =>
    exact { h with pods := wellFiled_extend h.pods (wellFiled_index fun _ _ => trivial) }
  all_goals exact h

/-- A root that is dropped goes with all below it, and what is left stays where it was. -/
theorem WellFiled.drop (h : f.WellFiled) (kind : Kind) (name : String) :
    (f.drop kind name).WellFiled := by
  have hErase {β : Type} [HasMetadata β] [Nested β] {d : Dict String β} (hd : d.WellFiled) :
      (d.erase name).WellFiled :=
    hd.of_subset (Dict.entries_erase_subset d name)
  cases kind
  case deployment => exact { h with deployments := hErase h.deployments }
  case replicaSet => exact { h with replicaSets := hErase h.replicaSets }
  case replicationController =>
    exact { h with replicationControllers := hErase h.replicationControllers }
  case statefulSet => exact { h with statefulSets := hErase h.statefulSets }
  case daemonSet => exact { h with daemonSets := hErase h.daemonSets }
  case cronJob => exact { h with cronJobs := hErase h.cronJobs }
  case job => exact { h with jobs := hErase h.jobs }
  case pod => exact { h with pods := hErase h.pods }
  all_goals exact h

theorem wellFiled_new (scope : String) : (new scope).WellFiled :=
  ⟨Dict.wellFiled_empty, Dict.wellFiled_empty, Dict.wellFiled_empty, Dict.wellFiled_empty,
    Dict.wellFiled_empty, Dict.wellFiled_empty, Dict.wellFiled_empty, Dict.wellFiled_empty⟩

end Forest

end KubeInventory
