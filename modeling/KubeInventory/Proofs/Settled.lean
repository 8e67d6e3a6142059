import KubeInventory.Proofs.Summary

/-! Resolving again. A resolution ends in a forest in which no root takes another, and it changes
nothing in such a forest. That the end is of this kind is not plain from the passes: replica sets
and jobs leave the roots after pods have been offered to them, so a later pass searches fewer
parents. Those that are left take no more than before, as adoption changes neither their names nor
their uids. -/

namespace KubeInventory.Forest

/-- No pod, replica set or job at the roots is taken by another root. Nothing is asked of what lies
below the roots. -/
structure Settled (f : Forest) : Prop where
  pods : ∀ pod ∈ f.pods.values, f.takesPod pod = false
  replicaSets : ∀ replicaSet ∈ f.replicaSets.values, takes f.deployments replicaSet = false
  jobs : ∀ job ∈ f.jobs.values, takes f.cronJobs job = false

section Receive

variable {k : Kind} {β : Type} [HasMetadata β]

theorem controls_gather (children : List β) (name other : String) (h : Held k β) :
    (h.gather children name).controls other = h.controls other := by
  funext child
  rw [Held.controls, Held.gather_metadata, Held.controls]

theorem takes_receive (children : List β) (parents : Dict String (Held k β)) :
    takes (receive children parents) = takes parents := by
  funext child
  rw [takes, entries_receive, List.any_map, takes]
  simp only [Function.comp_def, controls_gather]

/-- Fewer parents take no more. -/
theorem takes_without {parents : Dict String (Held k β)} {child : β}
    (h : takes parents child = false) (taken : Held k β → Bool) :
    takes (parents.without taken) child = false := by
  rw [takes_eq_false_iff] at h ⊢
  intro e he
  rw [Dict.entries_without] at he
  exact h e (List.mem_of_mem_filter he)

theorem receive_eq_self {children : List β} {parents : Dict String (Held k β)}
    (h : ∀ child ∈ children, takes parents child = false) : receive children parents = parents := by
  induction children using List.reverseRecOn with
  | nil => exact receive_nil parents
  | append_singleton prior last ih =>
      rw [receive_append_of_not_takes (h last (List.mem_append_right _ List.mem_cons_self))]
      exact ih fun child hChild => h child (List.mem_append_left _ hChild)

end Receive

variable {f : Forest}

theorem takesPod_eq_false_iff {pod : Resource .pod} :
    f.takesPod pod = false ↔
      takes f.replicaSets pod = false ∧ takes f.replicationControllers pod = false ∧
        takes f.daemonSets pod = false ∧ takes f.statefulSets pod = false ∧
        takes f.jobs pod = false := by
  simp only [takesPod, Bool.or_eq_false_iff, and_assoc]

/-- Resolution leaves nothing at the roots that it could move. -/
theorem settled_resolve (f : Forest) : f.resolve.1.Settled := by
  rw [forest_resolve]
  constructor
  case pods =>
    intro pod hPod
    obtain ⟨-, hFree⟩ := Dict.mem_values_without.mp hPod
    rw [takesPod_eq_false_iff] at hFree ⊢
    obtain ⟨hReplicaSets, hControllers, hDaemonSets, hStatefulSets, hJobs⟩ := hFree
    simp only [takes_receive]
    -- The replica sets and jobs that are searched again are some of those searched before.
    refine ⟨takes_without ?_ _, hControllers, hDaemonSets, hStatefulSets, takes_without ?_ _⟩
    · rwa [takes_receive]
    · rwa [takes_receive]
  case replicaSets =>
    intro replicaSet hReplicaSet
    rw [takes_receive]
    exact (Dict.mem_values_without.mp hReplicaSet).2
  case jobs =>
    intro job hJob
    rw [takes_receive]
    exact (Dict.mem_values_without.mp hJob).2

/-- A settled forest is left as it is. Its orphans are listed all the same. -/
theorem resolve_of_settled (h : f.Settled) : f.resolve = (f, ⟨0, f.claimants⟩) := by
  have hPods {k : Kind} {parents : Dict String (PodOwner k)}
      (hFree : ∀ pod ∈ f.pods.values, takes parents pod = false) :
      receive f.pods.values parents = parents := receive_eq_self hFree
  have hFree := fun pod hPod => takesPod_eq_false_iff.mp (h.pods pod hPod)
  have hReplicaSets := hPods fun pod hPod => (hFree pod hPod).1
  have hControllers := hPods fun pod hPod => (hFree pod hPod).2.1
  have hDaemonSets := hPods fun pod hPod => (hFree pod hPod).2.2.1
  have hStatefulSets := hPods fun pod hPod => (hFree pod hPod).2.2.2.1
  have hJobs := hPods fun pod hPod => (hFree pod hPod).2.2.2.2
  have hNone {β : Type} {d : Dict String β} {taken : β → Bool}
      (hLeft : ∀ x ∈ d.values, taken x = false) : d.values.countP taken = 0 :=
    List.countP_eq_zero.mpr fun x hx => by simp [hLeft x hx]
  have hForest : f.resolve.1 = f := by
    rw [forest_resolve, hReplicaSets, hControllers, hDaemonSets, hStatefulSets, hJobs,
      receive_eq_self h.replicaSets, receive_eq_self h.jobs, Dict.without_eq_self h.pods,
      Dict.without_eq_self h.replicaSets, Dict.without_eq_self h.jobs]
  refine Prod.ext hForest ?_
  rw [summary_resolve, hForest, hReplicaSets, hJobs, hNone h.pods, hNone h.replicaSets,
    hNone h.jobs]

/-- Resolving a forest again changes nothing in it, whatever it was before, and nothing in its
report. It adopts nothing, and lists the orphans of the first time in their order. -/
theorem resolve_resolve (f : Forest) :
    f.resolve.1.resolve = (f.resolve.1, ⟨0, f.resolve.2.orphans⟩) ∧
      f.resolve.1.resolve.1.report = f.resolve.1.report := by
  have hAgain := resolve_of_settled (settled_resolve f)
  refine ⟨?_, ?_⟩
  · rw [hAgain, orphans_resolve]
  · rw [hAgain]

end KubeInventory.Forest
