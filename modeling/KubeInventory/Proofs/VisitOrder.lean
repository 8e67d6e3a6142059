import KubeInventory.Proofs.Summary

/-! Resolution in any order. A resolution visits what is pending in the order of the names, and
moves replica sets before jobs. Neither makes a difference: a parent ends up with the children that
it controls, whenever each of them comes along. It has to be asked that objects are filed under
their own names. Of two children of one name that were pending under different keys, the later one
would stay below their parent. -/

namespace KubeInventory

/-- An order in which a pass visits what is pending. -/
structure Visit (β : Type) where
  order : List (String × β) → List (String × β)
  perm (pending : List (String × β)) : (order pending).Perm pending

namespace Visit

variable {β : Type}

/-- What is pending is in the order of its keys already. -/
def byKey : Visit β := ⟨id, List.Perm.refl⟩

def backwards : Visit β := ⟨List.reverse, List.reverse_perm⟩

end Visit

/-- The way in which a resolution goes: the order of each of its passes, and whether that over jobs
comes before that over replica sets. Pods are always first. -/
structure Itinerary where
  pods : Visit (Resource .pod)
  replicaSets : Visit (PodOwner .replicaSet)
  jobs : Visit (PodOwner .job)
  jobsFirst : Bool

namespace Itinerary

def usual : Itinerary := ⟨.byKey, .byKey, .byKey, false⟩

def backwards : Itinerary := ⟨.backwards, .backwards, .backwards, true⟩

end Itinerary

namespace Forest

/-- Moves pods below their owners, in some order. -/
def settlePodsBy (visit : Visit (Resource .pod)) (f : Forest) : Forest × Summary :=
  let settled := Settling.run adoptPod? f (visit.order f.pods.entries)
  ({ settled.parents with pods := settled.left }, settled.summary)

/-- Moves replica sets below their deployments, in some order. -/
def settleReplicaSetsBy (visit : Visit (PodOwner .replicaSet)) (f : Forest) : Forest × Summary :=
  let settled := Settling.run adoptUnder f.deployments (visit.order f.replicaSets.entries)
  ({ f with deployments := settled.parents, replicaSets := settled.left }, settled.summary)

/-- Moves jobs below their schedules, in some order. -/
def settleJobsBy (visit : Visit (PodOwner .job)) (f : Forest) : Forest × Summary :=
  let settled := Settling.run adoptUnder f.cronJobs (visit.order f.jobs.entries)
  ({ f with cronJobs := settled.parents, jobs := settled.left }, settled.summary)

/-- Resolves the ownership of all roots along a way. -/
def resolveBy (way : Itinerary) (f : Forest) : Forest × Summary :=
  let (f, pods) := f.settlePodsBy way.pods
  if way.jobsFirst then
    let (f, jobs) := f.settleJobsBy way.jobs
    let (f, replicaSets) := f.settleReplicaSetsBy way.replicaSets
    (f, (pods.merge jobs).merge replicaSets)
  else
    let (f, replicaSets) := f.settleReplicaSetsBy way.replicaSets
    let (f, jobs) := f.settleJobsBy way.jobs
    (f, (pods.merge replicaSets).merge jobs)

theorem resolveBy_usual (f : Forest) : f.resolveBy .usual = f.resolve := rfl

end Forest

namespace Summary

/-- The same count and the same orphans, in whatever order. -/
structure Agrees (a b : Summary) : Prop where
  adopted : a.adopted = b.adopted
  orphans : a.orphans.Perm b.orphans

variable {a b c d : Summary}

theorem Agrees.trans (h : a.Agrees b) (k : b.Agrees c) : a.Agrees c :=
  ⟨h.adopted.trans k.adopted, h.orphans.trans k.orphans⟩

theorem Agrees.merge (h : a.Agrees b) (k : c.Agrees d) : (a.merge c).Agrees (b.merge d) :=
  ⟨congrArg₂ (· + ·) h.adopted k.adopted, h.orphans.append k.orphans⟩

theorem agrees_merge_right_comm (a b c : Summary) :
    ((a.merge b).merge c).Agrees ((a.merge c).merge b) := by
  refine ⟨Nat.add_right_comm a.adopted b.adopted c.adopted, ?_⟩
  change ((a.orphans ++ b.orphans) ++ c.orphans).Perm ((a.orphans ++ c.orphans) ++ b.orphans)
  rw [List.append_assoc, List.append_assoc]
  exact List.perm_append_comm.append_left a.orphans

end Summary

namespace Held

variable {k : Kind} {β : Type} [HasMetadata β]

/-- Children of different names can be gathered in any order. -/
theorem gather_of_perm {children others : List β} (hPerm : children.Perm others)
    (hNames : (children.map HasMetadata.ownName).Nodup) (name : String) (h : Held k β) :
    h.gather children name = h.gather others name := by
  have hAdopted : (h.gather children name).adopted = (h.gather others name).adopted := by
    rw [gather, foldl_adopt_adopted, gather, foldl_adopt_adopted]
    refine Dict.foldl_insert_eq_of_perm ((hPerm.filter _).map _) ?_ h.adopted
    rw [List.map_map]
    exact hNames.sublist (List.filter_sublist.map _)
  have hObject : (h.gather children name).object = (h.gather others name).object := by
    rw [gather_object, gather_object]
  exact congrArg₂ Held.mk hObject hAdopted

end Held

namespace Settling

variable {P β : Type} [HasMetadata β]

/-- Two passes that leave the same, and count and list the same in whatever order. -/
structure Agrees (s t : Settling P β) : Prop where
  parents : s.parents = t.parents
  left : s.left = t.left
  summary : s.summary.Agrees t.summary

/-- What a pass decides for each child apart is the same in any order, so only what the parents
receive is still to be compared. -/
theorem agrees_of_perm (taken : β → Bool) {parents others : P} (hParents : parents = others)
    {xs ys : List (String × β)} (hPerm : xs.Perm ys) (hKeys : (ys.map Prod.fst).Nodup) :
    Agrees
      ⟨parents, Dict.ofList (xs.filter fun e => !taken e.2),
        ⟨xs.countP fun e => taken e.2, orphans taken xs⟩⟩
      ⟨others, Dict.ofList (ys.filter fun e => !taken e.2),
        ⟨ys.countP fun e => taken e.2, orphans taken ys⟩⟩ where
  parents := hParents
  left := by
    have hLeft : ((xs.filter fun e => !taken e.2).map Prod.fst).Nodup :=
      ((hPerm.map Prod.fst).nodup_iff.mpr hKeys).sublist (List.filter_sublist.map _)
    exact Dict.ofList_eq_of_perm (hPerm.filter _) hLeft
  summary := ⟨hPerm.countP_eq _, (hPerm.filter _).map _⟩

end Settling

namespace Forest

section Passes

variable {k : Kind} {β : Type} [HasMetadata β]

theorem receive_of_perm {children others : List β} (hPerm : children.Perm others)
    (hNames : (children.map HasMetadata.ownName).Nodup) (parents : Dict String (Held k β)) :
    receive children parents = receive others parents := by
  apply Dict.ext_get?
  intro name
  rw [get?_receive, get?_receive]
  exact congrArg (Option.map · (parents.get? name))
    (funext fun h => h.gather_of_perm hPerm hNames name)

theorem names_nodup_of_perm [Nested β] {d : Dict String β} (h : d.WellFiled)
    {pending : List (String × β)} (hPerm : pending.Perm d.entries) :
    ((pending.map Prod.snd).map HasMetadata.ownName).Nodup :=
  ((hPerm.map Prod.snd).map HasMetadata.ownName).nodup_iff.mpr h.names_nodup

theorem run_adoptUnder_of_perm [Nested β] (parents : Dict String (Held k β)) {d : Dict String β}
    (h : d.WellFiled) {pending : List (String × β)} (hPerm : pending.Perm d.entries) :
    (Settling.run adoptUnder parents pending).Agrees
      (Settling.run adoptUnder parents d.entries) := by
  rw [run_adoptUnder, run_adoptUnder]
  exact Settling.agrees_of_perm _
    (receive_of_perm (hPerm.map _) (names_nodup_of_perm h hPerm) parents) hPerm d.keys_nodup

theorem run_adoptPod_of_perm {f : Forest} (h : f.pods.WellFiled)
    {pending : List (String × Resource .pod)} (hPerm : pending.Perm f.pods.entries) :
    (Settling.run adoptPod? f pending).Agrees (Settling.run adoptPod? f f.pods.entries) := by
  have hSame {k : Kind} (parents : Dict String (PodOwner k)) :=
    receive_of_perm (hPerm.map Prod.snd) (names_nodup_of_perm h hPerm) parents
  have hParents : receivePods (pending.map Prod.snd) f =
      receivePods (f.pods.entries.map Prod.snd) f := by
    simp only [receivePods, hSame]
  rw [run_adoptPod, run_adoptPod]
  exact Settling.agrees_of_perm _ hParents hPerm f.pods.keys_nodup

end Passes

/-- The same forest, with summaries that agree. -/
structure SameOutcome (a b : Forest × Summary) : Prop where
  forest : a.1 = b.1
  summary : a.2.Agrees b.2

variable {f : Forest}

theorem settlePodsBy_same (h : f.WellFiled) (visit : Visit (Resource .pod)) :
    SameOutcome (f.settlePodsBy visit) f.settlePods := by
  have hPass := run_adoptPod_of_perm h.pods (visit.perm f.pods.entries)
  refine ⟨?_, hPass.summary⟩
  rw [settlePodsBy, settlePods, hPass.parents, hPass.left]

theorem settleReplicaSetsBy_same (h : f.WellFiled) (visit : Visit (PodOwner .replicaSet)) :
    SameOutcome (f.settleReplicaSetsBy visit) f.settleReplicaSets := by
  have hPass := run_adoptUnder_of_perm f.deployments h.replicaSets
    (visit.perm f.replicaSets.entries)
  refine ⟨?_, hPass.summary⟩
  rw [settleReplicaSetsBy, settleReplicaSets, hPass.parents, hPass.left]

theorem settleJobsBy_same (h : f.WellFiled) (visit : Visit (PodOwner .job)) :
    SameOutcome (f.settleJobsBy visit) f.settleJobs := by
  have hPass := run_adoptUnder_of_perm f.cronJobs h.jobs (visit.perm f.jobs.entries)
  refine ⟨?_, hPass.summary⟩
  rw [settleJobsBy, settleJobs, hPass.parents, hPass.left]

/-- Replica sets and jobs move below different parents, so neither pass sees anything of the other.
-/
theorem resolveBy_same (h : f.WellFiled) (way : Itinerary) :
    SameOutcome (f.resolveBy way) f.resolve := by
  have hPods := settlePodsBy_same h way.pods
  cases hFirst : way.jobsFirst with
  | false =>
      have hReplicaSets := settleReplicaSetsBy_same h.settlePods way.replicaSets
      have hJobs := settleJobsBy_same h.settlePods.settleReplicaSets way.jobs
      simp only [resolveBy, hFirst, hPods.forest, hReplicaSets.forest, Bool.false_eq_true, if_false]
      exact ⟨hJobs.forest, (hPods.summary.merge hReplicaSets.summary).merge hJobs.summary⟩
  | true =>
      have hJobs := settleJobsBy_same h.settlePods way.jobs
      have hReplicaSets := settleReplicaSetsBy_same h.settlePods.settleJobs way.replicaSets
      simp only [resolveBy, hFirst, hPods.forest, hJobs.forest, if_true]
      refine ⟨hReplicaSets.forest, ?_⟩
      have hMerged := (hPods.summary.merge hJobs.summary).merge hReplicaSets.summary
      exact hMerged.trans (Summary.agrees_merge_right_comm _ _ _)

/-- In whatever order a resolution visits the pending pods, replica sets and jobs, and whether it
moves jobs or replica sets first, it comes to the forest and the count that it usually comes to. The
orphans are the same as well, but it lists them in the order in which it meets them. -/
theorem resolve_in_any_order (h : f.WellFiled) (way : Itinerary) :
    f.resolveBy .usual = f.resolve ∧ (f.resolveBy way).1 = f.resolve.1 ∧
      (f.resolveBy way).2.adopted = f.resolve.2.adopted ∧
      (f.resolveBy way).2.orphans.Perm f.resolve.2.orphans := by
  have hSame := resolveBy_same h way
  exact ⟨resolveBy_usual f, hSame.forest, hSame.summary.adopted, hSame.summary.orphans⟩

/-- Backwards, the orphans come in another order. -/
theorem resolve_in_any_order_bereaved :
    bereaved.WellFiled ∧
      (bereaved.resolveBy .backwards).2.orphans.map Ref.name =
        ["lost-1", "lost-0", "lost-job", "lost-set"] ∧
      bereaved.resolve.2.orphans.map Ref.name = ["lost-0", "lost-1", "lost-set", "lost-job"] ∧
      (bereaved.resolveBy .backwards).1 = bereaved.resolve.1 ∧
      (bereaved.resolveBy .backwards).2.adopted = bereaved.resolve.2.adopted ∧
      (bereaved.resolveBy .backwards).2.orphans.Perm bereaved.resolve.2.orphans := by
  have hFiled : bereaved.WellFiled :=
    ((((wellFiled_new "shop").load .deployment _).load .replicaSet _).load .job _).load .pod _
  refine ⟨hFiled, ?_, ?_, (resolve_in_any_order hFiled .backwards).2⟩
  · decide +kernel
  · decide +kernel

end Forest

end KubeInventory
