import KubeInventory.Proofs.Resolution

/-! The summary of a resolution against the roots. A pass counts what some parent takes and lists
what is left with a controller, so its summary can be read off the roots before it and after it.
Only pods, replica sets and jobs come into it: a deployment that names a controller is no orphan,
for nothing ever looks for that controller. -/

namespace KubeInventory

namespace Dict

variable {β : Type}

variable [HasMetadata β]

/-- References to the objects that declare a controller, in the order of their keys. -/
def claimants (d : Dict String β) : List Ref :=
  (d.values.filter fun x => (HasMetadata.metadata x).DeclaresController).map HasMetadata.ref

/-- The same objects, as a pass finds them. -/
theorem claimants_eq_filter_controller? (d : Dict String β) :
    d.claimants =
      (d.values.filter fun x => (HasMetadata.metadata x).controller?.isSome).map
        HasMetadata.ref := by
  rw [claimants]
  simp only [← Metadata.isSome_controller?_iff, Bool.decide_eq_true]

theorem orphans_eq_claimants (d : Dict String β) (taken : β → Bool) :
    Settling.orphans taken d.entries = (d.without taken).claimants := by
  rw [Settling.orphans, claimants_eq_filter_controller?, values, entries_without, List.filter_map,
    List.filter_filter, List.map_map]
  rfl

end Dict

namespace Forest

section Receive

variable {k : Kind} {β : Type} [HasMetadata β]

end Receive

/-- References to the roots that declare a controller, of the kinds that something can hold. -/
def claimants (f : Forest) : List Ref :=
  f.pods.claimants ++ f.replicaSets.claimants ++ f.jobs.claimants

variable {f : Forest}

theorem summary_resolve (f : Forest) :
    f.resolve.2 =
      ⟨f.pods.values.countP f.takesPod +
          (receive f.pods.values f.replicaSets).values.countP (takes f.deployments) +
          (receive f.pods.values f.jobs).values.countP (takes f.cronJobs),
        f.resolve.1.claimants⟩ := by
  have hCount {β : Type} (d : Dict String β) (taken : β → Bool) :
      d.values.countP taken = d.entries.countP fun e => taken e.2 :=
    List.countP_map
  rw [claimants, forest_resolve]
  simp only [← Dict.orphans_eq_claimants, hCount]
  change (f.settlePods.2.merge f.settlePods.1.settleReplicaSets.2).merge
    f.settlePods.1.settleReplicaSets.1.settleJobs.2 = _
  rw [settleJobs, settleReplicaSets, run_adoptUnder, run_adoptUnder, settlePods_eq]
  rfl

theorem orphans_resolve (f : Forest) : f.resolve.2.orphans = f.resolve.1.claimants := by
  rw [summary_resolve]

/-- A replica set with two pods, objects of three kinds whose controllers are gone, and a deployment
that declares a controller although nothing holds deployments. -/
def bereaved : Forest :=
  let object (k : Kind) (name uid : String) (owners : List OwnerReference) : Resource k :=
    ⟨{ Metadata.empty with name := some name, uid := some uid, owners := owners }, none, none⟩
  let gone (kind : String) : OwnerReference := ⟨kind, "gone", "u0", some true⟩
  let web : OwnerReference := ⟨"ReplicaSet", "web", "u1", some true⟩
  ((((new "shop").load .deployment [object _ "canary" "u8" [gone "Rollout"]]).load .replicaSet
      [object _ "web" "u1" [], object _ "lost-set" "u2" [gone "Deployment"]]).load .job
        [object _ "lost-job" "u3" [gone "CronJob"]]).load .pod
          [object _ "web-0" "u4" [web], object _ "web-1" "u5" [web],
            object _ "lost-0" "u6" [gone "ReplicaSet"], object _ "lost-1" "u7" [gone "Job"]]

end Forest

end KubeInventory
