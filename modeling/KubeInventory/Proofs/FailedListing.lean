import KubeInventory.Proofs.NamespaceReport
import Mathlib.Data.List.DropRight

/-! A listing that fails takes the objects of its kind out of the forest and nothing else. What
stood below such an object stands at a root then, with all that was below it; every other object
stands where it stood. -/

namespace KubeInventory

/-- The lineage once the objects of a kind are gone: all down to the last of them is cut off. -/
def Lineage.cutAt (kind : Kind) (lineage : Lineage) : Lineage :=
  { lineage with ancestors := lineage.ancestors.rtakeWhile fun x => x.kind ≠ kind }

namespace Forest

/-- A forest in which the same objects own each other as in another, but for those of a kind, has
the same lineages down from the last object of that kind. -/
theorem place_eq_cutAt {f g : Forest} {kind : Kind}
    (hParent : ∀ x, g.parent? x = (f.parent? x).filter fun p => p.kind ≠ kind) (x : Item) :
    g.place x = (f.place x).cutAt kind := by
  -- The induction goes up to the parent, which has one ancestor less.
  induction hHeight : (f.place x).ancestors.length generalizing x with
  | zero =>
      have hNone : f.parent? x = none := by
        cases hSome : f.parent? x with
        | none => rfl
        | some p =>
            rw [place_of_some hSome, List.length_append] at hHeight
            cases hHeight
      rw [place_of_none hNone, place_of_none (by rw [hParent, hNone]; rfl)]
      rfl
  | succ height ih =>
      cases hSome : f.parent? x with
      | none =>
          rw [place_of_none hSome] at hHeight
          cases hHeight
      | some p =>
          rw [place_of_some hSome] at hHeight ⊢
          by_cases hKind : p.kind = kind
          · have hNone : g.parent? x = none := by simp [hParent, hSome, hKind]
            rw [place_of_none hNone, Lineage.cutAt, List.rtakeWhile_concat_neg _ _ _ (by simpa)]
          · have hStill : g.parent? x = some p := by simp [hParent, hSome, hKind]
            have hAbove := ih p (by simpa using hHeight)
            rw [place_of_some hStill, hAbove, Lineage.cutAt, Lineage.cutAt,
              List.rtakeWhile_concat_pos _ _ _ (by simpa)]

section Failure

variable {c d : Cluster} {scope : String} {kind : Kind} {e : FetchError}

theorem listed_of_error (h : c.list kind scope = .error e) : listed c scope kind = [] := by
  rw [listed, h]
  rfl

/-- What the other listings contribute stays. -/
theorem inventory_of_failed (hFailed : d.list kind scope = .error e)
    (hOthers : ∀ other ∈ Kind.workloads, other ≠ kind → d.list other scope = c.list other scope) :
    inventory d scope = (inventory c scope).filter fun x => x.kind ≠ kind := by
  rw [inventory, inventory, List.filter_flatMap]
  refine List.flatMap_congr fun other hOther => ?_
  by_cases hKind : other = kind
  · subst hKind
    rw [listed_of_error hFailed, eq_comm, List.filter_eq_nil_iff]
    intro x hx
    simp [kind_of_mem_listed hx]
  · have hSame : listed d scope other = listed c scope other := by
      rw [listed, listed, hOthers other hOther hKind]
    rw [hSame, eq_comm, List.filter_eq_self]
    intro x hx
    simp [kind_of_mem_listed hx, hKind]

theorem parent?_list_of_failed (hFailed : d.list kind scope = .error e)
    (hOthers : ∀ other ∈ Kind.workloads, other ≠ kind → d.list other scope = c.list other scope)
    (x : Item) :
    (list d scope).parent? x = ((list c scope).parent? x).filter fun p => p.kind ≠ kind := by
  ext p
  rw [Option.filter_eq_some_iff, parent?_list_iff, parent?_list_iff,
    inventory_of_failed hFailed hOthers, List.mem_filter, and_right_comm]

theorem lineages_populate_of_failed (hFailed : d.list kind scope = .error e)
    (hOthers : ∀ other ∈ Kind.workloads, other ≠ kind → d.list other scope = c.list other scope) :
    (populate d scope).1.lineages.Perm
      (((populate c scope).1.lineages.filter fun lineage => lineage.object.kind ≠ kind).map
        (Lineage.cutAt kind)) := by
  have hPlace : (list d scope).place = Lineage.cutAt kind ∘ (list c scope).place :=
    funext (place_eq_cutAt (parent?_list_of_failed hFailed hOthers))
  rw [← Multiset.coe_eq_coe, lineages_populate, inventory_of_failed hFailed hOthers, hPlace,
    ← Multiset.map_coe, ← Multiset.filter_coe, ← Multiset.filter_coe, lineages_populate,
    Multiset.filter_map, Multiset.map_map]
  simp only [Function.comp_def, object_place]

/-- The errors differ in that of the one listing. -/
theorem errors_populate_of_failed {objects : List (Resource kind)}
    (hKind : kind ∈ Kind.workloads) (hListed : c.list kind scope = .ok objects)
    (hFailed : d.list kind scope = .error e) (hOwn : e.kind = kind)
    (hOthers : ∀ other ∈ Kind.workloads, other ≠ kind → d.list other scope = c.list other scope)
    (hErrors : ∀ other ∈ Kind.workloads, ∀ e, c.list other scope = .error e → e.kind = other) :
    (populate c scope).1.errors.get? kind = none ∧
      (populate d scope).1.errors = (populate c scope).1.errors.insert kind e.message := by
  have hErrorsLater : ∀ other ∈ Kind.workloads, ∀ e, d.list other scope = .error e →
      e.kind = other := by
    intro other hOther e' hError
    by_cases hSame : other = kind
    · subst hSame
      rw [hFailed] at hError
      cases hError
      exact hOwn
    · rw [hOthers other hOther hSame] at hError
      exact hErrors other hOther e' hError
  refine ⟨?_, Dict.ext_get? fun other => ?_⟩
  · rw [get?_errors_populate hErrors, hListed]
    exact ite_self none
  · rw [Dict.get?_insert, get?_errors_populate hErrors, get?_errors_populate hErrorsLater]
    by_cases hSame : other = kind
    · subst hSame
      rw [if_pos hKind, if_pos rfl, hFailed]
      rfl
    · rw [if_neg hSame]
      split
      · rename_i hOther
        rw [hOthers other hOther hSame]
      · rfl

/-- When the listing of one kind fails and the others are as before, there is one error more and no
object of the kind. Each other object is there still, once, and the objects above it are those that
stood above it before, from the last one of the kind down. There is no further object. -/
theorem populate_of_failed_listing {objects : List (Resource kind)}
    (hKind : kind ∈ Kind.workloads) (hListed : c.list kind scope = .ok objects)
    (hFailed : d.list kind scope = .error e) (hOwn : e.kind = kind)
    (hOthers : ∀ other ∈ Kind.workloads, other ≠ kind → d.list other scope = c.list other scope)
    (hErrors : ∀ other ∈ Kind.workloads, ∀ e, c.list other scope = .error e → e.kind = other) :
    (populate c scope).1.errors.get? kind = none ∧
      (populate d scope).1.errors = (populate c scope).1.errors.insert kind e.message ∧
      (∀ x ∈ (populate d scope).1.objects, x.kind ≠ kind) ∧
      (populate d scope).1.objects.Nodup ∧
      (populate d scope).1.lineages.Perm
        (((populate c scope).1.lineages.filter fun lineage => lineage.object.kind ≠ kind).map
          (Lineage.cutAt kind)) := by
  obtain ⟨hNone, hInsert⟩ :=
    errors_populate_of_failed hKind hListed hFailed hOwn hOthers hErrors
  have hObjects := objects_populate_perm d scope
  refine ⟨hNone, hInsert, fun x hx => ?_, ?_, lineages_populate_of_failed hFailed hOthers⟩
  · have hMem := hObjects.mem_iff.mp hx
    rw [inventory_of_failed hFailed hOthers, List.mem_filter] at hMem
    exact of_decide_eq_true hMem.2
  · exact hObjects.nodup_iff.mpr (inventory_nodup d scope)

end Failure

open Shop in
/-- Without the replica set its pod stands at a root, and the deployment is left alone. -/
theorem populate_of_failed_listing_replicaSets :
    (populate (cluster (.ok [web])) "shop").1.lineages =
        [⟨[], .mk .deployment site⟩, ⟨[.mk .deployment site], .mk .replicaSet web⟩,
          ⟨[.mk .deployment site, .mk .replicaSet web], .mk .pod pod⟩] ∧
      (populate (cluster (.error (.broken .replicaSet "reset"))) "shop").1.lineages.Perm
        [⟨[], .mk .deployment site⟩, ⟨[], .mk .pod pod⟩] := by
  have hBefore : (populate (cluster (.ok [web])) "shop").1.lineages =
      [⟨[], .mk .deployment site⟩, ⟨[.mk .deployment site], .mk .replicaSet web⟩,
        ⟨[.mk .deployment site, .mk .replicaSet web], .mk .pod pod⟩] := by rfl
  have hListed : (cluster (.ok [web])).list .replicaSet "shop" = .ok [web] := rfl
  have hFailed : (cluster (.error (.broken .replicaSet "reset"))).list .replicaSet "shop" =
      .error (.broken .replicaSet "reset") := rfl
  have hOthers : ∀ other ∈ Kind.workloads, other ≠ .replicaSet →
      (cluster (.error (.broken .replicaSet "reset"))).list other "shop" =
        (cluster (.ok [web])).list other "shop" := by
    intro other _ hNe
    cases other <;> first | rfl | exact absurd rfl hNe
  have hErrors : ∀ other ∈ Kind.workloads, ∀ e,
      (cluster (.ok [web])).list other "shop" = .error e → e.kind = other := by
    intro other _ e hFailed
    cases other <;> cases hFailed
  obtain ⟨-, -, -, -, hAfter⟩ :=
    populate_of_failed_listing (by decide) hListed hFailed rfl hOthers hErrors
  rw [hBefore] at hAfter
  exact ⟨hBefore, hAfter⟩

end Forest

end KubeInventory
