import KubeInventory.Forest
import KubeInventory.Proofs.Dict

/-! Reports as trees of named nodes. A node of a report is known by the names on the way to it, and
workloads are told apart from groups and containers by the kind in their metadata. -/

namespace KubeInventory.Report

mutual
/-- The nodes of a report in the order in which it is read, each with the names that lead to it. Two
nodes may have the same names. -/
def nodes : Report → List (List String × Report)
  | ⟨name, status, metadata, details, children⟩ =>
    ([], ⟨name, status, metadata, details, children⟩) :: nodesOf children

/-- The nodes of several reports, each of which is reached by its own name. -/
def nodesOf : List Report → List (List String × Report)
  | [] => []
  | child :: rest => (nodes child).map (Prod.map (child.name :: ·) id) ++ nodesOf rest
end

theorem nodes_eq (r : Report) : r.nodes = ([], r) :: nodesOf r.children := by
  obtain ⟨name, status, metadata, details, children⟩ := r
  rw [nodes]

theorem nodesOf_eq_flatMap (reports : List Report) :
    nodesOf reports =
      reports.flatMap fun child => child.nodes.map (Prod.map (child.name :: ·) id) := by
  induction reports with
  | nil => rw [nodesOf, List.flatMap_nil]
  | cons head rest ih => rw [nodesOf, ih, List.flatMap_cons]

/-- What a path of names leads to from several reports. -/
def findAmong (reports : List Report) : List String → Option Report
  | [] => none
  | name :: path => (reports.find? (·.name == name)).bind (find? · path)

theorem find?_cons (r : Report) (name : String) (path : List String) :
    r.find? (name :: path) = findAmong r.children (name :: path) := by
  rw [find?, child?, findAmong]

/-- Whether the metadata gives the kind of a workload. -/
def isWorkload (r : Report) : Bool :=
  Kind.workloads.any fun kind => r.metadata.get? "kind" == some kind.name

theorem isWorkload_iff {r : Report} :
    r.isWorkload = true ↔ ∃ kind ∈ Kind.workloads, r.metadata.get? "kind" = some kind.name := by
  simp [isWorkload]

/-- The names that lead to the workloads in a report. -/
def workloadPaths (nodes : List (List String × Report)) : List (List String) :=
  (nodes.filter fun node => node.2.isWorkload).map Prod.fst

/-- The children that are workloads stand in strict order of their names. -/
def Ordered (r : Report) : Prop :=
  (r.children.filter isWorkload).Pairwise fun a b => a.name < b.name

theorem workloadPaths_append (xs ys : List (List String × Report)) :
    workloadPaths (xs ++ ys) = workloadPaths xs ++ workloadPaths ys := by
  rw [workloadPaths, List.filter_append, List.map_append, workloadPaths, workloadPaths]

theorem workloadPaths_flatMap {α : Type} (xs : List α) (g : α → List (List String × Report)) :
    workloadPaths (xs.flatMap g) = xs.flatMap fun x => workloadPaths (g x) := by
  induction xs with
  | nil => rfl
  | cons head rest ih => rw [List.flatMap_cons, workloadPaths_append, ih, List.flatMap_cons]

/-- Names put in front of all paths do not change which nodes are workloads. -/
theorem workloadPaths_map (name : String) (nodes : List (List String × Report)) :
    workloadPaths (nodes.map (Prod.map (name :: ·) id)) =
      (workloadPaths nodes).map (name :: ·) := by
  rw [workloadPaths, List.filter_map, List.map_map, workloadPaths, List.map_map]
  rfl

theorem workloadPaths_nodes (r : Report) :
    workloadPaths r.nodes =
      (if r.isWorkload then [[]] else []) ++ workloadPaths (nodesOf r.children) := by
  rw [nodes_eq, workloadPaths, List.filter_cons]
  cases r.isWorkload with
  | true => rfl
  | false => rfl

end KubeInventory.Report
