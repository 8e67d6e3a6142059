import KubeInventory.Proofs.Fields
import KubeInventory.Proofs.Keys
import KubeInventory.Proofs.Rendering
import Mathlib.Data.List.Forall2

/-! Containers and their statuses. A pod shows each of its containers with the first status of the
container's name among those of its own sort, so nothing else in the two lists of statuses shows,
even if a container that runs before the others has the name of one that runs later. -/

namespace KubeInventory

/-- Lists of statuses that tell the same of the containers of some names. -/
inductive ContainerStatus.SameFor (names : List String) (xs ys : List ContainerStatus) : Prop where
  /-- The first status of each of the names is the same. -/
  | first (h : ∀ name ∈ names, xs.find? (·.name == name) = ys.find? (·.name == name))
  /-- The order is another one, but for statuses of one name. -/
  | reordered (h : ∀ name, xs.filter (·.name == name) = ys.filter (·.name == name))
  /-- Statuses of other names are put in or left out. -/
  | extended (h : xs.filter (fun s => s.name ∈ names) = ys.filter fun s => s.name ∈ names)

/-- Whichever way the lists agree, the first status of each of the names is the same. -/
theorem ContainerStatus.SameFor.find?_eq {names : List String} {xs ys : List ContainerStatus}
    (h : SameFor names xs ys) {name : String} (hName : name ∈ names) :
    xs.find? (·.name == name) = ys.find? (·.name == name) := by
  cases h with
  | first hFirst => exact hFirst name hName
  | reordered hFilter => rw [← List.head?_filter, hFilter, List.head?_filter]
  | extended hFilter =>
      have hKept (zs : List ContainerStatus) : zs.find? (·.name == name) =
          (zs.filter fun s => s.name ∈ names).find? (·.name == name) := by
        rw [List.find?_filter]
        congr 1
        funext s
        by_cases hSame : s.name = name <;> simp [hSame, hName]
      rw [hKept xs, hFilter, ← hKept ys]

namespace Container

/-- The node shows a status: how far the container has come, and what is told beside that. -/
structure ShowsStatus (s : ContainerStatus) (node : Report) : Prop where
  state : match s.state with
    | some (.running facts) => node.status = "Running" ∧
        node.details.get? "state" = some (.object [("running", facts)])
    | some (.waiting facts) => node.status = "Waiting" ∧
        node.details.get? "state" = some (.object [("waiting", facts)])
    | some (.terminated facts) => node.status = "Terminated" ∧
        node.details.get? "state" = some (.object [("terminated", facts)])
    | none => node.status = "Unknown" ∧ node.details.get? "state" = none
  imageID : node.details.get? "imageID" = some (.string s.imageID)
  ready : node.details.get? "ready" = some (.bool s.ready)
  restartCount : node.details.get? "restartCount" = some (.int s.restartCount)

/-- The node shows no status at all. -/
structure ShowsNoStatus (node : Report) : Prop where
  status : node.status = "Unknown"
  details : ∀ key ∈ ["state", "imageID", "ready", "restartCount"], node.details.get? key = none

/-- The node shows a container, with the first status of its name if there is one. -/
structure Shows (isInit : Bool) (statuses : List ContainerStatus) (c : Container) (node : Report) :
    Prop where
  name_eq : node.name = c.name
  init_eq : node.metadata.get? "init" = if isInit then some "true" else none
  of_first : ∀ s, IsFirst ContainerStatus.name statuses s → s.name = c.name → ShowsStatus s node
  of_absent : (∀ s ∈ statuses, s.name ≠ c.name) → ShowsNoStatus node

/-- What is shown of a container without its status. -/
def shell (c : Container) (status : String) (isInit : Bool) : Report :=
  let base := (Report.new c.name status)
    |>.withMetadata "kind" "Container"
    |>.withDetail "image" (.ofText? c.image)
    |>.withDetail "command" (.ofTexts? c.command)
    |>.withDetail "args" (.ofTexts? c.args)
    |>.withDetail "volumeMounts" (.orNull c.volumeMounts)
  if isInit then base.withMetadata "init" "true" else base

variable {c : Container} {statuses : List ContainerStatus} {isInit : Bool}

theorem name_shell (status : String) : (c.shell status isInit).name = c.name := by
  cases isInit <;> rfl

theorem status_shell (status : String) : (c.shell status isInit).status = status := by
  cases isInit <;> rfl

theorem init_shell (status : String) : (c.shell status isInit).metadata.get? "init" =
    if isInit then some "true" else none := by
  cases isInit <;> simp [shell, Report.get?_metadata_withMetadata, Report.new]

/-- A container tells nothing of a status before one is found for it. -/
theorem details_shell (status : String) {key : String}
    (hKey : key ∈ ["state", "imageID", "ready", "restartCount"]) :
    (c.shell status isInit).details.get? key = none := by
  simp only [List.mem_cons, List.not_mem_nil, or_false] at hKey
  rcases hKey with rfl | rfl | rfl | rfl <;> cases isInit <;>
    simp [shell, Report.get?_details_withDetail, Report.new]

/-- A container without a status is shown bare. -/
theorem report_of_absent (h : statuses.find? (·.name == c.name) = none) :
    c.report statuses isInit = c.shell "Unknown" isInit := by
  simp only [report, h]
  rfl

/-- A container with a status has what that tells added to its own. -/
theorem report_of_first {s : ContainerStatus} (h : statuses.find? (·.name == c.name) = some s) :
    c.report statuses isInit =
      ((c.shell ((s.state.map (·.label)).getD "Unknown") isInit).withOptionalDetail "state"
        (s.state.map (·.facts))
        |>.withDetail "imageID" (.string s.imageID)
        |>.withDetail "ready" (.bool s.ready)
        |>.withDetail "restartCount" (.int s.restartCount)) := by
  simp only [report, h]
  rfl

theorem showsStatus_of_first {s : ContainerStatus}
    (h : statuses.find? (·.name == c.name) = some s) :
    ShowsStatus s (c.report statuses isInit) := by
  rw [report_of_first h]
  constructor
  case state =>
    cases hState : s.state with
    | none =>
        simp [Report.get?_details_withDetail, Report.withOptionalDetail, status_shell,
          details_shell]
    | some state =>
        cases state <;>
          simp [Report.get?_details_withDetail, Report.withOptionalDetail, status_shell,
            ContainerState.label, ContainerState.facts, Value.isNull]
  all_goals simp [Report.get?_details_withDetail]

theorem showsNoStatus_of_absent (h : statuses.find? (·.name == c.name) = none) :
    ShowsNoStatus (c.report statuses isInit) := by
  rw [report_of_absent h]
  exact ⟨status_shell _, fun key hKey => details_shell _ hKey⟩

/-- Only the first status of the name comes into the report, whether it is there or not. -/
theorem shows_report (isInit : Bool) (statuses : List ContainerStatus) (c : Container) :
    c.Shows isInit statuses (c.report statuses isInit) where
  name_eq := by
    cases h : statuses.find? (·.name == c.name) with
    | none => rw [report_of_absent h, name_shell]
    | some s => simp [report_of_first h, name_shell]
  init_eq := by
    cases h : statuses.find? (·.name == c.name) with
    | none => rw [report_of_absent h, init_shell]
    | some s => simp [report_of_first h, init_shell]
  of_first s hFirst hName :=
    showsStatus_of_first (find?_key_eq_some_iff_isFirst.mpr ⟨hFirst, hName⟩)
  of_absent hAbsent :=
    showsNoStatus_of_absent (List.find?_eq_none.mpr fun s hs => by simpa using hAbsent s hs)

/-- So the report depends on the statuses through that first one. -/
theorem report_congr {xs ys : List ContainerStatus}
    (h : xs.find? (·.name == c.name) = ys.find? (·.name == c.name)) :
    c.report xs isInit = c.report ys isInit := by
  rw [report, report, h]

end Container

namespace Resource

open ContainerStatus (SameFor)

/-- The containers of a pod stand in two fields of what is wanted of it, and their statuses in two
fields of what is seen of it. -/
structure ContainersListed (pod : Resource .pod) : Prop where
  initContainers :
    Value.GivesEach Container.ofValue (pod.specField? "initContainers") pod.initContainers
  containers : Value.GivesEach Container.ofValue (pod.specField? "containers") pod.containers
  initContainerStatuses :
    Value.GivesEach ContainerStatus.ofValue (pod.statusField? "initContainerStatuses")
      pod.initContainerStatuses
  containerStatuses :
    Value.GivesEach ContainerStatus.ofValue (pod.statusField? "containerStatuses")
      pod.containerStatuses

theorem containersListed (pod : Resource .pod) : pod.ContainersListed :=
  ⟨Value.givesEach_itemsOf _ _, Value.givesEach_itemsOf _ _, Value.givesEach_itemsOf _ _,
    Value.givesEach_itemsOf _ _⟩

/-- The reports of the containers that run before the others. -/
def initReports (pod : Resource .pod) : List Report :=
  pod.initContainers.map (Container.report pod.initContainerStatuses true)

/-- The reports of the other containers. -/
def mainReports (pod : Resource .pod) : List Report :=
  pod.containers.map (Container.report pod.containerStatuses false)

theorem children_podReport (pod : Resource .pod) :
    pod.podReport.children = pod.initReports ++ pod.mainReports := rfl

theorem shows_map_report (isInit : Bool) (statuses : List ContainerStatus) (cs : List Container) :
    List.Forall₂ (Container.Shows isInit statuses) cs
      (cs.map (Container.report statuses isInit)) := by
  rw [List.forall₂_map_right_iff]
  exact List.forall₂_same.mpr fun c _ => c.shows_report isInit statuses

/-- The same for all containers of a list, each with its own name. -/
theorem map_report_congr {cs : List Container} {xs ys : List ContainerStatus} {isInit : Bool}
    (h : SameFor (cs.map (·.name)) xs ys) :
    cs.map (Container.report xs isInit) = cs.map (Container.report ys isInit) :=
  List.map_congr_left fun _ hc => Container.report_congr (h.find?_eq (List.mem_map_of_mem hc))

variable {a b : Resource .pod}

theorem initReports_congr (hSpec : a.spec = b.spec)
    (h : SameFor (a.initContainers.map (·.name)) a.initContainerStatuses b.initContainerStatuses) :
    a.initReports = b.initReports := by
  have hContainers : a.initContainers = b.initContainers := by
    rw [initContainers, initContainers, specField?, specField?, hSpec]
  rw [initReports, initReports, map_report_congr h, hContainers]

theorem mainReports_congr (hSpec : a.spec = b.spec)
    (h : SameFor (a.containers.map (·.name)) a.containerStatuses b.containerStatuses) :
    a.mainReports = b.mainReports := by
  have hContainers : a.containers = b.containers := by
    rw [containers, containers, specField?, specField?, hSpec]
  rw [mainReports, mainReports, map_report_congr h, hContainers]

/-- A pod shows the containers that run before the others and then the others, in order, each with
the first status of its name among those of its sort. Each sort of containers and each sort of
statuses stands in a field of its own. In pods of the same specification either part
is the same if the statuses of its sort tell the same of its containers, whatever those of the other
sort tell. -/
theorem containers_show_own_status :
    ∃ initPart mainPart : Resource .pod → List Report,
      (∀ pod, pod.ContainersListed ∧ pod.podReport.children = initPart pod ++ mainPart pod ∧
        List.Forall₂ (Container.Shows true pod.initContainerStatuses) pod.initContainers
          (initPart pod) ∧
        List.Forall₂ (Container.Shows false pod.containerStatuses) pod.containers
          (mainPart pod)) ∧
      ∀ a b : Resource .pod, a.spec = b.spec →
        (SameFor (a.initContainers.map (·.name)) a.initContainerStatuses b.initContainerStatuses →
          initPart a = initPart b) ∧
        (SameFor (a.containers.map (·.name)) a.containerStatuses b.containerStatuses →
          mainPart a = mainPart b) ∧
        (SameFor (a.initContainers.map (·.name)) a.initContainerStatuses b.initContainerStatuses →
          SameFor (a.containers.map (·.name)) a.containerStatuses b.containerStatuses →
          a.podReport.children = b.podReport.children) := by
  refine ⟨initReports, mainReports, fun pod => ?_, fun a b hSpec => ?_⟩
  · exact ⟨containersListed pod, children_podReport pod, shows_map_report true _ _,
      shows_map_report false _ _⟩
  · refine ⟨initReports_congr hSpec, mainReports_congr hSpec, fun hInit hMain => ?_⟩
    rw [children_podReport, children_podReport, initReports_congr hSpec hInit,
      mainReports_congr hSpec hMain]

end Resource

end KubeInventory
