import KubeInventory.Workload.Pod

/-! The status and the own report of every kind of workload, apart from the objects that it owns. -/

namespace KubeInventory.Resource

variable {k : Kind}

/-- Counts with their labels in one line. -/
def counts (entries : List (String × Int)) : String :=
  ", ".intercalate (entries.map fun entry => entry.1 ++ ": " ++ toString entry.2)

/-- The number of jobs that a schedule has running. -/
def activeJobs (r : Resource .cronJob) : Nat := (Value.itemsOf (r.statusField? "active")).length

/-- When a schedule last started a job. -/
def lastSchedule? (r : Resource .cronJob) : Option Value := r.statusField? "lastScheduleTime"

/-- The status of a workload in one line. -/
def statusText : {k : Kind} → Resource k → String
  | .deployment, r =>
    counts [("Desired", r.desiredReplicas), ("Up-to-date", r.statusCount "updatedReplicas"),
      ("Total", r.statusCount "replicas"), ("Available", r.statusCount "availableReplicas")]
  | .replicaSet, r | .replicationController, r =>
    counts [("Desired", r.desiredReplicas), ("Current", r.statusCount "replicas"),
      ("Ready", r.statusCount "readyReplicas"), ("Available", r.statusCount "availableReplicas")]
  | .statefulSet, r =>
    counts [("Desired", r.desiredReplicas), ("Current", r.statusCount "currentReplicas"),
      ("Ready", r.statusCount "readyReplicas"), ("Up-to-date", r.statusCount "updatedReplicas")]
  | .daemonSet, r =>
    counts [("Current", r.statusCount "currentNumberScheduled"),
      ("Desired", r.statusCount "desiredNumberScheduled"), ("Ready", r.statusCount "numberReady"),
      ("Up-to-date", r.statusCount "updatedNumberScheduled"),
      ("Available", r.statusCount "numberAvailable")]
  | .job, r =>
    counts [("Running", r.statusCount "active"), ("Succeeded", r.statusCount "succeeded"),
      ("Failed", r.statusCount "failed")]
  | .cronJob, r =>
    let last := (r.lastSchedule?.bind Value.string?).getD "<none>"
    counts [("Active", r.activeJobs)] ++ ", Last Schedule: " ++ last
  | .pod, r => r.podStatus
  | _, _ => Report.unknown

/-- A field of what is wanted of an object, shown as null if it is missing. -/
def withSpec (key field : String) (r : Resource k) (report : Report) : Report :=
  report.withDetail key (.orNull (r.specField? field))

/-- Fields of what is wanted of an object, each left out if it is missing. -/
def withOptionalSpecs (fields : List String) (r : Resource k) (report : Report) : Report :=
  fields.foldl (fun report field => report.withOptionalDetail field (r.specField? field)) report

def withSelectorAndLabels (r : Resource k) (report : Report) : Report :=
  report.withOptionalDetail "selector" (r.specField? "selector")
    |>.withOptionalDetail "nodeSelector" r.templateNodeSelector?
    |>.withOptionalDetail "labels" r.labels?

/-- The report of a workload with its status in full. -/
def controllerReport (r : Resource k) : Report :=
  (r.report r.statusText).withDetail "status" (.orNull r.status)

/-- The report of a workload without the objects that it owns. -/
def ownReport : {k : Kind} → Resource k → Report
  | .deployment, r =>
    r.controllerReport
      |> r.withSpec "deploymentStrategy" "strategy"
      |> r.withSpec "minReadySeconds" "minReadySeconds"
      |> r.withSpec "paused" "paused"
      |> r.withOptionalSpecs ["replicas", "progressDeadlineSeconds", "revisionHistoryLimit"]
      |> r.withSelectorAndLabels
  | .replicaSet, r | .replicationController, r =>
    r.controllerReport
      |> r.withSpec "replicas" "replicas"
      |> r.withSpec "minReadySeconds" "minReadySeconds"
      |> r.withSelectorAndLabels
  | .statefulSet, r =>
    r.controllerReport
      |> r.withSpec "replicas" "replicas"
      |> r.withSpec "serviceName" "serviceName"
      |> r.withSpec "podManagementPolicy" "podManagementPolicy"
      |> r.withSpec "updateStrategy" "updateStrategy"
      |> r.withSelectorAndLabels
  | .daemonSet, r =>
    r.controllerReport
      |> r.withSpec "updateStrategy" "updateStrategy"
      |> r.withOptionalSpecs ["revisionHistoryLimit"]
      |> r.withSelectorAndLabels
  | .job, r =>
    r.controllerReport
      |> r.withSpec "selector" "selector"
      |> r.withOptionalSpecs ["parallelism", "completions", "activeDeadlineSeconds",
        "backoffLimit", "ttlSecondsAfterFinished"]
  | .cronJob, r =>
    (r.report r.statusText).withDetail "active" (.int r.activeJobs)
      |> r.withSpec "schedule" "schedule"
      |> r.withSpec "suspend" "suspend"
      |> r.withSpec "concurrencyPolicy" "concurrencyPolicy"
      |>.withDetail "lastScheduleTime" (.orNull r.lastSchedule?)
      |> r.withSpec "successfulJobHistoryLimit" "successfulJobsHistoryLimit"
      |> r.withSpec "failedJobHistoryLimit" "failedJobsHistoryLimit"
      |>.withOptionalDetail "labels" r.labels?
  | .pod, r => r.podReport
  | _, r => r.report r.statusText

end KubeInventory.Resource
