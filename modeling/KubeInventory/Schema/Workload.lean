import KubeInventory.Schema.Object

/-! The forms of the objects that run pods. -/

namespace KubeInventory.Schema

def rollingUpdate : Schema :=
  record [optional "maxSurge" free, optional "maxUnavailable" free]

def deploymentStrategy : Schema :=
  record [optional "rollingUpdate" rollingUpdate, optional "type" text]

def podTemplateSpec : Schema := object [optional "nodeSelector" textDict] []

def deploymentStatus : List Field :=
  [optional "availableReplicas" number, optional "collisionCount" number,
    optional "conditions" (list (condition ["lastTransitionTime", "lastUpdateTime"])),
    optional "observedGeneration" number, optional "readyReplicas" number,
    optional "replicas" number, optional "unavailableReplicas" number,
    optional "updatedReplicas" number]

def deployment : Schema :=
  object
    [optional "minReadySeconds" number, optional "paused" flag,
      optional "progressDeadlineSeconds" number, optional "replicas" number,
      optional "revisionHistoryLimit" number, required "selector" labelSelector,
      optional "strategy" deploymentStrategy, required "template" podTemplateSpec]
    deploymentStatus

def replicaSetStatus : List Field :=
  [optional "availableReplicas" number,
    optional "conditions" (list (condition ["lastTransitionTime"])),
    optional "fullyLabeledReplicas" number, optional "observedGeneration" number,
    optional "readyReplicas" number, required "replicas" number]

def replicaSet : Schema :=
  object
    [optional "minReadySeconds" number, optional "replicas" number,
      required "selector" labelSelector, optional "template" podTemplateSpec]
    replicaSetStatus

def replicationControllerStatus : List Field :=
  [optional "availableReplicas" number,
    optional "conditions" (list (condition ["lastTransitionTime"])),
    optional "fullyLabeledReplicas" number, optional "observedGeneration" number,
    optional "readyReplicas" number, required "replicas" number]

def replicationController : Schema :=
  object
    [optional "minReadySeconds" number, optional "replicas" number, optional "selector" textDict,
      optional "template" podTemplateSpec]
    replicationControllerStatus

def rollingUpdateStatefulSetStrategy : Schema :=
  record [optional "maxUnavailable" free, optional "partition" number]

def statefulSetUpdateStrategy : Schema :=
  record [optional "rollingUpdate" rollingUpdateStatefulSetStrategy, optional "type" text]

def statefulSetStatus : List Field :=
  [optional "availableReplicas" number, optional "collisionCount" number,
    optional "conditions" (list (condition ["lastTransitionTime"])),
    optional "currentReplicas" number, optional "currentRevision" text,
    optional "observedGeneration" number, optional "readyReplicas" number,
    required "replicas" number, optional "updateRevision" text, optional "updatedReplicas" number]

def statefulSet : Schema :=
  object
    [optional "podManagementPolicy" text, optional "replicas" number,
      required "selector" labelSelector, optional "serviceName" text,
      required "template" podTemplateSpec, optional "updateStrategy" statefulSetUpdateStrategy]
    statefulSetStatus

def daemonSetUpdateStrategy : Schema :=
  record [optional "rollingUpdate" rollingUpdate, optional "type" text]

def daemonSetStatus : List Field :=
  [optional "collisionCount" number,
    optional "conditions" (list (condition ["lastTransitionTime"])),
    required "currentNumberScheduled" number, required "desiredNumberScheduled" number,
    optional "numberAvailable" number, required "numberMisscheduled" number,
    required "numberReady" number, optional "numberUnavailable" number,
    optional "observedGeneration" number, optional "updatedNumberScheduled" number]

def daemonSet : Schema :=
  object
    [optional "revisionHistoryLimit" number, required "selector" labelSelector,
      required "template" podTemplateSpec, optional "updateStrategy" daemonSetUpdateStrategy]
    daemonSetStatus

def uncountedTerminatedPods : Schema :=
  record [optional "failed" texts, optional "succeeded" texts]

def jobStatus : List Field :=
  [optional "active" number, optional "completedIndexes" text,
    optional "completionTime" time,
    optional "conditions" (list (condition ["lastProbeTime", "lastTransitionTime"])),
    optional "failed" number, optional "failedIndexes" text, optional "ready" number,
    optional "startTime" time, optional "succeeded" number, optional "terminating" number,
    optional "uncountedTerminatedPods" uncountedTerminatedPods]

def job : Schema :=
  object
    [optional "activeDeadlineSeconds" number, optional "backoffLimit" number,
      optional "completions" number, optional "parallelism" number,
      optional "selector" labelSelector, optional "ttlSecondsAfterFinished" number]
    jobStatus

def cronJob : Schema :=
  object
    [optional "concurrencyPolicy" text, optional "failedJobsHistoryLimit" number,
      required "schedule" text, optional "successfulJobsHistoryLimit" number,
      optional "suspend" flag]
    [optional "active" (list free), optional "lastScheduleTime" time]

end KubeInventory.Schema
