import KubeInventory.Schema.Volume

/-! The forms of pods and their containers. -/

namespace KubeInventory.Schema

def volumeMount : Schema :=
  record [required "mountPath" text, optional "mountPropagation" text, required "name" text,
    optional "readOnly" flag, optional "recursiveReadOnly" text, optional "subPath" text,
    optional "subPathExpr" text]

def container : Schema :=
  record [required "name" text, optional "image" text, optional "command" texts,
    optional "args" texts, optional "volumeMounts" (list volumeMount)]

def toleration : Schema :=
  record [optional "effect" text, optional "key" text, optional "operator" text,
    optional "tolerationSeconds" number, optional "value" text]

def containerStateRunning : Schema :=
  record [optional "startedAt" time]

def containerStateWaiting : Schema :=
  record [optional "message" text, optional "reason" text]

def containerStateTerminated : Schema :=
  record [optional "containerID" text, required "exitCode" number, optional "finishedAt" time,
    optional "message" text, optional "reason" text, optional "signal" number,
    optional "startedAt" time]

def containerState : Schema :=
  record [optional "running" containerStateRunning, optional "waiting" containerStateWaiting,
    optional "terminated" containerStateTerminated]

def containerStatus : Schema :=
  record [required "name" text, required "imageID" text, required "ready" flag,
    required "restartCount" number, optional "state" containerState]

def pod : Schema :=
  object
    [required "containers" (list container), optional "initContainers" (list container),
      optional "nodeName" text, optional "nodeSelector" textDict, optional "priority" number,
      optional "serviceAccountName" text, optional "tolerations" (list toleration),
      optional "volumes" (list volume)]
    [optional "conditions" (list (condition ["lastProbeTime", "lastTransitionTime"])),
      optional "containerStatuses" (list containerStatus), optional "hostIP" text,
      optional "initContainerStatuses" (list containerStatus), optional "phase" text,
      optional "podIP" text, optional "qosClass" text]

end KubeInventory.Schema
