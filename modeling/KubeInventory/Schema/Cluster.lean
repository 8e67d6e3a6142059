import KubeInventory.Schema.Object

/-! The forms of namespaces, their policies, and nodes. -/

namespace KubeInventory.Schema

def namespaceObject : Schema := object [] [optional "phase" text]

def taint : Schema :=
  record [required "effect" text, required "key" text, optional "timeAdded" time,
    optional "value" text]

def nodeAddress : Schema :=
  record [required "address" text, required "type" text]

def containerImage : Schema :=
  record [optional "names" texts, optional "sizeBytes" number]

def nodeSystemInfo : Schema :=
  record [required "architecture" text, required "bootID" text,
    required "containerRuntimeVersion" text, required "kernelVersion" text,
    required "kubeProxyVersion" text, required "kubeletVersion" text, required "machineID" text,
    required "operatingSystem" text, required "osImage" text, required "systemUUID" text]

def attachedVolume : Schema :=
  record [required "devicePath" text, required "name" text]

def node : Schema :=
  object
    [optional "podCIDR" text, optional "podCIDRs" texts, optional "providerID" text,
      optional "taints" (list taint), optional "unschedulable" flag]
    [optional "addresses" (list nodeAddress), optional "allocatable" textDict,
      optional "capacity" textDict,
      optional "conditions" (list (condition ["lastHeartbeatTime", "lastTransitionTime"])),
      optional "images" (list containerImage), optional "nodeInfo" nodeSystemInfo,
      optional "volumesAttached" (list attachedVolume), optional "volumesInUse" texts]

/-- The bounds that one item of a limit range may set. -/
def bounds : List String := ["default", "defaultRequest", "min", "max", "maxLimitRequestRatio"]

def limitRangeItem : Schema :=
  record (required "type" text :: bounds.map fun name => optional name textDict)

def limitRange : Schema := object [required "limits" (list limitRangeItem)] []

def resourceQuota : Schema :=
  object [] [optional "hard" textDict, optional "used" textDict]

def podDisruptionBudget : Schema :=
  object
    [optional "minAvailable" free, optional "maxUnavailable" free]
    [required "currentHealthy" number, required "desiredHealthy" number,
      required "disruptionsAllowed" number, required "expectedPods" number]

end KubeInventory.Schema
