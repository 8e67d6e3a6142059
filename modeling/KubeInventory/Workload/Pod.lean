import KubeInventory.Resource

/-! Pods and their containers. Each container is shown with the status that the cluster reports
under its name, and only with that. -/

namespace KubeInventory

structure Container where
  name : String
  image : Option String
  command : Option (List String)
  args : Option (List String)
  volumeMounts : Option Value

/-- How far a container has come, with what is known of that. -/
inductive ContainerState where
  | running (facts : Value)
  | waiting (facts : Value)
  | terminated (facts : Value)

structure ContainerStatus where
  name : String
  imageID : String
  ready : Bool
  restartCount : Int
  state : Option ContainerState

namespace Container

def ofValue (v : Value) : Container :=
  { name := v.textField "name"
    image := (v.field? "image").bind Value.string?
    command := v.textsField? "command"
    args := v.textsField? "args"
    volumeMounts := v.field? "volumeMounts" }

end Container

namespace ContainerState

/-- A container that is reported in several states counts as running before waiting, and as waiting
before terminated. -/
def ofValue? (v : Value) : Option ContainerState :=
  ((v.field? "running").map running).or
    (((v.field? "waiting").map waiting).or ((v.field? "terminated").map terminated))

def label : ContainerState → String
  | running _ => "Running"
  | waiting _ => "Waiting"
  | terminated _ => "Terminated"

def facts : ContainerState → Value
  | running v => .object [("running", v)]
  | waiting v => .object [("waiting", v)]
  | terminated v => .object [("terminated", v)]

end ContainerState

namespace ContainerStatus

def ofValue (v : Value) : ContainerStatus :=
  { name := v.textField "name"
    imageID := v.textField "imageID"
    ready := ((v.field? "ready").bind Value.bool?).getD false
    restartCount := ((v.field? "restartCount").bind Value.int?).getD 0
    state := (v.field? "state").bind ContainerState.ofValue? }

end ContainerStatus

namespace Container

/-- The report of a container, with the first status of its name. -/
def report (statuses : List ContainerStatus) (isInit : Bool) (c : Container) : Report :=
  let status? := statuses.find? (·.name == c.name)
  let state? := status?.bind (·.state)
  let base := (Report.new c.name ((state?.map (·.label)).getD Report.unknown))
    |>.withMetadata "kind" "Container"
    |>.withDetail "image" (.ofText? c.image)
    |>.withDetail "command" (.ofTexts? c.command)
    |>.withDetail "args" (.ofTexts? c.args)
    |>.withDetail "volumeMounts" (.orNull c.volumeMounts)
  let base := if isInit then base.withMetadata "init" "true" else base
  match status? with
  | none => base
  | some status =>
    base.withOptionalDetail "state" (state?.map (·.facts))
      |>.withDetail "imageID" (.string status.imageID)
      |>.withDetail "ready" (.bool status.ready)
      |>.withDetail "restartCount" (.int status.restartCount)

end Container

/-- The types of the conditions that are met. -/
def trueConditions (conditions : Option Value) : List String :=
  let isMet (c : Value) : Bool := c.textField "status" == "True"
  ((Value.itemsOf conditions).filter isMet).map (·.textField "type")

namespace Resource

def containers (r : Resource .pod) : List Container :=
  (Value.itemsOf (r.specField? "containers")).map Container.ofValue

def initContainers (r : Resource .pod) : List Container :=
  (Value.itemsOf (r.specField? "initContainers")).map Container.ofValue

def containerStatuses (r : Resource .pod) : List ContainerStatus :=
  (Value.itemsOf (r.statusField? "containerStatuses")).map ContainerStatus.ofValue

def initContainerStatuses (r : Resource .pod) : List ContainerStatus :=
  (Value.itemsOf (r.statusField? "initContainerStatuses")).map ContainerStatus.ofValue

/-- The phase of a pod, or else the conditions that it meets. -/
def podStatus (r : Resource .pod) : String :=
  let phase := ((r.statusField? "phase").bind Value.string?).getD ""
  if !phase.isEmpty then phase
  else match trueConditions (r.statusField? "conditions") with
    | [] => Report.unknown
    | conditions => ",".intercalate conditions

/-- A list or object that holds something. -/
def nonempty? (v : Option Value) : Option Value :=
  v.filter fun
    | .list items => !items.isEmpty
    | .object fields => !fields.isEmpty
    | _ => true

/-- The reports of a pod's containers, those that run before the others first. -/
def containerReports (r : Resource .pod) : List Report :=
  r.initContainers.map (Container.report r.initContainerStatuses true) ++
    r.containers.map (Container.report r.containerStatuses false)

def podReport (r : Resource .pod) : Report :=
  (r.report r.podStatus)
    |>.withDetail "conditions" (.orNull (r.statusField? "conditions"))
    |>.withDetail "hostIP" (.orNull (r.statusField? "hostIP"))
    |>.withDetail "node" (.orNull (r.specField? "nodeName"))
    |>.withDetail "podIP" (.orNull (r.statusField? "podIP"))
    |>.withDetail "priority" (.orNull (r.specField? "priority"))
    |>.withDetail "qos" (.orNull (r.statusField? "qosClass"))
    |>.withDetail "serviceAccount" (.orNull (r.specField? "serviceAccountName"))
    |>.withDetail "volumes" (.list (Value.itemsOf (r.specField? "volumes")))
    |>.withOptionalDetail "labels" r.labels?
    |>.withOptionalDetail "tolerations" (nonempty? (r.specField? "tolerations"))
    |>.withOptionalDetail "nodeSelector" (nonempty? (r.specField? "nodeSelector"))
    |>.withChildren r.containerReports

end Resource

end KubeInventory
