import KubeInventory.Schema

/-! The forms of what objects of all kinds have in common. -/

namespace KubeInventory.Schema

def managedFieldsEntry : Schema :=
  record [optional "apiVersion" text, optional "fieldsType" text, optional "fieldsV1" free,
    optional "manager" text, optional "operation" text, optional "subresource" text,
    optional "time" time]

def ownerReference : Schema :=
  record [required "apiVersion" text, optional "blockOwnerDeletion" flag,
    optional "controller" flag, required "kind" text, required "name" text, required "uid" text]

def objectMeta : Schema :=
  record [optional "annotations" textDict, optional "creationTimestamp" time,
    optional "deletionGracePeriodSeconds" number, optional "deletionTimestamp" time,
    optional "finalizers" texts, optional "generateName" text, optional "generation" number,
    optional "labels" textDict, optional "managedFields" (list managedFieldsEntry),
    optional "name" text, optional "namespace" text,
    optional "ownerReferences" (list ownerReference), optional "resourceVersion" text,
    optional "selfLink" text, optional "uid" text]

def labelSelectorRequirement : Schema :=
  record [required "key" text, required "operator" text, optional "values" texts]

def labelSelector : Schema :=
  record [optional "matchExpressions" (list labelSelectorRequirement),
    optional "matchLabels" textDict]

/-- A condition of an object, with the points in time that its kind tells. -/
def condition (times : List String) : Schema :=
  record <| (times.map fun name => optional name time) ++
    [optional "message" text, optional "reason" text, required "status" text, required "type" text]

/-- An object of any kind: what it is called, what is wanted of it, and what is seen of it. -/
def object (spec status : List Field) : Schema :=
  record [optional "metadata" objectMeta, optional "spec" (record spec),
    optional "status" (record status)]

end KubeInventory.Schema
