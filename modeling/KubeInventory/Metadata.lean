import KubeInventory.Kind
import KubeInventory.Value

/-! What an object says of itself: its names, its labels and its owners. -/

namespace KubeInventory

/-- An object named as an owner; at most one owner should be marked as the controller. -/
structure OwnerReference where
  kind : String
  name : String
  uid : String
  controller : Option Bool
  deriving DecidableEq, Repr

structure Metadata where
  name : Option String
  /-- The namespace that the object lives in. -/
  scope : Option String
  uid : Option String
  generateName : Option String
  labels : Dict String String
  owners : List OwnerReference

namespace Metadata

def empty : Metadata := ⟨none, none, none, none, ∅, []⟩

/-- The name under which an object is filed: that of an object without a name is empty. -/
def ownName (m : Metadata) : String := m.name.getD ""

/-- The name, or else what the name was to be generated from. -/
def anyName (m : Metadata) : String := (m.name.or m.generateName).getD ""

/-- The first owner that is marked as the controller. -/
def controller? (m : Metadata) : Option OwnerReference :=
  m.owners.find? fun owner => owner.controller == some true

def textDict (v : Value) : Dict String String :=
  .ofList ((v.fields?.getD []).filterMap fun field => field.2.string?.map (field.1, ·))

def ownerOfValue (v : Value) : OwnerReference :=
  let text (key : String) : String := ((v.field? key).bind Value.string?).getD ""
  ⟨text "kind", text "name", text "uid", (v.field? "controller").bind Value.bool?⟩

/-- Reads metadata in its normal form. -/
def ofValue (v : Value) : Metadata :=
  let text? (key : String) : Option String := (v.field? key).bind Value.string?
  { name := text? "name"
    scope := text? "namespace"
    uid := text? "uid"
    generateName := text? "generateName"
    labels := ((v.field? "labels").map textDict).getD ∅
    owners := (((v.field? "ownerReferences").bind Value.list?).getD []).map ownerOfValue }

end Metadata

/-- What identifies an object in a message. -/
structure Ref where
  kind : String
  name : String
  /-- The namespace, empty for an object without one. -/
  scope : String
  uid : String
  deriving DecidableEq, Repr

namespace Ref

/-- The reference to an object of the kind; what its metadata lacks is empty. -/
def ofMetadata (kind : String) (m : Metadata) : Ref :=
  ⟨kind, m.ownName, m.scope.getD "", m.uid.getD ""⟩

def text (r : Ref) : String := s!"{r.kind}/{r.scope}/{r.name}"

/-- References are ordered by kind, then name, then namespace, then uid. -/
instance : Ord Ref :=
  ⟨compareLex (compareOn kind) (compareLex (compareOn name)
    (compareLex (compareOn scope) (compareOn uid)))⟩

end Ref

end KubeInventory
