import KubeInventory.Check.Labels
import KubeInventory.Text.Quoted

/-! The kinds of check that can be configured. -/

namespace KubeInventory

/-- What builds checks, by their kind. -/
structure CheckRegistry where
  factories : Dict String CheckFactory

namespace CheckRegistry

def empty : CheckRegistry := ⟨∅⟩

/-- Adds a kind of check, in place of one of that name. -/
def register (r : CheckRegistry) (kind : String) (factory : CheckFactory) : CheckRegistry :=
  ⟨r.factories.insert kind factory⟩

/-- The kinds of check that are always there. -/
def builtin (c : Cluster) : CheckRegistry :=
  empty.register LabelPolicy.checkKind (LabelPolicy.factory c)

def contains (r : CheckRegistry) (kind : String) : Bool := r.factories.contains kind

def kinds (r : CheckRegistry) : List String := r.factories.keys

def size (r : CheckRegistry) : Nat := r.factories.size

def isEmpty (r : CheckRegistry) : Bool := r.factories.isEmpty

/-- Builds the check of a configuration. -/
def build (r : CheckRegistry) (config : Config.Check) : Except CheckError Check :=
  match r.factories.get? config.kind with
  | some factory => factory config
  | none => .error (.unknownKind config.kind)

/-- Builds the checks of configurations in order, up to the first that cannot be built. -/
def buildAll (r : CheckRegistry) (configs : List Config.Check) : Except CheckError (List Check) :=
  configs.mapM r.build

/-- The registry as it is shown in messages. -/
def text (r : CheckRegistry) : String :=
  "CheckRegistry \x7b kinds: [" ++ ", ".intercalate (r.kinds.map Text.quoted) ++ "] \x7d"

end CheckRegistry

end KubeInventory
