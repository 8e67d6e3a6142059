import KubeInventory.Value

/-! Reports: named trees with a status, metadata and details at each node. -/

namespace KubeInventory

structure Report where
  name : String
  status : String
  metadata : Dict String String
  details : Dict String Value
  children : List Report
  deriving BEq

namespace Report

/-- The status of a section that was read. -/
def complete : String := "complete"

/-- The status of a section that could not be read; its details tell why. -/
def incomplete : String := "incomplete"

def passed : String := "passed"

def failed : String := "failed"

/-- The status of what tells none. -/
def unknown : String := "Unknown"

def new (name status : String) : Report := ⟨name, status, ∅, ∅, []⟩

instance : Inhabited Report := ⟨new "" ""⟩

def withMetadata (r : Report) (key value : String) : Report :=
  { r with metadata := r.metadata.insert key value }

def withDetail (r : Report) (key : String) (value : Value) : Report :=
  { r with details := r.details.insert key value }

/-- Adds a detail that may be missing: neither nothing nor null leaves a trace. -/
def withOptionalDetail (r : Report) (key : String) (value : Option Value) : Report :=
  match value with
  | some v => if v.isNull then r else r.withDetail key v
  | none => r

def withChildren (r : Report) (children : List Report) : Report := { r with children := children }

def push (r : Report) (child : Report) : Report := { r with children := r.children ++ [child] }

/-- The report of a section that could not be read. -/
def ofError (name error : String) : Report :=
  (new name incomplete).withDetail "error" (.string error)

/-- Reports by name; those of one name keep their order. -/
def sortByName (reports : List Report) : List Report :=
  reports.mergeSort fun a b => (compare a.name b.name).isLE

def sortChildren (r : Report) : Report := { r with children := sortByName r.children }

/-- The first child of the name. -/
def child? (r : Report) (name : String) : Option Report := r.children.find? (·.name == name)

/-- What a path of names leads to, by the first child of each name. -/
def find? (r : Report) : List String → Option Report
  | [] => some r
  | name :: path => (r.child? name).bind (find? · path)

/-- The verdict over reports: passed if and only if each of them has just that status. -/
def verdict (reports : List Report) : String :=
  if reports.all (·.status == passed) then passed else failed

/-- Gives the report the verdict over its children. -/
def rollUp (r : Report) : Report := { r with status := verdict r.children }

end Report

end KubeInventory
