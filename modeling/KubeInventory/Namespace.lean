import KubeInventory.Cluster
import KubeInventory.Workload.Pod

/-! Namespaces with the policies that hold in them: quotas, limits and disruption budgets. -/

namespace KubeInventory

/-- A namespace and its policies; a policy listing that failed leaves its kind empty and its error.
-/
structure PolicedNamespace where
  namespaceObject : Resource .namespace
  limits : List (Resource .limitRange)
  quotas : List (Resource .resourceQuota)
  budgets : List (Resource .podDisruptionBudget)
  errors : Dict Kind String

namespace PolicedNamespace

def name (n : PolicedNamespace) : String := n.namespaceObject.metadata.ownName

/-- The objects of a listing; none if it failed. -/
def objectsOf {α : Type} : Listing α → List α
  | .ok objects => objects
  | .error _ => []

/-- Notes the error of a listing that failed. -/
def noteError {α : Type} (kind : Kind) (listing : Listing α) (errors : Dict Kind String) :
    Dict Kind String :=
  match listing with
  | .ok _ => errors
  | .error e => errors.insert kind e.message

/-- Lists the policies of a namespace. -/
def collect (c : Cluster) (r : Resource .namespace) : PolicedNamespace :=
  let scope := r.metadata.ownName
  let limits := c.list .limitRange scope
  let quotas := c.list .resourceQuota scope
  let budgets := c.list .podDisruptionBudget scope
  { namespaceObject := r
    limits := objectsOf limits
    quotas := objectsOf quotas
    budgets := objectsOf budgets
    errors := (∅ : Dict Kind String)
      |> noteError .limitRange limits
      |> noteError .resourceQuota quotas
      |> noteError .podDisruptionBudget budgets }

/-- The entries of a field that holds quantities by resource. -/
def quantities (v : Option Value) : List (String × Value) := (v.bind Value.fields?).getD []

/-- Files a fact about a resource beside those already known. -/
def addFact (fact : String) (known : Dict String (Dict String Value)) (entry : String × Value) :
    Dict String (Dict String Value) :=
  known.insert entry.1 (((known.get? entry.1).getD ∅).insert fact entry.2)

/-- For every resource its limit and its use, as far as they are told. -/
def quotaDetail (r : Resource .resourceQuota) : Value :=
  let limits := (quantities (r.statusField? "hard")).foldl (addFact "limit") ∅
  let facts := (quantities (r.statusField? "used")).foldl (addFact "used") limits
  .ofDict (facts.map Value.ofDict)

/-- What one item of a limit range bounds, with the bounds that name some resource. -/
def limitDetail (item : Value) : Value :=
  let bounds := Schema.bounds.filterMap fun bound =>
    (Resource.nonempty? (item.field? bound)).map (bound, ·)
  .ofFields (("type", .string (item.textField "type")) :: bounds)

def limitsDetail (r : Resource .limitRange) : Value :=
  .list ((Value.itemsOf (r.specField? "limits")).map limitDetail)

def budgetDetail (r : Resource .podDisruptionBudget) : Value :=
  .ofFields [("minAvailable", .orNull (r.specField? "minAvailable")),
    ("maxUnavailable", .orNull (r.specField? "maxUnavailable")),
    ("disruptionsAllowed", .orNull (r.statusField? "disruptionsAllowed")),
    ("currentHealthy", .orNull (r.statusField? "currentHealthy")),
    ("desiredHealthy", .orNull (r.statusField? "desiredHealthy")),
    ("expectedPods", .orNull (r.statusField? "expectedPods"))]

/-- Details of objects under their names; of several of one name the last stays. -/
def detailsByName {k : Kind} (detail : Resource k → Value) (objects : List (Resource k)) : Value :=
  .ofFields (objects.map fun r => (r.metadata.anyName, detail r))

/-- Adds the details of objects, of which there must be some. -/
def withObjects {k : Kind} (key : String) (detail : Resource k → Value)
    (objects : List (Resource k)) (report : Report) : Report :=
  if objects.isEmpty then report else report.withDetail key (detailsByName detail objects)

/-- The phase of the namespace. -/
def phase (n : PolicedNamespace) : String :=
  ((n.namespaceObject.statusField? "phase").bind Value.string?).getD Report.unknown

def errorsDetail (errors : Dict Kind String) : Value :=
  .ofFields (errors.entries.map fun entry => (entry.1.name, .string entry.2))

def report (n : PolicedNamespace) : Report :=
  let base := (Report.new n.name n.phase).withMetadata "kind" "Namespace"
    |> withObjects "resourceQuotas" quotaDetail n.quotas
    |> withObjects "limitRanges" limitsDetail n.limits
    |> withObjects "podDisruptionBudgets" budgetDetail n.budgets
  if n.errors.isEmpty then base else base.withDetail "errors" (errorsDetail n.errors)

end PolicedNamespace

end KubeInventory
