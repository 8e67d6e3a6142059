import KubeInventory.Inventory
import KubeInventory.Report.File

/-! The command that takes an inventory and writes its report. -/

namespace KubeInventory

/-- The contexts that a user has, with the one that counts unless another is named. -/
structure Contexts where
  names : List String
  current : Option String
  deriving DecidableEq, Repr

/-- What an inventory is taken with: the contexts of the user, the cluster that they lead to, and
the names that the machine resolves. -/
structure Access where
  contexts : Contexts
  cluster : Cluster
  resolves : String → Bool

/-- Where and what to report. -/
structure RunOptions where
  sonobuoyReport : Option String
  jsonReport : Option String
  output : Option String
  /-- The namespaces to cover, in place of those of the settings if there are any. -/
  namespaces : List String
  checks : Bool
  deriving DecidableEq, Repr

inductive RunError where
  | unknownContext (name : String)
  | noContext
  | building (cause : CheckError)
  | collecting (cause : CheckError)
  | unwritable (path : String) (cause : FileError)
  deriving DecidableEq, Repr

namespace RunError

def message : RunError → String
  | unknownContext name => "Failed to load kubeconfig context '" ++ name ++ "'"
  | noContext => "Failed to infer Kubernetes configuration"
  | building _ => "Failed to build checks"
  | collecting _ => "Inventory run failed"
  | unwritable path _ => s!"Failed to write report: {path}"

/-- What went wrong, followed by its causes. -/
def chain (e : RunError) : List String :=
  e.message :: match e with
    | building cause | collecting cause => [cause.message]
    | unwritable _ cause => [Report.writeErrorMessage cause, cause.message]
    | _ => []

end RunError

namespace Contexts

/-- The context that counts: the one named, or else the current one. -/
def choose (c : Contexts) (named : Option String) : Except RunError String :=
  match named, c.current with
  | some name, _ => if c.names.contains name then .ok name else .error (.unknownContext name)
  | none, some name => if c.names.contains name then .ok name else .error .noContext
  | none, none => .error .noContext

end Contexts

namespace RunOptions

def none : RunOptions := ⟨.none, .none, .none, [], false⟩

/-- The files to write, in order, each in its format. -/
def destinations (o : RunOptions) : List (String × Report.Format) :=
  (o.sonobuoyReport.map (·, .yaml)).toList ++ (o.jsonReport.map (·, .json)).toList ++
    (o.output.map fun path => (path, .ofPath path)).toList

def config (o : RunOptions) (c : Config) : Config :=
  if o.namespaces.isEmpty then c else { c with namespaces := o.namespaces }

/-- The checks to run, if any are to be. -/
def buildChecks (o : RunOptions) (cluster : Cluster) (c : Config) :
    Except RunError (Option Check.Runner) :=
  if o.checks then
    ((Check.Runner.ofConfigs (.builtin cluster) c.checks c.collector.concurrency).mapError
      .building).map some
  else .ok .none

/-- The report on a site, which tells the context. -/
def reportOn (o : RunOptions) (access : Access) (files : FileTree) (c : Config) :
    Except RunError Report := do
  let c := o.config c
  let context ← access.contexts.choose c.context
  let checks ← o.buildChecks access.cluster c
  let site : Site := ⟨access.cluster, files, access.resolves⟩
  let inventory ← (Inventory.collect .inOrder site c checks).mapError .collecting
  return inventory.report.withMetadata "context" context

/-- Writes a report to files in order, up to the first that cannot be written. -/
def writeAll (r : Report) : List (String × Report.Format) → FileM RunError Unit
  | [] => pure ()
  | (path, format) :: rest => do
    (r.writeFile format path).withError (.unwritable path)
    writeAll r rest

/-- Takes an inventory and gives what is printed: the report itself unless it goes to files. -/
def run (o : RunOptions) (access : Access) (c : Config) : FileM RunError String := do
  let report ← o.reportOn access (← get) c
  if o.destinations.isEmpty then return report.write .yaml
  writeAll report o.destinations
  return ""

end RunOptions

end KubeInventory
