import KubeInventory.Resource
import KubeInventory.Text.Duration
import KubeInventory.Text.Quoted

/-! A cluster as its listings show it, and the ways in which a listing fails. -/

namespace KubeInventory

/-- The answer with which a server refuses a request. -/
structure Refusal where
  status : String
  message : String
  reason : String
  code : Nat
  deriving DecidableEq, Repr

/-- Why the objects of a kind could not be listed. -/
inductive FetchError where
  | refused (kind : Kind) (refusal : Refusal)
  | timedOut (kind : Kind) (after : Duration)
  | broken (kind : Kind) (reason : String)
  deriving DecidableEq, Repr

namespace FetchError

def kind : FetchError → Kind
  | refused kind _ => kind
  | timedOut kind _ => kind
  | broken kind _ => kind

def message : FetchError → String
  | refused kind r =>
    "failed to list " ++ kind.name ++ ": ApiError: " ++ r.message ++ ": " ++ r.reason ++
      " (ErrorResponse \x7b status: " ++ Text.quoted r.status ++ ", message: " ++
      Text.quoted r.message ++ ", reason: " ++ Text.quoted r.reason ++ ", code: " ++
      toString r.code ++ " \x7d)"
  | timedOut kind after => "listing " ++ kind.name ++ " timed out after " ++ after.text
  | broken kind reason => "failed to list " ++ kind.name ++ ": " ++ reason

end FetchError

/-- The outcome of a listing. -/
abbrev Listing (α : Type) := Except FetchError (List α)

/-- What can be asked of a cluster. Listings answer independently of each other and may fail one by
one. -/
structure Cluster where
  /-- The objects of a kind in a namespace. Namespaces and nodes lie in none, which is written as
  the empty text. -/
  list : (kind : Kind) → (scope : String) → Listing (Resource kind)
  /-- The pods of a namespace that have a label of the given value. -/
  podsLabelled : (scope key value : String) → Listing (Resource .pod)

/-- A failure of the listings of a kind in a namespace. -/
structure Failure where
  scope : String
  error : FetchError

/-- The contents of a cluster, and the listings of it that fail. -/
structure Snapshot where
  objects : (kind : Kind) → List (Resource kind)
  failures : List Failure

namespace Snapshot

def empty : Snapshot := ⟨fun _ => [], []⟩

/-- Whether objects of a kind lie in no namespace. -/
def isClusterWide (kind : Kind) : Bool := kind == .namespace || kind == .node

/-- Fails if a failure is set for the kind and the namespace, of which the first counts; otherwise
gives the objects of the namespace as they stand. -/
def list (s : Snapshot) (kind : Kind) (scope : String) : Listing (Resource kind) :=
  match s.failures.find? fun f => f.error.kind == kind && f.scope == scope with
  | some f => .error f.error
  | none =>
    if isClusterWide kind then .ok (s.objects kind)
    else .ok ((s.objects kind).filter fun r => r.metadata.scope == some scope)

/-- The cluster with these contents. -/
def cluster (s : Snapshot) : Cluster :=
  { list := s.list
    podsLabelled := fun scope key value =>
      (s.list .pod scope).map (·.filter fun r => r.metadata.labels.get? key == some value) }

end Snapshot

end KubeInventory
