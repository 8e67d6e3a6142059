import KubeInventory.Cluster.Document
import KubeInventory.Command.Run
import KubeInventory.Text.Address

/-! What an inventory is taken with, as one document: contexts, a cluster, hosts that can be
resolved, and files of the machine. -/

namespace KubeInventory

namespace Access

/-- Reads what an inventory is taken with; what is missing is empty. A host that is given by its
address can always be resolved. -/
def ofValue (v : Value) : Access :=
  let hosts := (v.textsField? "hosts").getD []
  { contexts := ⟨(v.textsField? "contexts").getD [], v.textField? "current"⟩
    cluster := (Snapshot.ofValue ((v.field? "cluster").getD .null)).cluster
    resolves := fun host => Text.isAddress host || hosts.contains host }

end Access

/-- The files that a document names, by path. -/
def documentFiles (v : Value) : List (String × String) :=
  (((v.field? "files").bind Value.fields?).getD []).filterMap fun file =>
    file.2.string?.map (file.1, ·)

end KubeInventory
