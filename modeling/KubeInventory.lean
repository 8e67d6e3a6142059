import KubeInventory.Main
import KubeInventory.Proofs.Dict
import KubeInventory.Proofs.Adoption
import KubeInventory.Proofs.Lineage
import KubeInventory.Proofs.Relocation
import KubeInventory.Proofs.Filing
import KubeInventory.Proofs.Resolution
import KubeInventory.Proofs.Listing
import KubeInventory.Proofs.Population
import KubeInventory.Proofs.History
import KubeInventory.Proofs.Conservation
import KubeInventory.Proofs.Summary
import KubeInventory.Proofs.Settled
import KubeInventory.Proofs.Rendering
import KubeInventory.Proofs.NamespaceReport
import KubeInventory.Proofs.ContainerStatus
import KubeInventory.Proofs.Pool
import KubeInventory.Proofs.Workloads
import KubeInventory.Proofs.FailedListing
import KubeInventory.Proofs.Collection
import KubeInventory.Proofs.Isolation
import KubeInventory.Proofs.NamespacePolicies
import KubeInventory.Proofs.Reproducibility
import KubeInventory.Proofs.Verdict
import KubeInventory.Proofs.Record
import KubeInventory.Proofs.Setting
import KubeInventory.Proofs.SettingsDocument
import KubeInventory.Proofs.Layering
import KubeInventory.Proofs.Decimal
import KubeInventory.Proofs.JsonScalar
import KubeInventory.Proofs.JsonText
import KubeInventory.Proofs.ReportText
import KubeInventory.Proofs.FileTree
import KubeInventory.Proofs.ReportFile
import KubeInventory.Proofs.YamlDocument
import KubeInventory.Proofs.SettingsCommand
import KubeInventory.Proofs.VisitOrder
import KubeInventory.Proofs.CommaList
import KubeInventory.Proofs.Assignment
import KubeInventory.Proofs.Merging
import KubeInventory.Proofs.Discovery
import KubeInventory.Proofs.JsonPrefix
import KubeInventory.Proofs.SinglePlugin
import KubeInventory.Proofs.LabelPolicy
import KubeInventory.Proofs.Registration
import KubeInventory.Proofs.Components
import KubeInventory.Proofs.Validity
import KubeInventory.Proofs.Rounding
import KubeInventory.Proofs.ShortestDecimal
import KubeInventory.Proofs.DecimalText
import KubeInventory.Proofs.YamlValue
import KubeInventory.Proofs.SavedSettings
