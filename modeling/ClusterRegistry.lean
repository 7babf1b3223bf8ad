import ClusterRegistry.Table
import ClusterRegistry.Text.Basic
import ClusterRegistry.Decimal.Binary
import ClusterRegistry.Decimal.Shortest
import ClusterRegistry.Json.Printer
import ClusterRegistry.Json.Document
import ClusterRegistry.Json.Reader
import ClusterRegistry.Text.Quoted
import ClusterRegistry.Shape.Read
import ClusterRegistry.Id
import ClusterRegistry.Kind
import ClusterRegistry.Meta
import ClusterRegistry.Status
import ClusterRegistry.Spec.Factory
import ClusterRegistry.Spec.Plan
import ClusterRegistry.Spec.Traffic
import ClusterRegistry.Spec.Work
import ClusterRegistry.Spec.Site
import ClusterRegistry.Spec.Access
import ClusterRegistry.Spec.Scaling
import ClusterRegistry.Resource
import ClusterRegistry.Error
import ClusterRegistry.Admission.Requirements
import ClusterRegistry.Expansion
import ClusterRegistry.Store.Basic
import ClusterRegistry.Scaling.Plan
import ClusterRegistry.Scaling.Recommendation
import ClusterRegistry.Registry
import ClusterRegistry.Http.Service
import ClusterRegistry.Config.Load
import ClusterRegistry.Id.Counter
import ClusterRegistry.Proofs.Admission.Complete
import ClusterRegistry.Proofs.Resource.Parts
import ClusterRegistry.Proofs.Script.Contract
import ClusterRegistry.Proofs.Store.Sound
import ClusterRegistry.Proofs.Admission.Resolved
import ClusterRegistry.Proofs.Id.Digits
import ClusterRegistry.Proofs.Registry.Family
import ClusterRegistry.Proofs.Registry.Requests
import ClusterRegistry.Proofs.Registry.Reading
import ClusterRegistry.Proofs.Registry.Reachable
import ClusterRegistry.Proofs.Script.Spends
import ClusterRegistry.Proofs.Registry.Rejected
import ClusterRegistry.Proofs.Store.Unstamped
import ClusterRegistry.Proofs.Registry.Unstamped
import ClusterRegistry.Proofs.Registry.Deletion
import ClusterRegistry.Proofs.Registry.Interleaving
import ClusterRegistry.Proofs.Registry.Outcome
import ClusterRegistry.Proofs.Registry.Frame
import ClusterRegistry.Proofs.Expansion.Names
import ClusterRegistry.Proofs.Registry.Expanded
import ClusterRegistry.Proofs.Json.Sorted
import ClusterRegistry.Proofs.Admission.Filled
import ClusterRegistry.Proofs.Json.Parsed
import ClusterRegistry.Proofs.Registry.Resendable
import ClusterRegistry.Proofs.Registry.Resent
import ClusterRegistry.Proofs.Store.Unique
import ClusterRegistry.Proofs.Registry.Distinct
import ClusterRegistry.Proofs.Registry.Listed
import ClusterRegistry.Proofs.Http.Routing
import ClusterRegistry.Proofs.Http.Mounted
import ClusterRegistry.Proofs.Http.Gated
import ClusterRegistry.Proofs.Registry.Scaled
import ClusterRegistry.Proofs.Registry.Blameless
import ClusterRegistry.Proofs.Resource.Sent
import ClusterRegistry.Proofs.Registry.ServerOwned
import ClusterRegistry.Proofs.Store.Contents
import ClusterRegistry.Proofs.Registry.ReadBack
import ClusterRegistry.Proofs.Registry.Navigable
import ClusterRegistry.Proofs.Registry.Numbered
import ClusterRegistry.Proofs.Registry.InAccount
import ClusterRegistry.Proofs.Registry.BackLinks
import ClusterRegistry.Proofs.Registry.Routed
import ClusterRegistry.Proofs.Admission.Resolvable
import ClusterRegistry.Proofs.Registry.Repeated
import ClusterRegistry.Proofs.Registry.Stable
import ClusterRegistry.Proofs.Store.Batch
import ClusterRegistry.Proofs.Credential
import ClusterRegistry.Proofs.Registry.IdShape
import ClusterRegistry.Proofs.Resource.StatusForms
import ClusterRegistry.Proofs.Admission.Catalogue
import ClusterRegistry.Proofs.Http.Orders
import ClusterRegistry.Proofs.Registry.Rerouted
import ClusterRegistry.Proofs.Registry.Omitted
import ClusterRegistry.Proofs.Id.Counter
import ClusterRegistry.Proofs.Scaling.Recommended
