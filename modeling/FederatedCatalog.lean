import FederatedCatalog.Connector.Script
import FederatedCatalog.Main
import FederatedCatalog.Proofs.CompoundPath
import FederatedCatalog.Proofs.History
import FederatedCatalog.Proofs.Registration
import FederatedCatalog.Proofs.BoundedRetry
import FederatedCatalog.Proofs.Reached
import FederatedCatalog.Proofs.Renumbering
import FederatedCatalog.Proofs.Atomicity
import FederatedCatalog.Proofs.Escalation
import FederatedCatalog.Proofs.RegisteredOnce
import FederatedCatalog.Proofs.AliasPath
import FederatedCatalog.Proofs.Disabling
import FederatedCatalog.Proofs.Advertised
import FederatedCatalog.Proofs.CaseAtDot
import FederatedCatalog.Proofs.PathGrammar
import FederatedCatalog.Proofs.PiecewiseCase
import FederatedCatalog.Proofs.DeepName
import FederatedCatalog.Proofs.AliasMap
import FederatedCatalog.Proofs.AliasIsolation
import FederatedCatalog.Proofs.AliasTargets
import FederatedCatalog.Proofs.JsonFields
import FederatedCatalog.Proofs.DescriptionText
import FederatedCatalog.Proofs.DescriptionDepth
import FederatedCatalog.Proofs.RegistryMap
import FederatedCatalog.Proofs.Traversal
import FederatedCatalog.Proofs.Built
import FederatedCatalog.Proofs.CompoundNode
import FederatedCatalog.Proofs.FailingConnector
import FederatedCatalog.Proofs.Flattening
import FederatedCatalog.Proofs.BoundedWork
import FederatedCatalog.Proofs.DescribedSchema
import FederatedCatalog.Proofs.Absorption
import FederatedCatalog.Proofs.RootTable
import FederatedCatalog.Proofs.PathBlame
import FederatedCatalog.Proofs.Building
import FederatedCatalog.Proofs.Numbering
import FederatedCatalog.Proofs.AlwaysFailing
