import ServiceContainer.Main
import ServiceContainer.Proofs.Accessor
import ServiceContainer.Proofs.Alias.Resolution
import ServiceContainer.Proofs.Command
import ServiceContainer.Proofs.Compilation
import ServiceContainer.Proofs.Construction
import ServiceContainer.Proofs.Document.Acceptance
import ServiceContainer.Proofs.Document.Keys
import ServiceContainer.Proofs.Document.Merge
import ServiceContainer.Proofs.Document.NormalForm
import ServiceContainer.Proofs.Document.Notation
import ServiceContainer.Proofs.Json.Report
import ServiceContainer.Proofs.Loops
import ServiceContainer.Proofs.ParameterKey
import ServiceContainer.Proofs.Php.Forwarding
import ServiceContainer.Proofs.Php.GeneratedClass
import ServiceContainer.Proofs.Php.GeneratedValue
import ServiceContainer.Proofs.Php.Names
import ServiceContainer.Proofs.Php.ParameterBag
import ServiceContainer.Proofs.Positions
import ServiceContainer.Proofs.ReferenceGraph.Recorded
import ServiceContainer.Proofs.Report
import ServiceContainer.Proofs.Resolution.AheadOfTime
import ServiceContainer.Proofs.Resolution.Circular
import ServiceContainer.Proofs.Resolution.NormalForm
import ServiceContainer.Proofs.Resolution.Reached
import ServiceContainer.Proofs.Resolution.Resolved
import ServiceContainer.Proofs.Value.Kinds
import ServiceContainer.Proofs.Value.Source
