import Wiring.Text.QualifiedName
import Wiring.Text.Replace
import Wiring.Text.UpperCase
import Wiring.Text.Literal
import Wiring.Json.Printer
import Wiring.Number.Shortest
import Wiring.Json.Draft
import Wiring.Json.Reader
import Wiring.TypeRef.Order
import Wiring.TypeRef.Matching
import Wiring.TypeRef.Json
import Wiring.Declaration.Json
import Wiring.Diagnostic.Json
import Wiring.Graph.Json
import Wiring.Service.Basic
import Wiring.Options.Basic
import Wiring.Decoration.Chain
import Wiring.Configuration.Json
import Wiring.Publication.Site
import Wiring.Plan.Json
import Wiring.Proofs.Configuration.NestedTypes
import Wiring.Proofs.Configuration.Coverage
import Wiring.Proofs.Decoration.Closing
import Wiring.Proofs.Survey.Candidates
import Wiring.Proofs.Construction.Arguments
import Wiring.Proofs.Decoration.Applied
import Wiring.Proofs.Plan.Arguments
import Wiring.Proofs.TypeRef.SameType
import Wiring.Proofs.Decoration.OneChain
import Wiring.Proofs.Decoration.Closedness
import Wiring.Proofs.Diagnostic.Order
import Wiring.Proofs.Plan.Order
import Wiring.Proofs.Graph.Lookup
import Wiring.Proofs.Graph.ModuleOrder
import Wiring.Proofs.Configuration.Coercion
import Wiring.Proofs.Survey.ModuleOrder
import Wiring.Proofs.Plan.ModuleOrder
import Wiring.Proofs.Graph.TypeOrder
import Wiring.Proofs.Plan.TypeOrder
import Wiring.Proofs.Plan.Proxies
import Wiring.Proofs.Configuration.Nesting
import Wiring.Proofs.Json.Numeral
import Wiring.Proofs.Json.Token
import Wiring.Proofs.Json.Draft
import Wiring.Proofs.Json.Reader
import Wiring.Proofs.TypeRef.Json
import Wiring.Proofs.Declaration.Json
import Wiring.Proofs.Graph.Json
import Wiring.Proofs.Plan.Namespaces
import Wiring.Proofs.Plan.StrictOrder
import Wiring.Proofs.Artifact.Provenance
import Wiring.Proofs.Artifact.Document
import Wiring.Proofs.TypeRef.Instance
import Wiring.Proofs.Decoration.Wrapping
import Wiring.Proofs.Plan.Loading
import Wiring.Proofs.Decoration.Linearization
import Wiring.Proofs.TypeRef.Order
import Wiring.Proofs.Decoration.Expansion
import Wiring.Proofs.Decoration.LowestOrder
import Wiring.Proofs.Configuration.Walk
import Wiring.Proofs.Construction.Choice
import Wiring.Proofs.Configuration.TopLevel
import Wiring.Proofs.Survey.DecoratorMarkers
import Wiring.Proofs.Graph.Faults
import Wiring.Proofs.Publication.Calls
import Wiring.Proofs.Publication.Shelf
import Wiring.Proofs.Publication.Folder
import Wiring.Proofs.Diagnostic.Message
import Wiring.Proofs.Survey.RegistrationKeys
import Wiring.Proofs.TypeRef.Text
import Wiring.Proofs.Plan.Messages
import Wiring.Proofs.Artifact.Lines
import Wiring.Proofs.Artifact.PropertyPaths
import Wiring.Proofs.Options.Namespaces
import Wiring.Proofs.Artifact.Literals
