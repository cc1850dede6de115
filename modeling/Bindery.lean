import Bindery.Api.Samples
import Bindery.Api.Writer
import Bindery.Main
import Bindery.Proofs.Api.RoundTrip
import Bindery.Proofs.Export.Capabilities
import Bindery.Proofs.Export.Provenance
import Bindery.Proofs.Export.Removal
import Bindery.Proofs.Export.Swap
import Bindery.Proofs.Target.Boundary
import Bindery.Proofs.Command.AllOrNothing
import Bindery.Proofs.Export.Route
import Bindery.Proofs.Target.Signature
import Bindery.Proofs.Host.Code
import Bindery.Proofs.Host.Results
import Bindery.Proofs.Host.Variables
import Bindery.Proofs.Host.Closure
import Bindery.Proofs.Api.FirstFlaw
import Bindery.Proofs.Header.Order
import Bindery.Proofs.Export.Survival
import Bindery.Proofs.Host.Fields
import Bindery.Proofs.TypeGrammar
import Bindery.Proofs.Json.Grammar
import Bindery.Proofs.Json.Writings
import Bindery.Proofs.Api.Writings
import Bindery.Proofs.Export.Comparisons
import Bindery.Proofs.Host.Closers
import Bindery.Proofs.Host.Enums
import Bindery.Proofs.Host.Placement
import Bindery.Proofs.Command.Overwrites
