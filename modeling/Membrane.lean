import Membrane.Codec.Direct
import Membrane.Codec.Script
import Membrane.Proofs.Accounts
import Membrane.Proofs.Adapters
import Membrane.Proofs.ArrayForm
import Membrane.Proofs.AtRest
import Membrane.Proofs.CallActs
import Membrane.Proofs.Calls
import Membrane.Proofs.Changes
import Membrane.Proofs.Conversion
import Membrane.Proofs.ConvertedValues
import Membrane.Proofs.Course
import Membrane.Proofs.Custody
import Membrane.Proofs.Description
import Membrane.Proofs.DocumentKeys
import Membrane.Proofs.ElementAccess
import Membrane.Proofs.ElementStore
import Membrane.Proofs.Exclusion
import Membrane.Proofs.Extraction
import Membrane.Proofs.FaultLayers
import Membrane.Proofs.Filling
import Membrane.Proofs.FirstProperty
import Membrane.Proofs.Functions
import Membrane.Proofs.HandleCounts
import Membrane.Proofs.HostActs
import Membrane.Proofs.IndexedAccess
import Membrane.Proofs.IndexerRouting
import Membrane.Proofs.IntegerDoubles
import Membrane.Proofs.Interchange
import Membrane.Proofs.Invisibility
import Membrane.Proofs.Invocation
import Membrane.Proofs.Leases
import Membrane.Proofs.Lifetimes
import Membrane.Proofs.Likeness
import Membrane.Proofs.LosslessStores
import Membrane.Proofs.MethodCache
import Membrane.Proofs.Moments
import Membrane.Proofs.NamedAccess
import Membrane.Proofs.Numerals
import Membrane.Proofs.Objects
import Membrane.Proofs.OptionBlindness
import Membrane.Proofs.OptionSources
import Membrane.Proofs.PropertyRoundTrip
import Membrane.Proofs.ResolvedAlike
import Membrane.Proofs.Restoration
import Membrane.Proofs.Rounding
import Membrane.Proofs.RunsAlike
import Membrane.Proofs.SideBySide
import Membrane.Proofs.Slots
import Membrane.Proofs.Spans
import Membrane.Proofs.Steps
import Membrane.Proofs.Trace
import Membrane.Proofs.Twins
import Membrane.Proofs.Unseen
import Membrane.Proofs.WithoutOptions
import Membrane.Proofs.WrittenScalars
import Membrane.Session.Body
import Membrane.Session.Run
