import BrokerRouting.Broker.Request
import BrokerRouting.Ledger
import BrokerRouting.Proofs.LinkGraph
import BrokerRouting.Proofs.EvictionClosure
import BrokerRouting.Proofs.EvictionRuns
import BrokerRouting.Proofs.BindingSets
import BrokerRouting.Proofs.ReachedTexts
import BrokerRouting.Proofs.CanonicalIndex
import BrokerRouting.Proofs.CanonicalBind
import BrokerRouting.Proofs.CanonicalUnbind
import BrokerRouting.Proofs.CanonicalHistory
import BrokerRouting.Proofs.CanonicalForm
import BrokerRouting.Proofs.FlatRegistry
import BrokerRouting.Proofs.UndoneBinding
import BrokerRouting.Proofs.OrderIndependence
import BrokerRouting.Proofs.FlatTable
import BrokerRouting.Proofs.RouterCalls
import BrokerRouting.Proofs.FanOut
import BrokerRouting.Proofs.Refusals
import BrokerRouting.Proofs.PlainRuns
import BrokerRouting.Proofs.EndedBinding
import BrokerRouting.Proofs.IndexSizes
import BrokerRouting.Broker.Journal
import BrokerRouting.Proofs.Conservation
import BrokerRouting.Proofs.RespelledAddresses
import BrokerRouting.Proofs.RespelledIndex
import BrokerRouting.Proofs.RespelledRuns
import BrokerRouting.Proofs.WrittenAddresses
import BrokerRouting.Proofs.PositionalCoverage
import BrokerRouting.Proofs.AddressGrammar
import BrokerRouting.Proofs.WrittenSegments
import BrokerRouting.Proofs.FlatTableHistory
import BrokerRouting.Proofs.OpenedSets
import BrokerRouting.Router.Sharing
import BrokerRouting.Proofs.ReadPath
import BrokerRouting.Proofs.TrackingBySending
import BrokerRouting.Proofs.EndedNames
import BrokerRouting.Proofs.VisitingOrder
