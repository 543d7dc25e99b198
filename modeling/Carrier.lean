import Carrier.GoRuntime
import Carrier.BigEndian
import Carrier.XorMetric
import Carrier.Identity
import Carrier.Protobuf
import Carrier.SortSlice
import Carrier.Routes
import Carrier.ClosestPeers
import Carrier.Address
import Carrier.ConnMgr
import Carrier.NodeLookup
import Carrier.LookupResults
import Carrier.ByteReader
import Carrier.Compression
import Carrier.Framing
import Carrier.Datagram
import Carrier.AcceptLoops
import Carrier.SenderIdentity
import Carrier.SignatureCheck
import Carrier.RegistryOps
import Carrier.OpenConnections
import Carrier.Telling
import Carrier.Interleaving
import Carrier.ConcurrentClose
import Carrier.RouteContents
import Carrier.StreamWriting
import Carrier.StreamClosing
import Carrier.AckReply
import Carrier.AckTracking
import Carrier.Requests
import Carrier.AckLifecycle
import Carrier.AckSettling
import Carrier.StreamRemoval
import Carrier.CyclicCells
import Carrier.ReceiveWindow
import Carrier.LookupQueues
import Carrier.Opcodes
import Carrier.AckAges
import Carrier.StreamRequests
import Carrier.MetricSamples
import Carrier.ProxyService
import Carrier.LastUse
import Carrier.LruCache
import Carrier.SignedBytes
import Carrier.WindowNonces
import Carrier.RegistryClients
import Carrier.OpenStreams
import Carrier.MetricWindow
import Carrier.ProxyFailover
import Carrier.EndOfInput
import Carrier.PeerListing
import Carrier.BackoffLoops
import Carrier.ByteStream
import Carrier.Components
import Carrier.UnifiedAddress
import Carrier.FlowMeter
import Carrier.Exchange
import Carrier.Handshake
import Carrier.Curve25519
import Carrier.LimbArithmetic
import Carrier.ScalarLimbs
import Carrier.ScalarMult
import Carrier.BaseTables
import Carrier.BasePoint
