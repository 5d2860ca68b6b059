import SimpleRouter.Library.ByteSpan
import SimpleRouter.Library.Interleaving
import SimpleRouter.Library.Keyed
import SimpleRouter.Topology
import SimpleRouter.Checksum
import SimpleRouter.Frames
import SimpleRouter.ArpCache
import SimpleRouter.ArpRequests
import SimpleRouter.Router
import SimpleRouter.CacheInvariant
import SimpleRouter.System
import SimpleRouter.Contract
import SimpleRouter.CacheSafety
import SimpleRouter.Resolution
import SimpleRouter.Sweep
import SimpleRouter.RouteSelection
import SimpleRouter.Forwarding
import SimpleRouter.TtlDiscipline
import SimpleRouter.NextHop
import SimpleRouter.ValidChecksums
import SimpleRouter.SourceAddresses
import SimpleRouter.Unreachable
import SimpleRouter.PathAgreement
import SimpleRouter.CacheHistory
import SimpleRouter.Bounds
import SimpleRouter.VerifiedTable
import SimpleRouter.RateLimit
import SimpleRouter.Library.LinkedCells
import SimpleRouter.RequestQueue
import SimpleRouter.QueueRefinement
import SimpleRouter.MessageBounds
import SimpleRouter.ReadLoop
import SimpleRouter.ClosedConnection
import SimpleRouter.Library.FixedFields
import SimpleRouter.VnsProtocol
import SimpleRouter.Library.Fallible
import SimpleRouter.VnsRoundTrip
import SimpleRouter.PacketMessage
import SimpleRouter.HardwareInfo
import SimpleRouter.ClientMessages
import SimpleRouter.Handshake
import SimpleRouter.Controller
import SimpleRouter.Library.Precedence
import SimpleRouter.PacketOrder
import SimpleRouter.HeaderCheck
import SimpleRouter.EchoService
import SimpleRouter.InsertLookup
import SimpleRouter.InternetChecksum
import SimpleRouter.IcmpErrors
import SimpleRouter.ArpAnswers
import SimpleRouter.Library.Pieces
import SimpleRouter.LongTexts
import SimpleRouter.SendStream
import SimpleRouter.Library.TextLines
import SimpleRouter.RoutingTable
import SimpleRouter.Library.LocalSteps
import SimpleRouter.Commutation
import SimpleRouter.Demultiplexer
import SimpleRouter.Library.InverseMaps
import SimpleRouter.PortMaps
import SimpleRouter.Broadcast
import SimpleRouter.Library.BufferWrites
import SimpleRouter.Sha1
import SimpleRouter.AuthReply
import SimpleRouter.Library.Readers
import SimpleRouter.Library.Savefile
import SimpleRouter.PacketLog
import SimpleRouter.Library.Blocks
import SimpleRouter.Library.SecureHash
import SimpleRouter.SecureDigest
import SimpleRouter.Library.ShortestPaths
import SimpleRouter.Pox.MultiPath
import SimpleRouter.Pox.LinkDiscovery
import SimpleRouter.Pox.SpanningTree
import SimpleRouter.Library.BigEndian
import SimpleRouter.Pox.Match
import SimpleRouter.Library.Ranked
import SimpleRouter.Pox.FlowTable
import SimpleRouter.Library.Struct
import SimpleRouter.Pox.OpenFlow
import SimpleRouter.Pox.Connection
import SimpleRouter.Pox.PacketOut
import SimpleRouter.Pox.SwitchHandler
import SimpleRouter.Pox.PassThrough
