import Qsox.Numeral
import Qsox.Control
import Qsox.StringView
import Qsox.LongestRun
import Qsox.CheckedView
import Qsox.LinkedList
import Qsox.Ledger
import Qsox.Hoare
import Qsox.Alike
import Qsox.Portions
import Qsox.Flow
import Qsox.Once
import Qsox.BigEndian
import Qsox.AddressBlock
import Qsox.Rfc4291
import Qsox.Util
import Qsox.Ipv4Address
import Qsox.Ipv4Verdict
import Qsox.Ipv6Address
import Qsox.IpAddress
import Qsox.Rfc5952
import Qsox.HostPort
import Qsox.SocketAddress
import Qsox.Resolver
import Qsox.NetworkAddress
import Qsox.ParserBounds
import Qsox.EndpointGrammar
import Qsox.AddrInfoList
import Qsox.Gai
import Qsox.GaiOutcome
import Qsox.ResolverBuilds
import Qsox.Error
import Qsox.ErrorMessage
import Qsox.Kernel
import Qsox.Sys
import Qsox.BaseSocket
import Qsox.SocketUtil
import Qsox.SockAddrAny
import Qsox.AddressOrder
import Qsox.AddressClass
import Qsox.UdpSocket
import Qsox.TcpConnect
import Qsox.TcpStream
import Qsox.Poll
import Qsox.Reports
import Qsox.Logged
import Qsox.PendingError
import Qsox.Operation
import Qsox.OperationCalls
import Qsox.ConnectLog
import Qsox.ConnectPaths
import Qsox.TcpTransfer
import Qsox.TcpLink
import Qsox.TcpConnected
import Qsox.Deadline
import Qsox.Interrupted
import Qsox.EndOfStream
import Qsox.HalfClose
import Qsox.Conversation
import Qsox.Mailbox
import Qsox.Errno
import Qsox.Timeline
import Qsox.PollOne
import Qsox.TimeoutUnits
import Qsox.Termination
import Qsox.Creation
import Qsox.Ownership
import Qsox.Datagram
import Qsox.EchoServer
import Qsox.Watched
import Qsox.DescriptorUse
import Qsox.BlockingMode
import Qsox.AnswersAlike
import Qsox.Undisturbed
import Qsox.Startup
