import ReverseTunnel.Backoff
import ReverseTunnel.Base64
import ReverseTunnel.Binary64
import ReverseTunnel.BindAddress
import ReverseTunnel.Bytes
import ReverseTunnel.Bytes.Lossy
import ReverseTunnel.Certificate
import ReverseTunnel.Client.Basic
import ReverseTunnel.Client.DialLoop
import ReverseTunnel.Client.Dispatch
import ReverseTunnel.Client.Fault
import ReverseTunnel.Client.IsolatedHost
import ReverseTunnel.Client.LocalService
import ReverseTunnel.Client.TrustedRoots
import ReverseTunnel.ClientHello
import ReverseTunnel.CommandLine.Arguments
import ReverseTunnel.CommandLine.Report
import ReverseTunnel.CommandLine.Run
import ReverseTunnel.ConnectionPool
import ReverseTunnel.ControlMessage
import ReverseTunnel.Der
import ReverseTunnel.Duration
import ReverseTunnel.FileTree
import ReverseTunnel.Handshake
import ReverseTunnel.Host
import ReverseTunnel.Http.Field
import ReverseTunnel.Http.Forwarded
import ReverseTunnel.Http.Headers
import ReverseTunnel.Http.HopByHop
import ReverseTunnel.Http.Message
import ReverseTunnel.Http.Status
import ReverseTunnel.Http.Uri
import ReverseTunnel.Json.Record
import ReverseTunnel.Json.Token
import ReverseTunnel.Json.Value
import ReverseTunnel.Json.Writer
import ReverseTunnel.Listener
import ReverseTunnel.Main
import ReverseTunnel.NameMap
import ReverseTunnel.Pem
import ReverseTunnel.PortPool
import ReverseTunnel.Proofs.Backoff
import ReverseTunnel.Proofs.Backoff.Delays
import ReverseTunnel.Proofs.Backoff.Faults
import ReverseTunnel.Proofs.Backoff.Growth
import ReverseTunnel.Proofs.Binary64
import ReverseTunnel.Proofs.Bytes
import ReverseTunnel.Proofs.Client.DialLoop
import ReverseTunnel.Proofs.ClientHello
import ReverseTunnel.Proofs.ClientHello.Grammar
import ReverseTunnel.Proofs.ConnectionPool.Callbacks
import ReverseTunnel.Proofs.ConnectionPool.Drivers
import ReverseTunnel.Proofs.ControlMessage
import ReverseTunnel.Proofs.Duration
import ReverseTunnel.Proofs.Handshake
import ReverseTunnel.Proofs.Host
import ReverseTunnel.Proofs.Host.NormalForm
import ReverseTunnel.Proofs.Host.Spelling
import ReverseTunnel.Proofs.Http.Forwarded
import ReverseTunnel.Proofs.Http.HopByHop
import ReverseTunnel.Proofs.Http.Targets
import ReverseTunnel.Proofs.Http.Uri
import ReverseTunnel.Proofs.Json.RoundTrip
import ReverseTunnel.Proofs.NameMap
import ReverseTunnel.Proofs.Numeral
import ReverseTunnel.Proofs.PortPool.Grants
import ReverseTunnel.Proofs.PortPool.LeaseMap
import ReverseTunnel.Proofs.PortPool.Ledger
import ReverseTunnel.Proofs.PortPool.Ranges
import ReverseTunnel.Proofs.Registry.Calls
import ReverseTunnel.Proofs.Registry.Consistency
import ReverseTunnel.Proofs.Registry.HandBack
import ReverseTunnel.Proofs.Registry.InPlace
import ReverseTunnel.Proofs.Registry.Isolation
import ReverseTunnel.Proofs.Registry.SharedRoutes
import ReverseTunnel.Proofs.Registry.StoredHosts
import ReverseTunnel.Proofs.Routes
import ReverseTunnel.Proofs.Routes.Exactness
import ReverseTunnel.Proofs.Server.Agreement
import ReverseTunnel.Proofs.Server.Backing
import ReverseTunnel.Proofs.Server.Cleanup
import ReverseTunnel.Proofs.Server.Connect
import ReverseTunnel.Proofs.Server.ForwardedHeaders
import ReverseTunnel.Proofs.Server.HostTokens
import ReverseTunnel.Proofs.Server.Interleaving
import ReverseTunnel.Proofs.Server.KeyReuse
import ReverseTunnel.Proofs.Server.Lingering
import ReverseTunnel.Proofs.Server.Provision
import ReverseTunnel.Proofs.Server.RequestTargets
import ReverseTunnel.Proofs.Server.Routing
import ReverseTunnel.Proofs.Server.Segmentation
import ReverseTunnel.Proofs.Server.Steps
import ReverseTunnel.Proofs.Server.Stopping
import ReverseTunnel.Proofs.Server.Streams
import ReverseTunnel.Proofs.Server.Tending
import ReverseTunnel.Proofs.Server.Tokens
import ReverseTunnel.Proofs.Server.Unsubscribing
import ReverseTunnel.Proofs.SocketAddress
import ReverseTunnel.Protocol
import ReverseTunnel.ProtocolError
import ReverseTunnel.Registry
import ReverseTunnel.Routes
import ReverseTunnel.Server.Config
import ReverseTunnel.Server.Ending
import ReverseTunnel.Server.Fault
import ReverseTunnel.Server.Hello
import ReverseTunnel.Server.Identity
import ReverseTunnel.Server.PublicHttp
import ReverseTunnel.Server.PublicSocket
import ReverseTunnel.Server.PublicStream
import ReverseTunnel.Server.Run
import ReverseTunnel.Server.State
import ReverseTunnel.Server.Task
import ReverseTunnel.Session.Client
import ReverseTunnel.Session.Pool
import ReverseTunnel.Session.Server
import ReverseTunnel.SocketAddress
import ReverseTunnel.SystemError
import ReverseTunnel.Text.Ascii
import ReverseTunnel.Text.Blank
import ReverseTunnel.Text.GraphemeExtend
import ReverseTunnel.Text.Numeral
import ReverseTunnel.Text.Quoted
import ReverseTunnel.Text.Split
import ReverseTunnel.Text.Unprintable
import ReverseTunnel.Tunnel
import ReverseTunnel.TunnelsFile
import ReverseTunnel.Yaml.Character
import ReverseTunnel.Yaml.Fault
import ReverseTunnel.Yaml.Node
import ReverseTunnel.Yaml.Node.Reader
import ReverseTunnel.Yaml.Record
import ReverseTunnel.Yaml.Scalar
import ReverseTunnel.Yaml.Token
import ReverseTunnel.Yaml.Token.Block
import ReverseTunnel.Yaml.Token.Plain
import ReverseTunnel.Yaml.Token.Quoted
import ReverseTunnel.Yaml.Token.Scanner
import ReverseTunnel.Yaml.Token.Tag
