import StreamServer.Cpp.Basic
import StreamServer.Http.Filesystem
import StreamServer.Http.Server
import StreamServer.Config
import StreamServer.Peer.Connection
import StreamServer.Peer.Registry
import StreamServer.Peer.Invariants
import StreamServer.Peer.Delivery
import StreamServer.Pipeline.Supervisor
import StreamServer.Pipeline.Supervision
import StreamServer.Pipeline.Bitrate
import StreamServer.Gateway
import StreamServer.Json.Value
import StreamServer.Json.Parse
import StreamServer.Json.Roundtrip
import StreamServer.Signaling
import StreamServer.Sessions
