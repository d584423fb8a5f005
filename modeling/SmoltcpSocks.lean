import SmoltcpSocks.Runs
import SmoltcpSocks.RelayClose
import SmoltcpSocks.RelayProtocol
import SmoltcpSocks.Connection
import SmoltcpSocks.ServiceDuplex
import SmoltcpSocks.Socks5Server
import SmoltcpSocks.Socks5Transcript
import SmoltcpSocks.ActorIsolation
import SmoltcpSocks.SystemReset
import SmoltcpSocks.ActorSession
import SmoltcpSocks.ActorAccept
import SmoltcpSocks.ActorOrder
import SmoltcpSocks.DeviceQueues
import SmoltcpSocks.Socks5Conformance
import SmoltcpSocks.Socks5Address
import SmoltcpSocks.ProxyCredentials
import SmoltcpSocks.ProxySecrecy
import SmoltcpSocks.SystemShutdown
import SmoltcpSocks.SystemRound
import SmoltcpSocks.Tunnel
import SmoltcpSocks.TunPackets
