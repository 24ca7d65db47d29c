import Ipsec.Proofs.Crypto.Cipher
import Ipsec.Proofs.Esp.Protection
import Ipsec.Proofs.Ip.RoundTrip
import Ipsec.Proofs.Ip.Codec
import Ipsec.Proofs.Ip.Checksum
import Ipsec.Proofs.Ip.Outgoing
import Ipsec.Simulation.FlowRun
import Ipsec.Simulation.Service
import Ipsec.Proofs.Esp.Sealed
import Ipsec.Proofs.Esp.Opening
import Ipsec.Proofs.Esp.Payload
import Ipsec.Proofs.Tunnel.Delivery
import Ipsec.Proofs.Tcp.Accounting
import Ipsec.Proofs.Tunnel.Operation
import Ipsec.Proofs.Tunnel.Sound
import Ipsec.Proofs.Tunnel.Outcomes
import Ipsec.Proofs.Tunnel.Channel
import Ipsec.Proofs.Tunnel.Outside
import Ipsec.Proofs.Tunnel.Wire
import Ipsec.Proofs.Tunnel.Echo
import Ipsec.Proofs.Tunnel.Numbers
import Ipsec.Proofs.Tunnel.Replay
import Ipsec.Proofs.Tunnel.Parked
import Ipsec.Proofs.Tunnel.Selection
import Ipsec.Proofs.Tunnel.Pacing
import Ipsec.Proofs.Tunnel.Captures
import Ipsec.Proofs.Tunnel.Verdict
import Ipsec.Proofs.Tunnel.Ending
import Ipsec.Proofs.Tunnel.Records
import Ipsec.Proofs.Tunnel.Room
import Ipsec.Proofs.Tunnel.Settling
import Ipsec.Proofs.Tunnel.Reporting
import Ipsec.Proofs.Tunnel.Isolation
import Ipsec.Proofs.Tunnel.Contact
import Ipsec.Proofs.Tunnel.Collision
import Ipsec.Proofs.Tunnel.Origin
import Ipsec.Proofs.Tunnel.Visits
import Ipsec.Proofs.Tcp.Endpoints
import Ipsec.Proofs.Tcp.Watch
import Ipsec.Proofs.Tcp.Relay
import Ipsec.Proofs.Tcp.Room
import Ipsec.Proofs.Tcp.Draining
import Ipsec.Proofs.Tcp.Lifecycle
import Ipsec.Proofs.Tcp.Writing
import Ipsec.Proofs.Tcp.Settling
import Ipsec.Proofs.Tcp.Turn
import Ipsec.Proofs.Tcp.Collision
import Ipsec.Proofs.Tcp.Form
import Ipsec.Proofs.Tcp.Feeding
import Ipsec.Proofs.Tcp.Custody
import Ipsec.Proofs.Gateway.Operation
import Ipsec.Proofs.Tunnel.Custody
import Ipsec.Proofs.Gateway.Custody
import Ipsec.Proofs.Gateway.Reachable
import Ipsec.Proofs.Gateway.Settling
import Ipsec.Proofs.Gateway.Order
import Ipsec.Proofs.Flow.Conservation
import Ipsec.Proofs.Gateway.Routing
import Ipsec.Proofs.Gateway.Removal
import Ipsec.Proofs.Gateway.Silence
