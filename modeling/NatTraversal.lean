import NatTraversal.Address.Basic
import NatTraversal.Address.Contact
import NatTraversal.Address.Ip
import NatTraversal.Address.Socket
import NatTraversal.Alarms
import NatTraversal.Chance
import NatTraversal.Config.Basic
import NatTraversal.Config.Check
import NatTraversal.Config.Reading
import NatTraversal.Config.Setting
import NatTraversal.Courier.Basic
import NatTraversal.Courier.Sending
import NatTraversal.Courier.Sorting
import NatTraversal.Endpoint.Basic
import NatTraversal.Endpoint.Delivery
import NatTraversal.Endpoint.Framing
import NatTraversal.Endpoint.PortTable
import NatTraversal.Endpoint.Sending
import NatTraversal.Endpoint.Traffic
import NatTraversal.Error
import NatTraversal.Identity.Basic
import NatTraversal.Identity.Roster
import NatTraversal.Json.Basic
import NatTraversal.Json.Names
import NatTraversal.Json.Parser
import NatTraversal.Json.Reading
import NatTraversal.Json.Renaming
import NatTraversal.Json.Writing
import NatTraversal.Message.Basic
import NatTraversal.Message.Codec
import NatTraversal.Message.Opcode
import NatTraversal.Message.Status
import NatTraversal.NatType
import NatTraversal.Node.Application
import NatTraversal.Node.Basic
import NatTraversal.Node.Building
import NatTraversal.Node.Running
import NatTraversal.Number.Binary64
import NatTraversal.Number.Decimal
import NatTraversal.Number.Numeral
import NatTraversal.Number.Rounding
import NatTraversal.Proofs.Alarms
import NatTraversal.Proofs.Chance
import NatTraversal.Proofs.Endpoint.Binding
import NatTraversal.Proofs.Endpoint.Sockets
import NatTraversal.Proofs.Handshake.Advance
import NatTraversal.Proofs.Handshake.BothCall
import NatTraversal.Proofs.Handshake.OneInitiator
import NatTraversal.Proofs.Handshake.Pending
import NatTraversal.Proofs.Handshake.Rally
import NatTraversal.Proofs.Message.Forms
import NatTraversal.Proofs.Message.RoundTrip
import NatTraversal.Proofs.Network.Basic
import NatTraversal.Proofs.Network.Parties
import NatTraversal.Proofs.Network.Reactions
import NatTraversal.Proofs.Network.Rehearsal
import NatTraversal.Proofs.Network.Standing
import NatTraversal.Proofs.Punch.Aside
import NatTraversal.Proofs.Punch.Desk
import NatTraversal.Proofs.Punch.Identity
import NatTraversal.Proofs.Punch.Lifetime
import NatTraversal.Proofs.Punch.Moves
import NatTraversal.Proofs.Punch.Peers
import NatTraversal.Proofs.Punch.Phases
import NatTraversal.Proofs.Punch.Ports
import NatTraversal.Proofs.Punch.Requests
import NatTraversal.Proofs.Punch.Sent
import NatTraversal.Proofs.Punch.Tally
import NatTraversal.Proofs.Punch.Tickets
import NatTraversal.Proofs.Punch.View
import NatTraversal.Proofs.Punch.Watches
import NatTraversal.Proofs.Wire.Forms
import NatTraversal.Proofs.Wire.FreeBits
import NatTraversal.Punch.Basic
import NatTraversal.Punch.Enrollment
import NatTraversal.Punch.Handling
import NatTraversal.Punch.Handshaking
import NatTraversal.Rendezvous.Server
import NatTraversal.Rendezvous.Sessions
import NatTraversal.Simulation.Bench
import NatTraversal.Simulation.Machine
import NatTraversal.Simulation.World
import NatTraversal.Stun.Observations
import NatTraversal.Stun.Responder
import NatTraversal.Stun.Survey
import NatTraversal.Stun.Surveyor
import NatTraversal.Surroundings
import NatTraversal.Table
import NatTraversal.Text.Hex
import NatTraversal.Text.Utf8
import NatTraversal.Ticket
import NatTraversal.Time
import NatTraversal.Transport
import NatTraversal.Wire.Bytes
import NatTraversal.Wire.Reader
import NatTraversal.Proofs.Courier.Tandem
import NatTraversal.Proofs.Courier.Paths
import NatTraversal.Proofs.Courier.Queues
import NatTraversal.Proofs.Rendezvous.Calls
import NatTraversal.Proofs.Logs
import NatTraversal.Proofs.Rendezvous.History
import NatTraversal.Proofs.Rendezvous.Eager
import NatTraversal.Proofs.Rendezvous.Moves
import NatTraversal.Proofs.Courier.Losses
import NatTraversal.Proofs.Rendezvous.Forwarding
import NatTraversal.Proofs.Endpoint.Metering
import NatTraversal.Proofs.Inevitable
import NatTraversal.Proofs.Stun.Translator
import NatTraversal.Proofs.Stun.Site
import NatTraversal.Proofs.Stun.Evaluation
import NatTraversal.Proofs.Stun.Course
import NatTraversal.Proofs.Stun.Echoes
import NatTraversal.Proofs.Stun.Outcome
import NatTraversal.Proofs.Stun.Filtering
import NatTraversal.Proofs.Stun.Contiguity
import NatTraversal.Proofs.Stun.Mapping
import NatTraversal.Proofs.Punch.Parents
import NatTraversal.Proofs.Punch.Bookkeeping
import NatTraversal.Proofs.Punch.Leaving
import NatTraversal.Proofs.Courier.Liaison
import NatTraversal.Proofs.Courier.GivingUp
import NatTraversal.Proofs.Courier.ParentSet
import NatTraversal.Proofs.Endpoint.Streams
import NatTraversal.Proofs.Endpoint.Datagrams
import NatTraversal.Proofs.Endpoint.Rivals
import NatTraversal.Proofs.Punch.Farewell
import NatTraversal.Proofs.Punch.Rotation
import NatTraversal.Proofs.Rendezvous.Refusals
import NatTraversal.Proofs.Wire.Takes
import NatTraversal.Proofs.Message.Truncation
import NatTraversal.Proofs.Courier.Unsendable
import NatTraversal.Proofs.Endpoint.Frames
import NatTraversal.Proofs.Endpoint.PortMap
import NatTraversal.Proofs.Endpoint.Ephemeral
import NatTraversal.Proofs.Endpoint.Bandwidth
import NatTraversal.Proofs.Identity.Parents
import NatTraversal.Proofs.Identity.Advertised
import NatTraversal.Proofs.Stun.Tidy
import NatTraversal.Proofs.Stun.Exchanges
import NatTraversal.Proofs.Stun.Bounded
import NatTraversal.Proofs.Stun.Relays
import NatTraversal.Proofs.AlarmClock
import NatTraversal.Proofs.Endpoint.Channels
import NatTraversal.Proofs.Punch.Unheard
import NatTraversal.Proofs.Stun.Lingering
import NatTraversal.Proofs.Timeouts
