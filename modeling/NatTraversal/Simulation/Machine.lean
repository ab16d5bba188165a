import NatTraversal.Endpoint.Sending

namespace NatTraversal

/- A machine that takes any address for its own and has no route to any other. -/

namespace Simulation

/-- Whether two sockets cannot be bound at once. The unspecified address stands for all. -/
def clash (a b : Socket) : Bool :=
  a.port == b.port && (a.ip == b.ip || a.ip == .v4 .unspecified || b.ip == .v4 .unspecified)

/-- The sockets that are in use on the machine, and how often it has chosen a port. -/
structure Machine where
  datagram : List Socket := []
  stream : List Socket := []
  chosen : Nat := 0

namespace Machine

/-- Where the ports that the machine chooses from begin. -/
def firstChosen : Nat := 32768

def choices : Nat := 28232

/-- A port that is free on the address, whatever is bound on others. The choices are gone through in strides, which meet
each of them. -/
def freePort? (used : List Socket) (ip : Ip) (chosen : Nat) : Option UInt16 :=
  let candidates := (List.range (used.length + 1)).map fun i => UInt16.ofNat (firstChosen + (chosen + i) * 10007 % choices)
  candidates.find? fun port => !used.any (clash ⟨ip, port⟩)

def bind (machine : Machine) (transport : Transport) (socket : Socket) : BindAnswer :=
  let used := if transport = .tcp then machine.stream else machine.datagram
  if socket.port = 0 then ((freePort? used socket.ip machine.chosen).map .bound).getD .inUse
  else if used.any (clash socket) then .inUse
  else .bound socket.port

/-- No datagram leaves. One that is too long, or that names no port, is refused before there is a look for a route. -/
def carry (frame : Bytes) (dest : Socket) : Except IoKind Unit :=
  if frame.length > 65535 then .error .uncategorized
  else if dest.port = 0 then .error .invalidInput
  else .error .networkUnreachable

/-- What an endpoint finds outside on this machine. -/
def outside (machine : Machine) : Outside := ⟨machine.bind, carry, fun _ => .taken⟩

/-- Adds what an endpoint holds. -/
def holding (machine : Machine) (e : Endpoint) : Machine :=
  { machine with
    datagram := machine.datagram ++ e.sockets .udp ++ e.sockets .udt
    stream := machine.stream ++ e.sockets .tcp }

end Machine

/-- Tickets and ports in a row, and lists left as they are. -/
def chance : Chance where
  ticket n := ⟨.ofNat (9223372036854775808 + n % 4294967296)⟩
  shuffle _ l := l
  port n := .ofNat (firstEphemeralPort.toNat + n % 15536)
  ticket_isNone n := by
    have : n % 4294967296 < 4294967296 := Nat.mod_lt _ (by decide)
    simp only [Ticket.isNone, beq_eq_false_iff_ne, ne_eq, ← UInt64.toNat_inj, UInt64.toNat_ofNat']
    have : (0 : UInt64).toNat = 0 := rfl
    omega
  shuffle_perm _ l := .refl l
  port_ephemeral n := by
    have : n % 15536 < 15536 := Nat.mod_lt _ (by decide)
    rw [UInt16.le_iff_toNat_le]
    simp only [firstEphemeralPort, UInt16.toNat_ofNat']
    have : (50000 : UInt16).toNat = 50000 := rfl
    omega

/-- How many steps a simulation takes before it waits for time to pass. -/
def patience : Nat := 1000000

end Simulation

end NatTraversal
