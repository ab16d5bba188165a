import NatTraversal.Address.Socket
import NatTraversal.Table

namespace NatTraversal

/-- The bound sockets of one transport with their channels, found by port and by socket. -/
structure PortTable (χ : Type) where
  sockets : Table UInt16 Socket
  channels : Table Socket χ

namespace PortTable

variable {χ : Type}

def empty : PortTable χ := ⟨.empty, .empty⟩

instance : EmptyCollection (PortTable χ) := ⟨empty⟩

/-- Hands the channel back if the port or the socket is taken. -/
def insert (table : PortTable χ) (socket : Socket) (channel : χ) : Except χ (PortTable χ) :=
  if table.sockets.contains socket.port || table.channels.contains socket then .error channel
  else .ok ⟨table.sockets.insert socket.port socket, table.channels.insert socket channel⟩

def contains (table : PortTable χ) (port : UInt16) : Bool := table.sockets.contains port

def socket? (table : PortTable χ) (port : UInt16) : Option Socket := table.sockets.get? port

def get? (table : PortTable χ) (port : UInt16) : Option χ := (table.socket? port).bind table.channels.get?

def getAt? (table : PortTable χ) (socket : Socket) : Option χ := table.channels.get? socket

def remove (table : PortTable χ) (port : UInt16) : Option (Socket × χ) × PortTable χ :=
  match table.socket? port with
  | none => (none, table)
  | some socket =>
    ((table.channels.get? socket).map (socket, ·), ⟨table.sockets.erase port, table.channels.erase socket⟩)

/-- The bound ports in ascending order. -/
def ports (table : PortTable χ) : List UInt16 := table.sockets.keys.mergeSort (· ≤ ·)

def size (table : PortTable χ) : Nat := table.sockets.size

def isEmpty (table : PortTable χ) : Bool := table.sockets.isEmpty

end PortTable

end NatTraversal
