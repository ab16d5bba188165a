import NatTraversal.Address.Basic

namespace NatTraversal

/-- What handshakes and paths are told apart by. -/
structure PeerKey where
  node : UInt32
  overlay : UInt32
deriving DecidableEq, Repr

/-- How a node can be contacted in one overlay. A natted node is reached through its parents, the rendezvous servers
that it is registered with. -/
structure Contact where
  address : Address
  overlay : UInt32
  nat : NatType
  parents : List Address
deriving DecidableEq, Repr

/-- What does not fit into the wire form. -/
inductive Oversize where
  | parents (count : Nat)
  | string (length : Nat)
  | payload (length : Nat)
deriving DecidableEq, Repr

def Oversize.text : Oversize → String
  | parents count => s!"{count} parents exceed 255"
  | string length => s!"string of {length} bytes exceeds 255"
  | payload length => s!"payload of {length} bytes exceeds 65535"

namespace Contact

def isOpen (contact : Contact) : Bool := contact.nat.isOpen

def node (contact : Contact) : UInt32 := contact.address.node

def key (contact : Contact) : PeerKey := ⟨contact.address.node, contact.overlay⟩

/-- The same contact with these parents, each kept where it comes first. -/
def withParents (contact : Contact) (parents : List Address) : Contact :=
  { contact with parents := parents.foldl (fun kept p => if p ∈ kept then kept else kept ++ [p]) [] }

def text (contact : Contact) : String :=
  s!"{contact.address.text}/{contact.overlay} {contact.nat.text}"

/-- Parents behind their number in one byte. -/
def encodeParents (parents : List Address) : Except Oversize Bytes :=
  if parents.length > 255 then .error (.parents parents.length)
  else .ok (UInt8.ofNat parents.length :: parents.flatMap Address.encode)

def readParents : Reader (List Address) := Reader.list Address.read

def encode (contact : Contact) : Except Oversize Bytes := do
  let parents ← encodeParents contact.parents
  return contact.address.encode ++ Bytes.u32 contact.overlay ++ contact.nat.encode ++ parents

def read : Reader Contact := do
  let address ← Address.read
  let overlay ← Reader.u32
  let nat ← Reader.nat
  let parents ← readParents
  return { address, overlay, nat, parents }

end Contact

end NatTraversal
