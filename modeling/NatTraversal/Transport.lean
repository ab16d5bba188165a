namespace NatTraversal

inductive Transport where
  | udp
  | tcp
  /-- A reliable stream over UDP. -/
  | udt
deriving DecidableEq, Repr

def Transport.name : Transport → String
  | udp => "Udp"
  | tcp => "Tcp"
  | udt => "Udt"

/-- How a request for a port was answered. -/
inductive BindStatus where
  | success
  | fail
  /-- The address belongs to someone else. -/
  | alreadyBound
deriving DecidableEq, Repr

def BindStatus.name : BindStatus → String
  | success => "Success"
  | fail => "Fail"
  | alreadyBound => "AlreadyBound"

end NatTraversal
