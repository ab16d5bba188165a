import NatTraversal.Node.Running

namespace NatTraversal

namespace Node

/-- Sends a message or queues it until there is a path. -/
def send (n : Node) (now : Nat) (outside : Outside) (dest : Contact) (parcel : Parcel) : Except Error Unit × Node :=
  if n.down then (.error .shutdown, n)
  else match n.courier with
    | some courier =>
      let (result, step) := courier.send (n.courierContext outside) dest parcel
      (result, n.carried now outside step)
    | none => (.error .shutdown, n)

/-- Gives the puncher something to do, if it still does anything. -/
def ask (n : Node) (errand : Errand) : Except Error Unit × Node :=
  if n.isPunching then (.ok (), n.leave [errand]) else (.error .shutdown, n)

/-- Hands a request to the rendezvous server. -/
def request (n : Node) (message : Message) (remote : Socket) : Except Error Unit × Node :=
  if n.down then (.error .shutdown, n) else (.ok (), n.leave [.serve message remote])

/-- Leaves every parent and stops. -/
def close (n : Node) (now : Nat) (outside : Outside) : Except Error Unit × Node :=
  if n.down then (.error .shutdown, n) else (.ok (), (n.command now outside .unregister).shutDown)

def contact (n : Node) : Contact := n.me.contact n.roster

end Node

end NatTraversal
