import NatTraversal.Courier.Basic

namespace NatTraversal

namespace Courier

/-- Forgets a path, here and in the puncher. -/
def closePath (courier : Courier) (key : PeerKey) : CourierStep :=
  if courier.paths.contains key then ({ courier with paths := courier.paths.erase key }, [.closePath key])
  else (courier, [])

/-- Refuses to send, and tells the application why. -/
def giveUp (courier : Courier) (dest : Contact) (reason : Error) : Except Error Unit × CourierStep :=
  (.error reason, courier, [.report (.unreachable dest.address reason)])

/-- Puts a parcel last in the queue of its destination. The first one asks for a path. -/
def enqueue (courier : Courier) (c : CourierContext) (dest : Contact) (parcel : Parcel) : Except Error Unit × CourierStep :=
  let queue := courier.parcels dest.key ++ [parcel]
  let courier := { courier with queued := courier.queued.insert dest.key queue }
  if queue.length ≠ 1 then (.ok (), courier, [])
  else if c.punching then (.ok (), courier, [.connect dest])
  else (.error .shutdown, courier, [])

/-- Sends to an open node directly, to any other along the path to it. A path that fails is given up. Without a path
the parcel waits for one, unless nobody can help to open it or too many handshakes have failed. -/
def send (courier : Courier) (c : CourierContext) (dest : Contact) (parcel : Parcel) : Except Error Unit × CourierStep :=
  if dest.isOpen then
    let message := { Message.plain courier.contact dest.address parcel.body with ticket := parcel.ticket }
    ((c.accept message).mapError .link, courier, [.send message])
  else match courier.paths.get? dest.key with
    | some path =>
      let message := courier.directMessage dest.key path parcel
      match c.accept message with
      | .ok () => (.ok (), courier, [.send message])
      | .error error =>
        let (courier, effects) := courier.closePath dest.key
        (.error (.link error), courier, .send message :: effects)
    | none =>
      if dest.parents.isEmpty then courier.giveUp dest (.noParents dest.node)
      else
        let failures := courier.failureCount dest.key
        if failures ≥ courier.config.failureLimit.toNat then
          courier.giveUp dest (.unreachable dest.node s!"{failures} failed handshakes")
        else courier.enqueue c dest parcel

def reportParents (courier : Courier) : List CourierEffect :=
  [.report (.parentsChanged (courier.me.parents courier.roster))]

/-- Follows what the puncher tells. A new path lets out what has waited for it, and a failed handshake drops it. -/
def onPunch (courier : Courier) (event : PunchEvent) : CourierStep :=
  match event with
  | .verified key target path =>
    let waiting := courier.parcels key
    let courier := { courier with
      paths := courier.paths.insert key path, failures := courier.failures.erase key, queued := courier.queued.erase key }
    (courier, .report (.verified target path) :: waiting.map fun parcel => .send (courier.directMessage key path parcel))
  | .failed key target error =>
    ({ courier with
        paths := courier.paths.erase key
        failures := courier.failures.insert key (courier.failureCount key + 1)
        queued := courier.queued.erase key },
      [.report (.unreachable target.address error)])
  | .pathClosed key path =>
    (if courier.paths.get? key = some path then { courier with paths := courier.paths.erase key } else courier, [])
  | .parentRegistered parent =>
    let (added, roster) := courier.roster.addParent courier.me.node parent
    let courier := { courier with roster }
    (courier, if added then courier.reportParents else [])
  | .parentLost parent =>
    let (removed, roster) := courier.roster.removeParent courier.me.node parent
    let courier := { courier with roster }
    (courier, if removed then courier.reportParents else [])
  | .probeSucceeded dest rtt => (courier, [.report (.probeSucceeded dest rtt)])

/-- Takes the node's translator as classified. An open node begins to serve if it is to; a natted one to look for
parents. -/
def onClassified (courier : Courier) (nat : NatType) : CourierStep :=
  let serves := courier.config.openServer && nat.isOpen
  ({ courier with roster := (courier.roster.setNat courier.me.node nat).2, serving := courier.serving || serves },
    (if serves then [.startServer] else []) ++ [.report (.classified nat), .startEnrollment])

end Courier

end NatTraversal
