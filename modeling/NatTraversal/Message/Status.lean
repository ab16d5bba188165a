namespace NatTraversal

/-- Which way an echo asks to be answered. -/
inductive EchoKind where
  | plain
  /-- From the server's alternate port. -/
  | changePort
  /-- From the server's partner. -/
  | changeServer
  /-- A request for the partner's answer, passed on to the partner. -/
  | forwarded
deriving DecidableEq, Repr

inductive RegisterStatus where
  | accepted
  | rejected
deriving DecidableEq, Repr

inductive UnregisterStatus where
  | success
  | notRegistered
  | fail
  | delayLessThanZero
  | alreadyMoving
deriving DecidableEq, Repr

inductive KeepAliveStatus where
  | alive
  | notRegistered
deriving DecidableEq, Repr

inductive ConnectStatus where
  | success
  | unknownTarget
deriving DecidableEq, Repr

namespace EchoKind

def code : EchoKind → UInt8
  | plain => 0
  | changePort => 1
  | changeServer => 2
  | forwarded => 3

def ofCode? : UInt8 → Option EchoKind
  | 0 => some plain
  | 1 => some changePort
  | 2 => some changeServer
  | 3 => some forwarded
  | _ => none

theorem ofCode?_eq_some_iff {c : UInt8} {k : EchoKind} : ofCode? c = some k ↔ c = k.code := by
  constructor
  · intro h; unfold ofCode? at h; split at h <;> cases h <;> rfl
  · rintro rfl; cases k <;> rfl

end EchoKind

namespace RegisterStatus

def code : RegisterStatus → UInt8
  | accepted => 0
  | rejected => 1

def ofCode? : UInt8 → Option RegisterStatus
  | 0 => some accepted
  | 1 => some rejected
  | _ => none

theorem ofCode?_eq_some_iff {c : UInt8} {s : RegisterStatus} : ofCode? c = some s ↔ c = s.code := by
  constructor
  · intro h; unfold ofCode? at h; split at h <;> cases h <;> rfl
  · rintro rfl; cases s <;> rfl

end RegisterStatus

namespace UnregisterStatus

def code : UnregisterStatus → UInt8
  | success => 0
  | notRegistered => 1
  | fail => 2
  | delayLessThanZero => 3
  | alreadyMoving => 4

def ofCode? : UInt8 → Option UnregisterStatus
  | 0 => some success
  | 1 => some notRegistered
  | 2 => some fail
  | 3 => some delayLessThanZero
  | 4 => some alreadyMoving
  | _ => none

theorem ofCode?_eq_some_iff {c : UInt8} {s : UnregisterStatus} : ofCode? c = some s ↔ c = s.code := by
  constructor
  · intro h; unfold ofCode? at h; split at h <;> cases h <;> rfl
  · rintro rfl; cases s <;> rfl

end UnregisterStatus

namespace KeepAliveStatus

def code : KeepAliveStatus → UInt8
  | alive => 0
  | notRegistered => 1

def ofCode? : UInt8 → Option KeepAliveStatus
  | 0 => some alive
  | 1 => some notRegistered
  | _ => none

theorem ofCode?_eq_some_iff {c : UInt8} {s : KeepAliveStatus} : ofCode? c = some s ↔ c = s.code := by
  constructor
  · intro h; unfold ofCode? at h; split at h <;> cases h <;> rfl
  · rintro rfl; cases s <;> rfl

end KeepAliveStatus

namespace ConnectStatus

def code : ConnectStatus → UInt8
  | success => 0
  | unknownTarget => 1

def ofCode? : UInt8 → Option ConnectStatus
  | 0 => some success
  | 1 => some unknownTarget
  | _ => none

theorem ofCode?_eq_some_iff {c : UInt8} {s : ConnectStatus} : ofCode? c = some s ↔ c = s.code := by
  constructor
  · intro h; unfold ofCode? at h; split at h <;> cases h <;> rfl
  · rintro rfl; cases s <;> rfl

end ConnectStatus

end NatTraversal
