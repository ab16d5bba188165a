import NatTraversal.Error

namespace NatTraversal

/- Frames in a stream stand behind their length in four bytes. -/

namespace Framing

/-- Refuses a frame above the limit before anything is written. -/
def write (limit : Nat) (frame : Bytes) : Except LinkError Bytes :=
  if frame.length > limit then .error (.frameTooLarge frame.length limit)
  else .ok (Bytes.bigEndian 4 frame.length ++ frame)

/-- The next frame and the rest of the stream. The announced length is judged before the frame is waited for. -/
def read (limit : Nat) (stream : Bytes) : Except LinkError (Bytes × Bytes) :=
  if stream.length < 4 then .error (.io .unexpectedEnd)
  else
    let length := Bytes.value (stream.take 4)
    let rest := stream.drop 4
    if length > limit then .error (.frameTooLarge length limit)
    else if rest.length < length then .error (.io .unexpectedEnd)
    else .ok (rest.take length, rest.drop length)

theorem read_shorter {limit : Nat} {stream frame rest : Bytes} (h : read limit stream = .ok (frame, rest)) :
    rest.length < stream.length := by
  unfold read at h
  split at h
  · cases h
  · dsimp only at h
    split at h
    · cases h
    · split at h
      · cases h
      · cases h
        simp only [List.length_drop]
        omega

/-- All frames up to the first error, and the error. -/
def readAll (limit : Nat) (stream : Bytes) : List Bytes × LinkError :=
  match h : read limit stream with
  | .error error => ([], error)
  | .ok (frame, rest) =>
    have := read_shorter h
    let (frames, error) := readAll limit rest
    (frame :: frames, error)
termination_by stream.length

end Framing

/-- A stream that is read, and the buffer that each of its frames is read into. -/
structure FrameReader where
  stream : Bytes
  buffer : Bytes := []

namespace FrameReader

/-- Makes the buffer as long as the next frame and fills it from the stream as far as that goes. What is told of a frame is
its length, since it stands at the start of the buffer. -/
def read (limit : Nat) (r : FrameReader) : Except LinkError Nat × FrameReader :=
  if r.stream.length < 4 then (.error (.io .unexpectedEnd), { r with stream := [] })
  else
    let length := Bytes.value (r.stream.take 4)
    let rest := r.stream.drop 4
    if length > limit then (.error (.frameTooLarge length limit), { r with stream := rest })
    else
      let room := r.buffer.take length ++ .replicate (length - r.buffer.length) 0
      (if rest.length < length then .error (.io .unexpectedEnd) else .ok length,
        ⟨rest.drop length, rest.take length ++ room.drop rest.length⟩)

/-- Whatever the buffer held, it holds the frame in the end and nothing else. -/
theorem read_of_ok {limit : Nat} {r : FrameReader} {frame rest : Bytes} (next : Framing.read limit r.stream = .ok (frame, rest)) :
    r.read limit = (.ok frame.length, ⟨rest, frame⟩) := by
  unfold Framing.read at next
  split at next
  · cases next
  · rename_i begun
    dsimp only at next
    split at next
    · cases next
    · rename_i fits
      split at next
      · cases next
      · rename_i complete
        have whole : min (Bytes.value (r.stream.take 4)) (r.stream.drop 4).length = Bytes.value (r.stream.take 4) :=
          Nat.min_eq_left (Nat.not_lt.mp complete)
        have full : (r.buffer.take (Bytes.value (r.stream.take 4)) ++
            List.replicate (Bytes.value (r.stream.take 4) - r.buffer.length) 0).length ≤ (r.stream.drop 4).length := by
          rw [List.length_append, List.length_take, List.length_replicate]
          omega
        cases next
        simp only [read, if_neg begun, if_neg fits, if_neg complete, List.length_take, whole, List.drop_eq_nil_of_le full,
          List.append_nil]

theorem read_of_error {limit : Nat} {r : FrameReader} {error : LinkError} (failed : Framing.read limit r.stream = .error error) :
    (r.read limit).1 = .error error := by
  unfold Framing.read at failed
  unfold read
  split at failed
  · rename_i cut
    cases failed
    rw [if_pos cut]
  · rename_i begun
    rw [if_neg begun]
    dsimp only at failed ⊢
    split at failed
    · rename_i long
      cases failed
      rw [if_pos long]
    · rename_i fits
      rw [if_neg fits]
      split at failed
      · rename_i cut
        cases failed
        exact if_pos cut
      · cases failed

theorem read_shorter {limit length : Nat} {r next : FrameReader} (h : r.read limit = (.ok length, next)) :
    next.stream.length < r.stream.length := by
  cases known : Framing.read limit r.stream with
  | error error =>
    have failed := read_of_error known
    rw [h] at failed
    cases failed
  | ok read =>
    have same := h.symm.trans (read_of_ok known)
    cases same
    exact Framing.read_shorter known

/-- The frames up to the first error, each as the buffer has it, and the error. -/
def readAll (limit : Nat) (r : FrameReader) : List Bytes × LinkError :=
  match h : r.read limit with
  | (.error error, _) => ([], error)
  | (.ok length, next) =>
    have := read_shorter h
    let (frames, error) := next.readAll limit
    (next.buffer.take length :: frames, error)
termination_by r.stream.length

end FrameReader

end NatTraversal
