import NatTraversal.Proofs.Endpoint.Streams

namespace NatTraversal

namespace Framing

variable {limit : Nat}

/-- What comes of writing frames one after the other: a frame that is refused leaves nothing in the stream. -/
def writeAll (limit : Nat) (frames : List Bytes) : Bytes := frames.flatMap fun frame => (write limit frame).toOption.getD []

theorem writeAll_eq (limit : Nat) (frames : List Bytes) :
    writeAll limit frames = (frames.filter fun frame => frame.length ≤ limit).flatMap framed := by
  induction frames with
  | nil => rfl
  | cons frame frames ih =>
    rw [writeAll, List.flatMap_cons, ← writeAll, ih]
    by_cases fits : frame.length ≤ limit
    · simp only [write_of_le fits, List.filter_cons, decide_eq_true fits, if_true, List.flatMap_cons]
      rfl
    · simp only [write, if_pos (Nat.not_le.mp fits), List.filter_cons, decide_eq_false fits, Bool.false_eq_true, if_false]
      rfl

/-- The length that a stream begins with. -/
def announced (stream : Bytes) : Nat := Bytes.value (stream.take 4)

/-- Why no frame can be read from where a stream has been read to. -/
inductive Stops (limit : Nat) (rest : Bytes) : LinkError → Prop where
  | unannounced (short : rest.length < 4) : Stops limit rest (.io .unexpectedEnd)
  | tooLarge (begun : 4 ≤ rest.length) (long : limit < announced rest) : Stops limit rest (.frameTooLarge (announced rest) limit)
  | incomplete (begun : 4 ≤ rest.length) (fits : announced rest ≤ limit) (short : rest.length < 4 + announced rest) :
      Stops limit rest (.io .unexpectedEnd)

/-- What is read stands at the head of the stream as it would have been written, and what cannot be read has a cause. -/
theorem read_cases (limit : Nat) (stream : Bytes) :
    (∃ frame rest, read limit stream = .ok (frame, rest) ∧ stream = framed frame ++ rest ∧ frame.length ≤ limit) ∨
      ∃ error, read limit stream = .error error ∧ Stops limit stream error := by
  by_cases short : stream.length < 4
  · exact .inr ⟨_, if_pos short, .unannounced short⟩
  · have begun : 4 ≤ stream.length := Nat.not_lt.mp short
    by_cases long : limit < announced stream
    · exact .inr ⟨_, (if_neg short).trans (if_pos long), .tooLarge begun long⟩
    · have fits : announced stream ≤ limit := Nat.not_lt.mp long
      by_cases cut : (stream.drop 4).length < announced stream
      · refine .inr ⟨_, (if_neg short).trans ((if_neg long).trans (if_pos cut)), .incomplete begun fits ?_⟩
        rw [List.length_drop] at cut
        omega
      · have length : ((stream.drop 4).take (announced stream)).length = announced stream := by
          rw [List.length_take]
          exact Nat.min_eq_left (Nat.not_lt.mp cut)
        have four : (stream.take 4).length = 4 := by
          rw [List.length_take]
          exact Nat.min_eq_left begun
        have header : Bytes.bigEndian 4 (announced stream) = stream.take 4 := by
          have back := Bytes.bigEndian_value (stream.take 4)
          rwa [four] at back
        refine .inl ⟨(stream.drop 4).take (announced stream), (stream.drop 4).drop (announced stream),
          (if_neg short).trans ((if_neg long).trans (if_neg cut)), ?_, by rw [length]; exact fits⟩
        rw [framed, length, header, List.append_assoc, List.take_append_drop, List.take_append_drop]

theorem readAll_of_error {stream : Bytes} {error : LinkError} (failed : read limit stream = .error error) :
    readAll limit stream = ([], error) := by
  rw [readAll]
  split
  · rename_i again
    cases failed.symm.trans again
    rfl
  · rename_i next
    cases failed.symm.trans next

/-- Every stream is made of frames as they would have been written and an end that no frame can be read from. -/
theorem readAll_splits (limit : Nat) (stream : Bytes) :
    ∃ rest, stream = (readAll limit stream).1.flatMap framed ++ rest ∧ (∀ frame ∈ (readAll limit stream).1, frame.length ≤ limit) ∧
      Stops limit rest (readAll limit stream).2 := by
  -- The induction is on the length of the stream, which every frame that is read shortens.
  induction known : stream.length using Nat.strongRecOn generalizing stream with
  | ind _ ih =>
    subst known
    rcases read_cases limit stream with ⟨frame, rest, next, head, fits⟩ | ⟨error, failed, stops⟩
    · obtain ⟨last, split, fit, stops⟩ := ih rest.length (read_shorter next) rest rfl
      rw [readAll_of_read next]
      refine ⟨last, ?_, List.forall_mem_cons.mpr ⟨fits, fit⟩, stops⟩
      rw [List.flatMap_cons, List.append_assoc, ← split]
      exact head
    · rw [readAll_of_error failed]
      exact ⟨stream, rfl, by simp, stops⟩

end Framing

namespace FrameReader

open Framing

theorem readAll_of_read {limit : Nat} {r : FrameReader} {frame rest : Bytes} (next : Framing.read limit r.stream = .ok (frame, rest)) :
    FrameReader.readAll limit r = (frame :: (FrameReader.readAll limit ⟨rest, frame⟩).1, (FrameReader.readAll limit ⟨rest, frame⟩).2) := by
  have known := read_of_ok next
  rw [FrameReader.readAll]
  split
  · rename_i failed
    cases known.symm.trans failed
  · rename_i found
    cases known.symm.trans found
    rw [List.take_length]

theorem readAll_of_error {limit : Nat} {r : FrameReader} {error : LinkError} (failed : Framing.read limit r.stream = .error error) :
    FrameReader.readAll limit r = ([], error) := by
  have known := read_of_error failed
  rw [FrameReader.readAll]
  split
  · rename_i same
    rw [same] at known
    cases known
    rfl
  · rename_i found
    rw [found] at known
    cases known

/-- What a frame leaves in the buffer never shows in a later one. -/
theorem readAll_eq (limit : Nat) (r : FrameReader) : FrameReader.readAll limit r = Framing.readAll limit r.stream := by
  obtain ⟨stream, buffer⟩ := r
  induction stream using Framing.readAll.induct limit generalizing buffer with
  | case1 stream error failed => rw [readAll_of_error failed, Framing.readAll_of_error failed]
  | case2 stream frame rest next _ _ _ _ ih => rw [readAll_of_read next, ih, Framing.readAll_of_read next]

/-- Writing and reading are inverse to each other, whatever the reader's buffer held. Of the frames that are written those
within the limit are read, in order, up to the end of the stream. The frames that are read from any stream, written again,
are what it begins with, and the rest of it shows why there are no more. -/
theorem readAll_inverts_writeAll {limit : Nat} (word : limit ≤ 4294967295) (buffer : Bytes) :
    (∀ frames : List Bytes, FrameReader.readAll limit ⟨writeAll limit frames, buffer⟩ =
      (frames.filter fun frame => frame.length ≤ limit, .io .unexpectedEnd)) ∧
    ∀ stream : Bytes, ∃ frames error rest, FrameReader.readAll limit ⟨stream, buffer⟩ = (frames, error) ∧
      stream = writeAll limit frames ++ rest ∧ (∀ frame ∈ frames, frame.length ≤ limit) ∧ Stops limit rest error := by
  simp only [readAll_eq, writeAll_eq]
  constructor
  · intro frames
    refine readAll_framed (by omega) fun frame member => ?_
    simpa using (List.mem_filter.mp member).2
  · intro stream
    obtain ⟨rest, split, fit, stops⟩ := readAll_splits limit stream
    have all : (Framing.readAll limit stream).1.filter (fun frame => frame.length ≤ limit) = (Framing.readAll limit stream).1 :=
      List.filter_eq_self.mpr fun frame member => decide_eq_true (fit frame member)
    exact ⟨_, _, rest, rfl, by rw [all]; exact split, fit, stops⟩

/-- Of three frames the one beyond the limit is missing. A stream that announces a frame of 100 bytes stops there. -/
theorem readAll_inverts_writeAll_four :
    4 ≤ 4294967295 ∧
    FrameReader.readAll 4 ⟨writeAll 4 [[1, 2, 3], [1, 2, 3, 4, 5], []], [9, 9, 9, 9, 9, 9]⟩ = ([[1, 2, 3], []], .io .unexpectedEnd) ∧
    ∃ rest, [0, 0, 0, 1, 7, 0, 0, 0, 100, 5] = writeAll 4 [[7]] ++ rest ∧ Stops 4 rest (.frameTooLarge 100 4) := by
  have word : 4 ≤ 4294967295 := by decide
  obtain ⟨written, read⟩ := readAll_inverts_writeAll word [9, 9, 9, 9, 9, 9]
  refine ⟨word, (written _).trans rfl, ?_⟩
  obtain ⟨frames, error, rest, found, split, _, stops⟩ := read [0, 0, 0, 1, 7, 0, 0, 0, 100, 5]
  have first : Framing.read 4 [0, 0, 0, 1, 7, 0, 0, 0, 100, 5] = .ok ([7], [0, 0, 0, 100, 5]) := rfl
  have second : Framing.read 4 [0, 0, 0, 100, 5] = .error (.frameTooLarge 100 4) := rfl
  rw [readAll_eq, Framing.readAll_of_read first, Framing.readAll_of_error second] at found
  cases found
  exact ⟨rest, split, stops⟩

end FrameReader

end NatTraversal
