import Meshquill.Transport.Reading

/-!
# After an oversized frame

A frame that declares more than `MAX_OUTER_PAYLOAD` bytes is reported as soon as its header has
been read, and then only so much of its body is skipped as is in the buffer at that moment. The
rest of the body is scanned for frames like any other part of the stream. So what is delivered
after the report depends on the reads, unless every marker in the body again starts an oversized
frame that ends inside the body.
-/
namespace Meshquill

/-- The payloads among the results of calls. -/
def payloads (results : List (Except TransportError (Option Bytes))) : List Bytes :=
  results.filterMap fun
    | .ok (some payload) => some payload
    | _ => none

/-- The payloads that are delivered after the first error. -/
def payloadsAfterError (results : List (Except TransportError (Option Bytes))) : List Bytes :=
  payloads (results.dropWhile Except.isOk).tail

/-- A frame that declares too many bytes, with all of them. -/
structure OversizedFrame where
  low : UInt8
  high : UInt8
  body : Bytes
  large : maxOuterPayload < declared low high
  whole : body.length = declared low high

namespace OversizedFrame

def bytes (frame : OversizedFrame) : Bytes :=
  deviceFramePrefix :: frame.low :: frame.high :: frame.body

/-- The same payloads are delivered after the report of the frame, whatever surrounds it and
however the stream is cut into reads of at most `limit` bytes. -/
def Independent (limit : Nat) (frame : OversizedFrame) : Prop :=
  ∀ (before : List Segment) (noise : Bytes) (after : List Bytes), Noise noise →
    (∀ payload ∈ after, payload.length ≤ maxOuterPayload) →
    ∀ first second : List Bytes,
      Cut limit first
        (before.flatMap Segment.bytes ++ (noise ++ frame.bytes ++ after.flatMap deviceFrame)) →
      Cut limit second
        (before.flatMap Segment.bytes ++ (noise ++ frame.bytes ++ after.flatMap deviceFrame)) →
      payloadsAfterError (readAll (toEnd first) []) = payloadsAfterError (readAll (toEnd second) [])

end OversizedFrame

/-- What follows a marker is an oversized frame, and all of it is there. -/
def Swallows : Bytes → Prop
  | low :: high :: inner => maxOuterPayload < declared low high ∧ declared low high ≤ inner.length
  | _ => False

instance decidableSwallows : DecidablePred Swallows
  | [] | [_] => isFalse id
  | _ :: _ :: _ => inferInstanceAs (Decidable (_ ∧ _))

/-- Every marker in these bytes starts an oversized frame that ends inside them. -/
def Contained : Bytes → Prop
  | [] => True
  | byte :: rest => (byte = deviceFramePrefix → Swallows rest) ∧ Contained rest

instance decidableContained : DecidablePred Contained
  | [] => isTrue trivial
  | _ :: rest =>
    have := decidableContained rest
    inferInstanceAs (Decidable (_ ∧ _))

variable {body noise rest front buffered back : Bytes} {later after chunks : List Bytes}
  {size : Nat}

theorem Contained.drop (contained : Contained body) (count : Nat) :
    Contained (body.drop count) := by
  induction count generalizing body with
  | zero => exact contained
  | succ count ih =>
    cases body with
    | nil => exact trivial
    | cons byte rest => exact ih contained.2

theorem Contained.swallows (contained : Contained (noise ++ deviceFramePrefix :: rest)) :
    Swallows rest := by
  have starts := contained.drop noise.length
  rw [List.drop_left] at starts
  exact starts.1 rfl

theorem exists_not_swallows (loose : ¬ Contained body) :
    ∃ front rest, body = front ++ deviceFramePrefix :: rest ∧ ¬ Swallows rest := by
  induction body with
  | nil => exact absurd trivial loose
  | cons byte rest ih =>
    by_cases contained : Contained rest
    · have marker : ¬ (byte = deviceFramePrefix → Swallows rest) := fun swallows =>
        loose ⟨swallows, contained⟩
      obtain ⟨rfl, free⟩ := Classical.not_imp.mp marker
      exact ⟨[], rest, rfl, free⟩
    · obtain ⟨front, tail, rfl, free⟩ := ih contained
      exact ⟨byte :: front, tail, rfl, free⟩

/-! ## Where reading resumes -/

/-- After a report, reading resumes somewhere in the body. -/
theorem resumes {after : Bytes} (stream : front ++ later.flatten = body ++ after)
    (whole : size ≤ body.length) :
    ∃ count, front.drop size ++ later.flatten = body.drop count ++ after := by
  by_cases short : front.length ≤ size
  · refine ⟨front.length, ?_⟩
    rw [List.drop_eq_nil_of_le short, List.nil_append,
      ← List.drop_append_of_le_length (Nat.le_trans short whole), ← stream, List.drop_left]
  · refine ⟨size, ?_⟩
    rw [← List.drop_append_of_le_length whole, ← stream,
      List.drop_append_of_le_length (Nat.le_of_not_le short)]

/-- Noise and frames, as segments. -/
theorem exists_segments (quiet : Noise noise)
    (fit : ∀ payload ∈ after, payload.length ≤ maxOuterPayload) :
    ∃ (segments : List Segment) (ending : Ending),
      segments.flatMap Segment.bytes ++ ending.bytes = noise ++ after.flatMap deviceFrame ∧
      segments.map Segment.payload = after := by
  induction after generalizing noise with
  | nil =>
    refine ⟨[], ⟨noise, [], quiet, [], deviceFrame [], by decide, by decide, rfl⟩, ?_, rfl⟩
    simp [Ending.bytes]
  | cons payload after ih =>
    obtain ⟨fits, others⟩ := List.forall_mem_cons.mp fit
    have silent : Noise [] := List.not_mem_nil
    obtain ⟨segments, ending, bytes, same⟩ := ih silent others
    refine ⟨⟨noise, payload, quiet, fits⟩ :: segments, ending, ?_, by simp [same]⟩
    rw [List.flatMap_cons, List.append_assoc, bytes]
    simp [Segment.bytes]

theorem payloads_segments (segments : List Segment) (ending : Ending) :
    payloads (segments.map (fun segment => .ok (some segment.payload)) ++ [ending.result]) =
      segments.map Segment.payload := by
  have last : payloads [ending.result] = [] := by
    unfold Ending.result
    split <;> rfl
  induction segments with
  | nil => exact last
  | cons segment segments ih =>
    rw [List.map_cons, List.cons_append, payloads, List.filterMap_cons, ← payloads, ih]
    rfl

/-- Reading on from anywhere in a contained body delivers exactly the frames after it. -/
theorem payloads_contained (contained : Contained body)
    (fit : ∀ payload ∈ after, payload.length ≤ maxOuterPayload)
    (nonempty : ∀ chunk ∈ chunks, chunk ≠ [])
    (stream : buffered ++ chunks.flatten = body ++ after.flatMap deviceFrame) :
    payloads (readAll (toEnd chunks) buffered) = after := by
  generalize size : body.length = count
  induction count using Nat.strongRecOn generalizing body buffered chunks with
  | ind count ih =>
    rcases noise_or_marker body with quiet | ⟨noise, rest, quiet, rfl⟩
    · obtain ⟨segments, ending, bytes, same⟩ := exists_segments quiet fit
      rw [readAll_segments nonempty (stream.trans bytes.symm), payloads_segments, same]
    · -- The marker starts a nested oversized frame, and reading resumes inside it.
      have swallows := contained.swallows
      rcases rest with _ | ⟨low, _ | ⟨high, inner⟩⟩
      · exact absurd swallows id
      · exact absurd swallows id
      · obtain ⟨large, whole⟩ := swallows
        have starts : discardPrecedingNoise (buffered ++ chunks.flatten) =
            deviceFramePrefix :: low :: high :: (inner ++ after.flatMap deviceFrame) := by
          rw [stream, List.append_assoc, discard_of_noise quiet]
          exact discard_framed _
        obtain ⟨front, later, suffix, remains, called⟩ :=
          readFrom_stream_of_oversized nonempty [.chunk []] starts large
        obtain ⟨skipped, resumed⟩ := resumes remains whole
        have others : ∀ chunk ∈ later, chunk ≠ [] := fun chunk member =>
          nonempty chunk (suffix.subset member)
        have shorter : (inner.drop skipped).length < count := by
          rw [← size, List.length_drop, List.length_append, List.length_cons, List.length_cons,
            List.length_cons]
          omega
        have inside : Contained (inner.drop skipped) := by
          have tail := contained.drop (noise.length + 3)
          rw [← List.drop_drop, List.drop_left] at tail
          exact tail.drop skipped
        rw [toEnd, readAll_of_resolved called]
        exact ih _ shorter inside others resumed rfl

/-- The frames before an oversized one are delivered, then it is reported. -/
theorem readAll_reports (before : List Segment) (quiet : Noise noise) {low high : UInt8}
    (large : maxOuterPayload < declared low high) (nonempty : ∀ chunk ∈ chunks, chunk ≠ [])
    (stream : buffered ++ chunks.flatten = before.flatMap Segment.bytes ++
      (noise ++ deviceFramePrefix :: low :: high :: rest)) :
    ∃ front later, later <:+ chunks ∧ front ++ later.flatten = rest ∧
      payloadsAfterError (readAll (toEnd chunks) buffered) =
        payloads (readAll (toEnd later) (front.drop (declared low high))) := by
  induction before generalizing buffered chunks with
  | nil =>
    rw [List.flatMap_nil, List.nil_append] at stream
    have starts : discardPrecedingNoise (buffered ++ chunks.flatten) =
        deviceFramePrefix :: low :: high :: rest := by
      rw [stream, discard_of_noise quiet, discard_framed]
    obtain ⟨front, later, suffix, remains, called⟩ :=
      readFrom_stream_of_oversized nonempty [.chunk []] starts large
    refine ⟨front, later, suffix, remains, ?_⟩
    rw [toEnd, readAll_of_resolved called]
    rfl
  | cons segment before ih =>
    rw [List.flatMap_cons, List.append_assoc] at stream
    have found := scan_segment segment
      (before.flatMap Segment.bytes ++ (noise ++ deviceFramePrefix :: low :: high :: rest))
    rw [← stream] at found
    obtain ⟨left, middle, shorter, continues, called⟩ :=
      readFrom_stream_of_frame nonempty [.chunk []] found
    have others : ∀ chunk ∈ middle, chunk ≠ [] := fun chunk member =>
      nonempty chunk (shorter.subset member)
    obtain ⟨front, later, suffix, remains, same⟩ := ih others continues
    refine ⟨front, later, suffix.trans shorter, remains, ?_⟩
    rw [toEnd, readAll_of_resolved called, ← same]
    rfl

variable (frame : OversizedFrame)

/-- After the report of a frame with a contained body, exactly the frames after it are
delivered. -/
theorem OversizedFrame.delivers (contained : Contained frame.body)
    (before : List Segment) (quiet : Noise noise)
    (fit : ∀ payload ∈ after, payload.length ≤ maxOuterPayload) {limit : Nat}
    (cut : Cut limit chunks
      (before.flatMap Segment.bytes ++ (noise ++ frame.bytes ++ after.flatMap deviceFrame))) :
    payloadsAfterError (readAll (toEnd chunks) []) = after := by
  have stream : [] ++ chunks.flatten = before.flatMap Segment.bytes ++ (noise ++
      deviceFramePrefix :: frame.low :: frame.high ::
        (frame.body ++ after.flatMap deviceFrame)) := by
    rw [List.nil_append, cut.whole, OversizedFrame.bytes]
    simp
  obtain ⟨front, later, suffix, remains, same⟩ :=
    readAll_reports before quiet frame.large cut.nonempty stream
  obtain ⟨skipped, resumed⟩ := resumes remains (Nat.le_of_eq frame.whole.symm)
  have others : ∀ chunk ∈ later, chunk ≠ [] := fun chunk member =>
    cut.nonempty chunk (suffix.subset member)
  rw [same, payloads_contained (contained.drop skipped) fit others resumed]

/-! ## How the reads show -/

/-- A read that ends inside the header, and one with the rest of it: what else the second one
brought is skipped as far as the frame goes. -/
theorem readAll_header {low high : UInt8} (large : maxOuterPayload < declared low high)
    (front : Bytes) (later : List Bytes) :
    readAll (toEnd ([deviceFramePrefix, low] :: (high :: front) :: later)) [] =
      .error (coreCodecError (.oversizedPacketPayload (declared low high) maxOuterPayload)) ::
        readAll (toEnd later) (front.drop (declared low high)) := by
  have nothing : scan [] = (.ok none, []) := rfl
  have begun : scan [deviceFramePrefix, low] = (.ok none, [deviceFramePrefix, low]) := by
    unfold scan
    rw [discard_framed, outerDecode_framed]
  have complete : scan (deviceFramePrefix :: low :: high :: front) =
      (.error (.oversizedPacketPayload (declared low high) maxOuterPayload),
        front.drop (declared low high)) := by
    unfold scan
    rw [discard_framed, outerDecode_framed]
    simp only [large, if_pos]
  refine readAll_of_resolved ?_
  rw [toEnd, List.map_cons, List.map_cons, List.cons_append, List.cons_append,
    readFrom_of_waiting nothing (List.cons_ne_nil _ _), List.nil_append,
    readFrom_of_waiting begun (List.cons_ne_nil _ _)]
  exact readFrom_of_oversized complete _

/-- The reads that split the header and end the second one at a chosen place of the body. -/
theorem OversizedFrame.cut_header {limit : Nat}
    (room : declared frame.low frame.high < limit) (split : frame.body = front ++ back)
    {after : Bytes} (cut : Cut limit later (back ++ after)) :
    Cut limit ([deviceFramePrefix, frame.low] :: (frame.high :: front) :: later)
      (frame.bytes ++ after) := by
  have large : 300 < declared frame.low frame.high := frame.large
  have whole := frame.whole
  rw [split, List.length_append] at whole
  refine ⟨?_, ?_, ?_⟩
  · rw [OversizedFrame.bytes, split, List.flatten_cons, List.flatten_cons, cut.whole]
    simp
  · simpa using cut.nonempty
  · refine List.forall_mem_cons.mpr ⟨?_, List.forall_mem_cons.mpr ⟨?_, cut.bounded⟩⟩
    · simp only [List.length_cons, List.length_nil]
      omega
    · simp only [List.length_cons]
      omega

theorem flatten_map_singleton (bytes : Bytes) : (bytes.map fun byte => [byte]).flatten = bytes := by
  induction bytes with
  | nil => rfl
  | cons byte rest ih => simp [ih]

/-- Reading on from these bytes, with frames after them, delivers exactly the frames. -/
def Resumes (limit : Nat) (back : Bytes) : Prop :=
  ∀ after : List Bytes, (∀ payload ∈ after, payload.length ≤ maxOuterPayload) →
    ∀ later, Cut limit later (back ++ after.flatMap deviceFrame) →
      payloads (readAll (toEnd later) []) = after

/-- If the reads do not show, then reading can resume at any place of the body: the frames are
what is delivered when the body is skipped as a whole. -/
theorem OversizedFrame.resumes_of_independent {limit : Nat}
    (room : declared frame.low frame.high < limit) (independent : frame.Independent limit)
    (split : frame.body = front ++ back) : Resumes limit back := by
  intro after fit later cut
  have short : front.length ≤ declared frame.low frame.high := by
    rw [← frame.whole, split, List.length_append]
    exact Nat.le_add_right ..
  have single : Cut limit ((after.flatMap deviceFrame).map fun byte => [byte])
      ([] ++ after.flatMap deviceFrame) := by
    refine ⟨flatten_map_singleton _, fun chunk member => ?_, fun chunk member => ?_⟩
    all_goals obtain ⟨byte, -, rfl⟩ := List.mem_map.mp member
    · exact List.cons_ne_nil _ _
    · exact Nat.succ_le_of_lt (Nat.zero_lt_of_lt room)
  have silent : Noise [] := List.not_mem_nil
  have same := independent [] [] after silent fit _ _ (frame.cut_header room split cut)
    (frame.cut_header room (List.append_nil _).symm single)
  rw [readAll_header frame.large, readAll_header frame.large, List.drop_eq_nil_of_le short,
    List.drop_eq_nil_of_le (Nat.le_of_eq frame.whole)] at same
  obtain ⟨segments, ending, bytes, payloadsSame⟩ := exists_segments silent fit
  have delivered : readAll (toEnd ((after.flatMap deviceFrame).map fun byte => [byte])) [] = _ :=
    readAll_segments single.nonempty (single.whole.trans bytes.symm)
  calc payloads (readAll (toEnd later) [])
      = payloads (readAll (toEnd ((after.flatMap deviceFrame).map fun byte => [byte])) []) := same
    _ = after := by rw [delivered, payloads_segments, payloadsSame]

theorem payloads_cons_error (error : TransportError)
    (results : List (Except TransportError (Option Bytes))) :
    payloads (.error error :: results) = payloads results := rfl

theorem Noise.contained (quiet : Noise noise) : Contained noise := by
  induction noise with
  | nil => trivial
  | cons byte rest ih =>
    have other : byte ≠ deviceFramePrefix ∧ Noise rest := by
      simpa [Noise, eq_comm] using quiet
    exact ⟨fun marker => absurd marker other.1, ih other.2⟩

/-- A buffer of noise, at the end of the stream. -/
theorem payloads_noise (quiet : Noise noise) : payloads (readAll (toEnd []) noise) = [] :=
  payloads_contained quiet.contained (List.forall_mem_nil _) (List.forall_mem_nil _) rfl

theorem Noise.drop (quiet : Noise noise) (count : Nat) : Noise (noise.drop count) :=
  fun member => quiet (List.mem_of_mem_drop member)

/-- What is left of a frame without its marker is noise. -/
theorem noise_drop (quiet : Noise rest) {inner : Bytes} (past : inner.length < size) :
    Noise ((inner ++ deviceFramePrefix :: rest).drop size) := by
  obtain ⟨more, rfl⟩ := Nat.exists_eq_add_of_lt past
  rw [Nat.add_assoc, List.drop_length_add_append, List.drop_succ_cons]
  exact quiet.drop more

/-- A stream that starts with a frame delivers it first. -/
theorem payloads_of_frame (nonempty : ∀ chunk ∈ chunks, chunk ≠ []) {low high : UInt8}
    (stream : chunks.flatten = deviceFramePrefix :: low :: high :: body)
    (small : declared low high ≤ maxOuterPayload) (complete : declared low high ≤ body.length) :
    ∃ others, payloads (readAll (toEnd chunks) []) = body.take (declared low high) :: others := by
  have found : scan ([] ++ chunks.flatten) =
      (.ok (some (body.take (declared low high))), body.drop (declared low high)) := by
    unfold scan
    rw [List.nil_append, stream, discard_framed, outerDecode_framed]
    simp only [if_neg (Nat.not_lt.mpr small), if_neg (Nat.not_lt.mpr complete), gt_iff_lt]
  obtain ⟨left, later, -, -, called⟩ := readFrom_stream_of_frame nonempty [.chunk []] found
  exact ⟨_, by rw [toEnd, readAll_of_resolved called]; rfl⟩

/-! Each kind of marker that starts no oversized frame inside the body shows the reads: there are
frames that are not delivered when reading resumes at the marker. -/

section Markers

variable {limit : Nat} (room : maxOuterPayload < limit)
include room

/-- A marker that is the last byte: the next frame completes a header. -/
theorem not_resumes_marker : ¬ Resumes limit [deviceFramePrefix] := by
  intro resumes
  have large : 300 < limit := room
  have cut : Cut limit [[deviceFramePrefix, deviceFramePrefix, 1, 0, 0]]
      ([deviceFramePrefix] ++ [[0]].flatMap deviceFrame) := by
    refine ⟨rfl, by simp, ?_⟩
    simp only [List.mem_singleton, forall_eq, List.length_cons, List.length_nil]
    omega
  have same := resumes [[0]] (by decide) _ cut
  revert same
  decide

/-- The same with one length byte. -/
theorem not_resumes_low (low : UInt8) : ¬ Resumes limit [deviceFramePrefix, low] := by
  intro resumes
  have large : 300 < limit := room
  have cut : Cut limit [[deviceFramePrefix, low], [deviceFramePrefix, 0, 0]]
      ([deviceFramePrefix, low] ++ [[]].flatMap deviceFrame) := by
    refine ⟨rfl, by simp, ?_⟩
    simp only [List.mem_cons, List.not_mem_nil, or_false, forall_eq_or_imp, forall_eq,
      List.length_cons, List.length_nil]
    omega
  have oversized : maxOuterPayload < declared low deviceFramePrefix := by
    have small := low.toNat_lt
    simp only [declared, u16FromLe, UInt16.toNat_ofNat', maxOuterPayload, deviceFramePrefix,
      UInt8.toNat_ofNat]
    omega
  have same := resumes [[]] (by decide) _ cut
  have quiet : Noise [0, 0] := by decide
  rw [readAll_header oversized, payloads_cons_error, payloads_noise (quiet.drop _)] at same
  cases same

variable {low high : UInt8} {inner : Bytes}

omit room in
/-- An oversized frame that reaches into the next frame. -/
theorem not_resumes_past (short : inner.length + 3 < limit)
    (oversized : maxOuterPayload < declared low high) (past : inner.length < declared low high) :
    ¬ Resumes limit (deviceFramePrefix :: low :: high :: inner) := by
  intro resumes
  have cut : Cut limit [[deviceFramePrefix, low], high :: (inner ++ [deviceFramePrefix, 0, 0])]
      ((deviceFramePrefix :: low :: high :: inner) ++ [[]].flatMap deviceFrame) := by
    refine ⟨by simp [deviceFrame], by simp, ?_⟩
    simp only [List.mem_cons, List.not_mem_nil, or_false, forall_eq_or_imp, forall_eq,
      List.length_cons, List.length_nil, List.length_append]
    omega
  have same := resumes [[]] (by decide) _ cut
  have quiet : Noise [0, 0] := by decide
  rw [readAll_header oversized, payloads_cons_error, payloads_noise (noise_drop quiet past)] at same
  cases same

omit room in
/-- A whole frame inside the body is delivered. -/
theorem not_resumes_complete (short : inner.length + 3 < limit)
    (small : declared low high ≤ maxOuterPayload) (complete : declared low high ≤ inner.length) :
    ¬ Resumes limit (deviceFramePrefix :: low :: high :: inner) := by
  intro resumes
  have cut : Cut limit [deviceFramePrefix :: low :: high :: inner]
      ((deviceFramePrefix :: low :: high :: inner) ++ [].flatMap deviceFrame) := by
    refine ⟨by simp, by simp, ?_⟩
    simp only [List.mem_singleton, forall_eq, List.length_cons]
    omega
  have same := resumes [] (List.forall_mem_nil _) _ cut
  obtain ⟨others, delivered⟩ := payloads_of_frame cut.nonempty
    (cut.whole.trans (List.append_nil _)) small complete
  rw [delivered] at same
  cases same

/-- A frame that the next one completes has another length than that one. -/
theorem not_resumes_incomplete (short : inner.length + 3 < limit)
    (small : declared low high ≤ maxOuterPayload) (past : inner.length < declared low high) :
    ¬ Resumes limit (deviceFramePrefix :: low :: high :: inner) := by
  intro resumes
  have large : 300 < limit := room
  have bound : declared low high ≤ 300 := small
  let filler : Bytes := List.replicate (declared low high - inner.length - 3) 0
  have fits : ∀ payload ∈ [filler], payload.length ≤ maxOuterPayload := by
    simp only [List.mem_singleton, forall_eq, filler, List.length_replicate]
    omega
  have cut : Cut limit [deviceFramePrefix :: low :: high :: inner, deviceFrame filler]
      ((deviceFramePrefix :: low :: high :: inner) ++ [filler].flatMap deviceFrame) := by
    refine ⟨by simp, by simp [deviceFrame], ?_⟩
    simp only [List.mem_cons, List.not_mem_nil, or_false, forall_eq_or_imp, forall_eq,
      List.length_cons, List.length_nil, List.length_append, deviceFrame, filler,
      List.length_replicate]
    omega
  have enough : declared low high ≤ (inner ++ deviceFrame filler).length := by
    simp only [List.length_append, deviceFrame, List.length_cons, List.length_nil, filler,
      List.length_replicate]
    omega
  have same := resumes [filler] fits _ cut
  obtain ⟨others, delivered⟩ := payloads_of_frame cut.nonempty (by simp) small enough
  rw [delivered] at same
  have lengths := congrArg List.length (List.cons.inj same).1
  rw [List.length_take, Nat.min_eq_left enough, List.length_replicate] at lengths
  omega

/-- Reading resumes at a marker only if it starts an oversized frame that is all there. -/
theorem swallows_of_resumes {rest : Bytes} (short : rest.length + 1 < limit)
    (resumes : Resumes limit (deviceFramePrefix :: rest)) : Swallows rest := by
  rcases rest with _ | ⟨low, _ | ⟨high, inner⟩⟩
  · exact absurd resumes (not_resumes_marker room)
  · exact absurd resumes (not_resumes_low room low)
  · by_cases whole : declared low high ≤ inner.length
    · by_cases oversized : maxOuterPayload < declared low high
      · exact ⟨oversized, whole⟩
      · exact absurd resumes (not_resumes_complete short (Nat.not_lt.mp oversized) whole)
    · have past := Nat.lt_of_not_le whole
      by_cases oversized : maxOuterPayload < declared low high
      · exact absurd resumes (not_resumes_past short oversized past)
      · exact absurd resumes (not_resumes_incomplete room short (Nat.not_lt.mp oversized) past)

end Markers

theorem OversizedFrame.contained_of_independent {limit : Nat}
    (room : declared frame.low frame.high < limit) (independent : frame.Independent limit) :
    Contained frame.body := by
  by_contra loose
  obtain ⟨front, rest, split, free⟩ := exists_not_swallows loose
  have short : rest.length + 1 < limit := by
    have size := congrArg List.length split
    rw [frame.whole, List.length_append, List.length_cons] at size
    omega
  exact free (swallows_of_resumes (Nat.lt_trans frame.large room) short
    (frame.resumes_of_independent room independent split))

/-- Reads do not show after an oversized frame if every marker in its body starts an oversized
frame that ends inside the body. For reads that can hold the body, only then. -/
theorem OversizedFrame.independent_iff (frame : OversizedFrame) (limit : Nat) :
    (Contained frame.body → frame.Independent limit) ∧
      (declared frame.low frame.high < limit → frame.Independent limit → Contained frame.body) := by
  refine ⟨?_, fun room independent => frame.contained_of_independent room independent⟩
  intro contained before noise after quiet fit first second cutFirst cutSecond
  rw [frame.delivers contained before quiet fit cutFirst,
    frame.delivers contained before quiet fit cutSecond]

/-- A body of zeros. -/
theorem zeros_independent :
    OversizedFrame.Independent readChunkSize
      ⟨0x2d, 1, List.replicate 301 0, by decide, by decide +kernel⟩ :=
  (OversizedFrame.independent_iff _ _).1 (by decide +kernel)

/-- A frame inside the oversized one is delivered if the first read ends before it, and skipped
if the oversized frame has been read. -/
theorem nested_frame_shows :
    let body : Bytes := [0x3e, 1, 0, 0x55] ++ List.replicate 297 0
    let stream : Bytes := [0x3e, 0x2d, 1] ++ body ++ deviceFrame [7]
    let first := [stream]
    let second := [[0x3e, 0x2d, 1], body ++ deviceFrame [7]]
    Cut readChunkSize first stream ∧ Cut readChunkSize second stream ∧
      payloadsAfterError (readAll (toEnd first) []) = [[7]] ∧
      payloadsAfterError (readAll (toEnd second) []) = [[0x55], [7]] := by
  refine ⟨⟨by decide +kernel, by decide +kernel, by decide +kernel⟩,
    ⟨by decide +kernel, by decide +kernel, by decide +kernel⟩, ?_, ?_⟩
  all_goals decide +kernel

end Meshquill
