import Meshquill.Transport.Stream

/-!
# Reading a stream in pieces

What `FramedReadState::read_from` delivers when it is called again and again, for every way in
which a stream is cut into reads. The scan of a buffer that finds a frame finds the same frame
in every longer buffer, and a scan that finds none is repeated after the next read. So, as long
as no frame is oversized, the cuts do not matter.

`decode_frames` calls the same decoder without discarding noise first.
-/
namespace Meshquill

/-- Bytes without a frame marker. -/
def Noise (bytes : Bytes) : Prop := deviceFramePrefix ∉ bytes

instance (bytes : Bytes) : Decidable (Noise bytes) := inferInstanceAs (Decidable (¬ _))

/-! ## One scan of the buffer -/

/-- What one round of `read_from` finds in its buffer. -/
def scan (buffered : Bytes) : Except ParseError (Option Bytes) × Bytes :=
  outerDecode (discardPrecedingNoise buffered)

variable {noise kept payload rest src : Bytes} {error : ParseError} {reads more : List SocketRead}

theorem discard_of_noise (quiet : Noise noise) (rest : Bytes) :
    discardPrecedingNoise (noise ++ rest) = discardPrecedingNoise rest := by
  refine List.dropWhile_append_of_pos fun byte member => ?_
  simp only [bne_iff_ne]
  rintro rfl
  exact quiet member

@[simp] theorem discard_framed (rest : Bytes) :
    discardPrecedingNoise (deviceFramePrefix :: rest) = deviceFramePrefix :: rest := by
  simp [discardPrecedingNoise]

/-- A buffer is noise, and what is left of it starts with a marker. -/
theorem noise_or_marker (bytes : Bytes) :
    Noise bytes ∨ ∃ noise rest, Noise noise ∧ bytes = noise ++ deviceFramePrefix :: rest := by
  by_cases member : deviceFramePrefix ∈ bytes
  · obtain ⟨noise, rest, split, quiet⟩ := List.eq_append_cons_of_mem member
    exact .inr ⟨noise, rest, quiet, split⟩
  · exact .inl member

theorem discard_eq_nil (quiet : Noise noise) : discardPrecedingNoise noise = [] := by
  simpa [discardPrecedingNoise] using discard_of_noise quiet []

/-- Discarding early changes nothing. -/
theorem discard_discard_append (buffered more : Bytes) :
    discardPrecedingNoise (discardPrecedingNoise buffered ++ more) =
      discardPrecedingNoise (buffered ++ more) := by
  rcases noise_or_marker buffered with quiet | ⟨noise, rest, quiet, rfl⟩
  · rw [discard_eq_nil quiet, discard_of_noise quiet, List.nil_append]
  · rw [discard_of_noise quiet, discard_framed, List.append_assoc, discard_of_noise quiet]

/-- The length that a header declares. -/
def declared (low high : UInt8) : Nat := (u16FromLe low high).toNat

/-- The decoder on a buffer that starts with a marker. -/
theorem outerDecode_framed (rest : Bytes) :
    outerDecode (deviceFramePrefix :: rest) =
      match rest with
      | low :: high :: body =>
        if declared low high > maxOuterPayload then
          (.error (.oversizedPacketPayload (declared low high) maxOuterPayload),
            body.drop (declared low high))
        else if body.length < declared low high then (.ok none, deviceFramePrefix :: rest)
        else (.ok (some (body.take (declared low high))), body.drop (declared low high))
      | _ => (.ok none, deviceFramePrefix :: rest) := by
  have position : (deviceFramePrefix :: rest).findIdx? (· == deviceFramePrefix) = some 0 := by
    simp [List.findIdx?_cons]
  unfold outerDecode
  rw [position]
  rcases rest with _ | ⟨low, _ | ⟨high, body⟩⟩ <;> rfl

/-- A scan that finds no frame leaves the buffer, less its noise. -/
theorem kept_of_scan {buffered : Bytes} (waits : scan buffered = (.ok none, kept)) :
    kept = discardPrecedingNoise buffered := by
  unfold scan at waits
  rcases noise_or_marker buffered with quiet | ⟨noise, rest, quiet, rfl⟩
  · rw [discard_eq_nil quiet] at waits ⊢
    exact (congrArg Prod.snd waits).symm
  · rw [discard_of_noise quiet, discard_framed, outerDecode_framed] at waits
    rw [discard_of_noise quiet, discard_framed]
    split at waits
    · split at waits
      · cases waits
      · split at waits
        · exact (congrArg Prod.snd waits).symm
        · cases waits
    · exact (congrArg Prod.snd waits).symm

/-- The two length bytes of a frame are those of the length that they declare. -/
theorem header_of_declared (low high : UInt8) :
    UInt8.ofNat (declared low high) = low ∧ UInt8.ofNat (declared low high / 256) = high := by
  have lowSmall := low.toNat_lt
  have highSmall := high.toNat_lt
  simp only [declared, u16FromLe, UInt16.toNat_ofNat', ← UInt8.toNat_inj, UInt8.toNat_ofNat']
  omega

/-- A frame that the scan finds is a well-formed one, and the rest follows it. -/
theorem deviceFrame_of_scan {buffered : Bytes}
    (found : scan buffered = (.ok (some payload), rest)) :
    payload.length ≤ maxOuterPayload ∧
      discardPrecedingNoise buffered = deviceFrame payload ++ rest := by
  unfold scan at found
  rcases noise_or_marker buffered with quiet | ⟨noise, tail, quiet, rfl⟩
  · rw [discard_eq_nil quiet] at found
    cases found
  · rw [discard_of_noise quiet, discard_framed, outerDecode_framed] at found
    rw [discard_of_noise quiet, discard_framed]
    split at found
    case h_2 => cases found
    rename_i low high body
    split at found
    · cases found
    · rename_i small
      split at found
      · cases found
      · rename_i enough
        cases found
        obtain ⟨lowSame, highSame⟩ := header_of_declared low high
        have size : (body.take (declared low high)).length = declared low high := by
          rw [List.length_take]
          omega
        refine ⟨Nat.le_trans (Nat.le_of_eq size) (Nat.not_lt.mp small), ?_⟩
        simp [deviceFrame, size, lowSame, highSame]

/-- An oversized frame is reported, and dropped as far as it is in the buffer. -/
theorem oversized_of_scan {buffered : Bytes} (found : scan buffered = (.error error, rest)) :
    ∃ low high body, discardPrecedingNoise buffered = deviceFramePrefix :: low :: high :: body ∧
      maxOuterPayload < declared low high ∧
      error = .oversizedPacketPayload (declared low high) maxOuterPayload ∧
      rest = body.drop (declared low high) := by
  unfold scan at found
  rcases noise_or_marker buffered with quiet | ⟨noise, tail, quiet, rfl⟩
  · rw [discard_eq_nil quiet] at found
    cases found
  · rw [discard_of_noise quiet, discard_framed, outerDecode_framed] at found
    rw [discard_of_noise quiet, discard_framed]
    split at found
    case h_2 => cases found
    rename_i low high body
    split at found
    · rename_i large
      obtain ⟨same, rfl⟩ := Prod.mk.inj found
      exact ⟨low, high, body, rfl, large, (Except.error.inj same).symm, rfl⟩
    · split at found <;> cases found

theorem discard_append {buffered : Bytes}
    (starts : discardPrecedingNoise buffered = deviceFramePrefix :: rest) (more : Bytes) :
    discardPrecedingNoise (buffered ++ more) = deviceFramePrefix :: (rest ++ more) := by
  rw [← discard_discard_append, starts, List.cons_append, discard_framed]

/-- What is found in a buffer is found in every longer one. -/
theorem scan_append_of_frame {buffered : Bytes}
    (found : scan buffered = (.ok (some payload), rest)) (more : Bytes) :
    scan (buffered ++ more) = (.ok (some payload), rest ++ more) := by
  obtain ⟨fits, starts⟩ := deviceFrame_of_scan found
  unfold scan
  rw [discard_append starts, ← outerDecode_deviceFrame fits (rest ++ more)]
  simp [deviceFrame]

theorem scan_append_of_oversized {buffered : Bytes} (found : scan buffered = (.error error, rest))
    (more : Bytes) :
    (scan (buffered ++ more)).1 = .error error := by
  obtain ⟨low, high, body, starts, large, rfl, -⟩ := oversized_of_scan found
  unfold scan
  rw [discard_append starts, List.cons_append, List.cons_append, outerDecode_framed]
  simp only [large, if_pos]

/-! ## One call -/

theorem readFrom_of_frame {buffered : Bytes} (found : scan buffered = (.ok (some payload), rest))
    (reads : List SocketRead) :
    readFrom reads buffered = (some (.ok (some payload)), rest, reads) := by
  unfold scan at found
  unfold readFrom
  rw [found]

theorem readFrom_of_oversized {buffered : Bytes} (found : scan buffered = (.error error, rest))
    (reads : List SocketRead) :
    readFrom reads buffered = (some (.error (coreCodecError error)), rest, reads) := by
  unfold scan at found
  unfold readFrom
  rw [found]

/-- Only what follows the noise counts. -/
theorem readFrom_congr {first second : Bytes}
    (same : discardPrecedingNoise first = discardPrecedingNoise second)
    (reads : List SocketRead) : readFrom reads first = readFrom reads second := by
  unfold readFrom
  rw [same]

/-- A call that finds no frame continues as if the next read had been there before. -/
theorem readFrom_of_waiting {buffered : Bytes} (waits : scan buffered = (.ok none, kept))
    {chunk : Bytes} (nonempty : chunk ≠ []) (more : List SocketRead) :
    readFrom (.chunk chunk :: more) buffered = readFrom more (buffered ++ chunk) := by
  have continued : readFrom (.chunk chunk :: more) buffered = readFrom more (kept ++ chunk) := by
    rw [readFrom]
    unfold scan at waits
    rw [waits]
    cases chunk with
    | nil => exact absurd rfl nonempty
    | cons byte bytes => rfl
  rw [continued, kept_of_scan waits]
  exact readFrom_congr (discard_discard_append buffered chunk) more

/-- The end of the stream. -/
theorem readFrom_of_end {buffered : Bytes} (waits : scan buffered = (.ok none, kept))
    (more : List SocketRead) :
    readFrom (.chunk [] :: more) buffered =
      if kept.isEmpty then (some (.ok none), kept, more)
      else (some (.error (.io .unexpectedEof ("peer closed with " ++ toString kept.length ++
        " byte(s) of an incomplete outer frame"))), [], more) := by
  rw [readFrom]
  unfold scan at waits
  rw [waits]

/-! ## One call on a stream in pieces

What a call does is decided by the scan of the whole stream, though it may not read all of it. -/

section Pieces

variable {buffered : Bytes} {chunks : List Bytes} (nonempty : ∀ chunk ∈ chunks, chunk ≠ [])
  (final : List SocketRead)
include nonempty

/-- A stream in which no frame is found is read to its end. -/
theorem readFrom_stream_of_waiting {kept : Bytes}
    (waits : scan (buffered ++ chunks.flatten) = (.ok none, kept)) :
    readFrom (chunks.map .chunk ++ final) buffered =
      readFrom final (buffered ++ chunks.flatten) := by
  induction chunks generalizing buffered with
  | nil => rw [List.flatten_nil, List.append_nil, List.map_nil, List.nil_append]
  | cons chunk chunks ih =>
    obtain ⟨some, others⟩ := List.forall_mem_cons.mp nonempty
    rw [List.flatten_cons, ← List.append_assoc] at waits ⊢
    rcases scanned : scan buffered with ⟨error | _ | payload, rest⟩
    · have again := scan_append_of_oversized scanned (chunk ++ chunks.flatten)
      rw [← List.append_assoc, waits] at again
      cases again
    · rw [List.map_cons, List.cons_append, readFrom_of_waiting scanned some]
      exact ih others waits
    · have again := scan_append_of_frame scanned (chunk ++ chunks.flatten)
      rw [← List.append_assoc, waits] at again
      cases again

/-- The first frame of the stream is returned, and the rest of the stream is left. -/
theorem readFrom_stream_of_frame {payload rest : Bytes}
    (found : scan (buffered ++ chunks.flatten) = (.ok (some payload), rest)) :
    ∃ left later, later <:+ chunks ∧ left ++ later.flatten = rest ∧
      readFrom (chunks.map .chunk ++ final) buffered =
        (some (.ok (some payload)), left, later.map .chunk ++ final) := by
  induction chunks generalizing buffered with
  | nil =>
    rw [List.flatten_nil, List.append_nil] at found
    exact ⟨rest, [], List.suffix_refl _, List.append_nil _, readFrom_of_frame found _⟩
  | cons chunk chunks ih =>
    obtain ⟨some, others⟩ := List.forall_mem_cons.mp nonempty
    rcases scanned : scan buffered with ⟨error | _ | early, left⟩
    · have again := scan_append_of_oversized scanned (chunk :: chunks).flatten
      rw [found] at again
      cases again
    · rw [List.flatten_cons, ← List.append_assoc] at found
      obtain ⟨left, later, suffix, remains, called⟩ := ih others found
      refine ⟨left, later, suffix.trans (List.suffix_cons _ _), remains, ?_⟩
      rw [List.map_cons, List.cons_append, readFrom_of_waiting scanned some, called]
    · have again := scan_append_of_frame scanned (chunk :: chunks).flatten
      rw [found] at again
      cases again
      exact ⟨left, _, List.suffix_refl _, rfl, readFrom_of_frame scanned _⟩

/-- An oversized frame is reported as soon as its header is there, and what has been read of it
by then is dropped. -/
theorem readFrom_stream_of_oversized {low high : UInt8} {body : Bytes}
    (starts : discardPrecedingNoise (buffered ++ chunks.flatten) =
      deviceFramePrefix :: low :: high :: body)
    (large : maxOuterPayload < declared low high) :
    ∃ front later, later <:+ chunks ∧ front ++ later.flatten = body ∧
      readFrom (chunks.map .chunk ++ final) buffered =
        (some (.error (coreCodecError
          (.oversizedPacketPayload (declared low high) maxOuterPayload))),
          front.drop (declared low high), later.map .chunk ++ final) := by
  have found : (scan (buffered ++ chunks.flatten)).1 =
      .error (.oversizedPacketPayload (declared low high) maxOuterPayload) := by
    unfold scan
    rw [starts, outerDecode_framed]
    simp only [large, if_pos]
  induction chunks generalizing buffered with
  | nil =>
    rw [List.flatten_nil, List.append_nil] at starts found
    have scanned : scan buffered = (.error (.oversizedPacketPayload (declared low high)
        maxOuterPayload), body.drop (declared low high)) := by
      unfold scan
      rw [starts, outerDecode_framed]
      simp only [large, if_pos]
    exact ⟨body, [], List.suffix_refl _, List.append_nil _, readFrom_of_oversized scanned _⟩
  | cons chunk chunks ih =>
    obtain ⟨some, others⟩ := List.forall_mem_cons.mp nonempty
    rcases scanned : scan buffered with ⟨error | _ | early, left⟩
    · obtain ⟨first, second, front, begins, -, rfl, rfl⟩ := oversized_of_scan scanned
      rw [discard_append begins] at starts
      obtain ⟨rfl, rfl, rfl⟩ : first = low ∧ second = high ∧
          front ++ (chunk :: chunks).flatten = body := by simpa using starts
      exact ⟨front, _, List.suffix_refl _, rfl, readFrom_of_oversized scanned _⟩
    · rw [List.flatten_cons, ← List.append_assoc] at starts found
      obtain ⟨front, later, suffix, remains, called⟩ := ih others starts found
      refine ⟨front, later, suffix.trans (List.suffix_cons _ _), remains, ?_⟩
      rw [List.map_cons, List.cons_append, readFrom_of_waiting scanned some, called]
    · have again := scan_append_of_frame scanned (chunk :: chunks).flatten
      rw [again] at found
      cases found

end Pieces

/-! ## Call after call -/

/-- The results of that many calls, as far as they resolve. -/
def readCalls : Nat → List SocketRead → Bytes → List (Except TransportError (Option Bytes))
  | 0, _, _ => []
  | count + 1, reads, buffered =>
    match readFrom reads buffered with
    | (some result, rest, more) => result :: readCalls count more rest
    | (none, _, _) => []

/-- The reads that are left and the bytes in them. -/
def outstanding : List SocketRead → Nat
  | [] => 0
  | .chunk bytes :: rest => bytes.length + 1 + outstanding rest
  | .failed _ _ :: rest => 1 + outstanding rest

/-- What calls can still use up: a read, or bytes of the buffer. -/
def budget (reads : List SocketRead) (buffered : Bytes) : Nat :=
  outstanding reads + buffered.length

/-- The results of calling `read_from` until it does not resolve any more. -/
def readAll (reads : List SocketRead) (buffered : Bytes) :
    List (Except TransportError (Option Bytes)) :=
  readCalls (budget reads buffered) reads buffered

theorem length_discard_le (buffered : Bytes) :
    (discardPrecedingNoise buffered).length ≤ buffered.length :=
  (List.dropWhile_sublist _).length_le

theorem length_lt_of_frame {buffered : Bytes} (found : scan buffered = (.ok (some payload), rest)) :
    rest.length < buffered.length := by
  have shorter := length_discard_le buffered
  rw [(deviceFrame_of_scan found).2] at shorter
  simp only [deviceFrame, List.length_append, List.length_cons, List.length_nil] at shorter
  omega

theorem length_lt_of_oversized {buffered : Bytes} (found : scan buffered = (.error error, rest)) :
    rest.length < buffered.length := by
  have shorter := length_discard_le buffered
  obtain ⟨low, high, body, starts, -, -, rfl⟩ := oversized_of_scan found
  rw [starts] at shorter
  simp only [List.length_cons, List.length_drop] at shorter ⊢
  omega

/-- Every call that resolves uses something up. -/
theorem budget_of_readFrom {buffered : Bytes} {result : Except TransportError (Option Bytes)}
    (called : readFrom reads buffered = (some result, rest, more)) :
    budget more rest < budget reads buffered := by
  induction reads generalizing buffered with
  | nil =>
    rcases scanned : scan buffered with ⟨error | _ | payload, kept⟩
    · rw [readFrom_of_oversized scanned] at called
      cases called
      exact Nat.add_lt_add_left (length_lt_of_oversized scanned) _
    · unfold scan at scanned
      rw [readFrom, scanned] at called
      cases called
    · rw [readFrom_of_frame scanned] at called
      cases called
      exact Nat.add_lt_add_left (length_lt_of_frame scanned) _
  | cons read reads ih =>
    rcases scanned : scan buffered with ⟨error | _ | payload, kept⟩
    · rw [readFrom_of_oversized scanned] at called
      cases called
      exact Nat.add_lt_add_left (length_lt_of_oversized scanned) _
    · have shorter := length_discard_le buffered
      rw [← kept_of_scan scanned] at shorter
      rcases read with (_ | ⟨byte, bytes⟩) | ⟨kind, message⟩
      · rw [readFrom_of_end scanned] at called
        split at called
        · cases called
          simp only [budget, outstanding, List.length_nil]
          omega
        · cases called
          simp only [budget, outstanding, List.length_nil]
          omega
      · rw [readFrom_of_waiting scanned (List.cons_ne_nil _ _)] at called
        have fewer := ih called
        simp only [budget, outstanding, List.length_append] at fewer ⊢
        omega
      · unfold scan at scanned
        rw [readFrom, scanned] at called
        cases called
        simp only [budget, outstanding]
        omega
    · rw [readFrom_of_frame scanned] at called
      cases called
      exact Nat.add_lt_add_left (length_lt_of_frame scanned) _

/-- More calls than there is budget for resolve no further. -/
theorem readCalls_of_le {count : Nat} {buffered : Bytes} (enough : budget reads buffered ≤ count) :
    readCalls count reads buffered = readAll reads buffered := by
  unfold readAll
  induction count using Nat.strongRecOn generalizing reads buffered with
  | ind count ih =>
    rcases called : readFrom reads buffered with ⟨_ | result, rest, more⟩
    · have stops (fuel : Nat) : readCalls fuel reads buffered = [] := by
        cases fuel with
        | zero => rfl
        | succ fuel => simp only [readCalls, called]
      rw [stops, stops]
    · have fewer := budget_of_readFrom called
      obtain ⟨count, rfl⟩ := Nat.exists_eq_add_of_lt (Nat.lt_of_lt_of_le fewer enough)
      obtain ⟨spent, total⟩ := Nat.exists_eq_add_of_lt fewer
      have longer : readCalls (budget more rest + count) more rest = _ :=
        ih _ (by omega) (Nat.le_add_right ..)
      have shorter : readCalls (budget more rest + spent) more rest = _ :=
        ih _ (by omega) (Nat.le_add_right ..)
      rw [total]
      simp only [readCalls, called]
      rw [longer, shorter]

/-- One call, then the others. -/
theorem readAll_of_resolved {buffered : Bytes} {result : Except TransportError (Option Bytes)}
    (called : readFrom reads buffered = (some result, rest, more)) :
    readAll reads buffered = result :: readAll more rest := by
  have fewer := budget_of_readFrom called
  rw [← readCalls_of_le (Nat.le_succ (budget reads buffered))]
  simp only [readCalls, called]
  rw [readCalls_of_le (Nat.le_of_lt fewer)]

/-! ## Streams of frames -/

/-- A frame and the noise before it. -/
structure Segment where
  noise : Bytes
  payload : Bytes
  quiet : Noise noise
  fits : payload.length ≤ maxOuterPayload

def Segment.bytes (segment : Segment) : Bytes := segment.noise ++ deviceFrame segment.payload

/-- What the end of the stream leaves: noise, and perhaps a frame that has only begun. -/
structure Ending where
  noise : Bytes
  cut : Bytes
  quiet : Noise noise
  begun : ∃ payload missing, payload.length ≤ maxOuterPayload ∧ missing ≠ [] ∧
    cut ++ missing = deviceFrame payload

namespace Ending

def bytes (ending : Ending) : Bytes := ending.noise ++ ending.cut

/-- The result of the call that meets the end of the stream. -/
def result (ending : Ending) : Except TransportError (Option Bytes) :=
  if ending.cut.isEmpty then .ok none
  else
    .error (.io .unexpectedEof ("peer closed with " ++ toString ending.cut.length ++
      " byte(s) of an incomplete outer frame"))

end Ending

/-- Non-empty reads of at most this many bytes that add up to the stream. -/
structure Cut (limit : Nat) (chunks : List Bytes) (stream : Bytes) : Prop where
  whole : chunks.flatten = stream
  nonempty : ∀ chunk ∈ chunks, chunk ≠ []
  bounded : ∀ chunk ∈ chunks, chunk.length ≤ limit

/-- The reads of a stream that is cut in this way, and its end. -/
def toEnd (chunks : List Bytes) : List SocketRead := chunks.map .chunk ++ [.chunk []]

theorem scan_segment (segment : Segment) (rest : Bytes) :
    scan (segment.bytes ++ rest) = (.ok (some segment.payload), rest) := by
  unfold scan Segment.bytes
  rw [List.append_assoc, discard_of_noise segment.quiet,
    ← outerDecode_deviceFrame segment.fits rest]
  simp [deviceFrame]

/-- A frame that has only begun is kept. -/
theorem scan_ending (ending : Ending) : scan ending.bytes = (.ok none, ending.cut) := by
  obtain ⟨payload, missing, fits, some, whole⟩ := ending.begun
  unfold scan Ending.bytes
  rw [discard_of_noise ending.quiet]
  rcases shape : ending.cut with _ | ⟨first, rest⟩
  · rfl
  · rw [shape, deviceFrame, List.cons_append, List.cons_append] at whole
    obtain ⟨rfl, tail⟩ := List.cons.inj whole
    rw [discard_framed, outerDecode_framed]
    rcases rest with _ | ⟨low, _ | ⟨high, body⟩⟩
    · rfl
    · rfl
    · simp only [List.cons_append, List.nil_append, List.cons.injEq] at tail
      obtain ⟨rfl, rfl, tail⟩ := tail
      have size : declared (UInt8.ofNat payload.length) (UInt8.ofNat (payload.length / 256)) =
          payload.length := declared_length fits
      have longer : body.length < payload.length := by
        rw [← tail, List.length_append]
        exact Nat.lt_add_of_pos_right (List.length_pos_iff.mpr some)
      simp only [size, if_neg (Nat.not_lt.mpr fits), if_pos longer, gt_iff_lt]

/-- The frames of a stream are delivered in order, and its end is reported, wherever the stream
is cut. -/
theorem readAll_segments {segments : List Segment} {ending : Ending} {buffered : Bytes}
    {chunks : List Bytes} (nonempty : ∀ chunk ∈ chunks, chunk ≠ [])
    (stream : buffered ++ chunks.flatten = segments.flatMap Segment.bytes ++ ending.bytes) :
    readAll (toEnd chunks) buffered =
      segments.map (fun segment => .ok (some segment.payload)) ++ [ending.result] := by
  induction segments generalizing buffered chunks with
  | nil =>
    rw [List.flatMap_nil, List.nil_append] at stream
    have waits : scan (buffered ++ chunks.flatten) = (.ok none, ending.cut) := by
      rw [stream, scan_ending]
    have called : readFrom (toEnd chunks) buffered = (some ending.result, [], []) := by
      unfold toEnd
      rw [readFrom_stream_of_waiting nonempty _ waits, readFrom_of_end waits, Ending.result]
      cases ending.cut <;> rfl
    rw [readAll_of_resolved called]
    rfl
  | cons segment segments ih =>
    rw [List.flatMap_cons, List.append_assoc] at stream
    have found := scan_segment segment (segments.flatMap Segment.bytes ++ ending.bytes)
    rw [← stream] at found
    obtain ⟨left, later, suffix, remains, called⟩ :=
      readFrom_stream_of_frame nonempty [.chunk []] found
    have others : ∀ chunk ∈ later, chunk ≠ [] := fun chunk member =>
      nonempty chunk (suffix.subset member)
    rw [toEnd, readAll_of_resolved called, List.map_cons, List.cons_append,
      ← ih others remains, toEnd]

/-- Every stream of frames with noise between them, cut into reads in any way. -/
theorem readAll_stream (segments : List Segment) (ending : Ending) {chunks : List Bytes}
    (cut : Cut readChunkSize chunks (segments.flatMap Segment.bytes ++ ending.bytes)) :
    readAll (toEnd chunks) [] =
      segments.map (fun segment => .ok (some segment.payload)) ++ [ending.result] :=
  readAll_segments cut.nonempty cut.whole

/-- A partial read of a header, frames back to back, and a last one that has only begun. -/
theorem readAll_stream_cut :
    readAll (toEnd [[0x99, 0x3e, 2], [0, 1, 2, 0x3e, 1, 0, 3, 0x99, 0x3e]]) [] =
      [.ok (some [1, 2]), .ok (some [3]),
        .error (.io .unexpectedEof "peer closed with 1 byte(s) of an incomplete outer frame")] := by
  have cut : Cut readChunkSize [[0x99, 0x3e, 2], [0, 1, 2, 0x3e, 1, 0, 3, 0x99, 0x3e]]
      [0x99, 0x3e, 2, 0, 1, 2, 0x3e, 1, 0, 3, 0x99, 0x3e] := ⟨rfl, by decide, by decide⟩
  exact readAll_stream
    [⟨[0x99], [1, 2], by decide, by decide⟩, ⟨[], [3], by decide, by decide⟩]
    ⟨[0x99], [0x3e], by decide, ⟨[], [0, 0], by decide, by decide, rfl⟩⟩ cut

/-! ## Decoding without a reader -/

theorem findIdx_of_noise (quiet : Noise noise) :
    noise.findIdx? (· == deviceFramePrefix) = none := by
  refine List.findIdx?_eq_none_iff.mpr fun byte member => ?_
  simp only [beq_eq_false_iff_ne]
  rintro rfl
  exact quiet member

/-- The decoder drops a buffer of noise. -/
theorem outerDecode_of_noise (quiet : Noise noise) : outerDecode noise = (.ok none, []) := by
  cases noise with
  | nil => rfl
  | cons byte bytes =>
    unfold outerDecode
    rw [findIdx_of_noise quiet]
    simp

/-- The decoder skips noise before a marker only if more bytes follow than it has skipped. -/
theorem outerDecode_noise_append (quiet : Noise noise) (rest : Bytes) :
    outerDecode (noise ++ deviceFramePrefix :: rest) =
      if noise.length < rest.length + 1 then outerDecode (deviceFramePrefix :: rest)
      else (.ok none, []) := by
  have position : (noise ++ deviceFramePrefix :: rest).findIdx? (· == deviceFramePrefix) =
      some noise.length := by
    rw [List.findIdx?_append, findIdx_of_noise quiet]
    simp [List.findIdx?_cons]
  have nonempty : (noise ++ deviceFramePrefix :: rest).isEmpty = false := by cases noise <;> rfl
  have advanced : (if noise.length > 0 ∧
        noise.length < (noise ++ deviceFramePrefix :: rest).length then
      (noise ++ deviceFramePrefix :: rest).drop noise.length
      else noise ++ deviceFramePrefix :: rest) = deviceFramePrefix :: rest := by
    cases noise <;> simp
  rw [outerDecode_framed]
  unfold outerDecode
  rw [position, nonempty]
  simp only [Option.getD_some, advanced, Bool.false_eq_true, if_false, List.length_cons]
  by_cases more : noise.length < rest.length + 1
  · rw [if_pos more, if_neg (Nat.not_le.mpr more)]
    rcases rest with _ | ⟨low, _ | ⟨high, body⟩⟩ <;> rfl
  · rw [if_neg more, if_pos (Nat.not_lt.mp more)]

theorem length_lt_of_outerDecode (decoded : outerDecode src = (.ok (some payload), rest)) :
    rest.length < src.length := by
  rcases noise_or_marker src with quiet | ⟨noise, tail, quiet, rfl⟩
  · rw [outerDecode_of_noise quiet] at decoded
    cases decoded
  · rw [outerDecode_noise_append quiet] at decoded
    split at decoded
    · have found : scan (deviceFramePrefix :: tail) = (.ok (some payload), rest) := by
        rwa [scan, discard_framed]
      have shorter := length_lt_of_frame found
      rw [List.length_append]
      omega
    · cases decoded

/-- `decode_frames`. -/
def decodeFrames (src : Bytes) : Except ParseError (List Bytes) :=
  if src.isEmpty then .ok []
  else
    match _ : outerDecode src with
    | (.ok (some payload), rest) => (decodeFrames rest).map (payload :: ·)
    | (.ok none, _) => .ok []
    | (.error error, _) => .error error
termination_by src.length
decreasing_by exact length_lt_of_outerDecode ‹_›

theorem decodeFrames_of_frame (decoded : outerDecode src = (.ok (some payload), rest)) :
    decodeFrames src = (decodeFrames rest).map (payload :: ·) := by
  have nonempty : src.isEmpty = false := by
    cases src with
    | nil => cases decoded
    | cons => rfl
  rw [decodeFrames, nonempty]
  split
  · contradiction
  · split
    all_goals simp_all

theorem decodeFrames_of_none (decoded : outerDecode src = (.ok none, rest)) :
    decodeFrames src = .ok [] := by
  rw [decodeFrames]
  split
  · rfl
  · split
    all_goals simp_all

/-- Frames without noise before them. -/
theorem decodeFrames_frames {payloads : List Bytes}
    (fit : ∀ payload ∈ payloads, payload.length ≤ maxOuterPayload) :
    decodeFrames (payloads.flatMap deviceFrame) = .ok payloads := by
  induction payloads with
  | nil => exact decodeFrames_of_none rfl
  | cons payload payloads ih =>
    obtain ⟨fits, others⟩ := List.forall_mem_cons.mp fit
    rw [List.flatMap_cons, decodeFrames_of_frame (outerDecode_deviceFrame fits _), ih others]
    rfl

/-- Noise before the frames is skipped exactly if the frames are longer than it. -/
theorem decodeFrames_noise_iff {noise : Bytes} (quiet : Noise noise) {payloads : List Bytes}
    (fit : ∀ payload ∈ payloads, payload.length ≤ maxOuterPayload) :
    decodeFrames (noise ++ payloads.flatMap deviceFrame) = .ok payloads ↔
      payloads = [] ∨ noise.length < (payloads.flatMap deviceFrame).length := by
  cases payloads with
  | nil =>
    rw [List.flatMap_nil, List.append_nil, decodeFrames_of_none (outerDecode_of_noise quiet)]
    simp
  | cons payload payloads =>
    obtain ⟨fits, others⟩ := List.forall_mem_cons.mp fit
    obtain ⟨rest, starts⟩ : ∃ rest, deviceFrame payload ++ payloads.flatMap deviceFrame =
        deviceFramePrefix :: rest := ⟨_, rfl⟩
    have decoded := outerDecode_noise_append quiet rest
    rw [List.flatMap_cons, starts, List.length_cons]
    by_cases longer : noise.length < rest.length + 1
    · rw [if_pos longer, ← starts, outerDecode_deviceFrame fits, starts] at decoded
      rw [decodeFrames_of_frame decoded, decodeFrames_frames others]
      simp [longer, Except.map]
    · rw [if_neg longer] at decoded
      rw [decodeFrames_of_none decoded]
      simp [longer]

/-- The one byte of noise before two frames that the repository tests. -/
theorem decodeFrames_resynchronizes :
    decodeFrames ([0x99] ++ [[1, 2], [3]].flatMap deviceFrame) = .ok [[1, 2], [3]] :=
  (decodeFrames_noise_iff (by decide) (by decide)).mpr (.inr (by decide))

/-- As much noise as the frame is long, and the frame is lost. -/
theorem decodeFrames_loses_frame :
    Noise [0x99, 0x99, 0x99, 0x99] ∧
      decodeFrames ([0x99, 0x99, 0x99, 0x99] ++ [[7]].flatMap deviceFrame) ≠ .ok [[7]] := by
  have decoded : outerDecode ([0x99, 0x99, 0x99, 0x99] ++ [[7]].flatMap deviceFrame) =
      (.ok none, []) := by decide
  refine ⟨by decide, ?_⟩
  rw [decodeFrames_of_none decoded]
  simp

end Meshquill
