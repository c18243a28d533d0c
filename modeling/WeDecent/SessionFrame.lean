import WeDecent.Library.Codec
import WeDecent.Library.Streams

/-!
# The frames of a session

`WriteFrame` and `ReadFrame` (`protocol/frame.go`): a header of twelve bytes with the magic, the
version, the type, the stream and the length of the payload, and the payload. What is written is
read back, whatever pieces the writer takes and the reader gets, and a frame has one encoding.
-/

namespace SessionFrame

open List Codec Streams

abbrev Bytes := List UInt8

def version : UInt8 := 1
def headerSize : Nat := 12
def maxPayloadSize : Nat := 1048576

/-- `'W', 'D'` -/
def magic : UInt8 × UInt8 := (87, 68)

structure Frame where
  type : UInt8
  streamID : UInt32
  payload : Bytes

inductive WriteFrameError where
  | payloadTooLarge (length : Nat)
  | write (err : WriteError)

/-- The header; the conversion of the length to `uint32` keeps its low 32 bits. -/
def header (f : Frame) : Bytes :=
  [magic.1, magic.2, version, f.type] ++ bigEndian 4 f.streamID.toNat ++
    bigEndian 4 (f.payload.length % 2 ^ 32)

def writeFrame (w : Sink UInt8) (f : Frame) : Except WriteFrameError Unit × Sink UInt8 :=
  if maxPayloadSize < f.payload.length then (.error (.payloadTooLarge f.payload.length), w)
  else
    match w.writeAll (header f) with
    | (.error err, w) => (.error (.write err), w)
    | (.ok (), w) =>
      match w.writeAll f.payload with
      | (.error err, w) => (.error (.write err), w)
      | (.ok (), w) => (.ok (), w)

/-- Successive calls; the first that fails is the last. -/
def writeFrames (w : Sink UInt8) : List Frame → Except WriteFrameError Unit × Sink UInt8
  | [] => (.ok (), w)
  | f :: frames =>
    match writeFrame w f with
    | (.error err, w) => (.error err, w)
    | (.ok (), w) => writeFrames w frames

inductive ReadFrameError where
  | read (err : ReadError)
  | invalidMagic
  | unsupportedVersion (version : UInt8)
  | payloadExceedsLimit (length : Nat)

def readFrame (r : List Bytes) : Except ReadFrameError (Frame × List Bytes) :=
  match readFull headerSize [] r with
  | .error err => .error (.read err)
  | .ok (header, r) =>
    if header.getD 0 0 ≠ magic.1 ∨ header.getD 1 0 ≠ magic.2 then .error .invalidMagic
    else if header.getD 2 0 ≠ version then .error (.unsupportedVersion (header.getD 2 0))
    else
      let length := ofBigEndian ((header.drop 8).take 4)
      if maxPayloadSize < length then .error (.payloadExceedsLimit length)
      else
        match readFull length [] r with
        | .error err => .error (.read err)
        | .ok (payload, r) =>
          .ok (⟨header.getD 3 0, UInt32.ofNat (ofBigEndian ((header.drop 4).take 4)), payload⟩, r)

/-- As many calls as there are frames to come -/
def readFrames : Nat → List Bytes → Except ReadFrameError (List Frame × List Bytes)
  | 0, r => .ok ([], r)
  | n + 1, r =>
    match readFrame r with
    | .error err => .error err
    | .ok (f, r) =>
      match readFrames n r with
      | .error err => .error err
      | .ok (frames, r) => .ok (f :: frames, r)

def encode (f : Frame) : Bytes := header f ++ f.payload

theorem header_length (f : Frame) : (header f).length = headerSize := by
  simp [header, headerSize]

/-- A length within the limit is written as it is. -/
theorem header_eq {f : Frame} (within : f.payload.length ≤ maxPayloadSize) :
    header f = [magic.1, magic.2, version, f.type] ++ bigEndian 4 f.streamID.toNat ++
      bigEndian 4 f.payload.length := by
  have small : f.payload.length % 2 ^ 32 = f.payload.length :=
    Nat.mod_eq_of_lt (Nat.lt_of_le_of_lt within (by decide))
  rw [header, small]

theorem writeFrame_accepts {w : Sink UInt8} {f : Frame} (accepts : w.Accepts)
    (within : f.payload.length ≤ maxPayloadSize) :
    ∃ w', writeFrame w f = (.ok (), w') ∧ w'.written = w.written ++ encode f ∧ w'.Accepts := by
  obtain ⟨w₁, head, written₁, accepts₁⟩ := Sink.writeAll_accepts accepts (header f)
  obtain ⟨w₂, body, written₂, accepts₂⟩ := Sink.writeAll_accepts accepts₁ f.payload
  refine ⟨w₂, ?_, ?_, accepts₂⟩
  · simp [writeFrame, if_neg (Nat.not_lt_of_le within), head, body]
  · rw [written₂, written₁, encode, append_assoc]

theorem writeFrames_accepts {w : Sink UInt8} {frames : List Frame} (accepts : w.Accepts)
    (within : ∀ f ∈ frames, f.payload.length ≤ maxPayloadSize) :
    ∃ w', writeFrames w frames = (.ok (), w') ∧
      w'.written = w.written ++ frames.flatMap encode := by
  induction frames generalizing w with
  | nil => exact ⟨w, rfl, (append_nil _).symm⟩
  | cons f frames ih =>
    obtain ⟨first, others⟩ := forall_mem_cons.mp within
    obtain ⟨w₁, wrote, written₁, accepts₁⟩ := writeFrame_accepts accepts first
    obtain ⟨w₂, rest, written₂⟩ := ih accepts₁ others
    refine ⟨w₂, ?_, ?_⟩
    · simp [writeFrames, wrote, rest]
    · rw [written₂, written₁, flatMap_cons, append_assoc]

/-- A frame at the front of the stream is read, and nothing behind it. -/
theorem readFrame_front {f : Frame} {trailing : Bytes} {pieces : List Bytes}
    (within : f.payload.length ≤ maxPayloadSize)
    (delivered : pieces.flatten = encode f ++ trailing) :
    ∃ rest, readFrame pieces = .ok (f, rest) ∧ rest.flatten = trailing := by
  rw [encode, append_assoc] at delivered
  obtain ⟨r, head, left⟩ := readFull_front delivered
  obtain ⟨rest, body, trailing_left⟩ := readFull_front left
  rw [header_length] at head
  have length : ofBigEndian (((header f).drop 8).take 4) = f.payload.length := by
    have field : ((header f).drop 8).take 4 = bigEndian 4 f.payload.length := by
      rw [header_eq within]
      rfl
    rw [field]
    exact ofBigEndian_bigEndian (Nat.lt_of_le_of_lt within (by decide))
  have stream : UInt32.ofNat (ofBigEndian (((header f).drop 4).take 4)) = f.streamID := by
    have field : ((header f).drop 4).take 4 = bigEndian 4 f.streamID.toNat := by
      rw [header_eq within]
      rfl
    rw [field, ofBigEndian_bigEndian f.streamID.toNat_lt]
    exact UInt32.ofNat_toNat
  refine ⟨rest, ?_, trailing_left⟩
  have magic_ok : ¬((header f).getD 0 0 ≠ magic.1 ∨ (header f).getD 1 0 ≠ magic.2) := by
    rintro (wrong | wrong) <;> exact wrong rfl
  have version_ok : ¬(header f).getD 2 0 ≠ version := fun wrong => wrong rfl
  simp only [readFrame, head, if_neg magic_ok, if_neg version_ok, length,
    if_neg (Nat.not_lt_of_le within), body, stream]
  rfl

theorem readFrames_front {frames : List Frame} {trailing : Bytes} {pieces : List Bytes}
    (within : ∀ f ∈ frames, f.payload.length ≤ maxPayloadSize)
    (delivered : pieces.flatten = frames.flatMap encode ++ trailing) :
    ∃ rest, readFrames frames.length pieces = .ok (frames, rest) ∧ rest.flatten = trailing := by
  induction frames generalizing pieces with
  | nil => exact ⟨pieces, rfl, delivered⟩
  | cons f frames ih =>
    obtain ⟨first, others⟩ := forall_mem_cons.mp within
    rw [flatMap_cons, append_assoc] at delivered
    obtain ⟨r, read, left⟩ := readFrame_front first delivered
    obtain ⟨rest, reads, trailing_left⟩ := ih others left
    refine ⟨rest, ?_, trailing_left⟩
    simp [readFrames, read, reads]

/-- Twelve bytes are a header when the checks of `ReadFrame` hold of them. -/
theorem header_of_checks {bytes payload : Bytes} (size : bytes.length = headerSize)
    (magic_ok : bytes.getD 0 0 = magic.1 ∧ bytes.getD 1 0 = magic.2)
    (version_ok : bytes.getD 2 0 = version)
    (length : payload.length = ofBigEndian ((bytes.drop 8).take 4))
    (within : payload.length ≤ maxPayloadSize) :
    bytes = header
      ⟨bytes.getD 3 0, UInt32.ofNat (ofBigEndian ((bytes.drop 4).take 4)), payload⟩ := by
  match bytes, size with
  | [m₀, m₁, v, t, s₀, s₁, s₂, s₃, n₀, n₁, n₂, n₃], _ =>
    obtain ⟨rfl, rfl⟩ : m₀ = magic.1 ∧ m₁ = magic.2 := magic_ok
    obtain rfl : v = version := version_ok
    have stream : (UInt32.ofNat (ofBigEndian [s₀, s₁, s₂, s₃])).toNat =
        ofBigEndian [s₀, s₁, s₂, s₃] := by
      have bound := ofBigEndian_lt [s₀, s₁, s₂, s₃]
      rw [show [s₀, s₁, s₂, s₃].length = 4 from rfl] at bound
      exact UInt32.toNat_ofNat_of_lt (bound.trans_eq (by norm_num))
    have first : bigEndian 4 (ofBigEndian [s₀, s₁, s₂, s₃]) = [s₀, s₁, s₂, s₃] :=
      bigEndian_ofBigEndian [s₀, s₁, s₂, s₃]
    have second : bigEndian 4 (ofBigEndian [n₀, n₁, n₂, n₃]) = [n₀, n₁, n₂, n₃] :=
      bigEndian_ofBigEndian [n₀, n₁, n₂, n₃]
    rw [header_eq within]
    simp only [drop_succ_cons, drop_zero, take_succ_cons, take_zero] at length ⊢
    rw [length, stream, first, second]
    rfl

/-- What `ReadFrame` takes off the stream is the encoding of the frame it returns. -/
theorem readFrame_eq_ok {pieces rest : List Bytes} {f : Frame}
    (h : readFrame pieces = .ok (f, rest)) :
    f.payload.length ≤ maxPayloadSize ∧ pieces.flatten = encode f ++ rest.flatten := by
  unfold readFrame at h
  split at h
  · cases h
  rename_i bytes r head
  obtain ⟨size, front⟩ := readFull_eq_ok (Nat.zero_le _) head
  split at h
  · cases h
  rename_i magic_ok
  split at h
  · cases h
  rename_i version_ok
  dsimp only at h
  split at h
  · cases h
  rename_i limit
  split at h
  · cases h
  rename_i payload r' body
  obtain ⟨length, back⟩ := readFull_eq_ok (Nat.zero_le _) body
  cases h
  have within : payload.length ≤ maxPayloadSize := length ▸ Nat.le_of_not_lt limit
  rw [not_or, not_not, not_not] at magic_ok
  rw [not_not] at version_ok
  refine ⟨within, ?_⟩
  rw [encode, ← header_of_checks size magic_ok version_ok length within]
  rw [append_assoc, ← back]
  exact front

/-- Frames written one after the other are read back as they were, however the writer takes and
the reader gets them, and what a frame is read from is what is written for it. -/
theorem frames_round_trip : (∀ (frames : List Frame) (answers : List (Nat × Bool)),
      (∀ f ∈ frames, f.payload.length ≤ maxPayloadSize) →
      (∀ a ∈ answers, 0 < a.1 ∧ a.2 = false) →
      ∃ w, writeFrames ⟨[], answers⟩ frames = (.ok (), w) ∧
        ∀ (trailing : Bytes) (pieces : List Bytes), pieces.flatten = w.written ++ trailing →
          ∃ rest, readFrames frames.length pieces = .ok (frames, rest) ∧ rest.flatten = trailing) ∧
    (∀ (pieces rest : List Bytes) (f : Frame) (answers : List (Nat × Bool)),
      readFrame pieces = .ok (f, rest) → (∀ a ∈ answers, 0 < a.1 ∧ a.2 = false) →
      ∃ w, writeFrame ⟨[], answers⟩ f = (.ok (), w) ∧
        pieces.flatten = w.written ++ rest.flatten) := by
  constructor
  · intro frames answers within accepts
    obtain ⟨w, wrote, written⟩ := writeFrames_accepts (w := ⟨[], answers⟩) accepts within
    refine ⟨w, wrote, fun trailing pieces delivered => readFrames_front within ?_⟩
    rw [delivered, written]
    rfl
  · intro pieces rest f answers read accepts
    obtain ⟨within, front⟩ := readFrame_eq_ok read
    obtain ⟨w, wrote, written, -⟩ := writeFrame_accepts (w := ⟨[], answers⟩) accepts within
    refine ⟨w, wrote, ?_⟩
    rw [front, written]
    rfl

/-- Two frames through a writer that takes one and three bytes at first, cut after five bytes -/
theorem frames_round_trip_cut : ∃ w,
    writeFrames ⟨[], [(1, false), (3, false)]⟩ [⟨5, 0, [104, 105]⟩, ⟨14, 7, []⟩] = (.ok (), w) ∧
      ∃ rest, readFrames 2 [w.written.take 5, [], w.written.drop 5 ++ [9]] =
        .ok ([⟨5, 0, [104, 105]⟩, ⟨14, 7, []⟩], rest) ∧ rest.flatten = [9] := by
  obtain ⟨w, wrote, reads⟩ := frames_round_trip.1 [⟨5, 0, [104, 105]⟩, ⟨14, 7, []⟩]
    [(1, false), (3, false)] (by decide) (by decide)
  refine ⟨w, wrote, reads [9] _ ?_⟩
  simp only [flatten_cons, nil_append, flatten_nil, append_nil]
  rw [← append_assoc, take_append_drop]

end SessionFrame
