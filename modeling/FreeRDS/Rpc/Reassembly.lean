import FreeRDS.Rpc.Reader

/-! # Reassembly of frames

What reaches `processData` is compared with the frames that were sent, after every single read.
The reader keeps in step with the stream as long as no read ends inside a header.
-/

namespace FreeRDS.Rpc

open Lib FrameFormat Memory List

/-! ## Reassembly -/

/-- The reader with everything that `processData` has been called on. -/
structure Serving where
  reader : Reader
  processed : List Received

namespace Serving

def new (header payloadBuffer : Memory UInt8) : Serving := ⟨.new header payloadBuffer, []⟩

def receive (s : Serving) (data : List UInt8) : Serving :=
  ⟨(s.reader.receive data).1, s.processed ++ (s.reader.receive data).2.toList⟩

def after (s : Serving) (reads : List (List UInt8)) : Serving := reads.foldl receive s

end Serving

/-- `ReadFile` returns the bytes of the frames in these pieces. -/
structure Delivers (s : Serving) (frames : List fdsapi.Frame) (reads : List (List UInt8)) : Prop where
  bytes : reads.flatten = encode frames
  returns : Along Serving.receive (fun s data => s.reader.Returns data) s reads

/-- The reader has seen `n` bytes of the first of these frames, none of them in a header that is
still incomplete. -/
inductive Reader.Awaits (r : Reader) : List fdsapi.Frame → Nat → Prop
  | header {frames : List fdsapi.Frame} (h : r.AtRest) : r.Awaits frames 0
  | payload {frame : fdsapi.Frame} {frames : List fdsapi.Frame} {n : Nat}
      (h : r.InPayload frame.header frame.payload n) : r.Awaits (frame :: frames) (headerSize + n)

namespace Reader.Awaits

variable {r : Reader} {frames : List fdsapi.Frame} {n : Nat} {data rest : List UInt8}

theorem not_insideHeader (h : r.Awaits frames n) : ¬InsideHeader frames n := by
  cases h with
  | header h => exact not_insideHeader_zero frames
  | @payload frame frames n h =>
    have hlt : headerSize + n < frame.size := Nat.add_lt_add_left h.lt _
    rw [insideHeader_of_lt hlt]
    intro hins
    exact Nat.not_lt.mpr (Nat.le_add_right headerSize n) hins.2

theorem receive (h : r.Awaits frames n) (hrets : r.Returns data)
    (hdata : (encode frames).drop n = data ++ rest) :
    ∃ frame frames', frames = frame :: frames' ∧
      (n = 0 ∧ r.packetLength = 0 ∧ data.length < headerSize ∨
      (r.packetLength = 0 → data.length = headerSize) ∧ (r.receive data).1.Awaits frames (n + data.length) ∧
        (r.receive data).2 = none ∨
      (r.packetLength = 0 → data.length = headerSize) ∧ n + data.length = frame.size ∧
        (r.receive data).1.Awaits frames' 0 ∧ (r.receive data).2 = some (.ofFrame frame)) := by
  obtain ⟨hne, hsize⟩ := hrets
  have hframes : ∃ frame frames', frames = frame :: frames' := by
    cases frames with
    | nil => simp [hne] at hdata
    | cons frame frames' => exact ⟨frame, frames', rfl⟩
  obtain ⟨frame, frames', rfl⟩ := hframes
  refine ⟨frame, frames', rfl, ?_⟩
  cases h with
  | header h =>
    rw [h.request] at hsize
    by_cases hshort : data.length < headerSize
    · exact .inl ⟨rfl, h.packetLength, hshort⟩
    · have hlen : data.length = headerSize := Nat.le_antisymm hsize (Nat.not_lt.mp hshort)
      have hhdr : data = frame.header := by
        rw [drop_zero, encode_cons, Frame.bytes, append_assoc] at hdata
        exact (append_inj hdata (frame.header_length.trans hlen.symm)).1.symm
      subst hhdr
      have hread := h.receive_header frame
      by_cases hpay : frame.payload = []
      · rw [if_pos hpay] at hread
        refine .inr (.inr ⟨fun _ => hlen, ?_, .header hread.1, hread.2⟩)
        simp [Frame.size, hpay, frame.header_length]
      · rw [if_neg hpay] at hread
        refine .inr (.inl ⟨fun _ => hlen, ?_, hread.2⟩)
        rw [hlen, Nat.zero_add]
        exact .payload hread.1
  | @payload frame frames n h =>
    rw [h.request] at hsize
    have hlt := h.lt
    have hprefix : data <+: frame.payload.drop n := by
      have hdrop : (encode (frame :: frames')).drop (headerSize + n) =
          frame.payload.drop n ++ encode frames' := by
        have hle : headerSize + n ≤ frame.bytes.length := by
          rw [Frame.bytes_length]
          exact Nat.le_of_lt (Nat.add_lt_add_left hlt _)
        rw [encode_cons, drop_append_of_le_length hle, Frame.bytes]
        congr 1
        have hlen : frame.header.length = headerSize := frame.header_length
        rw [← hlen, drop_append]
        simp
      rw [hdrop] at hdata
      have hle : data.length ≤ (frame.payload.drop n).length := by
        rw [length_drop]
        exact hsize
      exact prefix_of_prefix_length_le (hdata ▸ prefix_append data rest)
        (prefix_append _ _) hle
    have hpay : r.packetLength = 0 → data.length = headerSize := by
      intro hzero
      rw [h.packetLength] at hzero
      omega
    have hread := h.receive hprefix
    by_cases hend : n + data.length = frame.payload.length
    · rw [if_pos hend] at hread
      refine .inr (.inr ⟨hpay, ?_, .header hread.1, hread.2⟩)
      rw [Nat.add_assoc, hend]
      rfl
    · rw [if_neg hend] at hread
      refine .inr (.inl ⟨hpay, ?_, hread.2⟩)
      rw [Nat.add_assoc]
      exact .payload hread.1

end Reader.Awaits

/-- What a read that does not cut a header does: `done` is processed, and the reader has seen `n'` bytes of
the frames that are left. -/
structure Reader.Advances (r : Reader) (frames : List fdsapi.Frame) (n : Nat) (data : List UInt8)
    (frames' : List fdsapi.Frame) (n' : Nat) (done : List fdsapi.Frame) : Prop where
  whole : r.packetLength = 0 → data.length = headerSize
  awaits : (r.receive data).1.Awaits frames' n'
  rest : (encode frames).drop (n + data.length) = (encode frames').drop n'
  output : (r.receive data).2.toList = done.map .ofFrame
  split : frames = done ++ frames'
  insideHeader : ∀ k, InsideHeader frames (n + data.length + k) ↔ InsideHeader frames' (n' + k)

structure Reader.Cuts (r : Reader) (frames : List fdsapi.Frame) (n : Nat) (data : List UInt8) : Prop where
  packetLength : r.packetLength = 0
  short : data.length ≠ headerSize
  insideHeader : InsideHeader frames (n + data.length)

theorem Reader.Awaits.cuts_or_advances {r : Reader} {frames : List fdsapi.Frame} {n : Nat}
    {data rest : List UInt8} (h : r.Awaits frames n) (hrets : r.Returns data)
    (hdata : (encode frames).drop n = data ++ rest) :
    r.Cuts frames n data ∨ ∃ frames' n' done, r.Advances frames n data frames' n' done := by
  obtain ⟨frame, frames', rfl, hcut | hins | hend⟩ := h.receive hrets hdata
  · obtain ⟨rfl, hzero, hlt⟩ := hcut
    refine .inl ⟨hzero, Nat.ne_of_lt hlt, ?_⟩
    rw [Nat.zero_add, insideHeader_of_lt (Nat.lt_of_lt_of_le hlt frame.headerSize_le)]
    exact ⟨length_pos_iff.mpr hrets.1, hlt⟩
  · obtain ⟨hwhole, hawaits, hnone⟩ := hins
    refine .inr ⟨frame :: frames', n + data.length, [], hwhole, hawaits, rfl, ?_, rfl, fun _ => .rfl⟩
    simp [hnone]
  · obtain ⟨hwhole, hsize, hawaits, hsome⟩ := hend
    refine .inr ⟨frames', 0, [frame], hwhole, hawaits, ?_, ?_, rfl, fun k => ?_⟩
    · rw [hsize, encode_cons, ← Frame.bytes_length, drop_left]
      rfl
    · simp [hsome]
    · rw [hsize, insideHeader_size_add, Nat.zero_add]

def WholeHeaders (s : Serving) (reads : List (List UInt8)) : Prop :=
  Along Serving.receive (fun s data => s.reader.packetLength = 0 → data.length = headerSize) s reads

section InStep

variable {s : Serving} {frames : List fdsapi.Frame} {n : Nat} {reads : List (List UInt8)}

variable (h : s.reader.Awaits frames n) (hbytes : (encode frames).drop n = reads.flatten)
  (hrets : Along Serving.receive (fun s data => s.reader.Returns data) s reads)

include h hbytes hrets

theorem Reader.Awaits.wholeHeaders_iff :
    WholeHeaders s reads ↔ ∀ j, ¬InsideHeader frames (n + (reads.take j).flatten.length) := by
  induction reads generalizing s frames n with
  | nil => simp [WholeHeaders, Along, h.not_insideHeader]
  | cons data reads ih =>
    have hdata : (encode frames).drop n = data ++ reads.flatten := hbytes
    rw [← Nat.and_forall_add_one]
    simp only [take_zero, flatten_nil, length_nil, Nat.add_zero, h.not_insideHeader,
      not_false_eq_true, true_and, take_succ_cons, flatten_cons, length_append]
    simp only [← Nat.add_assoc]
    obtain hcut | ⟨frames', n', done, hadv⟩ := h.cuts_or_advances hrets.1 hdata
    · refine iff_of_false (fun hwhole => hcut.short (hwhole.1 hcut.packetLength)) fun hall => hall 0 ?_
      exact hcut.insideHeader
    · have hrest : (encode frames').drop n' = reads.flatten := by
        rw [← hadv.rest, ← drop_drop, hdata, drop_left]
      simp only [hadv.insideHeader]
      rw [← ih hadv.awaits hrest hrets.2]
      exact and_iff_right hadv.whole

/-- As long as the headers come whole, the frames are processed as they end, and at the end of the stream
the reader is between frames again. -/
theorem Reader.Awaits.processed (hwhole : WholeHeaders s reads) :
    (s.after reads).processed = s.processed ++ frames.map .ofFrame ∧ (s.after reads).reader.AtRest := by
  induction reads generalizing s frames n with
  | nil =>
    cases h with
    | @header frames h =>
      cases frames with
      | nil => exact ⟨(append_nil _).symm, h⟩
      | cons frame frames =>
        have hlen := congrArg length hbytes
        have hpos := frame.size_pos
        simp only [drop_zero, encode_cons, length_append, Frame.bytes_length, flatten_nil,
          length_nil] at hlen
        omega
    | @payload frame frames n h =>
      have hlt : headerSize + n < (encode (frame :: frames)).length := by
        rw [encode_cons, length_append, Frame.bytes_length]
        exact Nat.lt_add_right _ (Nat.add_lt_add_left h.lt _)
      exact absurd hlt (Nat.not_lt.mpr (drop_eq_nil_iff.mp hbytes))
  | cons data reads ih =>
    have hdata : (encode frames).drop n = data ++ reads.flatten := hbytes
    obtain hcut | ⟨frames', n', done, hadv⟩ := h.cuts_or_advances hrets.1 hdata
    · exact absurd (hwhole.1 hcut.packetLength) hcut.short
    · have hrest : (encode frames').drop n' = reads.flatten := by
        rw [← hadv.rest, ← drop_drop, hdata, drop_left]
      obtain ⟨hprocessed, hatRest⟩ := ih hadv.awaits hrest hrets.2 hwhole.2
      refine ⟨hprocessed.trans ?_, hatRest⟩
      rw [hadv.split, map_append, ← append_assoc, ← hadv.output]
      rfl

end InStep

/-! ### Counting bytes -/

def Received.size (packet : Received) : Nat := headerSize + packet.payload.length

/-- The bytes of the frames processed so far and of the one that is being read. -/
def Serving.volume (s : Serving) : Nat :=
  (s.processed.map Received.size).sum +
    if s.reader.packetLength > 0 then headerSize + s.reader.payloadRead else 0

theorem Serving.volume_append (s : Serving) (packet : Received) (r : Reader) :
    volume ⟨r.resetStatus, s.processed ++ [packet]⟩ = (s.processed.map Received.size).sum + packet.size := by
  simp [volume, Reader.resetStatus]

theorem Serving.volume_receive {s : Serving} (h : s.reader.Consistent) (data : List UInt8) :
    (s.receive data).volume = s.volume + if s.reader.packetLength = 0 then headerSize else data.length := by
  by_cases hpos : s.reader.packetLength > 0
  · have hvolume : s.volume =
        (s.processed.map Received.size).sum + (headerSize + s.reader.payloadRead) := by
      rw [volume, if_pos hpos]
    rw [receive, Reader.receive_payload hpos, if_neg (Nat.ne_of_gt hpos), hvolume]
    by_cases hend : s.reader.payloadRead + data.length = s.reader.packetLength
    · rw [if_pos hend]
      show volume ⟨_, s.processed ++ [_]⟩ = _
      rw [volume_append]
      simp only [Received.size, Reader.current, Reader.readPayload, contents_length]
      omega
    · rw [if_neg hend]
      show (map Received.size (s.processed ++ [])).sum +
        (if s.reader.packetLength > 0 then headerSize + (s.reader.payloadRead + data.length) else 0) = _
      rw [append_nil, if_pos hpos]
      omega
  · have hzero : s.reader.packetLength = 0 := Nat.eq_zero_of_not_pos hpos
    have hrest := h.atRest hzero
    have hread : (s.reader.readHeader data).payloadRead = 0 := by
      rw [Reader.readHeader_payloadRead, hrest.payloadRead]
    have hvolume : s.volume = (s.processed.map Received.size).sum := by
      rw [volume, if_neg hpos, Nat.add_zero]
    rw [receive, hrest.receive, if_pos hzero, hvolume]
    by_cases hempty : (s.reader.readHeader data).packetLength = 0
    · rw [if_pos hempty]
      show volume ⟨_, s.processed ++ [_]⟩ = _
      rw [volume_append]
      simp only [Received.size, Reader.current, hread, contents_length, Nat.add_zero]
    · rw [if_neg hempty]
      show (map Received.size (s.processed ++ [])).sum +
        (if (s.reader.readHeader data).packetLength > 0 then headerSize + (s.reader.readHeader data).payloadRead
          else 0) = _
      rw [append_nil, if_pos (Nat.pos_of_ne_zero hempty), hread, Nat.add_zero]

theorem Serving.volume_after {s : Serving} (h : s.reader.Consistent) {reads : List (List UInt8)}
    (hrets : Along Serving.receive (fun s data => s.reader.Returns data) s reads) :
    s.volume + reads.flatten.length ≤ (s.after reads).volume ∧
      ((s.after reads).volume = s.volume + reads.flatten.length → WholeHeaders s reads) := by
  induction reads generalizing s with
  | nil => exact ⟨Nat.le_refl _, fun _ => trivial⟩
  | cons data reads ih =>
    have hafter : s.after (data :: reads) = (s.receive data).after reads := rfl
    obtain ⟨hle, hwhole⟩ := ih (h.receive hrets.1).1 hrets.2
    have hvolume := volume_receive h data
    have hlen : data.length ≤ if s.reader.packetLength = 0 then headerSize else data.length := by
      split
      · rename_i hzero
        have hsize := hrets.1.2
        rw [Reader.request, if_neg (by omega), h.headerRead hzero] at hsize
        exact hsize
      · exact Nat.le_refl _
    rw [flatten_cons, length_append, hafter]
    refine ⟨by omega, fun heq => ⟨fun hzero => ?_, hwhole (by omega)⟩⟩
    rw [if_pos hzero] at hvolume hlen
    omega

/-- However the bytes of the frames are cut into reads: exactly the frames are processed, and nothing is left
over, if and only if no read ends inside a header. -/
theorem reassembly_iff (header payloadBuffer : Memory UInt8) (frames : List PipeFrame)
    (reads : List (List UInt8))
    (hdelivers : Delivers (.new header payloadBuffer) (frames.map (·.toFrame)) reads) :
    ((Serving.new header payloadBuffer).after reads).processed = frames.map (.ofFrame ·.toFrame) ∧
        ((Serving.new header payloadBuffer).after reads).reader.AtRest ↔
      ∀ j, ¬InsideHeader (frames.map (·.toFrame)) (reads.take j).flatten.length := by
  have hawaits : (Serving.new header payloadBuffer).reader.Awaits (frames.map (·.toFrame)) 0 :=
    .header ⟨rfl, rfl, rfl⟩
  have hiff := hawaits.wholeHeaders_iff hdelivers.bytes.symm hdelivers.returns
  simp only [Nat.zero_add] at hiff
  rw [← hiff]
  constructor
  · intro h
    obtain ⟨hprocessed, hatRest⟩ := h
    apply (Serving.volume_after ⟨Nat.le_refl 0, fun _ => rfl⟩ hdelivers.returns).2
    have hstart : (Serving.new header payloadBuffer).volume = 0 := by
      simp [Serving.volume, Serving.new, Reader.new]
    rw [hstart, hdelivers.bytes, encode_length]
    simp only [Serving.volume, hprocessed, hatRest.packetLength, map_map, gt_iff_lt, Nat.lt_irrefl, if_false,
      Nat.zero_add, Nat.add_zero]
    rfl
  · intro hwhole
    have hprocessed := hawaits.processed hdelivers.bytes.symm hdelivers.returns hwhole
    simpa [Serving.new, Function.comp_def] using hprocessed

namespace Sample

def frame : PipeFrame where
  header := header [2, 0, 0, 0]
  payload := [7, 8]
  header_length := by decide
  payload_length := by decide
  payload_le := by decide

def emptyFrame : PipeFrame where
  header := header [0, 0, 0, 0]
  payload := []
  header_length := by decide
  payload_length := by decide
  payload_le := by decide

end Sample

theorem cut_payload_reassembled :
    ((Serving.new (fun _ => 0) fun _ => 0).after
      [Sample.header [2, 0, 0, 0], [7], [8], Sample.header [0, 0, 0, 0]]).processed =
      [.ofFrame Sample.frame.toFrame, .ofFrame Sample.emptyFrame.toFrame] := by
  refine ((reassembly_iff _ _ [Sample.frame, Sample.emptyFrame]
    [Sample.header [2, 0, 0, 0], [7], [8], Sample.header [0, 0, 0, 0]] ⟨by decide, by decide +kernel⟩).mpr
      fun j => ?_).1
  rcases j with _ | _ | _ | _ | j
  · decide
  · decide
  · decide
  · decide
  · rw [take_of_length_le (by simp)]
    decide

/-- The header of an empty frame comes in two halves, and each is processed as a frame. -/
theorem cut_header_processed_twice :
    Delivers (.new (fun _ => 0) fun _ => 0) [Sample.emptyFrame.toFrame] [List.replicate 8 0, List.replicate 8 0] ∧
      ((Serving.new (fun _ => 0) fun _ => 0).after [List.replicate 8 0, List.replicate 8 0]).processed ≠
        [.ofFrame Sample.emptyFrame.toFrame] :=
  ⟨⟨by decide, by decide +kernel⟩, by decide +kernel⟩

end FreeRDS.Rpc
