import FreeRDS.Backend.Lengths
import FreeRDS.Lib.Framing

/-! # Sending

Messages go out through one stream, which is rewound for each of them and keeps the bytes of the one before. A message is
measured, the stream grows to the length that the message then says it has, the message is written, and that many bytes
of the stream go to the pipe.
-/

namespace FreeRDS.Backend

open Lib Wire Layout Option

/-- `OutboundStream`, which is created for 8192 bytes. -/
structure OutboundStream where
  memory : Memory UInt8
  capacity : Nat
  minimum : 8192 ≤ capacity

namespace OutboundStream

def created : OutboundStream := ⟨fun _ => 0, 8192, le_rfl⟩

/-- Some bytes are written at the start. There is no value if they run over the end. -/
def put (stream : OutboundStream) (bytes : List UInt8) : Option OutboundStream :=
  if bytes.length ≤ stream.capacity then some { stream with memory := stream.memory.write 0 bytes } else none

def front (stream : OutboundStream) (length : UInt32) : Option (List UInt8) :=
  if length.toNat ≤ stream.capacity then some (stream.memory.contents length.toNat) else none

theorem exists_put {stream : OutboundStream} {bytes : List UInt8} {length : UInt32}
    (hfits : bytes.length ≤ stream.capacity) (hlen : length.toNat = bytes.length) :
    ∃ stream', stream.put bytes = some stream' ∧ stream'.front length = some bytes := by
  refine ⟨_, if_pos hfits, ?_⟩
  have hcont : (stream.memory.write 0 bytes).contents bytes.length = bytes := by
    simpa using stream.memory.contents_write 0 bytes
  rw [front, hlen, if_pos hfits, hcont]

end OutboundStream

/-- `Stream_EnsureRemainingCapacity` for a stream that has been rewound, which is not a part of this program. There is
room afterwards, and what was in the stream stays. -/
structure Growth where
  ensure : OutboundStream → UInt32 → OutboundStream
  room : ∀ stream length, length.toNat ≤ (ensure stream length).capacity
  keeps : ∀ stream length, stream.capacity ≤ (ensure stream length).capacity ∧
    ∀ i < stream.capacity, (ensure stream length).memory i = stream.memory i

def Growth.least : Growth where
  ensure stream length :=
    { stream with capacity := max stream.capacity length.toNat, minimum := stream.minimum.trans (le_max_left ..) }
  room _ _ := le_max_right ..
  keeps _ _ := ⟨le_max_left .., fun _ _ => rfl⟩

/-! ## A message is sent -/

structure Sent where
  bytes : List UInt8
  stream : OutboundStream

section

variable {β : Type}

/-- `freerds_server_outbound_write_message` and `freerds_client_outbound_write_message`. -/
def writeMessage (growth : Growth) (entry : Entry β) (stream : OutboundStream) (common : Common) (msg : β) :
    Option Sent := do
  let measured ← entry.measure common msg
  let stream := growth.ensure stream measured.common.length
  let written ← entry.write measured.common measured.body
  let stream ← stream.put written.bytes
  let bytes ← stream.front written.common.length
  pure ⟨bytes, stream⟩

/-- The functions for the events of the client. They send as many bytes as the first call returns, and leave the stream as
large as it is. -/
def writeEvent (entry : Entry β) (stream : OutboundStream) (common : Common) (msg : β) : Option Sent := do
  let measured ← entry.measure common msg
  let written ← entry.write measured.common measured.body
  let stream ← stream.put written.bytes
  let bytes ← stream.front measured.common.length
  pure ⟨bytes, stream⟩

theorem exists_of_writeMessage {growth : Growth} {entry : Entry β} {stream : OutboundStream} {common : Common} {msg : β}
    {sent : Sent} (h : writeMessage growth entry stream common msg = some sent) :
    ∃ measured written, entry.measure common msg = some measured ∧
      entry.write measured.common measured.body = some written ∧
      written.bytes.length ≤ (growth.ensure stream measured.common.length).capacity ∧
      sent.bytes.length = written.common.length.toNat := by
  simp only [writeMessage, bind_eq_bind, pure_def, bind_eq_some_iff, some.injEq] at h
  obtain ⟨measured, hmeas, written, hwrite, stream', hput, bytes, hfront, rfl⟩ := h
  unfold OutboundStream.put at hput
  unfold OutboundStream.front at hfront
  split at hput
  next hroom =>
    split at hfront
    next =>
      cases hfront
      exact ⟨measured, written, hmeas, hwrite, hroom, Memory.contents_length ..⟩
    next => cases hfront
  next => cases hput

variable {writer : Writer β} {common : Common} {msg : β} {measured : Measured β} {written : Written β}

theorem Writer.run_eq_some_iff : writer.run common msg = some (measured, written) ↔
    writer.measure common msg = some measured ∧ writer.write measured.common measured.body = some written := by
  simp only [run, bind_eq_bind, pure_def, bind_eq_some_iff, some.injEq, Prod.mk.injEq]
  constructor
  · rintro ⟨_, hmeas, _, hwrite, rfl, rfl⟩
    exact ⟨hmeas, hwrite⟩
  · rintro ⟨hmeas, hwrite⟩
    exact ⟨_, hmeas, _, hwrite, rfl, rfl⟩

structure Writer.Frames (writer : Writer β) (common : Common) (msg : β) (measured : Measured β) (written : Written β) :
    Prop where
  run : writer.run common msg = some (measured, written)
  measured : measured.common.length.toNat = written.bytes.length
  written : written.common.length.toNat = written.bytes.length

theorem Writer.Frames.writeMessage (h : writer.Frames common msg measured written) (growth : Growth)
    (stream : OutboundStream) :
    ∃ stream', writeMessage growth writer.toEntry stream common msg = some ⟨written.bytes, stream'⟩ := by
  obtain ⟨hmeas, hwrite⟩ := run_eq_some_iff.mp h.run
  have hroom := growth.room stream measured.common.length
  rw [h.measured] at hroom
  obtain ⟨stream', hput, hfront⟩ := OutboundStream.exists_put hroom h.written
  exact ⟨stream', by simp [Backend.writeMessage, hmeas, hwrite, hput, hfront]⟩

theorem Writer.Frames.writeEvent (h : writer.Frames common msg measured written) {stream : OutboundStream}
    (hroom : written.bytes.length ≤ stream.capacity) :
    ∃ stream', writeEvent writer.toEntry stream common msg = some ⟨written.bytes, stream'⟩ := by
  obtain ⟨hmeas, hwrite⟩ := run_eq_some_iff.mp h.run
  obtain ⟨stream', hput, hfront⟩ := OutboundStream.exists_put hroom h.measured
  exact ⟨stream', by simp [Backend.writeEvent, hmeas, hwrite, hput, hfront]⟩

theorem Writer.Lawful.frames (h : writer.Lawful) (hrun : writer.run common msg = some (measured, written))
    (htotal : writer.total msg < 2 ^ 32) : writer.Frames common msg measured written := by
  obtain ⟨hmeasured, hwritten, hbytes, -⟩ := h.length hrun
  have hlen : (UInt32.ofNat (writer.total msg)).toNat = writer.total msg := UInt32.toNat_ofNat_of_lt' htotal
  exact ⟨hrun, by rw [hmeasured, hlen, hbytes], by rw [hwritten, hlen, hbytes]⟩

theorem Writer.Lawful.exists_run (h : writer.Lawful) (hbacked : writer.Backed msg) (common : Common) :
    ∃ measured written, writer.run common msg = some (measured, written) := by
  obtain ⟨size, body, body', bounds, data, -, -, -, hcalls⟩ := h.runs msg hbacked
  exact ⟨_, _, Writer.run_eq_some_iff.mpr ⟨(hcalls common).1, (hcalls _).2⟩⟩

/-- Both calls come to the length of the frame, the frame says so, and the frame is what goes to the pipe. -/
theorem length_law (kind : Writable) (common : Common) (msg : kind.Body) (hbacked : kind.writer.Backed msg)
    (htotal : kind.writer.total msg < 2 ^ 32) :
    ∃ measured written, kind.writer.run common msg = some (measured, written) ∧
      measured.common.length.toNat = written.bytes.length ∧
      ofBytes ((written.bytes.drop 2).take 4) = written.bytes.length ∧
      written.bytes.length = kind.writer.total msg ∧
      (∀ growth stream, ∃ stream',
        writeMessage growth kind.writer.toEntry stream common msg = some ⟨written.bytes, stream'⟩) ∧
      ∀ stream : OutboundStream, written.bytes.length ≤ stream.capacity → ∃ stream',
        writeEvent kind.writer.toEntry stream common msg = some ⟨written.bytes, stream'⟩ := by
  obtain ⟨measured, written, hrun⟩ := kind.writer_lawful.exists_run hbacked common
  have hframes := kind.writer_lawful.frames hrun htotal
  obtain ⟨-, -, hbytes, hfield⟩ := kind.writer_lawful.length hrun
  exact ⟨measured, written, hrun, hframes.measured, by rw [hfield, hframes.written], hbytes,
    hframes.writeMessage, fun _ => hframes.writeEvent⟩

end

def Sample.bitmap : PaintRect where
  nLeftRect := 3
  nTopRect := 5
  nWidth := 1
  nHeight := 1
  nXSrc := 0
  nYSrc := 0
  fbSegmentId := 0
  bitmapDataLength := 3
  bitmapData := .data [10, 20, 30]
  framebuffer := .wild

theorem length_law_bitmap :
    ∃ measured written, PaintRect.writer.run ⟨6, 0, 0, ⟨0, 0, 0, 0⟩⟩ Sample.bitmap = some (measured, written) ∧
      measured.common.length.toNat = written.bytes.length ∧
      ofBytes ((written.bytes.drop 2).take 4) = written.bytes.length ∧ written.bytes.length = 49 := by
  obtain ⟨measured, written, hrun, hmeasured, hfield, hlen, -⟩ :=
    length_law (.server .paintRect) _ Sample.bitmap (.inr rfl) (by decide)
  exact ⟨measured, written, hrun, hmeasured, hfield, hlen⟩

/-! ## The interface of the server -/

/-- The entries of `RDS_SERVER_MSG_DEFINITIONS`. -/
inductive ServerType
  | received (kind : ServerMessage)
  | setPalette
  | cacheGlyph
  | glyphIndex
  | beep
  | reset
  deriving DecidableEq

def ServerMessage.type : ServerMessage → UInt32
  | beginUpdate => 1
  | endUpdate => 2
  | setClippingRegion => 3
  | opaqueRect => 4
  | screenBlt => 5
  | paintRect => 6
  | patBlt => 7
  | dstBlt => 8
  | lineTo => 9
  | createOffscreenSurface => 10
  | switchOffscreenSurface => 11
  | deleteOffscreenSurface => 12
  | paintOffscreenSurface => 13
  | setPointer => 17
  | sharedFramebuffer => 18
  | windowNewUpdate => 21
  | windowDelete => 22
  | setSystemPointer => 23
  | logonUser => 24
  | logoffUser => 25

def Entry.idle {β : Type} : Entry β where
  measure common msg := some ⟨common, msg⟩
  write common msg := some ⟨common, msg, []⟩

namespace ServerType

def type : ServerType → UInt32
  | received kind => kind.type
  | setPalette => 14
  | cacheGlyph => 15
  | glyphIndex => 16
  | beep => 19
  | reset => 20

def Body : ServerType → Type
  | received kind => kind.Body
  | setPalette => SetPalette
  | cacheGlyph => CacheGlyph
  | glyphIndex => GlyphIndex
  | beep => Unit
  | reset => Reset

def entry : (kind : ServerType) → Entry kind.Body
  | received kind => kind.writer.toEntry
  | setPalette => .idle
  | cacheGlyph => .idle
  | glyphIndex => .idle
  | beep => .idle
  | reset => .idle

/-- The functions of the interface: they set the type. `LogonUser` and `LogoffUser` have an entry and no function. -/
def send (growth : Growth) (kind : ServerType) (stream : OutboundStream) (common : Common) (msg : kind.Body) :
    Option Sent :=
  writeMessage growth kind.entry stream { common with type := kind.type } msg

end ServerType

structure AnyMessage where
  kind : ServerType
  common : Common
  msg : kind.Body

def sendAll (growth : Growth) : List AnyMessage → OutboundStream → Option OutboundStream
  | [], stream => some stream
  | message :: rest, stream => do
      let sent ← message.kind.send growth stream message.common message.msg
      sendAll growth rest sent.stream

/-- A frame of some type: a header that says the length of the frame, and what is behind it. -/
def WellFormed (type : UInt32) (frame : List UInt8) : Prop :=
  ∃ common data, frame = writeCommonHeader common ++ data ∧ common.type = type ∧ common.length.toNat = frame.length

/-- Whatever was sent before, and whatever the sender left in the header, one frame goes to the pipe. -/
def ServerType.Determined (kind : ServerType) (msg : kind.Body) : Prop :=
  ∃ frame, WellFormed kind.type frame ∧
    ∀ growth start earlier stream, sendAll growth earlier start = some stream →
      ∀ common, ∃ stream', kind.send growth stream common msg = some ⟨frame, stream'⟩

theorem writeCommonHeader_stamp (size : UInt32) (bounds : Option Rect) {common common' : Common}
    (htype : common.type = common'.type) :
    writeCommonHeader (stamp size bounds common) = writeCommonHeader (stamp size bounds common') := by
  cases bounds with
  | none => simp [writeCommonHeader, stamp, writeItems, header, htype, commonHeaderLength, flagRect]
  | some bounds => simp [writeCommonHeader, stamp, writeItems, header, headerRect, htype, commonHeaderLength]

theorem Writer.Lawful.exists_frame {β : Type} {writer : Writer β} {msg : β} (h : writer.Lawful)
    (hbacked : writer.Backed msg) (htotal : writer.total msg < 2 ^ 32) (type : UInt32) :
    ∃ frame, WellFormed type frame ∧ ∀ common : Common, common.type = type →
      ∃ measured written, writer.Frames common msg measured written ∧ written.bytes = frame := by
  obtain ⟨size, body, body', bounds, data, -, -, -, hcalls⟩ := h.runs msg hbacked
  have hrun (common : Common) : writer.run common msg = some (⟨Backend.measured size writer.bounded common, body⟩,
      Backend.written (stamp size bounds (Backend.measured size writer.bounded common)) body' data) :=
    Writer.run_eq_some_iff.mpr ⟨(hcalls common).1, (hcalls _).2⟩
  let first : Common := ⟨type, 0, 0, ⟨0, 0, 0, 0⟩⟩
  let stamped := stamp size bounds (Backend.measured size writer.bounded first)
  refine ⟨writeCommonHeader stamped ++ data, ⟨stamped, data, rfl, ?_, (h.frames (hrun first) htotal).written⟩,
    fun common htype => ⟨_, _, h.frames (hrun common) htotal, ?_⟩⟩
  · exact Format.stamp_type ..
  · have hsame : (Backend.measured size writer.bounded common).type =
        (Backend.measured size writer.bounded first).type := htype
    simp only [Backend.written]
    rw [writeCommonHeader_stamp size bounds hsame]

namespace ServerType

theorem not_determined_of_idle {kind : ServerType} (hidle : kind.entry = .idle) (msg : kind.Body) :
    ¬kind.Determined msg := by
  rintro ⟨frame, ⟨common, data, hframe, -, -⟩, hall⟩
  obtain ⟨stream', hsend⟩ := hall .least .created [] .created rfl ⟨0, 0, 0, ⟨0, 0, 0, 0⟩⟩
  obtain ⟨measured, written, hmeas, hwrite, -, hlen⟩ := exists_of_writeMessage hsend
  rw [hidle] at hmeas hwrite
  cases hmeas
  cases hwrite
  have hhdr : 10 ≤ (writeCommonHeader common).length := by
    rw [writeCommonHeader, List.length_append, header.writeItems_length]
    exact Nat.le_add_right 10 _
  have hframe' : frame.length = (writeCommonHeader common).length + data.length := by rw [hframe, List.length_append]
  have hzero : frame.length = 0 := hlen
  omega

theorem backed_of_determined {kind : ServerMessage} {msg : kind.Body} (h : (received kind).Determined msg) :
    kind.writer.Backed msg ∧ kind.writer.total msg < 2 ^ 32 := by
  obtain ⟨frame, -, hall⟩ := h
  obtain ⟨stream', hsend⟩ := hall .least .created [] .created rfl ⟨0, 0, 0, ⟨0, 0, 0, 0⟩⟩
  obtain ⟨measured, written, hmeas, hwrite, hroom, -⟩ := exists_of_writeMessage hsend
  have hrun := Writer.run_eq_some_iff.mpr ⟨hmeas, hwrite⟩
  obtain ⟨hlen, -, hbytes, -⟩ := kind.writer_lawful.length hrun
  refine ⟨kind.writer_lawful.backed _ msg (isSome_iff_exists.mpr ⟨_, hrun⟩), ?_⟩
  have hcap : (Growth.least.ensure .created measured.common.length).capacity < 2 ^ 32 :=
    max_lt (by decide) measured.common.length.toNat_lt
  omega

theorem determined_of_total {kind : ServerMessage} {msg : kind.Body} (hbacked : kind.writer.Backed msg)
    (htotal : kind.writer.total msg < 2 ^ 32) : (received kind).Determined msg := by
  obtain ⟨frame, hformed, hframes⟩ := kind.writer_lawful.exists_frame hbacked htotal kind.type
  refine ⟨frame, hformed, fun growth _ _ stream _ common => ?_⟩
  obtain ⟨measured, written, hwritten, rfl⟩ := hframes { common with type := kind.type } rfl
  exact hwritten.writeMessage growth stream

/-- The message has a writer, the data behind its pointers is there, and its length fits the header. -/
def Sendable : (kind : ServerType) → kind.Body → Prop
  | received kind, msg => kind.writer.Backed msg ∧ kind.writer.total msg < 2 ^ 32
  | setPalette, _ => False
  | cacheGlyph, _ => False
  | glyphIndex, _ => False
  | beep, _ => False
  | reset, _ => False

end ServerType

/-- Exactly the messages that have a writer, and that are not too long for it, go out as one frame that nothing else
shows in. -/
theorem outbound_determined_iff (kind : ServerType) (msg : kind.Body) : kind.Determined msg ↔ kind.Sendable msg := by
  cases kind with
  | received kind => exact ⟨ServerType.backed_of_determined, fun h => ServerType.determined_of_total h.1 h.2⟩
  | setPalette | cacheGlyph | glyphIndex | beep | reset =>
    exact iff_of_false (ServerType.not_determined_of_idle rfl msg) id

def Sample.leftover (length : UInt32) : Common := ⟨0, length, 0, ⟨0, 0, 0, 0⟩⟩

/-- A `Beep` behind a `BeginUpdate`: the `BeginUpdate` goes out once more, or nothing does. -/
theorem beep_repeats : ¬ServerType.beep.Determined () ∧
    ∃ stream, sendAll .least [⟨.received .beginUpdate, Sample.leftover 0, ()⟩] .created = some stream ∧
      ((ServerType.beep.send .least stream (Sample.leftover 10) ()).map Sent.bytes =
        some [1, 0, 10, 0, 0, 0, 0, 0, 0, 0]) ∧
      (ServerType.beep.send .least stream (Sample.leftover 0) ()).map Sent.bytes = some [] :=
  ⟨@ServerType.not_determined_of_idle .beep rfl (), _, rfl, by decide, by decide⟩

end FreeRDS.Backend
