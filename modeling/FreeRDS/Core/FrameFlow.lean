import FreeRDS.Lib.Run

/-! # Frames in flight

`freerds_send_surface_bits` numbers its frames when the client acknowledges frames, and the encoder slows down when too
many of them are in flight. Whether it numbers them is decided by the first codec that is prepared, which is after the
number was taken; and the client's acknowledgements go to another list than the numbers.
-/

namespace FreeRDS.Core.FrameFlow

open Lib List

/-! ## The encoder -/

structure Settings where
  remoteFxCodec : Bool
  nsCodec : Bool
  surfaceFrameMarkerEnabled : Bool
  deriving DecidableEq

inductive Codec
  | remoteFx | nsc
  deriving DecidableEq

variable (settings : Settings)

/-- The branch of `freerds_send_surface_bits`. -/
def Settings.codec : Option Codec :=
  if settings.remoteFxCodec then some .remoteFx else if settings.nsCodec then some .nsc else none

/-- `rdsEncoder`, as `freerds_encoder_new` leaves it. -/
structure Encoder where
  fps : Int := 16
  maxFps : Int := 32
  frameAck : Bool := false
  frameId : UInt32 := 0
  /-- The keys of `frameList`. -/
  frameList : Option (List UInt32) := none
  codecs : List Codec := []
  deriving DecidableEq

namespace Encoder

/-- `inFlightFrames`. -/
def inFlight (encoder : Encoder) : Nat := (encoder.frameList.getD []).length

/-- The first half of `freerds_encoder_create_frame_id`. -/
def setFps (encoder : Encoder) : Encoder :=
  let inFlightFrames : Int := encoder.inFlight
  let fps :=
    if inFlightFrames > encoder.frameAck.toInt then ((100 : Int).tdiv (inFlightFrames + 1) * encoder.maxFps).tdiv 100
    else min (encoder.fps + 2) encoder.maxFps
  { encoder with fps := max fps 1 }

/-- `freerds_encoder_create_frame_id`; without memory for the frame it returns `-1`. -/
def createFrameId (allocated : Bool) (encoder : Encoder) : UInt32 × Encoder :=
  let encoder := encoder.setFps
  if allocated then
    let frameId := encoder.frameId + 1
    (frameId, { encoder with frameId, frameList := encoder.frameList.map (· ++ [frameId]) })
  else (0xFFFFFFFF, encoder)

/-- What `freerds_encoder_init_rfx` and `freerds_encoder_init_nsc` have in common. -/
def initFrames (encoder : Encoder) : Encoder :=
  if encoder.frameList.isNone then
    { encoder with
      fps := 16
      maxFps := 32
      frameId := 0
      frameList := some []
      frameAck := settings.surfaceFrameMarkerEnabled }
  else encoder

/-- `freerds_encoder_prepare`. -/
def prepare (codec : Codec) (encoder : Encoder) : Encoder :=
  if codec ∈ encoder.codecs then encoder
  else { encoder.initFrames settings with codecs := codec :: encoder.codecs }

end Encoder

/-! ## The connection -/

/-- A call of `SurfaceFrameBits`, and whether its id had been issued. -/
structure FrameBits where
  call : Nat
  first : Bool
  last : Bool
  frameId : UInt32
  issued : Bool
  deriving DecidableEq

/-- What `freerds_encoder_create_frame_id` has read, and what there was. -/
structure Reading where
  inFlight : Nat
  outstanding : Nat
  deriving DecidableEq

structure Connection where
  encoder : Encoder := {}
  /-- `FrameList` of the connection. Nothing is ever put into it. -/
  frameList : List UInt32 := []
  /-- How often `freerds_send_surface_bits` has been called. -/
  calls : Nat := 0
  issued : List UInt32 := []
  acknowledged : List UInt32 := []
  readings : List Reading := []
  used : List FrameBits := []
  deriving DecidableEq

namespace Connection

/-- The number of frames that were issued and have not been acknowledged. -/
def outstanding (connection : Connection) : Nat := (connection.issued.filter (· ∉ connection.acknowledged)).length

def beginFrame (allocated : Bool) (connection : Connection) : UInt32 × Connection :=
  if connection.encoder.frameAck then
    let (frameId, encoder) := connection.encoder.createFrameId allocated
    (frameId,
      { connection with
        encoder
        issued := if allocated then connection.issued ++ [frameId] else connection.issued
        readings := connection.readings ++ [⟨connection.encoder.inFlight, connection.outstanding⟩] })
  else (0, connection)

end Connection

/-- How many messages a frame is sent in, where RemoteFX has made `messages` of it. -/
def Settings.numMessages (messages : Nat) : Nat :=
  match settings.codec with
  | some .remoteFx => messages
  | some .nsc => 1
  | none => 0

namespace Connection

/-- The calls of `SurfaceFrameBits` for one frame. -/
def frameBits (messages : Nat) (frameId : UInt32) (connection : Connection) : List FrameBits :=
  let numMessages := settings.numMessages messages
  (List.range numMessages).map fun i =>
    ⟨connection.calls, i = 0, i + 1 = numMessages, frameId, frameId ∈ connection.issued⟩

/-- The codec is prepared, and the frame is sent with its id or, by `SurfaceBits`, without. -/
def sendFrame (messages : Nat) (frameId : UInt32) (connection : Connection) : Connection :=
  match settings.codec with
  | none => connection
  | some codec =>
    let encoder := connection.encoder.prepare settings codec
    let bits := if encoder.frameAck then connection.frameBits settings messages frameId else []
    { connection with encoder, used := connection.used ++ bits }

/-- `freerds_send_surface_bits`. -/
def sendSurfaceBits (allocated : Bool) (messages : Nat) (connection : Connection) : Connection :=
  let (frameId, connection) := connection.beginFrame allocated
  { connection.sendFrame settings messages frameId with calls := connection.calls + 1 }

/-- `freerds_update_frame_acknowledge`. What the client acknowledges before it was issued does not count. -/
def updateFrameAcknowledge (frameId : UInt32) (connection : Connection) : Connection :=
  { connection with
    frameList := connection.frameList.erase frameId
    acknowledged :=
      if frameId ∈ connection.issued then connection.acknowledged ++ [frameId] else connection.acknowledged }

end Connection

inductive Event
  | sendSurfaceBits (settings : Settings) (allocated : Bool) (messages : Nat)
  | surfaceFrameAcknowledge (frameId : UInt32)
  deriving DecidableEq

variable (connection : Connection)

def Connection.step : Event → Connection
  | .sendSurfaceBits settings allocated messages => connection.sendSurfaceBits settings allocated messages
  | .surfaceFrameAcknowledge frameId => connection.updateFrameAcknowledge frameId

/-- Every id that was used had been issued, and no two frames have used the same one. -/
structure Sound (used : List FrameBits) : Prop where
  issued : ∀ bits ∈ used, bits.issued = true
  once : ∀ bits ∈ used, ∀ other ∈ used, bits.frameId = other.frameId → bits.call = other.call

/-- The ids were used as they should be, and every count of the frames in flight was right. -/
structure Connection.FlowControlled (connection : Connection) : Prop where
  sound : Sound connection.used
  counted : ∀ reading ∈ connection.readings, reading.inFlight = reading.outstanding

def Connection.Room : Prop := connection.issued.length + 1 < UInt32.size

instance (connection : Connection) : Decidable connection.Room := Nat.decLt _ _

/--
What a call needs. While frames are numbered, there is memory for the frame or nothing to send, and no frame has been
acknowledged. A call that turns the numbers on has nothing to send.
-/
def Connection.Conforms : Event → Prop
  | .sendSurfaceBits settings allocated messages =>
    if connection.encoder.frameAck then
      (allocated = true ∨ settings.numMessages messages = 0) ∧
        ∀ frameId ∈ connection.issued, frameId ∉ connection.acknowledged
    else
      connection.encoder.frameList = none → settings.surfaceFrameMarkerEnabled = true →
        settings.numMessages messages = 0
  | .surfaceFrameAcknowledge _ => True

instance (connection : Connection) : (event : Event) → Decidable (connection.Conforms event)
  | .sendSurfaceBits _ _ _ =>
    have : Decidable (∀ frameId ∈ connection.issued, frameId ∉ connection.acknowledged) := List.decidableBAll _ _
    inferInstanceAs (Decidable (if connection.encoder.frameAck = true then _ else _))
  | .surfaceFrameAcknowledge _ => isTrue trivial

/-! ## What is issued -/

/-- The ids are issued in order, and the list of the encoder has them all. -/
structure Connection.Numbered (connection : Connection) : Prop where
  issued : connection.issued = (List.range connection.issued.length).map fun i => .ofNat (i + 1)
  frames :
    (connection.encoder.frameList = some connection.issued ∧
      connection.encoder.frameId = .ofNat connection.issued.length) ∨
    (connection.encoder.frameList = none ∧ connection.encoder.frameAck = false ∧ connection.encoder.codecs = [] ∧
      connection.issued = [])
  used : ∀ bits ∈ connection.used,
    (bits.issued = true → bits.frameId ∈ connection.issued) ∧ bits.call < connection.calls

section

variable {connection : Connection}

theorem prepare_of_some {encoder : Encoder} {list : List UInt32} (h : encoder.frameList = some list)
    (settings : Settings) (codec : Codec) :
    ∃ codecs, encoder.prepare settings codec = { encoder with codecs } := by
  unfold Encoder.prepare
  split_ifs
  · exact ⟨encoder.codecs, rfl⟩
  · exact ⟨codec :: encoder.codecs, by simp [Encoder.initFrames, h]⟩

theorem prepare_of_none {encoder : Encoder} (h : encoder.frameList = none) (hcodecs : encoder.codecs = [])
    (settings : Settings) (codec : Codec) :
    encoder.prepare settings codec =
      { fps := 16, maxFps := 32, frameAck := settings.surfaceFrameMarkerEnabled, frameId := 0, frameList := some [],
        codecs := [codec] } := by
  simp [Encoder.prepare, Encoder.initFrames, h, hcodecs]

theorem sendFrame_of_some {list : List UInt32} (h : connection.encoder.frameList = some list) (settings : Settings)
    (messages : Nat) (frameId : UInt32) :
    ∃ codecs, connection.sendFrame settings messages frameId =
      { connection with
        encoder := { connection.encoder with codecs }
        used := connection.used ++
          if connection.encoder.frameAck then connection.frameBits settings messages frameId else [] } := by
  unfold Connection.sendFrame
  cases hcodec : settings.codec with
  | none => exact ⟨connection.encoder.codecs, by simp [Connection.frameBits, Settings.numMessages, hcodec]⟩
  | some codec =>
    obtain ⟨codecs, heq⟩ := prepare_of_some h settings codec
    exact ⟨codecs, by simp [heq]⟩

theorem sendSurfaceBits_of_begin {begun : Connection} {frameId : UInt32} {list : List UInt32} {allocated : Bool}
    (hbegin : connection.beginFrame allocated = (frameId, begun)) (hlist : begun.encoder.frameList = some list)
    (settings : Settings) (messages : Nat) :
    ∃ codecs, connection.sendSurfaceBits settings allocated messages =
      { begun with
        encoder := { begun.encoder with codecs }
        calls := begun.calls + 1
        used := begun.used ++ if begun.encoder.frameAck then begun.frameBits settings messages frameId else [] } := by
  obtain ⟨codecs, heq⟩ := sendFrame_of_some hlist settings messages frameId
  refine ⟨codecs, ?_⟩
  rw [Connection.sendSurfaceBits, hbegin]
  simp [heq]

section

variable (hack : connection.encoder.frameAck = true) (hlist : connection.encoder.frameList = some connection.issued)
  (settings : Settings) (messages : Nat)

include hack hlist

theorem sendSurfaceBits_issued :
    let frameId := connection.encoder.frameId + 1
    ∃ fps codecs, connection.sendSurfaceBits settings true messages =
      { connection with
        encoder :=
          { connection.encoder with fps, codecs, frameId, frameList := some (connection.issued ++ [frameId]) }
        calls := connection.calls + 1
        issued := connection.issued ++ [frameId]
        readings := connection.readings ++ [⟨connection.issued.length, connection.outstanding⟩]
        used := connection.used ++
          { connection with issued := connection.issued ++ [frameId] }.frameBits settings messages frameId } := by
  intro frameId
  have hbegin : connection.beginFrame true = (frameId,
      { connection with
        encoder :=
          { connection.encoder with
            fps := connection.encoder.setFps.fps
            frameId := frameId
            frameList := some (connection.issued ++ [frameId]) }
        issued := connection.issued ++ [frameId]
        readings := connection.readings ++ [⟨connection.issued.length, connection.outstanding⟩] }) := by
    simp [Connection.beginFrame, hack, Encoder.createFrameId, Encoder.setFps, Encoder.inFlight, hlist, frameId]
  obtain ⟨codecs, heq⟩ := sendSurfaceBits_of_begin hbegin rfl settings messages
  refine ⟨connection.encoder.setFps.fps, codecs, heq.trans ?_⟩
  simp only [hack, if_true]
  rfl

theorem sendSurfaceBits_unissued :
    ∃ fps codecs, connection.sendSurfaceBits settings false messages =
      { connection with
        encoder := { connection.encoder with fps, codecs }
        calls := connection.calls + 1
        readings := connection.readings ++ [⟨connection.issued.length, connection.outstanding⟩]
        used := connection.used ++ connection.frameBits settings messages 0xFFFFFFFF } := by
  have hbegin : connection.beginFrame false = (0xFFFFFFFF,
      { connection with
        encoder := { connection.encoder with fps := connection.encoder.setFps.fps }
        readings := connection.readings ++ [⟨connection.issued.length, connection.outstanding⟩] }) := by
    simp [Connection.beginFrame, hack, Encoder.createFrameId, Encoder.setFps, Encoder.inFlight, hlist]
  obtain ⟨codecs, heq⟩ := sendSurfaceBits_of_begin hbegin hlist settings messages
  refine ⟨connection.encoder.setFps.fps, codecs, heq.trans ?_⟩
  simp only [hack, if_true]
  rfl

end

theorem sendSurfaceBits_plain (hack : connection.encoder.frameAck = false) {list : List UInt32}
    (hlist : connection.encoder.frameList = some list) (settings : Settings) (allocated : Bool) (messages : Nat) :
    ∃ codecs, connection.sendSurfaceBits settings allocated messages =
      { connection with encoder := { connection.encoder with codecs }, calls := connection.calls + 1 } := by
  have hbegin : connection.beginFrame allocated = (0, connection) := by simp [Connection.beginFrame, hack]
  obtain ⟨codecs, heq⟩ := sendSurfaceBits_of_begin hbegin hlist settings messages
  exact ⟨codecs, heq.trans (by simp [hack])⟩

theorem sendSurfaceBits_first (hlist : connection.encoder.frameList = none)
    (hack : connection.encoder.frameAck = false) (hcodecs : connection.encoder.codecs = []) (settings : Settings)
    (allocated : Bool) (messages : Nat) :
    connection.sendSurfaceBits settings allocated messages =
      match settings.codec with
      | none => { connection with calls := connection.calls + 1 }
      | some codec =>
        { connection with
          encoder :=
            { fps := 16, maxFps := 32, frameAck := settings.surfaceFrameMarkerEnabled, frameId := 0,
              frameList := some [], codecs := [codec] }
          calls := connection.calls + 1
          used := connection.used ++
            if settings.surfaceFrameMarkerEnabled then connection.frameBits settings messages 0 else [] } := by
  have hbegin : connection.beginFrame allocated = (0, connection) := by simp [Connection.beginFrame, hack]
  rw [Connection.sendSurfaceBits, hbegin]
  simp only [Connection.sendFrame]
  cases settings.codec with
  | none => rfl
  | some codec => simp [prepare_of_none hlist hcodecs]

end

section

variable {connection : Connection} {settings : Settings} {messages : Nat} {frameId : UInt32}

theorem mem_frameBits {bits : FrameBits} (h : bits ∈ connection.frameBits settings messages frameId) :
    bits.call = connection.calls ∧ bits.frameId = frameId ∧ bits.issued = decide (frameId ∈ connection.issued) := by
  obtain ⟨i, -, rfl⟩ := mem_map.mp h
  exact ⟨rfl, rfl, rfl⟩

theorem exists_mem_frameBits (connection : Connection) (frameId : UInt32) (h : settings.numMessages messages ≠ 0) :
    ∃ bits, bits ∈ connection.frameBits settings messages frameId :=
  ⟨_, mem_map_of_mem (mem_range.mpr (Nat.pos_of_ne_zero h))⟩

theorem sound_append_iff {used : List FrameBits} (hused : Sound used)
    (hfresh : frameId ∈ connection.issued → ∀ bits ∈ used, bits.frameId ≠ frameId) :
    Sound (used ++ connection.frameBits settings messages frameId) ↔
      settings.numMessages messages = 0 ∨ frameId ∈ connection.issued := by
  constructor
  · intro h
    by_contra hnone
    obtain ⟨hsome, hissued⟩ := not_or.mp hnone
    obtain ⟨bits, hmem⟩ := exists_mem_frameBits connection frameId hsome
    have hflag := h.issued bits (mem_append_right used hmem)
    rw [(mem_frameBits hmem).2.2] at hflag
    exact hissued (of_decide_eq_true hflag)
  · intro h
    rcases h with hnone | hissued
    · simpa [Connection.frameBits, hnone] using hused
    · have hnew := fun bits (hmem : bits ∈ connection.frameBits settings messages frameId) => mem_frameBits hmem
      constructor
      · intro bits hmem
        rcases mem_append.mp hmem with hold | hbits
        · exact hused.issued bits hold
        · rw [(hnew bits hbits).2.2]
          exact decide_eq_true hissued
      · intro bits hmem other hother heq
        rcases mem_append.mp hmem with hold | hbits <;> rcases mem_append.mp hother with hold' | hbits'
        · exact hused.once bits hold other hold' heq
        · exact (hfresh hissued bits hold (heq.trans (hnew other hbits').2.1)).elim
        · exact (hfresh hissued other hold' (heq.symm.trans (hnew bits hbits).2.1)).elim
        · rw [(hnew bits hbits).1, (hnew other hbits').1]

end

/-! ## The invariant -/

namespace Connection.Numbered

variable {connection : Connection}

section

variable (h : connection.Numbered) (hroom : connection.Room) {frameId : UInt32}

include h hroom

theorem toNat_le (hmem : frameId ∈ connection.issued) : frameId.toNat ≤ connection.issued.length := by
  rw [h.issued] at hmem
  obtain ⟨i, hi, rfl⟩ := mem_map.mp hmem
  have hlt := mem_range.mp hi
  have hroom : connection.issued.length + 1 < 2 ^ 32 := hroom
  rw [UInt32.toNat_ofNat_of_lt' (by change i + 1 < 2 ^ 32; omega)]
  omega

theorem not_mem_of_lt (hlt : connection.issued.length < frameId.toNat) : frameId ∉ connection.issued := by
  intro hmem
  have hle := h.toNat_le hroom hmem
  omega

end

theorem init : Numbered {} := ⟨rfl, .inr ⟨rfl, rfl, rfl, rfl⟩, by simp⟩

variable (h : connection.Numbered)

include h

theorem used_append {issued : List UInt32} (hsub : connection.issued ⊆ issued)
    (settings : Settings) (messages : Nat) (frameId : UInt32) :
    ∀ bits ∈ connection.used ++ { connection with issued }.frameBits settings messages frameId,
      (bits.issued = true → bits.frameId ∈ issued) ∧ bits.call < connection.calls + 1 := by
  intro bits hmem
  rcases mem_append.mp hmem with hold | hnew
  · obtain ⟨hissued, hcall⟩ := h.used bits hold
    exact ⟨fun hflag => hsub (hissued hflag), by omega⟩
  · obtain ⟨hcall, hid, hflag⟩ := mem_frameBits hnew
    rw [hcall, hid, hflag]
    exact ⟨of_decide_eq_true, Nat.lt_succ_self _⟩

theorem used_succ : ∀ bits ∈ connection.used,
    (bits.issued = true → bits.frameId ∈ connection.issued) ∧ bits.call < connection.calls + 1 := by
  intro bits hmem
  obtain ⟨hissued, hcall⟩ := h.used bits hmem
  exact ⟨hissued, by omega⟩

theorem sendSurfaceBits (settings : Settings) (allocated : Bool) (messages : Nat) :
    (connection.sendSurfaceBits settings allocated messages).Numbered := by
  rcases h.frames with ⟨hlist, hid⟩ | ⟨hlist, hack, hcodecs, hissued⟩
  · cases hack : connection.encoder.frameAck with
    | false =>
      obtain ⟨codecs, heq⟩ := sendSurfaceBits_plain hack hlist settings allocated messages
      rw [heq]
      exact ⟨h.issued, .inl ⟨hlist, hid⟩, h.used_succ⟩
    | true =>
      cases allocated with
      | false =>
        obtain ⟨fps, codecs, heq⟩ := sendSurfaceBits_unissued hack hlist settings messages
        rw [heq]
        exact ⟨h.issued, .inl ⟨hlist, hid⟩, h.used_append (.refl _) settings messages _⟩
      | true =>
        obtain ⟨fps, codecs, heq⟩ := sendSurfaceBits_issued hack hlist settings messages
        rw [heq]
        have hnext : connection.encoder.frameId + 1 = .ofNat (connection.issued.length + 1) := by
          rw [hid, UInt32.ofNat_add]
          rfl
        refine ⟨?_, .inl ⟨rfl, ?_⟩, h.used_append (subset_append_left _ _) settings messages _⟩
        · change connection.issued ++ [_] = _
          simp only [length_append, length_singleton, range_succ, map_append, map_singleton]
          rw [← h.issued, hnext]
        · simp only [length_append, length_singleton]
          exact hnext
  · rw [sendSurfaceBits_first hlist hack hcodecs]
    cases settings.codec with
    | none => exact ⟨h.issued, .inr ⟨hlist, hack, hcodecs, hissued⟩, h.used_succ⟩
    | some codec =>
      refine ⟨h.issued, .inl ⟨?_, ?_⟩, ?_⟩
      · rw [hissued]
      · rw [hissued]
        rfl
      · dsimp only
        split_ifs
        · exact h.used_append (.refl _) settings messages _
        · rw [append_nil]
          exact h.used_succ

theorem step (event : Event) : (connection.step event).Numbered := by
  cases event with
  | sendSurfaceBits settings allocated messages => exact h.sendSurfaceBits settings allocated messages
  | surfaceFrameAcknowledge frameId => exact ⟨h.issued, h.frames, h.used⟩

end Connection.Numbered

/-! ## One call -/

namespace Connection

variable {connection : Connection}

theorem counted_iff : connection.issued.length = connection.outstanding ↔
    ∀ frameId ∈ connection.issued, frameId ∉ connection.acknowledged := by
  rw [outstanding, eq_comm, length_filter_eq_length_iff]
  simp

theorem flowControlled_numbered_iff (hgood : connection.FlowControlled) {other : Connection} {new : List FrameBits}
    (hreadings : other.readings = connection.readings ++ [⟨connection.issued.length, connection.outstanding⟩])
    (hused : other.used = connection.used ++ new) :
    other.FlowControlled ↔ Sound (connection.used ++ new) ∧
      ∀ frameId ∈ connection.issued, frameId ∉ connection.acknowledged := by
  rw [← counted_iff]
  constructor
  · intro h
    refine ⟨hused ▸ h.sound, ?_⟩
    have hlast := h.counted ⟨connection.issued.length, connection.outstanding⟩ (by simp [hreadings])
    exact hlast
  · intro h
    refine ⟨hused ▸ h.1, fun reading hmem => ?_⟩
    rw [hreadings] at hmem
    rcases mem_append.mp hmem with hold | hnew
    · exact hgood.counted reading hold
    · obtain rfl := mem_singleton.mp hnew
      exact h.2

variable (h : connection.Numbered) (hroom : connection.Room) (hgood : connection.FlowControlled)

include h hroom hgood

theorem flowControlled_sendSurfaceBits_iff (settings : Settings) (allocated : Bool) (messages : Nat) :
    (connection.sendSurfaceBits settings allocated messages).FlowControlled ↔
      connection.Conforms (.sendSurfaceBits settings allocated messages) := by
  have hroomLt : connection.issued.length + 1 < 2 ^ 32 := hroom
  simp only [Conforms]
  rcases h.frames with ⟨hlist, hid⟩ | ⟨hlist, hack, hcodecs, hissued⟩
  · cases hack : connection.encoder.frameAck with
    | false =>
      obtain ⟨codecs, heq⟩ := sendSurfaceBits_plain hack hlist settings allocated messages
      rw [heq]
      exact iff_of_true ⟨hgood.sound, hgood.counted⟩ (by simp [hlist])
    | true =>
      rw [if_pos rfl]
      cases allocated with
      | false =>
        obtain ⟨fps, codecs, heq⟩ := sendSurfaceBits_unissued hack hlist settings messages
        have hnew : (0xFFFFFFFF : UInt32) ∉ connection.issued := h.not_mem_of_lt hroom (by
          change _ < 4294967295
          omega)
        rw [flowControlled_numbered_iff hgood (by rw [heq]) (by rw [heq]),
          sound_append_iff hgood.sound fun hmem => (hnew hmem).elim]
        simp [hnew]
      | true =>
        obtain ⟨fps, codecs, heq⟩ := sendSurfaceBits_issued hack hlist settings messages
        have hnew : connection.encoder.frameId + 1 ∉ connection.issued := h.not_mem_of_lt hroom (by
          rw [hid, UInt32.toNat_add, UInt32.toNat_ofNat_of_lt' (by change _ < 2 ^ 32; omega)]
          change _ < (_ + 1) % 2 ^ 32
          rw [Nat.mod_eq_of_lt (by omega)]
          omega)
        have hfresh : ∀ bits ∈ connection.used, bits.frameId ≠ connection.encoder.frameId + 1 := by
          intro bits hmem hsame
          exact hnew (hsame ▸ (h.used bits hmem).1 (hgood.sound.issued bits hmem))
        rw [flowControlled_numbered_iff hgood (by rw [heq]) (by rw [heq]), sound_append_iff hgood.sound fun _ => hfresh]
        simp
  · rw [sendSurfaceBits_first hlist hack hcodecs, hack, if_neg Bool.false_ne_true]
    cases hcodec : settings.codec with
    | none => exact iff_of_true ⟨hgood.sound, hgood.counted⟩ fun _ _ => by simp [Settings.numMessages, hcodec]
    | some codec =>
      cases hmarker : settings.surfaceFrameMarkerEnabled with
      | false => exact iff_of_true ⟨by simpa using hgood.sound, hgood.counted⟩ fun _ h => (Bool.false_ne_true h).elim
      | true =>
        -- No id has been issued yet.
        have hzero : (0 : UInt32) ∉ connection.issued := by simp [hissued]
        have hsound : Sound (connection.used ++ connection.frameBits settings messages 0) ↔
            settings.numMessages messages = 0 ∨ 0 ∈ connection.issued :=
          sound_append_iff hgood.sound fun hmem => (hzero hmem).elim
        constructor
        · exact fun hall _ _ => (hsound.mp (by simpa using hall.sound)).resolve_right hzero
        · exact fun hnone => ⟨by simpa using hsound.mpr (.inl (hnone hlist rfl)), hgood.counted⟩

theorem flowControlled_step_iff (event : Event) :
    (connection.step event).FlowControlled ↔ connection.Conforms event := by
  cases event with
  | sendSurfaceBits settings allocated messages =>
    exact flowControlled_sendSurfaceBits_iff h hroom hgood settings allocated messages
  | surfaceFrameAcknowledge frameId => exact iff_of_true ⟨hgood.sound, hgood.counted⟩ trivial

end Connection

/--
As long as the id counter has not gone round, the flow control of a run is right at every moment if and only if every
call met what it needs.
-/
theorem flowControlled_iff (events : List Event)
    (hroom : Along Connection.step (fun connection _ => connection.Room) {} events) :
    (∀ j, ((events.take j).foldl Connection.step {}).FlowControlled) ↔
      Along Connection.step Connection.Conforms {} events :=
  Along.always_iff_of Connection.FlowControlled (fun _ event h _ => h.step event)
    (fun _ event h hroom hgood => Connection.flowControlled_step_iff h hroom hgood event) Connection.Numbered.init
    ⟨⟨by simp, by simp⟩, by simp⟩ hroom

/-- An empty frame, and then one that RemoteFX makes two messages of. -/
theorem flowControlled_iff_two_frames :
    let settings : Settings := ⟨true, false, true⟩
    let events : List Event := [.sendSurfaceBits settings true 0, .sendSurfaceBits settings true 2]
    (∀ j, ((events.take j).foldl Connection.step {}).FlowControlled) ∧
      (events.foldl Connection.step {}).used = [⟨1, true, false, 1, true⟩, ⟨1, false, true, 1, true⟩] :=
  ⟨(flowControlled_iff _ (by decide)).mpr (by decide), by decide⟩

/-- The first frame of a client that acknowledges frames has an id that was not issued, and a frame that the client has
acknowledged is still counted when the next one is sent. -/
theorem not_flowControlled_first_or_acknowledged :
    let settings : Settings := ⟨true, false, true⟩
    let events : List Event :=
      [.sendSurfaceBits settings true 0, .sendSurfaceBits settings true 1, .surfaceFrameAcknowledge 1,
       .sendSurfaceBits settings true 1]
    ¬(Connection.step {} (.sendSurfaceBits settings true 1)).FlowControlled ∧
      ¬(events.foldl Connection.step {}).FlowControlled := by
  refine ⟨fun h => ?_, fun h => ?_⟩
  · have hissued := h.sound.issued ⟨0, true, true, 0, false⟩ (by decide)
    cases hissued
  · have hcounted := h.counted ⟨1, 0⟩ (by decide)
    cases hcounted

end FreeRDS.Core.FrameFlow
