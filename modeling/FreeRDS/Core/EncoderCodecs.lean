import FreeRDS.Core.FrameFlow
import Mathlib.Logic.Function.Basic

/-! # The codecs of the encoder

The encoder makes the context of a codec when the codec is first needed, and makes all of them anew when the desktop has
changed. The list of the frames is shared by two of the codecs, each of which frees it.
-/

namespace FreeRDS.Core.FrameFlow

/-- The codecs that the bits of a mask stand for. -/
inductive EncoderCodec
  | remoteFx | nsCodec | planar | interleaved
  deriving DecidableEq

namespace EncoderCodec

/-- In the order in which they are prepared and released. -/
def all : List EncoderCodec := [.remoteFx, .nsCodec, .planar, .interleaved]

def hasFrames (codec : EncoderCodec) : Bool := codec = .remoteFx || codec = .nsCodec

end EncoderCodec

/-- `rdsEncoder` with the mask of its codecs, which takes the place of `frames.codecs`. -/
structure CodecEncoder where
  frames : Encoder := {}
  /-- Whether there is a context. -/
  context : EncoderCodec → Bool := fun _ => false
  codecs : EncoderCodec → Bool := fun _ => false

namespace CodecEncoder

variable (settings : Settings)

/-- `freerds_encoder_init_rfx` and its like, with memory for what they allocate. -/
def init (codec : EncoderCodec) (encoder : CodecEncoder) : CodecEncoder where
  frames := if codec.hasFrames then encoder.frames.initFrames settings else encoder.frames
  context := Function.update encoder.context codec true
  codecs := Function.update encoder.codecs codec true

/-- `freerds_encoder_uninit_rfx` and its like. -/
def uninit (codec : EncoderCodec) (encoder : CodecEncoder) : CodecEncoder where
  frames :=
    { encoder.frames with
      frameId := if codec = .remoteFx then 0 else encoder.frames.frameId
      frameList := if codec.hasFrames then none else encoder.frames.frameList }
  context := Function.update encoder.context codec false
  codecs := Function.update encoder.codecs codec false

/-- `freerds_encoder_prepare`. -/
def prepare (codecs : EncoderCodec → Bool) (encoder : CodecEncoder) : CodecEncoder :=
  EncoderCodec.all.foldl (fun encoder codec =>
    if codecs codec && !encoder.codecs codec then encoder.init settings codec else encoder) encoder

variable (encoder : CodecEncoder)

/-- `freerds_encoder_uninit`, without the grid and the stream. -/
def uninitCodecs : CodecEncoder :=
  EncoderCodec.all.foldl (fun encoder codec => if encoder.codecs codec then encoder.uninit codec else encoder) encoder

/-- `freerds_encoder_reset`. -/
def reset : CodecEncoder :=
  encoder.uninitCodecs.prepare settings encoder.codecs

/-- A frame cannot be numbered without the list. -/
def beginFrame (allocated : Bool) (encoder : CodecEncoder) : Option CodecEncoder :=
  if !encoder.frames.frameAck then some encoder
  else if encoder.frames.frameList.isNone then none
  else some { encoder with frames := (encoder.frames.createFrameId allocated).2 }

/-- What `freerds_send_surface_bits` does to the encoder. -/
def sendSurfaceBits (allocated : Bool) (encoder : CodecEncoder) : Option CodecEncoder := do
  let encoder ← encoder.beginFrame allocated
  match settings.codec with
  | some .remoteFx => encoder.prepare settings (· = EncoderCodec.remoteFx)
  | some .nsc => encoder.prepare settings (· = EncoderCodec.nsCodec)
  | none => encoder

inductive Operation
  | prepare (settings : Settings) (codecs : EncoderCodec → Bool)
  | reset (settings : Settings)
  | sendSurfaceBits (settings : Settings) (allocated : Bool)
  | surfaceFrameAcknowledge (frameId : UInt32)

/-- The frame that the client acknowledges is looked for in the list of the connection. -/
def step : Operation → Option CodecEncoder
  | .prepare settings codecs => some (encoder.prepare settings codecs)
  | .reset settings => some (encoder.reset settings)
  | .sendSurfaceBits settings allocated => encoder.sendSurfaceBits settings allocated
  | .surfaceFrameAcknowledge _ => some encoder

end CodecEncoder

/-! ## The invariant -/

/-- The rate is in its bounds. -/
def Encoder.Bounded (encoder : Encoder) : Prop :=
  1 ≤ encoder.fps ∧ encoder.fps ≤ encoder.maxFps ∧ encoder.maxFps = 32

theorem Encoder.Bounded.createFrameId {encoder : Encoder} (h : encoder.maxFps = 32) (allocated : Bool) :
    (encoder.createFrameId allocated).2.Bounded := by
  have hquot : (100 : Int) / (encoder.inFlight + 1) ≤ 100 := Int.ediv_le_self _ (by decide)
  have hpos : 0 ≤ (100 : Int) / (encoder.inFlight + 1) := Int.ediv_nonneg (by decide) (by omega)
  have hset : encoder.setFps.Bounded := by
    simp only [Bounded, setFps, h, and_true]
    rw [Int.tdiv_eq_ediv_of_nonneg (by decide : (0 : Int) ≤ 100), Int.tdiv_eq_ediv_of_nonneg (by omega)]
    split_ifs
    · omega
    · omega
  cases allocated <;> exact hset

theorem Encoder.initFrames_cases (settings : Settings) (encoder : Encoder) :
    encoder.frameList.isSome = true ∧ encoder.initFrames settings = encoder ∨
      (encoder.initFrames settings).frameList = some [] ∧ (encoder.initFrames settings).Bounded := by
  unfold initFrames
  split_ifs with hlist
  · exact .inr ⟨rfl, by simp, by simp, rfl⟩
  · exact .inl ⟨Option.isSome_iff_ne_none.mpr (by simpa using hlist), rfl⟩

namespace CodecEncoder

/-- The state while these codecs are still to be prepared. After a reset the list may only come with one of them. -/
structure Prepared (codecs : EncoderCodec → Bool) (encoder : CodecEncoder) : Prop where
  context : encoder.context = encoder.codecs
  frameList : encoder.frames.frameList.isSome = (encoder.codecs .remoteFx || encoder.codecs .nsCodec)
  frameAck : encoder.frames.frameAck = true →
    (encoder.frames.frameList.isSome || codecs .remoteFx || codecs .nsCodec) = true
  bounded : encoder.frames.Bounded

abbrev Consistent (encoder : CodecEncoder) : Prop := Prepared (fun _ => false) encoder

variable {encoder : CodecEncoder} {codecs : EncoderCodec → Bool}

theorem Prepared.init (h : encoder.Prepared codecs) (settings : Settings) (codec : EncoderCodec) :
    (encoder.init settings codec).Prepared codecs := by
  have hlist := h.frameList
  have hack := h.frameAck
  have hcontext : (encoder.init settings codec).context = (encoder.init settings codec).codecs := by
    simp [CodecEncoder.init, h.context]
  rcases Encoder.initFrames_cases settings encoder.frames with ⟨hsome, hsame⟩ | ⟨hnew, hbound⟩
  · refine ⟨hcontext, ?_, ?_, by simpa [CodecEncoder.init, hsame] using h.bounded⟩
    · cases codec <;> simp_all [CodecEncoder.init, EncoderCodec.hasFrames]
    · simp_all [CodecEncoder.init]
  · refine ⟨hcontext, ?_, ?_, ?_⟩
    · cases codec <;> simp_all [CodecEncoder.init, EncoderCodec.hasFrames]
    · cases codec <;> simp_all [CodecEncoder.init, EncoderCodec.hasFrames]
    · unfold CodecEncoder.init
      split_ifs
      exacts [hbound, h.bounded]

theorem prepare_codecs (settings : Settings) (codecs : EncoderCodec → Bool) (encoder : CodecEncoder) :
    (encoder.prepare settings codecs).codecs = fun codec => encoder.codecs codec || codecs codec := by
  funext codec
  cases codec <;> simp only [prepare, EncoderCodec.all, List.foldl] <;> split_ifs <;> simp_all [CodecEncoder.init]

theorem Prepared.prepare (h : encoder.Prepared codecs) (settings : Settings) :
    (encoder.prepare settings codecs).Consistent := by
  have hloop : (encoder.prepare settings codecs).Prepared codecs := by
    refine List.foldlRecOn _ _ h fun encoder hencoder codec _ => ?_
    split_ifs
    exacts [hencoder.init settings codec, hencoder]
  refine ⟨hloop.context, hloop.frameList, fun hack => ?_, hloop.bounded⟩
  have hack := hloop.frameAck hack
  rw [hloop.frameList, prepare_codecs] at hack ⊢
  grind

section

variable (h : encoder.Consistent)

include h

theorem uninitCodecs_eq :
    ∃ frameId, encoder.uninitCodecs =
      { frames := { encoder.frames with frameId, frameList := none } } := by
  have hlist := h.frameList
  obtain ⟨⟨fps, maxFps, frameAck, frameId, frameList, others⟩, context, mask⟩ := encoder
  obtain rfl : context = mask := h.context
  have hnone : ∀ bits : EncoderCodec → Bool, bits .remoteFx = false → bits .nsCodec = false → bits .planar = false →
      bits .interleaved = false → bits = fun _ => false := by
    intro bits _ _ _ _
    funext codec
    cases codec <;> assumption
  refine ⟨if context .remoteFx then 0 else frameId, ?_⟩
  simp only [uninitCodecs, EncoderCodec.all, List.foldl]
  split_ifs <;> simp_all [uninit, EncoderCodec.hasFrames]

theorem Prepared.reset (settings : Settings) :
    (encoder.reset settings).Consistent ∧ (encoder.reset settings).codecs = encoder.codecs := by
  obtain ⟨frameId, heq⟩ := uninitCodecs_eq h
  have hprep : Prepared encoder.codecs { frames := { encoder.frames with frameId, frameList := none } } := by
    refine ⟨rfl, rfl, fun hack => ?_, h.bounded⟩
    simpa [h.frameList] using h.frameAck hack
  unfold CodecEncoder.reset
  rw [prepare_codecs, heq]
  exact ⟨hprep.prepare settings, by simp⟩

theorem Prepared.of_consistent : encoder.Prepared codecs :=
  ⟨h.context, h.frameList, fun hack => by simpa using Or.inl (Or.inl (h.frameAck hack)), h.bounded⟩

theorem Prepared.beginFrame (allocated : Bool) :
    ∃ begun, encoder.beginFrame allocated = some begun ∧ begun.Consistent := by
  unfold CodecEncoder.beginFrame
  cases hack : encoder.frames.frameAck with
  | false => exact ⟨encoder, rfl, h⟩
  | true =>
    have hlist : encoder.frames.frameList.isSome = true := by simpa using h.frameAck hack
    rw [if_neg (by decide), if_neg (by simpa [Option.isSome_iff_ne_none] using hlist)]
    refine ⟨_, rfl, h.context, ?_, ?_, .createFrameId h.bounded.2.2 allocated⟩
    · cases allocated <;> simpa [Encoder.createFrameId, Encoder.setFps] using h.frameList
    · cases allocated <;> simpa [Encoder.createFrameId, Encoder.setFps] using h.frameAck

theorem Prepared.step (operation : Operation) :
    ∃ next, encoder.step operation = some next ∧ next.Consistent := by
  cases operation with
  | prepare settings codecs => exact ⟨_, rfl, h.of_consistent.prepare settings⟩
  | reset settings => exact ⟨_, rfl, (h.reset settings).1⟩
  | sendSurfaceBits settings allocated =>
    obtain ⟨begun, heq, hbegun⟩ := h.beginFrame allocated
    simp only [CodecEncoder.step, CodecEncoder.sendSurfaceBits, heq, Option.bind_eq_bind, Option.bind_some]
    split
    · exact ⟨_, rfl, hbegun.of_consistent.prepare settings⟩
    · exact ⟨_, rfl, hbegun.of_consistent.prepare settings⟩
    · exact ⟨_, rfl, hbegun⟩
  | surfaceFrameAcknowledge frameId => exact ⟨_, rfl, h⟩

theorem Prepared.run (operations : List Operation) :
    ∃ last, operations.foldlM CodecEncoder.step encoder = some last ∧ last.Consistent := by
  induction operations generalizing encoder with
  | nil => exact ⟨encoder, rfl, h⟩
  | cons operation operations ih =>
    obtain ⟨next, heq, hnext⟩ := h.step operation
    rw [List.foldlM_cons, heq]
    exact ih hnext

end

theorem Prepared.new : Consistent {} := ⟨rfl, rfl, by decide, by decide, by decide, rfl⟩

/--
No sequence of operations numbers a frame without the list of the frames. After each of them the bit of a codec is set
if and only if there is a context, there is a list if and only if one of the two codecs with frames is set, and a reset
keeps the codecs.
-/
theorem encoder_codecs_consistent (operations : List Operation) :
    ∃ encoder, operations.foldlM step {} = some encoder ∧
      (∀ codec, encoder.codecs codec = true ↔ encoder.context codec = true) ∧
      (encoder.frames.frameList ≠ none ↔ encoder.codecs .remoteFx = true ∨ encoder.codecs .nsCodec = true) ∧
      ∀ settings, (encoder.reset settings).codecs = encoder.codecs := by
  obtain ⟨encoder, heq, h⟩ := Prepared.new.run operations
  refine ⟨encoder, heq, fun codec => by rw [h.context], ?_, fun settings => (h.reset settings).2⟩
  rw [← Option.isSome_iff_ne_none, h.frameList, Bool.or_eq_true]

/-- The rate stays in its bounds, and so it would with any frames in flight. -/
theorem frame_rate_bounded (operations : List Operation) :
    ∃ encoder, operations.foldlM step {} = some encoder ∧
      (1 ≤ encoder.frames.fps ∧ encoder.frames.fps ≤ encoder.frames.maxFps) ∧
      ∀ frameList allocated,
        let called := ({ encoder.frames with frameList }.createFrameId allocated).2
        1 ≤ called.fps ∧ called.fps ≤ called.maxFps := by
  obtain ⟨encoder, heq, h⟩ := Prepared.new.run operations
  refine ⟨encoder, heq, ⟨h.bounded.1, h.bounded.2.1⟩, fun frameList allocated => ?_⟩
  have hcalled := @Encoder.Bounded.createFrameId { encoder.frames with frameList } h.bounded.2.2 allocated
  exact ⟨hcalled.1, hcalled.2.1⟩

end CodecEncoder

end FreeRDS.Core.FrameFlow
