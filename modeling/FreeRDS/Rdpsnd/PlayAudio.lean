import FreeRDS.Lib.Wire

/-! # Audio from the sink to the client

The sink renders a chunk and sends it to the plugin, which plays it. The stream that receives it has 8192 bytes, and
neither side looks at that, nor at the length of a message.
-/

namespace FreeRDS.Rdpsnd

open Lib Wire

/-- `pa_sample_spec`, with the bytes of all channels' samples. -/
structure SampleSpec where
  rate : Nat
  frameSize : Nat

variable (spec : SampleSpec)

/-- `BLOCK_USEC` in bytes, by `pa_usec_to_bytes`. -/
def SampleSpec.maxRequest : Nat := 30000 * spec.rate / 1000000 * spec.frameSize

/-- What `process_render` requests. -/
def SampleSpec.requestBytes : Nat := min spec.maxRequest (16 * 1024)

variable (skipBytes : Nat) (chunk : List UInt8)

/-- `data_send`: the new `skip_bytes`, and what is played. After a rewind the end of the chunk is cut off. -/
def dataSend : Nat × Option (List UInt8) :=
  if 0 < skipBytes then
    if skipBytes < chunk.length then (0, some (chunk.take (chunk.length - skipBytes)))
    else (skipBytes - chunk.length, none)
  else (skipBytes, some chunk)

/-- `RDPSND_PLUGIN_PLAY_AUDIO_REQUEST`. -/
def playAudioRequest : Nat := 3

/-- The request of `rdpsnd_plugin_api_play_audio`. -/
def playAudio (audio : List UInt8) : List UInt8 := toBytes 2 playAudioRequest ++ toBytes 4 audio.length ++ audio

/-- `freerds_rpc_client_send_message`. -/
def sendMessage (message : List UInt8) : List UInt8 := toBytes 4 (message.length + 4) ++ message

/-- The size of `InboundStream`. -/
def inboundCapacity : Nat := 8192

structure Read where
  offset : Nat
  count : Nat

/-- The reads of `rdpsnd_plugin_handle_play_audio` and of `SendSamples`, whose `src_format` has 4 bytes a frame. -/
def handlePlayAudio (memory : List UInt8) : List Read :=
  let audioSize := ofBytes ((memory.drop 2).take 4)
  let nFrames := audioSize / (2 * 2)
  [⟨2, 4⟩, ⟨6, nFrames * 4⟩]

/-- The reads of `rdpsnd_plugin_message_received`, from a message with what is behind it in the memory. -/
def messageReceived (memory : List UInt8) : List Read :=
  let messageId := ofBytes (memory.take 2)
  ⟨0, 2⟩ :: if messageId = playAudioRequest then handlePlayAudio memory else []

/-- What is sent for the chunk fits into the stream that receives it. -/
def Fits : Prop :=
  ∀ audio ∈ (dataSend skipBytes chunk).2, (sendMessage (playAudio audio)).length ≤ inboundCapacity

def ReadsInside (message behind : List UInt8) : Prop :=
  ∀ read ∈ messageReceived (message ++ behind), read.offset + read.count ≤ message.length

/-- The message has its number, and a request to play audio has the size and as many whole frames as that. -/
def WellFormed (message : List UInt8) : Prop :=
  2 ≤ message.length ∧ (ofBytes (message.take 2) = playAudioRequest →
    6 ≤ message.length ∧ 6 + ofBytes ((message.drop 2).take 4) / 4 * 4 ≤ message.length)

theorem fits_iff :
    Fits skipBytes chunk ↔ chunk.length ≤ skipBytes + 8182 := by
  have hlength (audio : List UInt8) : (sendMessage (playAudio audio)).length = audio.length + 10 := by
    simp [sendMessage, playAudio]
    omega
  simp only [Fits, hlength, inboundCapacity]
  unfold dataSend
  split
  next =>
    split
    next =>
      simp
      omega
    next =>
      simp
      omega
  next =>
    simp
    omega

/-- All chunks fit exactly when the largest does. -/
theorem all_fit_iff (skipBytes : Nat) :
    (∀ chunk : List UInt8, chunk.length ≤ spec.requestBytes → Fits skipBytes chunk) ↔
      spec.requestBytes ≤ skipBytes + 8182 := by
  simp only [fits_iff]
  constructor
  · intro h
    simpa using h (List.replicate spec.requestBytes 0)
  · intro h chunk hchunk
    exact hchunk.trans h

theorem readsInside_iff (message behind : List UInt8) : ReadsInside message behind ↔ WellFormed message := by
  unfold ReadsInside WellFormed messageReceived
  by_cases hid : 2 ≤ message.length
  · rw [List.take_append_of_le_length hid]
    by_cases hrequest : ofBytes (message.take 2) = playAudioRequest
    · by_cases hsize : 6 ≤ message.length
      · have hsame : ((message ++ behind).drop 2).take 4 = (message.drop 2).take 4 := by
          rw [List.drop_append_of_le_length hid, List.take_append_of_le_length (by rw [List.length_drop]; omega)]
        simp [hrequest, handlePlayAudio, hsame]
      · simp [hrequest, handlePlayAudio, hsize]
    · simp [hrequest, hid]
  · simp [hid]

end FreeRDS.Rdpsnd
