import FreeRDS.Lib.Run
import FreeRDS.Rdpsnd.PlayAudio

/-! # Rewinds of the sink

After a rewind the sink renders again what it has rendered before, and as many bytes as were rewound are not sent. They
are counted from chunk to chunk. But it is the end of a chunk that is not sent, where it should be the start.
-/

namespace FreeRDS.Rdpsnd

open Lib

/-- The functions of PulseAudio, for the format of the sink. -/
structure PulseAudio where
  usecToBytes : UInt64 → Nat
  bytesToUsec : Nat → UInt64

/-- The part of `struct context` that rewinds and chunks change. The plugin stays connected. -/
structure Sink where
  timestamp : UInt64
  skipBytes : Nat := 0

variable (pulse : PulseAudio)

namespace Sink

/-- `process_rewind`, with what is rewound. -/
def processRewind (sink : Sink) (rewindNbytes : Nat) (now : UInt64) : Sink × Nat :=
  let inBuffer := pulse.usecToBytes (sink.timestamp - now)
  if rewindNbytes = 0 ∨ sink.timestamp ≤ now ∨ inBuffer = 0 then (sink, 0)
  else
    let rewound := min rewindNbytes inBuffer
    ({ timestamp := sink.timestamp - pulse.bytesToUsec rewound, skipBytes := sink.skipBytes + rewound }, rewound)

/-- A turn of the loop of `process_render`. -/
def processRender (sink : Sink) (chunk : List UInt8) : Sink where
  timestamp := sink.timestamp + pulse.bytesToUsec chunk.length
  skipBytes := (dataSend sink.skipBytes chunk).1

inductive Event where
  | render (chunk : List UInt8)
  | rewind (rewindNbytes : Nat) (now : UInt64)

def step (sink : Sink) : Event → Sink
  | .render chunk => sink.processRender pulse chunk
  | .rewind rewindNbytes now => (sink.processRewind pulse rewindNbytes now).1

/-- The bytes that are handed to `rdpsnd_plugin_api_play_audio`. -/
def played : Sink → List Event → List UInt8
  | _, [] => []
  | sink, .render chunk :: events =>
    (dataSend sink.skipBytes chunk).2.getD [] ++ played (sink.step pulse (.render chunk)) events
  | sink, .rewind rewindNbytes now :: events => played (sink.step pulse (.rewind rewindNbytes now)) events

/-- What is rendered without the first `skip` bytes and, after each rewind, as many bytes as were rewound. -/
def wanted : Nat → Sink → List Event → List UInt8
  | _, _, [] => []
  | skip, sink, .render chunk :: events =>
    chunk.drop skip ++ wanted (skip - chunk.length) (sink.step pulse (.render chunk)) events
  | skip, sink, .rewind rewindNbytes now :: events =>
    wanted (skip + (sink.processRewind pulse rewindNbytes now).2) (sink.step pulse (.rewind rewindNbytes now)) events

/-- It makes no difference on which side the bytes of the chunk are cut off. -/
def Alike (sink : Sink) : Event → Prop
  | .render chunk => chunk.take (chunk.length - sink.skipBytes) = chunk.drop sink.skipBytes
  | .rewind _ _ => True

end Sink

theorem dataSend_eq (skipBytes : Nat) (chunk : List UInt8) :
    (dataSend skipBytes chunk).1 = skipBytes - chunk.length ∧
      (dataSend skipBytes chunk).2.getD [] = chunk.take (chunk.length - skipBytes) := by
  unfold dataSend
  split
  next =>
    split
    next hlt => exact ⟨by omega, rfl⟩
    next hle => exact ⟨rfl, by simp [Nat.sub_eq_zero_of_le (Nat.not_lt.mp hle)]⟩
  next hzero =>
    have hskip : skipBytes = 0 := by omega
    simp [hskip]

namespace Sink

theorem skipBytes_processRewind (sink : Sink) (rewindNbytes : Nat) (now : UInt64) :
    (sink.processRewind pulse rewindNbytes now).1.skipBytes =
      sink.skipBytes + (sink.processRewind pulse rewindNbytes now).2 := by
  simp only [processRewind]
  split <;> rfl

theorem played_eq_wanted_iff (sink : Sink) (events : List Event) :
    played pulse sink events = wanted pulse sink.skipBytes sink events ↔ Along (step pulse) Alike sink events := by
  induction events generalizing sink with
  | nil => exact iff_of_true rfl trivial
  | cons event events ih =>
    cases event with
    | render chunk =>
      obtain ⟨hskip, hplayed⟩ := dataSend_eq sink.skipBytes chunk
      have hlen : (chunk.take (chunk.length - sink.skipBytes)).length = (chunk.drop sink.skipBytes).length := by simp
      have hrest := ih (sink.step pulse (.render chunk))
      rw [played, wanted, hplayed, ← hskip]
      constructor
      · intro h
        obtain ⟨hfront, hback⟩ := List.append_inj h hlen
        exact ⟨hfront, hrest.mp hback⟩
      · rintro ⟨hfront, hback⟩
        exact congrArg₂ _ hfront (hrest.mpr hback)
    | rewind rewindNbytes now =>
      rw [played, wanted, ← skipBytes_processRewind, Along, Alike, true_and]
      exact ih (sink.step pulse (.rewind rewindNbytes now))

end Sink

end FreeRDS.Rdpsnd
