import FreeRDS.Fdsapi.Messages
import Mathlib.Algebra.Order.BigOperators.Group.List

/-! # The encoders stay inside of their streams

The size of a stream is computed before anything is written, by functions that do not count what the encoders write:
they have whole strings where an encoder cuts to 16 bits, and other widths in a query response. The sizes are never
too small.
-/

namespace FreeRDS.Fdsapi

open Lib Wire List

@[simp] theorem encodeBOOL_length (boolValue : Int32) : (encodeBOOL boolValue).length = sizeOfBOOL :=
  toBytes_length 1 _

@[simp] theorem encodeUINT16_length (uint16Value : UInt16) : (encodeUINT16 uint16Value).length = sizeOfUINT16 :=
  toBytes_length 2 _

@[simp] theorem encodeUINT32_length (uint32Value : UInt32) : (encodeUINT32 uint32Value).length = sizeOfUINT32 :=
  toBytes_length 4 _

theorem encodeString_length_mod (stringValue : Option CString) :
    (encodeString stringValue).length = 2 + strlen stringValue % 65536 := by
  have hle : strlen stringValue % 65536 ≤ (CString.text stringValue).length := Nat.mod_le _ _
  simp only [encodeString, length_append, encodeUINT16_length, sizeOfUINT16, UInt16.toNat_ofNat',
    length_take]
  omega

theorem encodeString_length_le (stringValue : Option CString) :
    (encodeString stringValue).length ≤ sizeOfString stringValue := by
  rw [encodeString_length_mod, sizeOfString]
  exact Nat.add_le_add_left (Nat.mod_le _ _) 2

theorem encodeString_length {stringValue : Option CString} (h : strlen stringValue ≤ 65535) :
    (encodeString stringValue).length = sizeOfString stringValue := by
  rw [encodeString_length_mod, sizeOfString, Nat.mod_eq_of_lt (Nat.lt_succ_of_le h)]

/-! ## Bodies -/

def Codec.Fits {β : Type} (codec : Codec β) : Prop := ∀ msg, (codec.encode msg).length ≤ codec.sizeOf msg

theorem SessionInfo.fits : SessionInfo.codec.Fits := by
  intro msg
  have hname := encodeString_length_le msg.winStationName
  simp only [codec, length_append, encodeUINT32_length]
  omega

theorem EnumerateSessionsResponse.fits : EnumerateSessionsResponse.codec.Fits := by
  intro msg
  have hsess : (msg.pSessionInfo.flatMap SessionInfo.codec.encode).length ≤
      (msg.pSessionInfo.map SessionInfo.codec.sizeOf).sum := by
    rw [length_flatMap]
    exact sum_le_sum fun session _ => SessionInfo.fits session
  simp only [codec, length_append, encodeBOOL_length]
  split
  · rw [length_append, encodeUINT32_length]
    omega
  · rw [length_nil]
    omega

theorem SessionInfoValue.encode_length_le (infoValue : SessionInfoValue) :
    infoValue.encode.length ≤ infoValue.sizeOf := by
  cases infoValue with
  | bool boolValue => exact (encodeBOOL_length boolValue).le
  | uint16 uint16Value => exact (encodeUINT16_length uint16Value).le
  | uint32 uint32Value => exact (encodeUINT32_length uint32Value).le
  | string stringValue => exact encodeString_length_le stringValue
  | display displayWidth displayHeight colorDepth => simp [encode, sizeOf, sizeOfUINT32]
  | other t h => exact Nat.le_refl 0

theorem QuerySessionInformationResponse.fits : QuerySessionInformationResponse.codec.Fits := by
  intro msg
  have hval := msg.infoValue.encode_length_le
  simp only [codec, length_append, encodeBOOL_length, sizeOfBOOL, sizeOfUINT32]
  split
  · rw [length_append, encodeUINT16_length]
    -- One byte and two are written where four and one are counted.
    simp only [sizeOfUINT16, sizeOfUINT8]
    omega
  · simp

theorem MessageId.fits (id : MessageId) : id.codec.Fits := by
  cases id with
  | enumerateSessionsResponse => exact EnumerateSessionsResponse.fits
  | querySessionInformationResponse => exact QuerySessionInformationResponse.fits
  | virtualChannelOpenRequest | virtualChannelOpenExRequest | virtualChannelCloseRequest =>
    intro msg
    have hname := encodeString_length_le msg.virtualName
    simp only [codec, VirtualChannelOpenRequest.codec, VirtualChannelOpenExRequest.codec,
      VirtualChannelCloseRequest.codec, length_append, encodeUINT32_length]
    omega
  | virtualChannelOpenResponse | virtualChannelOpenExResponse =>
    intro msg
    have hguid := encodeString_length_le msg.channelGuid
    simp only [codec, VirtualChannelOpenResponse.codec, VirtualChannelOpenExResponse.codec, length_append,
      encodeUINT32_length]
    omega
  | authenticateUserRequest =>
    intro msg
    have husername := encodeString_length_le msg.username
    have hpass := encodeString_length_le msg.password
    have hdom := encodeString_length_le msg.domain
    simp only [codec, AuthenticateUserRequest.codec, length_append, encodeUINT32_length]
    omega
  | _ =>
    intro msg
    exact Nat.le_refl _

/-! ## Messages -/

def Message.bytes : Message → List UInt8
  | .known id requestId body => encodeUINT16 id.code ++ encodeUINT16 requestId ++ id.codec.encode body
  | .unknown .. => []

theorem encodeMessage_known (id : MessageId) (requestId : UInt16) (body : id.Body) :
    encodeMessage (.known id requestId body) =
      some ⟨(Message.known id requestId body).size % 2 ^ 32, (Message.known id requestId body).bytes⟩ :=
  rfl

theorem Message.bytes_length_le (msg : Message) : msg.bytes.length ≤ msg.size := by
  cases msg with
  | known id requestId body =>
    have hbody := id.fits body
    simp only [bytes, size, length_append, encodeUINT16_length]
    omega
  | unknown messageId requestId h => exact Nat.zero_le _

/-- No encoder writes over the end of its stream, if the size of the message is less than 2^32. -/
theorem encodeMessage_inside (msg : Message) (hsize : msg.size < 2 ^ 32) :
    ∀ s ∈ encodeMessage msg, s.data.length ≤ s.size := by
  intro s hs
  cases msg with
  | known id requestId body =>
    rw [encodeMessage_known, Option.mem_some] at hs
    subst hs
    rw [Nat.mod_eq_of_lt hsize]
    exact Message.bytes_length_le (.known id requestId body)
  | unknown messageId requestId h => cases hs

/-- An enumeration of one session whose name takes two bytes. -/
theorem encodeMessage_inside_session :
    let sessions : EnumerateSessionsResponse := ⟨1, 1, [⟨3, 0, some ⟨[58, 49], by decide⟩⟩], fun _ => rfl⟩
    ∃ s, encodeMessage (.known .enumerateSessionsResponse 7 sessions) = some s ∧ s.data.length ≤ s.size :=
  ⟨_, rfl, encodeMessage_inside (.known .enumerateSessionsResponse 7 _) (by decide) _ rfl⟩

end FreeRDS.Fdsapi
