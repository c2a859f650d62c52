import FreeRDS.Fdsapi.RoundTrip
import FreeRDS.Fdsapi.Transport

/-! # Messages of the FDSAPI from end to end -/

namespace FreeRDS.Fdsapi

open Lib List

/-- A message that the server knows, whose strings have lengths of two bytes and that fits into a buffer. -/
def Message.Sendable : Message → Prop
  | .known id requestId body =>
    (∀ s ∈ id.strings body, strlen s ≤ 65535) ∧ (Message.known id requestId body).bytes.length ≤ 8188
  | .unknown .. => False

/-- What is written to the pipe for a message. -/
def sendEncoded (msg : Message) : List UInt8 := (encodeMessage msg).elim [] fun s => sendMessage s.data

def Decodes (received : Received) (msg : Message) : Prop :=
  ∃ decoded, decodeMessage.run received.data = some (decoded, []) ∧ decoded.Same msg

theorem Message.Sendable.decoded {msg : Message} (h : msg.Sendable) :
    sendEncoded msg = sendMessage msg.bytes ∧ Fits msg.bytes ∧
      Decodes (.ofPayload msg.bytes) msg := by
  cases msg with
  | known id requestId body =>
    exact ⟨rfl, Nat.add_le_add_right h.2 4, _, run_decodeMessage id requestId h.1, .known (id.identify_identify body)⟩
  | unknown => exact h.elim

/-- However the bytes of a conversation are cut, each message is decoded as it was, in its turn. -/
theorem conversation_decoded (buffer : Memory UInt8) {messages : List Message}
    (hmessages : ∀ msg ∈ messages, msg.Sendable) {pieces : List (List UInt8)} (hpieces : ∀ piece ∈ pieces, piece ≠ [])
    (hsent : pieces.flatten = messages.flatMap sendEncoded) {n : Nat} (hn : pieces.flatten.length ≤ n) :
    Forall₂ Decodes ((RpcClient.new buffer pieces).turns n).received messages := by
  have hfits : ∀ payload ∈ messages.map Message.bytes, Fits payload := by
    simpa using fun msg hmsg => (hmessages msg hmsg).decoded.2.1
  have hpayloads : pieces.flatten = (messages.map Message.bytes).flatMap sendMessage := by
    rw [hsent, flatMap_map]
    exact flatMap_congr fun msg hmsg => (hmessages msg hmsg).decoded.1
  rw [(RpcClient.received_of_sent (s := .new buffer pieces) hfits hpieces rfl rfl
    ((append_nil _).trans hpayloads)).2 n hn]
  simp only [RpcClient.new, nil_append, hpayloads, arrived_all, map_map, forall₂_map_left_iff]
  exact forall₂_same.mpr fun msg hmsg => (hmessages msg hmsg).decoded.2.2

theorem conversation_decoded_bytes :
    let msg : Message := .known .virtualChannelCloseResponse 7 ⟨1⟩
    let pieces := (sendEncoded msg).map fun byte => [byte]
    Forall₂ Decodes ((RpcClient.new (fun _ => 0) pieces).turns 9).received [msg] :=
  conversation_decoded _ (by simp [Message.Sendable, MessageId.strings]; decide) (by decide) (by decide) (by decide)

end FreeRDS.Fdsapi
