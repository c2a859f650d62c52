import FreeRDS.Rpc.Codec

/-! # Unpacking what was packed

A message comes back from its bytes with the same members, where `NULL` and the empty string count as the same and a
`BOOL` counts as its truth value. The unpack functions are told the number of the bytes in 32 bits, and a message that
takes more does not come back.
-/

namespace FreeRDS.Rpc.Codec

open Lib Msgpack List

namespace MsgType

/-- One message for all that differ in no more than the choice of `NULL` or the empty string and of the number that
stands for `TRUE`. -/
def identify : (type : MsgType) → type.Data → type.Data
  | .channelAllowedRequest, (data : ChannelAllowedRequest) =>
    { data with channelName := CString.identify data.channelName }
  | .channelAllowedResponse, (data : ChannelAllowedResponse) => { data with channelAllowed := truth data.channelAllowed }
  | .logonUserRequest, (data : LogonUserRequest) =>
    { data with
      user := CString.identify data.user
      domain := CString.identify data.domain
      password := CString.identify data.password
      clientName := CString.identify data.clientName
      clientAddress := CString.identify data.clientAddress }
  | .logonUserResponse, (data : LogonUserResponse) =>
    { data with serviceEndpoint := CString.identify data.serviceEndpoint }
  | .switchServiceEndpointRequest, (data : SwitchServiceEndpointRequest) =>
    { data with serviceEndpoint := CString.identify data.serviceEndpoint }
  | .startSessionRequest, (data : StartSessionRequest) =>
    { data with
      user := CString.identify data.user
      domain := CString.identify data.domain
      password := CString.identify data.password }
  | .startSessionResponse, (data : StartSessionResponse) =>
    { data with serviceEndpoint := CString.identify data.serviceEndpoint }
  | .channelEndpointOpenRequest, (data : ChannelEndpointOpenRequest) =>
    { data with channelName := CString.identify data.channelName }
  | .channelEndpointOpenResponse, (data : ChannelEndpointOpenResponse) =>
    { data with channelGuid := CString.identify data.channelGuid }
  | .heartbeatRequest, data | .heartbeatResponse, data | .logoffUserRequest, data | .logoffUserResponse, data
  | .disconnectUserRequest, data | .disconnectUserResponse, data | .switchServiceEndpointResponse, data
  | .endSessionRequest, data | .endSessionResponse, data => data

theorem identify_identify (type : MsgType) (data : type.Data) :
    type.identify (type.identify data) = type.identify data := by
  cases type with
  | heartbeatRequest | heartbeatResponse | logoffUserRequest | logoffUserResponse | disconnectUserRequest
  | disconnectUserResponse | switchServiceEndpointResponse | endSessionRequest | endSessionResponse => rfl
  | _ => simp [identify, Data]

end MsgType

/-! ## Members -/

section

variable {σ : Type} (beyond : Nat → Object) (slots : List (Slot σ)) (index : Nat) (elements : List Object) (data : σ)

@[simp] theorem Reading.after_ok (access : Access) (reading : Reading σ) : (reading.after access).ok = reading.ok := rfl

@[simp] theorem Reading.after_data (access : Access) (reading : Reading σ) :
    (reading.after access).data = reading.data := rfl

theorem unpackSlots_uint32 (set : UInt32 → σ → σ) (value : UInt32) :
    unpackSlots beyond (.uint32 set :: slots) index ((packUint32 value).object :: elements) data =
      (unpackSlots beyond slots (index + 1) elements (set value data)).after ⟨index, some .positiveInteger⟩ := by
  simp [unpackSlots, packUint32, Item.object, Slot.read, Slot.kind]

theorem unpackSlots_cstr (set : Option CString → σ → σ) (cstr : Option CString) :
    unpackSlots beyond (.cstr set :: slots) index ((packCstr cstr).object :: elements) data =
      (unpackSlots beyond slots (index + 1) elements (set (CString.identify cstr) data)).after ⟨index, some .raw⟩ :=
  rfl

theorem unpackSlots_bool (set : Int32 → σ → σ) (b : Int32) :
    unpackSlots beyond (.bool set :: slots) index ((packBool b).object :: elements) data =
      (unpackSlots beyond slots (index + 1) elements (set (truth b) data)).after ⟨index, some .boolean⟩ := by
  simp [unpackSlots, packBool, Item.object, Slot.read, Slot.kind, truth]

theorem PackFunc.unpack_array (func : PackFunc σ) (h : func.min ≤ elements.length) :
    func.unpack beyond (some (.array elements)) data = unpackSlots beyond func.slots 0 elements data :=
  if_neg (Nat.not_lt.mpr h)

end

/-! ## Messages -/

variable (type : MsgType)

theorem MsgType.items_length (data : type.Data) : (type.func.items data).length = type.func.count := by
  cases type <;> rfl

theorem MsgType.min_le : type.func.min ≤ type.func.count := by
  cases type <;> decide

theorem MsgType.unpackSlots_items (beyond : Nat → Object) (message data : type.Data) :
    let reading := unpackSlots beyond type.func.slots 0 ((type.func.items message).map Item.object) data
    reading.ok = true ∧ reading.data = type.identify message := by
  cases type <;>
    simp only [func, ChannelAllowedRequest.func, ChannelAllowedResponse.func, HeartbeatRequest.func,
      HeartbeatResponse.func, LogonUserRequest.func, LogonUserResponse.func, LogoffUserRequest.func,
      LogoffUserResponse.func, DisconnectUserRequest.func, DisconnectUserResponse.func,
      SwitchServiceEndpointRequest.func, SwitchServiceEndpointResponse.func, StartSessionRequest.func,
      StartSessionResponse.func, EndSessionRequest.func, EndSessionResponse.func, ChannelEndpointOpenRequest.func,
      ChannelEndpointOpenResponse.func, map_cons, map_nil, unpackSlots_uint32, unpackSlots_cstr,
      unpackSlots_bool, Reading.after_ok, Reading.after_data] <;>
    exact ⟨rfl, rfl⟩

theorem MsgType.items_length_lt (data : type.Data) : (type.func.items data).length < 2 ^ 32 := by
  rw [items_length]
  cases type <;> decide

theorem length_le_pack {σ : Type} (func : PackFunc σ) (library : Library) (data : σ) {bytes : List UInt8}
    (h : .raw bytes ∈ func.items data) : bytes.length ≤ (func.pack library data).length := by
  have hsublist : (library.packItem (.raw bytes)).Sublist ((func.items data).flatMap library.packItem) :=
    sublist_flatten_of_mem (mem_map_of_mem h)
  have hle := hsublist.length_le
  simp only [Library.packItem, length_append] at hle
  simp only [PackFunc.pack, length_append]
  omega

/-- A message whose bytes are less than 2^32 comes back from them. -/
theorem rpcMsgUnpack_rpcMsgPack (library : Library) (hlibrary : library.Inverts) (type : MsgType)
    (message data : Memory) (beyond : Nat → Object) :
    ∃ bytes, rpcMsgPack library type.msgType message = some bytes ∧
      (bytes.length < 2 ^ 32 →
        ∃ reading, rpcMsgUnpack library beyond type.msgType data bytes (.ofNat bytes.length) = some ⟨type, reading⟩ ∧
          reading.ok = true ∧ type.identify reading.data = type.identify (message type)) := by
  refine ⟨type.func.pack library (message type), by rw [rpcMsgPack, type.find_msgType]; rfl, ?_⟩
  intro hlen
  have hsize : (UInt32.ofNat (type.func.pack library (message type)).length).toNat =
      (type.func.pack library (message type)).length := UInt32.toNat_ofNat_of_lt' hlen
  have hobject : library.unpackNext (type.func.pack library (message type)) =
      some (.array ((type.func.items (message type)).map Item.object)) := by
    rw [PackFunc.pack, ← type.items_length (message type)]
    apply hlibrary _ (type.items_length_lt _)
    intro bytes hmem
    exact Nat.lt_of_le_of_lt (length_le_pack type.func library (message type) hmem) hlen
  have hmin : type.func.min ≤ ((type.func.items (message type)).map Item.object).length := by
    rw [length_map, type.items_length]
    exact type.min_le
  obtain ⟨hok, hdata⟩ := type.unpackSlots_items beyond (message type) (data type)
  refine ⟨_, by rw [rpcMsgUnpack, type.find_msgType, hsize, take_length, hobject]; rfl, ?_, ?_⟩
  · rw [PackFunc.unpack_array _ _ _ _ hmin, hok]
  · rw [PackFunc.unpack_array _ _ _ _ hmin, hdata, type.identify_identify]

/-- A request to start a session, without a domain. -/
theorem rpcMsgUnpack_rpcMsgPack_startSession :
    let message := Function.update zeroMemory .startSessionRequest
      ⟨123, some ⟨[85, 115, 101, 114], by decide⟩, none, some ⟨[80, 97, 115, 115], by decide⟩⟩
    ∃ bytes reading, rpcMsgPack bundled (requestId 1007) message = some bytes ∧ bytes.length < 2 ^ 32 ∧
      rpcMsgUnpack bundled (fun _ => .nil) (requestId 1007) zeroMemory bytes (.ofNat bytes.length) =
          some ⟨.startSessionRequest, reading⟩ ∧
        reading.ok = true ∧
          MsgType.startSessionRequest.identify reading.data =
            MsgType.startSessionRequest.identify (message .startSessionRequest) := by
  intro message
  obtain ⟨bytes, hpack, hback⟩ :=
    rpcMsgUnpack_rpcMsgPack bundled bundled_inverts .startSessionRequest message zeroMemory fun _ => .nil
  have hlen : (rpcMsgPack bundled (requestId 1007) message).map length = some 13 := by decide
  have hsome : rpcMsgPack bundled (requestId 1007) message = some bytes := hpack
  rw [hsome, Option.map_some, Option.some.injEq] at hlen
  have hlt : bytes.length < 2 ^ 32 := by omega
  obtain ⟨reading, hunpack, hsame⟩ := hback hlt
  exact ⟨bytes, reading, hpack, hlt, hunpack, hsame⟩

theorem unpackNext_pack_long {name : CString} (h : name.bytes.length = 2 ^ 32 - 1) {bytes : List UInt8}
    (hbytes : bytes = ChannelAllowedRequest.func.pack bundled ⟨some name⟩) :
    unpackNext (bytes.take (UInt32.ofNat bytes.length).toNat) = none := by
  have hraw : packRaw name.bytes.length = [0xdb, 0xff, 0xff, 0xff, 0xff] := by
    rw [h]
    decide
  have hpack : bytes = [0x91, 0xdb, 0xff, 0xff, 0xff, 0xff] ++ name.bytes := by
    rw [hbytes]
    change packArray 1 ++ (packRaw name.bytes.length ++ name.bytes ++ []) = _
    rw [hraw, append_nil]
    rfl
  have hlen : bytes.length = 2 ^ 32 + 5 := by
    rw [hpack, length_append, h]
    simp
  have hsize : (UInt32.ofNat bytes.length).toNat = 5 := by
    rw [hlen]
    decide
  rw [hsize, hpack]
  rfl

theorem unpack_pack_long {name : CString} (h : name.bytes.length = 2 ^ 32 - 1) :
    ∃ bytes reading,
      rpcMsgPack bundled (requestId 1001) (Function.update zeroMemory .channelAllowedRequest ⟨some name⟩) = some bytes ∧
        rpcMsgUnpack bundled (fun _ => .nil) (requestId 1001) zeroMemory bytes (.ofNat bytes.length) =
            some ⟨.channelAllowedRequest, reading⟩ ∧
          reading.ok = false := by
  have hfind : MsgType.find (requestId 1001) = some .channelAllowedRequest := rfl
  refine ⟨ChannelAllowedRequest.func.pack bundled ⟨some name⟩, ⟨false, zeroMemory .channelAllowedRequest, []⟩, ?_, ?_, rfl⟩
  · rw [rpcMsgPack, hfind, Option.map_some, Function.update_self]
    rfl
  · have hnone := unpackNext_pack_long h rfl
    rw [rpcMsgUnpack, hfind, Option.map_some, show bundled.unpackNext = unpackNext from rfl, hnone]
    rfl

/-- The name of a channel that is 2^32 - 1 times the letter `a`. -/
theorem rpcMsgUnpack_long_name :
    bundled.Inverts ∧ ∃ name : CString, ∃ bytes reading,
      rpcMsgPack bundled (requestId 1001) (Function.update zeroMemory .channelAllowedRequest ⟨some name⟩) = some bytes ∧
        rpcMsgUnpack bundled (fun _ => .nil) (requestId 1001) zeroMemory bytes (.ofNat bytes.length) =
            some ⟨.channelAllowedRequest, reading⟩ ∧
          reading.ok = false := by
  have hname : 0 ∉ replicate (2 ^ 32 - 1) (97 : UInt8) := by
    rw [mem_replicate]
    exact fun h => absurd h.2 (by decide)
  exact ⟨bundled_inverts, ⟨_, hname⟩, unpack_pack_long length_replicate⟩

end FreeRDS.Rpc.Codec
