import FreeRDS.Lib.CValue
import FreeRDS.Msgpack.Library
import FreeRDS.Rpc.Message

/-! # The codec of the manager's messages

A message is packed as a msgpack array of its members and unpacked by walking over the elements of an array. The header
of a message is sent apart; of its members only the status of a response is packed here.

An unpack function looks at elements one by one, with nothing but its test of the size to keep it inside of the array.
What it would find behind the array is `beyond`, which may be anything.
-/

namespace FreeRDS.Rpc.Codec

open Lib Msgpack

/-! ## Packing and unpacking of members -/

def packUint32 (value : UInt32) : Item := .uint32 value

/-- `msgpack_pack_cstr`: `NULL` is packed as the empty string. -/
def packCstr (cstr : Option CString) : Item := .raw (CString.text cstr)

def packBool (b : Int32) : Item := .boolean (b ≠ 0)

/-- `msgpack_object_type`. -/
inductive Kind
  | nil | boolean | positiveInteger | negativeInteger | double | raw | array | map
  deriving DecidableEq, Repr

def kind : Object → Kind
  | .nil => .nil
  | .boolean _ => .boolean
  | .positiveInteger _ => .positiveInteger
  | .negativeInteger _ => .negativeInteger
  | .double _ => .double
  | .raw _ => .raw
  | .array _ => .array
  | .map _ => .map

inductive Slot (σ : Type)
  | uint32 (set : UInt32 → σ → σ)
  | cstr (set : Option CString → σ → σ)
  | bool (set : Int32 → σ → σ)

namespace Slot

variable {σ : Type}

def kind : Slot σ → Kind
  | uint32 _ => .positiveInteger
  | cstr _ => .raw
  | bool _ => .boolean

/-- `msgpack_unpack_uint32`, `msgpack_unpack_cstr` and `msgpack_unpack_bool`. -/
def read : Slot σ → Object → Option (σ → σ)
  | uint32 set, .positiveInteger u64 => some (set u64.toUInt32)
  | cstr set, .raw bytes => some (set (CString.ofText bytes))
  | bool set, .boolean value => some (set (if value then 1 else 0))
  | _, _ => none

end Slot

/-- A look at an element: at its type, and if the type is right at the member of the union that goes with it. -/
structure Access where
  index : Nat
  via : Option Kind
  deriving DecidableEq, Repr

/-- What an unpack function returns and leaves in the message, and where it has looked. -/
structure Reading (σ : Type) where
  ok : Bool
  data : σ
  accesses : List Access

section

variable {σ : Type}

def Reading.after (access : Access) (reading : Reading σ) : Reading σ :=
  { reading with accesses := access :: reading.accesses }

/-- Unpacks one member after the other; `elements` are those from `obj` on, and `index` is where `obj` points. -/
def unpackSlots (beyond : Nat → Object) : List (Slot σ) → Nat → List Object → σ → Reading σ
  | [], _, _, data => ⟨true, data, []⟩
  | slot :: slots, index, elements, data =>
    match slot.read (elements.headD (beyond index)) with
    | none => ⟨false, data, [⟨index, none⟩]⟩
    | some set => (unpackSlots beyond slots (index + 1) elements.tail (set data)).after ⟨index, some slot.kind⟩

/-- `RDS_RPC_PACK_FUNC`: what the pack function gives `msgpack_pack_array` and packs then, and what the unpack function
gives `msgpack_unpack_array_min` and unpacks then. -/
structure PackFunc (σ : Type) where
  count : Nat
  items : σ → List Item
  min : Nat
  slots : List (Slot σ)

def PackFunc.pack (func : PackFunc σ) (library : Library) (data : σ) : List UInt8 :=
  library.packArray func.count ++ (func.items data).flatMap library.packItem

/-- `object` is what `msgpack_unpack_next` has found. -/
def PackFunc.unpack (func : PackFunc σ) (beyond : Nat → Object) (object : Option Object) (data : σ) : Reading σ :=
  match object with
  | some (.array elements) =>
    if elements.length < func.min then ⟨false, data, []⟩ else unpackSlots beyond func.slots 0 elements data
  | _ => ⟨false, data, []⟩

end

/-! ## Messages -/

/-- `FDSAPI_CHANNEL_ALLOWED_REQUEST`. -/
structure ChannelAllowedRequest where
  channelName : Option CString
  deriving DecidableEq, Inhabited

def ChannelAllowedRequest.func : PackFunc ChannelAllowedRequest where
  count := 1
  items request := [packCstr request.channelName]
  min := 1
  slots := [.cstr fun value request => { request with channelName := value }]

/-- `FDSAPI_CHANNEL_ALLOWED_RESPONSE`. -/
structure ChannelAllowedResponse where
  status : UInt32
  channelAllowed : Int32
  deriving DecidableEq, Inhabited

def ChannelAllowedResponse.func : PackFunc ChannelAllowedResponse where
  count := 2
  items response := [packUint32 response.status, packBool response.channelAllowed]
  min := 2
  slots :=
    [.uint32 fun value response => { response with status := value },
     .bool fun value response => { response with channelAllowed := value }]

/-- `FDSAPI_HEARTBEAT_REQUEST`. -/
structure HeartbeatRequest where
  heartbeatId : UInt32
  deriving DecidableEq, Inhabited

def HeartbeatRequest.func : PackFunc HeartbeatRequest where
  count := 1
  items request := [packUint32 request.heartbeatId]
  min := 1
  slots := [.uint32 fun value request => { request with heartbeatId := value }]

/-- `FDSAPI_HEARTBEAT_RESPONSE`. -/
structure HeartbeatResponse where
  status : UInt32
  heartbeatId : UInt32
  deriving DecidableEq, Inhabited

def HeartbeatResponse.func : PackFunc HeartbeatResponse where
  count := 2
  items response := [packUint32 response.status, packUint32 response.heartbeatId]
  min := 2
  slots :=
    [.uint32 fun value response => { response with status := value },
     .uint32 fun value response => { response with heartbeatId := value }]

/-- `FDSAPI_LOGON_USER_REQUEST`. -/
structure LogonUserRequest where
  connectionId : UInt32
  user : Option CString
  domain : Option CString
  password : Option CString
  desktopWidth : UInt32
  desktopHeight : UInt32
  colorDepth : UInt32
  clientName : Option CString
  clientAddress : Option CString
  clientBuild : UInt32
  clientProductId : UInt32
  clientHardwareId : UInt32
  clientProtocolType : UInt32
  deriving DecidableEq, Inhabited

def LogonUserRequest.func : PackFunc LogonUserRequest where
  count := 13
  items request := [packUint32 request.connectionId, packCstr request.user, packCstr request.domain,
    packCstr request.password, packUint32 request.desktopWidth, packUint32 request.desktopHeight,
    packUint32 request.colorDepth, packCstr request.clientName, packCstr request.clientAddress,
    packUint32 request.clientBuild, packUint32 request.clientProductId, packUint32 request.clientHardwareId,
    packUint32 request.clientProtocolType]
  min := 13
  slots :=
    [.uint32 fun value request => { request with connectionId := value },
     .cstr fun value request => { request with user := value },
     .cstr fun value request => { request with domain := value },
     .cstr fun value request => { request with password := value },
     .uint32 fun value request => { request with desktopWidth := value },
     .uint32 fun value request => { request with desktopHeight := value },
     .uint32 fun value request => { request with colorDepth := value },
     .cstr fun value request => { request with clientName := value },
     .cstr fun value request => { request with clientAddress := value },
     .uint32 fun value request => { request with clientBuild := value },
     .uint32 fun value request => { request with clientProductId := value },
     .uint32 fun value request => { request with clientHardwareId := value },
     .uint32 fun value request => { request with clientProtocolType := value }]

/-- `FDSAPI_LOGON_USER_RESPONSE`. -/
structure LogonUserResponse where
  status : UInt32
  serviceEndpoint : Option CString
  deriving DecidableEq, Inhabited

def LogonUserResponse.func : PackFunc LogonUserResponse where
  count := 2
  items response := [packUint32 response.status, packCstr response.serviceEndpoint]
  min := 2
  slots :=
    [.uint32 fun value response => { response with status := value },
     .cstr fun value response => { response with serviceEndpoint := value }]

/-- `FDSAPI_LOGOFF_USER_REQUEST`. -/
structure LogoffUserRequest where
  connectionId : UInt32
  deriving DecidableEq, Inhabited

def LogoffUserRequest.func : PackFunc LogoffUserRequest where
  count := 1
  items request := [packUint32 request.connectionId]
  min := 1
  slots := [.uint32 fun value request => { request with connectionId := value }]

/-- `FDSAPI_LOGOFF_USER_RESPONSE`. -/
structure LogoffUserResponse where
  status : UInt32
  connectionId : UInt32
  deriving DecidableEq, Inhabited

def LogoffUserResponse.func : PackFunc LogoffUserResponse where
  count := 2
  items response := [packUint32 response.status, packUint32 response.connectionId]
  min := 2
  slots :=
    [.uint32 fun value response => { response with status := value },
     .uint32 fun value response => { response with connectionId := value }]

/-- `FDSAPI_DISCONNECT_USER_REQUEST`. -/
structure DisconnectUserRequest where
  connectionId : UInt32
  deriving DecidableEq, Inhabited

def DisconnectUserRequest.func : PackFunc DisconnectUserRequest where
  count := 1
  items request := [packUint32 request.connectionId]
  min := 1
  slots := [.uint32 fun value request => { request with connectionId := value }]

/-- `FDSAPI_DISCONNECT_USER_RESPONSE`. -/
structure DisconnectUserResponse where
  status : UInt32
  connectionId : UInt32
  deriving DecidableEq, Inhabited

def DisconnectUserResponse.func : PackFunc DisconnectUserResponse where
  count := 2
  items response := [packUint32 response.status, packUint32 response.connectionId]
  min := 2
  slots :=
    [.uint32 fun value response => { response with status := value },
     .uint32 fun value response => { response with connectionId := value }]

/-- `FDSAPI_SWITCH_SERVICE_ENDPOINT_REQUEST`. -/
structure SwitchServiceEndpointRequest where
  connectionId : UInt32
  serviceEndpoint : Option CString
  deriving DecidableEq, Inhabited

def SwitchServiceEndpointRequest.func : PackFunc SwitchServiceEndpointRequest where
  count := 2
  items request := [packUint32 request.connectionId, packCstr request.serviceEndpoint]
  min := 2
  slots :=
    [.uint32 fun value request => { request with connectionId := value },
     .cstr fun value request => { request with serviceEndpoint := value }]

/-- `FDSAPI_SWITCH_SERVICE_ENDPOINT_RESPONSE`. -/
structure SwitchServiceEndpointResponse where
  status : UInt32
  deriving DecidableEq, Inhabited

def SwitchServiceEndpointResponse.func : PackFunc SwitchServiceEndpointResponse where
  count := 1
  items response := [packUint32 response.status]
  min := 1
  slots := [.uint32 fun value response => { response with status := value }]

/-- `FDSAPI_START_SESSION_REQUEST`. -/
structure StartSessionRequest where
  sessionId : UInt32
  user : Option CString
  domain : Option CString
  password : Option CString
  deriving DecidableEq, Inhabited

def StartSessionRequest.func : PackFunc StartSessionRequest where
  count := 4
  items request := [packUint32 request.sessionId, packCstr request.user, packCstr request.domain,
    packCstr request.password]
  min := 4
  slots :=
    [.uint32 fun value request => { request with sessionId := value },
     .cstr fun value request => { request with user := value },
     .cstr fun value request => { request with domain := value },
     .cstr fun value request => { request with password := value }]

/-- `FDSAPI_START_SESSION_RESPONSE`. -/
structure StartSessionResponse where
  status : UInt32
  serviceEndpoint : Option CString
  deriving DecidableEq, Inhabited

def StartSessionResponse.func : PackFunc StartSessionResponse where
  count := 2
  items response := [packUint32 response.status, packCstr response.serviceEndpoint]
  min := 2
  slots :=
    [.uint32 fun value response => { response with status := value },
     .cstr fun value response => { response with serviceEndpoint := value }]

/-- `FDSAPI_END_SESSION_REQUEST`. -/
structure EndSessionRequest where
  sessionId : UInt32
  deriving DecidableEq, Inhabited

def EndSessionRequest.func : PackFunc EndSessionRequest where
  count := 1
  items request := [packUint32 request.sessionId]
  min := 1
  slots := [.uint32 fun value request => { request with sessionId := value }]

/-- `FDSAPI_END_SESSION_RESPONSE`. -/
structure EndSessionResponse where
  status : UInt32
  sessionId : UInt32
  deriving DecidableEq, Inhabited

def EndSessionResponse.func : PackFunc EndSessionResponse where
  count := 2
  items response := [packUint32 response.status, packUint32 response.sessionId]
  min := 2
  slots :=
    [.uint32 fun value response => { response with status := value },
     .uint32 fun value response => { response with sessionId := value }]

/-- `FDSAPI_CHANNEL_ENDPOINT_OPEN_REQUEST`. -/
structure ChannelEndpointOpenRequest where
  connectionId : UInt32
  channelName : Option CString
  deriving DecidableEq, Inhabited

def ChannelEndpointOpenRequest.func : PackFunc ChannelEndpointOpenRequest where
  count := 2
  items request := [packUint32 request.connectionId, packCstr request.channelName]
  min := 2
  slots :=
    [.uint32 fun value request => { request with connectionId := value },
     .cstr fun value request => { request with channelName := value }]

/-- `FDSAPI_CHANNEL_ENDPOINT_OPEN_RESPONSE`. -/
structure ChannelEndpointOpenResponse where
  status : UInt32
  channelPort : UInt32
  channelGuid : Option CString
  deriving DecidableEq, Inhabited

/-- Three members are unpacked from an array that has at least two elements. -/
def ChannelEndpointOpenResponse.func : PackFunc ChannelEndpointOpenResponse where
  count := 3
  items response := [packUint32 response.status, packUint32 response.channelPort, packCstr response.channelGuid]
  min := 2
  slots :=
    [.uint32 fun value response => { response with status := value },
     .uint32 fun value response => { response with channelPort := value },
     .cstr fun value response => { response with channelGuid := value }]

/-! ## The table of messages -/

/-- The entries of `g_MSG_FUNCS`. -/
inductive MsgType
  | channelAllowedRequest | channelAllowedResponse | heartbeatRequest | heartbeatResponse | logonUserRequest
  | logonUserResponse | logoffUserRequest | logoffUserResponse | disconnectUserRequest
  | disconnectUserResponse | switchServiceEndpointRequest | switchServiceEndpointResponse
  | startSessionRequest | startSessionResponse | endSessionRequest | endSessionResponse
  | channelEndpointOpenRequest | channelEndpointOpenResponse
  deriving DecidableEq, Repr

namespace MsgType

def msgType : MsgType → UInt32
  | .channelAllowedRequest => requestId 1001
  | .channelAllowedResponse => responseId 1001
  | .heartbeatRequest => requestId 1002
  | .heartbeatResponse => responseId 1002
  | .logonUserRequest => requestId 1003
  | .logonUserResponse => responseId 1003
  | .logoffUserRequest => requestId 1004
  | .logoffUserResponse => responseId 1004
  | .disconnectUserRequest => requestId 1005
  | .disconnectUserResponse => responseId 1005
  | .switchServiceEndpointRequest => requestId 1006
  | .switchServiceEndpointResponse => responseId 1006
  | .startSessionRequest => requestId 1007
  | .startSessionResponse => responseId 1007
  | .endSessionRequest => requestId 1008
  | .endSessionResponse => responseId 1008
  | .channelEndpointOpenRequest => requestId 1009
  | .channelEndpointOpenResponse => responseId 1009

@[reducible] def Data : MsgType → Type
  | .channelAllowedRequest => ChannelAllowedRequest
  | .channelAllowedResponse => ChannelAllowedResponse
  | .heartbeatRequest => HeartbeatRequest
  | .heartbeatResponse => HeartbeatResponse
  | .logonUserRequest => LogonUserRequest
  | .logonUserResponse => LogonUserResponse
  | .logoffUserRequest => LogoffUserRequest
  | .logoffUserResponse => LogoffUserResponse
  | .disconnectUserRequest => DisconnectUserRequest
  | .disconnectUserResponse => DisconnectUserResponse
  | .switchServiceEndpointRequest => SwitchServiceEndpointRequest
  | .switchServiceEndpointResponse => SwitchServiceEndpointResponse
  | .startSessionRequest => StartSessionRequest
  | .startSessionResponse => StartSessionResponse
  | .endSessionRequest => EndSessionRequest
  | .endSessionResponse => EndSessionResponse
  | .channelEndpointOpenRequest => ChannelEndpointOpenRequest
  | .channelEndpointOpenResponse => ChannelEndpointOpenResponse

def func : (type : MsgType) → PackFunc type.Data
  | .channelAllowedRequest => ChannelAllowedRequest.func
  | .channelAllowedResponse => ChannelAllowedResponse.func
  | .heartbeatRequest => HeartbeatRequest.func
  | .heartbeatResponse => HeartbeatResponse.func
  | .logonUserRequest => LogonUserRequest.func
  | .logonUserResponse => LogonUserResponse.func
  | .logoffUserRequest => LogoffUserRequest.func
  | .logoffUserResponse => LogoffUserResponse.func
  | .disconnectUserRequest => DisconnectUserRequest.func
  | .disconnectUserResponse => DisconnectUserResponse.func
  | .switchServiceEndpointRequest => SwitchServiceEndpointRequest.func
  | .switchServiceEndpointResponse => SwitchServiceEndpointResponse.func
  | .startSessionRequest => StartSessionRequest.func
  | .startSessionResponse => StartSessionResponse.func
  | .endSessionRequest => EndSessionRequest.func
  | .endSessionResponse => EndSessionResponse.func
  | .channelEndpointOpenRequest => ChannelEndpointOpenRequest.func
  | .channelEndpointOpenResponse => ChannelEndpointOpenResponse.func

/-- `g_MSG_FUNCS`. -/
def table : List MsgType :=
  [.channelAllowedRequest, .channelAllowedResponse, .heartbeatRequest, .heartbeatResponse, .logonUserRequest,
    .logoffUserRequest, .logoffUserResponse, .disconnectUserRequest, .disconnectUserResponse,
    .switchServiceEndpointRequest, .switchServiceEndpointResponse, .logonUserResponse, .startSessionRequest,
    .startSessionResponse, .endSessionRequest, .endSessionResponse, .channelEndpointOpenRequest,
    .channelEndpointOpenResponse]

/-- `freerds_rpc_msg_find_func`. -/
def find (msgType : UInt32) : Option MsgType := table.find? fun type => type.msgType = msgType

end MsgType

/-- What a `void*` points to, as a message of each type. -/
abbrev Memory := (type : MsgType) → type.Data

def zeroMemory : Memory
  | .channelAllowedRequest => (default : ChannelAllowedRequest)
  | .channelAllowedResponse => (default : ChannelAllowedResponse)
  | .heartbeatRequest => (default : HeartbeatRequest)
  | .heartbeatResponse => (default : HeartbeatResponse)
  | .logonUserRequest => (default : LogonUserRequest)
  | .logonUserResponse => (default : LogonUserResponse)
  | .logoffUserRequest => (default : LogoffUserRequest)
  | .logoffUserResponse => (default : LogoffUserResponse)
  | .disconnectUserRequest => (default : DisconnectUserRequest)
  | .disconnectUserResponse => (default : DisconnectUserResponse)
  | .switchServiceEndpointRequest => (default : SwitchServiceEndpointRequest)
  | .switchServiceEndpointResponse => (default : SwitchServiceEndpointResponse)
  | .startSessionRequest => (default : StartSessionRequest)
  | .startSessionResponse => (default : StartSessionResponse)
  | .endSessionRequest => (default : EndSessionRequest)
  | .endSessionResponse => (default : EndSessionResponse)
  | .channelEndpointOpenRequest => (default : ChannelEndpointOpenRequest)
  | .channelEndpointOpenResponse => (default : ChannelEndpointOpenResponse)

/-- `freerds_rpc_msg_pack`. -/
def rpcMsgPack (library : Library) (msgType : UInt32) (data : Memory) : Option (List UInt8) :=
  (MsgType.find msgType).map fun type => type.func.pack library (data type)

/-- `freerds_rpc_msg_unpack`: there is no value if there is no such type, and then it returns `FALSE`. -/
def rpcMsgUnpack (library : Library) (beyond : Nat → Object) (msgType : UInt32) (data : Memory) (buffer : List UInt8)
    (size : UInt32) : Option ((type : MsgType) × Reading type.Data) :=
  (MsgType.find msgType).map fun type =>
    ⟨type, type.func.unpack beyond (library.unpackNext (buffer.take size.toNat)) (data type)⟩

theorem MsgType.find_msgType (type : MsgType) : find type.msgType = some type := by
  cases type <;> rfl

end FreeRDS.Rpc.Codec
