import Mathlib.Tactic.Common

/-! # Messages between the manager and freerds

A message is a header and a msgpack object. The pack functions are those of the
SwitchServiceEndpoint request and response; an unpack function that fails part of the
way keeps what it has already written.
-/

namespace FreeRDS.Rpc

/-- `FDSAPI_REQUEST_ID`. -/
def requestId (id : UInt32) : UInt32 := id &&& ~~~0x80000000

/-- `FDSAPI_RESPONSE_ID`. -/
def responseId (id : UInt32) : UInt32 := id ||| 0x80000000

/-- `FDSAPI_IS_RESPONSE_ID`. -/
def isResponseId (id : UInt32) : Bool := id &&& 0x80000000 ≠ 0

def switchServiceEndpointRequestId : UInt32 := requestId 1006

/-- `FDSAPI_STATUS_SUCCESS`. -/
def statusSuccess : UInt32 := 0

/-- `FDSAPI_STATUS_FAILED`. -/
def statusFailed : UInt32 := 1

/-- `FDSAPI_STATUS_NOTFOUND`. -/
def statusNotFound : UInt32 := 2

inductive MsgpackObject
  | positiveInteger (u64 : UInt64)
  | raw (bytes : String)
  | boolean (value : Bool)
  | array (elements : List MsgpackObject)
  | other

namespace MsgpackObject

def unpackUint32 : MsgpackObject → Option UInt32
  | .positiveInteger u64 => some u64.toUInt32
  | _ => none

/-- An empty string comes back as `NULL`. -/
def unpackCstr : MsgpackObject → Option (Option String)
  | .raw bytes => some (if bytes.isEmpty then none else some bytes)
  | _ => none

def packUint32 (value : UInt32) : MsgpackObject := .positiveInteger value.toUInt64

def packCstr (cstr : Option String) : MsgpackObject := .raw (cstr.getD "")

@[simp] theorem unpackUint32_packUint32 (value : UInt32) :
    (packUint32 value).unpackUint32 = some value := by
  simp [packUint32, unpackUint32]

@[simp] theorem unpackCstr_packCstr (cstr : Option String) :
    (packCstr cstr).unpackCstr = some (cstr.filter fun s => !s.isEmpty) := by
  cases cstr with
  | none => rfl
  | some s =>
    simp only [packCstr, unpackCstr, Option.getD_some, Option.filter_some]
    split <;> simp_all

end MsgpackObject

/-- `FDSAPI_MSG_HEADER` without the size of what follows. -/
structure Header where
  msgType : UInt32
  callId : UInt32
  status : UInt32
  deriving DecidableEq, Repr

/-- `FDSAPI_MSG_PACKET`: the buffer as `msgpack_unpack_next` reads it, if it can. -/
structure Packet where
  header : Header
  buffer : Option MsgpackObject

structure SwitchServiceEndpointRequest where
  header : Header
  connectionId : UInt32 := 0
  serviceEndpoint : Option String := none
  deriving DecidableEq, Repr

namespace SwitchServiceEndpointRequest

def pack (request : SwitchServiceEndpointRequest) : MsgpackObject :=
  .array [.packUint32 request.connectionId, .packCstr request.serviceEndpoint]

def unpack (request : SwitchServiceEndpointRequest) : Option MsgpackObject → Bool × SwitchServiceEndpointRequest
  | some (.array (first :: second :: _)) =>
    match first.unpackUint32 with
    | none => (false, request)
    | some connectionId =>
      match second.unpackCstr with
      | none => (false, { request with connectionId := connectionId })
      | some endpoint => (true, { request with connectionId := connectionId, serviceEndpoint := endpoint })
  | _ => (false, request)

theorem unpack_pack (request target : SwitchServiceEndpointRequest) :
    target.unpack (some request.pack) =
      (true, { target with connectionId := request.connectionId
                           serviceEndpoint := request.serviceEndpoint.filter fun s => !s.isEmpty }) := by
  simp [pack, unpack]

end SwitchServiceEndpointRequest

/-- `FDSAPI_SWITCH_SERVICE_ENDPOINT_RESPONSE` is a header and nothing else. -/
structure SwitchServiceEndpointResponse where
  header : Header
  deriving DecidableEq, Repr

def SwitchServiceEndpointResponse.pack (response : SwitchServiceEndpointResponse) : MsgpackObject :=
  .array [.packUint32 response.header.status]

end FreeRDS.Rpc
