import FreeRDS.Lib.CValue
import FreeRDS.Lib.Decoder

/-! # The messages of the API

A client library and the manager exchange messages: two numbers that name the message and its request, and a body whose
members stand one after the other. `FDSAPI_SizeOf…`, `FDSAPI_Decode…` and `FDSAPI_Encode…` of a body are the members of
its `Codec`. Memory is there whenever it is asked for.
-/

namespace FreeRDS.Fdsapi

open Lib Wire Decoder

/-! ## Base types

A `BOOL` is an `int`. The decoders find out by themselves whether enough bytes remain, and the encoders write without
looking at the size of the stream.
-/

def sizeOfBOOL : Nat := 1
def sizeOfUINT8 : Nat := 1
def sizeOfUINT16 : Nat := 2
def sizeOfUINT32 : Nat := 4

def decodeBOOL : Decoder Int32 := do
  let uint8Value ← number 1
  return if uint8Value ≠ 0 then 1 else 0

def encodeBOOL (boolValue : Int32) : List UInt8 := toBytes 1 (if boolValue ≠ 0 then 1 else 0)

def decodeUINT16 : Decoder UInt16 := do
  let uint16Value ← number 2
  return .ofNat uint16Value

def encodeUINT16 (uint16Value : UInt16) : List UInt8 := toBytes 2 uint16Value.toNat

def decodeUINT32 : Decoder UInt32 := do
  let uint32Value ← number 4
  return .ofNat uint32Value

def encodeUINT32 (uint32Value : UInt32) : List UInt8 := toBytes 4 uint32Value.toNat

/-- `strlen`, or zero for `NULL`. -/
def strlen (stringValue : Option CString) : Nat := (CString.text stringValue).length

def sizeOfString (stringValue : Option CString) : Nat := 2 + strlen stringValue

def decodeString : Decoder (Option CString) := do
  let stringSize ← number 2
  if stringSize > 0 then
    let mutableString ← take stringSize
    return some (.ofMemory mutableString)
  else
    return none

/-- The length is cut to 16 bits, and so is what is written of the string. -/
def encodeString (stringValue : Option CString) : List UInt8 :=
  let stringSize := UInt16.ofNat (strlen stringValue)
  encodeUINT16 stringSize ++ (CString.text stringValue).take stringSize.toNat

/-! ## Bodies -/

/-- The sizes are exact: the `UINT32` that holds their sum is that of `allocateStream`. -/
structure Codec (β : Type) where
  sizeOf : β → Nat
  decode : Decoder β
  encode : β → List UInt8

/-- `FDSAPI_PING_REQUEST`. -/
structure PingRequest where
  input : UInt32
  deriving DecidableEq

def PingRequest.codec : Codec PingRequest where
  sizeOf _ := sizeOfUINT32
  decode := do
    let input ← decodeUINT32
    return { input }
  encode msg := encodeUINT32 msg.input

/-- `FDSAPI_PING_RESPONSE`. -/
structure PingResponse where
  result : UInt32
  deriving DecidableEq

def PingResponse.codec : Codec PingResponse where
  sizeOf _ := sizeOfUINT32
  decode := do
    let result ← decodeUINT32
    return { result }
  encode msg := encodeUINT32 msg.result

/-- `FDSAPI_VIRTUAL_CHANNEL_OPEN_REQUEST`. -/
structure VirtualChannelOpenRequest where
  sessionId : UInt32
  virtualName : Option CString
  deriving DecidableEq

def VirtualChannelOpenRequest.codec : Codec VirtualChannelOpenRequest where
  sizeOf msg := sizeOfUINT32 + sizeOfString msg.virtualName
  decode := do
    let sessionId ← decodeUINT32
    let virtualName ← decodeString
    return { sessionId, virtualName }
  encode msg := encodeUINT32 msg.sessionId ++ encodeString msg.virtualName

/-- `FDSAPI_VIRTUAL_CHANNEL_OPEN_RESPONSE`. -/
structure VirtualChannelOpenResponse where
  channelPort : UInt32
  channelGuid : Option CString
  deriving DecidableEq

def VirtualChannelOpenResponse.codec : Codec VirtualChannelOpenResponse where
  sizeOf msg := sizeOfUINT32 + sizeOfString msg.channelGuid
  decode := do
    let channelPort ← decodeUINT32
    let channelGuid ← decodeString
    return { channelPort, channelGuid }
  encode msg := encodeUINT32 msg.channelPort ++ encodeString msg.channelGuid

/-- `FDSAPI_VIRTUAL_CHANNEL_OPEN_EX_REQUEST`. -/
structure VirtualChannelOpenExRequest where
  sessionId : UInt32
  virtualName : Option CString
  flags : UInt32
  deriving DecidableEq

def VirtualChannelOpenExRequest.codec : Codec VirtualChannelOpenExRequest where
  sizeOf msg := 2 * sizeOfUINT32 + sizeOfString msg.virtualName
  decode := do
    let sessionId ← decodeUINT32
    let virtualName ← decodeString
    let flags ← decodeUINT32
    return { sessionId, virtualName, flags }
  encode msg := encodeUINT32 msg.sessionId ++ encodeString msg.virtualName ++ encodeUINT32 msg.flags

/-- `FDSAPI_VIRTUAL_CHANNEL_OPEN_EX_RESPONSE`. -/
structure VirtualChannelOpenExResponse where
  channelPort : UInt32
  channelGuid : Option CString
  deriving DecidableEq

def VirtualChannelOpenExResponse.codec : Codec VirtualChannelOpenExResponse where
  sizeOf msg := sizeOfUINT32 + sizeOfString msg.channelGuid
  decode := do
    let channelPort ← decodeUINT32
    let channelGuid ← decodeString
    return { channelPort, channelGuid }
  encode msg := encodeUINT32 msg.channelPort ++ encodeString msg.channelGuid

/-- `FDSAPI_VIRTUAL_CHANNEL_CLOSE_REQUEST`. -/
structure VirtualChannelCloseRequest where
  sessionId : UInt32
  virtualName : Option CString
  deriving DecidableEq

def VirtualChannelCloseRequest.codec : Codec VirtualChannelCloseRequest where
  sizeOf msg := sizeOfUINT32 + sizeOfString msg.virtualName
  decode := do
    let sessionId ← decodeUINT32
    let virtualName ← decodeString
    return { sessionId, virtualName }
  encode msg := encodeUINT32 msg.sessionId ++ encodeString msg.virtualName

/-- `FDSAPI_VIRTUAL_CHANNEL_CLOSE_RESPONSE`. -/
structure VirtualChannelCloseResponse where
  result : Int32
  deriving DecidableEq

def VirtualChannelCloseResponse.codec : Codec VirtualChannelCloseResponse where
  sizeOf _ := sizeOfBOOL
  decode := do
    let result ← decodeBOOL
    return { result }
  encode msg := encodeBOOL msg.result

/-- `FDSAPI_DISCONNECT_SESSION_REQUEST`. -/
structure DisconnectSessionRequest where
  sessionId : UInt32
  wait : Int32
  deriving DecidableEq

def DisconnectSessionRequest.codec : Codec DisconnectSessionRequest where
  sizeOf _ := sizeOfUINT32 + sizeOfBOOL
  decode := do
    let sessionId ← decodeUINT32
    let wait ← decodeBOOL
    return { sessionId, wait }
  encode msg := encodeUINT32 msg.sessionId ++ encodeBOOL msg.wait

/-- `FDSAPI_DISCONNECT_SESSION_RESPONSE`. -/
structure DisconnectSessionResponse where
  result : Int32
  deriving DecidableEq

def DisconnectSessionResponse.codec : Codec DisconnectSessionResponse where
  sizeOf _ := sizeOfBOOL
  decode := do
    let result ← decodeBOOL
    return { result }
  encode msg := encodeBOOL msg.result

/-- `FDSAPI_LOGOFF_SESSION_REQUEST`. -/
structure LogoffSessionRequest where
  sessionId : UInt32
  wait : Int32
  deriving DecidableEq

def LogoffSessionRequest.codec : Codec LogoffSessionRequest where
  sizeOf _ := sizeOfUINT32 + sizeOfBOOL
  decode := do
    let sessionId ← decodeUINT32
    let wait ← decodeBOOL
    return { sessionId, wait }
  encode msg := encodeUINT32 msg.sessionId ++ encodeBOOL msg.wait

/-- `FDSAPI_LOGOFF_SESSION_RESPONSE`. -/
structure LogoffSessionResponse where
  result : Int32
  deriving DecidableEq

def LogoffSessionResponse.codec : Codec LogoffSessionResponse where
  sizeOf _ := sizeOfBOOL
  decode := do
    let result ← decodeBOOL
    return { result }
  encode msg := encodeBOOL msg.result

/-- `FDSAPI_SHUTDOWN_SYSTEM_REQUEST`. -/
structure ShutdownSystemRequest where
  shutdownFlag : UInt32
  deriving DecidableEq

def ShutdownSystemRequest.codec : Codec ShutdownSystemRequest where
  sizeOf _ := sizeOfUINT32
  decode := do
    let shutdownFlag ← decodeUINT32
    return { shutdownFlag }
  encode msg := encodeUINT32 msg.shutdownFlag

/-- `FDSAPI_SHUTDOWN_SYSTEM_RESPONSE`. -/
structure ShutdownSystemResponse where
  result : Int32
  deriving DecidableEq

def ShutdownSystemResponse.codec : Codec ShutdownSystemResponse where
  sizeOf _ := sizeOfBOOL
  decode := do
    let result ← decodeBOOL
    return { result }
  encode msg := encodeBOOL msg.result

/-- `FDSAPI_ENUMERATE_SESSIONS_REQUEST`. -/
structure EnumerateSessionsRequest where
  version : UInt32
  deriving DecidableEq

def EnumerateSessionsRequest.codec : Codec EnumerateSessionsRequest where
  sizeOf _ := sizeOfUINT32
  decode := do
    let version ← decodeUINT32
    return { version }
  encode msg := encodeUINT32 msg.version

/-- `FDSAPI_SESSION_INFO`. -/
structure SessionInfo where
  sessionId : UInt32
  connectState : UInt32
  winStationName : Option CString
  deriving DecidableEq

/-- One turn of the loops over `pSessionInfo`. -/
def SessionInfo.codec : Codec SessionInfo where
  sizeOf msg := 2 * sizeOfUINT32 + sizeOfString msg.winStationName
  decode := do
    let sessionId ← decodeUINT32
    let connectState ← decodeUINT32
    let winStationName ← decodeString
    return { sessionId, connectState, winStationName }
  encode msg := encodeUINT32 msg.sessionId ++ encodeUINT32 msg.connectState ++ encodeString msg.winStationName

/-- `FDSAPI_ENUMERATE_SESSIONS_RESPONSE`. Without a result the other members may hold anything. -/
@[ext] structure EnumerateSessionsResponse where
  result : Int32
  cSessions : UInt32
  pSessionInfo : List SessionInfo
  length_eq : result ≠ 0 → pSessionInfo.length = cSessions.toNat
  deriving DecidableEq

def EnumerateSessionsResponse.codec : Codec EnumerateSessionsResponse where
  sizeOf msg :=
    sizeOfBOOL + sizeOfUINT32 + if msg.result ≠ 0 then (msg.pSessionInfo.map SessionInfo.codec.sizeOf).sum else 0
  decode := do
    let result ← decodeBOOL
    if result ≠ 0 then
      let cSessions ← decodeUINT32
      let ⟨pSessionInfo, h⟩ ← repeated SessionInfo.codec.decode cSessions.toNat
      return { result, cSessions, pSessionInfo, length_eq := fun _ => h }
    else
      -- `FDSAPI_DecodeMessage` has set the message to zero.
      return { result, cSessions := 0, pSessionInfo := [], length_eq := fun _ => rfl }
  encode msg :=
    encodeBOOL msg.result ++
      if msg.result ≠ 0 then encodeUINT32 msg.cSessions ++ msg.pSessionInfo.flatMap SessionInfo.codec.encode else []

/-- `FDSAPI_QUERY_SESSION_INFORMATION_REQUEST`. -/
structure QuerySessionInformationRequest where
  sessionId : UInt32
  infoClass : UInt32
  deriving DecidableEq

def QuerySessionInformationRequest.codec : Codec QuerySessionInformationRequest where
  sizeOf _ := 2 * sizeOfUINT32
  decode := do
    let sessionId ← decodeUINT32
    let infoClass ← decodeUINT32
    return { sessionId, infoClass }
  encode msg := encodeUINT32 msg.sessionId ++ encodeUINT32 msg.infoClass

/-- `FDSAPI_SESSION_INFO_VALUE`: the type and the member of the union that goes with it. A type outside of the
enumeration has none. -/
inductive SessionInfoValue
  | bool (boolValue : Int32)
  | uint16 (uint16Value : UInt16)
  | uint32 (uint32Value : UInt32)
  | string (stringValue : Option CString)
  | display (displayWidth displayHeight colorDepth : UInt32)
  | other (t : UInt16) (h : 5 ≤ t)
  deriving DecidableEq

namespace SessionInfoValue

def t : SessionInfoValue → UInt16
  | bool _ => 0
  | uint16 _ => 1
  | uint32 _ => 2
  | string _ => 3
  | display .. => 4
  | other t _ => t

/-- The `switch` on the type in each of the three functions. -/
def sizeOf : SessionInfoValue → Nat
  | bool _ => sizeOfBOOL
  | uint16 _ => sizeOfUINT16
  | uint32 _ => sizeOfUINT32
  | string stringValue => sizeOfString stringValue
  | display .. => 3 * sizeOfUINT32
  | other .. => 0

def decode (t : UInt16) : Decoder SessionInfoValue :=
  if h : 5 ≤ t then return other t h
  else if t = 0 then return bool (← decodeBOOL)
  else if t = 1 then return uint16 (← decodeUINT16)
  else if t = 2 then return uint32 (← decodeUINT32)
  else if t = 3 then return string (← decodeString)
  else return display (← decodeUINT32) (← decodeUINT32) (← decodeUINT32)

def encode : SessionInfoValue → List UInt8
  | bool boolValue => encodeBOOL boolValue
  | uint16 uint16Value => encodeUINT16 uint16Value
  | uint32 uint32Value => encodeUINT32 uint32Value
  | string stringValue => encodeString stringValue
  | display displayWidth displayHeight colorDepth =>
    encodeUINT32 displayWidth ++ encodeUINT32 displayHeight ++ encodeUINT32 colorDepth
  | other .. => []

end SessionInfoValue

/-- `FDSAPI_QUERY_SESSION_INFORMATION_RESPONSE`. -/
structure QuerySessionInformationResponse where
  result : Int32
  infoValue : SessionInfoValue
  deriving DecidableEq

/-- The size counts four bytes for the result and one for the type; they take one and two. -/
def QuerySessionInformationResponse.codec : Codec QuerySessionInformationResponse where
  sizeOf msg := sizeOfUINT32 + if msg.result ≠ 0 then sizeOfUINT8 + msg.infoValue.sizeOf else 0
  decode := do
    let result ← decodeBOOL
    if result ≠ 0 then
      let t ← decodeUINT16
      let infoValue ← SessionInfoValue.decode t
      return { result, infoValue }
    else
      return { result, infoValue := .bool 0 }
  encode msg :=
    encodeBOOL msg.result ++ if msg.result ≠ 0 then encodeUINT16 msg.infoValue.t ++ msg.infoValue.encode else []

/-- `FDSAPI_AUTHENTICATE_USER_REQUEST`. -/
structure AuthenticateUserRequest where
  sessionId : UInt32
  username : Option CString
  password : Option CString
  domain : Option CString
  deriving DecidableEq

def AuthenticateUserRequest.codec : Codec AuthenticateUserRequest where
  sizeOf msg := sizeOfUINT32 + sizeOfString msg.username + sizeOfString msg.password + sizeOfString msg.domain
  decode := do
    let sessionId ← decodeUINT32
    let username ← decodeString
    let password ← decodeString
    let domain ← decodeString
    return { sessionId, username, password, domain }
  encode msg :=
    encodeUINT32 msg.sessionId ++ encodeString msg.username ++ encodeString msg.password ++ encodeString msg.domain

/-- `FDSAPI_AUTHENTICATE_USER_RESPONSE`. -/
structure AuthenticateUserResponse where
  result : UInt32
  deriving DecidableEq

def AuthenticateUserResponse.codec : Codec AuthenticateUserResponse where
  sizeOf _ := sizeOfUINT32
  decode := do
    let result ← decodeUINT32
    return { result }
  encode msg := encodeUINT32 msg.result

/-- `FDSAPI_SESSION_EVENT`. -/
structure SessionEvent where
  sessionId : UInt32
  stateChange : UInt32
  deriving DecidableEq

def SessionEvent.codec : Codec SessionEvent where
  sizeOf _ := 2 * sizeOfUINT32
  decode := do
    let sessionId ← decodeUINT32
    let stateChange ← decodeUINT32
    return { sessionId, stateChange }
  encode msg := encodeUINT32 msg.sessionId ++ encodeUINT32 msg.stateChange

/-! ## Messages -/

inductive MessageId
  | pingRequest | pingResponse | virtualChannelOpenRequest
  | virtualChannelOpenResponse | virtualChannelOpenExRequest | virtualChannelOpenExResponse
  | virtualChannelCloseRequest | virtualChannelCloseResponse | disconnectSessionRequest
  | disconnectSessionResponse | logoffSessionRequest | logoffSessionResponse | shutdownSystemRequest
  | shutdownSystemResponse | enumerateSessionsRequest | enumerateSessionsResponse
  | querySessionInformationRequest | querySessionInformationResponse | authenticateUserRequest
  | authenticateUserResponse | sessionEvent
  deriving DecidableEq, Repr

namespace MessageId

def code : MessageId → UInt16
  | .pingRequest => 1
  | .pingResponse => 2
  | .virtualChannelOpenRequest => 3
  | .virtualChannelOpenResponse => 4
  | .virtualChannelOpenExRequest => 5
  | .virtualChannelOpenExResponse => 6
  | .virtualChannelCloseRequest => 7
  | .virtualChannelCloseResponse => 8
  | .disconnectSessionRequest => 9
  | .disconnectSessionResponse => 10
  | .logoffSessionRequest => 11
  | .logoffSessionResponse => 12
  | .shutdownSystemRequest => 13
  | .shutdownSystemResponse => 14
  | .enumerateSessionsRequest => 15
  | .enumerateSessionsResponse => 16
  | .querySessionInformationRequest => 17
  | .querySessionInformationResponse => 18
  | .authenticateUserRequest => 19
  | .authenticateUserResponse => 20
  | .sessionEvent => 50

def all : List MessageId :=
  [.pingRequest, .pingResponse, .virtualChannelOpenRequest, .virtualChannelOpenResponse,
    .virtualChannelOpenExRequest, .virtualChannelOpenExResponse, .virtualChannelCloseRequest,
    .virtualChannelCloseResponse, .disconnectSessionRequest, .disconnectSessionResponse,
    .logoffSessionRequest, .logoffSessionResponse, .shutdownSystemRequest, .shutdownSystemResponse,
    .enumerateSessionsRequest, .enumerateSessionsResponse, .querySessionInformationRequest,
    .querySessionInformationResponse, .authenticateUserRequest, .authenticateUserResponse, .sessionEvent]

/-- The case of a `switch` on the message id, where there is one. -/
def ofCode? (code : UInt16) : Option MessageId := all.find? fun id => id.code = code

/-- The member of the union `u`. -/
def Body : MessageId → Type
  | .pingRequest => PingRequest
  | .pingResponse => PingResponse
  | .virtualChannelOpenRequest => VirtualChannelOpenRequest
  | .virtualChannelOpenResponse => VirtualChannelOpenResponse
  | .virtualChannelOpenExRequest => VirtualChannelOpenExRequest
  | .virtualChannelOpenExResponse => VirtualChannelOpenExResponse
  | .virtualChannelCloseRequest => VirtualChannelCloseRequest
  | .virtualChannelCloseResponse => VirtualChannelCloseResponse
  | .disconnectSessionRequest => DisconnectSessionRequest
  | .disconnectSessionResponse => DisconnectSessionResponse
  | .logoffSessionRequest => LogoffSessionRequest
  | .logoffSessionResponse => LogoffSessionResponse
  | .shutdownSystemRequest => ShutdownSystemRequest
  | .shutdownSystemResponse => ShutdownSystemResponse
  | .enumerateSessionsRequest => EnumerateSessionsRequest
  | .enumerateSessionsResponse => EnumerateSessionsResponse
  | .querySessionInformationRequest => QuerySessionInformationRequest
  | .querySessionInformationResponse => QuerySessionInformationResponse
  | .authenticateUserRequest => AuthenticateUserRequest
  | .authenticateUserResponse => AuthenticateUserResponse
  | .sessionEvent => SessionEvent

def codec : (id : MessageId) → Codec id.Body
  | .pingRequest => PingRequest.codec
  | .pingResponse => PingResponse.codec
  | .virtualChannelOpenRequest => VirtualChannelOpenRequest.codec
  | .virtualChannelOpenResponse => VirtualChannelOpenResponse.codec
  | .virtualChannelOpenExRequest => VirtualChannelOpenExRequest.codec
  | .virtualChannelOpenExResponse => VirtualChannelOpenExResponse.codec
  | .virtualChannelCloseRequest => VirtualChannelCloseRequest.codec
  | .virtualChannelCloseResponse => VirtualChannelCloseResponse.codec
  | .disconnectSessionRequest => DisconnectSessionRequest.codec
  | .disconnectSessionResponse => DisconnectSessionResponse.codec
  | .logoffSessionRequest => LogoffSessionRequest.codec
  | .logoffSessionResponse => LogoffSessionResponse.codec
  | .shutdownSystemRequest => ShutdownSystemRequest.codec
  | .shutdownSystemResponse => ShutdownSystemResponse.codec
  | .enumerateSessionsRequest => EnumerateSessionsRequest.codec
  | .enumerateSessionsResponse => EnumerateSessionsResponse.codec
  | .querySessionInformationRequest => QuerySessionInformationRequest.codec
  | .querySessionInformationResponse => QuerySessionInformationResponse.codec
  | .authenticateUserRequest => AuthenticateUserRequest.codec
  | .authenticateUserResponse => AuthenticateUserResponse.codec
  | .sessionEvent => SessionEvent.codec

end MessageId

/-- `FDSAPI_MESSAGE`: the message id says which member of the union is meant, if any. -/
inductive Message
  | known (id : MessageId) (requestId : UInt16) (body : id.Body)
  | unknown (messageId requestId : UInt16) (h : MessageId.ofCode? messageId = none)

/-- A `wStream`: the size it was allocated with, and what has been written to it from its start on.
`Stream_SealLength` makes the number of these bytes its length. -/
structure Stream where
  size : Nat
  data : List UInt8
  deriving DecidableEq

/-- What `FDSAPI_AllocateStream` adds up. -/
def Message.size : Message → Nat
  | .known id _ body => 2 * sizeOfUINT16 + id.codec.sizeOf body
  | .unknown .. => 2 * sizeOfUINT16

/-- `FDSAPI_AllocateStream`. The sum is a `UINT32`. -/
def allocateStream (msg : Message) : Option Stream :=
  match msg with
  | .known .. => some ⟨msg.size % 2 ^ 32, []⟩
  | .unknown .. => none

/-- `FDSAPI_EncodeMessage`. -/
def encodeMessage (msg : Message) : Option Stream := do
  let s ← allocateStream msg
  match msg with
  | .known id requestId body =>
    return { s with data := encodeUINT16 id.code ++ encodeUINT16 requestId ++ id.codec.encode body }
  | .unknown .. => none

/-- `FDSAPI_DecodeMessage`. -/
def decodeMessage : Decoder Message := do
  let messageId ← decodeUINT16
  let requestId ← decodeUINT16
  match MessageId.ofCode? messageId with
  | none => failure
  | some id =>
    let body ← id.codec.decode
    return .known id requestId body

end FreeRDS.Fdsapi
