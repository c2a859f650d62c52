import FreeRDS.Fdsapi.EncoderSafety
import FreeRDS.Fdsapi.Handler

/-! # The server of the API

`FDSApiServer::RpcMessageReceived` decodes a request, has the handler answer it, and sends the response that it encodes.
The response is set to zero first; a request without a case leaves it so, and zero is not the id of a message.
-/

namespace FreeRDS.Fdsapi

open Lib Wire List MessageId FDSApiHandler

inductive Fault
  /-- A `std::string` is made from `NULL`. -/
  | nullString
  deriving DecidableEq, Repr

namespace FDSApiServer

/-- A `std::string` from a `char*`. -/
def stdString : Option CString → Except Fault (List UInt8)
  | none => throw .nullString
  | some stringValue => return stringValue.bytes

/-- `strdup(value.c_str())`. -/
def strdup (value : List UInt8) : Option CString := some (.ofMemory value)

/-- A `bool` as a `BOOL`. -/
def ofBool (value : Bool) : Int32 := if value then 1 else 0

/-- `responseMsg`, set to zero. -/
def zeroMessage : Message := .unknown 0 0 (by decide)

theorem sessionInfoList_length {α : Type} (handler : FDSApiHandler) (f : TSessionInfo → α) :
    (handler.enumerateSessions.sessionInfoList.map f).length =
      (UInt32.ofNat handler.enumerateSessions.sessionInfoList.length).toNat := by
  rw [length_map, UInt32.toNat_ofNat', Nat.mod_eq_of_lt handler.enumerateSessions_length_lt]

theorem noSessions_length : (0 : Int32) ≠ 0 → ([] : List SessionInfo).length = (0 : UInt32).toNat := fun _ => rfl

variable (handler : FDSApiHandler)

def enumerateSessionsResponse : EnumerateSessionsResponse :=
  let apiReturn := handler.enumerateSessions
  if apiReturn.returnValue then
    { result := 1
      cSessions := .ofNat apiReturn.sessionInfoList.length
      pSessionInfo := apiReturn.sessionInfoList.map fun info =>
        ⟨info.sessionId.toUInt32, info.connectState.toUInt32, strdup info.winStationName⟩
      length_eq := fun _ => sessionInfoList_length handler _ }
  else ⟨0, 0, [], noSessions_length⟩

/-- The `switch` on the class that was asked for. -/
def querySessionInformationResponse (infoClass : UInt32) (apiReturn : TReturnQuerySessionInformation) :
    QuerySessionInformationResponse :=
  if apiReturn.returnValue then
    match InfoClass.ofCode? infoClass with
    | some .clientProductId | some .clientProtocolType => ⟨1, .uint16 apiReturn.infoValue.int16Value.toUInt16⟩
    | some .sessionId | some .connectState | some .clientBuildNumber | some .clientHardwareId =>
      ⟨1, .uint32 apiReturn.infoValue.int32Value.toUInt32⟩
    | some .userName | some .winStationName | some .domainName | some .clientName | some .clientAddress =>
      ⟨1, .string (strdup apiReturn.infoValue.stringValue)⟩
    | some .clientDisplay =>
      ⟨1, .display apiReturn.infoValue.displayValue.displayWidth.toUInt32
        apiReturn.infoValue.displayValue.displayHeight.toUInt32 apiReturn.infoValue.displayValue.colorDepth.toUInt32⟩
    | none => ⟨0, .bool 0⟩
  else ⟨0, .bool 0⟩

/-- The `switch` on the id of the request. -/
def respond : Message → Except Fault Message
  | .known .disconnectSessionRequest requestId body =>
    return .known .disconnectSessionResponse requestId
      ⟨ofBool (FDSApiHandler.disconnectSession body.sessionId.toInt32 (body.wait ≠ 0))⟩
  | .known .logoffSessionRequest requestId body =>
    return .known .logoffSessionResponse requestId
      ⟨ofBool (FDSApiHandler.logoffSession body.sessionId.toInt32 (body.wait ≠ 0))⟩
  | .known .shutdownSystemRequest requestId body =>
    return .known .shutdownSystemResponse requestId
      ⟨ofBool (FDSApiHandler.shutdownSystem body.shutdownFlag.toInt32)⟩
  | .known .enumerateSessionsRequest requestId _ =>
    return .known .enumerateSessionsResponse requestId (enumerateSessionsResponse handler)
  | .known .querySessionInformationRequest requestId body =>
    return .known .querySessionInformationResponse requestId
      (querySessionInformationResponse body.infoClass
        (handler.querySessionInformation body.sessionId.toInt32 body.infoClass.toInt32))
  | .known .authenticateUserRequest requestId body =>
    -- A string that is `NULL` is left empty.
    return .known .authenticateUserResponse requestId
      ⟨(handler.authenticateUser body.sessionId.toInt32 (CString.text body.username) (CString.text body.password)
        (CString.text body.domain)).toUInt32⟩
  | .known .virtualChannelOpenRequest requestId body => do
      let virtualName ← stdString body.virtualName
      let (channelPort, channelGuid) := handler.virtualChannelOpen body.sessionId.toInt32 virtualName
      return .known .virtualChannelOpenResponse requestId ⟨channelPort, strdup channelGuid⟩
  | .known .virtualChannelOpenExRequest requestId body => do
      let virtualName ← stdString body.virtualName
      let (channelPort, channelGuid) :=
        FDSApiHandler.virtualChannelOpenEx body.sessionId.toInt32 virtualName body.flags.toInt32
      return .known .virtualChannelOpenExResponse requestId ⟨channelPort, strdup channelGuid⟩
  | _ => return zeroMessage

/-- The payloads that `freerds_rpc_client_send_message` is called with. The length it is given is a `UINT32`. -/
def rpcMessageReceived (buffer : List UInt8) : Except Fault (List (List UInt8)) :=
  match decodeMessage.run buffer with
  | none => return []
  | some (requestMsg, _) => do
      let responseMsg ← respond handler requestMsg
      match encodeMessage responseMsg with
      | none => return []
      | some responseStream => return [responseStream.data.take (responseStream.data.length % 2 ^ 32)]

def sessionsLength : Nat :=
  9 + (handler.enumerateSessions.sessionInfoList.map fun info =>
    10 + strlen (strdup info.winStationName) % 65536).sum

theorem enumerateSessionsResponse_length (requestId : UInt16) :
    (Message.known .enumerateSessionsResponse requestId (enumerateSessionsResponse handler)).bytes.length =
      sessionsLength handler := by
  have hone : ∀ info : TSessionInfo,
      (SessionInfo.codec.encode ⟨info.sessionId.toUInt32, info.connectState.toUInt32,
        strdup info.winStationName⟩).length = 10 + strlen (strdup info.winStationName) % 65536 := by
    intro info
    simp only [SessionInfo.codec, length_append, encodeUINT32_length, encodeString_length_mod, sizeOfUINT32]
    omega
  simp [Message.bytes, codec, EnumerateSessionsResponse.codec, enumerateSessionsResponse,
    enumerateSessions, sessionsLength, length_flatMap, hone, sizeOfUINT16, sizeOfUINT32, sizeOfBOOL,
    Function.comp_def]
  omega

/-! ## Queries -/

end FDSApiServer

inductive Field
  | uint16 (value : UInt16)
  | uint32 (value : UInt32)
  | string (value : List UInt8)
  | display (width height colorDepth : UInt32)
  deriving DecidableEq

def Field.infoValue : Field → SessionInfoValue
  | uint16 value => .uint16 value
  | uint32 value => .uint32 value
  | string value => .string (FDSApiServer.strdup value)
  | display width height colorDepth => .display width height colorDepth

namespace FDSApiHandler

variable (handler : FDSApiHandler)

def field (session : Manager.Session) : InfoClass → Field
  | .sessionId => .uint32 session.sessionId
  | .userName => .string (handler.bytes session.username)
  | .winStationName => .string (handler.bytes session.winStationName)
  | .domainName => .string (handler.bytes session.domain)
  | .connectState => .uint32 (connectStateCode session.currentState)
  | .clientBuildNumber => .uint32 session.clientBuildNumber
  | .clientName => .string (handler.bytes session.clientName)
  | .clientProductId => .uint16 session.clientProductId
  | .clientHardwareId => .uint32 session.clientHardwareId
  | .clientAddress => .string (handler.bytes session.clientAddress)
  | .clientDisplay =>
    .display session.clientDisplayWidth session.clientDisplayHeight session.clientDisplayColorDepth
  | .clientProtocolType => .uint16 session.clientProtocolType

/-- The field that a query is for, if the session is there and has it. -/
def queried (sessionId infoClass : UInt32) : Option Field :=
  match handler.getSession sessionId, InfoClass.ofCode? infoClass with
  | some session, some infoClass =>
    if infoClass.isClient ∧ ¬isClientConnected session then none else some (handler.field session infoClass)
  | _, _ => none

end FDSApiHandler

namespace FDSApiServer

/-- The two `switch`es on the class, of the handler and of the server, agree on the member that holds the value, and
the conversions to signed types and back keep it. -/
theorem querySessionInformationResponse_eq (handler : FDSApiHandler) (sessionId infoClass : UInt32) :
    querySessionInformationResponse infoClass
        (handler.querySessionInformation sessionId.toInt32 infoClass.toInt32) =
      match handler.queried sessionId infoClass with
      | some field => ⟨1, field.infoValue⟩
      | none => ⟨0, .bool 0⟩ := by
  unfold querySessionInformation queried querySessionInformationResponse
  rw [UInt32.toUInt32_toInt32, UInt32.toUInt32_toInt32]
  cases handler.getSession sessionId with
  | none => rfl
  | some session =>
    cases hclass : InfoClass.ofCode? infoClass with
    | none => rfl
    | some infoClass =>
      dsimp only
      split
      · rfl
      · cases infoClass <;> simp [infoValue, field, Field.infoValue]

/-! ## Answers -/

end FDSApiServer

namespace MessageId

/-- The odd ids up to that of `FDSAPI_AUTHENTICATE_USER_REQUEST`. -/
def IsRequest (id : MessageId) : Prop := id.code % 2 = 1 ∧ id.code ≤ 19

instance (id : MessageId) : Decidable id.IsRequest := inferInstanceAs (Decidable (_ ∧ _))

/-- The name of a channel that is to be opened is not `NULL`. -/
def Named : (id : MessageId) → id.Body → Prop
  | .virtualChannelOpenRequest, body => body.virtualName ≠ none
  | .virtualChannelOpenExRequest, body => body.virtualName ≠ none
  | _, _ => True

end MessageId

namespace FDSApiServer

variable {handler : FDSApiHandler}

theorem respond_cases (handler : FDSApiHandler) {id : MessageId} (hreq : id.IsRequest) (requestId : UInt16)
    (body : id.Body) :
    (id = .pingRequest ∨ id = .virtualChannelCloseRequest) ∧
        respond handler (.known id requestId body) = .ok zeroMessage ∨
      ¬id.Named body ∧ respond handler (.known id requestId body) = .error .nullString ∨
      (id ≠ .pingRequest ∧ id ≠ .virtualChannelCloseRequest) ∧ id.Named body ∧
        ∃ responseId responseBody,
          respond handler (.known id requestId body) = .ok (.known responseId requestId responseBody) ∧
          responseId.code = id.code + 1 ∧
          (id = .enumerateSessionsRequest →
            (Message.known responseId requestId responseBody).bytes.length = sessionsLength handler) := by
  cases id with
  | pingRequest => exact .inl ⟨.inl rfl, rfl⟩
  | virtualChannelCloseRequest => exact .inl ⟨.inr rfl, rfl⟩
  | virtualChannelOpenRequest =>
    obtain ⟨sessionId, virtualName⟩ := body
    cases virtualName with
    | none => exact .inr (.inl ⟨fun h => h rfl, rfl⟩)
    | some virtualName =>
      exact .inr (.inr ⟨by decide, Option.some_ne_none virtualName, _, _, rfl, rfl, fun h => absurd h (by decide)⟩)
  | virtualChannelOpenExRequest =>
    obtain ⟨sessionId, virtualName, flags⟩ := body
    cases virtualName with
    | none => exact .inr (.inl ⟨fun h => h rfl, rfl⟩)
    | some virtualName =>
      exact .inr (.inr ⟨by decide, Option.some_ne_none virtualName, _, _, rfl, rfl, fun h => absurd h (by decide)⟩)
  | enumerateSessionsRequest =>
    exact .inr (.inr ⟨by decide, trivial, _, _, rfl, rfl, fun _ => enumerateSessionsResponse_length handler requestId⟩)
  | disconnectSessionRequest | logoffSessionRequest | shutdownSystemRequest | querySessionInformationRequest
  | authenticateUserRequest =>
    exact .inr (.inr ⟨by decide, trivial, _, _, rfl, rfl, fun h => absurd h (by decide)⟩)
  | _ => exact absurd hreq (by decide)

theorem infoValue_length_lt (infoValue : SessionInfoValue) : infoValue.encode.length < 2 ^ 17 := by
  cases infoValue with
  | string stringValue =>
    rw [SessionInfoValue.encode, encodeString_length_mod]
    omega
  | _ => simp [SessionInfoValue.encode, sizeOfBOOL, sizeOfUINT16, sizeOfUINT32]

theorem bytes_length_lt {id : MessageId} (hid : id ≠ .enumerateSessionsResponse) (requestId : UInt16) (body : id.Body) :
    (Message.known id requestId body).bytes.length < 2 ^ 32 := by
  have hstr : ∀ stringValue, (encodeString stringValue).length < 2 ^ 17 := fun stringValue => by
    rw [encodeString_length_mod]
    omega
  have hbody : (id.codec.encode body).length < 2 ^ 20 := by
    cases id with
    | enumerateSessionsResponse => exact absurd rfl hid
    | virtualChannelOpenRequest | virtualChannelCloseRequest =>
      have hname := hstr body.virtualName
      simp only [codec, VirtualChannelOpenRequest.codec, VirtualChannelCloseRequest.codec,
        length_append, encodeUINT32_length, sizeOfUINT32]
      omega
    | virtualChannelOpenExRequest =>
      have hname := hstr body.virtualName
      simp only [codec, VirtualChannelOpenExRequest.codec, length_append, encodeUINT32_length,
        sizeOfUINT32]
      omega
    | virtualChannelOpenResponse | virtualChannelOpenExResponse =>
      have hguid := hstr body.channelGuid
      simp only [codec, VirtualChannelOpenResponse.codec, VirtualChannelOpenExResponse.codec,
        length_append, encodeUINT32_length, sizeOfUINT32]
      omega
    | querySessionInformationResponse =>
      have hval := infoValue_length_lt body.infoValue
      simp only [codec, QuerySessionInformationResponse.codec, length_append, encodeBOOL_length,
        sizeOfBOOL]
      split
      · simp only [length_append, encodeUINT16_length, sizeOfUINT16]
        omega
      · decide
    | authenticateUserRequest =>
      have husername := hstr body.username
      have hpass := hstr body.password
      have hdom := hstr body.domain
      simp only [codec, AuthenticateUserRequest.codec, length_append, encodeUINT32_length, sizeOfUINT32]
      omega
    | _ => exact Nat.lt_of_le_of_lt (fits _ body) (of_decide_eq_true rfl)
  simp only [Message.bytes, length_append, encodeUINT16_length, sizeOfUINT16]
  omega

theorem bytes_take (id : MessageId) (requestId : UInt16) (body : id.Body) :
    (Message.known id requestId body).bytes.take 4 = encodeUINT16 id.code ++ encodeUINT16 requestId :=
  take_left' (by simp [sizeOfUINT16])

theorem rpcMessageReceived_eq {buffer rest : List UInt8} {requestMsg : Message}
    (hdecode : decodeMessage.run buffer = some (requestMsg, rest)) {id : MessageId} {requestId : UInt16} {body : id.Body}
    (hresp : respond handler requestMsg = .ok (.known id requestId body)) :
    rpcMessageReceived handler buffer = .ok [(Message.known id requestId body).bytes.take
      ((Message.known id requestId body).bytes.length % 2 ^ 32)] := by
  rw [rpcMessageReceived, hdecode]
  simp only [hresp]
  rfl

/-- A request is answered, by one response with the next id and with its number, exactly if the server has a case for
it, the channel that it names has a name, and the list of the sessions is not cut within the two numbers. -/
theorem answered_iff (handler : FDSApiHandler) (buffer rest : List UInt8) (id : MessageId) (requestId : UInt16)
    (body : id.Body) (hdecode : decodeMessage.run buffer = some (.known id requestId body, rest))
    (hrequest : id.IsRequest) :
    (∃ payload, rpcMessageReceived handler buffer = .ok [payload] ∧
        payload.take 4 = encodeUINT16 (id.code + 1) ++ encodeUINT16 requestId) ↔
      (id ≠ .pingRequest ∧ id ≠ .virtualChannelCloseRequest) ∧ id.Named body ∧
        (id = .enumerateSessionsRequest → 4 ≤ sessionsLength handler % 2 ^ 32) := by
  rcases respond_cases handler hrequest requestId body with
    ⟨hid, hresp⟩ | ⟨hnamed, hresp⟩ | ⟨hid, hnamed, responseId, responseBody, hresp, hcode, hlen⟩
  · -- There is no case for the request, and a message of zeros is not encoded.
    have hnone : rpcMessageReceived handler buffer = .ok [] := by
      rw [rpcMessageReceived, hdecode]
      simp only [hresp]
      rfl
    rw [hnone]
    refine iff_of_false ?_ fun h => ?_
    · rintro ⟨payload, hsent, -⟩
      cases hsent
    · exact hid.elim h.1.1 h.1.2
  · have hfault : rpcMessageReceived handler buffer = .error .nullString := by
      rw [rpcMessageReceived, hdecode]
      simp only [hresp]
      rfl
    rw [hfault]
    refine iff_of_false ?_ fun h => hnamed h.2.1
    rintro ⟨payload, hsent, -⟩
    cases hsent
  · rw [rpcMessageReceived_eq hdecode hresp, ← hcode]
    have hfour := bytes_take responseId requestId responseBody
    have hlong : id ≠ .enumerateSessionsRequest →
        (Message.known responseId requestId responseBody).bytes.length < 2 ^ 32 := by
      intro hother
      refine bytes_length_lt ?_ requestId responseBody
      rintro rfl
      cases id <;> first | exact hother rfl | exact absurd hcode (by decide)
    have hge : 4 ≤ (Message.known responseId requestId responseBody).bytes.length := by
      have hcnt := congrArg length hfour
      simp only [length_take, length_append, encodeUINT16_length, sizeOfUINT16] at hcnt
      omega
    generalize (Message.known responseId requestId responseBody).bytes = bytes at *
    constructor
    · rintro ⟨payload, hsent, hids⟩
      refine ⟨hid, hnamed, fun hsess => ?_⟩
      obtain rfl : bytes.take (bytes.length % 2 ^ 32) = payload := by
        cases hsent
        rfl
      have hcnt := congrArg length hids
      simp only [length_take, length_append, encodeUINT16_length, sizeOfUINT16] at hcnt
      rw [← hlen hsess]
      omega
    · rintro ⟨-, -, hsess⟩
      refine ⟨_, rfl, ?_⟩
      have hcut : 4 ≤ bytes.length % 2 ^ 32 := by
        by_cases hlist : id = .enumerateSessionsRequest
        · rw [hlen hlist]
          exact hsess hlist
        · rw [Nat.mod_eq_of_lt (hlong hlist)]
          exact hge
      rw [take_take, Nat.min_eq_left hcut, hfour]

def emptyHandler : FDSApiHandler where
  sessionStore := .empty
  bytes := fun _ => []
  authenticateUser _ _ _ _ := -1
  virtualChannelOpen _ _ := (0, [])
  unassigned := ⟨false, ⟨0, 0, [], ⟨0, 0, 0⟩⟩⟩

/-- A request to log off, which is answered. -/
theorem logoff_answered :
    ∃ payload, rpcMessageReceived emptyHandler [11, 0, 7, 0, 3, 0, 0, 0, 1] = .ok [payload] ∧
      payload.take 4 = encodeUINT16 12 ++ encodeUINT16 7 :=
  (answered_iff emptyHandler [11, 0, 7, 0, 3, 0, 0, 0, 1] [] .logoffSessionRequest 7 ⟨3, 1⟩ (by rfl) (by decide)).mpr
    ⟨by decide, trivial, fun h => absurd h (by decide)⟩

/-- A ping and a request to close a channel stay without an answer, and a channel without a name is opened from
`NULL`. -/
theorem requests_not_answered :
    decodeMessage.run [1, 0, 7, 0, 0, 0, 0, 0] = some (.known .pingRequest 7 ⟨0⟩, []) ∧
      rpcMessageReceived emptyHandler [1, 0, 7, 0, 0, 0, 0, 0] = .ok [] ∧
      decodeMessage.run [7, 0, 7, 0, 3, 0, 0, 0, 0, 0] = some (.known .virtualChannelCloseRequest 7 ⟨3, none⟩, []) ∧
      rpcMessageReceived emptyHandler [7, 0, 7, 0, 3, 0, 0, 0, 0, 0] = .ok [] ∧
      decodeMessage.run [3, 0, 7, 0, 3, 0, 0, 0, 0, 0] = some (.known .virtualChannelOpenRequest 7 ⟨3, none⟩, []) ∧
      rpcMessageReceived emptyHandler [3, 0, 7, 0, 3, 0, 0, 0, 0, 0] = .error .nullString :=
  ⟨rfl, rfl, rfl, rfl, rfl, rfl⟩

end FDSApiServer

end FreeRDS.Fdsapi
