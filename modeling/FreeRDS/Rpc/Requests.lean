import FreeRDS.Manager.LogonFailure
import FreeRDS.Rpc.Message

/-! # Requests to the manager

`processData` creates the call that is registered for the type of a request, and has it decode the payload,
do its work and encode its response. No `decodeRequest` looks at the value of `freerds_rpc_msg_unpack`:
a call whose payload cannot be unpacked works with what is in the memory of its request.
-/

namespace FreeRDS.Rpc

open Lib Prog Manager

/-- How an element of the array is read into a field of the request. -/
abbrev Field (ρ : Type) := MsgpackObject → Option (ρ → ρ)

def uint32Field {ρ : Type} (set : UInt32 → ρ → ρ) : Field ρ := fun object => object.unpackUint32.map set

def cstrField {ρ : Type} (set : Option String → ρ → ρ) : Field ρ :=
  fun object => object.unpackCstr.map set

/-- Read one field after the other; the first that cannot be read ends it. -/
def unpackFields {ρ : Type} : List (Field ρ) → List MsgpackObject → ρ → Bool × ρ
  | [], _, request => (true, request)
  | _ :: _, [], request => (false, request)
  | field :: fields, object :: objects, request =>
    match field object with
    | none => (false, request)
    | some set => unpackFields fields objects (set request)

/-- The common shape of the unpack functions. `object` is what `msgpack_unpack_next` has found. -/
def unpackRequest {ρ : Type} (fields : List (Field ρ)) (request : ρ) (object : Option MsgpackObject) : Bool × ρ :=
  match object with
  | some (.array elements) =>
    if elements.length < fields.length then (false, request) else unpackFields fields elements request
  | _ => (false, request)

structure DisconnectUserRequest where
  connectionId : UInt32
  deriving DecidableEq, Repr

structure LogoffUserRequest where
  connectionId : UInt32
  deriving DecidableEq, Repr

structure EndSessionRequest where
  sessionId : UInt32
  deriving DecidableEq, Repr

structure ChannelAllowedRequest where
  channelName : Option String
  deriving DecidableEq, Repr

structure HeartbeatRequest where
  heartbeatId : UInt32
  deriving DecidableEq, Repr

/-! ## The registered calls -/

/-- The classes that are registered with `CALL_FACTORY`. -/
inductive CallIn
  | logonUser | authenticateUser | disconnectUserSession | logOffUserSession | endSession | isVCAllowed | ping
  deriving DecidableEq, Repr

namespace CallIn

def requestId : CallIn → UInt32
  | .isVCAllowed => Rpc.requestId 1001
  | .ping => Rpc.requestId 1002
  | .logonUser => Rpc.requestId 1003
  | .logOffUserSession => Rpc.requestId 1004
  | .disconnectUserSession => Rpc.requestId 1005
  | .authenticateUser => Rpc.requestId 1007
  | .endSession => Rpc.requestId 1008

/-- `CALL_FACTORY.createClass`. -/
def createClass (callType : UInt32) : Option CallIn :=
  [logonUser, authenticateUser, disconnectUserSession, logOffUserSession, endSession, isVCAllowed, ping].find?
    fun call => call.requestId = callType

/-- The type of `m_Request`. -/
def Request : CallIn → Type
  | .logonUser => LogonUserRequest
  | .authenticateUser => StartSessionRequest
  | .disconnectUserSession => DisconnectUserRequest
  | .logOffUserSession => LogoffUserRequest
  | .endSession => EndSessionRequest
  | .isVCAllowed => ChannelAllowedRequest
  | .ping => HeartbeatRequest

def fields : (call : CallIn) → List (Field call.Request)
  | .logonUser =>
    [uint32Field fun value (request : LogonUserRequest) => { request with connectionId := value },
      cstrField fun value (request : LogonUserRequest) => { request with user := value },
      cstrField fun value (request : LogonUserRequest) => { request with domain := value },
      cstrField fun value (request : LogonUserRequest) => { request with password := value },
      uint32Field fun value (request : LogonUserRequest) => { request with desktopWidth := value },
      uint32Field fun value (request : LogonUserRequest) => { request with desktopHeight := value },
      uint32Field fun value (request : LogonUserRequest) => { request with colorDepth := value },
      cstrField fun value (request : LogonUserRequest) => { request with clientName := value },
      cstrField fun value (request : LogonUserRequest) => { request with clientAddress := value },
      uint32Field fun value (request : LogonUserRequest) => { request with clientBuild := value },
      uint32Field fun value (request : LogonUserRequest) => { request with clientProductId := value },
      uint32Field fun value (request : LogonUserRequest) => { request with clientHardwareId := value },
      uint32Field fun value (request : LogonUserRequest) => { request with clientProtocolType := value }]
  | .authenticateUser =>
    [uint32Field fun value (request : StartSessionRequest) => { request with sessionId := value },
      cstrField fun value (request : StartSessionRequest) => { request with user := value },
      cstrField fun value (request : StartSessionRequest) => { request with domain := value },
      cstrField fun value (request : StartSessionRequest) => { request with password := value }]
  | .disconnectUserSession => [uint32Field fun value _ => DisconnectUserRequest.mk value]
  | .logOffUserSession => [uint32Field fun value _ => LogoffUserRequest.mk value]
  | .endSession => [uint32Field fun value _ => EndSessionRequest.mk value]
  | .isVCAllowed => [cstrField fun value _ => ChannelAllowedRequest.mk value]
  | .ping => [uint32Field fun value _ => HeartbeatRequest.mk value]

/-- `freerds_rpc_msg_unpack`: whether it succeeds, and the request as it leaves it. -/
def unpack (call : CallIn) (request : call.Request) (object : Option MsgpackObject) : Bool × call.Request :=
  unpackRequest call.fields request object

structure Members (call : CallIn) where
  /-- `m_Request`. -/
  request : call.Request
  /-- `m_Response.status`. -/
  status : UInt32

/-- `doStuff` and `encodeResponse` on a decoded request: `mResult` and `mEncodedResponse`. -/
def respond (config : Config) (answers : Answers) (status : UInt32) :
    (call : CallIn) → call.Request → Handler (UInt32 × MsgpackObject)
  | .logonUser, request => do
      let reply ← (CallInLogonUser.decodeRequest request).doStuff config answers
      pure (reply.result, .array [.packUint32 status, .packCstr (some reply.pipeName)])
  | .authenticateUser, request => do
      let reply ← (CallInAuthenticateUser.decodeRequest request).doStuff config answers
      pure (reply.result, .array [.packUint32 (if reply.authStatus = 0 then 0 else 1), .packCstr none])
  | .disconnectUserSession, request => do
      let _ ← CallInDisconnectUserSession.doStuff config (DisconnectUserRequest.connectionId request)
      pure (0, .array [.packUint32 status, .packUint32 (DisconnectUserRequest.connectionId request)])
  | .logOffUserSession, request => do
      let _ ← CallInLogOffUserSession.doStuff config (LogoffUserRequest.connectionId request)
      pure (0, .array [.packUint32 status, .packUint32 (LogoffUserRequest.connectionId request)])
  | .endSession, request => do
      let _ ← CallInEndSession.doStuff (EndSessionRequest.sessionId request)
      pure (0, .array [.packUint32 0, .packUint32 (EndSessionRequest.sessionId request)])
  | .isVCAllowed, _ => pure (0, .array [.packUint32 status, .boolean true])
  | .ping, request => pure (0, .array [.packUint32 status, .packUint32 (HeartbeatRequest.heartbeatId request)])

end CallIn

/-- `send` of a `CallIn`. A failed call is answered without a payload. -/
def sendResponse (call : CallIn) (callId : UInt32) (reply : UInt32 × MsgpackObject) : Packet :=
  let msgType := responseId call.requestId
  if reply.1 ≠ 0 then ⟨⟨msgType, callId, statusFailed⟩, none⟩
  else ⟨⟨msgType, callId, statusSuccess⟩, some reply.2⟩

def sendError (callId msgType : UInt32) : Packet := ⟨⟨responseId msgType, callId, statusNotFound⟩, none⟩

/-- What the manager has around it: msgpack, and the memory in which calls are created. -/
structure RequestEnvironment where
  unpackNext : List UInt8 → Option MsgpackObject
  members : (call : CallIn) → call.Members

variable (config : Config) (answers : Answers)

/-- `processData` on a request: the packet it answers with. -/
def processRequest (env : RequestEnvironment) (header : Header)
    (payload : List UInt8) : Handler Packet :=
  match CallIn.createClass header.msgType with
  | none => pure (sendError header.callId header.msgType)
  | some call => do
      let members := env.members call
      let request := (call.unpack members.request (env.unpackNext payload)).2
      let reply ← call.respond config answers members.status request
      pure (sendResponse call header.callId reply)

/-! ## Malformed requests -/

structure SameEntries (m m' : ApplicationContext) : Prop where
  sessions : ∀ id, m'.sessionStore.getSession id = m.sessionStore.getSession id
  connections : ∀ id, m'.connectionStore.getConnection id = m.connectionStore.getConnection id

theorem not_sameEntries_of_insert {m m' : ApplicationContext}
    (h : m'.sessionStore.map = m.sessionStore.map.insert m.sessionStore.nextSessionId m.sessionStore.heap.next) :
    ¬SameEntries m m' := by
  intro hsame
  obtain ⟨⟨id, hnew⟩, hold⟩ := ApplicationContext.stores_next_of_insert h
  exact hold ⟨id, (hsame.sessions id).symm.trans hnew⟩

theorem createClass_requestId (call : CallIn) : CallIn.createClass call.requestId = some call := by
  cases call <;> decide

theorem sendResponse_status_eq {call : CallIn} {callId : UInt32} {reply : UInt32 × MsgpackObject}
    (h : (sendResponse call callId reply).header.status ≠ statusSuccess) : reply.1 ≠ 0 := by
  intro hzero
  simp [sendResponse, hzero] at h

theorem respond_failed (status : UInt32) (m : ApplicationContext)
    (call : CallIn) (request : call.Request)
    (h : ((call.respond config answers status request).run m).1.1 ≠ 0) :
    ¬SameEntries m ((call.respond config answers status request).run m).2 := by
  intro hsame
  cases call with
  | logonUser =>
    have hwp := @logonUser_doStuff_wp config ⟨m, none⟩ _ answers request rfl
    have houtc := ((wp_iff_run _).mp hwp).2
    simp only [CallIn.respond, run_bind, run_pure] at h hsame
    exact not_sameEntries_of_insert (houtc.failed h) hsame
  | authenticateUser =>
    have hwp := @startSession_doStuff_wp config ⟨m, none⟩ _ answers request rfl
    have houtc := ((wp_iff_run _).mp hwp).2
    simp only [CallIn.respond, run_bind, run_pure] at h hsame
    exact not_sameEntries_of_insert (houtc.1 h) hsame
  | disconnectUserSession | logOffUserSession | endSession | isVCAllowed | ping => simp [CallIn.respond] at h

/-- No registered call ever rejects a payload that cannot be unpacked: either it answers with success,
or there is a session in the store that was not there before. -/
theorem malformed_never_rejected (env : RequestEnvironment)
    (m : ApplicationContext) (call : CallIn) (header : Header) (payload : List UInt8)
    (htype : header.msgType = call.requestId)
    (_ : (call.unpack (env.members call).request (env.unpackNext payload)).1 = false) :
    let done := (processRequest config answers env header payload).run m
    ¬(done.1.header.status ≠ statusSuccess ∧ SameEntries m done.2) := by
  intro done ⟨hstat, hsame⟩
  simp only [done, processRequest, htype, createClass_requestId, run_bind, run_pure] at hstat hsame
  exact respond_failed config answers _ m call _ (sendResponse_status_eq hstat) hsame

namespace Sample

/-- Nothing can be unpacked, and the calls are created where requests of an earlier time have been. -/
def stale : RequestEnvironment where
  unpackNext _ := none
  members
    | .logonUser => ⟨Manager.Sample.logonRequest 2 "bob" "secret", 0⟩
    | .authenticateUser => ⟨Manager.Sample.startRequest, 0⟩
    | .disconnectUserSession => ⟨⟨1⟩, 0⟩
    | .logOffUserSession => ⟨⟨1⟩, 0⟩
    | .endSession => ⟨⟨1⟩, 0⟩
    | .isVCAllowed => ⟨⟨none⟩, 0⟩
    | .ping => ⟨⟨0⟩, 0⟩

end Sample

theorem malformed_logon_not_rejected :
    let done := (processRequest Manager.Sample.config Manager.Sample.moduleless Sample.stale
      ⟨CallIn.logonUser.requestId, 7, 0⟩ []).run Manager.Sample.greeted
    ¬(done.1.header.status ≠ statusSuccess ∧ SameEntries Manager.Sample.greeted done.2) :=
  malformed_never_rejected _ _ Sample.stale _ .logonUser ⟨_, 7, 0⟩ [] rfl rfl

/-- An empty LogoffUser request ends the session of another user's connection, and succeeds. -/
theorem malformed_logoff_succeeds :
    let done := (processRequest Manager.Sample.config Manager.Sample.answers Sample.stale
      ⟨CallIn.logOffUserSession.requestId, 7, 0⟩ []).run Manager.Sample.greeted
    (CallIn.logOffUserSession.unpack (Sample.stale.members .logOffUserSession).request
        (Sample.stale.unpackNext [])).1 = false ∧
      done.1.header.status = statusSuccess ∧ Manager.Sample.greeted.sessionStore.getSession 1 ≠ none ∧
      done.2.sessionStore.getSession 1 = none := by
  decide +kernel

end FreeRDS.Rpc
