import FreeRDS.Manager.Tasks
import FreeRDS.Rpc.Message

/-! # The way of a SwitchTo call

`TaskSwitchTo` puts a `CallOutSwitchTo` into the outgoing queue of the RPC engine. The
request crosses the manager's pipe, is posted to the thread of the connection, which connects
to the new endpoint and answers, and the answer crosses the pipe back to the engine. The
functions below are the hops in that order.
-/

namespace FreeRDS.Rpc

open Lib Manager

inductive Handle
  | null | invalid | pipe
  deriving DecidableEq, Repr

structure BackendPipe where
  waitNamedPipe : Option String → Bool
  createFile : Option String → Handle
  /-- All bytes of the initial packet get through `freerds_named_pipe_write`. -/
  write : Handle → Bool

structure Connector where
  endpoint : Option String
  hClientPipe : Handle := .null
  /-- `ServerThread` runs. -/
  started : Bool := false
  deriving DecidableEq, Repr

variable (backend : BackendPipe) (pipeName : Option String)

def namedPipeConnect : Handle :=
  if backend.waitNamedPipe pipeName then
    match backend.createFile pipeName with
    | .pipe => .pipe
    | _ => .null
  else .null

/-- `freerds_connector_connect`: a failed connect is `NULL`, the test is for `INVALID_HANDLE_VALUE`. -/
def connectorConnect (backend : BackendPipe) (connector : Connector) : Bool × Connector :=
  let hClientPipe := namedPipeConnect backend connector.endpoint
  if hClientPipe = .invalid then (false, connector)
  else if backend.write hClientPipe then
    (true, { connector with hClientPipe := hClientPipe, started := true })
  else (false, connector)

structure Freerds where
  backend : BackendPipe
  /-- `g_Server->connections`. -/
  connections : UInt32 → Bool
  /-- The connection's thread gets to the notification before it ends. -/
  serves : UInt32 → Bool
  /-- Both writes of `pbrpc_send_message` succeed. -/
  sendsResponse : Bool

/-- `freerds_icp_SwitchServiceEndpointResponse`: the packet, with the status it is sent with. -/
def switchServiceEndpointResponse (response : SwitchServiceEndpointResponse) : Packet :=
  let response : SwitchServiceEndpointResponse :=
    ⟨{ response.header with status := 0, msgType := responseId switchServiceEndpointRequestId }⟩
  { header := response.header, buffer := some response.pack }

/-- `freerds_icp_SwitchServiceEndpoint`: the notification it posts. Nothing is sent in its place
when there is no such connection. -/
def icpSwitchServiceEndpoint (freerds : Freerds) (msg : Packet) : Option SwitchServiceEndpointRequest :=
  let request := (SwitchServiceEndpointRequest.unpack { header := msg.header } msg.buffer).2
  if freerds.connections request.connectionId then some request else none

/-- `pbrpc_process_message_in`, for the requests of this module. -/
def processMessageIn (freerds : Freerds) (msg : Packet) : Option SwitchServiceEndpointRequest :=
  if isResponseId msg.header.msgType then none
  else if msg.header.msgType = switchServiceEndpointRequestId then icpSwitchServiceEndpoint freerds msg
  else none

/-- The connector that a connection has after a switch, and the response that was sent. -/
structure SwitchSession where
  connector : Connector
  response : Option Packet
  /-- The value returned to the loop of the connection, which ends on `FALSE`. -/
  result : Bool

/-- `freerds_client_process_switch_session`. -/
def processSwitchSession (freerds : Freerds) (request : SwitchServiceEndpointRequest) : SwitchSession :=
  let (status, connector) := connectorConnect freerds.backend { endpoint := request.serviceEndpoint }
  let response := switchServiceEndpointResponse
    ⟨{ msgType := responseId request.header.msgType, callId := request.header.callId
       status := if status then 0 else 1 }⟩
  { connector := connector
    response := if freerds.sendsResponse then some response else none
    result := freerds.sendsResponse }

def processNotification (freerds : Freerds) (request : SwitchServiceEndpointRequest) : Option SwitchSession :=
  if freerds.serves request.connectionId then some (processSwitchSession freerds request) else none

/-- A `CallOutSwitchTo` in the hands of the engine. -/
structure CallOut where
  ptr : Ptr
  tag : UInt32 := 0
  connectionId : UInt32
  serviceEndpoint : String
  success : Bool := false
  /-- `setResult` has been called. -/
  result : Option UInt32 := none
  deriving DecidableEq, Repr

namespace CallOut

def encodeRequest (call : CallOut) : MsgpackObject :=
  SwitchServiceEndpointRequest.pack
    { header := ⟨0, 0, 0⟩, connectionId := call.connectionId, serviceEndpoint := some call.serviceEndpoint }

/-- The call as `TaskSwitchTo` finds it once its answer event is set. -/
def answer (call : CallOut) : Option CallOutSwitchTo :=
  call.result.map fun result => { result := result, success := call.success }

end CallOut

structure RpcEngine where
  nextOutCall : UInt32
  answerWaitingQueue : List CallOut

namespace RpcEngine

/-- The packet that is written, if writing succeeds; otherwise the call gets its result at once. -/
def processOutgoingCall (engine : RpcEngine) (call : CallOut) (sends : Bool) :
    Option Packet × CallOut × RpcEngine :=
  let call := { call with tag := engine.nextOutCall }
  let engine := { engine with nextOutCall := engine.nextOutCall + 1 }
  let header : Header :=
    { msgType := requestId switchServiceEndpointRequestId, callId := call.tag, status := statusSuccess }
  if sends then
    (some ⟨header, some call.encodeRequest⟩, call,
      { engine with answerWaitingQueue := engine.answerWaitingQueue ++ [call] })
  else (none, { call with result := some 1 }, engine)

/-- `processData` for a response: the first call with that tag is answered by the status. -/
def processData (engine : RpcEngine) (msg : Packet) : Option CallOut :=
  if isResponseId msg.header.msgType then
    (engine.answerWaitingQueue.find? fun call => call.tag = msg.header.callId).map fun call =>
      if msg.header.status = statusSuccess then { call with success := true, result := some 0 }
      else if msg.header.status = statusFailed then { call with result := some 1 }
      else if msg.header.status = statusNotFound then { call with result := some 2 }
      else call
  else none

end RpcEngine

/-- What the task learns, and what became of the connector if the request got that far. -/
structure SwitchOutcome where
  answer : Option CallOutSwitchTo
  connector : Option Connector

def switchTo (freerds : Freerds) (engine : RpcEngine) (sendsRequest : Bool) (ptr : Ptr) (task : TaskSwitchTo) :
    SwitchOutcome :=
  let (request, call, engine) := engine.processOutgoingCall
    { ptr := ptr, connectionId := task.connectionId, serviceEndpoint := task.serviceEndpoint } sendsRequest
  match request with
  | none => ⟨call.answer, none⟩
  | some request =>
    match (processMessageIn freerds request).bind (processNotification freerds) with
    | none => ⟨none, none⟩
    | some session =>
      let answered := session.response.bind engine.processData
      ⟨(answered.filter fun found => found.ptr = ptr).bind CallOut.answer, some session.connector⟩

namespace SwitchOutcome

variable (outcome : SwitchOutcome)

/-- `TaskSwitchTo::run` goes on to end the old session and to bind the connection. -/
def Completes : Prop :=
  ∃ call ∈ outcome.answer, TaskSwitchTo.switchFailed call = false

def SeenAsFailed : Prop :=
  ∃ call ∈ outcome.answer, TaskSwitchTo.switchFailed call = true

def Connected : Prop :=
  ∃ connector ∈ outcome.connector, connector.hClientPipe = .pipe

/-- The manager completes a switch only on a connected connector, and takes one that freerds failed
to connect for a failed switch. -/
structure Faithful (outcome : SwitchOutcome) : Prop where
  completes : outcome.Completes → outcome.Connected
  failed : outcome.connector.isSome → ¬outcome.Connected → outcome.SeenAsFailed

end SwitchOutcome

/-! ## When the result arrives -/

section Way

variable (freerds : Freerds) (engine : RpcEngine) (sendsRequest : Bool) (ptr : Ptr) (task : TaskSwitchTo)

def Reaches : Prop :=
  sendsRequest = true ∧ freerds.connections task.connectionId = true ∧ freerds.serves task.connectionId = true

/-- The backend service takes the connection and the initial packet. -/
def BackendPipe.Accepts : Prop :=
  backend.waitNamedPipe pipeName = true ∧ backend.createFile pipeName = .pipe ∧ backend.write .pipe = true

theorem namedPipeConnect_cases :
    namedPipeConnect backend pipeName = .pipe ∧ backend.waitNamedPipe pipeName = true ∧
        backend.createFile pipeName = .pipe ∨
    namedPipeConnect backend pipeName = .null ∧
      ¬(backend.waitNamedPipe pipeName = true ∧ backend.createFile pipeName = .pipe) := by
  unfold namedPipeConnect
  cases backend.waitNamedPipe pipeName <;> cases backend.createFile pipeName <;> simp

theorem connectorConnect_connected :
    (connectorConnect backend { endpoint := pipeName }).2.hClientPipe = .pipe ↔ backend.Accepts pipeName := by
  unfold connectorConnect BackendPipe.Accepts
  obtain ⟨hpipe, hwait, hcreate⟩ | ⟨hnull, hrefused⟩ := namedPipeConnect_cases backend pipeName
  · simp only [hpipe, hwait, hcreate, reduceCtorEq, if_false, true_and]
    cases backend.write .pipe <;> simp
  · simp only [hnull, reduceCtorEq, if_false]
    refine iff_of_false ?_ fun h => hrefused ⟨h.1, h.2.1⟩
    cases backend.write .null <;> simp

def endpointOf (task : TaskSwitchTo) : Option String :=
  (some task.serviceEndpoint).filter fun s => !s.isEmpty

theorem processMessageIn_encodeRequest (call : CallOut) (callId status : UInt32) :
    processMessageIn freerds
        ⟨⟨requestId switchServiceEndpointRequestId, callId, status⟩, some call.encodeRequest⟩ =
      if freerds.connections call.connectionId then
        some { header := ⟨requestId switchServiceEndpointRequestId, callId, status⟩
               connectionId := call.connectionId
               serviceEndpoint := (some call.serviceEndpoint).filter fun s => !s.isEmpty }
      else none := by
  have hreq : isResponseId switchServiceEndpointRequestId = false := by decide
  have htype : requestId switchServiceEndpointRequestId = switchServiceEndpointRequestId := by decide
  simp [processMessageIn, icpSwitchServiceEndpoint, CallOut.encodeRequest, hreq, htype, SwitchServiceEndpointRequest.unpack_pack]

theorem processData_switchServiceEndpointResponse (response : SwitchServiceEndpointResponse)
    {call : CallOut}
    (h : engine.processData (switchServiceEndpointResponse response) = some call) :
    call.answer = some { result := 0, success := true } := by
  have hresp : isResponseId (responseId switchServiceEndpointRequestId) = true := by decide
  simp only [RpcEngine.processData, switchServiceEndpointResponse, hresp, statusSuccess, if_true,
    Option.map_eq_some_iff] at h
  obtain ⟨found, -, rfl⟩ := h
  rfl

theorem switchTo_of_reaches (h : Reaches freerds sendsRequest task) :
    (switchTo freerds engine sendsRequest ptr task).connector =
        some (connectorConnect freerds.backend { endpoint := endpointOf task }).2 ∧
      ¬(switchTo freerds engine sendsRequest ptr task).SeenAsFailed := by
  obtain ⟨rfl, hconn, hserves⟩ := h
  simp only [switchTo, RpcEngine.processOutgoingCall, if_true, processMessageIn_encodeRequest, hconn,
    Option.bind_some, processNotification, hserves, processSwitchSession]
  refine ⟨rfl, ?_⟩
  rintro ⟨call, hcall, hfail⟩
  simp only [Option.mem_def, Option.bind_eq_some_iff, Option.filter_eq_some_iff] at hcall
  obtain ⟨found, ⟨⟨response, hsent, hfound⟩, -⟩, hans⟩ := hcall
  split at hsent
  · cases hsent
    rw [processData_switchServiceEndpointResponse _ _ hfound] at hans
    cases hans
    cases hfail
  · cases hsent

theorem switchTo_of_not_reaches (h : ¬Reaches freerds sendsRequest task) :
    (switchTo freerds engine sendsRequest ptr task).connector = none ∧
      ¬(switchTo freerds engine sendsRequest ptr task).Completes := by
  cases sendsRequest with
  | false => simp [switchTo, RpcEngine.processOutgoingCall, SwitchOutcome.Completes, CallOut.answer,
      TaskSwitchTo.switchFailed]
  | true =>
    have hlost : (switchTo freerds engine true ptr task) = ⟨none, none⟩ := by
      simp only [switchTo, RpcEngine.processOutgoingCall, if_true, processMessageIn_encodeRequest]
      by_cases hconn : freerds.connections task.connectionId = true
      · have hserves : ¬freerds.serves task.connectionId = true := fun hserves =>
          h ⟨rfl, hconn, hserves⟩
        simp [hconn, processNotification, hserves]
      · simp [hconn]
    simp [hlost, SwitchOutcome.Completes]

end Way

/-- For every request: the manager's view of a switch is right exactly if the request does not get as
far as the connection's thread, or the backend service takes the connection. -/
theorem switch_result_faithful_iff (freerds : Freerds) (engine : RpcEngine) (sendsRequest : Bool)
    (ptr : Ptr)
    (task : TaskSwitchTo) :
    (switchTo freerds engine sendsRequest ptr task).Faithful ↔
      (Reaches freerds sendsRequest task → freerds.backend.Accepts (endpointOf task)) := by
  rw [← connectorConnect_connected]
  constructor
  · intro hfaithful hreaches
    obtain ⟨hconnector, hunseen⟩ := switchTo_of_reaches freerds engine sendsRequest ptr task hreaches
    by_contra hfail
    refine hunseen (hfaithful.failed ?_ ?_)
    · rw [hconnector]
      rfl
    · rintro ⟨connector, hmem, hpipe⟩
      rw [hconnector] at hmem
      cases hmem
      exact hfail hpipe
  · intro haccepts
    by_cases hreaches : Reaches freerds sendsRequest task
    · obtain ⟨hconnector, -⟩ := switchTo_of_reaches freerds engine sendsRequest ptr task hreaches
      have hconn : (switchTo freerds engine sendsRequest ptr task).Connected :=
        ⟨_, hconnector, haccepts hreaches⟩
      exact ⟨fun _ => hconn, fun _ h => absurd hconn h⟩
    · obtain ⟨hconnector, hincomp⟩ :=
        switchTo_of_not_reaches freerds engine sendsRequest ptr task hreaches
      refine ⟨fun h => absurd h hincomp, fun hsome => ?_⟩
      rw [hconnector] at hsome
      cases hsome

namespace Sample

def freerds : Freerds where
  backend := { waitNamedPipe := fun _ => false, createFile := fun _ => .invalid, write := fun _ => false }
  connections := fun id => id = 1
  serves := fun _ => true
  sendsResponse := true

def task : TaskSwitchTo where
  connectionId := 1
  serviceEndpoint := "pipe2"
  oldSessionId := 1
  newSessionId := 2
  newSession := 1

end Sample

/-- The connect fails, and the manager completes the switch. -/
theorem failed_connect_completes_switch :
    ¬(switchTo Sample.freerds ⟨1, []⟩ true 0 Sample.task).Faithful := by
  intro h
  obtain ⟨connector, hconnector, hpipe⟩ :=
    h.completes ⟨{ result := 0, success := true }, by decide +kernel, rfl⟩
  cases hconnector
  cases hpipe

end FreeRDS.Rpc
