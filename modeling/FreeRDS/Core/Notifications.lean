import FreeRDS.Lib.Run
import FreeRDS.Rpc.Message
import Mathlib.Logic.Function.Basic

/-! # Requests from the manager

The pbrpc thread answers a heartbeat itself. A request for a connection it hands over: it looks the connection up
and posts the request to its notification queue, and the thread of the connection answers when it gets there. The
thread may leave its loop at any time, and it takes its connection out of the dictionary and frees the context
after that. One step of the machine is one access to what the threads share.
-/

namespace FreeRDS.Core

open Lib Rpc

/-! ## Requests -/

/-- The requests that `pbrpc_process_request` has a function for. -/
inductive RequestKind
  | heartbeat | switchServiceEndpoint | logoffUser | channelEndpointOpen
  deriving DecidableEq, Repr

namespace RequestKind

def msgType : RequestKind → UInt32
  | .heartbeat => requestId 1002
  | .logoffUser => requestId 1004
  | .switchServiceEndpoint => switchServiceEndpointRequestId
  | .channelEndpointOpen => requestId 1009

def ofMsgType (msgType : UInt32) : Option RequestKind :=
  [heartbeat, switchServiceEndpoint, logoffUser, channelEndpointOpen].find? fun kind => kind.msgType = msgType

end RequestKind

/-- `cb` in `pbrpc_process_request`. -/
inductive Callback
  | icp (kind : RequestKind)
  | null
  /-- The variable has no initial value, and the `switch` has no default. -/
  | wild
  deriving DecidableEq, Repr

/-- `cbIsNull` is whether the memory of `cb` happens to be zero. -/
def callback (msgType : UInt32) (cbIsNull : Bool) : Callback :=
  match RequestKind.ofMsgType msgType with
  | some kind => .icp kind
  | none => if cbIsNull then .null else .wild

/-- A request, with the connection id that was unpacked from its payload. -/
structure Request where
  msgType : UInt32
  callId : UInt32
  connectionId : UInt32
  deriving DecidableEq, Repr

def Request.response (request : Request) (status : UInt32) : Header :=
  { msgType := responseId request.msgType, callId := request.callId, status := status }

/-! ## The server -/

inductive Phase
  | absent
  /-- `freerds_peer_accepted` has made the context and the thread. -/
  | accepted
  | serving
  | leaving
  /-- `freerds_server_remove_connection` has been called. -/
  | removed
  /-- `freerdp_peer_context_free` has been called. -/
  | freed
  deriving DecidableEq, Repr

structure Connection where
  id : UInt32 := 0
  phase : Phase := .absent
  /-- `connection->connector` is not `NULL`. -/
  connector : Bool := false
  deriving DecidableEq, Repr

inductive RpcThread
  | waiting
  /-- `freerds_server_get_connection` has returned a connection. -/
  | found (request : Request) (context : Nat)
  deriving DecidableEq, Repr

structure Server where
  connectionId : UInt32
  contexts : Nat → Connection
  nextContext : Nat
  /-- `server->connections`. -/
  connections : List (UInt32 × Nat)
  /-- The notification queues of the connections that are being served, each entry with its connection. -/
  posted : List (Nat × Request)
  rpc : RpcThread
  crashed : Bool
  received : List Request
  responses : List Header
  lost : List Request

inductive Event
  | accept
  | start (p : Nat)
  | postConnect (p : Nat)
  | receive (request : Request) (cbIsNull : Bool)
  | post (request : Request) (p : Nat)
  /-- A turn of the loop with a notification; whether `freerds_channel_new` gives a channel, and whether the channel
  gets ready in time. -/
  | process (p : Nat) (request : Request) (channel ready : Bool)
  | leave (p : Nat)
  | remove (p : Nat)
  | free (p : Nat)
  deriving DecidableEq, Repr

namespace Server

/-- `freerds_server_new`. -/
def new : Server where
  connectionId := 0
  contexts _ := {}
  nextContext := 0
  connections := []
  posted := []
  rpc := .waiting
  crashed := false
  received := []
  responses := []
  lost := []

variable (s : Server)

variable (p : Nat)

def update (f : Connection → Connection) : Server :=
  { s with contexts := Function.update s.contexts p (f (s.contexts p)) }

def setPhase (phase : Phase) : Server :=
  s.update p fun connection => { connection with phase := phase }

/-- `freerds_server_get_connection`. -/
def getConnection (id : UInt32) : Option Nat :=
  (s.connections.find? fun entry => entry.1 = id).map (·.2)

/-- `connection->notifications`. -/
def queue : List Request :=
  (s.posted.filter fun entry : Nat × Request => entry.1 = p).map (·.2)

/-- `MessageQueue_Peek`. -/
def notification : Option Request :=
  (s.posted.find? fun entry => entry.1 = p).map (·.2)

variable (request : Request)

def respond (status : UInt32) : Server :=
  { s with responses := request.response status :: s.responses }

def lose : Server := { s with lost := request :: s.lost }

/-- The thread leaves its loop, and nobody looks at its queue any more. -/
def leaveLoop : Server :=
  { s with posted := s.posted.filter fun entry => entry.1 ≠ p, lost := s.queue p ++ s.lost }.setPhase p .leaving

/-- `pbrpc_process_request`, as far as the lookup of the connection. The functions for the requests that are handed
over return without a response if there is no such connection. -/
def processRequest (cbIsNull : Bool) : Server :=
  match callback request.msgType cbIsNull with
  | .icp .heartbeat => s.respond request 0
  | .icp _ =>
    match s.getConnection request.connectionId with
    | none => s.lose request
    | some p => { s with rpc := .found request p }
  | .null => s.respond request statusNotFound
  | .wild => { s.lose request with crashed := true }

/-- `MessageQueue_Post`. -/
def post (p : Nat) : Server :=
  if (s.contexts p).phase = .serving then { s with posted := s.posted ++ [(p, request)] } else s.lose request

/-- `freerds_client_process_notification`, and what the loop does on its value. -/
def processNotification (request : Request) (channel ready : Bool) : Server :=
  match RequestKind.ofMsgType request.msgType with
  | some .switchServiceEndpoint =>
    -- freerds_connector_free takes the pointer as it is
    if (s.contexts p).connector then s.respond request 0 else { s.lose request with crashed := true }
  | some .logoffUser =>
    ((s.update p fun connection => { connection with connector := false }).respond request 0).leaveLoop p
  | some .channelEndpointOpen =>
    if channel then
      if ready then s.respond request 0 else (s.respond request 0).leaveLoop p
    else (s.lose request).leaveLoop p
  | some .heartbeat | none => (s.lose request).leaveLoop p

def Enabled (event : Event) : Prop :=
  s.crashed = false ∧
    match event with
    | .accept => True
    | .start p => (s.contexts p).phase = .accepted
    | .postConnect p | .leave p => (s.contexts p).phase = .serving
    | .receive _ _ => s.rpc = .waiting
    | .post request p => s.rpc = .found request p
    | .process p request _ _ => (s.contexts p).phase = .serving ∧ s.notification p = some request
    | .remove p => (s.contexts p).phase = .leaving
    | .free p => (s.contexts p).phase = .removed

def next : Event → Server
  | .accept =>
    { s with contexts := Function.update s.contexts s.nextContext { id := s.connectionId, phase := .accepted }
             nextContext := s.nextContext + 1
             connectionId := s.connectionId + 1 }
  | .start p => { s with connections := s.connections ++ [((s.contexts p).id, p)] }.setPhase p .serving
  | .postConnect p => s.update p fun connection => { connection with connector := true }
  | .receive request cbIsNull => { s with received := request :: s.received }.processRequest request cbIsNull
  | .post request p => { s with rpc := .waiting }.post request p
  | .process p request channel ready =>
    { s with posted := s.posted.eraseP fun entry => entry.1 = p }.processNotification p request channel ready
  | .leave p => s.leaveLoop p
  | .remove p =>
    { s with connections := s.connections.eraseP fun entry => entry.1 = (s.contexts p).id }.setPhase p .removed
  | .free p => s.setPhase p .freed

instance (s : Server) : (event : Event) → Decidable (s.Enabled event)
  | .accept => inferInstanceAs (Decidable (_ ∧ True))
  | .start _ | .postConnect _ | .leave _ | .receive _ _ | .post _ _ | .remove _ | .free _ =>
    inferInstanceAs (Decidable (_ ∧ _ = _))
  | .process _ _ _ _ => inferInstanceAs (Decidable (_ ∧ _ = _ ∧ _ = _))

def step (event : Event) : Server := if s.Enabled event then s.next event else s

end Server

end FreeRDS.Core
