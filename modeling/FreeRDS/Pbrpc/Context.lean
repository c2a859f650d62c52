import FreeRDS.Lib.Run
import Mathlib.Data.List.Perm.Basic
import Mathlib.Logic.Function.Basic

/-! # Calls from freerds to the manager

`pbrpc_call_method` and `pbrcp_call_method_async` run on the threads of the connections. A call registers a
transaction, puts its message into the write queue, and, if it is synchronous, waits for the callback of its
transaction. The main loop sends the messages, and runs the callbacks when responses come in and when the
transport has to be opened anew. One step of the machine below is one access to something the threads share.
-/

namespace FreeRDS.Pbrpc

open Lib

/-- `PBRPCSTATUS`, as far as a call makes one up. -/
def failed : UInt32 := 1

def transportError : UInt32 := 102

def callTimeout : UInt32 := 103

structure Response where
  callId : UInt32
  status : UInt32
  deriving DecidableEq, Repr

/-- The arguments of a callback, and whether the function that registered it had returned by then. -/
structure Invocation where
  reason : UInt32
  response : Option Response
  returned : Bool
  deriving DecidableEq, Repr

/-! ## Calls -/

inductive Kind
  /-- `pbrpc_call_method`, with its transaction on the stack. -/
  | callMethod
  /-- `pbrcp_call_method_async`, with its transaction on the heap. -/
  | callMethodAsync
  deriving DecidableEq, Repr

inductive Progress
  | absent
  | connected
  | tagged
  | registered
  /-- Its message is in the write queue, and it waits for ten seconds. -/
  | waiting
  | timedOut
  | waitingForever
  | finishing
  | returned
  deriving DecidableEq, Repr

structure Call where
  kind : Kind := .callMethod
  progress : Progress := .absent
  callId : UInt32 := 0
  invocations : List Invocation := []
  streamAllocated : Bool := true
  deriving DecidableEq, Repr

namespace Call

variable (call : Call)

/-- What `pbrpc_call_method` returns once its wait is over. -/
def result : UInt32 :=
  match call.invocations with
  | [] => callTimeout
  | invocation :: _ =>
    match invocation.response with
    | some response => response.status
    | none => if invocation.reason ≠ 0 then invocation.reason else failed

def Early : Prop :=
  call.progress = .absent ∨ call.progress = .connected ∨ call.progress = .tagged

/-- The function is past every use of its transaction, which is on its stack. -/
def Over : Prop :=
  call.progress = .finishing ∨ call.progress = .returned ∧ call.kind = .callMethod

def Unqueued : Prop := call.Early ∨ call.progress = .registered

def Finished : Prop := call.progress = .finishing ∨ call.progress = .returned

def Outstanding : Prop :=
  call.progress = .tagged ∨ call.progress = .registered ∨ call.progress = .waiting ∨ call.progress = .timedOut ∨
    call.progress = .waitingForever ∨
    call.progress = .returned ∧ call.kind = .callMethodAsync ∧ call.invocations = []

instance (call : Call) : Decidable call.Early := inferInstanceAs (Decidable (_ ∨ _))

instance (call : Call) : Decidable call.Over := inferInstanceAs (Decidable (_ ∨ _))

instance (call : Call) : Decidable call.Unqueued := inferInstanceAs (Decidable (_ ∨ _))

instance (call : Call) : Decidable call.Finished := inferInstanceAs (Decidable (_ ∨ _))

instance (call : Call) : Decidable call.Outstanding := inferInstanceAs (Decidable (_ ∨ _))

end Call

/-! ## The context -/

/-- Where `pbrpc_main_loop` is. -/
inductive MainLoop
  | connecting
  /-- In `WaitForMultipleObjects`. -/
  | waiting
  /-- `pbrpc_process_response` has looked up the transaction of a response. -/
  | found (response : Response) (call : Nat)
  /-- It has removed the entry of the call id, and is about to run the callback. -/
  | removed (response : Response) (call : Nat)
  /-- Between two messages of the write queue; whether the last of them could not be sent. -/
  | writing (failed : Bool)
  | dequeued (call : Nat)
  | headerWritten (call : Nat)
  /-- `pbrpc_reconnect` has closed the pipe. -/
  | closed
  | draining
  /-- It has taken a transaction out of the dictionary, and is about to run the callback. -/
  | drained (call : Nat)
  | stopped
  deriving DecidableEq, Repr

namespace MainLoop

/-- The call whose transaction the loop has looked up and not yet removed. -/
def lookedUp : MainLoop → Option Nat
  | .found _ call => some call
  | _ => none

def answers : MainLoop → Option Nat
  | .found _ call | .removed _ call | .drained call => some call
  | _ => none

/-- How many transactions of a call the loop has taken out of the dictionary. -/
def owns (i : Nat) : MainLoop → Nat
  | .removed _ call | .drained call => if call = i then 1 else 0
  | _ => 0

/-- How many messages of a call the loop has taken out of the write queue. -/
def sends (i : Nat) : MainLoop → Nat
  | .dequeued call | .headerWritten call => if call = i then 1 else 0
  | _ => 0

end MainLoop

structure Context where
  tag : UInt32
  isConnected : Bool
  loop : MainLoop
  writeQueue : List Nat
  /-- Call ids and the calls whose transactions are registered under them. -/
  transactions : List (UInt32 × Nat)
  calls : Nat → Call
  nextCall : Nat

inductive Event
  | call (kind : Kind)
  | getTag (i : Nat)
  | addTransaction (i : Nat)
  | enqueue (i : Nat)
  | wake (i : Nat)
  | timeout (i : Nat)
  | removeTransaction (i : Nat)
  | leave (i : Nat)
  | freeStream (i : Nat)
  | serverStop
  | connect (opened : Bool)
  | receive (response : Response)
  | remove (response : Response) (i : Nat)
  | callback (response : Response) (i : Nat)
  | readFails
  | beginWriting
  | dequeue (i : Nat)
  | writeHeader (i : Nat) (written : Bool)
  | writePayload (i : Nat) (written : Bool)
  | endWriting (failed : Bool)
  | clearQueue
  | removeHead (i : Nat)
  | drainCallback (i : Nat)
  | endDraining
  | exit
  deriving DecidableEq, Repr

namespace Context

/-- `pbrpc_server_new`. -/
def new : Context where
  tag := 0
  isConnected := false
  loop := .connecting
  writeQueue := []
  transactions := []
  calls _ := {}
  nextCall := 0

variable (s : Context)

/-- `ListDictionary_GetItemValue`. -/
def getItemValue (callId : UInt32) : Option Nat :=
  (s.transactions.find? fun entry => entry.1 = callId).map (·.2)

/-- `ListDictionary_Remove`: the first entry of a call id. -/
def removeItem (callId : UInt32) : Context :=
  { s with transactions := s.transactions.eraseP fun entry => entry.1 = callId }

def update (i : Nat) (f : Call → Call) : Context :=
  { s with calls := Function.update s.calls i (f (s.calls i)) }

def setProgress (i : Nat) (progress : Progress) : Context :=
  s.update i fun call => { call with progress := progress }

@[simp] theorem setProgress_calls_self (i : Nat) (progress : Progress) :
    (s.setProgress i progress).calls i = { s.calls i with progress := progress } := by
  simp [setProgress, update]

/-- Run the callback of a call. For a synchronous call it sets the event that the call waits for. -/
def invoke (i : Nat) (reason : UInt32) (response : Option Response) : Context :=
  s.update i fun call =>
    { call with invocations := call.invocations ++ [⟨reason, response, call.progress = .returned⟩] }

/-- The first look at `isConnected`. -/
def entered (kind : Kind) : Call :=
  if s.isConnected then { kind := kind, progress := .connected }
  else
    match kind with
    | .callMethod => { kind := kind, progress := .returned }
    | .callMethodAsync =>
      { kind := kind, progress := .returned, invocations := [⟨transportError, none, false⟩] }

def Enabled : Event → Prop
  | .call _ | .serverStop => True
  | .getTag i => (s.calls i).progress = .connected
  | .addTransaction i => (s.calls i).progress = .tagged
  | .enqueue i => (s.calls i).progress = .registered
  | .wake i =>
    ((s.calls i).progress = .waiting ∨ (s.calls i).progress = .waitingForever) ∧ (s.calls i).invocations ≠ []
  | .timeout i => (s.calls i).progress = .waiting ∧ (s.calls i).invocations = []
  | .removeTransaction i => (s.calls i).progress = .timedOut
  | .leave i => (s.calls i).progress = .finishing ∧ (s.calls i).kind = .callMethod
  | .freeStream i => (s.calls i).progress = .returned ∧ (s.calls i).kind = .callMethod
  | .connect _ => s.loop = .connecting
  | .receive _ | .readFails | .beginWriting | .exit => s.loop = .waiting
  | .remove response i => s.loop = .found response i
  | .callback response i => s.loop = .removed response i
  | .dequeue i => (s.loop = .writing false ∨ s.loop = .writing true) ∧ s.writeQueue.head? = some i
  | .writeHeader i _ => s.loop = .dequeued i
  | .writePayload i _ => s.loop = .headerWritten i
  | .endWriting failed => s.loop = .writing failed ∧ s.writeQueue = []
  | .clearQueue => s.loop = .closed
  | .removeHead i => s.loop = .draining ∧ s.transactions.head?.map (·.2) = some i
  | .drainCallback i => s.loop = .drained i
  | .endDraining => s.loop = .draining ∧ s.transactions = []

def next : Event → Context
  | .call kind =>
    { s with calls := Function.update s.calls s.nextCall (s.entered kind), nextCall := s.nextCall + 1 }
  | .getTag i =>
    { s with tag := s.tag + 1 }.update i fun call => { call with callId := s.tag + 1, progress := .tagged }
  | .addTransaction i =>
    { s with transactions := s.transactions ++ [((s.calls i).callId, i)] }.setProgress i .registered
  | .enqueue i =>
    { s with writeQueue := s.writeQueue ++ [i] }.setProgress i
      (if (s.calls i).kind = Kind.callMethod then .waiting else .returned)
  | .wake i => s.setProgress i .finishing
  | .timeout i => s.setProgress i .timedOut
  | .removeTransaction i =>
    match s.getItemValue (s.calls i).callId with
    | none => s.setProgress i .waitingForever
    | some _ => (s.removeItem (s.calls i).callId).setProgress i .finishing
  | .leave i => s.setProgress i .returned
  | .freeStream i => s.update i fun call => { call with streamAllocated := false }
  | .serverStop => { s with isConnected := false }
  | .connect opened =>
    if opened then { s with isConnected := true, loop := .waiting } else { s with loop := .stopped }
  | .receive response =>
    match s.getItemValue response.callId with
    | none => s
    | some i => { s with loop := .found response i }
  | .remove response i => { s.removeItem response.callId with loop := .removed response i }
  | .callback response i => { s with loop := .waiting }.invoke i response.status (some response)
  | .readFails => { s with isConnected := false, loop := .closed }
  | .beginWriting => { s with loop := .writing false }
  | .dequeue i => { s with writeQueue := s.writeQueue.tail, loop := .dequeued i }
  | .writeHeader i written => { s with loop := if written then .headerWritten i else .writing true }
  | .writePayload _ written => { s with loop := .writing !written }
  | .endWriting failed =>
    if failed then { s with isConnected := false, loop := .closed } else { s with loop := .waiting }
  | .clearQueue => { s with writeQueue := [], loop := .draining }
  | .removeHead i => { s with transactions := s.transactions.tail, loop := .drained i }
  | .drainCallback i => { s with loop := .draining }.invoke i transportError none
  | .endDraining => { s with loop := .connecting }
  | .exit => { s with loop := .stopped }

instance (s : Context) : (event : Event) → Decidable (s.Enabled event)
  | .call _ | .serverStop => inferInstanceAs (Decidable True)
  | .getTag _ | .addTransaction _ | .enqueue _ | .removeTransaction _ | .connect _ | .receive _ | .readFails
  | .beginWriting | .exit | .remove _ _ | .callback _ _ | .writeHeader _ _ | .writePayload _ _ | .clearQueue
  | .drainCallback _ => inferInstanceAs (Decidable (_ = _))
  | .wake _ | .timeout _ | .leave _ | .freeStream _ | .dequeue _ | .endWriting _ | .removeHead _ | .endDraining =>
    inferInstanceAs (Decidable (_ ∧ _))

def step (event : Event) : Context := if s.Enabled event then s.next event else s

end Context

namespace Sample

def sent (i : Nat) : List Event :=
  [.call .callMethod, .getTag i, .addTransaction i, .enqueue i, .beginWriting, .dequeue i, .writeHeader i true,
    .writePayload i true, .endWriting false]

end Sample

end FreeRDS.Pbrpc
