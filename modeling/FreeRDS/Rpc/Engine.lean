import FreeRDS.Rpc.Message
import FreeRDS.Rpc.Reader
import Mathlib.Logic.Function.Basic

/-! # The calls of the RPC engine

A `CallOut` lives on the stack of the function that creates it, and that function waits for the call's
answer event. In the meantime pointers to the call are in the outgoing queue, in a local variable of the
engine's thread, or in `m_AnswerWaitingQueue`. The steps of the machine below are those of the engine's
thread and of the creators, in any order.
-/

namespace FreeRDS.Rpc

open Lib

/-- The functions that put a `CallOut` into the outgoing queue. -/
inductive Creator
  | taskSwitchTo | taskEndSession | taskModuleShutdown | virtualChannelOpen
  deriving DecidableEq, Repr

/-- How many milliseconds the creator waits for its answer; `none` is `INFINITE`. -/
def Creator.timeout : Creator → Option Nat
  | .taskModuleShutdown => some 5000
  | .taskSwitchTo | .taskEndSession | .virtualChannelOpen => none

structure OutgoingCall where
  creator : Creator := .taskSwitchTo
  tag : UInt32 := 0
  taken : Bool := false
  /-- What `setResult` has been called with. The answer event is set from the first time on. -/
  results : List UInt32 := []
  /-- The statuses for which `processData` has taken the call out of its queue and not called `setResult`. -/
  ignored : List UInt32 := []
  returned : Bool := false
  deriving DecidableEq, Repr

/-! ## The engine -/

/-- Where `listenerThread` is. -/
inductive ListenerThread
  /-- `acceptClient` waits for freerds. -/
  | accepting
  /-- `serveClient` waits for one of its events. -/
  | serving
  /-- `processData` has taken the call out of `m_AnswerWaitingQueue` for a response with this status. -/
  | answering (call : Nat) (status : UInt32)
  /-- `serveClient` holds the lock of the outgoing queue. -/
  | draining
  /-- In `processOutgoingCall`, with the lock held. -/
  | sending (call : Nat)
  | stopped
  deriving DecidableEq, Repr

namespace ListenerThread

/-- How many pointers to a call the thread has in its local variables. -/
def count (call : Nat) : ListenerThread → Nat
  | .answering held _ | .sending held => if held = call then 1 else 0
  | .accepting | .serving | .draining | .stopped => 0

def locksQueue : ListenerThread → Bool
  | .draining | .sending _ => true
  | .accepting | .serving | .answering _ _ | .stopped => false

/-- Inside of `serveClient`. -/
def serves : ListenerThread → Bool
  | .accepting | .stopped => false
  | .serving | .answering _ _ | .draining | .sending _ => true

end ListenerThread

/-- The calls are numbered in the order in which they enter the outgoing queue. -/
structure Engine where
  reader : Reader
  thread : ListenerThread
  nextOutCall : UInt32
  outgoing : List Nat
  answerWaitingQueue : List Nat
  calls : Nat → OutgoingCall
  nextCall : Nat

/-- Steps of the engine's thread, and of the creators (`addElement`, `wake` and `timeout`). -/
inductive EngineEvent
  | addElement (creator : Creator)
  | wake (call : Nat)
  | timeout (call : Nat)
  | acceptClient
  /-- `ReadFile` has returned `data`. -/
  | read (data : List UInt8)
  /-- `ReadFile` fails or returns nothing. -/
  | disconnected
  | stop
  | resetEventAndLockQueue
  | getElement
  /-- Both writes of `sendInternal`, and whether they succeed. -/
  | send (sent : Bool)
  | setResult
  deriving DecidableEq, Repr

namespace Engine

def new (header payloadBuffer : Memory UInt8) : Engine where
  reader := .new header payloadBuffer
  thread := .accepting
  nextOutCall := 1
  outgoing := []
  answerWaitingQueue := []
  calls _ := {}
  nextCall := 0

variable (e : Engine) (call : Nat)

def update (f : OutgoingCall → OutgoingCall) : Engine :=
  { e with calls := Function.update e.calls call (f (e.calls call)) }

def setResult (result : UInt32) : Engine :=
  e.update call fun c => { c with results := c.results ++ [result] }

/-- The first call in `m_AnswerWaitingQueue` that waits for this tag. -/
def findCall (e : Engine) (callId : UInt32) : Option Nat :=
  e.answerWaitingQueue.find? fun call => (e.calls call).tag = callId

/-- `processData` on a response, up to the dispatch on its status. Requests create no `CallOut`. -/
def processResponse (e : Engine) (header : MsgHeader) : Engine :=
  if isResponseId header.msgType then
    match e.findCall header.callId with
    | none => e
    | some call =>
      { e with answerWaitingQueue := e.answerWaitingQueue.filter (· ≠ call)
               thread := .answering call header.status }
  else e

/-- One turn of `serveClient` on a readable pipe. -/
def receive (e : Engine) (data : List UInt8) : Engine :=
  let (reader, packet) := e.reader.receive data
  let e := { e with reader := reader }
  match packet with
  | none => e
  | some packet => e.processResponse (.ofBytes packet.header)

/-- The result that `processData` gives the call, by the status of the response. -/
def resultOf (status : UInt32) : Option UInt32 :=
  if status = statusSuccess then some 0
  else if status = statusFailed then some 1
  else if status = statusNotFound then some 2
  else none

/-- The end of `processData`. -/
def answer (status : UInt32) : Engine :=
  let e := { e with thread := .serving }
  match resultOf status with
  | none => e.update call fun c => { c with ignored := c.ignored ++ [status] }
  | some result => e.setResult call result

/-- The first steps of `processOutgoingCall`. -/
def take (e : Engine) : Engine :=
  match e.outgoing with
  | [] => { e with thread := .serving }
  | call :: outgoing =>
    let tag := e.nextOutCall
    let e := { e with outgoing := outgoing, thread := .sending call, nextOutCall := tag + 1 }
    e.update call fun c => { c with tag := tag, taken := true }

/-- The end of `processOutgoingCall`. -/
def sent (success : Bool) : Engine :=
  let e := { e with thread := .draining }
  if success then { e with answerWaitingQueue := e.answerWaitingQueue ++ [call] } else e.setResult call 1

def addElement (e : Engine) (creator : Creator) : Engine :=
  if e.thread.locksQueue then e
  else
    { e with outgoing := e.outgoing ++ [e.nextCall], nextCall := e.nextCall + 1
             calls := Function.update e.calls e.nextCall { creator := creator } }

/-- The answer event of the call is set, and its creator waits for it. -/
def CanWake : Prop := call < e.nextCall ∧ (e.calls call).results ≠ []

def CanTimeOut : Prop :=
  call < e.nextCall ∧ (e.calls call).creator.timeout ≠ none ∧ (e.calls call).returned = false

instance (e : Engine) (call : Nat) : Decidable (e.CanWake call) := inferInstanceAs (Decidable (_ ∧ _))

instance (e : Engine) (call : Nat) : Decidable (e.CanTimeOut call) :=
  inferInstanceAs (Decidable (_ ∧ _ ∧ _))

def destroy : Engine := e.update call fun c => { c with returned := true }

/-- An event that cannot happen in a state leaves the state as it is. -/
def step (e : Engine) (event : EngineEvent) : Engine :=
  match event, e.thread with
  | .addElement creator, _ => e.addElement creator
  | .wake call, _ => if e.CanWake call then e.destroy call else e
  | .timeout call, _ => if e.CanTimeOut call then e.destroy call else e
  | .acceptClient, .accepting => { e with thread := .serving }
  | .read data, .serving => e.receive data
  | .disconnected, .serving => { e with thread := .accepting, reader := e.reader.resetStatus }
  | .stop, .serving | .stop, .accepting => { e with thread := .stopped }
  | .resetEventAndLockQueue, .serving => { e with thread := .draining }
  | .getElement, .draining => e.take
  | .send success, .sending call => e.sent call success
  | .setResult, .answering call status => e.answer call status
  | _, _ => e

/-! ## Where the pointers to a call are -/

/-- The pointers to a call that the engine has, and the ways in which the call has left the engine. -/
def places : Nat :=
  e.answerWaitingQueue.count call + e.thread.count call + (e.calls call).results.length +
    (e.calls call).ignored.length

/-- A call is in the outgoing queue until it is taken, and in exactly one place afterwards. -/
structure Tracks : Prop where
  outgoing_eq : e.outgoing.count call = if call < e.nextCall ∧ (e.calls call).taken = false then 1 else 0
  places_eq : e.places call = if (e.calls call).taken then 1 else 0
  lt_of_taken : (e.calls call).taken → call < e.nextCall

variable {e : Engine} {call : Nat}

theorem new_tracks (header payloadBuffer : Memory UInt8) (call : Nat) :
    (Engine.new header payloadBuffer).Tracks call := by
  constructor <;> simp [new, places, ListenerThread.count]

theorem Tracks.setThread (h : e.Tracks call) {thread : ListenerThread} (reader : Reader)
    (hthr : thread.count call = e.thread.count call) :
    Tracks { e with thread := thread, reader := reader } call := by
  refine ⟨h.outgoing_eq, ?_, h.lt_of_taken⟩
  have hplaces := h.places_eq
  simp only [places] at hplaces ⊢
  rw [hthr]
  exact hplaces

theorem addElement_tracks (h : ∀ call, e.Tracks call) (creator : Creator) (call : Nat) :
    (e.addElement creator).Tracks call := by
  by_cases hlocked : e.thread.locksQueue
  · rw [addElement, if_pos hlocked]
    exact h call
  · rw [addElement, if_neg hlocked]
    have ⟨hout, hplaces, htaken⟩ := h call
    by_cases hcall : call = e.nextCall
    · subst hcall
      constructor <;> simp_all [places]
    · have hlt : call < e.nextCall + 1 ↔ call < e.nextCall := by omega
      constructor <;> simp_all [places, Ne.symm hcall]

section

variable (h : e.Tracks call)

include h

theorem destroy_tracks (other : Nat) : (e.destroy other).Tracks call := by
  have ⟨hout, hplaces, htaken⟩ := h
  by_cases hcall : call = other
  · subst hcall
    constructor <;> simp_all [places, destroy, update]
  · constructor <;> simp_all [places, destroy, update]

theorem Tracks.release {held : Nat} {thread : ListenerThread}
    {f : OutgoingCall → OutgoingCall}
    (hheld : ∀ call, e.thread.count call = if held = call then 1 else 0)
    (hthr : ∀ call, thread.count call = 0) (htaken : ∀ c, (f c).taken = c.taken)
    (hf : ∀ c, (f c).results.length + (f c).ignored.length = c.results.length + c.ignored.length + 1) :
    ({ e with thread := thread }.update held f).Tracks call := by
  have ⟨hout, hplaces, hlt⟩ := h
  by_cases hcall : held = call
  · subst hcall
    have hlen := hf (e.calls held)
    rw [places, hheld held, if_pos rfl] at hplaces
    constructor <;> simp [places, update, htaken, hthr]
    · exact hout
    · omega
    · exact hlt
  · have hother : call ≠ held := .symm hcall
    constructor <;> simp_all [places, update]

theorem setResult_tracks {held : Nat} {thread : ListenerThread}
    (hheld : ∀ call, e.thread.count call = if held = call then 1 else 0)
    (hthr : ∀ call, thread.count call = 0) (result : UInt32) :
    ({ e with thread := thread }.setResult held result).Tracks call := by
  apply h.release hheld hthr
  · intro c
    rfl
  · intro c
    simp only [List.length_append, List.length_singleton]
    omega

theorem answer_tracks {held : Nat} {status : UInt32}
    (hthr : e.thread = .answering held status) :
    (e.answer held status).Tracks call := by
  have hheld : ∀ call, e.thread.count call = if held = call then 1 else 0 := by
    simp [hthr, ListenerThread.count]
  unfold answer
  cases resultOf status with
  | some result => exact setResult_tracks h hheld (fun _ => rfl) result
  | none =>
    apply h.release hheld (fun _ => rfl)
    · intro c
      rfl
    · intro c
      simp only [List.length_append, List.length_singleton]
      omega

theorem sent_tracks {held : Nat} (hthr : e.thread = .sending held)
    (success : Bool) :
    (e.sent held success).Tracks call := by
  have hheld : ∀ call, e.thread.count call = if held = call then 1 else 0 := by
    simp [hthr, ListenerThread.count]
  unfold sent
  cases success with
  | false => exact setResult_tracks h hheld (fun _ => rfl) 1
  | true =>
    have ⟨hout, hplaces, htaken⟩ := h
    refine ⟨hout, ?_, htaken⟩
    simp_all [places, ListenerThread.count, List.count_singleton]

end

theorem take_tracks (h : ∀ call, e.Tracks call) (hthr : e.thread = .draining) (call : Nat) :
    e.take.Tracks call := by
  unfold take
  split
  · exact (h call).setThread e.reader (by rw [hthr]; rfl)
  · rename_i held outgoing hout
    have ⟨hcnt, hplaces, htaken⟩ := h call
    by_cases hcall : held = call
    · subst hcall
      -- Being the first in the queue, the call has not been taken before.
      have hnew : held < e.nextCall ∧ (e.calls held).taken = false := by
        rw [hout, List.count_cons_self] at hcnt
        by_contra hnot
        rw [if_neg hnot] at hcnt
        omega
      constructor <;> simp_all [places, update, ListenerThread.count]
    · constructor <;> simp_all [places, update, ListenerThread.count, Ne.symm hcall]

theorem processResponse_tracks (h : e.Tracks call) (hthr : e.thread = .serving)
    (header : MsgHeader) :
    (e.processResponse header).Tracks call := by
  unfold processResponse
  split
  · split
    · exact h
    · rename_i held hfind
      have hmem : held ∈ e.answerWaitingQueue := List.mem_of_find?_eq_some hfind
      have ⟨hout, hplaces, htaken⟩ := h
      refine ⟨hout, ?_, htaken⟩
      by_cases hcall : held = call
      · subst hcall
        have hpos : 0 < e.answerWaitingQueue.count held := List.count_pos_iff.mpr hmem
        have hgone : (e.answerWaitingQueue.filter (· ≠ held)).count held = 0 := List.count_eq_zero.mpr (by simp)
        simp only [places, hthr, ListenerThread.count] at hplaces
        simp only [places, hgone, ListenerThread.count, if_true]
        split at hplaces
        · rename_i htaken
          rw [if_pos htaken]
          omega
        · omega
      · simp_all [places, ListenerThread.count, List.count_filter, Ne.symm hcall]
  · exact h

theorem receive_tracks (h : e.Tracks call) (hthr : e.thread = .serving) (data : List UInt8) :
    (e.receive data).Tracks call := by
  have hreader : Tracks { e with reader := (e.reader.receive data).1 } call := h.setThread _ rfl
  unfold receive
  split
  rename_i reader packet heq
  rw [heq] at hreader
  cases packet with
  | none => exact hreader
  | some packet => exact processResponse_tracks hreader hthr _

theorem step_tracks (h : ∀ call, e.Tracks call) (event : EngineEvent) (call : Nat) :
    (e.step event).Tracks call := by
  unfold step
  split
  next => exact addElement_tracks h _ call
  next =>
    split
    · exact destroy_tracks (h call) _
    · exact h call
  next =>
    split
    · exact destroy_tracks (h call) _
    · exact h call
  next hthr => exact (h call).setThread e.reader (by rw [hthr]; rfl)
  next hthr => exact receive_tracks (h call) hthr _
  next hthr => exact (h call).setThread e.reader.resetStatus (by rw [hthr]; rfl)
  next hthr => exact (h call).setThread e.reader (by rw [hthr]; rfl)
  next hthr => exact (h call).setThread e.reader (by rw [hthr]; rfl)
  next hthr => exact (h call).setThread e.reader (by rw [hthr]; rfl)
  next hthr => exact take_tracks h hthr call
  next hthr => exact sent_tracks (h call) hthr _
  next hthr => exact answer_tracks (h call) hthr
  next => exact h call

end Engine

end FreeRDS.Rpc
