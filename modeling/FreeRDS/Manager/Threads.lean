import FreeRDS.Lib.Blocking
import FreeRDS.Manager.System

/-! # The manager's threads, with their locks

The handlers of the other modules take `addTask` and `stopModule` for single actions. Here
they are what the source makes of them: critical sections that are entered and left, events
that are set and waited for. The executor holds the lock of its queue while it runs the
tasks; the RPC engine thread, the modules' monitoring threads and the workers reach the
queue through `Executor::addTask`.
-/

namespace FreeRDS.Manager

open Lib Prog

inductive ThreadId
  | main
  | executor
  | rpcEngine
  /-- The `monitoring_thread` of a session's X11 module. -/
  | monitor (p : Ptr)
  /-- A thread of the FDSAPI server, or of `TaskSessionTimeout`. -/
  | worker (n : Nat)
  deriving DecidableEq, Repr

/-- The two `SignalingQueue`s: `Executor::m_Tasks` and the calls for freerds. -/
inductive Queue
  | tasks | outgoing
  deriving DecidableEq, Repr

inductive CriticalSection
  /-- `Executor::m_CSection`. -/
  | executor
  /-- `SignalingQueue::mCSection`. -/
  | queue (queue : Queue)
  deriving DecidableEq, Repr

inductive Handle
  /-- `SignalingQueue::mSignalHandle`. -/
  | queue (queue : Queue)
  /-- `CallOut::mAnswer`. -/
  | answer (call : Nat)
  | monitorStopEvent (p : Ptr)
  | monitorThread (p : Ptr)
  deriving DecidableEq, Repr

/-- `getResult` and `isLoggedOff` of an answered call. -/
structure CallResult where
  result : UInt32
  loggedOff : Bool
  deriving DecidableEq, Repr

structure Shared where
  manager : ApplicationContext
  owner : CriticalSection → Option ThreadId
  signaled : Handle → Bool
  nextCall : Nat
  /-- `ApplicationContext::mRpcOutgoingCalls`. -/
  outgoingCalls : List Nat
  /-- `RpcEngine::m_AnswerWaitingQueue`. -/
  answerWaitingQueue : List Nat
  results : Nat → Option CallResult
  monitored : Ptr → Bool

def Shared.init : Shared where
  manager := ApplicationContext.init
  owner _ := none
  signaled _ := false
  nextCall := 0
  outgoingCalls := []
  answerWaitingQueue := []
  results _ := none
  monitored _ := false

/-! ## Operations -/

inductive Sync : Type → Type
  | enterCriticalSection (criticalSection : CriticalSection) : Sync Unit
  | leaveCriticalSection (criticalSection : CriticalSection) : Sync Unit
  | setEvent (handle : Handle) : Sync Unit
  | resetEvent (handle : Handle) : Sync Unit
  /-- `WaitForSingleObject` with `INFINITE`. -/
  | waitForSingleObject (handle : Handle) : Sync Unit
  /-- `WaitForSingleObject` with a timeout: whether the handle was signaled. -/
  | waitWithTimeout (handle : Handle) : Sync Bool
  /-- `Executor::m_Running`. -/
  | isRunning : Sync Bool
  | setRunning : Sync Unit
  | pushTask (task : Task) : Sync Unit
  | popTask : Sync (Option Task)
  /-- The constructor of `CallOut`. -/
  | newCall : Sync Nat
  | pushCall (call : Nat) : Sync Unit
  | popCall : Sync (Option Nat)
  | waitForResponse (call : Nat) : Sync Unit
  | takeWaiting (call : Nat) : Sync Bool
  | storeResult (call : Nat) (result : CallResult) : Sync Unit
  | getResult (call : Nat) : Sync CallResult
  /-- `CreateThread` for a monitoring thread. -/
  | createMonitorThread (p : Ptr) : Sync Unit

namespace Sync

def ready {β : Type} (t : ThreadId) : Sync β → Shared → Bool
  | .enterCriticalSection criticalSection, s =>
    s.owner criticalSection = none || s.owner criticalSection = some t
  | .waitForSingleObject handle, s => s.signaled handle
  | _, _ => true

def execute {β : Type} (t : ThreadId) : Sync β → Shared → β × Shared
  | .enterCriticalSection criticalSection, s =>
    ((), { s with owner := Function.update s.owner criticalSection (some t) })
  | .leaveCriticalSection criticalSection, s =>
    ((), { s with owner := Function.update s.owner criticalSection none })
  | .setEvent handle, s => ((), { s with signaled := Function.update s.signaled handle true })
  | .resetEvent handle, s => ((), { s with signaled := Function.update s.signaled handle false })
  | .waitForSingleObject _, s => ((), s)
  | .waitWithTimeout handle, s => (s.signaled handle, s)
  | .isRunning, s => (s.manager.running, s)
  | .setRunning, s => ((), { s with manager := { s.manager with running := true } })
  | .pushTask task, s =>
    ((), { s with manager := { s.manager with tasks := s.manager.tasks ++ [task] } })
  | .popTask, s =>
    (s.manager.tasks.head?, { s with manager := { s.manager with tasks := s.manager.tasks.tail } })
  | .newCall, s => (s.nextCall, { s with nextCall := s.nextCall + 1 })
  | .pushCall call, s => ((), { s with outgoingCalls := s.outgoingCalls ++ [call] })
  | .popCall, s => (s.outgoingCalls.head?, { s with outgoingCalls := s.outgoingCalls.tail })
  | .waitForResponse call, s => ((), { s with answerWaitingQueue := s.answerWaitingQueue ++ [call] })
  | .takeWaiting call, s =>
    (s.answerWaitingQueue.contains call, { s with answerWaitingQueue := s.answerWaitingQueue.erase call })
  | .storeResult call result, s => ((), { s with results := Function.update s.results call (some result) })
  | .getResult call, s => ((s.results call).getD ⟨0, false⟩, s)
  | .createMonitorThread p, s => ((), { s with monitored := Function.update s.monitored p true })

end Sync

/-- What a thread does in one go: an operation on locks and events, or an action on the stores,
the sessions and the connections. -/
inductive Op (β : Type)
  | sync (op : Sync β)
  | access (action : Action β)

instance : Blocking Op ThreadId Shared where
  ready
    | t, .sync op, s => op.ready t s
    | _, .access _, _ => true
  execute
    | t, .sync op, s => op.execute t s
    | _, .access action, s => ((action.exec s.manager).1, { s with manager := (action.exec s.manager).2 })

def sync {β : Type} (op : Sync β) : Prog Op β := perform (.sync op)

def access {β : Type} (action : Action β) : Prog Op β := perform (.access action)

section RunAs

variable {β : Type} (t : ThreadId) (s : Shared)

@[simp] theorem runAs_sync (op : Sync β) : (sync op).runAs t s = op.execute t s := rfl

end RunAs

namespace SignalingQueue

def addElement (queue : Queue) (push : Sync Unit) : Prog Op Unit := do
  sync (.enterCriticalSection (.queue queue))
  sync push
  sync (.setEvent (.queue queue))
  sync (.leaveCriticalSection (.queue queue))

def resetEventAndLockQueue (queue : Queue) : Prog Op Unit := do
  sync (.resetEvent (.queue queue))
  sync (.enterCriticalSection (.queue queue))

def unlockQueue (queue : Queue) : Prog Op Unit := sync (.leaveCriticalSection (.queue queue))

end SignalingQueue

namespace Executor

def start : Prog Op Unit := do
  sync (.enterCriticalSection .executor)
  if ← sync .isRunning then
    sync (.leaveCriticalSection .executor)
  else
    sync .setRunning
    sync (.leaveCriticalSection .executor)

def addTask (task : Task) : Prog Op Bool := do
  sync (.enterCriticalSection .executor)
  if ← sync .isRunning then
    SignalingQueue.addElement .tasks (.pushTask task)
    sync (.leaveCriticalSection .executor)
    pure true
  else
    sync (.leaveCriticalSection .executor)
    pure false

end Executor

/-- `x11_rds_module_stop`, up to the end of the monitoring thread. -/
def x11RdsModuleStop (p : Ptr) : Prog Op Unit := do
  sync (.setEvent (.monitorStopEvent p))
  sync (.waitForSingleObject (.monitorThread p))

/-- `Session::stopModule`; only the X11 module has a monitoring thread. -/
def stopModule (p : Ptr) (config : Config) : Prog Op Bool := do
  let session ← access (.session p)
  if session.sessionStarted ∧ config.hasModule session.moduleName ∧ session.moduleName = "X11" then
    x11RdsModuleStop p
    access (.stopModule p config)
  else access (.stopModule p config)

/-- `Session::startModule`; the monitoring thread is created last. -/
def startModule (p : Ptr) (config : Config) (answers : Answers) : Prog Op Bool := do
  let started ← access (.startModule p config answers)
  let session ← access (.session p)
  if started ∧ session.moduleName = "X11" then
    sync (.createMonitorThread p)
    pure started
  else pure started

def Action.operations {β : Type} : Action β → Prog Op β
  | .addTask task => Executor.addTask task
  | .startModule p config answers => Manager.startModule p config answers
  | .stopModule p config => Manager.stopModule p config
  | action => access action

def operations {α : Type} (handler : Handler α) : Prog Op α := handler.translate Action.operations

/-- One turn of the loop of `monitoring_thread`: the X server, the channel server or the window
manager has exited, or the thread looks for its stop event. -/
def monitoringThread (p : Ptr) (exited : Bool) : Prog Op Unit :=
  if exited then do
    let session ← access (.session p)
    let _ ← operations (CallBacks.shutdown session.sessionId.toUInt16.toUInt32)
    sync (.setEvent (.monitorThread p))
  else do
    if ← sync (.waitWithTimeout (.monitorStopEvent p)) then
      sync (.setEvent (.monitorThread p))
    else pure ()

def CallOut.setResult (call : Nat) (result : CallResult) : Prog Op Unit := do
  sync (.storeResult call result)
  sync (.setEvent (.answer call))

/-- How long a task waits for the answer: `TaskModuleShutdown` gives up after five seconds. -/
def Waiting.timeout : Waiting → Bool
  | .moduleShutdown _ => true
  | .switchTo _ | .endSession _ _ => false

def Waiting.callOut (waiting : Waiting) : Prog Op CallResult := do
  let call ← sync .newCall
  SignalingQueue.addElement .outgoing (.pushCall call)
  if waiting.timeout then
    let _ ← sync (.waitWithTimeout (.answer call))
    sync (.getResult call)
  else
    sync (.waitForSingleObject (.answer call))
    sync (.getResult call)

variable (config : Config)

/-- `Task::run` of a task that is not threaded. -/
def Task.run (task : Task) : Prog Op Unit := do
  match ← operations (Event.beginTask config task) with
  | none => pure ()
  | some waiting =>
    let answer ← waiting.callOut
    operations (Event.resumeTask config answer.result answer.loggedOff waiting)

namespace Executor

/-- `runExecutor` up to the lock of the queue. -/
def awaitTasks : Prog Op Unit := do
  sync (.waitForSingleObject (.queue .tasks))
  SignalingQueue.resetEventAndLockQueue .tasks

/-- One turn of the inner loop of `runExecutor`, with the queue locked; the last one unlocks it. -/
def runNextTask : Prog Op Unit := do
  match ← sync .popTask with
  | some currentTask => currentTask.run config
  | none => SignalingQueue.unlockQueue .tasks

def runExecutor (s : Shared) : Prog Op Unit :=
  if s.owner (.queue .tasks) = some .executor then runNextTask config else awaitTasks

end Executor

namespace RpcEngine

/-- `processOutgoingCall`; `sent` tells whether the call could be written to the pipe. -/
def processOutgoingCall (sent : Bool) (call : Nat) : Prog Op Unit :=
  if sent then sync (.waitForResponse call) else CallOut.setResult call ⟨1, false⟩

/-- One turn of the inner loop of `serveClient`, with the queue locked; the last one unlocks it. -/
def sendNextCall (sent : Bool) : Prog Op Unit := do
  match ← sync .popCall with
  | some currentCall => processOutgoingCall sent currentCall
  | none => SignalingQueue.unlockQueue .outgoing

def serveOutgoing (sent : Bool) (s : Shared) : Prog Op Unit :=
  if s.owner (.queue .outgoing) = some .rpcEngine then sendNextCall sent
  else SignalingQueue.resetEventAndLockQueue .outgoing

/-- `processData` for a response. -/
def processResponse (call : Nat) (result : CallResult) : Prog Op Unit := do
  if ← sync (.takeWaiting call) then CallOut.setResult call result else pure ()

end RpcEngine

/-! ## Runs -/

/-- The requests that the RPC engine thread serves, and the loss of its client. -/
def Event.isRpc : Event → Bool
  | .logonUser _ _ | .startSession _ _ | .disconnectUser _ | .logoffUser _ | .endSession _ | .rpcDisconnected => true
  | _ => false

def Event.isWork : Event → Bool
  | .authenticateUser _ _ | .sessionTimeout => true
  | _ => false

def Event.operations (s : Shared) (event : Event) : Prog Op Unit :=
  Manager.operations do
    let _ ← event.handler config ⟨s.manager, none⟩
    pure ()

inductive ThreadEvent
  | advance (t : ThreadId)
  | clock (now : Int)
  | startTaskExecutor
  | runExecutor
  | request (event : Event)
  | serveOutgoing (sent : Bool)
  | response (call : Nat) (result : CallResult)
  | monitoringThread (p : Ptr) (exited : Bool)
  | work (n : Nat) (event : Event)

def ThreadEvent.begins (s : Shared) : ThreadEvent → Option (ThreadId × Prog Op Unit)
  | .advance _ | .clock _ => none
  | .startTaskExecutor => some (.main, Executor.start)
  | .runExecutor => some (.executor, Executor.runExecutor config s)
  | .request event =>
    if event.isRpc ∧ s.owner (.queue .outgoing) ≠ some .rpcEngine then
      some (.rpcEngine, event.operations config s)
    else none
  | .serveOutgoing sent => some (.rpcEngine, RpcEngine.serveOutgoing sent s)
  | .response call result =>
    if s.owner (.queue .outgoing) ≠ some .rpcEngine then
      some (.rpcEngine, RpcEngine.processResponse call result)
    else none
  | .monitoringThread p exited =>
    if s.monitored p ∧ s.signaled (.monitorThread p) = false then
      some (.monitor p, Manager.monitoringThread p exited)
    else none
  | .work n event => if event.isWork then some (.worker n, event.operations config s) else none

/-! ## Operations against actions

A thread that never has to wait does to the manager what its handler does.
-/

section RunAs

variable {α β : Type} (t : ThreadId) (s : Shared)

theorem addTask_runAs (task : Task) :
    ((Executor.addTask task).runAs t s).1 = (s.manager.addTask task).1 ∧
      ((Executor.addTask task).runAs t s).2.manager = (s.manager.addTask task).2 := by
  unfold Executor.addTask SignalingQueue.addElement ApplicationContext.addTask
  cases h : s.manager.running <;> simp [Sync.execute, h]

theorem startModule_runAs (p : Ptr) (config : Config) (answers : Answers) :
    ((startModule p config answers).runAs t s).1 = (exec (Action.startModule p config answers) s.manager).1 ∧
      ((startModule p config answers).runAs t s).2.manager =
        (exec (Action.startModule p config answers) s.manager).2 := by
  unfold startModule
  rw [runAs_bind, runAs_bind, runAs_ite]
  split <;> exact ⟨rfl, rfl⟩

theorem stopModule_runAs (p : Ptr) (config : Config) :
    ((stopModule p config).runAs t s).1 = (exec (Action.stopModule p config) s.manager).1 ∧
      ((stopModule p config).runAs t s).2.manager = (exec (Action.stopModule p config) s.manager).2 := by
  unfold stopModule x11RdsModuleStop
  rw [runAs_bind, runAs_ite]
  split <;> exact ⟨rfl, rfl⟩

theorem Action.runAs_operations (action : Action β) :
    (action.operations.runAs t s).1 = (exec action s.manager).1 ∧
      (action.operations.runAs t s).2.manager = (exec action s.manager).2 := by
  cases action with
  | addTask task => exact addTask_runAs t s task
  | startModule p config answers => exact startModule_runAs t s p config answers
  | stopModule p config => exact stopModule_runAs t s p config
  | _ => exact ⟨rfl, rfl⟩

end RunAs

end FreeRDS.Manager
