import FreeRDS.Manager.State

/-! # Tasks of the executor, and the loss of the freerds connection

A task that sends a call to freerds is cut where it waits for the answer: `begin` is
the part of `run` before the wait, `resume` the part after it. Between the two the
RPC engine serves whatever comes in.
-/

namespace FreeRDS.Manager

open Lib Prog

/-- `getSession` and a block that runs when there is one. -/
def onSession (sessionId : UInt32) (body : Ptr → Handler Unit) : Handler Unit := do
  match ← perform (.getSession sessionId) with
  | some currentSession => body currentSession
  | none => pure ()

/-- `getConnection` and a block that runs when there is one. -/
def onConnection (connectionId : UInt32) (body : Ptr → Handler Unit) : Handler Unit := do
  match ← perform (.getConnection connectionId) with
  | some connection => body connection
  | none => pure ()

/-- `CallOutSwitchTo` once it is answered: the result set by the RPC engine. -/
structure CallOutSwitchTo where
  result : UInt32
  success : Bool := false
  deriving DecidableEq, Repr

def CallOutSwitchTo.decodeResponse (call : CallOutSwitchTo) : Int × CallOutSwitchTo :=
  (0, { call with success := true })

namespace TaskSwitchTo

/-- What `cleanUpOnError` does with the session, by the state it finds it in. -/
def rollBackSession (config : Config) (currentSession : Ptr) : Handler Unit := do
  let session ← perform (.session currentSession)
  if session.currentState = .active then
    -- this was a new session for the connection, remove it
    let _ ← perform (.stopModule currentSession config)
    perform (.removeSession session.sessionId)
  else if session.currentState = .connectQuery then
    -- was a previous disconnected session
    perform (.setConnectState currentSession .disconnected)
  else pure ()

variable (config : Config) (task : TaskSwitchTo)

def cleanUpOnError : Handler Unit := do
  onSession task.newSessionId (rollBackSession config)
  onConnection task.connectionId fun connection => perform (.setAbout2SwitchSessionId connection 0)

def endOldSession : Handler Unit :=
  if task.oldSessionId ≠ 0 then
    onSession task.oldSessionId fun currentSession => do
      let _ ← perform (.stopModule currentSession config)
      let session ← perform (.session currentSession)
      perform (.removeSession session.sessionId)
  else pure ()

/-- The success path: the old session is ended and the connection bound to the new one. -/
def completeSwitch : Handler Unit := do
  task.endOldSession config
  onConnection task.connectionId fun connection => do
    perform (.setSessionId connection task.newSessionId)
    perform (.setAbout2SwitchSessionId connection 0)

/-- The three ways in which `run` takes a switch for failed. -/
def switchFailed (call : CallOutSwitchTo) : Bool :=
  call.result ≠ 0 || call.decodeResponse.1 ≠ 0 || !call.decodeResponse.2.success

def resume (call : CallOutSwitchTo) : Handler Unit :=
  if switchFailed call then task.cleanUpOnError config else task.completeSwitch config

end TaskSwitchTo

/-- `CallOutLogOffUserSession` once it is answered. -/
structure CallOutLogOffUserSession where
  result : UInt32
  loggedOff : Bool
  deriving DecidableEq, Repr

variable (config : Config)

/-- `stopSession`, the same in both tasks. -/
def stopSession (sessionId : UInt32) : Handler Unit :=
  onSession sessionId fun session => do
    let _ ← perform (.stopModule session config)
    perform (.removeSession sessionId)

/-- The connection that is asked to log off, or `none` when the task is done. -/
def TaskEndSession.begin (task : TaskEndSession) : Handler (Option UInt32) := do
  let connectionId ← perform (.getConnectionIdForSessionId task.sessionId)
  if connectionId = 0 then
    stopSession config task.sessionId
    pure none
  else pure (some connectionId)

def TaskEndSession.resume (task : TaskEndSession) (connectionId : UInt32)
    (call : CallOutLogOffUserSession) : Handler Unit := do
  if call.result = 0 ∧ call.loggedOff then
    stopSession config task.sessionId
    perform (.removeConnection connectionId)

def TaskModuleShutdown.begin (task : TaskModuleShutdown) :
    Handler (Option UInt32) := do
  let connectionId ← perform (.getConnectionIdForSessionId task.sessionId)
  stopSession config task.sessionId
  if connectionId ≠ 0 then pure (some connectionId) else pure none

def TaskModuleShutdown.resume (connectionId : UInt32) : Handler Unit :=
  perform (.removeConnection connectionId)

/-- `CallBacks::shutdown`, called by a module's monitoring thread. -/
def CallBacks.shutdown (sessionId : UInt32) : Handler Int := do
  let _ ← perform (.addTask (.moduleShutdown ⟨sessionId⟩))
  pure 0

/-- Whole minutes since the last change of state reach the timeout. -/
def Session.expired (timeout currentTime : Int) (session : Session) : Bool :=
  session.currentState = .disconnected &&
    session.currentStateChangeTime.any fun changed =>
      0 ≤ timeout && timeout ≤ (currentTime - changed).tdiv 60

def TaskSessionTimeout.checkSessions (config : Config) (currentTime : Int) : List Ptr → Handler Unit
  | [] => pure ()
  | currentSession :: allSessions => do
      let session ← perform (.session currentSession)
      if session.expired config.getSessionTimeout currentTime then
        let _ ← perform (.addTask (.endSession ⟨session.sessionId, .sessionTimeout⟩))
        checkSessions config currentTime allSessions
      else checkSessions config currentTime allSessions

def TaskSessionTimeout.turn : Handler Unit := do
  let allSessions ← perform .getAllSessions
  let currentTime ← perform .universalTime
  TaskSessionTimeout.checkSessions config currentTime allSessions

def disconnectSessions (config : Config) : List Ptr → Handler Unit
  | [] => pure ()
  | currentSession :: allSessions => do
      let session ← perform (.session currentSession)
      if session.authSession then
        let _ ← perform (.stopModule currentSession config)
        perform (.removeSession session.sessionId)
        disconnectSessions config allSessions
      else
        perform (.setConnectState currentSession .disconnected)
        disconnectSessions config allSessions

def ApplicationContext.rpcDisconnected : Handler Unit := do
  perform .resetConnections
  let allSessions ← perform .getAllSessions
  disconnectSessions config allSessions

end FreeRDS.Manager
