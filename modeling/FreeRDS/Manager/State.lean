import FreeRDS.Lib.Prog
import FreeRDS.Manager.Store

/-! # The manager's state and its atomic actions

One action is one critical section of a store, one method of a session or
connection object, or one `addTask`. The handlers of the other modules are programs
over these actions.
-/

namespace FreeRDS.Manager

open Lib

structure TaskSwitchTo where
  connectionId : UInt32
  serviceEndpoint : String
  oldSessionId : UInt32
  newSessionId : UInt32
  /-- Not in the source: the object whose pipe name became `serviceEndpoint`. -/
  newSession : Ptr
  deriving DecidableEq, Repr

/-- Not in the source: which of its three creators made a `TaskEndSession`. -/
inductive EndSessionOrigin
  | sessionTimeout | disconnectUserSession | endSession
  deriving DecidableEq, Repr

structure TaskEndSession where
  sessionId : UInt32
  origin : EndSessionOrigin
  deriving DecidableEq, Repr

structure TaskModuleShutdown where
  sessionId : UInt32
  deriving DecidableEq, Repr

inductive Task
  | switchTo (task : TaskSwitchTo)
  | endSession (task : TaskEndSession)
  | moduleShutdown (task : TaskModuleShutdown)
  deriving DecidableEq, Repr

structure ApplicationContext where
  sessionStore : SessionStore
  connectionStore : ConnectionStore
  /-- `Executor::m_Running`. -/
  running : Bool
  /-- `Executor::m_Tasks`. -/
  tasks : List Task
  /-- `second_clock::universal_time()`, in seconds. -/
  clock : Int
  /-- The events handed to `FDSApiServer::fireSessionEvent`, newest first. -/
  fired : List (UInt32 × SessionEvent)

namespace ApplicationContext

def init : ApplicationContext where
  sessionStore := SessionStore.empty
  connectionStore := ConnectionStore.empty
  running := false
  tasks := []
  clock := 0
  fired := []

variable (m : ApplicationContext)

def session (p : Ptr) : Session := m.sessionStore.heap.cell p

def connection (q : Ptr) : Connection := m.connectionStore.heap.cell q

def setSession (p : Ptr) (method : Session.Method) : ApplicationContext :=
  { m with sessionStore := m.sessionStore.modify p method }

def setConnection (q : Ptr) (method : Connection.Method) : ApplicationContext :=
  { m with connectionStore := m.connectionStore.modify q method }

def fire (p : Ptr) (events : List SessionEvent) : ApplicationContext :=
  { m with fired := events.reverse.map ((m.session p).sessionId, ·) ++ m.fired }

def createSession : ApplicationContext :=
  { m with sessionStore := m.sessionStore.createSession }.fire m.sessionStore.heap.next [.sessionCreate]

def removeSession (sessionId : UInt32) : ApplicationContext :=
  { m with sessionStore := m.sessionStore.removeSession sessionId }

def setConnections (store : ConnectionStore) : ApplicationContext :=
  { m with connectionStore := store }

/-- `Executor::addTask`: an executor that does not run takes nothing. -/
def addTask (task : Task) : Bool × ApplicationContext :=
  if m.running then (true, { m with tasks := m.tasks ++ [task] }) else (false, m)

end ApplicationContext

/-! ## Actions -/

inductive Action : Type → Type
  | getSession (sessionId : UInt32) : Action (Option Ptr)
  | createSession : Action Ptr
  | getFirstDisconnectedSessionUserName (username domain : String) : Action (Option Ptr)
  | removeSession (sessionId : UInt32) : Action Unit
  | getAllSessions : Action (List Ptr)
  | session (p : Ptr) : Action Session
  | setSession (p : Ptr) (setter : Session.Setter) : Action Unit
  | setConnectState (p : Ptr) (state : ConnectState) : Action Unit
  | generateUserToken (p : Ptr) (answers : Answers) : Action Bool
  | generateEnvBlockAndModify (p : Ptr) (answers : Answers) : Action Bool
  | generateAuthEnvBlockAndModify (p : Ptr) : Action Bool
  | startModule (p : Ptr) (config : Config) (answers : Answers) : Action Bool
  | stopModule (p : Ptr) (config : Config) : Action Bool
  | getOrCreateConnection (connectionId : UInt32) : Action Ptr
  | getConnection (connectionId : UInt32) : Action (Option Ptr)
  | removeConnection (connectionId : UInt32) : Action Unit
  | getConnectionIdForSessionId (sessionId : UInt32) : Action UInt32
  | resetConnections : Action Unit
  | connection (q : Ptr) : Action Connection
  | authenticateUser (q : Ptr) (config : Config) (answers : Answers)
      (username domain password : String) : Action Int
  | setSessionId (q : Ptr) (sessionId : UInt32) : Action Unit
  | setAbout2SwitchSessionId (q : Ptr) (switchSessionId : UInt32) : Action Unit
  | setClientInformation (q : Ptr) (information : ClientInformation) : Action Unit
  | addTask (task : Task) : Action Bool
  | universalTime : Action Int

namespace Action

def exec : Action β → ApplicationContext → β × ApplicationContext
  | .getSession sessionId, m => (m.sessionStore.getSession sessionId, m)
  | .createSession, m => (m.sessionStore.heap.next, m.createSession)
  | .getFirstDisconnectedSessionUserName username domain, m =>
    (m.sessionStore.getFirstDisconnectedSessionUserName username domain, m)
  | .removeSession sessionId, m => ((), m.removeSession sessionId)
  | .getAllSessions, m => (m.sessionStore.getAllSessions, m)
  | .session p, m => (m.session p, m)
  | .setSession p setter, m => ((), m.setSession p (.set setter))
  | .setConnectState p state, m =>
    ((), (m.setSession p (.setConnectState m.clock state)).fire p
      ((m.session p).setConnectState m.clock state).1)
  | .generateUserToken p answers, m =>
    (((m.session p).generateUserToken answers).1, m.setSession p (.generateUserToken answers))
  | .generateEnvBlockAndModify p answers, m =>
    (((m.session p).generateEnvBlockAndModify answers).1,
      m.setSession p (.generateEnvBlockAndModify answers))
  | .generateAuthEnvBlockAndModify p, m =>
    ((m.session p).generateAuthEnvBlockAndModify.1, m.setSession p .generateAuthEnvBlockAndModify)
  | .startModule p config answers, m =>
    let started := (m.session p).startModule config answers m.clock
    (started.1, (m.setSession p (.startModule config answers m.clock)).fire p started.2.1)
  | .stopModule p config, m =>
    let stopped := (m.session p).stopModule config m.clock
    (stopped.1, (m.setSession p (.stopModule config m.clock)).fire p stopped.2.1)
  | .getOrCreateConnection connectionId, m =>
    let found := m.connectionStore.getOrCreateConnection connectionId
    (found.1, m.setConnections found.2)
  | .getConnection connectionId, m => (m.connectionStore.getConnection connectionId, m)
  | .removeConnection connectionId, m =>
    ((), m.setConnections (m.connectionStore.removeConnection connectionId))
  | .getConnectionIdForSessionId sessionId, m =>
    (m.connectionStore.getConnectionIdForSessionId sessionId, m)
  | .resetConnections, m => ((), m.setConnections m.connectionStore.reset)
  | .connection q, m => (m.connection q, m)
  | .authenticateUser q config answers username domain password, m =>
    (((m.connection q).authenticateUser config answers username domain password).1,
      m.setConnection q (.authenticateUser config answers username domain password))
  | .setSessionId q sessionId, m => ((), m.setConnection q (.setSessionId sessionId))
  | .setAbout2SwitchSessionId q switchSessionId, m =>
    ((), m.setConnection q (.setAbout2SwitchSessionId switchSessionId))
  | .setClientInformation q information, m => ((), m.setConnection q (.setClientInformation information))
  | .addTask task, m => m.addTask task
  | .universalTime, m => (m.clock, m)

end Action

instance : Atomic Action ApplicationContext where
  exec := Action.exec

abbrev Handler := Prog Action

end FreeRDS.Manager
