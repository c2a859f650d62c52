import FreeRDS.Lib.Run
import FreeRDS.Manager.Calls
import FreeRDS.Manager.Tasks

/-! # Runs of the manager

The state of a run is the manager together with the task the executor is waiting in.
An event is one request, one turn of a background activity, or one of the two parts
of a task; its arguments carry whatever the outside world answers.
-/

namespace FreeRDS.Manager

open Lib Prog

/-- A task that has sent its call to freerds and waits for the answer. -/
inductive Waiting
  | switchTo (task : TaskSwitchTo)
  | endSession (task : TaskEndSession) (connectionId : UInt32)
  | moduleShutdown (connectionId : UInt32)
  deriving DecidableEq, Repr

structure System where
  manager : ApplicationContext
  waiting : Option Waiting

inductive Event
  | startTaskExecutor
  | stopTaskExecutor
  | clock (now : Int)
  | logonUser (answers : Answers) (request : LogonUserRequest)
  | startSession (answers : Answers) (request : StartSessionRequest)
  | authenticateUser (answers : Answers) (request : FDSApiCredentials)
  | disconnectUser (connectionId : UInt32)
  | logoffUser (connectionId : UInt32)
  | endSession (sessionId : UInt32)
  | moduleShutdown (sessionId : UInt32)
  | sessionTimeout
  | rpcDisconnected
  /-- The executor takes the next task and runs it up to its call to freerds. -/
  | runTask
  /-- The call is answered, or given up, and the task runs to its end. -/
  | callAnswered (result : UInt32) (loggedOff : Bool)

namespace System

def init : System := ⟨ApplicationContext.init, none⟩

/-- The task the executor can take: it is running, waits in no other task, and the queue is not empty. -/
def nextTask (sys : System) : Option Task :=
  match sys.waiting, sys.manager.running with
  | none, true => sys.manager.tasks.head?
  | _, _ => none

end System

namespace Event

def prepare (sys : System) : Event → ApplicationContext
  | .startTaskExecutor => { sys.manager with running := true }
  | .stopTaskExecutor => { sys.manager with running := false }
  | .clock now => { sys.manager with clock := now }
  | .runTask =>
    match sys.nextTask with
    | some _ => { sys.manager with tasks := sys.manager.tasks.tail }
    | none => sys.manager
  | _ => sys.manager

def beginTask (config : Config) : Task → Handler (Option Waiting)
  | .switchTo task => pure (some (.switchTo task))
  | .endSession task => do
      let connectionId ← task.begin config
      pure (connectionId.map (.endSession task))
  | .moduleShutdown task => do
      let connectionId ← task.begin config
      pure (connectionId.map .moduleShutdown)

def resumeTask (config : Config) (result : UInt32) (loggedOff : Bool) : Waiting → Handler Unit
  | .switchTo task => task.resume config { result := result }
  | .endSession task connectionId => task.resume config connectionId ⟨result, loggedOff⟩
  | .moduleShutdown connectionId => TaskModuleShutdown.resume connectionId

/-- The program an event runs; it answers with the task that waits afterwards. -/
def handler (config : Config) (sys : System) : Event → Handler (Option Waiting)
  | .logonUser answers request => do
      let _ ← (CallInLogonUser.decodeRequest request).doStuff config answers
      pure sys.waiting
  | .startSession answers request => do
      let _ ← (CallInAuthenticateUser.decodeRequest request).doStuff config answers
      pure sys.waiting
  | .authenticateUser answers request => do
      let _ ← FDSApiHandler.authenticateUser config answers request
      pure sys.waiting
  | .disconnectUser connectionId => do
      let _ ← CallInDisconnectUserSession.doStuff config connectionId
      pure sys.waiting
  | .logoffUser connectionId => do
      let _ ← CallInLogOffUserSession.doStuff config connectionId
      pure sys.waiting
  | .endSession sessionId => do
      let _ ← CallInEndSession.doStuff sessionId
      pure sys.waiting
  | .moduleShutdown sessionId => do
      let _ ← CallBacks.shutdown sessionId
      pure sys.waiting
  | .sessionTimeout => do
      TaskSessionTimeout.turn config
      pure sys.waiting
  | .rpcDisconnected => do
      ApplicationContext.rpcDisconnected config
      pure sys.waiting
  | .runTask =>
    match sys.nextTask with
    | some task => beginTask config task
    | none => pure sys.waiting
  | .callAnswered result loggedOff =>
    match sys.waiting with
    | some waiting => do
        resumeTask config result loggedOff waiting
        pure none
    | none => pure none
  | .startTaskExecutor | .stopTaskExecutor | .clock _ => pure sys.waiting

end Event

namespace System

def step (config : Config) (sys : System) (event : Event) : System :=
  let done := (event.handler config sys).run (event.prepare sys)
  ⟨done.2, done.1⟩

def after (config : Config) (events : List Event) : System := events.foldl (step config) init

end System

/-! ## A small installation

One X11 module for users and greeters, one password, sessions kept for an hour.
-/

namespace Sample

def ini : IniFile where
  getKeyValueInt path :=
    if path = "session.reconnect" then 1 else if path = "session.timeout" then 60 else -1
  getKeyValueString path :=
    if path = "module.X11.modulename" then some "X11"
    else if path = "module.Qt.modulename" then some "X11" else none

def config : Config where
  properties := ⟨some ini⟩
  hasModule moduleName := moduleName = "X11"

def pam : AuthModule where
  entryLogonUser := some fun _ _ password => if password = some "secret" then 0 else -1

def answers : Answers where
  loadFromName _ := some pam
  logonUserA _ _ := true
  getpwnam username := some ⟨1000, username, "/home", "/bin/sh"⟩
  start _ context := some ("pipe" ++ toString context.sessionId)

def logonRequest (connectionId : UInt32) (user password : String) : LogonUserRequest where
  connectionId := connectionId
  user := some user
  domain := none
  password := some password
  desktopWidth := 1024
  desktopHeight := 768
  colorDepth := 24
  clientName := none
  clientAddress := none
  clientBuild := 2600
  clientProductId := 1
  clientHardwareId := 0
  clientProtocolType := 2

def logon (connectionId : UInt32) (user password : String) : Event :=
  .logonUser answers (logonRequest connectionId user password)

def fdsApiLogon (sessionId : UInt32) (user : String) : Event :=
  .authenticateUser answers ⟨sessionId, user, "secret", ""⟩

end Sample

end FreeRDS.Manager
