import FreeRDS.Lib.Run
import FreeRDS.Manager.Session

/-! # The channel server

One process per session delivers session events to the plugins of the virtual channels. It asks the
manager for the state of its session whenever it is woken up, and turns the changes into events. An
event opens or closes a PAM session, and the callbacks of the plugins run as the user of the session.
-/

namespace FreeRDS.ChannelServer

open Lib Manager

/-- The `WTS_EVENT_*` that are delivered to the plugins. -/
inductive WtsEvent
  | create | delete | connect | disconnect | logon | logoff
  deriving DecidableEq, Repr

/-- `channel_utils_get_session_state`: a query that fails reads as down. -/
def getSessionState (answer : Option ConnectState) : ConnectState := answer.getD .down

def stateChange (sessionState newSessionState : ConnectState) : List WtsEvent :=
  if newSessionState = sessionState then []
  else
    match newSessionState with
    | .connected => [.connect]
    | .disconnected => [.disconnect]
    | .active => (if sessionState = .disconnected then [.connect] else []) ++ [.logon]
    | _ => []

def loopEvents : ConnectState → List (Option ConnectState) → List WtsEvent
  | _, [] => []
  | sessionState, answer :: answers =>
    stateChange sessionState (getSessionState answer) ++ loopEvents (getSessionState answer) answers

/-- `process_ts_events` up to a wait of its loop. -/
def processTsEvents (answers : List (Option ConnectState)) : List WtsEvent :=
  [.create, .connect] ++ loopEvents .connected answers

/-! ## fire_session_event -/

structure Passwd where
  uid : Nat
  gid : Nat
  deriving DecidableEq, Repr

structure Plugin where
  handles : WtsEvent → Bool

structure Environment where
  /-- `getenv("USER")`. -/
  user : Option String
  getpwnam : String → Option Passwd
  /-- `getpwuid(0)`. -/
  rootPasswd : Option Passwd
  /-- Whether `pam_start` succeeds. -/
  pamStart : Bool
  plugins : List Plugin

/-- What an event does to the process, one system call or callback at a time. -/
inductive Operation
  | pamStart | pamOpenSession | pamCloseSession | pamEnd
  /-- `g_savedUID = geteuid()` and `g_savedGID = getegid()`. -/
  | saveEffectiveIds
  | initgroups
  | seteuid (uid : Nat)
  | setegid (gid : Nat)
  /-- `seteuid(g_savedUID)`. -/
  | restoreUid
  /-- `setegid(g_savedGID)`. -/
  | restoreGid
  | deliver (plugin : Nat) (event : WtsEvent)
  deriving DecidableEq, Repr

namespace Environment

variable (env : Environment)

/-- `username && (strlen(username) > 0)`. -/
def hasUser : Bool := env.user.any fun username => username ≠ ""

def pamSession (session : Operation) : List Operation :=
  if env.hasUser then .pamStart :: if env.pamStart then [session, .pamEnd] else [] else []

def invokePam : WtsEvent → List Operation
  | .logon => env.pamSession .pamOpenSession
  | .logoff => env.pamSession .pamCloseSession
  | _ => []

/-- Once there is a user name, `impersonate_user` returns `TRUE`. -/
def impersonateUser : List Operation :=
  match env.user.bind env.getpwnam with
  | some passwd => [.saveEffectiveIds, .initgroups, .seteuid passwd.uid, .setegid passwd.gid]
  | none => []

def revertToSelf : List Operation :=
  if env.user.isSome ∧ env.rootPasswd.isSome then [.restoreUid, .restoreGid, .initgroups] else []

def deliverTo (event : WtsEvent) : Nat → List Plugin → List Operation
  | _, [] => []
  | i, plugin :: plugins =>
    if plugin.handles event then .deliver i event :: deliverTo event (i + 1) plugins
    else deliverTo event (i + 1) plugins

def fireSessionEvent (event : WtsEvent) : List Operation :=
  env.invokePam event ++ env.impersonateUser ++ deliverTo event 0 env.plugins ++ env.revertToSelf

/-- `shutdown`, the handler of the termination signals. -/
def shutdown : List Operation := env.fireSessionEvent .logoff ++ env.fireSessionEvent .delete

end Environment

inductive Ending
  /-- `WTSWaitSystemEvent` fails after the last iteration. -/
  | waitFails
  /-- A termination signal comes after some events have been delivered and some operations of the
  next one have been executed; the wait may have failed before. -/
  | signal (waitFailed : Bool) (events operations : Nat)
  deriving DecidableEq, Repr

def Ending.events (answers : List (Option ConnectState)) : Ending → List WtsEvent
  | .waitFails | .signal true _ _ => processTsEvents answers ++ [.delete]
  | .signal false _ _ => processTsEvents answers

def Environment.interrupted (env : Environment) (events : List WtsEvent) (delivered operations : Nat) :
    List Operation :=
  (events.take delivered).flatMap env.fireSessionEvent ++
    (events[delivered]?.toList.flatMap env.fireSessionEvent).take operations

def Environment.run (env : Environment) (answers : List (Option ConnectState)) (ending : Ending) : List Operation :=
  match ending with
  | .waitFails => (ending.events answers).flatMap env.fireSessionEvent
  | .signal _ delivered operations =>
    env.interrupted (ending.events answers) delivered operations ++ env.shutdown

end FreeRDS.ChannelServer
