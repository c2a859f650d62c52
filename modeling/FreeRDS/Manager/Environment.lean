import Mathlib.Tactic.Common

/-! # What the manager gets from outside

The ini file behind `PropertyManager`, the modules loaded by `ModuleManager`, and
the answers of PAM, `LogonUserA`, `getpwnam` and the module entry points. The
configuration stays as it is once the manager runs; the answers may differ from
request to request.
-/

namespace FreeRDS.Manager

/-- `IniFile_GetKeyValueInt` and `IniFile_GetKeyValueString` on the section "global". -/
structure IniFile where
  getKeyValueInt : String → Int
  getKeyValueString : String → Option String

structure PropertyManager where
  ini : Option IniFile

namespace PropertyManager

variable (properties : PropertyManager) (path : String)

def getPropertyBool : Option Bool :=
  match properties.ini with
  | none => none
  | some ini =>
    if ini.getKeyValueInt path < 0 then none else some (ini.getKeyValueInt path != 0)

def getPropertyNumber : Option Int :=
  match properties.ini with
  | none => none
  | some ini => if ini.getKeyValueInt path < 0 then none else some (ini.getKeyValueInt path)

def getPropertyString : Option String :=
  match properties.ini with
  | none => none
  | some ini => ini.getKeyValueString path

end PropertyManager

/-- The fields of `struct passwd` that the manager reads. -/
structure Passwd where
  uid : Int
  name : String
  dir : String
  shell : String
  deriving DecidableEq, Repr

/-- A `HANDLE` of `LogonUserA`, as the account it was issued for. -/
structure UserToken where
  username : String
  domain : String
  deriving DecidableEq, Repr

abbrev EnvBlock := List (String × String)

/-- `SetEnvironmentVariableEBA`: replace the entry of that name, or append one. -/
def setEnvironmentVariableEBA (block : Option EnvBlock) (name value : String) : Option EnvBlock :=
  let entries := block.getD []
  if entries.any (·.1 = name) then
    some (entries.map fun entry => if entry.1 = name then (name, value) else entry)
  else some (entries ++ [(name, value)])

/-- `RDS_MODULE_COMMON`; its session id is a `WORD`. -/
structure ModuleContext where
  sessionId : UInt16
  userName : String
  userToken : Option UserToken
  envBlock : Option EnvBlock
  baseConfigPath : String
  desktopWidth : UInt32
  desktopHeight : UInt32
  deriving DecidableEq, Repr

/-- `RDS_AUTH_MODULE_ENTRY_POINTS::LogonUser`: user name, then domain and password or NULL. -/
abbrev AuthEntryPoint := String → Option String → Option String → Int

/-- A loaded authentication library. The entry point stays NULL when its setup failed. -/
structure AuthModule where
  entryLogonUser : Option AuthEntryPoint

def AuthModule.logonUser (auth : AuthModule) (username domain password : String) : Int :=
  match auth.entryLogonUser with
  | none => -1
  | some entry =>
    if username.isEmpty then -1
    else entry username (if domain.isEmpty then none else some domain)
      (if password.isEmpty then none else some password)

structure Config where
  properties : PropertyManager
  /-- `ModuleManager::getModule(name) != NULL`. -/
  hasModule : String → Bool

/-- The answers one request gets from the system around the manager. -/
structure Answers where
  /-- `AuthModule::loadFromName`. -/
  loadFromName : String → Option AuthModule
  /-- `LogonUserA(user, domain, NULL, ...)`. -/
  logonUserA : String → String → Bool
  getpwnam : String → Option Passwd
  /-- `RDS_MODULE_ENTRY_POINTS::Start`, the pipe name or NULL. -/
  start : String → ModuleContext → Option String

variable (config : Config)

def Config.getReconnectAllowed : Bool :=
  (config.properties.getPropertyBool "session.reconnect").getD true

def Config.getModuleConfigName : String :=
  (config.properties.getPropertyString "module").getD "X11"

def Config.getGreeter : String :=
  (config.properties.getPropertyString "auth.greeter").getD "Qt"

def Config.getAuthModule : String :=
  (config.properties.getPropertyString "auth.module").getD "PAM"

def Config.getSessionTimeout : Int :=
  (config.properties.getPropertyNumber "session.timeout").getD 0

end FreeRDS.Manager
