import FreeRDS.Manager.State

/-! # Calls from freerds and from the FDSAPI

`CallInLogonUser`, `CallInAuthenticateUser`, `CallInDisconnectUserSession`,
`CallInLogOffUserSession` and `CallInEndSession` run on the thread of the RPC engine,
`FDSApiHandler::authenticateUser` on a worker of the FDSAPI server. Each `doStuff` is
a program over the actions of the manager, in the order of the source.
-/

namespace FreeRDS.Manager

open Lib Prog

/-- The reattach search, and the second look at the state of the session it found. -/
def findDisconnectedSession (config : Config) (username domain : String) : Handler (Option Ptr) :=
  if config.getReconnectAllowed then do
    match ← perform (.getFirstDisconnectedSessionUserName username domain) with
    | none => pure none
    | some p =>
      let session ← perform (.session p)
      if session.currentState = .disconnected then pure (some p) else pure none
  else pure none

variable (config : Config) (answers : Answers)

/-- Start the module of a session that is down; the module of any other is up already. -/
def startIfDown (currentSession : Ptr) : Handler Bool := do
  let session ← perform (.session currentSession)
  if session.currentState = .down then perform (.startModule currentSession config answers)
  else pure true

def setSession (currentSession : Ptr) : List Session.Setter → Handler Unit
  | [] => pure ()
  | setter :: setters => do
      perform (.setSession currentSession setter)
      setSession currentSession setters

/-- The branch of `getUserSession` that creates a session; `none` when it reports an error. The
two calls differ in the data they copy into the session. -/
def newUserSession (username domain : String)
    (clientData : List Session.Setter) : Handler (Option Ptr) := do
  let currentSession ← perform .createSession
  perform (.setSession currentSession (.userName username))
  perform (.setSession currentSession (.domain domain))
  setSession currentSession clientData
  if ← perform (.generateUserToken currentSession answers) then
    if ← perform (.generateEnvBlockAndModify currentSession answers) then
      perform (.setSession currentSession (.moduleConfigName config.getModuleConfigName))
      pure (some currentSession)
    else pure none
  else pure none

/-- `sprintf("RDP-Tcp#%d", mConnectionId)`. -/
def winStationName (connectionId : UInt32) : String :=
  "RDP-Tcp#" ++ toString connectionId.toInt32

/-! ## CallInLogonUser -/

/-- `FDSAPI_LOGON_USER_REQUEST` without its header. -/
structure LogonUserRequest where
  connectionId : UInt32
  user : Option String
  domain : Option String
  password : Option String
  desktopWidth : UInt32
  desktopHeight : UInt32
  colorDepth : UInt32
  clientName : Option String
  clientAddress : Option String
  clientBuild : UInt32
  clientProductId : UInt32
  clientHardwareId : UInt32
  clientProtocolType : UInt32
  deriving DecidableEq, Repr

structure CallInLogonUser where
  connectionId : UInt32
  userName : String
  domainName : String
  password : String
  client : Session.ClientData
  deriving DecidableEq, Repr

/-- The answer to a LogonUser request: `mResult` and `mPipeName`. -/
structure LogonUserReply where
  result : UInt32 := 0
  pipeName : String := ""
  session : Option Ptr := none
  deriving DecidableEq, Repr

namespace CallInLogonUser

def decodeRequest (request : LogonUserRequest) : CallInLogonUser where
  connectionId := request.connectionId
  userName := request.user.getD ""
  domainName := request.domain.getD ""
  password := request.password.getD ""
  client :=
    { displayWidth := request.desktopWidth
      displayHeight := request.desktopHeight
      displayColorDepth := request.colorDepth
      name := request.clientName.getD ""
      address := request.clientAddress.getD ""
      buildNumber := request.clientBuild
      productId := request.clientProductId.toUInt16
      hardwareId := request.clientHardwareId
      protocolType := request.clientProtocolType.toUInt16 }

variable (call : CallInLogonUser)

def clientInformation : ClientInformation where
  width := call.client.displayWidth
  height := call.client.displayHeight
  colordepth := call.client.displayColorDepth

def authenticateUser : Handler Int := do
  let currentConnection ← perform (.getOrCreateConnection call.connectionId)
  perform (.authenticateUser currentConnection config answers call.userName call.domainName call.password)

def newUserSession :
    Handler (Option Ptr) :=
  Manager.newUserSession config answers call.userName call.domainName
    [.clientData call.client, .winStationName (winStationName call.connectionId)]

/-- The end of `getUserSession`, for the reattached and for the new session. -/
def connectSession (currentConnection currentSession : Ptr) : Handler LogonUserReply := do
  let session ← perform (.session currentSession)
  perform (.setSessionId currentConnection session.sessionId)
  perform (.setClientInformation currentConnection call.clientInformation)
  if ← startIfDown config answers currentSession then
    perform (.setConnectState currentSession .active)
    let session ← perform (.session currentSession)
    pure { pipeName := session.pipeName, session := some currentSession }
  else pure { result := 1 }

def getUserSession :
    Handler LogonUserReply := do
  let currentConnection ← perform (.getOrCreateConnection call.connectionId)
  match ← findDisconnectedSession config call.userName call.domainName with
  | some currentSession =>
    perform (.setSession currentSession (.clientData call.client))
    call.connectSession config answers currentConnection currentSession
  | none =>
    match ← call.newUserSession config answers with
    | some currentSession => call.connectSession config answers currentConnection currentSession
    | none => pure { result := 1 }

/-- `getAuthSession` once it has its connection and its session. -/
def startGreeter (currentConnection currentSession : Ptr) : Handler LogonUserReply := do
  perform (.setSession currentSession (.moduleConfigName config.getGreeter))
  perform (.setSession currentSession (.userName call.userName))
  perform (.setSession currentSession (.domain call.domainName))
  perform (.setSession currentSession (.clientData call.client))
  perform (.setSession currentSession (.winStationName (winStationName call.connectionId)))
  if ← perform (.generateAuthEnvBlockAndModify currentSession) then
    let session ← perform (.session currentSession)
    perform (.setSessionId currentConnection session.sessionId)
    perform (.setClientInformation currentConnection call.clientInformation)
    perform (.setSession currentSession (.authSession true))
    if ← perform (.startModule currentSession config answers) then
      perform (.setConnectState currentSession .connected)
      let session ← perform (.session currentSession)
      pure { pipeName := session.pipeName, session := some currentSession }
    else pure { result := 1 }
  else pure { result := 1 }

def getAuthSession :
    Handler LogonUserReply := do
  let currentConnection ← perform (.getOrCreateConnection call.connectionId)
  let currentSession ← perform .createSession
  call.startGreeter config answers currentConnection currentSession

def doStuff :
    Handler LogonUserReply := do
  let authStatus ← call.authenticateUser config answers
  if authStatus ≠ 0 then call.getAuthSession config answers
  else call.getUserSession config answers

end CallInLogonUser

/-! ## CallInAuthenticateUser -/

/-- `FDSAPI_START_SESSION_REQUEST` without its header. -/
structure StartSessionRequest where
  sessionId : UInt32
  user : Option String
  domain : Option String
  password : Option String
  deriving DecidableEq, Repr

structure CallInAuthenticateUser where
  sessionId : UInt32
  userName : String
  domainName : String
  password : String
  deriving DecidableEq, Repr

/-- The answer to a StartSession request: `mResult` and `mAuthStatus`. -/
structure AuthenticateUserReply where
  result : UInt32 := 0
  authStatus : Int
  deriving DecidableEq, Repr

namespace CallInAuthenticateUser

def decodeRequest (request : StartSessionRequest) : CallInAuthenticateUser where
  sessionId := request.sessionId
  userName := request.user.getD ""
  domainName := request.domain.getD ""
  password := request.password.getD ""

variable (call : CallInAuthenticateUser)

def authenticateUser :
    Handler Int := do
  let connectionId ← perform (.getConnectionIdForSessionId call.sessionId)
  match ← perform (.getConnection connectionId) with
  | none => pure (-1)
  | some currentConnection =>
    perform (.authenticateUser currentConnection config answers call.userName call.domainName
      call.password)

def newUserSession :
    Handler (Option Ptr) :=
  Manager.newUserSession config answers call.userName call.domainName []

/-- The end of `getUserSession`: announce the switch, start the module, queue the task. -/
def switchSession (currentSession : Ptr) : Handler UInt32 := do
  let connectionId ← perform (.getConnectionIdForSessionId call.sessionId)
  let connection ← perform (.getOrCreateConnection connectionId)
  let session ← perform (.session currentSession)
  perform (.setAbout2SwitchSessionId connection session.sessionId)
  if ← startIfDown config answers currentSession then
    let session ← perform (.session currentSession)
    let _ ← perform (.addTask (.switchTo
      { connectionId := connectionId
        serviceEndpoint := session.pipeName
        oldSessionId := call.sessionId
        newSessionId := session.sessionId
        newSession := currentSession }))
    pure 0
  else pure 1

def getUserSession :
    Handler UInt32 := do
  match ← findDisconnectedSession config call.userName call.domainName with
  | none =>
    match ← call.newUserSession config answers with
    | some currentSession => call.switchSession config answers currentSession
    | none => pure 1
  | some currentSession =>
    perform (.setConnectState currentSession .connectQuery)
    call.switchSession config answers currentSession

def doStuff :
    Handler AuthenticateUserReply := do
  let authStatus ← call.authenticateUser config answers
  if authStatus = 0 then
    let result ← call.getUserSession config answers
    pure { result := result, authStatus := authStatus }
  else pure { authStatus := authStatus }

end CallInAuthenticateUser

def CallInDisconnectUserSession.doStuff (config : Config) (connectionId : UInt32) : Handler Int := do
  match ← perform (.getConnection connectionId) with
  | none => pure (-1)
  | some currentConnection =>
    let connection ← perform (.connection currentConnection)
    match ← perform (.getSession connection.sessionId) with
    | none => pure (-1)
    | some currentSession =>
      perform (.setConnectState currentSession .disconnected)
      perform (.removeConnection connectionId)
      if config.getSessionTimeout = 0 then
        let session ← perform (.session currentSession)
        let _ ← perform (.addTask (.endSession ⟨session.sessionId, .disconnectUserSession⟩))
        pure 0
      else pure 0

def CallInLogOffUserSession.doStuff (config : Config) (connectionId : UInt32) : Handler Int := do
  match ← perform (.getConnection connectionId) with
  | none => pure (-1)
  | some currentConnection =>
    let connection ← perform (.connection currentConnection)
    match ← perform (.getSession connection.sessionId) with
    | none => pure (-1)
    | some currentSession =>
      let _ ← perform (.stopModule currentSession config)
      perform (.removeSession connection.sessionId)
      perform (.removeConnection connectionId)
      pure 0

def CallInEndSession.doStuff (sessionId : UInt32) : Handler Int := do
  let _ ← perform (.addTask (.endSession ⟨sessionId, .endSession⟩))
  pure 0

/-! ## FDSApiHandler -/

/-- The arguments of `FDSApiHandler::authenticateUser`. -/
structure FDSApiCredentials where
  sessionId : UInt32
  username : String
  password : String
  domain : String
  deriving DecidableEq, Repr

namespace FDSApiHandler

/-- The session that sent the request and the connection that shows it. -/
structure Greeter where
  authSession : Ptr
  connectionId : UInt32
  connection : Ptr

variable (request : FDSApiCredentials)

/-- The status returned to the caller; only an authenticated greeter goes on. -/
def authenticate :
    Handler (Int × Option Greeter) := do
  match ← perform (.getSession request.sessionId) with
  | none => pure (-1, none)
  | some authSession =>
    let source ← perform (.session authSession)
    if source.authSession then
      let connectionId ← perform (.getConnectionIdForSessionId request.sessionId)
      match ← perform (.getConnection connectionId) with
      | none => pure (-1, none)
      | some connection =>
        let authStatus ← perform
          (.authenticateUser connection config answers request.username request.domain request.password)
        if authStatus ≠ 0 then pure (authStatus, none)
        else pure (authStatus, some ⟨authSession, connectionId, connection⟩)
    else pure (-1, none)

def switchSession (greeter : Greeter) (userSession : Ptr) : Handler Unit := do
  let source ← perform (.session greeter.authSession)
  perform (.setSession userSession (.userName request.username))
  perform (.setSession userSession (.domain request.domain))
  perform (.setSession userSession (.clientData source.clientData))
  perform (.setSession userSession (.winStationName source.winStationName))
  -- both results are dropped here
  let _ ← perform (.generateUserToken userSession answers)
  let _ ← perform (.generateEnvBlockAndModify userSession answers)
  perform (.setSession userSession (.moduleConfigName config.getModuleConfigName))
  let session ← perform (.session userSession)
  perform (.setSessionId greeter.connection session.sessionId)
  perform (.setClientInformation greeter.connection
    ⟨session.clientDisplayWidth, session.clientDisplayHeight, session.clientDisplayColorDepth⟩)

def startNewSession (userSession : Ptr) (isNewSession : Bool) :
    Handler Bool :=
  if isNewSession then perform (.startModule userSession config answers) else pure true

def queueSwitch (connectionId : UInt32) (userSession : Ptr) :
    Handler Unit := do
  let session ← perform (.session userSession)
  let _ ← perform (.addTask (.switchTo
    { connectionId := connectionId
      serviceEndpoint := session.pipeName
      oldSessionId := request.sessionId
      newSessionId := session.sessionId
      newSession := userSession }))

def chooseSession : Option Ptr → Handler Ptr
  | some userSession => pure userSession
  | none => perform .createSession

/-- Everything up to the queued task, with the session still to be marked active. -/
def prepareSwitch :
    Handler (Int × Option Ptr) := do
  let authenticated ← authenticate config answers request
  match authenticated.2 with
  | none => pure (authenticated.1, none)
  | some greeter =>
    let found ← findDisconnectedSession config request.username request.domain
    let userSession ← chooseSession found
    switchSession config answers request greeter userSession
    if ← startNewSession config answers userSession found.isNone then
      queueSwitch request greeter.connectionId userSession
      pure (authenticated.1, some userSession)
    else pure (-1, none)

/-- The user session becomes active only after its switch has been queued. -/
def authenticateUser :
    Handler Int := do
  let prepared ← prepareSwitch config answers request
  match prepared.2 with
  | none => pure prepared.1
  | some userSession =>
    perform (.setConnectState userSession .active)
    pure prepared.1

end FDSApiHandler

end FreeRDS.Manager
