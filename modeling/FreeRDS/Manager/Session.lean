import FreeRDS.Manager.Environment

/-! # Sessions

`Session` and its methods. A method that fires FDSAPI events returns them, since
the event goes to the server of another thread.
-/

namespace FreeRDS.Manager

/-- `WTS_CONNECTSTATE_CLASS`. -/
inductive ConnectState
  | active | connected | connectQuery | shadow | disconnected
  | idle | listen | reset | down | init
  deriving DecidableEq, Repr

/-- The `WTS_SESSION_*` and `WTS_REMOTE_*` notifications that the manager fires. -/
inductive SessionEvent
  | remoteConnect | remoteDisconnect | sessionLogon | sessionLogoff | sessionCreate
  deriving DecidableEq, Repr

structure Session where
  sessionId : UInt32
  authSession : Bool := false
  sessionStarted : Bool := false
  username : String := ""
  domain : String := ""
  winStationName : String := ""
  clientBuildNumber : UInt32 := 0
  clientName : String := ""
  clientProductId : UInt16 := 0
  clientHardwareId : UInt32 := 0
  clientAddress : String := ""
  clientDisplayWidth : UInt32 := 0
  clientDisplayHeight : UInt32 := 0
  clientDisplayColorDepth : UInt32 := 0
  clientProtocolType : UInt16 := 0
  pipeName : String := ""
  userToken : Option UserToken := none
  envBlock : Option EnvBlock := none
  moduleConfigName : String := ""
  moduleName : String := ""
  currentModuleContext : Option ModuleContext := none
  currentState : ConnectState := .down
  /-- `not_a_date_time` until the first change. -/
  currentStateChangeTime : Option Int := none
  deriving DecidableEq, Repr

namespace Session

def getStateChange (oldState newState : ConnectState) : Option SessionEvent :=
  match newState with
  | .connected => if newState ≠ oldState then some .remoteConnect else none
  | .disconnected => if newState ≠ oldState then some .remoteDisconnect else none
  | .active => if newState ≠ oldState then some .sessionLogon else none
  | _ => if oldState = .active ∨ oldState = .disconnected then some .sessionLogoff else none

/-- Any state but connected and active clears the client information. -/
def setConnectState (now : Int) (state : ConnectState) (session : Session) :
    List SessionEvent × Session :=
  if session.currentState = state then ([], session)
  else
    let changed := { session with currentState := state, currentStateChangeTime := some now }
    let cleared :=
      if state ≠ .connected ∧ state ≠ .active then
        { changed with clientName := "", clientAddress := "", clientBuildNumber := 0,
                       clientProductId := 0, clientHardwareId := 0, clientProtocolType := 0 }
      else changed
    ((getStateChange session.currentState state).toList, cleared)

/-- What `setClientDisplayWidth` and its siblings copy from a client. -/
structure ClientData where
  displayWidth : UInt32
  displayHeight : UInt32
  displayColorDepth : UInt32
  name : String
  address : String
  buildNumber : UInt32
  productId : UInt16
  hardwareId : UInt32
  protocolType : UInt16
  deriving DecidableEq, Repr

variable (session : Session)

def clientData : ClientData where
  displayWidth := session.clientDisplayWidth
  displayHeight := session.clientDisplayHeight
  displayColorDepth := session.clientDisplayColorDepth
  name := session.clientName
  address := session.clientAddress
  buildNumber := session.clientBuildNumber
  productId := session.clientProductId
  hardwareId := session.clientHardwareId
  protocolType := session.clientProtocolType

inductive Setter
  | userName (username : String)
  | domain (domainName : String)
  | winStationName (winStationName : String)
  | clientData (client : ClientData)
  | moduleConfigName (configName : String)
  | authSession (authSession : Bool)

def set : Setter → Session
  | .userName username => { session with username := username }
  | .domain domainName => { session with domain := domainName }
  | .winStationName winStationName => { session with winStationName := winStationName }
  | .clientData client =>
    { session with
      clientDisplayWidth := client.displayWidth
      clientDisplayHeight := client.displayHeight
      clientDisplayColorDepth := client.displayColorDepth
      clientName := client.name
      clientAddress := client.address
      clientBuildNumber := client.buildNumber
      clientProductId := client.productId
      clientHardwareId := client.hardwareId
      clientProtocolType := client.protocolType }
  | .moduleConfigName configName => { session with moduleConfigName := configName }
  | .authSession authSession => { session with authSession := authSession }

/-- On failure `LogonUserA` leaves the old handle in place. -/
def generateUserToken (answers : Answers) (session : Session) : Bool × Session :=
  if session.username.isEmpty then (false, session)
  else if answers.logonUserA session.username session.domain then
    (true, { session with userToken := some ⟨session.username, session.domain⟩ })
  else (false, session)

def generateEnvBlockAndModify (answers : Answers) (session : Session) : Bool × Session :=
  if session.username.isEmpty then (false, session)
  else
    match answers.getpwnam session.username with
    | none => (false, { session with envBlock := none })
    | some pwnam =>
      let block := setEnvironmentVariableEBA none "UID" (toString pwnam.uid)
      let block := setEnvironmentVariableEBA block "SHELL" pwnam.shell
      let block := setEnvironmentVariableEBA block "USER" pwnam.name
      let block := setEnvironmentVariableEBA block "HOME" pwnam.dir
      (true, { session with envBlock := block })

def generateAuthEnvBlockAndModify : Bool × Session :=
  let block := if session.username.isEmpty then none
    else setEnvironmentVariableEBA none "FREERDS_USER" session.username
  let block := if session.domain.isEmpty then block
    else setEnvironmentVariableEBA block "FREERDS_DOMAIN" session.domain
  (true, { session with envBlock := block })

/-- The context that `startModule` fills in before it calls the module. -/
def newModuleContext : ModuleContext where
  sessionId := session.sessionId.toUInt16
  userName := session.username
  userToken := session.userToken
  envBlock := session.envBlock
  baseConfigPath := "module." ++ session.moduleConfigName
  desktopWidth := session.clientDisplayWidth
  desktopHeight := session.clientDisplayHeight

/-- A failed start keeps the module name it looked up and the context it filled in. -/
def startModule (config : Config) (answers : Answers) (now : Int) (session : Session) :
    Bool × List SessionEvent × Session :=
  if session.sessionStarted then (false, [], session)
  else
    match config.properties.getPropertyString
        ("module." ++ session.moduleConfigName ++ ".modulename") with
    | none => (false, [], session)
    | some moduleName =>
      let named := { session with moduleName := moduleName }
      if config.hasModule moduleName then
        let prepared := { named with currentModuleContext := some named.newModuleContext }
        let pName := (answers.start moduleName named.newModuleContext).getD ""
        if pName.isEmpty then (false, [], prepared)
        else
          let started := { prepared with pipeName := pName, sessionStarted := true }
          (true, started.setConnectState now .connected)
      else (false, [], named)

/-- `mSessionStarted` stays set. -/
def stopModule (config : Config) (now : Int) (session : Session) :
    Bool × List SessionEvent × Session :=
  if session.sessionStarted then
    if config.hasModule session.moduleName then
      let stopped := { session with currentModuleContext := none, pipeName := "" }
      (true, stopped.setConnectState now .down)
    else (false, [], session)
  else (false, [], session)

/-! ## What a method leaves alone

A method that writes one field, or a few, keeps every projection that does not look
at them.
-/

def account : String × String × Bool :=
  (session.username, session.domain, session.authSession)

def HasModule : Prop :=
  session.sessionStarted = true ∧ session.currentModuleContext.isSome ∧ session.pipeName ≠ ""

instance (session : Session) : Decidable session.HasModule := inferInstanceAs (Decidable (_ ∧ _ ∧ _))

def HoldsToken : Prop :=
  session.userToken = some ⟨session.username, session.domain⟩

@[simp] theorem set_sessionId (setter : Setter) :
    (session.set setter).sessionId = session.sessionId := by
  cases setter <;> rfl

@[simp] theorem set_currentState (setter : Setter) :
    (session.set setter).currentState = session.currentState := by
  cases setter <;> rfl

@[simp] theorem set_hasModule (setter : Setter) :
    (session.set setter).HasModule ↔ session.HasModule := by
  cases setter <;> rfl

theorem set_userName_domain_account (username domain : String) :
    ((session.set (.userName username)).set (.domain domain)).account =
      (username, domain, session.authSession) := rfl

theorem set_userName_self {session : Session} {username : String} (h : session.username = username) :
    session.set (.userName username) = session := by
  subst h
  rfl

theorem set_domain_self {session : Session} {domain : String} (h : session.domain = domain) :
    session.set (.domain domain) = session := by
  subst h
  rfl

@[simp] theorem set_clientData_account (client : ClientData) :
    (session.set (.clientData client)).account = session.account := by
  simp [account, set]

@[simp] theorem set_winStationName_account (name : String) :
    (session.set (.winStationName name)).account = session.account := by
  simp [account, set]

@[simp] theorem set_moduleConfigName_account (name : String) :
    (session.set (.moduleConfigName name)).account = session.account := by
  simp [account, set]

@[simp] theorem set_authSession_authSession (auth : Bool) :
    (session.set (.authSession auth)).authSession = auth := by
  simp [set]

@[simp] theorem set_moduleConfigName_holdsToken (name : String) :
    (session.set (.moduleConfigName name)).HoldsToken ↔ session.HoldsToken := .rfl

section SetConnectState

variable (now : Int) (state : ConnectState) (session : Session)

theorem setConnectState_unseen {α : Type*} (π : Session → α)
    (hstate : ∀ (s : Session) (state : ConnectState) (time : Option Int),
      π { s with currentState := state, currentStateChangeTime := time } = π s)
    (hcli : ∀ s : Session,
      π { s with clientName := "", clientAddress := "", clientBuildNumber := 0,
                 clientProductId := 0, clientHardwareId := 0, clientProtocolType := 0 } = π s) :
    π (session.setConnectState now state).2 = π session := by
  unfold setConnectState
  split
  · rfl
  · dsimp only
    have hchanged := hstate session state (some now)
    split
    · exact (hcli _).trans hchanged
    · exact hchanged

@[simp] theorem setConnectState_sessionId :
    (session.setConnectState now state).2.sessionId = session.sessionId :=
  setConnectState_unseen now state session sessionId (fun _ _ _ => rfl) fun _ => rfl

@[simp] theorem setConnectState_account :
    (session.setConnectState now state).2.account = session.account :=
  setConnectState_unseen now state session account (fun _ _ _ => rfl) fun _ => rfl

@[simp] theorem setConnectState_authSession :
    (session.setConnectState now state).2.authSession = session.authSession :=
  setConnectState_unseen now state session authSession (fun _ _ _ => rfl) fun _ => rfl

@[simp] theorem setConnectState_hasModule :
    (session.setConnectState now state).2.HasModule ↔ session.HasModule :=
  iff_of_eq (setConnectState_unseen now state session HasModule (fun _ _ _ => rfl) fun _ => rfl)

@[simp] theorem setConnectState_currentState :
    (session.setConnectState now state).2.currentState = state := by
  unfold setConnectState
  split
  · assumption
  · dsimp only
    split <;> rfl

end SetConnectState

section Generate

variable (answers : Answers) (session : Session)

theorem generateUserToken_unseen {α : Type*} (π : Session → α)
    (h : ∀ (s : Session) (token : Option UserToken), π { s with userToken := token } = π s) :
    π (session.generateUserToken answers).2 = π session := by
  unfold generateUserToken
  split
  · rfl
  · split
    · exact h session _
    · rfl

@[simp] theorem generateUserToken_sessionId :
    (session.generateUserToken answers).2.sessionId = session.sessionId :=
  generateUserToken_unseen answers session sessionId fun _ _ => rfl

@[simp] theorem generateUserToken_currentState :
    (session.generateUserToken answers).2.currentState = session.currentState :=
  generateUserToken_unseen answers session currentState fun _ _ => rfl

@[simp] theorem generateUserToken_account :
    (session.generateUserToken answers).2.account = session.account :=
  generateUserToken_unseen answers session account fun _ _ => rfl

theorem generateUserToken_fst : (session.generateUserToken answers).1 =
    (!session.username.isEmpty && answers.logonUserA session.username session.domain) := by
  unfold generateUserToken
  split
  · simp_all
  · split <;> simp_all

theorem generateUserToken_holdsToken (h : (session.generateUserToken answers).1 = true) :
    (session.generateUserToken answers).2.HoldsToken := by
  unfold generateUserToken at h ⊢
  split at h
  · cases h
  · split at h
    · simp_all [HoldsToken]
    · cases h

@[simp] theorem generateUserToken_hasModule :
    (session.generateUserToken answers).2.HasModule ↔ session.HasModule :=
  iff_of_eq (generateUserToken_unseen answers session HasModule fun _ _ => rfl)

theorem generateEnvBlockAndModify_unseen {α : Type*} (π : Session → α)
    (h : ∀ (s : Session) (block : Option EnvBlock), π { s with envBlock := block } = π s) :
    π (session.generateEnvBlockAndModify answers).2 = π session := by
  unfold generateEnvBlockAndModify
  split
  · rfl
  · split
    · exact h session none
    · exact h session _

@[simp] theorem generateEnvBlockAndModify_sessionId :
    (session.generateEnvBlockAndModify answers).2.sessionId = session.sessionId :=
  generateEnvBlockAndModify_unseen answers session sessionId fun _ _ => rfl

@[simp] theorem generateEnvBlockAndModify_currentState :
    (session.generateEnvBlockAndModify answers).2.currentState = session.currentState :=
  generateEnvBlockAndModify_unseen answers session currentState fun _ _ => rfl

@[simp] theorem generateEnvBlockAndModify_account :
    (session.generateEnvBlockAndModify answers).2.account = session.account :=
  generateEnvBlockAndModify_unseen answers session account fun _ _ => rfl

@[simp] theorem generateEnvBlockAndModify_holdsToken :
    (session.generateEnvBlockAndModify answers).2.HoldsToken ↔ session.HoldsToken :=
  iff_of_eq (generateEnvBlockAndModify_unseen answers session HoldsToken fun _ _ => rfl)

@[simp] theorem generateEnvBlockAndModify_hasModule :
    (session.generateEnvBlockAndModify answers).2.HasModule ↔ session.HasModule :=
  iff_of_eq (generateEnvBlockAndModify_unseen answers session HasModule fun _ _ => rfl)

@[simp] theorem generateAuthEnvBlockAndModify_sessionId :
    session.generateAuthEnvBlockAndModify.2.sessionId = session.sessionId := rfl

@[simp] theorem generateAuthEnvBlockAndModify_currentState :
    session.generateAuthEnvBlockAndModify.2.currentState = session.currentState := rfl

@[simp] theorem generateAuthEnvBlockAndModify_account :
    session.generateAuthEnvBlockAndModify.2.account = session.account := by
  simp [account, generateAuthEnvBlockAndModify]

end Generate

section Module

variable (config : Config) (answers : Answers) (now : Int) (session : Session)

theorem startModule_cases :
    session.startModule config answers now = (false, [], session) ∨
    (∃ moduleName, session.startModule config answers now =
      (false, [], { session with moduleName := moduleName })) ∨
    (∃ moduleName context, session.startModule config answers now =
      (false, [], { session with moduleName := moduleName, currentModuleContext := some context })) ∨
    ∃ moduleName context pName, pName ≠ "" ∧ session.startModule config answers now =
      (true, setConnectState now .connected
        { session with moduleName := moduleName, currentModuleContext := some context,
                       pipeName := pName, sessionStarted := true }) := by
  unfold startModule
  split
  · exact .inl rfl
  · split
    · exact .inl rfl
    · dsimp only
      split
      · split
        · exact .inr (.inr (.inl ⟨_, _, rfl⟩))
        · rename_i hname
          exact .inr (.inr (.inr ⟨_, _, _, by simpa using hname, rfl⟩))
      · exact .inr (.inl ⟨_, rfl⟩)

theorem startModule_unseen {α : Type*} (π : Session → α)
    (hmod : ∀ (s : Session) (name pipe : String) (context : Option ModuleContext) (started : Bool),
      π { s with moduleName := name, currentModuleContext := context, pipeName := pipe,
                 sessionStarted := started } = π s)
    (hstate : ∀ s : Session, π (s.setConnectState now .connected).2 = π s) :
    π (session.startModule config answers now).2.2 = π session := by
  obtain h | ⟨name, h⟩ | ⟨name, context, h⟩ | ⟨name, context, pipe, -, h⟩ :=
    startModule_cases config answers now session
  · rw [h]
  · rw [h]
    exact hmod session name _ _ _
  · rw [h]
    exact hmod session name _ _ _
  · rw [h, hstate]
    exact hmod session name _ _ _

@[simp] theorem startModule_sessionId :
    (session.startModule config answers now).2.2.sessionId = session.sessionId :=
  startModule_unseen config answers now session sessionId (fun _ _ _ _ _ => rfl)
    (setConnectState_sessionId now .connected)

@[simp] theorem startModule_account :
    (session.startModule config answers now).2.2.account = session.account :=
  startModule_unseen config answers now session account (fun _ _ _ _ _ => rfl)
    (setConnectState_account now .connected)

@[simp] theorem startModule_authSession :
    (session.startModule config answers now).2.2.authSession = session.authSession :=
  startModule_unseen config answers now session authSession (fun _ _ _ _ _ => rfl)
    (setConnectState_authSession now .connected)

theorem startModule_hasModule (h : (session.startModule config answers now).1 = true) :
    (session.startModule config answers now).2.2.HasModule := by
  obtain hc | ⟨name, hc⟩ | ⟨name, context, hc⟩ | ⟨name, context, pipe, hpipe, hc⟩ :=
    startModule_cases config answers now session <;> rw [hc] at h ⊢
  · cases h
  · cases h
  · cases h
  · exact (setConnectState_hasModule now .connected _).mpr ⟨rfl, rfl, hpipe⟩

def Stoppable (config : Config) (session : Session) : Prop :=
  session.sessionStarted = true ∧ config.hasModule session.moduleName = true

theorem startModule_stoppable (h : (session.startModule config answers now).1 = true) :
    (session.startModule config answers now).2.2.Stoppable config := by
  unfold startModule at h ⊢
  split at h
  · cases h
  · split at h
    · cases h
    · dsimp only at h
      split at h
      · split at h
        · cases h
        · simp_all [Stoppable, setConnectState_unseen]
      · cases h

theorem startModule_currentState :
    (session.startModule config answers now).2.2.currentState =
      if (session.startModule config answers now).1 then .connected else session.currentState := by
  obtain hc | ⟨name, hc⟩ | ⟨name, context, hc⟩ | ⟨name, context, pipe, hpipe, hc⟩ :=
    startModule_cases config answers now session <;> rw [hc] <;> simp

@[simp] theorem setConnectState_stoppable (state : ConnectState) :
    (session.setConnectState now state).2.Stoppable config ↔ session.Stoppable config :=
  iff_of_eq (setConnectState_unseen now state session (Stoppable config) (fun _ _ _ => rfl) fun _ => rfl)

theorem stopModule_cases :
    session.stopModule config now = (false, [], session) ∨
    session.stopModule config now = (true, setConnectState now .down
      { session with currentModuleContext := none, pipeName := "" }) := by
  unfold stopModule
  split
  · split
    · exact .inr rfl
    · exact .inl rfl
  · exact .inl rfl

theorem stopModule_of_stoppable (h : session.Stoppable config) :
    ¬(session.stopModule config now).2.2.HasModule := by
  simp only [stopModule, h.1, h.2, if_true, setConnectState_hasModule]
  simp [HasModule]

@[simp] theorem stopModule_sessionId :
    (session.stopModule config now).2.2.sessionId = session.sessionId := by
  obtain h | h := stopModule_cases config now session <;> simp [h]

@[simp] theorem stopModule_account :
    (session.stopModule config now).2.2.account = session.account := by
  obtain h | h := stopModule_cases config now session <;> rw [h]
  exact setConnectState_account now .down _

end Module

/-! ## The methods that write to a session -/

inductive Method
  | set (setter : Setter)
  | setConnectState (now : Int) (state : ConnectState)
  | generateUserToken (answers : Answers)
  | generateEnvBlockAndModify (answers : Answers)
  | generateAuthEnvBlockAndModify
  | startModule (config : Config) (answers : Answers) (now : Int)
  | stopModule (config : Config) (now : Int)

@[simp] def call : Method → Session
  | .set setter => session.set setter
  | .setConnectState now state => (session.setConnectState now state).2
  | .generateUserToken answers => (session.generateUserToken answers).2
  | .generateEnvBlockAndModify answers => (session.generateEnvBlockAndModify answers).2
  | .generateAuthEnvBlockAndModify => session.generateAuthEnvBlockAndModify.2
  | .startModule config answers now => (session.startModule config answers now).2.2
  | .stopModule config now => (session.stopModule config now).2.2

theorem call_account {method : Method} (h : ∀ setter, method ≠ .set setter) :
    (session.call method).account = session.account := by
  cases method with
  | set setter => exact absurd rfl (h setter)
  | _ => simp

theorem call_sessionId (method : Method) :
    (session.call method).sessionId = session.sessionId := by
  cases method <;> simp

end Session

end FreeRDS.Manager
