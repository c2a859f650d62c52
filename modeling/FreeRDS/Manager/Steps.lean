import FreeRDS.Manager.Frame
import FreeRDS.Manager.System

/-! # What an event may do

`Performs` lists, for each action that changes sessions, connections or the task
queue, the circumstances in which the handler of an event executes it. Every handler
keeps to the list, so an invariant over runs only has to look at the list.
-/

namespace FreeRDS.Manager

open Std Lib Prog ApplicationContext Session FDSApiHandler SessionStore TaskSwitchTo

/-! ## Circumstances, read off the state before the event -/

variable (m : ApplicationContext)

def ApplicationContext.disconnectedSession (config : Config)
    (username domain : String) : Option Ptr :=
  if config.getReconnectAllowed then m.sessionStore.getFirstDisconnectedSessionUserName username domain
  else none

def ApplicationContext.Entitled (connectionId : UInt32) (p : Ptr) : Prop :=
  ∃ q ∈ m.connectionStore.getConnection connectionId,
    (m.connection q).account = (0, (m.session p).username, (m.session p).domain)

instance (m : ApplicationContext) (connectionId : UInt32) (p : Ptr) : Decidable (m.Entitled connectionId p) :=
  inferInstanceAs (Decidable (∃ q ∈ m.connectionStore.getConnection connectionId, _))

def ApplicationContext.shownSession (connectionId : UInt32) : Option Ptr :=
  (m.connectionStore.getConnection connectionId).bind fun q =>
    m.sessionStore.getSession (m.connection q).sessionId

namespace Event

/-- The disconnected session that an authenticated logon takes over. -/
def reattaches (config : Config) (m : ApplicationContext) : Event → Option Ptr
  | .logonUser answers request =>
    let call := CallInLogonUser.decodeRequest request
    if ((call.authenticateUser config answers).run m).1 = 0 then
      m.disconnectedSession config call.userName call.domainName
    else none
  | .startSession answers request =>
    let call := CallInAuthenticateUser.decodeRequest request
    if ((call.authenticateUser config answers).run m).1 = 0 then
      m.disconnectedSession config call.userName call.domainName
    else none
  | .authenticateUser answers request =>
    if ((FDSApiHandler.authenticate config answers request).run m).1.2.isSome then
      m.disconnectedSession config request.username request.domain
    else none
  | _ => none

def disconnects : Event → List Ptr
  | .disconnectUser connectionId => (m.shownSession connectionId).toList
  | .rpcDisconnected => m.sessionStore.getAllSessions.filter fun p => !(m.session p).authSession
  | _ => []

def stops : Event → Bool
  | .logoffUser _ | .runTask | .callAnswered _ _ | .rpcDisconnected => true
  | _ => false

def drops (sys : System) (connectionId : UInt32) : Event → Bool
  | .disconnectUser id | .logoffUser id => id = connectionId && (sys.manager.shownSession id).isSome
  | .rpcDisconnected => true
  | .callAnswered result loggedOff =>
    match sys.waiting with
    | some (.endSession _ id) => id = connectionId && result = 0 && loggedOff
    | some (.moduleShutdown id) => id = connectionId
    | _ => false
  | _ => false

def fdsApiRequest : Event → Option (Answers × FDSApiCredentials)
  | .authenticateUser answers request => some (answers, request)
  | _ => none

/-- A request of the FDSAPI for which `LogonUserA` gives no token to the session it creates. -/
def TokenDenied (config : Config) (m : ApplicationContext) (event : Event) : Prop :=
  ∃ call ∈ event.fdsApiRequest,
    ((FDSApiHandler.authenticate config call.1 call.2).run m).1.2.isSome ∧
    m.disconnectedSession config call.2.username call.2.domain = none ∧
    call.1.logonUserA call.2.username call.2.domain = false

instance (config : Config) (m : ApplicationContext) (event : Event) :
    Decidable (event.TokenDenied config m) :=
  inferInstanceAs (Decidable (∃ call ∈ event.fdsApiRequest, _ ∧ _ ∧ _))

end Event

section Performs

variable (config : Config) (sys : System) (event : Event)

def System.Fresh (p : Ptr) : Prop := sys.manager.sessionStore.heap.next ≤ p

structure System.Untouched (m : ApplicationContext) : Prop where
  sessionStore : m.sessionStore = sys.manager.sessionStore
  tasks : m.tasks = sys.manager.tasks

def Performs {β : Type} : Action β → ApplicationContext → Prop
  | .createSession, m => m.sessionStore.nextSessionId = sys.manager.sessionStore.nextSessionId
  | .getFirstDisconnectedSessionUserName _ _, m => m.sessionStore = sys.manager.sessionStore
  | .setSession p setter, m =>
    sys.Fresh p ∧ m.tasks = sys.manager.tasks ∧ (m.session p).currentState = .down ∨
      ((m.session p).set setter).account = (m.session p).account
  | .setConnectState p .active, m =>
    event.reattaches config sys.manager = some p ∧ (m.session p).currentState = .disconnected ∨
      sys.Fresh p ∧ (m.session p).HasModule
  | .setConnectState p .connected, m => sys.Fresh p ∧ (m.session p).HasModule
  | .setConnectState p .connectQuery, m =>
    event.reattaches config sys.manager = some p ∧ (m.session p).currentState = .disconnected
  | .setConnectState p .disconnected, m =>
    p ∈ event.disconnects sys.manager ∧ m.session p = sys.manager.session p ∨
      (m.session p).currentState = .connectQuery
  | .setConnectState _ _, _ => False
  | .startModule p _ _, m =>
    sys.Fresh p ∧ (m.session p).currentState = .down ∧
      ((m.session p).authSession = false →
        (m.session p).HoldsToken ∨ event.TokenDenied config sys.manager)
  | .stopModule _ _, _ => event.stops = true
  | .removeConnection connectionId, _ => event.drops sys connectionId = true
  | .resetConnections, _ => event = .rpcDisconnected
  | .addTask (.switchTo task), m =>
    (∀ connectionId, event.drops sys connectionId = false) ∧
      task.newSession < m.sessionStore.heap.next ∧ m.Entitled task.connectionId task.newSession
  | .addTask (.endSession task), _ => task.origin = .sessionTimeout → event = .sessionTimeout
  | _, _ => True

variable {config sys event} {m : ApplicationContext}

theorem System.Untouched.fresh (h : sys.Untouched m) : sys.Fresh m.sessionStore.heap.next := by
  rw [h.sessionStore]
  exact Nat.le_refl _

theorem System.Untouched.disconnectedSession (h : sys.Untouched m) (username domain : String) :
    m.disconnectedSession config username domain =
      sys.manager.disconnectedSession config username domain := by
  simp [ApplicationContext.disconnectedSession, h.sessionStore]

namespace ApplicationContext

variable {p q : Ptr} {connectionId : UInt32}

@[simp] theorem entitled_fire (events : List SessionEvent) :
    (m.fire p events).Entitled connectionId q ↔ m.Entitled connectionId q := .rfl

@[simp] theorem entitled_addTask (task : Task) :
    (m.addTask task).2.Entitled connectionId q ↔ m.Entitled connectionId q := by
  simp [Entitled]

theorem Entitled.of_accounts (username domain : String) (auth : Bool)
    (hstored : m.connectionStore.getConnection connectionId = some q)
    (hconn : (m.connection q).account = (0, username, domain))
    (hses : (m.session p).account = (username, domain, auth)) : m.Entitled connectionId p := by
  simp only [account, Prod.mk.injEq] at hses
  exact ⟨q, hstored, by rw [hconn, hses.1, hses.2.1]⟩

theorem entitled_setSession (method : Session.Method)
    (hacc : ∀ s : Session, (s.call method).account = s.account) :
    (m.setSession p method).Entitled connectionId q ↔ m.Entitled connectionId q := by
  have hses : ((m.setSession p method).session q).account = (m.session q).account := by
    rw [session_setSession]
    split
    · exact hacc _
    · rfl
  simp only [account, Prod.mk.injEq] at hses
  unfold Entitled
  rw [hses.1, hses.2.1]
  rfl

theorem entitled_setConnection (method : Connection.Method)
    (hacc : ∀ c : Connection, (c.call method).account = c.account) :
    (m.setConnection p method).Entitled connectionId q ↔ m.Entitled connectionId q := by
  have hconn : ∀ r, ((m.setConnection p method).connection r).account = (m.connection r).account := by
    intro r
    rw [connection_setConnection]
    split
    · exact hacc _
    · rfl
  simp only [Entitled, hconn]
  rfl

end ApplicationContext

theorem disconnectedSession_some {username domain : String} {p : Ptr}
    (h : m.disconnectedSession config username domain = some p) :
    (∃ id : UInt32, m.sessionStore.getSession id = some p) ∧ (m.session p).username = username ∧
      (m.session p).domain = domain ∧ (m.session p).currentState = .disconnected := by
  unfold disconnectedSession at h
  split at h
  · exact getFirstDisconnectedSessionUserName_some h
  · cases h

theorem findDisconnectedSession_wp (username domain : String)
    {G : ∀ {β : Type}, Action β → ApplicationContext → Prop}
    (hfind : config.getReconnectAllowed = true → G (.getFirstDisconnectedSessionUserName username domain) m)
    (hread : ∀ p, G (.session p) m) :
    (findDisconnectedSession config username domain).wp G
      (fun found m' => m' = m ∧ found = m.disconnectedSession config username domain) m := by
  unfold findDisconnectedSession disconnectedSession
  split
  · rename_i hallowed
    rw [wp_bind, wp_perform]
    refine ⟨hfind hallowed, ?_⟩
    simp only [exec_action, Action.exec]
    cases h : m.sessionStore.getFirstDisconnectedSessionUserName username domain with
    | none => simp
    | some p =>
      have hstate := (getFirstDisconnectedSessionUserName_some h).2.2.2
      simp [Action.exec, session, hstate, hread]
  · simp

def KeepsAccount (setters : List Session.Setter) : Prop :=
  ∀ setter ∈ setters, ∀ session : Session, (session.set setter).account = session.account

theorem setSession_wp {p : Ptr} {setters : List Session.Setter} (h : KeepsAccount setters) :
    (setSession p setters).wp (Performs config sys event) (fun _ m' => OnlySession p m m' ∧
      (m'.session p).account = (m.session p).account ∧
      (m'.session p).currentState = (m.session p).currentState) m := by
  induction setters generalizing m with
  | nil => exact ⟨.refl p m, rfl, rfl⟩
  | cons setter setters ih =>
    have hrest : KeepsAccount setters := fun s hs => h s (List.mem_cons_of_mem setter hs)
    have hset := h setter List.mem_cons_self (m.session p)
    rw [setSession, wp_bind, wp_perform]
    refine ⟨.inr hset, (ih hrest).mono ?_⟩
    rintro _ m' ⟨honly, hacc, hstate⟩
    refine ⟨((OnlySession.refl p m).setSession _).trans honly, hacc.trans ?_, hstate.trans ?_⟩
    · simpa [Action.exec] using hset
    · simp [Action.exec]

/-- A session set up for a user whose module is still to be started. -/
structure Session.Ready (session : Session) (username domain : String) : Prop where
  account : session.account = (username, domain, false)
  state : session.currentState = .down
  token : session.HoldsToken

variable (answers : Answers)

theorem newUserSession_wp (username domain : String)
    {setters : List Session.Setter} (hset : KeepsAccount setters) (h : sys.Untouched m) :
    (newUserSession config answers username domain setters).wp (Performs config sys event)
      (fun result m' => OnlySession m.sessionStore.heap.next m.createSession m' ∧
        ∀ p, result = some p → p = m.sessionStore.heap.next ∧ (m'.session p).Ready username domain) m := by
  unfold newUserSession
  simp [Performs, Action.exec, h.fresh, ← h.sessionStore, ← h.tasks]
  refine (setSession_wp hset).mono ?_
  rintro _ m' ⟨honly, hacc, hstate⟩
  have hcreated : OnlySession m.sessionStore.heap.next m.createSession m' :=
    (((OnlySession.refl _ _).setSession _).setSession _).trans honly
  have hnew : (m'.session m.sessionStore.heap.next).account = (username, domain, false) :=
    hacc.trans (by simp [Session.account, Session.set])
  have hdown : (m'.session m.sessionStore.heap.next).currentState = .down := by simpa using hstate
  refine ⟨fun htoken => ⟨fun _ => ⟨((hcreated.setSession _).setSession _).setSession _, ?_⟩,
    fun _ => (hcreated.setSession _).setSession _⟩, fun _ => hcreated.setSession _⟩
  have hholds := Session.generateUserToken_holdsToken answers _ htoken
  exact ⟨by simp [hnew], by simp [hdown], by simpa using hholds⟩

/-! ## The session of a switch -/

/-- The session of a queued switch, as its producer leaves it in the state `state`. -/
structure SwitchTarget (config : Config) (m m' : ApplicationContext) (task : TaskSwitchTo) (found : Option Ptr)
    (state : ConnectState) : Prop where
  stored : m'.sessionStore.getSession task.newSessionId = some task.newSession
  state : (m'.session task.newSession).currentState = state
  reattached : ∀ p, found = some p → p = task.newSession ∧ p < m.sessionStore.heap.next ∧
    ((m'.session p).HasModule ↔ (m.session p).HasModule)
  created : found = none → m.sessionStore.heap.next ≤ task.newSession ∧
    (m'.session task.newSession).HasModule ∧ (m'.session task.newSession).Stoppable config

namespace SwitchTarget

variable {m' : ApplicationContext} {task : TaskSwitchTo} {found : Option Ptr} {state : ConnectState}

theorem of_created (h : sys.Untouched m)
    (hmap : m'.sessionStore.map = m.sessionStore.map.insert m.sessionStore.nextSessionId m.sessionStore.heap.next)
    (htask : task.newSession = m.sessionStore.heap.next)
    (hid : task.newSessionId = (m'.session task.newSession).sessionId)
    (hstate : (m'.session task.newSession).currentState = state)
    (hstarted : (m'.session task.newSession).HasModule ∧ (m'.session task.newSession).Stoppable config) :
    SwitchTarget config sys.manager m' task none state where
  stored := by
    have hstored : m'.sessionStore.getSession m.sessionStore.nextSessionId = some task.newSession := by
      rw [getSession, hmap, TreeMap.getElem?_insert_self, htask]
    rw [hid, m'.getSession_sessionId _ hstored]
    exact hstored
  state := hstate
  reattached := nofun
  created _ := ⟨(htask ▸ h.fresh : sys.Fresh task.newSession), hstarted⟩

theorem of_found (h : sys.Untouched m) {id : UInt32} (hp : m.sessionStore.getSession id = some task.newSession)
    (hmap : m'.sessionStore.map = m.sessionStore.map)
    (hid : task.newSessionId = (m'.session task.newSession).sessionId)
    (hstate : (m'.session task.newSession).currentState = state)
    (hmod : (m'.session task.newSession).HasModule ↔ (m.session task.newSession).HasModule) :
    SwitchTarget config sys.manager m' task (some task.newSession) state where
  stored := by
    have hstored : m'.sessionStore.getSession id = some task.newSession := by
      rw [getSession, hmap]
      exact hp
    rw [hid, m'.getSession_sessionId _ hstored]
    exact hstored
  state := hstate
  reattached p hfound := by
    cases hfound
    rw [← h.sessionStore, ← session_congr h.sessionStore]
    exact ⟨rfl, (m.sessionStore.stored hp).1, hmod⟩
  created := nofun

theorem activate (h : SwitchTarget config m m' task found state) :
    SwitchTarget config m ((Action.setConnectState task.newSession .active).exec m').2 task found .active where
  stored := h.stored
  state := by simp [Action.exec]
  reattached p hp := by
    obtain ⟨rfl, hlt, hmod⟩ := h.reattached p hp
    exact ⟨rfl, hlt, by simpa [Action.exec] using hmod⟩
  created hnone := by simpa [Action.exec] using h.created hnone

end SwitchTarget

/-! ## LogonUser -/

variable (call : CallInLogonUser)

theorem logonUser_authenticateUser_wp :
    (call.authenticateUser config answers).wp (Performs config sys event) (fun status m' =>
      sys.Untouched m' ∧ (status = 0 →
        ∃ q, m'.connectionStore.getConnection call.connectionId = some q ∧
          (m'.connection q).account = (0, call.userName, call.domainName))) sys.manager := by
  unfold CallInLogonUser.authenticateUser
  rw [wp_bind, wp_perform]
  refine ⟨trivial, ?_⟩
  rw [wp_perform]
  refine ⟨trivial, ⟨rfl, rfl⟩, fun hstat => ?_⟩
  have hstored := sys.manager.connectionStore.getOrCreateConnection_stored call.connectionId
  refine ⟨_, hstored, ?_⟩
  simp only [exec_action, Action.exec, connection_setConnection_self] at hstat ⊢
  exact Connection.authenticateUser_success hstat

theorem logonUser_connectSession_wp {q p : Ptr}
    (h : event.reattaches config sys.manager = some p ∧ (m.session p).currentState = .disconnected ∨
      sys.Fresh p ∧ (m.session p).currentState = .down ∧ (m.session p).HoldsToken)
    (hent : m.Entitled call.connectionId p) :
    (call.connectSession config answers q p).wp (Performs config sys event) (fun reply m' =>
      m'.sessionStore.map = m.sessionStore.map ∧
      (reply.result ≠ 0 → (m.session p).currentState = .down) ∧
      ∀ p', reply.session = some p' → m'.Entitled call.connectionId p') m := by
  unfold CallInLogonUser.connectSession startIfDown
  rcases h with ⟨hfound, hstate⟩ | ⟨hfresh, hstate, htoken⟩
  · simp [Performs, Action.exec, hstate, hfound, entitled_setSession,
      entitled_setConnection, hent]
  · simp [Performs, Action.exec, hstate, hfresh, htoken, entitled_setSession,
      entitled_setConnection, hent]
    intro hstarted
    exact .inr (startModule_hasModule config answers m.clock _ hstarted)

structure LogonOutcome (m m' : ApplicationContext) (connectionId : UInt32) (reply : LogonUserReply) : Prop where
  failed : reply.result ≠ 0 → m'.sessionStore.map =
    m.sessionStore.map.insert m.sessionStore.nextSessionId m.sessionStore.heap.next
  entitled : ∀ p, reply.session = some p → (m'.session p).authSession = false → m'.Entitled connectionId p

theorem logonUser_getUserSession_wp (h : sys.Untouched m)
    (hfound : event.reattaches config sys.manager =
      sys.manager.disconnectedSession config call.userName call.domainName)
    (hauth : ∃ q, m.connectionStore.getConnection call.connectionId = some q ∧
      (m.connection q).account = (0, call.userName, call.domainName)) :
    (call.getUserSession config answers).wp (Performs config sys event)
      (fun reply m' => LogonOutcome m m' call.connectionId reply) m := by
  obtain ⟨q, hstored, hacc⟩ := hauth
  rw [← h.disconnectedSession] at hfound
  unfold CallInLogonUser.getUserSession
  rw [wp_bind, wp_perform]
  refine ⟨trivial, ?_⟩
  simp only [exec_action, Action.exec, ConnectionStore.getOrCreateConnection_of_stored hstored,
    setConnections_self]
  rw [wp_bind]
  refine (findDisconnectedSession_wp _ _ (fun _ => h.sessionStore) fun _ => trivial).mono ?_
  rintro found m1 ⟨rfl, rfl⟩
  cases hp : m1.disconnectedSession config call.userName call.domainName with
  | some p =>
    obtain ⟨-, huser, hdom, hstate⟩ := disconnectedSession_some hp
    rw [wp_bind, wp_perform]
    refine ⟨.inr rfl, (logonUser_connectSession_wp answers call (.inl ⟨?_, ?_⟩) ?_).mono ?_⟩
    · rw [hfound, hp]
    · simpa [Action.exec] using hstate
    · simp [Action.exec, entitled_setSession]
      exact ⟨q, hstored, by rw [hacc, huser, hdom]⟩
    · rintro reply m' ⟨-, hfail, hent⟩
      refine ⟨fun hres => ?_, fun p' hp' _ => hent p' hp'⟩
      simpa [Action.exec, hstate] using hfail hres
  | none =>
    rw [wp_bind]
    refine (newUserSession_wp answers _ _ ?_ h).mono ?_
    · simp [KeepsAccount]
    rintro (_ | p) m' ⟨honly, hnew⟩
    · exact ⟨fun _ => honly.map, by simp⟩
    · obtain ⟨rfl, hacc', hdown, htoken⟩ := hnew p rfl
      refine (logonUser_connectSession_wp answers call (.inr ⟨h.fresh, hdown, htoken⟩) ?_).mono ?_
      · refine .of_accounts _ _ false (by rw [honly.connectionStore]; exact hstored) ?_ hacc'
        rw [connection, honly.connectionStore]
        exact hacc
      · rintro reply m'' ⟨hmap, -, hent⟩
        exact ⟨fun _ => hmap.trans honly.map, fun p' hp' _ => hent p' hp'⟩

theorem logonUser_startGreeter_wp {q p : Ptr}
    (hfresh : sys.Fresh p) (htasks : m.tasks = sys.manager.tasks)
    (hstate : (m.session p).currentState = .down) :
    (call.startGreeter config answers q p).wp (Performs config sys event) (fun reply m' =>
      m'.sessionStore.map = m.sessionStore.map ∧
      ∀ p', reply.session = some p' → (m'.session p').authSession = true) m := by
  unfold CallInLogonUser.startGreeter
  simp [Performs, Action.exec, hfresh, htasks, hstate]
  intro _ hstarted
  exact startModule_hasModule config answers m.clock _ hstarted

theorem logonUser_getAuthSession_wp (h : sys.Untouched m) :
    (call.getAuthSession config answers).wp (Performs config sys event)
      (fun reply m' => LogonOutcome m m' call.connectionId reply) m := by
  unfold CallInLogonUser.getAuthSession
  simp only [wp_bind, wp_perform]
  refine ⟨trivial, congrArg _ h.sessionStore,
    (logonUser_startGreeter_wp answers call h.fresh ?_ ?_).mono ?_⟩
  · exact h.tasks
  · exact congrArg _ (session_createSession_self _)
  · rintro reply m' ⟨hmap, hauth⟩
    refine ⟨fun _ => hmap, fun p hp hfalse => ?_⟩
    rw [hauth p hp] at hfalse
    cases hfalse

theorem logonUser_doStuff_wp (request : LogonUserRequest)
    (hev : event = .logonUser answers request) :
    ((CallInLogonUser.decodeRequest request).doStuff config answers).wp (Performs config sys event)
      (fun reply m' => LogonOutcome sys.manager m' request.connectionId reply) sys.manager := by
  unfold CallInLogonUser.doStuff
  rw [wp_bind]
  refine (logonUser_authenticateUser_wp answers _).and_run.mono ?_
  rintro status m ⟨hrun, huntouched, hauth⟩
  have houtc : ∀ reply m', LogonOutcome m m' request.connectionId reply →
      LogonOutcome sys.manager m' request.connectionId reply := by
    rintro reply m' ⟨hfail, hent⟩
    exact ⟨by rw [← huntouched.sessionStore]; exact hfail, hent⟩
  rw [wp_ite]
  refine ⟨fun _ => (logonUser_getAuthSession_wp answers _ huntouched).mono houtc, fun hzero => ?_⟩
  rw [ne_eq, not_not] at hzero
  refine (logonUser_getUserSession_wp answers _ huntouched ?_ (hauth hzero)).mono houtc
  rw [hev]
  simp [Event.reattaches, hrun, hzero]

/-! ## StartSession -/

variable (call : CallInAuthenticateUser)

theorem startSession_authenticateUser_wp :
    (call.authenticateUser config answers).wp (Performs config sys event) (fun status m' =>
      sys.Untouched m' ∧ (status = 0 →
        ∃ q, m'.connectionStore.getConnection
            (m'.connectionStore.getConnectionIdForSessionId call.sessionId) = some q ∧
          (m'.connection q).account = (0, call.userName, call.domainName))) sys.manager := by
  unfold CallInAuthenticateUser.authenticateUser
  simp only [wp_bind, wp_perform]
  refine ⟨trivial, trivial, ?_⟩
  simp only [exec_action, Action.exec]
  cases hq : sys.manager.connectionStore.getConnection
      (sys.manager.connectionStore.getConnectionIdForSessionId call.sessionId) with
  | none => exact ⟨⟨rfl, rfl⟩, by simp⟩
  | some q =>
    refine ⟨trivial, ⟨rfl, rfl⟩, fun hstat => ⟨q, ?_, ?_⟩⟩
    · have hsame := sys.manager.connectionStore.modify_getConnectionIdForSessionId q
        (.authenticateUser config answers call.userName call.domainName call.password)
        (fun c => ⟨c.authenticateUser_unseen _ _ _ _ _ Connection.sessionId fun _ _ _ _ => rfl,
          c.authenticateUser_unseen _ _ _ _ _ Connection.about2SwitchSessionId fun _ _ _ _ => rfl⟩)
        call.sessionId
      exact (congrArg _ hsame).trans hq
    · simp only [exec_action, Action.exec, connection_setConnection_self] at hstat ⊢
      exact Connection.authenticateUser_success hstat

theorem startSession_switchSession_wp {p : Ptr}
    (h : (m.session p).currentState = .connectQuery ∨
      sys.Fresh p ∧ (m.session p).currentState = .down ∧ (m.session p).HoldsToken)
    (hdrops : ∀ connectionId, event.drops sys connectionId = false) (hlt : p < m.sessionStore.heap.next)
    (hent : m.Entitled (m.connectionStore.getConnectionIdForSessionId call.sessionId) p) :
    (call.switchSession config answers p).wp (Performs config sys event) (fun result m' =>
      m'.sessionStore.map = m.sessionStore.map ∧ (result ≠ 0 → (m.session p).currentState = .down) ∧
      ∀ task, m'.tasks = m.tasks ++ [.switchTo task] →
        task.newSession = p ∧ task.newSessionId = (m'.session p).sessionId ∧
        ((m.session p).currentState = .down → (m'.session p).currentState = .connected ∧
          (m'.session p).HasModule ∧ (m'.session p).Stoppable config) ∧
        ((m.session p).currentState ≠ .down → m'.session p = m.session p)) m := by
  obtain ⟨q, hstored, hacc⟩ := hent
  have hent : m.Entitled (m.connectionStore.getConnectionIdForSessionId call.sessionId) p :=
    ⟨q, hstored, hacc⟩
  unfold CallInAuthenticateUser.switchSession startIfDown
  rcases h with hstate | ⟨hfresh, hstate, htoken⟩
  · simp [Performs, Action.exec, hstate, ConnectionStore.getOrCreateConnection_of_stored hstored,
      entitled_setConnection, hent, hlt, hdrops]
    intro task htask
    cases addTask_eq_of_tasks rfl htask
    exact ⟨rfl, rfl⟩
  · simp [Performs, Action.exec, hstate, hfresh, htoken, ConnectionStore.getOrCreateConnection_of_stored hstored,
      entitled_setConnection, entitled_setSession, hent, hlt, hdrops]
    intro hstarted task htask
    cases addTask_eq_of_tasks rfl htask
    refine ⟨rfl, rfl, ?_, startModule_hasModule _ _ _ _ hstarted,
      startModule_stoppable _ _ _ _ hstarted⟩
    rw [startModule_currentState, hstarted, if_pos rfl]

theorem startSession_getUserSession_wp
    (h : sys.Untouched m) (hdrops : ∀ connectionId, event.drops sys connectionId = false)
    (hfound : event.reattaches config sys.manager =
      sys.manager.disconnectedSession config call.userName call.domainName)
    (hauth : ∃ q, m.connectionStore.getConnection
        (m.connectionStore.getConnectionIdForSessionId call.sessionId) = some q ∧
      (m.connection q).account = (0, call.userName, call.domainName)) :
    (call.getUserSession config answers).wp (Performs config sys event) (fun result m' =>
      (result ≠ 0 → m'.sessionStore.map =
        m.sessionStore.map.insert m.sessionStore.nextSessionId m.sessionStore.heap.next) ∧
      ∀ task, m'.tasks = m.tasks ++ [.switchTo task] →
        let found := event.reattaches config sys.manager
        SwitchTarget config sys.manager m' task found (if found.isSome then .connectQuery else .connected)) m := by
  obtain ⟨q, hstored, hacc⟩ := hauth
  rw [← h.disconnectedSession] at hfound
  unfold CallInAuthenticateUser.getUserSession
  rw [wp_bind]
  refine (findDisconnectedSession_wp _ _ (fun _ => h.sessionStore) fun _ => trivial).mono ?_
  rintro found m1 ⟨rfl, rfl⟩
  cases hp : m1.disconnectedSession config call.userName call.domainName with
  | some p =>
    obtain ⟨⟨id, hid⟩, huser, hdom, hstate⟩ := disconnectedSession_some hp
    rw [wp_bind, wp_perform]
    refine ⟨⟨by rw [hfound, hp], hstate⟩,
      (startSession_switchSession_wp answers call (.inl ?_) hdrops ?_ ?_).mono ?_⟩
    · simp [Action.exec]
    · exact (m1.sessionStore.stored hid).1
    · simp only [exec_action, Action.exec, entitled_fire]
      rw [entitled_setSession (.setConnectState _ _) fun s =>
        s.setConnectState_account _ _]
      exact ⟨q, hstored, by rw [hacc, huser, hdom]⟩
    · rintro result m' ⟨hmap, hfail, hqueued⟩
      refine ⟨fun hres => ?_, fun task htask => ?_⟩
      · simpa [Action.exec] using hfail hres
      · obtain ⟨rfl, hsesId, -, hsame⟩ := hqueued task htask
        have hses := hsame (by simp [Action.exec])
        rw [hfound, hp]
        refine .of_found h hid hmap hsesId ?_ ?_
        all_goals
          rw [hses]
          simp [Action.exec]
  | none =>
    rw [wp_bind]
    refine (newUserSession_wp answers _ _ ?_ h).mono ?_
    · simp [KeepsAccount]
    rintro (_ | p) m' ⟨honly, hnew⟩
    · exact ⟨fun _ => honly.map, fun task htask => by simp [honly.tasks] at htask⟩
    · obtain ⟨rfl, hacc', hdown, htoken⟩ := hnew p rfl
      refine (startSession_switchSession_wp answers call (.inr ⟨h.fresh, hdown, htoken⟩) hdrops ?_ ?_).mono ?_
      · rw [honly.next]
        exact Nat.lt_succ_self _
      · refine .of_accounts _ _ false (by rw [honly.connectionStore]; exact hstored) ?_ hacc'
        rw [connection, honly.connectionStore]
        exact hacc
      · rintro result m'' ⟨hmap, -, hqueued⟩
        refine ⟨fun _ => hmap.trans honly.map, fun task htask => ?_⟩
        rw [honly.tasks] at hqueued
        obtain ⟨hp', hsesId, hstarted, -⟩ := hqueued task htask
        obtain ⟨hstate, hmod⟩ := hstarted hdown
        rw [← hp'] at hsesId hstate hmod
        rw [hfound, hp]
        exact .of_created h (hmap.trans honly.map) hp' hsesId hstate hmod

theorem startSession_doStuff_wp (request : StartSessionRequest)
    (hev : event = .startSession answers request) :
    ((CallInAuthenticateUser.decodeRequest request).doStuff config answers).wp (Performs config sys event)
      (fun reply m' => (reply.result ≠ 0 → m'.sessionStore.map =
        sys.manager.sessionStore.map.insert sys.manager.sessionStore.nextSessionId
          sys.manager.sessionStore.heap.next) ∧
        ∀ task, m'.tasks = sys.manager.tasks ++ [.switchTo task] →
          let found := event.reattaches config sys.manager
          SwitchTarget config sys.manager m' task found (if found.isSome then .connectQuery else .connected))
      sys.manager := by
  unfold CallInAuthenticateUser.doStuff
  rw [wp_bind]
  refine (startSession_authenticateUser_wp answers _).and_run.mono ?_
  rintro status m ⟨hrun, huntouched, hauth⟩
  rw [wp_ite]
  refine ⟨fun hzero => ?_, fun _ => ⟨by simp, fun task htask => by simp [huntouched.tasks] at htask⟩⟩
  rw [wp_bind]
  refine (startSession_getUserSession_wp answers _ huntouched ?_ ?_ (hauth hzero)).mono ?_
  · rw [hev]
    exact fun _ => rfl
  · rw [hev]
    simp [Event.reattaches, hrun, hzero]
  · intro result m' hdone
    rw [← huntouched.tasks, ← huntouched.sessionStore]
    exact hdone

/-! ## The FDSAPI -/

variable (request : FDSApiCredentials)

theorem fdsApi_authenticate_wp :
    (FDSApiHandler.authenticate config answers request).wp (Performs config sys event) (fun result m' =>
      sys.Untouched m' ∧ ∀ greeter, result.2 = some greeter →
        request.username.isEmpty = false ∧
        m'.connectionStore.getConnection greeter.connectionId = some greeter.connection ∧
        (m'.connection greeter.connection).account = (0, request.username, request.domain)) sys.manager := by
  unfold authenticate
  simp only [wp_bind, wp_perform]
  refine ⟨trivial, ?_⟩
  simp only [exec_action, Action.exec]
  cases hs : sys.manager.sessionStore.getSession request.sessionId with
  | none => exact ⟨⟨rfl, rfl⟩, by simp⟩
  | some authSession =>
    simp only [wp_bind, wp_perform, wp_ite]
    refine ⟨trivial, fun _ => ?_, fun _ => ⟨⟨rfl, rfl⟩, by simp⟩⟩
    refine ⟨trivial, trivial, ?_⟩
    simp only [exec_action, Action.exec]
    cases hq : sys.manager.connectionStore.getConnection
        (sys.manager.connectionStore.getConnectionIdForSessionId request.sessionId) with
    | none => exact ⟨⟨rfl, rfl⟩, by simp⟩
    | some q =>
      rw [wp_bind, wp_perform, wp_ite]
      refine ⟨trivial, fun _ => ⟨⟨rfl, rfl⟩, by simp⟩, fun hstat => ⟨⟨rfl, rfl⟩, ?_⟩⟩
      rw [ne_eq, not_not] at hstat
      rintro greeter hgreeter
      cases hgreeter
      refine ⟨Connection.authenticateUser_username hstat, hq, ?_⟩
      simp only [exec_action, Action.exec, connection_setConnection_self] at hstat ⊢
      exact Connection.authenticateUser_success hstat

theorem fdsApi_switchSession_wp (greeter : FDSApiHandler.Greeter) {p : Ptr}
    (h : sys.Fresh p ∧ m.tasks = sys.manager.tasks ∧ (m.session p).currentState = .down ∨
      (m.session p).username = request.username ∧ (m.session p).domain = request.domain)
    (hstored : m.connectionStore.getConnection greeter.connectionId = some greeter.connection)
    (hacc : (m.connection greeter.connection).account = (0, request.username, request.domain)) :
    (FDSApiHandler.switchSession config answers request greeter p).wp (Performs config sys event)
      (fun _ m' => m'.sessionStore.heap.next = m.sessionStore.heap.next ∧
        m'.sessionStore.map = m.sessionStore.map ∧ m'.tasks = m.tasks ∧
        m'.Entitled greeter.connectionId p ∧
        (m'.session p).currentState = (m.session p).currentState ∧
        ((m'.session p).HasModule ↔ (m.session p).HasModule) ∧
        (request.username.isEmpty = false →
          answers.logonUserA request.username request.domain = true → (m'.session p).HoldsToken)) m := by
  have hname : sys.Fresh p ∧ m.tasks = sys.manager.tasks ∧ (m.session p).currentState = .down ∨
      ((m.session p).set (.userName request.username)).account = (m.session p).account :=
    h.imp_right fun h => by rw [Session.set_userName_self h.1]
  have hdom : sys.Fresh p ∧ m.tasks = sys.manager.tasks ∧ (m.session p).currentState = .down ∨
      (((m.session p).set (.userName request.username)).set (.domain request.domain)).account =
        ((m.session p).set (.userName request.username)).account :=
    h.imp_right fun h => by rw [Session.set_userName_self h.1, Session.set_domain_self h.2]
  unfold switchSession
  simp [Performs, Action.exec, hname, hdom]
  refine ⟨?_, ?_⟩
  · refine .of_accounts request.username request.domain (m.session p).authSession hstored ?_ ?_
    · simpa using hacc
    · simp [Session.set_userName_domain_account]
  · intro hempty hlogon
    refine Session.generateUserToken_holdsToken answers _ ?_
    rw [Session.generateUserToken_fst]
    simp [Session.set, hempty, hlogon]

variable (connectionId : UInt32)

theorem fdsApi_queueSwitch_wp {p : Ptr}
    (hdrops : ∀ connectionId, event.drops sys connectionId = false)
    (hlt : p < m.sessionStore.heap.next) (hent : m.Entitled connectionId p) :
    (FDSApiHandler.queueSwitch request connectionId p).wp (Performs config sys event)
      (fun _ m' => m'.sessionStore = m.sessionStore ∧ ∀ task, m'.tasks = m.tasks ++ [.switchTo task] →
        task.newSession = p ∧ task.newSessionId = (m.session p).sessionId) m := by
  unfold queueSwitch
  simp [Performs, Action.exec, hlt, hent, hdrops]
  intro task htask
  cases addTask_eq_of_tasks rfl htask
  exact ⟨rfl, rfl⟩

theorem fdsApi_prepareSwitch_wp (hev : event = .authenticateUser answers request) :
    (FDSApiHandler.prepareSwitch config answers request).wp (Performs config sys event) (fun result m' =>
      (∀ p, result.2 = some p →
        event.reattaches config sys.manager = some p ∧ (m'.session p).currentState = .disconnected ∨
          sys.Fresh p ∧ (m'.session p).HasModule) ∧
      ∀ task, m'.tasks = sys.manager.tasks ++ [.switchTo task] →
        let found := event.reattaches config sys.manager
        result.2 = some task.newSession ∧
          SwitchTarget config sys.manager m' task found (if found.isSome then .disconnected else .connected))
      sys.manager := by
  unfold prepareSwitch
  rw [wp_bind]
  refine (fdsApi_authenticate_wp answers request).and_run.mono ?_
  rintro ⟨status, greeter⟩ m ⟨hrun, huntouched, hauth⟩
  have hdrops : ∀ connectionId, event.drops sys connectionId = false := by
    rw [hev]
    exact fun _ => rfl
  cases greeter with
  | none => simp [huntouched.tasks]
  | some greeter =>
    obtain ⟨hname, hstored, hacc⟩ := hauth greeter rfl
    have hreattaches : event.reattaches config sys.manager =
        m.disconnectedSession config request.username request.domain := by
      rw [huntouched.disconnectedSession, hev]
      simp [Event.reattaches, hrun]
    simp only [wp_bind]
    refine (findDisconnectedSession_wp _ _ (fun _ => huntouched.sessionStore) fun _ => trivial).mono ?_
    rintro found m1 ⟨rfl, rfl⟩
    cases hp : m1.disconnectedSession config request.username request.domain with
    | some p =>
      obtain ⟨⟨id, hid⟩, huser, hdom, hstate⟩ := disconnectedSession_some hp
      refine (fdsApi_switchSession_wp answers request greeter (.inr ⟨huser, hdom⟩) hstored hacc).mono ?_
      rintro _ m2 ⟨hnext, hmap, htasks, hent, hstate', hmod, -⟩
      have hlt : p < m2.sessionStore.heap.next := by rw [hnext]; exact (m1.sessionStore.stored hid).1
      simp only [startNewSession, Option.isNone_some, Bool.false_eq_true, if_false, wp_pure]
      rw [wp_ite]
      refine ⟨fun _ => ?_, fun h => absurd trivial h⟩
      rw [wp_bind]
      refine (fdsApi_queueSwitch_wp request _ hdrops hlt hent).mono ?_
      rintro _ m3 ⟨hstore, hqueued⟩
      have hses := session_congr hstore
      refine ⟨fun p' hp' => ?_, fun task htask => ?_⟩
      · cases hp'
        exact .inl ⟨hreattaches.trans hp, by rw [hses, hstate', hstate]⟩
      · rw [htasks, huntouched.tasks] at hqueued
        obtain ⟨rfl, hsesId⟩ := hqueued task htask
        rw [hreattaches, hp]
        refine ⟨rfl, .of_found huntouched hid (hstore ▸ hmap) (by rw [hses, hsesId]) ?_ (by rw [hses, hmod])⟩
        rw [hses, hstate', hstate]
        rfl
    | none =>
      have hdenied : answers.logonUserA request.username request.domain = false →
          event.TokenDenied config sys.manager := by
        intro hlogon
        rw [hev]
        exact ⟨(answers, request), rfl, by rw [hrun]; rfl, huntouched.disconnectedSession _ _ ▸ hp, hlogon⟩
      have hfresh := huntouched.fresh
      have hdown : (m1.createSession.session m1.sessionStore.heap.next).currentState = .down := by simp
      rw [chooseSession, wp_perform]
      refine ⟨congrArg _ huntouched.sessionStore, ?_⟩
      refine (fdsApi_switchSession_wp (m := m1.createSession) answers request greeter
        (.inl ⟨hfresh, huntouched.tasks, hdown⟩) hstored hacc).mono ?_
      rintro _ m2 ⟨hnext, hmap, htasks, hent, hstate, -, htoken⟩
      simp only [startNewSession, Option.isNone_none, if_true, wp_perform]
      refine ⟨⟨hfresh, hstate.trans hdown, fun _ => ?_⟩, ?_⟩
      · cases hlogon : answers.logonUserA request.username request.domain with
        | true => exact .inl (htoken hname hlogon)
        | false => exact .inr (hdenied hlogon)
      rw [wp_ite]
      have htasks' : m2.tasks = sys.manager.tasks := htasks.trans huntouched.tasks
      refine ⟨fun hstarted => ?_, fun _ => by simp [Action.exec, htasks']⟩
      rw [wp_bind]
      refine (fdsApi_queueSwitch_wp request _ hdrops ?_ ?_).mono ?_
      · exact hnext ▸ Nat.lt_succ_self _
      · simp only [exec_action, Action.exec, entitled_fire]
        rwa [entitled_setSession (.startModule _ _ _) fun s =>
          s.startModule_account _ _ _]
      · rintro _ m3 ⟨hstore, hqueued⟩
        have hses : m3.session m1.sessionStore.heap.next =
            ((m2.session m1.sessionStore.heap.next).startModule config answers m2.clock).2.2 := by
          rw [session_congr hstore]
          simp [Action.exec]
        have hmod : (m3.session m1.sessionStore.heap.next).HasModule :=
          hses ▸ startModule_hasModule _ _ _ _ hstarted
        refine ⟨fun p' hp' => ?_, fun task htask => ?_⟩
        · cases hp'
          exact .inr ⟨hfresh, hmod⟩
        · obtain ⟨htarget, hsesId⟩ := hqueued task (htasks'.symm ▸ htask)
          have hnew : task.newSession = m1.sessionStore.heap.next := htarget
          rw [hreattaches, hp]
          refine ⟨congrArg some htarget.symm, .of_created huntouched (hstore ▸ hmap) hnew ?_ ?_ ?_⟩
          · rw [hsesId, htarget, session_congr hstore]
          · rw [hnew, hses, startModule_currentState]
            exact if_pos hstarted
          · rw [htarget]
            exact ⟨hmod, hses ▸ startModule_stoppable _ _ _ _ hstarted⟩

theorem fdsApi_authenticateUser_wp (hev : event = .authenticateUser answers request) :
    (FDSApiHandler.authenticateUser config answers request).wp (Performs config sys event)
      (fun _ m' => ∀ task, m'.tasks = sys.manager.tasks ++ [.switchTo task] →
        SwitchTarget config sys.manager m' task (event.reattaches config sys.manager) .active) sys.manager := by
  unfold authenticateUser
  rw [wp_bind]
  refine (fdsApi_prepareSwitch_wp answers request hev).mono ?_
  rintro ⟨status, userSession⟩ m ⟨h, hqueued⟩
  cases userSession with
  | none =>
    intro task htask
    cases (hqueued task htask).1
  | some p =>
    rw [wp_bind, wp_perform]
    refine ⟨h p rfl, fun task htask => ?_⟩
    obtain ⟨hp, htarget⟩ := hqueued task htask
    cases hp
    exact htarget.activate

/-! ## Sessions that end

Between `stopModule` and `removeSession` a session that is stored is down. Seen from
the outside a stopping event only takes sessions away, or disconnects them.
-/

structure Shrinks (m m' : ApplicationContext) : Prop where
  stored : ∀ {id p}, m'.sessionStore.getSession id = some p → m.sessionStore.getSession id = some p
  state : ∀ {id p}, m'.sessionStore.getSession id = some p →
    (m'.session p).currentState = (m.session p).currentState ∨ (m'.session p).currentState = .disconnected
  tasks : m'.tasks = m.tasks

namespace Shrinks

variable {m m' m'' : ApplicationContext}

theorem of_eq (hstore : m'.sessionStore = m.sessionStore) (htasks : m'.tasks = m.tasks) : Shrinks m m' where
  stored h := hstore ▸ h
  state _ := .inl (congrArg _ (session_congr hstore _))
  tasks := htasks

theorem trans (h : Shrinks m m') (h' : Shrinks m' m'') : Shrinks m m'' where
  stored hp := h.stored (h'.stored hp)
  state hp := by
    rcases h'.state hp with hsame | hdisc
    · rw [hsame]
      exact h.state (h'.stored hp)
    · exact .inr hdisc
  tasks := h'.tasks.trans h.tasks

theorem after (h : Shrinks m' m'') (hstore : m'.sessionStore = m.sessionStore)
    (htasks : m'.tasks = m.tasks) :
    Shrinks m m'' := (of_eq hstore htasks).trans h

theorem stop (m : ApplicationContext) (p : Ptr) (method : Session.Method) (events : List SessionEvent) :
    Shrinks m (((m.setSession p method).fire p events).removeSession (m.session p).sessionId) := by
  have hstored : ∀ {id q}, (((m.setSession p method).fire p events).removeSession
      (m.session p).sessionId).sessionStore.getSession id = some q →
      m.sessionStore.getSession id = some q ∧ q ≠ p := by
    intro id q h
    simp only [getSession, removeSession_map,
      fire_sessionStore, setSession_map, TreeMap.getElem?_erase] at h
    split at h
    · cases h
    · rename_i hid
      refine ⟨h, ?_⟩
      rintro rfl
      rw [m.getSession_sessionId _ h] at hid
      exact hid compare_self
  refine ⟨fun h => (hstored h).1, fun h => .inl ?_, rfl⟩
  rw [session_removeSession, session_fire,
    session_setSession, if_neg (hstored h).2]

theorem disconnect (m : ApplicationContext) (p : Ptr) (events : List SessionEvent) :
    Shrinks m ((m.setSession p (.setConnectState m.clock .disconnected)).fire p events) where
  stored h := h
  state _ := by
    rw [session_fire, session_setSession]
    split
    · exact .inr (setConnectState_currentState _ _ _)
    · exact .inl rfl
  tasks := rfl

end Shrinks

/-- Nothing but the session under `id` is touched. -/
structure EndsOnly (id : UInt32) (m m' : ApplicationContext) : Prop where
  stored : ∀ other, other ≠ id → m'.sessionStore.getSession other = m.sessionStore.getSession other
  session : ∀ p, m.sessionStore.getSession id ≠ some p → m'.session p = m.session p

theorem EndsOnly.refl (id : UInt32) (m : ApplicationContext) :
    EndsOnly id m m := ⟨fun _ _ => rfl, fun _ _ => rfl⟩

theorem EndsOnly.stop {id : UInt32} {p : Ptr} (hp : m.sessionStore.getSession id = some p) (method : Session.Method)
    (events : List SessionEvent) : EndsOnly id m (((m.setSession p method).fire p events).removeSession id) where
  stored other hother := by simp [getSession, TreeMap.getElem?_erase, Ne.symm hother]
  session q hq := by
    have hne : q ≠ p := by
      rintro rfl
      exact hq hp
    simp [session_setSession, hne]

/-- The session that a `TaskEndSession` of the timeout is to end. -/
def TaskEndSession.expiredId (task : TaskEndSession) : Option UInt32 :=
  if task.origin = .sessionTimeout then some task.sessionId else none

def Task.expiredId : Task → Option UInt32
  | .endSession task => task.expiredId
  | _ => none

def Waiting.expiredId : Waiting → Option UInt32
  | .endSession task _ => task.expiredId
  | _ => none

theorem TaskEndSession.sessionId_of_expiredId {task : TaskEndSession} {id : UInt32}
    (h : task.expiredId = some id) : task.sessionId = id := by
  unfold TaskEndSession.expiredId at h
  split at h
  · exact Option.some.inj h
  · cases h

theorem disconnectUser_performs (hev : event = .disconnectUser connectionId) :
    (CallInDisconnectUserSession.doStuff config connectionId).Checks (Performs config sys event) sys.manager := by
  unfold CallInDisconnectUserSession.doStuff Checks
  simp only [wp_bind, wp_perform]
  refine ⟨trivial, ?_⟩
  simp only [exec_action, Action.exec]
  cases hq : sys.manager.connectionStore.getConnection connectionId with
  | none => trivial
  | some q =>
    simp only [wp_bind, wp_perform]
    refine ⟨trivial, trivial, ?_⟩
    simp only [exec_action, Action.exec]
    cases hp : sys.manager.sessionStore.getSession (sys.manager.connection q).sessionId with
    | none => trivial
    | some p =>
      have hshown : sys.manager.shownSession connectionId = some p := by
        rw [shownSession, hq, Option.bind_some, hp]
      subst hev
      simp [Performs, Event.disconnects, Event.drops, hshown]

theorem logoffUser_wp (hev : event = .logoffUser connectionId) :
    (CallInLogOffUserSession.doStuff config connectionId).wp (Performs config sys event)
      (fun _ m' => Shrinks sys.manager m') sys.manager := by
  unfold CallInLogOffUserSession.doStuff
  simp only [wp_bind, wp_perform]
  refine ⟨trivial, ?_⟩
  simp only [exec_action, Action.exec]
  cases hq : sys.manager.connectionStore.getConnection connectionId with
  | none => exact .of_eq rfl rfl
  | some q =>
    simp only [wp_bind, wp_perform]
    refine ⟨trivial, trivial, ?_⟩
    simp only [exec_action, Action.exec]
    cases hp : sys.manager.sessionStore.getSession (sys.manager.connection q).sessionId with
    | none => exact .of_eq rfl rfl
    | some p =>
      have hshown : sys.manager.shownSession connectionId = some p := by
        rw [shownSession, hq, Option.bind_some, hp]
      have hstop := Shrinks.stop sys.manager p (.stopModule config sys.manager.clock)
      rw [sys.manager.getSession_sessionId p hp] at hstop
      subst hev
      simp only [wp_bind, wp_perform]
      refine ⟨rfl, trivial, ?_, (hstop _).trans (.of_eq rfl rfl)⟩
      simp [Performs, Event.drops, hshown]

theorem checkSessions_performs (hev : event = .sessionTimeout) (currentTime : Int)
    (sessions : List Ptr) :
    (TaskSessionTimeout.checkSessions config currentTime sessions).Checks (Performs config sys event) m := by
  induction sessions generalizing m with
  | nil => trivial
  | cons p sessions ih =>
    unfold TaskSessionTimeout.checkSessions Checks
    simp only [wp_bind, wp_perform, wp_ite]
    exact ⟨trivial, fun _ => ⟨fun _ => hev, ih⟩, fun _ => ih⟩

theorem turn_performs (hev : event = .sessionTimeout) :
    (TaskSessionTimeout.turn config).Checks (Performs config sys event) m := by
  unfold TaskSessionTimeout.turn Checks
  simp only [wp_bind, wp_perform]
  exact ⟨trivial, trivial, checkSessions_performs hev _ _⟩

theorem disconnectSessions_wp (hev : event = .rpcDisconnected) (sessions : List Ptr)
    (hnodup : sessions.Nodup) (hsame : ∀ p ∈ sessions, m.session p = sys.manager.session p)
    (h : ∀ p ∈ sessions, p ∈ sys.manager.sessionStore.getAllSessions) :
    (disconnectSessions config sessions).wp (Performs config sys event) (fun _ m' => Shrinks m m') m := by
  induction sessions generalizing m with
  | nil => exact .of_eq rfl rfl
  | cons p sessions ih =>
    obtain ⟨hnotMem, hnodup⟩ := List.nodup_cons.mp hnodup
    have hp : m.session p = sys.manager.session p := hsame p List.mem_cons_self
    have hrest : ∀ q ∈ sessions, q ≠ p ∧ m.session q = sys.manager.session q :=
      fun q hq => ⟨fun hqp => hnotMem (hqp ▸ hq), hsame q (List.mem_cons_of_mem p hq)⟩
    have hstored : ∀ q ∈ sessions, q ∈ sys.manager.sessionStore.getAllSessions :=
      fun q hq => h q (List.mem_cons_of_mem p hq)
    unfold disconnectSessions
    simp only [wp_bind, wp_perform, wp_ite]
    refine ⟨trivial, fun _ => ⟨by rw [hev]; rfl, trivial, (ih hnodup ?_ hstored).mono fun _ _ => ?_⟩,
      fun hauth => ⟨.inl ⟨?_, hp⟩, (ih hnodup ?_ hstored).mono fun _ _ => ?_⟩⟩
    · intro q hq
      simp [Action.exec, session_setSession, hrest q hq]
    · exact (Shrinks.stop m p _ _).trans
    · subst hev
      refine List.mem_filter.mpr ⟨h p List.mem_cons_self, ?_⟩
      rw [← hp]
      simpa [Action.exec] using hauth
    · intro q hq
      simp [Action.exec, session_setSession, hrest q hq]
    · exact (Shrinks.disconnect m p _).trans

theorem rpcDisconnected_wp (hev : event = .rpcDisconnected) :
    (ApplicationContext.rpcDisconnected config).wp (Performs config sys event)
      (fun _ m' => Shrinks sys.manager m') sys.manager := by
  unfold rpcDisconnected
  simp only [wp_bind, wp_perform]
  refine ⟨hev, trivial, (disconnectSessions_wp hev _ ?_ ?_ ?_).mono fun _ _ h => h.after rfl rfl⟩
  · exact getAllSessions_nodup _
  · exact fun _ _ => rfl
  · exact fun p hp => hp

/-! ## Tasks -/

section

variable {G : ∀ {β : Type}, Action β → ApplicationContext → Prop}

theorem onSession_wp {sessionId : UInt32}
    {body : Ptr → Handler Unit} {post : ApplicationContext → Prop}
    (hget : G (.getSession sessionId) m)
    (hsome : ∀ p, m.sessionStore.getSession sessionId = some p → (body p).wp G (fun _ => post) m)
    (hnone : m.sessionStore.getSession sessionId = none → post m) :
    (onSession sessionId body).wp G (fun _ => post) m := by
  unfold onSession
  rw [wp_bind, wp_perform]
  refine ⟨hget, ?_⟩
  simp only [exec_action, Action.exec]
  cases h : m.sessionStore.getSession sessionId with
  | none => exact hnone h
  | some p => exact hsome p h

theorem onConnection_wp {connectionId : UInt32}
    {body : Ptr → Handler Unit} {post : ApplicationContext → Prop}
    (hget : G (.getConnection connectionId) m)
    (hsome : ∀ q, m.connectionStore.getConnection connectionId = some q → (body q).wp G (fun _ => post) m)
    (hnone : m.connectionStore.getConnection connectionId = none → post m) :
    (onConnection connectionId body).wp G (fun _ => post) m := by
  unfold onConnection
  rw [wp_bind, wp_perform]
  refine ⟨hget, ?_⟩
  simp only [exec_action, Action.exec]
  cases h : m.connectionStore.getConnection connectionId with
  | none => exact hnone h
  | some q => exact hsome q h

end

/-- The sessions after `cleanUpOnError` found the session behind `p`. -/
def ApplicationContext.rollBack (config : Config) (p : Ptr) : ApplicationContext :=
  match (m.session p).currentState with
  | .active => (m.setSession p (.stopModule config m.clock)).removeSession (m.session p).sessionId
  | .connectQuery => m.setSession p (.setConnectState m.clock .disconnected)
  | _ => m

def TaskSwitchTo.EndsNewSession (task : TaskSwitchTo) : Prop :=
  task.oldSessionId ≠ 0 ∧ task.oldSessionId = task.newSessionId

instance (task : TaskSwitchTo) : Decidable task.EndsNewSession :=
  inferInstanceAs (Decidable (_ ∧ _))

structure Completed (m m' : ApplicationContext) (task : TaskSwitchTo) : Prop where
  kept : ¬task.EndsNewSession →
    m'.sessionStore.getSession task.newSessionId = some task.newSession ∧
      m'.session task.newSession = m.session task.newSession
  ended : task.EndsNewSession → m'.sessionStore.getSession task.newSessionId = none
  bound : ∀ q, m'.connectionStore.getConnection task.connectionId = some q →
    (m'.connection q).sessionId = task.newSessionId

theorem bindConnection_wp (task : TaskSwitchTo) :
    (onConnection task.connectionId fun connection => do
      perform (.setSessionId connection task.newSessionId)
      perform (.setAbout2SwitchSessionId connection 0)).wp (Performs config sys event) (fun _ m' =>
        m'.sessionStore = m.sessionStore ∧ m'.tasks = m.tasks ∧
          ∀ q, m'.connectionStore.getConnection task.connectionId = some q →
            (m'.connection q).sessionId = task.newSessionId) m := by
  refine onConnection_wp trivial (fun q hq => ⟨trivial, trivial, rfl, rfl, fun q' hq' => ?_⟩)
    fun hnone => ⟨rfl, rfl, fun q hq => ?_⟩
  · have hsame : q' = q := Option.some.inj (hq'.symm.trans hq)
    simp [Action.exec, hsame, Connection.setSessionId, Connection.setAbout2SwitchSessionId]
  · rw [hnone] at hq
    cases hq

section Tasks

variable (hstops : event.stops = true)
include hstops

theorem stopSession_wp (sessionId : UInt32) :
    (stopSession config sessionId).wp (Performs config sys event)
      (fun _ m' => Shrinks m m' ∧ EndsOnly sessionId m m') m := by
  refine onSession_wp trivial (fun p hp => ?_) fun _ => ⟨.of_eq rfl rfl, .refl _ m⟩
  rw [wp_bind, wp_perform]
  have hstop := Shrinks.stop m p (.stopModule config m.clock)
  rw [m.getSession_sessionId p hp] at hstop
  exact ⟨hstops, trivial, hstop _, .stop hp _ _⟩

theorem beginTask_wp (task : Task) :
    (Event.beginTask config task).wp (Performs config sys event) (fun waiting m' =>
      Shrinks m m' ∧ (∀ id, task.expiredId = some id → EndsOnly id m m') ∧
        ∀ w, waiting = some w → w.expiredId = task.expiredId) m := by
  have hsame : Shrinks m m := .of_eq rfl rfl
  cases task with
  | switchTo task => exact ⟨hsame, by simp [Task.expiredId], by simp [Waiting.expiredId, Task.expiredId]⟩
  | endSession task =>
    simp only [Event.beginTask, TaskEndSession.begin, wp_bind, wp_perform, wp_ite, wp_pure]
    refine ⟨trivial, fun _ => (stopSession_wp hstops _).mono fun _ m' h => ⟨h.1, fun id hid => ?_, by simp⟩,
      fun _ => ⟨hsame, fun id _ => .refl id m, ?_⟩⟩
    · rw [← TaskEndSession.sessionId_of_expiredId hid]
      exact h.2
    · simp [Waiting.expiredId, Task.expiredId]
  | moduleShutdown task =>
    simp only [Event.beginTask, TaskModuleShutdown.begin, wp_bind, wp_perform, wp_ite, wp_pure]
    have hnone : ∀ {m'} id, Task.expiredId (.moduleShutdown task) = some id → EndsOnly id m m' := by
      simp [Task.expiredId]
    refine ⟨trivial, (stopSession_wp hstops _).mono fun _ m' h => ⟨fun _ => ⟨h.1, hnone, ?_⟩, fun _ => ⟨h.1, hnone, ?_⟩⟩⟩
    · simp [Waiting.expiredId, Task.expiredId]
    · simp

variable (task : TaskSwitchTo)

theorem cleanUpOnError_wp :
    (task.cleanUpOnError config).wp (Performs config sys event) (fun _ m' => Shrinks m m' ∧
      ∀ p, m.sessionStore.getSession task.newSessionId = some p →
        m'.sessionStore = (m.rollBack config p).sessionStore) m := by
  have hrolled : (onSession task.newSessionId (rollBackSession config)).wp (Performs config sys event)
      (fun _ m' => Shrinks m m' ∧ ∀ p, m.sessionStore.getSession task.newSessionId = some p →
        m'.sessionStore = (m.rollBack config p).sessionStore) m := by
    have hsame : Shrinks m m := .of_eq rfl rfl
    refine onSession_wp trivial (fun p hp => ?_) fun hnone => ⟨hsame, by simp [hnone]⟩
    simp only [hp, Option.some.injEq, forall_eq', rollBackSession, wp_bind, wp_perform, wp_ite, wp_pure]
    refine ⟨trivial, fun hact => ⟨hstops, trivial, .stop m p _ _, ?_⟩,
      fun hact => ⟨fun hquery => ⟨.inr hquery, .disconnect m p _, ?_⟩, fun hquery => ⟨hsame, ?_⟩⟩⟩
    · have hstate : (m.session p).currentState = .active := hact
      simp only [rollBack, hstate]
      rfl
    · have hstate : (m.session p).currentState = .connectQuery := hquery
      simp [rollBack, hstate, Action.exec]
    · unfold rollBack
      split <;> simp_all [Action.exec]
  unfold cleanUpOnError
  rw [wp_bind]
  exact hrolled.mono fun _ m1 h =>
    onConnection_wp trivial (fun q _ => ⟨trivial, h.1.trans (.of_eq rfl rfl), h.2⟩) fun _ => h

theorem endOldSession_wp :
    (task.endOldSession config).wp (Performs config sys event) (fun _ m' => Shrinks m m' ∧
      if task.oldSessionId = 0 then m' = m
      else m'.sessionStore.getSession task.oldSessionId = none ∧ EndsOnly task.oldSessionId m m') m := by
  have hsame : Shrinks m m := .of_eq rfl rfl
  unfold endOldSession
  rw [wp_ite]
  refine ⟨fun hold => onSession_wp trivial (fun p hp => ?_) fun hnone => ?_, fun hzero => ?_⟩
  · have hid := m.getSession_sessionId p hp
    have hstop := Shrinks.stop m p (.stopModule config m.clock)
    simp only [wp_bind, wp_perform, exec_action, Action.exec, session_fire,
      session_setSession_self, call_sessionId, hid, if_neg hold] at hstop ⊢
    exact ⟨hstops, trivial, trivial, hstop _, by simp [getSession], .stop hp _ _⟩
  · rw [if_neg hold]
    exact ⟨hsame, hnone, .refl _ m⟩
  · rw [wp_pure, if_pos (not_not.mp hzero)]
    exact ⟨hsame, rfl⟩

theorem completeSwitch_wp :
    (task.completeSwitch config).wp (Performs config sys event) (fun _ m' => Shrinks m m' ∧
      (m.sessionStore.getSession task.newSessionId = some task.newSession → Completed m m' task)) m := by
  unfold completeSwitch
  rw [wp_bind]
  refine (endOldSession_wp hstops task).mono fun _ m1 hended => ?_
  refine (bindConnection_wp task).mono fun _ m2 hbound => ?_
  obtain ⟨hshrinks, hended⟩ := hended
  obtain ⟨hstore, htasks, hbound⟩ := hbound
  refine ⟨hshrinks.trans (.of_eq hstore htasks), fun hstored => ⟨fun hnot => ?_, fun hends => ?_, hbound⟩⟩
  · rw [hstore, session_congr hstore]
    split at hended
    · rw [hended]
      exact ⟨hstored, rfl⟩
    · have hne : task.newSessionId ≠ task.oldSessionId := fun heq => hnot ⟨‹_›, heq.symm⟩
      -- two stored sessions with different ids are different objects
      refine ⟨(hended.2.stored _ hne).trans hstored, hended.2.session _ fun hold => hne ?_⟩
      rw [← m.getSession_sessionId _ hold, m.getSession_sessionId _ hstored]
  · rw [if_neg hends.1] at hended
    rw [hstore, ← hends.2]
    exact hended.1

end Tasks

theorem resumeTask_wp (result : UInt32) (loggedOff : Bool) (waiting : Waiting)
    (hwait : sys.waiting = some waiting) (hev : event = .callAnswered result loggedOff) :
    (Event.resumeTask config result loggedOff waiting).wp (Performs config sys event) (fun _ m' =>
      Shrinks m m' ∧ ∀ id, waiting.expiredId = some id → EndsOnly id m m') m := by
  have hstops : event.stops = true := by rw [hev]; rfl
  have hsame : Shrinks m m := .of_eq rfl rfl
  subst hev
  cases waiting with
  | switchTo task =>
    simp only [Event.resumeTask, resume]
    split
    · exact (cleanUpOnError_wp hstops task).mono fun _ _ h => ⟨h.1, by simp [Waiting.expiredId]⟩
    · exact (completeSwitch_wp hstops task).mono fun _ _ h => ⟨h.1, by simp [Waiting.expiredId]⟩
  | endSession task connectionId =>
    simp only [Event.resumeTask, TaskEndSession.resume, wp_ite]
    refine ⟨fun hans => ?_, fun _ => ⟨hsame, fun id _ => .refl id m⟩⟩
    rw [wp_bind]
    refine (stopSession_wp hstops _).mono fun _ m' h => ⟨?_, h.1.trans (.of_eq rfl rfl), fun id hid => ?_⟩
    · simpa [Performs, Event.drops, hwait] using hans
    · rw [← TaskEndSession.sessionId_of_expiredId hid]
      exact ⟨h.2.stored, h.2.session⟩
  | moduleShutdown connectionId =>
    refine ⟨?_, .of_eq rfl rfl, by simp [Waiting.expiredId]⟩
    simp [Performs, Event.drops, hwait]

theorem handler_performs (config : Config) (sys : System) (event : Event) :
    (event.handler config sys).Checks (Performs config sys event) (event.prepare sys) := by
  have htrue : ∀ {α : Type} {p : Handler α} {post : α → ApplicationContext → Prop} {m : ApplicationContext}
      {value : Option Waiting}, p.wp (Performs config sys event) post m →
        (do let _ ← p; pure value : Handler (Option Waiting)).Checks (Performs config sys event) m := by
    intro α p post m value h
    unfold Checks
    rw [wp_bind]
    exact h.mono fun _ _ _ => trivial
  cases event with
  | logonUser answers request => exact htrue (logonUser_doStuff_wp answers request rfl)
  | startSession answers request => exact htrue (startSession_doStuff_wp answers request rfl)
  | authenticateUser answers request => exact htrue (fdsApi_authenticateUser_wp answers request rfl)
  | disconnectUser connectionId => exact htrue (disconnectUser_performs connectionId rfl)
  | logoffUser connectionId => exact htrue (logoffUser_wp connectionId rfl)
  | endSession sessionId => exact ⟨nofun, trivial⟩
  | moduleShutdown sessionId => exact ⟨trivial, trivial⟩
  | sessionTimeout => exact htrue (turn_performs rfl)
  | rpcDisconnected => exact htrue (rpcDisconnected_wp rfl)
  | runTask =>
    simp only [Event.handler]
    split
    · exact (beginTask_wp rfl _).mono fun _ _ _ => trivial
    · trivial
  | callAnswered result loggedOff =>
    simp only [Event.handler]
    split
    · rename_i waiting hwait
      exact htrue (resumeTask_wp result loggedOff waiting hwait rfl)
    · trivial
  | _ => trivial

/-! ## What becomes of a session -/

structure Session.Same (session session' : Session) : Prop where
  account : session'.account = session.account
  hasModule : session'.HasModule ↔ session.HasModule

/-- The ways in which one action of an event changes the session behind `p`. -/
inductive SessionChange (config : Config) (sys : System) (event : Event) (p : Ptr) (s s' : Session) : Prop
  | keep (same : s.Same s') (state : s'.currentState = s.currentState)
  | setUp (fresh : sys.Fresh p) (state : s.currentState = .down) (state' : s'.currentState = .down)
  | start (fresh : sys.Fresh p) (account : s'.account = s.account) (state' : s'.currentState = .connected)
      (started : s'.HasModule)
  | activate (fresh : sys.Fresh p) (same : s.Same s') (started : s.HasModule)
      (state' : s'.currentState = .active ∨ s'.currentState = .connected)
  | reattach (found : event.reattaches config sys.manager = some p) (same : s.Same s')
      (state : s.currentState = .disconnected)
      (state' : s'.currentState = .active ∨ s'.currentState = .connectQuery)
  | disconnect (cause : p ∈ event.disconnects sys.manager) (untouched : s = sys.manager.session p)
      (same : s.Same s') (state' : s'.currentState = .disconnected)
  | rollBack (same : s.Same s') (state : s.currentState = .connectQuery)
      (state' : s'.currentState = .disconnected)
  | stop (stops : event.stops = true) (account : s'.account = s.account) (state' : s'.currentState = .down)

theorem setConnectState_same (now : Int) (state : ConnectState) (s : Session) :
    s.Same (s.setConnectState now state).2 :=
  ⟨s.setConnectState_account now state, s.setConnectState_hasModule now state⟩

theorem Performs.change {β : Type} {action : Action β} (h : Performs config sys event action m)
    {p : Ptr}
    {method : Session.Method} (hcall : action.sessionCall m = some (p, method)) :
    SessionChange config sys event p (m.session p) ((m.session p).call method) := by
  cases action with
  | setSession q setter =>
    cases hcall
    rcases h with ⟨hfresh, -, hdown⟩ | hacc
    · exact .setUp hfresh hdown (by simpa using hdown)
    · exact .keep ⟨hacc, by simp⟩ (by simp)
  | setConnectState q state =>
    cases hcall
    have hsame := setConnectState_same m.clock state (m.session p)
    have hstate := (m.session p).setConnectState_currentState m.clock state
    cases state with
    | active =>
      rcases h with ⟨hfound, hdisc⟩ | ⟨hfresh, hstarted⟩
      · exact .reattach hfound hsame hdisc (.inl hstate)
      · exact .activate hfresh hsame hstarted (.inl hstate)
    | connected => exact .activate h.1 hsame h.2 (.inr hstate)
    | connectQuery => exact .reattach h.1 hsame h.2 (.inr hstate)
    | disconnected =>
      rcases h with ⟨hcause, huntouched⟩ | hquery
      · exact .disconnect hcause huntouched hsame hstate
      · exact .rollBack hsame hquery hstate
    | _ => exact h.elim
  | generateUserToken q answers | generateEnvBlockAndModify q answers =>
    cases hcall
    exact .keep ⟨by simp, by simp⟩ (by simp)
  | generateAuthEnvBlockAndModify q =>
    cases hcall
    exact .keep ⟨by simp, .rfl⟩ (by simp)
  | startModule q config answers =>
    cases hcall
    have hstate := (m.session p).startModule_currentState config answers m.clock
    cases hstarted : ((m.session p).startModule config answers m.clock).1 with
    | true =>
      exact .start h.1 (by simp) (by simpa [hstarted] using hstate)
        (startModule_hasModule _ _ _ _ hstarted)
    | false => exact .setUp h.1 h.2.1 (by simpa [hstarted, h.2.1] using hstate)
  | stopModule q config =>
    cases hcall
    rcases stopModule_cases config m.clock (m.session p) with hstop | hstop
    · exact .keep (by simp [hstop, Session.Same.mk]) (by simp [hstop])
    · exact .stop h (by simp) (by simp [hstop])
  | _ => cases hcall

theorem Event.prepare_sessionStore (sys : System) (event : Event) :
    (event.prepare sys).sessionStore = sys.manager.sessionStore := by
  cases event with
  | runTask =>
    simp only [Event.prepare]
    split <;> rfl
  | _ => rfl

theorem Event.mem_prepare_tasks {sys : System} {event : Event} {task : Task}
    (h : task ∈ (event.prepare sys).tasks) : task ∈ sys.manager.tasks := by
  cases event with
  | runTask =>
    simp only [prepare] at h
    split at h
    · exact List.mem_of_mem_tail h
    · exact h
  | _ => exact h

theorem System.nextTask_mem {task : Task} (h : sys.nextTask = some task) :
    task ∈ sys.manager.tasks := by
  unfold System.nextTask at h
  split at h
  · exact List.mem_of_mem_head? h
  · cases h

theorem Event.session_prepare (sys : System) (event : Event) (p : Ptr) :
    (event.prepare sys).session p = sys.manager.session p := by
  simp [session, prepare_sessionStore]

variable {Φ : Session → Prop} (hnew : ∀ id, Φ { sessionId := id })
  (hchange : ∀ p s s', SessionChange config sys event p s s' → Φ s → Φ s')

include hnew hchange

theorem Performs.sessions {β : Type} (action : Action β)
    (m : ApplicationContext) (h : Performs config sys event action m) (hm : ∀ p, Φ (m.session p)) :
    ∀ p, Φ ((action.exec m).2.session p) :=
  action.exec_sessions m hm hnew fun p _ hcall => hchange p _ _ (h.change hcall) (hm p)

theorem System.step_sessions
    (h : ∀ p, Φ (sys.manager.session p)) : ∀ p, Φ ((sys.step config event).manager.session p) := by
  refine (handler_performs config sys event).invariant (I := fun m => ∀ p, Φ (m.session p))
    (Performs.sessions hnew hchange) ?_
  simpa [event.session_prepare] using h

end Performs

end FreeRDS.Manager
