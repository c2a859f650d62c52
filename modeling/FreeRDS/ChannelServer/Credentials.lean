import FreeRDS.ChannelServer.Server

/-! # PAM sessions and effective ids

Every log on event opens a PAM session, and only the handler of the termination signals closes one.
Every event is delivered as the user, or should be: the group can no longer be changed once the
process has given up the effective user id of root.
-/

namespace FreeRDS.ChannelServer

open Lib Manager Environment List

/-! ## PAM sessions -/

/-- No session is opened while one is open, and none is open at the end. -/
def PamBalanced : Bool → List Operation → Prop
  | isOpen, [] => isOpen = false
  | isOpen, .pamOpenSession :: operations => isOpen = false ∧ PamBalanced true operations
  | _, .pamCloseSession :: operations => PamBalanced false operations
  | isOpen, _ :: operations => PamBalanced isOpen operations

instance PamBalanced.decidable : (isOpen : Bool) → (operations : List Operation) →
    Decidable (PamBalanced isOpen operations)
  | isOpen, [] => inferInstanceAs (Decidable (isOpen = false))
  | isOpen, operation :: operations =>
    have := fun isOpen => decidable isOpen operations
    match operation with
    | .pamOpenSession => inferInstanceAs (Decidable (_ ∧ _))
    | .pamCloseSession => this false
    | .pamStart | .pamEnd | .saveEffectiveIds | .initgroups | .seteuid _ | .setegid _ | .restoreUid
    | .restoreGid | .deliver _ _ => this isOpen

/-- The log ons whose PAM session was opened before the end. The one that a signal interrupts counts if
`pam_start` and `pam_open_session` have been called. -/
def Ending.logons (answers : List (Option ConnectState)) (ending : Ending) : Nat :=
  match ending with
  | .waitFails => (ending.events answers).count .logon
  | .signal _ delivered operations =>
    ((ending.events answers).take delivered).count .logon +
      if (ending.events answers)[delivered]? = some .logon ∧ 2 ≤ operations then 1 else 0

def Ending.isSignal : Ending → Bool
  | .waitFails => false
  | .signal _ _ _ => true

section Balanced

variable {operations rest : List Operation} {isOpen : Bool}

theorem pamBalanced_append_iff (h : .pamCloseSession ∉ operations) :
    PamBalanced isOpen (operations ++ rest) ↔
      operations.count .pamOpenSession = 0 ∧ PamBalanced isOpen rest ∨
        operations.count .pamOpenSession = 1 ∧ isOpen = false ∧ PamBalanced true rest := by
  induction operations generalizing isOpen with
  | nil => simp
  | cons operation operations ih =>
    have hrest : .pamCloseSession ∉ operations := fun hmem => h (mem_cons_of_mem _ hmem)
    cases operation with
    | pamOpenSession =>
      simp only [cons_append, PamBalanced, ih hrest, count_cons_self, Nat.add_eq_right,
        Nat.succ_ne_zero, false_and, false_or, Bool.true_eq_false, and_false, or_false]
      exact and_left_comm
    | pamCloseSession => exact absurd mem_cons_self h
    | _ => simpa [PamBalanced] using ih hrest

end Balanced

namespace Environment

variable (env : Environment)

def Silent (operations : List Operation) : Prop :=
  .pamOpenSession ∉ operations ∧ .pamCloseSession ∉ operations

theorem impersonateUser_silent : Silent env.impersonateUser := by
  unfold impersonateUser
  split <;> simp [Silent]

theorem revertToSelf_silent : Silent env.revertToSelf := by
  unfold revertToSelf
  split <;> simp [Silent]

theorem deliverTo_silent (event : WtsEvent) (i : Nat) (plugins : List Plugin) : Silent (deliverTo event i plugins) := by
  induction plugins generalizing i with
  | nil => simp [deliverTo, Silent]
  | cons plugin plugins ih =>
    unfold deliverTo
    split
    · simpa [Silent] using ih (i + 1)
    · exact ih (i + 1)

theorem Silent.append {operations operations' : List Operation} (h : Silent operations) (h' : Silent operations') :
    Silent (operations ++ operations') := by
  simpa [Silent] using ⟨⟨h.1, h'.1⟩, h.2, h'.2⟩

theorem fireSessionEvent_eq (event : WtsEvent) :
    ∃ rest, Silent rest ∧ env.fireSessionEvent event = env.invokePam event ++ rest := by
  refine ⟨env.impersonateUser ++ deliverTo event 0 env.plugins ++ env.revertToSelf, ?_, ?_⟩
  · exact (env.impersonateUser_silent.append (deliverTo_silent event 0 env.plugins)).append env.revertToSelf_silent
  · simp [fireSessionEvent]

variable {env}

theorem count_take_fireSessionEvent (hpam : env.pamStart = true) (event : WtsEvent) (n : Nat) :
    ((env.fireSessionEvent event).take n).count .pamOpenSession =
      if env.hasUser = true ∧ event = .logon ∧ 2 ≤ n then 1 else 0 := by
  obtain ⟨rest, hrest, hfire⟩ := env.fireSessionEvent_eq event
  have hcnt : ∀ k, (rest.take k).count .pamOpenSession = 0 :=
    fun k => count_eq_zero.mpr fun hmem => hrest.1 (mem_of_mem_take hmem)
  have hopen : ((env.invokePam event).take n).count .pamOpenSession =
      if env.hasUser = true ∧ event = .logon ∧ 2 ≤ n then 1 else 0 := by
    cases huser : env.hasUser <;> cases event <;> simp [invokePam, pamSession, huser, hpam]
    all_goals
      match n with
      | 0 | 1 | 2 | n + 3 => simp
  rw [hfire, take_append, count_append, hcnt, hopen, Nat.add_zero]

theorem count_flatMap_fireSessionEvent (hpam : env.pamStart = true) (events : List WtsEvent) :
    (events.flatMap env.fireSessionEvent).count .pamOpenSession =
      if env.hasUser then events.count .logon else 0 := by
  have hev : ∀ event, (env.fireSessionEvent event).count .pamOpenSession =
      if env.hasUser = true ∧ event = .logon then 1 else 0 := by
    intro event
    have htake := count_take_fireSessionEvent hpam event ((env.fireSessionEvent event).length + 2)
    rw [take_of_length_le (Nat.le_add_right _ _)] at htake
    simpa using htake
  induction events with
  | nil => simp
  | cons event events ih =>
    rw [flatMap_cons, count_append, ih, hev, count_cons]
    cases env.hasUser <;> simp [Nat.add_comm]

theorem logoff_not_mem_events (answers : List (Option ConnectState)) (ending : Ending) :
    .logoff ∉ ending.events answers := by
  have hchange : ∀ sessionState newSessionState, .logoff ∉ stateChange sessionState newSessionState := by
    intro sessionState newSessionState
    unfold stateChange
    split
    · simp
    · split
      · simp
      · simp
      · split <;> simp
      · simp
  have hloop : ∀ sessionState, .logoff ∉ loopEvents sessionState answers := by
    induction answers with
    | nil => simp [loopEvents]
    | cons answer answers ih => exact fun sessionState => by simp [loopEvents, hchange, ih]
  unfold Ending.events
  split <;> simp [processTsEvents, hloop]

theorem pamCloseSession_not_mem_event {event : WtsEvent} (h : event ≠ .logoff) :
    .pamCloseSession ∉ env.fireSessionEvent event := by
  obtain ⟨rest, hrest, hfire⟩ := env.fireSessionEvent_eq event
  rw [hfire, mem_append, not_or]
  refine ⟨?_, hrest.2⟩
  cases event with
  | logoff => exact absurd rfl h
  | logon => simp [invokePam, pamSession]
  | _ => simp [invokePam]

theorem pamCloseSession_not_mem_flatMap {events : List WtsEvent} (h : .logoff ∉ events) :
    .pamCloseSession ∉ events.flatMap env.fireSessionEvent := by
  intro hmem
  obtain ⟨event, hev, hclose⟩ := mem_flatMap.mp hmem
  exact pamCloseSession_not_mem_event (fun heq => h (heq ▸ hev)) hclose

theorem pamCloseSession_not_mem_interrupted {events : List WtsEvent} (h : .logoff ∉ events)
    (delivered operations : Nat) : .pamCloseSession ∉ env.interrupted events delivered operations := by
  rw [interrupted, mem_append, not_or]
  constructor
  · exact pamCloseSession_not_mem_flatMap fun hmem => h (mem_of_mem_take hmem)
  · refine fun hmem => pamCloseSession_not_mem_flatMap ?_ (mem_of_mem_take hmem)
    exact fun hlogoff => h (mem_of_getElem? (Option.mem_toList.mp hlogoff))

theorem count_interrupted (hpam : env.pamStart = true) (events : List WtsEvent) (delivered operations : Nat) :
    (env.interrupted events delivered operations).count .pamOpenSession =
      if env.hasUser then (events.take delivered).count .logon +
        if events[delivered]? = some .logon ∧ 2 ≤ operations then 1 else 0
      else 0 := by
  rw [interrupted, count_append, count_flatMap_fireSessionEvent hpam]
  cases events[delivered]? with
  | none => simp
  | some event =>
    simp only [Option.toList_some, flatMap_singleton, count_take_fireSessionEvent hpam, Option.some.injEq]
    cases env.hasUser <;> simp

theorem pamBalanced_shutdown (hpam : env.pamStart = true) (isOpen : Bool) :
    PamBalanced isOpen env.shutdown ↔ (env.hasUser = false → isOpen = false) := by
  obtain ⟨rest, hrest, hlogoff⟩ := env.fireSessionEvent_eq .logoff
  obtain ⟨rest', hrest', hdelete⟩ := env.fireSessionEvent_eq .delete
  have hquiet : Silent (rest ++ rest') := hrest.append hrest'
  have hend : ∀ isOpen, PamBalanced isOpen (rest ++ rest') ↔ isOpen = false := by
    intro isOpen
    have happ := @pamBalanced_append_iff _ [] isOpen hquiet.2
    rw [append_nil, count_eq_zero.mpr hquiet.1] at happ
    simpa [PamBalanced] using happ
  have hshutdown : env.shutdown = env.invokePam .logoff ++ (rest ++ rest') := by
    rw [shutdown, hlogoff, hdelete]
    simp [invokePam]
  rw [hshutdown]
  cases huser : env.hasUser <;> simp [invokePam, pamSession, huser, hpam, PamBalanced, hend]

end Environment

variable (env : Environment)

/-- In every run with `pam_start` succeeding, PAM sessions are opened one at a time and closed before the
end exactly if `USER` is not set, no log on came before the end, or one did and a signal came after it. -/
theorem pam_sessions_balanced_iff (hpam : env.pamStart = true)
    (answers : List (Option ConnectState)) (ending : Ending) :
    PamBalanced false (env.run answers ending) ↔
      env.hasUser = false ∨ ending.logons answers = 0 ∨ ending.logons answers = 1 ∧ ending.isSignal = true := by
  have hlogoff := logoff_not_mem_events answers ending
  cases ending with
  | waitFails =>
    have hclose := @Environment.pamCloseSession_not_mem_flatMap env _ hlogoff
    have happ := @pamBalanced_append_iff _ [] false hclose
    rw [append_nil, count_flatMap_fireSessionEvent hpam] at happ
    rw [run, happ]
    cases env.hasUser <;> simp [PamBalanced, Ending.logons, Ending.isSignal]
  | signal waitFailed delivered operations =>
    have hclose := @Environment.pamCloseSession_not_mem_interrupted env _ hlogoff delivered operations
    rw [run, pamBalanced_append_iff hclose, count_interrupted hpam,
      pamBalanced_shutdown hpam, pamBalanced_shutdown hpam]
    cases env.hasUser <;> simp [Ending.logons, Ending.isSignal]

namespace Sample

def environment : Environment where
  user := some "alice"
  getpwnam username := if username = "alice" then some ⟨1000, 1000⟩ else none
  rootPasswd := some ⟨0, 0⟩
  pamStart := true
  plugins := [⟨fun _ => true⟩]

end Sample

/-- One log on, and a signal after it. -/
theorem pam_sessions_balanced_signal :
    PamBalanced false (Sample.environment.run [some .active] (.signal false 3 0)) :=
  (pam_sessions_balanced_iff Sample.environment rfl [some .active] (.signal false 3 0)).mpr (by decide)

/-- After a failed wait the PAM session stays open; a reattached user gets a second one. -/
theorem pam_sessions_not_balanced :
    ¬PamBalanced false (Sample.environment.run [some .active] .waitFails) ∧
    ¬PamBalanced false (Sample.environment.run [some .active, some .disconnected, some .active] (.signal false 6 0)) := by
  decide

/-! ## Effective ids -/

structure Credentials where
  realUid : Nat := 0
  effectiveUid : Nat := 0
  savedUid : Nat := 0
  realGid : Nat := 0
  effectiveGid : Nat := 0
  savedGid : Nat := 0
  deriving DecidableEq, Repr

namespace Credentials

/-- `seteuid(2)`: root may take any id, another user the real or the saved one. -/
def seteuid (uid : Nat) (credentials : Credentials) : Credentials :=
  if credentials.effectiveUid = 0 ∨ uid = credentials.realUid ∨ uid = credentials.savedUid then
    { credentials with effectiveUid := uid }
  else credentials

/-- `setegid(2)`: whether the process is root is a matter of its effective user id here, too. -/
def setegid (gid : Nat) (credentials : Credentials) : Credentials :=
  if credentials.effectiveUid = 0 ∨ gid = credentials.realGid ∨ gid = credentials.savedGid then
    { credentials with effectiveGid := gid }
  else credentials

end Credentials

structure Process where
  credentials : Credentials := {}
  /-- `g_savedUID`. -/
  savedUID : Nat := 0
  /-- `g_savedGID`. -/
  savedGID : Nat := 0
  deriving DecidableEq, Repr

def Operation.isDelivery : Operation → Bool
  | .deliver _ _ => true
  | _ => false

namespace Process

def execute (process : Process) : Operation → Process
  | .saveEffectiveIds =>
    { process with
      savedUID := process.credentials.effectiveUid
      savedGID := process.credentials.effectiveGid }
  | .seteuid uid => { process with credentials := process.credentials.seteuid uid }
  | .setegid gid => { process with credentials := process.credentials.setegid gid }
  | .restoreUid => { process with credentials := process.credentials.seteuid process.savedUID }
  | .restoreGid => { process with credentials := process.credentials.setegid process.savedGID }
  | .pamStart | .pamOpenSession | .pamCloseSession | .pamEnd | .initgroups | .deliver _ _ => process

def DeliversAs (passwd : Passwd) (process : Process) (operation : Operation) : Prop :=
  operation.isDelivery = true →
    process.credentials.effectiveUid = passwd.uid ∧ process.credentials.effectiveGid = passwd.gid

/-- The effect of `fire_session_event`. -/
def fire (process : Process) (event : WtsEvent) : Process :=
  (env.fireSessionEvent event).foldl execute process

/-- The callbacks of one event run as the user, and afterwards the process is root again. -/
def Impersonates (passwd : Passwd) (process : Process) (event : WtsEvent) : Prop :=
  Along execute (DeliversAs passwd) process (env.fireSessionEvent event) ∧
    (process.fire env event).credentials.effectiveUid = 0 ∧ (process.fire env event).credentials.effectiveGid = 0

/-- No plugin has a callback for the event, and `getpwuid(0)` finds root. -/
def NothingDelivered (event : WtsEvent) : Prop :=
  (∀ plugin ∈ env.plugins, plugin.handles event = false) ∧ env.rootPasswd.isSome = true

/-- The process while callbacks run: the user id is that of the user, the group id that of root. -/
def impersonated (passwd : Passwd) : Process := { credentials := { effectiveUid := passwd.uid } }

section Fire

variable {env : Environment} {username : String} {passwd : Passwd} {process : Process} {event : WtsEvent}

theorem along_of_not_delivery {operations : List Operation}
    (h : ∀ operation ∈ operations, operation.isDelivery = false) :
    Along execute (DeliversAs passwd) process operations := by
  induction operations generalizing process with
  | nil => trivial
  | cons operation operations ih =>
    refine ⟨fun hdelivery => ?_, ih fun operation hmem => h operation (mem_cons_of_mem _ hmem)⟩
    rw [h operation mem_cons_self] at hdelivery
    cases hdelivery

theorem invokePam_cases (env : Environment) (event : WtsEvent) :
    env.invokePam event = [] ∨ env.invokePam event = [.pamStart] ∨
      env.invokePam event = [.pamStart, .pamOpenSession, .pamEnd] ∨
      env.invokePam event = [.pamStart, .pamCloseSession, .pamEnd] := by
  cases event <;> simp only [invokePam, pamSession, true_or]
  all_goals split_ifs <;> simp

theorem invokePam_isDelivery : ∀ operation ∈ env.invokePam event, operation.isDelivery = false := by
  rcases invokePam_cases env event with h | h | h | h <;> simp [h, Operation.isDelivery]

theorem foldl_invokePam : (env.invokePam event).foldl execute process = process := by
  rcases invokePam_cases env event with h | h | h | h <;> simp [h, execute]

theorem foldl_deliverTo (i : Nat) (plugins : List Plugin) :
    (Environment.deliverTo event i plugins).foldl execute process = process := by
  induction plugins generalizing i with
  | nil => rfl
  | cons plugin plugins ih =>
    unfold deliverTo
    split <;> exact ih (i + 1)

theorem along_deliverTo_iff (i : Nat) (plugins : List Plugin) :
    Along execute (DeliversAs passwd) process (Environment.deliverTo event i plugins) ↔
      (∀ plugin ∈ plugins, plugin.handles event = false) ∨
        process.credentials.effectiveUid = passwd.uid ∧ process.credentials.effectiveGid = passwd.gid := by
  induction plugins generalizing i with
  | nil => simp [deliverTo, Along]
  | cons plugin plugins ih =>
    unfold deliverTo
    split
    · rename_i hhandles
      refine ⟨fun h => .inr (h.1 rfl), fun h => ⟨fun _ => ?_, (ih (i + 1)).mpr (.inr ?_)⟩⟩ <;>
        exact h.resolve_left fun hnone => by simp [hhandles] at hnone
    · rename_i hhandles
      simp [ih, hhandles]

theorem foldl_impersonateUser (hpasswd : env.user.bind env.getpwnam = some passwd) (huid : passwd.uid ≠ 0)
    (hgid : passwd.gid ≠ 0) (hproc : process.credentials = {}) :
    env.impersonateUser.foldl execute process = impersonated passwd := by
  simp [impersonateUser, hpasswd, execute, hproc, Credentials.seteuid, Credentials.setegid, huid, hgid,
    impersonated]

theorem impersonateUser_isDelivery : ∀ operation ∈ env.impersonateUser, operation.isDelivery = false := by
  unfold impersonateUser
  split <;> simp [Operation.isDelivery]

theorem foldl_revertToSelf (huser : env.user.isSome = true) :
    env.revertToSelf.foldl execute (impersonated passwd) =
      if env.rootPasswd.isSome then {} else impersonated passwd := by
  simp only [revertToSelf, huser, true_and]
  split
  · simp [execute, impersonated, Credentials.seteuid, Credentials.setegid]
  · rfl

theorem revertToSelf_isDelivery : ∀ operation ∈ env.revertToSelf, operation.isDelivery = false := by
  unfold revertToSelf
  split <;> simp [Operation.isDelivery]

variable (hpasswd : env.user.bind env.getpwnam = some passwd) (huid : passwd.uid ≠ 0) (hgid : passwd.gid ≠ 0)
  (hproc : process.credentials = {})

include hpasswd huid hgid hproc

theorem fire_eq :
    process.fire env event = if env.rootPasswd.isSome then {} else impersonated passwd := by
  obtain ⟨username, huser, -⟩ := Option.bind_eq_some_iff.mp hpasswd
  rw [fire, fireSessionEvent, foldl_append, foldl_append, foldl_append, foldl_invokePam,
    foldl_impersonateUser hpasswd huid hgid hproc, foldl_deliverTo, foldl_revertToSelf (by simp [huser])]

theorem impersonates_iff :
    process.Impersonates env passwd event ↔ NothingDelivered env event := by
  have halong : Along execute (DeliversAs passwd) process (env.fireSessionEvent event) ↔
      ∀ plugin ∈ env.plugins, plugin.handles event = false := by
    rw [fireSessionEvent, Along.append_iff, Along.append_iff, Along.append_iff, foldl_append,
      foldl_append, foldl_invokePam, foldl_impersonateUser hpasswd huid hgid hproc, foldl_deliverTo,
      along_deliverTo_iff]
    have hgroup : ¬((impersonated passwd).credentials.effectiveUid = passwd.uid ∧
        (impersonated passwd).credentials.effectiveGid = passwd.gid) := fun h => hgid h.2.symm
    simp [along_of_not_delivery invokePam_isDelivery, along_of_not_delivery impersonateUser_isDelivery, along_of_not_delivery revertToSelf_isDelivery, hgroup]
  rw [Impersonates, NothingDelivered, halong, fire_eq hpasswd huid hgid hproc]
  refine and_congr_right fun _ => ?_
  cases env.rootPasswd with
  | some passwd => simp
  | none => simp [impersonated, huid]

end Fire

end Process

/-- For every user with a passwd entry whose ids are not those of root and every sequence of events,
callbacks run with the ids of the user and the process is root again after each event exactly if no
callback is called and `getpwuid(0)` finds root. -/
theorem callbacks_impersonated_iff (username : String) (passwd : Passwd)
    (huser : env.user = some username) (hpasswd : env.getpwnam username = some passwd)
    (huid : passwd.uid ≠ 0) (hgid : passwd.gid ≠ 0) (events : List WtsEvent) :
    Along (Process.fire env) (Process.Impersonates env passwd) {} events ↔
      ∀ event ∈ events, Process.NothingDelivered env event := by
  have hentry : env.user.bind env.getpwnam = some passwd := by simp [huser, hpasswd]
  have hstep : ∀ process event, process.credentials = {} → Process.NothingDelivered env event →
      (Process.fire env process event).credentials = {} := by
    intro process event hproc hnothing
    rw [Process.fire_eq hentry huid hgid hproc, if_pos hnothing.2]
  refine (Along.iff_while (I := fun process : Process => process.credentials = {}) hstep ?_ rfl).trans
    Along.forall_iff
  exact fun process event hproc => Process.impersonates_iff hentry huid hgid hproc

/-- Without plugins nothing is delivered. -/
theorem callbacks_impersonated_without_plugins :
    Along (Process.fire { Sample.environment with plugins := [] })
      (Process.Impersonates { Sample.environment with plugins := [] } ⟨1000, 1000⟩) {} [.create, .connect] :=
  (callbacks_impersonated_iff { Sample.environment with plugins := [] } "alice" ⟨1000, 1000⟩ rfl rfl (by decide)
    (by decide) [.create, .connect]).mpr fun _ _ => ⟨nofun, rfl⟩

/-- The first callback already runs with the group of root. -/
theorem callbacks_not_impersonated :
    ¬Along (Process.fire Sample.environment) (Process.Impersonates Sample.environment ⟨1000, 1000⟩) {}
      [.create] := by
  intro h
  have hdelivered := h.1.1
  rw [fireSessionEvent] at hdelivered
  exact absurd ((Along.append_iff.mp (Along.append_iff.mp hdelivered).1).2.1 rfl).2 (by decide)

end FreeRDS.ChannelServer
