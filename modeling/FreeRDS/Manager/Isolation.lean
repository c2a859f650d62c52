import FreeRDS.Manager.Steps

/-! # Session isolation

A user session is shown to a connection in two ways: by the answer to a LogonUser request,
and by a SwitchTo call of a queued task. The connection has been authenticated as the owner
of the session when the task is queued; what happens to the connection until the task runs
decides whether it still is.
-/

namespace FreeRDS.Manager

open Std Lib Prog ApplicationContext

/-! ## Handing out an endpoint -/

/-- The pipe of a session, given to whoever is behind a connection id. -/
structure HandOut where
  connectionId : UInt32
  endpoint : String
  session : Ptr

def System.handOuts (config : Config) (sys : System) : Event → List HandOut
  | .logonUser answers request =>
    let reply := (((CallInLogonUser.decodeRequest request).doStuff config answers).run sys.manager).1
    reply.session.toList.map fun p => ⟨request.connectionId, reply.pipeName, p⟩
  | .runTask =>
    match sys.nextTask with
    | some (.switchTo task) => [⟨task.connectionId, task.serviceEndpoint, task.newSession⟩]
    | _ => []
  | _ => []

/-- Whoever gets the endpoint of a user session is authenticated as its owner. -/
def System.Isolated (config : Config) (sys : System) (event : Event) : Prop :=
  ∀ out ∈ sys.handOuts config event,
    ((sys.step config event).manager.session out.session).authSession = false →
      (sys.step config event).manager.Entitled out.connectionId out.session

instance (config : Config) (sys : System) (event : Event) : Decidable (sys.Isolated config event) :=
  inferInstanceAs (Decidable (∀ out ∈ sys.handOuts config event, _ → _))

def ApplicationContext.pendingSwitches (m : ApplicationContext) : List TaskSwitchTo :=
  m.tasks.filterMap fun
    | .switchTo task => some task
    | _ => none

theorem mem_pendingSwitches {m : ApplicationContext} {task : TaskSwitchTo} :
    task ∈ m.pendingSwitches ↔ .switchTo task ∈ m.tasks := by
  unfold pendingSwitches
  rw [List.mem_filterMap]
  constructor
  · rintro ⟨other, hother, h⟩
    cases other <;> cases h
    exact hother
  · exact fun h => ⟨_, h, rfl⟩

variable (sys : System) (event : Event)

/-- The event drops a connection that a queued switch is meant for. -/
def Event.DropsPending : Prop :=
  ∃ task ∈ sys.manager.pendingSwitches, event.drops sys task.connectionId = true

instance (sys : System) (event : Event) : Decidable (event.DropsPending sys) :=
  inferInstanceAs (Decidable (∃ task ∈ sys.manager.pendingSwitches, _))

/-! ## What one action keeps -/

section Step

variable {config : Config} {sys : System} {event : Event} {m : ApplicationContext} {β : Type}
  {action : Action β}

theorem Performs.authenticated (h : Performs config sys event action m) {connectionId : UInt32}
    {q : Ptr}
    {username domain : String} (hkeep : event.drops sys connectionId = false)
    (hq : m.connectionStore.getConnection connectionId = some q)
    (hacc : (m.connection q).account = (0, username, domain)) :
    (action.exec m).2.connectionStore.getConnection connectionId = some q ∧
      ((action.exec m).2.connection q).account = (0, username, domain) := by
  have hset : ∀ r method, ((m.connection q).call method).account = (m.connection q).account →
      ((m.setConnection r method).connection q).account = (0, username, domain) := by
    intro r method hcall
    rw [connection_setConnection]
    split
    · rw [hcall, hacc]
    · exact hacc
  cases action with
  | getOrCreateConnection other =>
    obtain ⟨hstored, hcell⟩ := ConnectionStore.getOrCreateConnection_keeps hq other
    refine ⟨hstored, ?_⟩
    simpa [Action.exec, connection, hcell] using hacc
  | removeConnection other =>
    refine ⟨ConnectionStore.removeConnection_keeps hq ?_, hacc⟩
    rintro rfl
    exact absurd h (by simp [Performs, hkeep])
  | resetConnections =>
    cases h
    cases hkeep
  | authenticateUser r config answers user domain password =>
    refine ⟨hq, hset r _ ?_⟩
    have hstat : (m.connection q).authStatus = 0 := congrArg (·.1) hacc
    simp [Connection.authenticateUser_again hstat]
  | setSessionId r sessionId | setAbout2SwitchSessionId r sessionId | setClientInformation r information =>
    exact ⟨hq, hset r _ (by simp)⟩
  | addTask task => simpa [Action.exec] using ⟨hq, hacc⟩
  | _ => exact ⟨hq, hacc⟩

theorem Performs.keeps_account (h : Performs config sys event action m) {p : Ptr}
    (hlt : p < m.sessionStore.heap.next) (hold : m.tasks = sys.manager.tasks → ¬sys.Fresh p) :
    ((action.exec m).2.session p).account = (m.session p).account := by
  obtain hsame | ⟨-, hp, -⟩ | ⟨method, hcall, hcalled⟩ := action.exec_session m p
  · rw [hsame]
  · exact absurd hlt (hp ▸ Nat.lt_irrefl _)
  rw [hcalled]
  cases action with
  | setSession q setter =>
    cases hcall
    rcases h with ⟨hfresh, htasks, -⟩ | hacc
    · exact absurd hfresh (hold htasks)
    · exact hacc
  | setConnectState q state | generateUserToken q answers | generateEnvBlockAndModify q answers
  | generateAuthEnvBlockAndModify q | startModule q config answers | stopModule q config =>
    cases hcall; exact Session.call_account _ nofun
  | _ => cases hcall

/-- The connection of a queued switch is authenticated as the owner of the new session. -/
def ApplicationContext.SwitchesEntitled (m : ApplicationContext) : Prop :=
  ∀ task, .switchTo task ∈ m.tasks →
    task.newSession < m.sessionStore.heap.next ∧ m.Entitled task.connectionId task.newSession

/-- The switches queued before the event, none of which it endangers, and those it queues. -/
def PendingKept (sys : System) (event : Event) (m : ApplicationContext) : Prop :=
  m.SwitchesEntitled ∧ ∀ task, .switchTo task ∈ m.tasks → event.drops sys task.connectionId = false

theorem Performs.pendingKept (h : Performs config sys event action m)
    (hsys : sys.manager.SwitchesEntitled)
    (hm : PendingKept sys event m) : PendingKept sys event (action.exec m).2 := by
  have hold : ∀ task, .switchTo task ∈ m.tasks →
      event.drops sys task.connectionId = false ∧
      task.newSession < (action.exec m).2.sessionStore.heap.next ∧
      (action.exec m).2.Entitled task.connectionId task.newSession := by
    intro task htask
    obtain ⟨hlt, q, hq, hacc⟩ := hm.1 task htask
    have hkeep := hm.2 task htask
    obtain ⟨hq', hacc'⟩ := h.authenticated hkeep hq hacc
    have hses := h.keeps_account hlt fun htasks hfresh =>
      absurd (hsys task (htasks ▸ htask)).1 (Nat.not_lt.mpr hfresh)
    exact ⟨hkeep, Nat.lt_of_lt_of_le hlt (action.next_le m), .of_accounts _ _ _ hq' hacc' hses⟩
  have hall : ∀ task, .switchTo task ∈ (action.exec m).2.tasks →
      event.drops sys task.connectionId = false ∧
      task.newSession < (action.exec m).2.sessionStore.heap.next ∧
      (action.exec m).2.Entitled task.connectionId task.newSession := by
    cases action with
    | addTask other =>
      intro task htask
      rcases m.mem_addTask_tasks other htask with hmem | rfl
      · exact hold task hmem
      · exact ⟨h.1 task.connectionId, by simpa [Action.exec] using h.2⟩
    | _ => exact hold
  exact ⟨fun task htask => (hall task htask).2, fun task htask => (hall task htask).1⟩

end Step

theorem Event.prepare_connectionStore :
    (event.prepare sys).connectionStore = sys.manager.connectionStore := by
  cases event with
  | runTask =>
    simp only [prepare]
    split <;> rfl
  | _ => rfl

theorem Event.entitled_prepare (connectionId : UInt32) (p : Ptr) :
    (event.prepare sys).Entitled connectionId p ↔ sys.manager.Entitled connectionId p := by
  simp [ApplicationContext.Entitled, connection, prepare_connectionStore, session_prepare]

theorem System.step_switchesEntitled {config : Config} {sys : System} {event : Event}
    (hev : ¬event.DropsPending sys) (hsys : sys.manager.SwitchesEntitled) :
    (sys.step config event).manager.SwitchesEntitled := by
  refine ((handler_performs config sys event).invariant (I := PendingKept sys event)
    (fun action m h hm => h.pendingKept hsys hm) ⟨?_, ?_⟩).1
  · intro task htask
    have h := hsys task (Event.mem_prepare_tasks htask)
    rwa [event.prepare_sessionStore, event.entitled_prepare]
  · intro task htask
    have hmem := mem_pendingSwitches.mpr (Event.mem_prepare_tasks htask)
    exact Bool.eq_false_iff.mpr fun hdrops => hev ⟨task, hmem, hdrops⟩

theorem System.isolated {config : Config} {sys : System} (hsys : sys.manager.SwitchesEntitled)
    (event : Event) : sys.Isolated config event := by
  intro out hout hauth
  cases event with
  | logonUser answers request =>
    have hwp := @logonUser_doStuff_wp config sys _ answers request rfl
    have houtc := ((wp_iff_run _).mp hwp).2
    obtain ⟨p, hp, rfl⟩ := List.mem_map.mp hout
    simp only [System.step, Event.handler, Event.prepare, run_bind, run_pure] at hauth ⊢
    exact houtc.entitled p (Option.mem_toList.mp hp) hauth
  | runTask =>
    simp only [System.handOuts] at hout
    split at hout
    · rename_i task hnext
      cases List.mem_singleton.mp hout
      have hent := (hsys task (sys.nextTask_mem hnext)).2
      simp only [System.step, Event.handler, hnext, Event.beginTask, run_pure]
      exact (Event.entitled_prepare sys .runTask _ _).mpr hent
    · cases hout
  | _ => cases hout

/-- Along every run in which no connection is dropped while a switch for it is queued, an
endpoint of a user session only goes to a connection authenticated as its owner. -/
theorem session_isolation (config : Config) (events : List Event)
    (h : Along (System.step config) (fun sys event => ¬event.DropsPending sys) System.init events) :
    Along (System.step config) (fun sys event => sys.Isolated config event) System.init events := by
  refine h.of_invariant (I := fun sys => sys.manager.SwitchesEntitled) ?_ ?_ nofun
  · exact fun sys event hsys hev => System.step_switchesEntitled hev hsys
  · exact fun sys event hsys _ => System.isolated hsys event

namespace Sample

/-- Alice's greeter logs on and the switch to the user session is made at once. -/
def promptSwitch : List Event :=
  [.startTaskExecutor, logon 1 "alice" "wrong", fdsApiLogon 1 "alice", .runTask, .callAnswered 0 false]

/-- Before the switch is made freerds goes away, comes back and numbers bob's connection 1. -/
def lateSwitch : List Event :=
  [.startTaskExecutor, logon 1 "alice" "wrong", fdsApiLogon 1 "alice", .rpcDisconnected,
    logon 1 "bob" "secret", .runTask]

end Sample

theorem session_isolation_prompt :
    Along (System.step Sample.config) (fun sys event => sys.Isolated Sample.config event)
      System.init Sample.promptSwitch :=
  session_isolation Sample.config _ (by decide +kernel)

theorem switch_shows_other_users_session :
    ¬Along (System.step Sample.config) (fun sys event => sys.Isolated Sample.config event)
      System.init Sample.lateSwitch := by
  decide +kernel

/-! ## What a whole run keeps -/

section

variable (config : Config) (sys : System)

theorem System.step_account {p : Ptr} (h : p < sys.manager.sessionStore.heap.next) (event : Event) :
    p < (sys.step config event).manager.sessionStore.heap.next ∧
      ((sys.step config event).manager.session p).account = (sys.manager.session p).account := by
  refine (handler_performs config sys event).invariant (I := fun m => p < m.sessionStore.heap.next ∧
    (m.session p).account = (sys.manager.session p).account) (fun action m hperf hm => ⟨?_, ?_⟩) ?_
  · exact Nat.lt_of_lt_of_le hm.1 (action.next_le m)
  · exact (hperf.keeps_account hm.1 fun _ hfresh => absurd h (Nat.not_lt.mpr hfresh)).trans hm.2
  · simpa [event.prepare_sessionStore, event.session_prepare] using h

/-- From the end of the request that makes a session on, it stays the session of the same user. -/
theorem session_owner_fixed {p : Ptr} (h : p < sys.manager.sessionStore.heap.next) (events : List Event) :
    ((events.foldl (System.step config) sys).manager.session p).account = (sys.manager.session p).account := by
  induction events generalizing sys with
  | nil => rfl
  | cons event events ih =>
    obtain ⟨hlt, hsame⟩ := sys.step_account config h event
    exact (ih _ hlt).trans hsame

theorem session_owner_fixed_late :
    let sys := System.after Sample.config (Sample.lateSwitch.take 2)
    ((Sample.promptSwitch.foldl (System.step Sample.config) sys).manager.session 0).account =
      (sys.manager.session 0).account :=
  session_owner_fixed Sample.config _ (by decide +kernel) Sample.promptSwitch

def System.taken : Event → List Task
  | .runTask => sys.nextTask.toList
  | _ => []

/-- The tasks that the executor takes in a run. -/
def System.takenTasks : System → List Event → List Task
  | _, [] => []
  | sys, event :: events => sys.taken event ++ takenTasks (sys.step config event) events

theorem System.tasks_prefix_step (event : Event) :
    sys.manager.tasks <+: sys.taken event ++ (sys.step config event).manager.tasks := by
  have hprepared : sys.taken event ++ (event.prepare sys).tasks = sys.manager.tasks := by
    cases event with
    | runTask =>
      cases hwait : sys.waiting <;> cases hrun : sys.manager.running <;> cases htasks : sys.manager.tasks <;>
        simp [taken, Event.prepare, nextTask, hwait, hrun, htasks]
    | _ => rfl
  rw [← hprepared, List.prefix_append_right_inj]
  refine (handler_performs config sys event).invariant (I := fun m => (event.prepare sys).tasks <+: m.tasks) ?_
    (List.prefix_refl _)
  rintro _ action m - hm
  cases action with
  | addTask task =>
    simp only [exec_action, Action.exec, ApplicationContext.addTask]
    split
    · exact hm.trans (List.prefix_append _ _)
    · exact hm
  | _ => exact hm

end

end FreeRDS.Manager
