import FreeRDS.Manager.Steps

/-! # Rolling back a failed switch

`cleanUpOnError` decides by the connect state whether the new session was created for the
switch or taken over from an earlier logon. The two producers of the task leave the session
in different states.
-/

namespace FreeRDS.Manager

open Std Lib Prog ApplicationContext

variable {config : Config} {m : ApplicationContext}

theorem switchTo_failed_wp (config : Config) (task : TaskSwitchTo) (call : CallOutSwitchTo)
    (hcall : TaskSwitchTo.switchFailed call = true) {p : Ptr}
    (hstored : m.sessionStore.getSession task.newSessionId = some p) :
    (task.resume config call).wp (fun _ _ => True)
      (fun _ m' => m'.sessionStore = (m.rollBack config p).sessionStore) m := by
  have hwp := @cleanUpOnError_wp config ⟨m, none⟩ (.callAnswered 0 false) m rfl task
  unfold TaskSwitchTo.resume
  rw [if_pos hcall]
  exact (hwp.weaken fun _ _ _ => trivial).mono fun _ _ h => h.2 p hstored

/-! ## The roll-back -/

/-- A request that queues a switch, up to the moment at which the switch fails. The executor may
overtake an FDSAPI worker before it has marked the session active. -/
inductive SwitchProducer
  | startSession (answers : Answers) (request : StartSessionRequest)
  | fdsApi (answers : Answers) (request : FDSApiCredentials) (markedActive : Bool)

namespace SwitchProducer

def program (config : Config) : SwitchProducer → Handler Unit
  | .startSession answers request => do
      let _ ← (CallInAuthenticateUser.decodeRequest request).doStuff config answers
  | .fdsApi answers request true => do
      let _ ← FDSApiHandler.authenticateUser config answers request
  | .fdsApi answers request false => do
      let _ ← FDSApiHandler.prepareSwitch config answers request

/-- The session that the request reattaches; without one it creates a session. -/
def found (config : Config) (m : ApplicationContext) : SwitchProducer → Option Ptr
  | .startSession answers request => (Event.startSession answers request).reattaches config m
  | .fdsApi answers request _ => (Event.authenticateUser answers request).reattaches config m

def markedActive : SwitchProducer → Bool
  | .startSession _ _ => false
  | .fdsApi _ _ markedActive => markedActive

def leaves (found : Option Ptr) : SwitchProducer → ConnectState
  | .startSession _ _ => if found.isSome then .connectQuery else .connected
  | .fdsApi _ _ true => .active
  | .fdsApi _ _ false => if found.isSome then .disconnected else .connected

variable (producer : SwitchProducer)

theorem leaves_none :
    producer.leaves none ≠ .connectQuery ∧ (producer.leaves none = .active ↔ producer.markedActive = true) := by
  rcases producer with _ | ⟨_, _, _ | _⟩ <;> simp [leaves, markedActive]

theorem leaves_some (p : Ptr) :
    (producer.leaves (some p) = .active ∨ producer.leaves (some p) = .connectQuery ∨
      producer.leaves (some p) = .disconnected) ∧
    (producer.leaves (some p) ≠ .active ↔ producer.markedActive = false) := by
  rcases producer with _ | ⟨_, _, _ | _⟩ <;> simp [leaves, markedActive]

theorem queues :
    (producer.program config).wp (fun _ _ => True)
      (fun _ m' => ∀ task, m'.tasks = m.tasks ++ [.switchTo task] →
        SwitchTarget config m m' task (producer.found config m)
          (producer.leaves (producer.found config m))) m := by
  match producer with
  | .startSession answers request =>
    have hwp := @startSession_doStuff_wp config ⟨m, none⟩ _ answers request rfl
    exact (wp_bind _ _).mpr ((hwp.weaken fun _ _ _ => trivial).mono fun _ _ h => h.2)
  | .fdsApi answers request true =>
    have hwp := @fdsApi_authenticateUser_wp config ⟨m, none⟩ _ answers request rfl
    exact (wp_bind _ _).mpr ((hwp.weaken fun _ _ _ => trivial).mono fun _ _ h => h)
  | .fdsApi answers request false =>
    have hwp := @fdsApi_prepareSwitch_wp config ⟨m, none⟩ _ answers request rfl
    exact (wp_bind _ _).mpr ((hwp.weaken fun _ _ _ => trivial).mono fun _ _ h task htask => (h.2 task htask).2)

/-- `cleanUpOnError` takes an active session for a new one and no other. -/
def Recoverable (config : Config) (m : ApplicationContext) (producer : SwitchProducer) : Prop :=
  (∀ p ∈ producer.found config m, producer.markedActive = false ∧ (m.session p).HasModule) ∧
    (producer.found config m = none → producer.markedActive = true)

instance (config : Config) (m : ApplicationContext) (producer : SwitchProducer) :
    Decidable (producer.Recoverable config m) :=
  inferInstanceAs (Decidable ((∀ p ∈ producer.found config m, _ ∧ _) ∧ (_ → _)))

end SwitchProducer

/-- The new session is still as the producer of the switch left it. -/
structure KeptSince (m m' : ApplicationContext) (task : TaskSwitchTo) : Prop where
  stored : m'.sessionStore.getSession task.newSessionId = m.sessionStore.getSession task.newSessionId
  session : m'.session task.newSession = m.session task.newSession

/-- From the state `m` before the request to the state `m'` after the failed switch. -/
structure RolledBack (m m' : ApplicationContext) (task : TaskSwitchTo) : Prop where
  created : ¬(m'.session task.newSession).HasModule ∧ ¬m'.Stores task.newSession ↔
    m.sessionStore.heap.next ≤ task.newSession
  reattached : task.newSession < m.sessionStore.heap.next → m'.Stores task.newSession ∧
    (m'.session task.newSession).HasModule ∧ (m'.session task.newSession).currentState = .disconnected

section RollBack

variable (config) {p : Ptr}

theorem rollBack_active (h : (m.session p).currentState = .active) :
    ¬(m.rollBack config p).Stores p ∧
      ((m.session p).Stoppable config → ¬((m.rollBack config p).session p).HasModule) := by
  simp only [rollBack, h]
  constructor
  · have hremoved := (m.setSession p (.stopModule config m.clock)).not_stores_removeSession p
    simpa using hremoved
  · intro hstop
    simpa using Session.stopModule_of_stoppable config m.clock _ hstop

theorem rollBack_connectQuery (h : (m.session p).currentState = .connectQuery) :
    ((m.rollBack config p).Stores p ↔ m.Stores p) ∧
      ((m.rollBack config p).session p).currentState = .disconnected ∧
      (((m.rollBack config p).session p).HasModule ↔ (m.session p).HasModule) := by
  simp only [rollBack, h]
  exact ⟨.rfl, by simp, by simp⟩

theorem rollBack_other (hact : (m.session p).currentState ≠ .active)
    (hquery : (m.session p).currentState ≠ .connectQuery) : m.rollBack config p = m := by
  unfold rollBack
  split
  · exact absurd ‹_› hact
  · exact absurd ‹_› hquery
  · rfl

end RollBack

section Target

variable {m' m'' : ApplicationContext} {task : TaskSwitchTo} {found : Option Ptr} {state : ConnectState}

theorem RolledBack.congr (h : m'.sessionStore = m''.sessionStore) :
    RolledBack m m' task ↔ RolledBack m m'' task := by
  have hiff : ∀ {a b : ApplicationContext}, a.sessionStore = b.sessionStore → RolledBack m a task →
      RolledBack m b task := by
    intro a b hab ⟨hcreated, hreattached⟩
    simp only [session, ApplicationContext.Stores, hab] at hcreated hreattached
    exact ⟨hcreated, hreattached⟩
  exact ⟨hiff h, hiff h.symm⟩

theorem SwitchTarget.kept (h : SwitchTarget config m m' task found state)
    (hkept : KeptSince m' m'' task) :
    SwitchTarget config m m'' task found state where
  stored := hkept.stored.trans h.stored
  state := (congrArg _ hkept.session).trans h.state
  reattached p hp := by
    obtain ⟨rfl, hlt, hmod⟩ := h.reattached p hp
    exact ⟨rfl, hlt, by rwa [hkept.session]⟩
  created hnone := by
    rw [hkept.session]
    exact h.created hnone

theorem SwitchTarget.rolledBack_created (h : SwitchTarget config m m' task none state)
    (hquery : state ≠ .connectQuery) :
    RolledBack m (m'.rollBack config task.newSession) task ↔ state = .active := by
  obtain ⟨hnext, hmod, hstop⟩ := h.created rfl
  constructor
  · intro hrolled
    by_contra hact
    have hsame : m'.rollBack config task.newSession = m' :=
      rollBack_other config (h.state ▸ hact) (h.state ▸ hquery)
    rw [hsame] at hrolled
    exact (hrolled.created.mpr hnext).1 hmod
  · rintro rfl
    obtain ⟨hremoved, hstopped⟩ := rollBack_active config h.state
    exact ⟨iff_of_true ⟨hstopped hstop, hremoved⟩ hnext, fun hlt => absurd hnext (Nat.not_le.mpr hlt)⟩

theorem SwitchTarget.rolledBack_reattached {p : Ptr} (h : SwitchTarget config m m' task (some p) state)
    (hstate : state = .active ∨ state = .connectQuery ∨ state = .disconnected) :
    RolledBack m (m'.rollBack config task.newSession) task ↔
      state ≠ .active ∧ (m.session p).HasModule := by
  obtain ⟨rfl, hlt, hmod⟩ := h.reattached p rfl
  have hstored : m'.Stores task.newSession := ⟨_, h.stored⟩
  have hkeeps : state ≠ .active → (m'.rollBack config task.newSession).Stores task.newSession ∧
      ((m'.rollBack config task.newSession).session task.newSession).currentState = .disconnected ∧
      (((m'.rollBack config task.newSession).session task.newSession).HasModule ↔
        (m.session task.newSession).HasModule) := by
    intro hact
    rcases hstate with hstate | hquery | hdisc
    · exact absurd hstate hact
    · obtain ⟨hstores, hstate', hmod'⟩ := rollBack_connectQuery config (h.state.trans hquery)
      exact ⟨hstores.mpr hstored, hstate', hmod'.trans hmod⟩
    · rw [rollBack_other config (by rw [h.state, hdisc]; nofun) (by rw [h.state, hdisc]; nofun)]
      exact ⟨hstored, h.state.trans hdisc, hmod⟩
  constructor
  · intro hrolled
    obtain ⟨hstores, hmod', -⟩ := hrolled.reattached hlt
    have hact : state ≠ .active := by
      rintro rfl
      exact (rollBack_active config h.state).1 hstores
    exact ⟨hact, (hkeeps hact).2.2.mp hmod'⟩
  · rintro ⟨hact, hhas⟩
    obtain ⟨hstores, hstate', hmod'⟩ := hkeeps hact
    exact ⟨iff_of_false (fun h => h.2 hstores) (Nat.not_le.mpr hlt),
      fun _ => ⟨hstores, hmod'.mpr hhas, hstate'⟩⟩

end Target

namespace Sample

/-- Alice has a disconnected session, and a greeter is shown to connection 1. -/
def beforeSwitch : ApplicationContext :=
  (System.after Sample.config [.startTaskExecutor, logon 2 "alice" "secret", .disconnectUser 2,
    logon 1 "alice" "wrong"]).manager

def startSession : SwitchProducer := .startSession answers ⟨2, some "alice", none, some "secret"⟩

def fdsApi : SwitchProducer := .fdsApi answers ⟨2, "alice", "secret", ""⟩ true

def switchTask : TaskSwitchTo where
  connectionId := 1
  serviceEndpoint := "pipe1"
  oldSessionId := 2
  newSessionId := 1
  newSession := 0

end Sample

end FreeRDS.Manager
