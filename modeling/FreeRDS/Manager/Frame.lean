import FreeRDS.Manager.State

/-! # What an action leaves alone

The projections of the manager after one change, and for each action the parts of
the state it cannot touch.
-/

namespace FreeRDS.Manager

open Std Lib Prog ApplicationContext

namespace ApplicationContext

variable (m : ApplicationContext) (p q : Ptr)

section SetSession

variable (method : Session.Method)

theorem session_setSession :
    (m.setSession p method).session q = if q = p then (m.session q).call method else m.session q := rfl

@[simp] theorem session_setSession_self :
    (m.setSession p method).session p = (m.session p).call method := by
  simp [session_setSession]

@[simp] theorem connection_setSession : (m.setSession p method).connection q = m.connection q := rfl

@[simp] theorem setSession_map : (m.setSession p method).sessionStore.map = m.sessionStore.map := rfl

@[simp] theorem setSession_next :
    (m.setSession p method).sessionStore.heap.next = m.sessionStore.heap.next := rfl

@[simp] theorem setSession_tasks : (m.setSession p method).tasks = m.tasks := rfl

end SetSession

section SetConnection

variable (method : Connection.Method)

theorem connection_setConnection :
    (m.setConnection p method).connection q = if q = p then (m.connection q).call method else m.connection q := rfl

@[simp] theorem connection_setConnection_self :
    (m.setConnection p method).connection p = (m.connection p).call method := by
  simp [connection_setConnection]

@[simp] theorem session_setConnection : (m.setConnection p method).session q = m.session q := rfl

@[simp] theorem setConnection_sessionStore :
    (m.setConnection p method).sessionStore = m.sessionStore := rfl

@[simp] theorem setConnection_tasks : (m.setConnection p method).tasks = m.tasks := rfl

end SetConnection

section Fire

variable (events : List SessionEvent)

@[simp] theorem session_fire : (m.fire p events).session q = m.session q := rfl

@[simp] theorem fire_sessionStore : (m.fire p events).sessionStore = m.sessionStore := rfl

@[simp] theorem fire_tasks : (m.fire p events).tasks = m.tasks := rfl

end Fire

section CreateSession

theorem session_createSession :
    m.createSession.session q =
      if q = m.sessionStore.heap.next then { sessionId := m.sessionStore.nextSessionId } else m.session q := rfl

@[simp] theorem session_createSession_self :
    m.createSession.session m.sessionStore.heap.next =
      { sessionId := m.sessionStore.nextSessionId } := by
  simp [session_createSession]

@[simp] theorem createSession_map : m.createSession.sessionStore.map =
    m.sessionStore.map.insert m.sessionStore.nextSessionId m.sessionStore.heap.next := rfl

@[simp] theorem createSession_tasks : m.createSession.tasks = m.tasks := rfl

end CreateSession

section Stores

variable (sessionId : UInt32) (store : ConnectionStore) (task : Task)

@[simp] theorem session_removeSession : (m.removeSession sessionId).session q = m.session q := rfl

@[simp] theorem removeSession_map :
    (m.removeSession sessionId).sessionStore.map = m.sessionStore.map.erase sessionId := rfl

@[simp] theorem setConnections_self : m.setConnections m.connectionStore = m := rfl

@[simp] theorem setConnections_sessionStore :
    (m.setConnections store).sessionStore = m.sessionStore := rfl

@[simp] theorem setConnections_connectionStore : (m.setConnections store).connectionStore = store := rfl

@[simp] theorem addTask_sessionStore : (m.addTask task).2.sessionStore = m.sessionStore := by
  unfold addTask
  split <;> rfl

@[simp] theorem addTask_connectionStore : (m.addTask task).2.connectionStore = m.connectionStore := by
  unfold addTask
  split <;> rfl

@[simp] theorem session_addTask : (m.addTask task).2.session q = m.session q := by
  simp [session, addTask_sessionStore]

@[simp] theorem connection_addTask : (m.addTask task).2.connection q = m.connection q := by
  simp [connection, addTask_connectionStore]

theorem mem_addTask_tasks {other : Task} (h : other ∈ (m.addTask task).2.tasks) :
    other ∈ m.tasks ∨ other = task := by
  unfold addTask at h
  split at h
  · exact List.mem_append.mp h |>.imp_right List.mem_singleton.mp
  · exact .inl h

end Stores

theorem session_congr {m m' : ApplicationContext} (h : m'.sessionStore = m.sessionStore) (p : Ptr) :
    m'.session p = m.session p := by
  simp [session, h]

theorem getSession_sessionId {id : UInt32} (h : m.sessionStore.getSession id = some p) :
    (m.session p).sessionId = id := (m.sessionStore.stored h).2

def Stores (m : ApplicationContext) (p : Ptr) : Prop := ∃ id, m.sessionStore.getSession id = some p

theorem not_stores_removeSession : ¬(m.removeSession (m.session p).sessionId).Stores p := by
  rintro ⟨id, hid⟩
  have hsame := getSession_sessionId _ p hid
  rw [session_removeSession] at hsame
  subst hsame
  simp [SessionStore.getSession] at hid

theorem addTask_eq_of_tasks {m : ApplicationContext} {tasks : List Task} {task task' : Task}
    (htasks : m.tasks = tasks) (h : (m.addTask task).2.tasks = tasks ++ [task']) : task = task' := by
  subst htasks
  unfold addTask at h
  split at h
  · simpa using h
  · simp at h

end ApplicationContext

/-! ## Sessions -/

def Action.sessionCall {β : Type} (m : ApplicationContext) : Action β → Option (Ptr × Session.Method)
  | .setSession p setter => some (p, .set setter)
  | .setConnectState p state => some (p, .setConnectState m.clock state)
  | .generateUserToken p answers => some (p, .generateUserToken answers)
  | .generateEnvBlockAndModify p answers => some (p, .generateEnvBlockAndModify answers)
  | .generateAuthEnvBlockAndModify p => some (p, .generateAuthEnvBlockAndModify)
  | .startModule p config answers => some (p, .startModule config answers m.clock)
  | .stopModule p config => some (p, .stopModule config m.clock)
  | _ => none

def Action.creates {β : Type} : Action β → Bool
  | .createSession => true
  | _ => false

variable {β : Type} (action : Action β) (m : ApplicationContext)

theorem Action.exec_session (p : Ptr) :
    (action.exec m).2.session p = m.session p ∨
    action.creates = true ∧ p = m.sessionStore.heap.next ∧
      (action.exec m).2.session p = { sessionId := m.sessionStore.nextSessionId } ∨
    ∃ method, action.sessionCall m = some (p, method) ∧
      (action.exec m).2.session p = (m.session p).call method := by
  have hset : ∀ q method, action.sessionCall m = some (q, method) →
      (action.exec m).2.session p = (m.setSession q method).session p →
      (action.exec m).2.session p = m.session p ∨
        ∃ method', action.sessionCall m = some (p, method') ∧
          (action.exec m).2.session p = (m.session p).call method' := by
    intro q method hcall hexec
    rw [hexec, session_setSession]
    split
    · rename_i hpq
      exact .inr ⟨method, hpq ▸ hcall, rfl⟩
    · exact .inl rfl
  cases action with
  | createSession =>
    simp only [exec, session_createSession]
    split
    · rename_i hp
      exact .inr (.inl ⟨rfl, hp, rfl⟩)
    · exact .inl rfl
  | addTask task => simp [exec]
  | setSession q setter | setConnectState q state | generateUserToken q answers
  | generateEnvBlockAndModify q answers | generateAuthEnvBlockAndModify q | startModule q config answers
  | stopModule q config => exact (hset q _ rfl rfl).imp_right .inr
  | _ => exact .inl rfl

/-- A fact about each session on its own is kept by an action that creates sessions with it and
calls methods that keep it. -/
theorem Action.exec_sessions {β : Type} {Φ : Session → Prop} (action : Action β)
    (m : ApplicationContext)
    (hm : ∀ p, Φ (m.session p)) (hnew : ∀ id, Φ { sessionId := id })
    (hcall : ∀ p method, action.sessionCall m = some (p, method) → Φ ((m.session p).call method)) :
    ∀ p, Φ ((action.exec m).2.session p) := by
  intro p
  obtain hsame | ⟨-, -, hcreated⟩ | ⟨method, hmethod, hcalled⟩ := action.exec_session m p
  · exact hsame ▸ hm p
  · exact hcreated ▸ hnew _
  · exact hcalled ▸ hcall p method hmethod

theorem Action.exec_stored {id : UInt32}
    {p : Ptr}
    (h : (action.exec m).2.sessionStore.getSession id = some p) :
    m.sessionStore.getSession id = some p ∨
      action.creates = true ∧ id = m.sessionStore.nextSessionId := by
  cases action with
  | createSession =>
    by_cases hid : id = m.sessionStore.nextSessionId
    · exact .inr ⟨rfl, hid⟩
    · refine .inl ?_
      simpa [exec, SessionStore.getSession, TreeMap.getElem?_insert, Ne.symm hid] using h
  | removeSession sessionId =>
    simp only [exec, SessionStore.getSession, removeSession_map,
      TreeMap.getElem?_erase] at h
    split at h
    · cases h
    · exact .inl h
  | addTask task => exact .inl (by simpa [exec] using h)
  | _ => exact .inl h

theorem Action.next_le :
    m.sessionStore.heap.next ≤ (action.exec m).2.sessionStore.heap.next := by
  cases action with
  | createSession => exact Nat.le_succ _
  | addTask task => simp [Action.exec]
  | _ => exact Nat.le_refl _

/-- Nothing changed but the session behind `p`, and what was fired. -/
structure OnlySession (p : Ptr) (m m' : ApplicationContext) : Prop where
  map : m'.sessionStore.map = m.sessionStore.map
  next : m'.sessionStore.heap.next = m.sessionStore.heap.next
  nextSessionId : m'.sessionStore.nextSessionId = m.sessionStore.nextSessionId
  others : ∀ q, q ≠ p → m'.session q = m.session q
  connectionStore : m'.connectionStore = m.connectionStore
  tasks : m'.tasks = m.tasks
  running : m'.running = m.running
  clock : m'.clock = m.clock

namespace OnlySession

variable {p : Ptr} {m m' m'' : ApplicationContext}

theorem refl (p : Ptr) (m : ApplicationContext) : OnlySession p m m :=
  ⟨rfl, rfl, rfl, fun _ _ => rfl, rfl, rfl, rfl, rfl⟩

theorem trans (h : OnlySession p m m') (h' : OnlySession p m' m'') : OnlySession p m m'' where
  map := h'.map.trans h.map
  next := h'.next.trans h.next
  nextSessionId := h'.nextSessionId.trans h.nextSessionId
  others q hq := (h'.others q hq).trans (h.others q hq)
  connectionStore := h'.connectionStore.trans h.connectionStore
  tasks := h'.tasks.trans h.tasks
  running := h'.running.trans h.running
  clock := h'.clock.trans h.clock

theorem setSession (h : OnlySession p m m') (method : Session.Method) :
    OnlySession p m (m'.setSession p method) where
  map := h.map
  next := h.next
  nextSessionId := h.nextSessionId
  others q hq := by rw [session_setSession, if_neg hq, h.others q hq]
  connectionStore := h.connectionStore
  tasks := h.tasks
  running := h.running
  clock := h.clock

end OnlySession

@[simp] theorem exec_action :
    Lib.exec action m = action.exec m := rfl

end FreeRDS.Manager
