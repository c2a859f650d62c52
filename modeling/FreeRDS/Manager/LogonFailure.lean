import FreeRDS.Manager.Steps

/-! # Logons that fail

A LogonUser or StartSession request reports an error when the token, the environment or
the module of a session cannot be had. By then the session is in the store, and no
path takes it out again.
-/

namespace FreeRDS.Manager

open Std Lib Prog

namespace ApplicationContext

/-- The id of the session a connection shows, if the connection is known. -/
def sessionIdOf (m : ApplicationContext) (connectionId : UInt32) : Option UInt32 :=
  (m.connectionStore.getConnection connectionId).map fun q => (m.connection q).sessionId

/-- The same sessions in the same states, and the same session for the connection. -/
structure SameSessions (m m' : ApplicationContext) (connectionId : UInt32) : Prop where
  stores : ∀ p, m'.Stores p ↔ m.Stores p
  states : ∀ p, m.Stores p → (m'.session p).currentState = (m.session p).currentState
  sessionId : m'.sessionIdOf connectionId = m.sessionIdOf connectionId

theorem stores_next_of_insert {m m' : ApplicationContext}
    (h : m'.sessionStore.map = m.sessionStore.map.insert m.sessionStore.nextSessionId m.sessionStore.heap.next) :
    m'.Stores m.sessionStore.heap.next ∧ ¬m.Stores m.sessionStore.heap.next := by
  constructor
  · refine ⟨m.sessionStore.nextSessionId, ?_⟩
    rw [SessionStore.getSession, h, TreeMap.getElem?_insert_self]
  · intro hstored
    obtain ⟨id, hid⟩ := hstored
    exact Nat.lt_irrefl _ (m.sessionStore.stored hid).1

theorem not_sameSessions_of_insert {m m' : ApplicationContext} {connectionId : UInt32}
    (h : m'.sessionStore.map = m.sessionStore.map.insert m.sessionStore.nextSessionId m.sessionStore.heap.next) :
    ¬SameSessions m m' connectionId := by
  intro hsame
  obtain ⟨hnew, hold⟩ := stores_next_of_insert h
  exact hold ((hsame.stores _).mp hnew)

end ApplicationContext

/-- Whatever the state and the request: when the call result is a failure, the session created
for the request has stayed in the store. -/
theorem failed_logon_keeps_session (config : Config) (answers : Answers) (m : ApplicationContext) :
    (∀ request : LogonUserRequest,
      let done := ((CallInLogonUser.decodeRequest request).doStuff config answers).run m
      done.1.result ≠ 0 → ¬m.SameSessions done.2 request.connectionId) ∧
    ∀ request : StartSessionRequest,
      let done := ((CallInAuthenticateUser.decodeRequest request).doStuff config answers).run m
      done.1.result ≠ 0 →
        ¬m.SameSessions done.2 (m.connectionStore.getConnectionIdForSessionId request.sessionId) := by
  constructor
  · intro request done hfail
    have hwp := @logonUser_doStuff_wp config ⟨m, none⟩ _ answers request rfl
    have houtc := ((wp_iff_run _).mp hwp).2
    exact ApplicationContext.not_sameSessions_of_insert (houtc.failed hfail)
  · intro request done hfail
    have hwp := @startSession_doStuff_wp config ⟨m, none⟩ _ answers request rfl
    have houtc := ((wp_iff_run _).mp hwp).2
    exact ApplicationContext.not_sameSessions_of_insert (houtc.1 hfail)

namespace Sample

def moduleless : Answers := { answers with start := fun _ _ => none }

def greeted : ApplicationContext := (System.after config [logon 1 "alice" "wrong"]).manager

def startRequest : StartSessionRequest where
  sessionId := 1
  user := some "alice"
  domain := none
  password := some "secret"

end Sample

theorem failed_logon_keeps_session_greeted :
    ¬Sample.greeted.SameSessions
      (((CallInLogonUser.decodeRequest (Sample.logonRequest 2 "bob" "secret")).doStuff Sample.config
        Sample.moduleless).run Sample.greeted).2 2 ∧
    ¬Sample.greeted.SameSessions
      (((CallInAuthenticateUser.decodeRequest Sample.startRequest).doStuff Sample.config
        Sample.moduleless).run Sample.greeted).2
      (Sample.greeted.connectionStore.getConnectionIdForSessionId 1) :=
  ⟨(failed_logon_keeps_session Sample.config Sample.moduleless Sample.greeted).1
      (Sample.logonRequest 2 "bob" "secret") (by decide +kernel),
    (failed_logon_keeps_session Sample.config Sample.moduleless Sample.greeted).2
      Sample.startRequest (by decide +kernel)⟩

/-- On empty stores a logon without a module ends with a session that was not there before. -/
theorem failed_logon_not_atomic :
    let done := ((CallInLogonUser.decodeRequest (Sample.logonRequest 1 "alice" "secret")).doStuff Sample.config
      Sample.moduleless).run ApplicationContext.init
    done.1.result = 1 ∧ ¬ApplicationContext.init.SameSessions done.2 1 := by
  refine ⟨by decide +kernel, fun hsame => ?_⟩
  obtain ⟨id, hid⟩ := (hsame.stores 0).mp ⟨1, by decide +kernel⟩
  simp [ApplicationContext.init, SessionStore.empty, SessionStore.getSession] at hid

end FreeRDS.Manager
