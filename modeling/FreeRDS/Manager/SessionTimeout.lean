import FreeRDS.Manager.Steps

/-! # Ending expired sessions

`TaskSessionTimeout` looks at the connect state and queues a `TaskEndSession`; the task
itself looks at nothing but the session id. In between the session can be taken up again.
-/

namespace FreeRDS.Manager

open Std Lib Prog Event

/-! ## Sessions waiting for their end -/

/-- The sessions that the timeout wants to be ended, by a task in the queue or by the one that waits. -/
def System.expiredIds (sys : System) : List UInt32 :=
  (sys.waiting.bind Waiting.expiredId).toList ++ sys.manager.tasks.filterMap Task.expiredId

def Event.ends (sys : System) : Event → Option UInt32
  | .runTask => sys.nextTask.bind Task.expiredId
  | .callAnswered _ _ => sys.waiting.bind Waiting.expiredId
  | _ => none

/-- A `TaskEndSession` of the timeout leaves alone whatever is not disconnected. -/
def System.EndsDisconnected (config : Config) (sys : System) (event : Event) : Prop :=
  ∀ _id ∈ event.ends sys, ∀ p ∈ sys.manager.sessionStore.getAllSessions,
    (sys.manager.session p).currentState ≠ .disconnected →
      p ∈ (sys.step config event).manager.sessionStore.getAllSessions ∧
        (sys.step config event).manager.session p = sys.manager.session p

instance (config : Config) (sys : System) (event : Event) : Decidable (sys.EndsDisconnected config event) :=
  -- by name: the ids are a finite type, and instance search may prefer to go through all of them
  Option.decidableForallMem (event.ends sys)

/-- The event reattaches a session that waits for its end, or the id of one is up for the next
session after the counter has gone round. -/
def Event.RevivesExpired (config : Config) (sys : System) (event : Event) : Prop :=
  ∃ id ∈ sys.expiredIds, sys.manager.sessionStore.nextSessionId = id ∨
    ∃ p ∈ event.reattaches config sys.manager, (sys.manager.session p).sessionId = id

instance (config : Config) (sys : System) (event : Event) : Decidable (event.RevivesExpired config sys) :=
  List.decidableBEx _ sys.expiredIds

/-- Whatever waits for its end is disconnected, if it is still there. -/
def System.ExpiredDisconnected (sys : System) : Prop :=
  ∀ id ∈ sys.expiredIds, ∀ p, sys.manager.sessionStore.getSession id = some p →
    (sys.manager.session p).currentState = .disconnected

/-! ## Every step -/

theorem System.mem_expiredIds {sys : System} {id : UInt32} :
    id ∈ sys.expiredIds ↔ (∃ waiting, sys.waiting = some waiting ∧ waiting.expiredId = some id) ∨
      ∃ task ∈ sys.manager.tasks, task.expiredId = some id := by
  simp [System.expiredIds, Option.bind_eq_some_iff]

section Step

variable {config : Config} {sys : System} {event : Event}

theorem System.step_shrinks (hstops : event.stops = true) :
    Shrinks (event.prepare sys) (sys.step config event).manager ∧
      ∀ waiting, (sys.step config event).waiting = some waiting → sys.waiting = some waiting ∨
        ∃ task ∈ sys.manager.tasks, waiting.expiredId = task.expiredId := by
  cases event with
  | logoffUser connectionId =>
    refine ⟨?_, fun waiting h => .inl ?_⟩
    · simpa [System.step, handler, prepare] using ((wp_iff_run _).mp (logoffUser_wp connectionId rfl)).2
    · simpa [System.step, handler] using h
  | rpcDisconnected =>
    refine ⟨?_, fun waiting h => .inl ?_⟩
    · simpa [System.step, handler, prepare] using ((wp_iff_run _).mp (rpcDisconnected_wp rfl)).2
    · simpa [System.step, handler] using h
  | runTask =>
    simp only [System.step, handler]
    cases hnext : sys.nextTask with
    | none => exact ⟨.of_eq rfl rfl, fun waiting h => .inl h⟩
    | some task =>
      have hwp := @beginTask_wp config sys .runTask (runTask.prepare sys) rfl task
      obtain ⟨hshrinks, -, hwait⟩ := ((wp_iff_run _).mp hwp).2
      exact ⟨hshrinks, fun waiting h => .inr ⟨task, sys.nextTask_mem hnext, hwait waiting h⟩⟩
  | callAnswered result loggedOff =>
    simp only [System.step, handler]
    cases hwait : sys.waiting with
    | none => exact ⟨.of_eq rfl rfl, by simp⟩
    | some waiting =>
      refine ⟨?_, by simp⟩
      simpa using ((wp_iff_run _).mp (resumeTask_wp result loggedOff waiting hwait rfl)).2.1
  | _ => cases hstops

theorem System.step_waiting (hstops : event.stops = false) :
    (sys.step config event).waiting = sys.waiting := by
  cases event with
  | logoffUser connectionId | rpcDisconnected | runTask | callAnswered result loggedOff => cases hstops
  | _ => simp [System.step, handler]

/-- During an event that stops nothing: what waited for its end is what it was, and nothing new
waits. -/
structure ExpiredKept (sys : System) (m : ApplicationContext) : Prop where
  stored : ∀ id ∈ sys.expiredIds, ∀ p, m.sessionStore.getSession id = some p →
    sys.manager.sessionStore.getSession id = some p ∧ (m.session p).currentState = .disconnected
  tasks : ∀ task ∈ m.tasks, ∀ id, task.expiredId = some id → id ∈ sys.expiredIds

theorem SessionChange.disconnected {p : Ptr} {s s' : Session}
    (h : SessionChange config sys event p s s')
    (hstops : event.stops = false) (hfresh : ¬sys.Fresh p)
    (hreattaches : event.reattaches config sys.manager ≠ some p) (hs : s.currentState = .disconnected) :
    s'.currentState = .disconnected := by
  cases h with
  | keep _ state => exact state.trans hs
  | setUp fresh | start fresh | activate fresh => exact absurd fresh hfresh
  | reattach found => exact absurd found hreattaches
  | disconnect _ _ _ state' | rollBack _ _ state' => exact state'
  | stop stops => simp [stops] at hstops

theorem Performs.expiredKept {β : Type} {action : Action β} {m : ApplicationContext}
    (h : Performs config sys event action m) (hstops : event.stops = false)
    (htimeout : event ≠ .sessionTimeout)
    (hev : ¬event.RevivesExpired config sys) (hm : ExpiredKept sys m) :
    ExpiredKept sys (action.exec m).2 where
  stored id hid p hp := by
    rcases action.exec_stored m hp with hstored | ⟨hcreates, hnext⟩
    · obtain ⟨hsys, hstate⟩ := hm.stored id hid p hstored
      refine ⟨hsys, ?_⟩
      have hfresh : ¬sys.Fresh p := Nat.not_le.mpr (sys.manager.sessionStore.stored hsys).1
      obtain hsame | ⟨-, hp, -⟩ | ⟨method, hcall, hcalled⟩ := action.exec_session m p
      · rw [hsame, hstate]
      · exact absurd (m.sessionStore.stored hstored).1 (hp ▸ Nat.lt_irrefl _)
      · rw [hcalled]
        refine (h.change hcall).disconnected hstops hfresh (fun hfound => ?_) hstate
        exact hev ⟨id, hid, .inr ⟨p, hfound, sys.manager.getSession_sessionId p hsys⟩⟩
    · cases action with
      | createSession => exact absurd ⟨id, hid, .inl (h.symm.trans hnext.symm)⟩ hev
      | _ => cases hcreates
  tasks := by
    cases action with
    | addTask other =>
      intro task htask id hid
      rcases m.mem_addTask_tasks other htask with hmem | rfl
      · exact hm.tasks task hmem id hid
      · cases task with
        | endSession task =>
          simp only [Task.expiredId, TaskEndSession.expiredId] at hid
          split at hid
          · exact absurd (h ‹_›) htimeout
          · cases hid
        | _ => cases hid
    | _ => exact hm.tasks

theorem checkSessions_queues (currentTime : Int) (sessions : List Ptr) {m : ApplicationContext} :
    (TaskSessionTimeout.checkSessions config currentTime sessions).wp (fun _ _ => True) (fun _ m' =>
      m'.sessionStore = m.sessionStore ∧ ∀ task ∈ m'.tasks, task ∈ m.tasks ∨
        ∃ p ∈ sessions, (m.session p).currentState = .disconnected ∧
          task.expiredId = some (m.session p).sessionId) m := by
  induction sessions generalizing m with
  | nil => exact ⟨rfl, fun task h => .inl h⟩
  | cons p sessions ih =>
    unfold TaskSessionTimeout.checkSessions
    simp only [wp_bind, wp_perform, wp_ite, exec_action, Action.exec, true_and]
    refine ⟨fun hexp => ih.mono ?_, fun _ => ih.mono ?_⟩
    · rintro _ m' ⟨hstore, hqueued⟩
      rw [ApplicationContext.addTask_sessionStore] at hstore
      refine ⟨hstore, fun task htask => ?_⟩
      rcases hqueued task htask with hmem | ⟨q, hq, hstate, hid⟩
      · rcases m.mem_addTask_tasks _ hmem with hold | rfl
        · exact .inl hold
        · unfold Session.expired at hexp
          have hstate := of_decide_eq_true (Bool.and_eq_true_iff.mp hexp).1
          exact .inr ⟨p, List.mem_cons_self, hstate, rfl⟩
      · rw [ApplicationContext.session_addTask] at hstate hid
        exact .inr ⟨q, List.mem_cons_of_mem p hq, hstate, hid⟩
    · rintro _ m' ⟨hstore, hqueued⟩
      refine ⟨hstore, fun task htask => (hqueued task htask).imp_right ?_⟩
      rintro ⟨q, hq, h⟩
      exact ⟨q, List.mem_cons_of_mem p hq, h⟩

theorem System.timeout_expiredDisconnected (hsys : sys.ExpiredDisconnected) :
    (sys.step config .sessionTimeout).ExpiredDisconnected := by
  have hturn : (TaskSessionTimeout.turn config).wp (fun _ _ => True) (fun _ m' =>
      m'.sessionStore = sys.manager.sessionStore ∧ ∀ task ∈ m'.tasks, task ∈ sys.manager.tasks ∨
        ∃ p ∈ sys.manager.sessionStore.getAllSessions, (sys.manager.session p).currentState = .disconnected ∧
          task.expiredId = some (sys.manager.session p).sessionId) sys.manager := by
    unfold TaskSessionTimeout.turn
    simp only [wp_bind, wp_perform, true_and]
    exact checkSessions_queues _ _
  obtain ⟨hstore, hqueued⟩ := ((wp_iff_run _).mp hturn).2
  intro id hid p hp
  simp only [System.step, handler, prepare, run_bind, run_pure] at hp ⊢
  rw [hstore] at hp
  rw [ApplicationContext.session_congr hstore]
  rcases System.mem_expiredIds.mp hid with ⟨waiting, hwait, hexp⟩ | ⟨task, htask, hexp⟩
  · rw [System.step_waiting rfl] at hwait
    exact hsys id (System.mem_expiredIds.mpr (.inl ⟨waiting, hwait, hexp⟩)) p hp
  · simp only [System.step, handler, prepare, run_bind, run_pure] at htask
    rcases hqueued task htask with hold | ⟨q, hq, hstate, hid'⟩
    · exact hsys id (System.mem_expiredIds.mpr (.inr ⟨task, hold, hexp⟩)) p hp
    · obtain ⟨id', hq⟩ := SessionStore.mem_getAllSessions.mp hq
      rw [sys.manager.getSession_sessionId q hq, hexp] at hid'
      cases hid'
      cases hp.symm.trans hq
      exact hstate

theorem System.step_expiredDisconnected (hev : ¬event.RevivesExpired config sys)
    (hsys : sys.ExpiredDisconnected) : (sys.step config event).ExpiredDisconnected := by
  by_cases htimeout : event = .sessionTimeout
  · subst htimeout
    exact sys.timeout_expiredDisconnected hsys
  cases hstops : event.stops with
  | false =>
    have hkept : ExpiredKept sys (sys.step config event).manager := by
      refine (handler_performs config sys event).invariant (I := ExpiredKept sys)
        (fun action m h hm => h.expiredKept hstops htimeout hev hm) ⟨?_, ?_⟩
      · intro id hid p hp
        rw [event.prepare_sessionStore] at hp
        exact ⟨hp, by rw [event.session_prepare]; exact hsys id hid p hp⟩
      · intro task htask id hid
        exact System.mem_expiredIds.mpr (.inr ⟨task, mem_prepare_tasks htask, hid⟩)
    intro id hid p hp
    refine (hkept.stored id ?_ p hp).2
    rcases System.mem_expiredIds.mp hid with ⟨waiting, hwait, hexp⟩ | ⟨task, htask, hexp⟩
    · rw [System.step_waiting hstops] at hwait
      exact System.mem_expiredIds.mpr (.inl ⟨waiting, hwait, hexp⟩)
    · exact hkept.tasks task htask id hexp
  | true =>
    obtain ⟨hshrinks, hwait'⟩ := @System.step_shrinks config sys event hstops
    intro id hid p hp
    have hexp : id ∈ sys.expiredIds := by
      rcases System.mem_expiredIds.mp hid with ⟨waiting, hwait, hexp⟩ | ⟨task, htask, hexp⟩
      · rcases hwait' waiting hwait with hold | ⟨task, htask, hsame⟩
        · exact System.mem_expiredIds.mpr (.inl ⟨waiting, hold, hexp⟩)
        · exact System.mem_expiredIds.mpr (.inr ⟨task, htask, hsame ▸ hexp⟩)
      · rw [hshrinks.tasks] at htask
        exact System.mem_expiredIds.mpr (.inr ⟨task, mem_prepare_tasks htask, hexp⟩)
    have hstored := hshrinks.stored hp
    rw [event.prepare_sessionStore] at hstored
    rcases hshrinks.state hp with hsame | hdisc
    · rw [hsame, event.session_prepare]
      exact hsys id hexp p hstored
    · exact hdisc

theorem System.step_endsOnly {id : UInt32} (h : event.ends sys = some id) :
    EndsOnly id (event.prepare sys) (sys.step config event).manager := by
  cases event with
  | runTask =>
    obtain ⟨task, hnext, htask⟩ := Option.bind_eq_some_iff.mp h
    have hwp := @beginTask_wp config sys .runTask (runTask.prepare sys) rfl task
    simp only [System.step, handler, hnext]
    exact ((wp_iff_run _).mp hwp).2.2.1 id htask
  | callAnswered result loggedOff =>
    obtain ⟨waiting, hwait, htask⟩ := Option.bind_eq_some_iff.mp h
    have hwp := @resumeTask_wp config sys (.callAnswered result loggedOff) sys.manager result loggedOff waiting hwait rfl
    simp only [System.step, handler, hwait, run_bind]
    exact ((wp_iff_run _).mp hwp).2.2 id htask
  | _ => cases h

theorem Event.ends_mem_expiredIds {id : UInt32} (h : event.ends sys = some id) :
    id ∈ sys.expiredIds := by
  cases event with
  | runTask =>
    obtain ⟨task, hnext, htask⟩ := Option.bind_eq_some_iff.mp h
    exact System.mem_expiredIds.mpr (.inr ⟨task, sys.nextTask_mem hnext, htask⟩)
  | callAnswered result loggedOff =>
    obtain ⟨waiting, hwait, htask⟩ := Option.bind_eq_some_iff.mp h
    exact System.mem_expiredIds.mpr (.inl ⟨waiting, hwait, htask⟩)
  | _ => cases h

theorem System.endsDisconnected (hsys : sys.ExpiredDisconnected) :
    sys.EndsDisconnected config event := by
  intro id hid p hp hstate
  have hends := @System.step_endsOnly config sys event id hid
  have hother : sys.manager.sessionStore.getSession id ≠ some p :=
    fun h => hstate (hsys id (ends_mem_expiredIds hid) p h)
  obtain ⟨id', hid'⟩ := SessionStore.mem_getAllSessions.mp hp
  constructor
  · have hne : id' ≠ id := by
      rintro rfl
      exact hother hid'
    refine SessionStore.mem_getAllSessions.mpr ⟨id', (hends.stored id' hne).trans ?_⟩
    rw [event.prepare_sessionStore]
    exact hid'
  · rw [hends.session p (by rwa [event.prepare_sessionStore]), event.session_prepare]

end Step

/-- Along every run in which no session is reattached or replaced while it waits for its end, the
tasks of the timeout end disconnected sessions only. -/
theorem timeout_ends_disconnected (config : Config) (events : List Event)
    (h : Along (System.step config) (fun sys event => ¬event.RevivesExpired config sys) System.init events) :
    Along (System.step config) (fun sys event => sys.EndsDisconnected config event) System.init events := by
  refine h.of_invariant (I := System.ExpiredDisconnected) ?_ ?_ nofun
  · exact fun sys event hsys hev => System.step_expiredDisconnected hev hsys
  · exact fun sys event hsys _ => System.endsDisconnected hsys

namespace Sample

def expired : List Event :=
  [.startTaskExecutor, logon 1 "alice" "secret", .disconnectUser 1, .clock 3600, .sessionTimeout]

end Sample

theorem timeout_ends_disconnected_untouched :
    Along (System.step Sample.config) (fun sys event => sys.EndsDisconnected Sample.config event)
      System.init (Sample.expired ++ [.runTask]) :=
  timeout_ends_disconnected Sample.config _ (by decide +kernel)

/-- Alice comes back before the executor gets to the task, and is logged off. -/
theorem timeout_ends_reattached_session :
    ¬Along (System.step Sample.config) (fun sys event => sys.EndsDisconnected Sample.config event)
      System.init (Sample.expired ++ [Sample.logon 2 "alice" "secret", .runTask, .callAnswered 0 true]) := by
  decide +kernel

end FreeRDS.Manager
