import FreeRDS.Manager.SwitchRollback

/-! # The session after a completed switch

`TaskSwitchTo` ends the old session and binds the connection to the new one, but leaves the
connect state of the new session to the request that queued the switch. Of the two producers
only the FDSAPI worker marks the session active, before or after the task has run.
-/

namespace FreeRDS.Manager

open Std Lib Prog

variable {config : Config} {m m' : ApplicationContext} {task : TaskSwitchTo}

theorem switchTo_completed_wp (config : Config) (call : CallOutSwitchTo)
    (hcall : TaskSwitchTo.switchFailed call = false)
    (hstored : m.sessionStore.getSession task.newSessionId = some task.newSession) :
    (task.resume config call).wp (fun _ _ => True) (fun _ m' => Completed m m' task) m := by
  have hwp := @completeSwitch_wp config ⟨m, none⟩ (.callAnswered 0 false) m rfl task
  unfold TaskSwitchTo.resume
  rw [if_neg (by simp [hcall])]
  exact (hwp.weaken fun _ _ _ => trivial).mono fun _ _ h => h.2 hstored

namespace SwitchProducer

def rest (task : TaskSwitchTo) : SwitchProducer → Handler Unit
  | .fdsApi _ _ false => perform (.setConnectState task.newSession .active)
  | .fdsApi _ _ true | .startSession _ _ => pure ()

def isFdsApi : SwitchProducer → Bool
  | .fdsApi _ _ _ => true
  | .startSession _ _ => false

theorem leaves_active (producer : SwitchProducer) (found : Option Ptr) :
    producer.leaves found = .active → producer.isFdsApi = true := by
  cases producer with
  | startSession answers request =>
    intro h
    simp only [leaves] at h
    split at h <;> cases h
  | fdsApi answers request markedActive => exact fun _ => rfl

end SwitchProducer

/-! ## The new session -/

structure LeftAlone (m m' : ApplicationContext) (task : TaskSwitchTo) : Prop extends KeptSince m m' task where
  connection : m'.connectionStore.getConnection task.connectionId = m.connectionStore.getConnection task.connectionId
  sessionId : ∀ q, m.connectionStore.getConnection task.connectionId = some q →
    (m'.connection q).sessionId = (m.connection q).sessionId

/-- The new session is stored, active, and the one that its connection shows. -/
structure Shown (m : ApplicationContext) (task : TaskSwitchTo) : Prop where
  stored : m.sessionStore.getSession task.newSessionId = some task.newSession
  active : (m.session task.newSession).currentState = .active
  bound : ∀ q, m.connectionStore.getConnection task.connectionId = some q →
    (m.connection q).sessionId = task.newSessionId

theorem Completed.leftAlone {m'' : ApplicationContext} (h : Completed m m' task)
    (hleft : LeftAlone m' m'' task) :
    Completed m m'' task where
  kept hnot := by
    rw [hleft.stored, hleft.session]
    exact h.kept hnot
  ended hends := by
    rw [hleft.stored]
    exact h.ended hends
  bound q hq := by
    rw [hleft.connection] at hq
    rw [hleft.sessionId q hq]
    exact h.bound q hq

theorem Completed.shown_iff (h : Completed m m' task) (producer : SwitchProducer) (found : Option Ptr)
    (hstate : (m.session task.newSession).currentState = producer.leaves found) :
    Shown ((producer.rest task).run m').2 task ↔ producer.isFdsApi = true ∧ ¬task.EndsNewSession := by
  have hstores : ((producer.rest task).run m').2.sessionStore.map = m'.sessionStore.map ∧
      ((producer.rest task).run m').2.connectionStore = m'.connectionStore := by
    cases producer with
    | startSession answers request => exact ⟨rfl, rfl⟩
    | fdsApi answers request taskFirst => cases taskFirst <;> exact ⟨rfl, rfl⟩
  obtain ⟨hmap, hconns⟩ := hstores
  constructor
  · intro hshown
    have hnot : ¬task.EndsNewSession := by
      intro hends
      have hstored := hshown.stored
      rw [SessionStore.getSession, hmap] at hstored
      have hnone := h.ended hends
      rw [SessionStore.getSession, hstored] at hnone
      cases hnone
    refine ⟨?_, hnot⟩
    cases producer with
    | fdsApi answers request taskFirst => rfl
    | startSession answers request =>
      apply SwitchProducer.leaves_active _ found
      rw [← hstate, ← (h.kept hnot).2]
      exact hshown.active
  · intro hfdsApi
    obtain ⟨hfdsApi, hnot⟩ := hfdsApi
    obtain ⟨hstored, hses⟩ := h.kept hnot
    refine ⟨?_, ?_, fun q hq => ?_⟩
    · rw [SessionStore.getSession, hmap]
      exact hstored
    · cases producer with
      | startSession answers request => cases hfdsApi
      | fdsApi answers request taskFirst =>
        cases taskFirst with
        | true =>
          show (m'.session task.newSession).currentState = .active
          rw [hses, hstate]
          rfl
        | false => simp [SwitchProducer.rest, Action.exec]
    · simp only [ApplicationContext.connection, hconns] at hq ⊢
      exact h.bound q hq

/-- Once a queued switch has completed and its producer has finished, in either order, and nobody else
has touched the session, the session is active and shown exactly if the FDSAPI queued the switch
and the switch does not end its own new session. -/
theorem switch_shown_iff (config : Config) (producer : SwitchProducer) (m m' m'' : ApplicationContext)
    (task : TaskSwitchTo) (call : CallOutSwitchTo)
    (hqueued : ((producer.program config).run m).2.tasks = m.tasks ++ [.switchTo task])
    (hkept : KeptSince ((producer.program config).run m).2 m' task)
    (hcompleted : TaskSwitchTo.switchFailed call = false)
    (hleft : LeftAlone ((task.resume config call).run m').2 m'' task) :
    Shown ((producer.rest task).run m'').2 task ↔ producer.isFdsApi = true ∧ ¬task.EndsNewSession := by
  have htarget := (((wp_iff_run _).mp producer.queues).2 task hqueued).kept hkept
  have hrun := ((wp_iff_run _).mp (switchTo_completed_wp config call hcompleted htarget.stored)).2
  exact (hrun.leftAlone hleft).shown_iff producer (producer.found config m) htarget.state

theorem fdsApi_switch_shown :
    Shown ((Sample.switchTask.resume Sample.config { result := 0 }).run
      ((Sample.fdsApi.program Sample.config).run Sample.beforeSwitch).2).2 Sample.switchTask :=
  (switch_shown_iff Sample.config Sample.fdsApi Sample.beforeSwitch _ _ Sample.switchTask { result := 0 }
    (by decide +kernel) ⟨rfl, rfl⟩ rfl ⟨⟨rfl, rfl⟩, rfl, fun _ _ => rfl⟩).mpr (by decide +kernel)

/-- Alice is back in the session that she had left, and its state is still that of a query. -/
theorem startSession_switch_not_active :
    ¬Shown ((Sample.switchTask.resume Sample.config { result := 0 }).run
      ((Sample.startSession.program Sample.config).run Sample.beforeSwitch).2).2 Sample.switchTask := by
  intro h
  have hact := h.active
  revert hact
  decide +kernel

end FreeRDS.Manager
