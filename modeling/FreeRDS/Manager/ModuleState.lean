import FreeRDS.Manager.System

/-! # Whether a session has its module

`mSessionStarted`, `mPipeName` and `mCurrentModuleContext` say three times whether the module of
a session is up. A module that does not start leaves its context behind, and a module that is
stopped leaves the flag behind, after which the session cannot be started again.
-/

namespace FreeRDS.Manager

open Lib

namespace Session

variable {config : Config} {answers : Answers} {now : Int} {session : Session} {moduleName : String}

def moduleState (session : Session) : Bool × String × Option ModuleContext :=
  (session.sessionStarted, session.pipeName, session.currentModuleContext)

def Agrees (session : Session) : Prop :=
  (session.sessionStarted = true ↔ session.pipeName ≠ "") ∧
    (session.sessionStarted = true ↔ session.currentModuleContext.isSome = true)

instance (session : Session) : Decidable session.Agrees := inferInstanceAs (Decidable (_ ∧ _))

/-- The property lookup and the module lookup of `startModule` succeed. -/
def Resolves (config : Config) (session : Session) (moduleName : String) : Prop :=
  config.properties.getPropertyString ("module." ++ session.moduleConfigName ++ ".modulename") = some moduleName ∧
    config.hasModule moduleName = true

def Serves (answers : Answers) (session : Session) (moduleName : String) : Prop :=
  (answers.start moduleName session.newModuleContext).getD "" ≠ ""

/-- A start whose lookups succeed and whose module answers is a success. -/
def CanStart (session : Session) : Prop :=
  ∀ config answers now moduleName, session.Resolves config moduleName → session.Serves answers moduleName →
    (session.startModule config answers now).1 = true

theorem Agrees.of_moduleState {session' : Session} (h : session.Agrees)
    (hstate : session'.moduleState = session.moduleState) : session'.Agrees := by
  simp only [moduleState, Prod.mk.injEq] at hstate
  rw [Agrees, hstate.1, hstate.2.1, hstate.2.2]
  exact h

@[simp] theorem setConnectState_moduleState (now : Int) (state : ConnectState) (session : Session) :
    (session.setConnectState now state).2.moduleState = session.moduleState :=
  setConnectState_unseen now state session moduleState (fun _ _ _ => rfl) fun _ => rfl

theorem Resolves.unique {moduleName' : String} (h : session.Resolves config moduleName)
    (h' : session.Resolves config moduleName') : moduleName' = moduleName :=
  Option.some.inj (h'.1.symm.trans h.1)

theorem startModule_moduleState (config : Config) (answers : Answers) (now : Int) (session : Session) :
    (session.sessionStarted = true ∨ ∀ moduleName, ¬session.Resolves config moduleName) ∧
        (session.startModule config answers now).1 = false ∧
        (session.startModule config answers now).2.2.moduleState = session.moduleState ∨
      ∃ moduleName, session.sessionStarted = false ∧ session.Resolves config moduleName ∧
        (¬session.Serves answers moduleName ∧ (session.startModule config answers now).1 = false ∧
            (session.startModule config answers now).2.2.moduleState =
              (false, session.pipeName, some session.newModuleContext) ∨
          session.Serves answers moduleName ∧ (session.startModule config answers now).1 = true ∧
            (session.startModule config answers now).2.2.HasModule) := by
  unfold startModule
  split
  · rename_i hstarted
    exact .inl ⟨.inl hstarted, rfl, rfl⟩
  · rename_i hstarted
    have hidle : session.sessionStarted = false := by simpa using hstarted
    split
    · rename_i hlookup
      exact .inl ⟨.inr fun moduleName h => by simp [Resolves, hlookup] at h, rfl, rfl⟩
    · rename_i moduleName hlookup
      dsimp only
      split
      · rename_i hmod
        refine .inr ⟨moduleName, hidle, ⟨hlookup, hmod⟩, ?_⟩
        split
        · rename_i hname
          refine .inl ⟨fun hserves => hserves (String.isEmpty_iff.mp hname), rfl, ?_⟩
          simp [moduleState, hidle, newModuleContext]
        · rename_i hname
          have hserves : session.Serves answers moduleName := fun h => hname (String.isEmpty_iff.mpr h)
          exact .inr ⟨hserves, rfl, (setConnectState_hasModule now .connected _).mpr ⟨rfl, rfl, hserves⟩⟩
      · rename_i hmod
        refine .inl ⟨.inr fun moduleName' h => hmod ?_, rfl, rfl⟩
        rw [← Option.some.inj (h.1.symm.trans hlookup)]
        exact h.2

theorem stopModule_of_not_stoppable (h : ¬session.Stoppable config) :
    session.stopModule config now = (false, [], session) := by
  unfold stopModule
  split
  · rename_i hstarted
    exact if_neg fun hmod => h ⟨hstarted, hmod⟩
  · rfl

theorem stopModule_moduleState (h : session.Stoppable config) :
    (session.stopModule config now).2.2.moduleState = (true, "", none) := by
  simp only [stopModule, h.1, h.2, if_true, setConnectState_moduleState]
  simp [moduleState]

theorem HasModule.agrees (h : session.HasModule) : session.Agrees :=
  ⟨iff_of_true h.1 h.2.2, iff_of_true h.1 h.2.1⟩

namespace Method

def FailsCleanly (session : Session) : Method → Prop
  | .startModule config answers now => (session.startModule config answers now).1 = false →
      (session.startModule config answers now).2.2.moduleState = session.moduleState
  | _ => True

def LeavesStartable (session : Session) : Method → Prop
  | .stopModule config now => (session.stopModule config now).1 = true →
      (session.stopModule config now).2.2.CanStart
  | _ => True

structure KeepsAgreement (session : Session) (method : Method) : Prop where
  agrees : (session.call method).Agrees
  failsCleanly : method.FailsCleanly session
  leavesStartable : method.LeavesStartable session

/-- No module that is reached fails to start, and no module is stopped. -/
def Harmless (session : Session) : Method → Prop
  | .startModule config answers _ => session.sessionStarted = false →
      ∀ moduleName, session.Resolves config moduleName → session.Serves answers moduleName
  | .stopModule config _ => ¬session.Stoppable config
  | _ => True

theorem startModule_keepsAgreement_iff (h : session.Agrees) :
    (Method.startModule config answers now).KeepsAgreement session ↔
      (Method.startModule config answers now).Harmless session := by
  obtain ⟨hrefused, hfails, hstate⟩ | ⟨moduleName, hidle, hresolves, hmod⟩ :=
    startModule_moduleState config answers now session
  · refine iff_of_true ⟨h.of_moduleState hstate, fun _ => hstate, trivial⟩ fun hidle moduleName hresolves => ?_
    rcases hrefused with hstarted | hnone
    · exact absurd hidle (by simp [hstarted])
    · exact absurd hresolves (hnone moduleName)
  · rcases hmod with ⟨hserves, hfails, hstate⟩ | ⟨hserves, hdone, hmod⟩
    · refine iff_of_false (fun hkeeps => ?_) fun hharmless => hserves (hharmless hidle moduleName hresolves)
      -- the context is there and the flag is not
      have hagrees := hkeeps.agrees.2
      simp only [moduleState, Prod.mk.injEq] at hstate
      simp [call, hstate.1, hstate.2.2] at hagrees
    · refine iff_of_true ⟨hmod.agrees, fun hfails => ?_, trivial⟩ fun _ moduleName' hresolves' => ?_
      · rw [hdone] at hfails
        cases hfails
      · exact hresolves.unique hresolves' ▸ hserves

theorem stopModule_keepsAgreement_iff (h : session.Agrees) :
    (Method.stopModule config now).KeepsAgreement session ↔ (Method.stopModule config now).Harmless session := by
  by_cases hstop : session.Stoppable config
  · refine iff_of_false (fun hkeeps => ?_) fun hharmless => hharmless hstop
    -- the flag is there and the pipe is not
    have hagrees := hkeeps.agrees.1
    have hstate := @stopModule_moduleState _ now _ hstop
    simp only [moduleState, Prod.mk.injEq] at hstate
    simp [call, hstate.1, hstate.2.1] at hagrees
  · have hrefused : session.stopModule config now = (false, [], session) := stopModule_of_not_stoppable hstop
    refine iff_of_true ⟨?_, trivial, fun hdone => ?_⟩ hstop
    · simpa [call, hrefused] using h
    · rw [hrefused] at hdone
      cases hdone

theorem keepsAgreement_iff (h : session.Agrees) (method : Method) :
    method.KeepsAgreement session ↔ method.Harmless session := by
  cases method with
  | startModule config answers now => exact startModule_keepsAgreement_iff h
  | stopModule config now => exact stopModule_keepsAgreement_iff h
  | set setter =>
    have hstate : (session.set setter).moduleState = session.moduleState := by cases setter <;> rfl
    exact iff_of_true ⟨h.of_moduleState hstate, trivial, trivial⟩ trivial
  | setConnectState now state =>
    exact iff_of_true ⟨h.of_moduleState (by simp [call]), trivial, trivial⟩ trivial
  | generateUserToken answers =>
    have hstate := generateUserToken_unseen answers session moduleState fun _ _ => rfl
    exact iff_of_true ⟨h.of_moduleState hstate, trivial, trivial⟩ trivial
  | generateEnvBlockAndModify answers =>
    have hstate := generateEnvBlockAndModify_unseen answers session moduleState fun _ _ => rfl
    exact iff_of_true ⟨h.of_moduleState hstate, trivial, trivial⟩ trivial
  | generateAuthEnvBlockAndModify => exact iff_of_true ⟨h, trivial, trivial⟩ trivial

end Method

/-- Along any calls of a new session, its fields agree, failed starts change nothing and stopped
sessions start again exactly if no module fails to start and none is stopped. -/
theorem module_state_agrees_iff (sessionId : UInt32) (methods : List Method) :
    Along call (fun session method => method.KeepsAgreement session) { sessionId := sessionId } methods ↔
      Along call (fun session method => method.Harmless session) { sessionId := sessionId } methods := by
  have hnew : ({ sessionId := sessionId } : Session).Agrees := ⟨by simp, by simp⟩
  refine Along.iff_while (I := Agrees) (fun session method h hharmless => ?_)
    (fun session method h => Method.keepsAgreement_iff h method) hnew
  exact ((Method.keepsAgreement_iff h method).mpr hharmless).agrees

/-- The module of the first session does not start, and its context stays. The module of the second is
started and stopped; the flag stays, and the next start is refused. -/
theorem module_state_disagrees :
    ¬Along call (fun session method => method.KeepsAgreement session) { sessionId := 1 }
      [.set (.moduleConfigName "X11"), .startModule Sample.config { Sample.answers with start := fun _ _ => none } 0] ∧
    ¬Along call (fun session method => method.KeepsAgreement session) { sessionId := 1 }
      [.set (.moduleConfigName "X11"), .startModule Sample.config Sample.answers 0, .stopModule Sample.config 0] ∧
    ((([.set (.moduleConfigName "X11"), .startModule Sample.config Sample.answers 0,
        .stopModule Sample.config 0].foldl call { sessionId := 1 }).startModule Sample.config Sample.answers 0).1 =
      false) := by
  refine ⟨fun h => ?_, fun h => ?_, by decide⟩
  · exact absurd h.2.1.agrees (by decide)
  · exact absurd h.2.2.1.agrees (by decide)

end Session

end FreeRDS.Manager
