import FreeRDS.Lib.Run
import FreeRDS.Manager.LockProtocol

/-! # Deadlocks of the executor

The executor runs its tasks with the queue locked. A task may wait for the RPC engine
thread, which delivers the answer of a call, or for a monitoring thread to end; when that
thread is on its way into the executor's queue, neither of the two can go on.
-/

namespace FreeRDS.Manager

open Lib Prog

namespace Process

variable (m : Process)

def entering (t : ThreadId) : Option CriticalSection :=
  (m.program t).peek (Op.observe Sync.enters)

def awaits : Option ThreadId :=
  match m.entering .executor, (m.program .executor).peek (Op.observe Sync.waitsFor) with
  | some criticalSection, _ => (m.shared.owner criticalSection).filter (· ≠ .executor)
  | none, some handle => if m.shared.signaled handle then none else handle.awaited
  | none, none => none

/-- The executor waits for a thread that is blocked on a lock the executor holds. -/
def Deadlocked : Prop :=
  ∃ t ∈ m.awaits, ∃ criticalSection ∈ m.entering t, m.shared.owner criticalSection = some .executor

instance (m : Process) : Decidable m.Deadlocked :=
  inferInstanceAs (Decidable (∃ t ∈ m.awaits, ∃ criticalSection ∈ m.entering t, _))

/-! ## Threads that keep out of each other's way -/

def asking (t : ThreadId) : Option Handle := (m.program t).peek (Op.observe Sync.expects)

/-- The executor has asked the thread for something that it has not done yet. -/
def Expects (s : Shared) (phase : ThreadId → Phase) (t : ThreadId) : Prop :=
  ∃ handle ∈ (phase .executor).expected, handle.awaited = some t ∧ s.signaled handle = false

instance (s : Shared) (phase : ThreadId → Phase) (t : ThreadId) : Decidable (Expects s phase t) :=
  inferInstanceAs (Decidable (∃ handle ∈ _, _))

/-- No thread enters `addTask` while the executor expects something of it, and the executor asks no
thread for anything that is inside `addTask`. -/
def Separate : ThreadEvent → Prop
  | .advance t =>
    (m.entering t = some .executor → ¬Expects m.shared m.phase t) ∧
      (t = .executor → ∀ handle ∈ m.asking t, m.shared.owner .executor ≠ handle.awaited)
  | _ => True

instance (m : Process) : (event : ThreadEvent) → Decidable (m.Separate event)
  | .advance t => inferInstanceAs (Decidable (_ ∧ (t = .executor → ∀ handle ∈ m.asking t, _)))
  | .clock _ | .startTaskExecutor | .runExecutor | .request _ | .serveOutgoing _ | .response _ _
  | .monitoringThread _ _ | .work _ _ => inferInstanceAs (Decidable True)

/-- The threads that the executor expects something of are not inside `addTask`. -/
def ExpectsOutside (s : Shared) (phase : ThreadId → Phase) : Prop :=
  ∀ t, Expects s phase t → s.owner .executor ≠ some t

section Step

variable {β : Type} {m : Process} {t t' : ThreadId} {s s' : Shared} {phase phase' : ThreadId → Phase}

variable {op : Op β} {k : Phase}

theorem owner_executor (hmove : lockProtocol.move t op (phase t) = some k)
    (h : (execute t op s).2.owner .executor = some t') :
    s.owner .executor = some t' ∨ t' = t ∧ op.observe Sync.enters = some .executor := by
  obtain ⟨criticalSection, hentered, -, hown⟩ | ⟨criticalSection, -, hown⟩ | ⟨-, hown⟩ :=
    (Op.execute_cases hmove s).2 <;> rw [hown] at h
  · rcases eq_or_ne .executor criticalSection with rfl | hne
    · rw [Function.update_self] at h
      exact .inr ⟨(Option.some.inj h).symm, hentered⟩
    · rw [Function.update_of_ne hne] at h
      exact .inl h
  · rcases eq_or_ne .executor criticalSection with rfl | hne
    · rw [Function.update_self] at h
      cases h
    · rw [Function.update_of_ne hne] at h
      exact .inl h
  · exact .inl h

theorem expects_asked (hmove : lockProtocol.move t op (phase t) = some k)
    (h : Expects (execute t op s).2 (Function.update phase t k) t') :
    Expects s phase t' ∨ t = .executor ∧ ∃ handle ∈ op.observe Sync.expects, handle.awaited = some t' := by
  obtain ⟨handle, hmem, hawaited, hfalse⟩ := h
  have hsig : s.signaled handle = false := by
    refine Bool.eq_false_iff.mpr fun htrue => ?_
    rw [Op.execute_signaled hmove (hawaited ▸ Option.some_ne_none t') htrue] at hfalse
    cases hfalse
  by_cases ht : t = .executor
  · subst ht
    rw [Function.update_self] at hmem
    rcases (Op.execute_cases hmove s).1 with hnone | hor
    · rw [hnone] at hmem
      cases hmem
    · rw [hor, Option.mem_def, Option.or_eq_some_iff] at hmem
      rcases hmem with hasked | ⟨-, hbefore⟩
      · exact .inr ⟨rfl, handle, hasked, hawaited⟩
      · exact .inl ⟨handle, hbefore, hawaited, hsig⟩
  · rw [Function.update_of_ne (Ne.symm ht)] at hmem
    exact .inl ⟨handle, hmem, hawaited, hsig⟩

theorem expectsOutside_execute {next : β → Prog Op Unit}
    (hm : ExpectsOutside m.shared m.phase) (hseparate : m.Separate (.advance t))
    (hop : m.program t = .act op next) (hmove : lockProtocol.move t op (m.phase t) = some k) :
    ExpectsOutside (execute t op m.shared).2 (Function.update m.phase t k) := by
  intro t' hexpects hown
  obtain ⟨henters, hasks⟩ := hseparate
  have hentering : m.entering t = op.observe Sync.enters := by unfold entering; rw [hop]; rfl
  have hasking : m.asking t = op.observe Sync.expects := by unfold asking; rw [hop]; rfl
  rw [hentering] at henters
  rw [hasking] at hasks
  rcases expects_asked hmove hexpects with hbefore | ⟨rfl, handle, hmem, hawaited⟩
  · rcases owner_executor hmove hown with hsame | ⟨rfl, hentered⟩
    · exact hm t' hbefore hsame
    · exact henters hentered hbefore
  · rcases owner_executor hmove hown with hsame | ⟨rfl, -⟩
    · exact hasks rfl handle hmem (hsame.trans hawaited.symm)
    · cases handle <;> cases hawaited

theorem ExpectsOutside.step {config : Config} {event : ThreadEvent}
    (hexpects : ExpectsOutside m.shared m.phase)
    (hm : m.Sound) (hseparate : m.Separate event) :
    ExpectsOutside (m.step config event).shared (m.step config event).phase := by
  obtain ⟨t, rfl, hstep⟩ | ⟨now, hstep⟩ | ⟨t, p, -, hstep⟩ | hstep := m.step_cases config event <;> rw [hstep]
  · refine hm.follows.invariant (I := ExpectsOutside) hexpects ?_
    exact fun op next k hop _ hmove => expectsOutside_execute hexpects hseparate hop hmove
  · exact hexpects
  · rw [Machine.start_shared, Machine.start_phase]
    exact hexpects
  · exact hexpects

end Step

/-! ## No deadlock -/

variable {m : Process}

theorem awaits_cases {t : ThreadId} (h : m.awaits = some t) :
    (∃ criticalSection, m.entering .executor = some criticalSection ∧ m.shared.owner criticalSection = some t) ∨
    ∃ handle, (m.program .executor).peek (Op.observe Sync.waitsFor) = some handle ∧
      handle.awaited = some t ∧ m.shared.signaled handle = false := by
  unfold awaits at h
  split at h
  · rename_i criticalSection hentering
    exact .inl ⟨criticalSection, hentering, (Option.filter_eq_some_iff.mp h).1⟩
  · rename_i handle _ hwaits
    obtain ⟨hsig, hawaited⟩ := Option.ite_none_left_eq_some.mp h
    exact .inr ⟨handle, hwaits, hawaited, Bool.eq_false_iff.mpr hsig⟩
  · cases h

theorem Sound.permits {t : ThreadId} {criticalSection : CriticalSection} (hm : m.Sound)
    (h : m.entering t = some criticalSection) : permits t (m.phase t).held criticalSection = true := by
  unfold entering at h
  cases hop : m.program t with
  | ret value => rw [hop] at h; cases h
  | act op next =>
    rw [hop] at h
    obtain ⟨k, hmove, -⟩ := hm.follows.next hop
    exact Op.permits_of_enters hmove h

theorem Sound.waits {handle : Handle} (hm : m.Sound)
    (h : (m.program .executor).peek (Op.observe Sync.waitsFor) = some handle)
    (hawaited : handle.awaited ≠ none) :
    (m.phase .executor).held = [.queue .tasks] ∧ (m.phase .executor).expected = some handle := by
  cases hop : m.program .executor with
  | ret value => rw [hop] at h; cases h
  | act op next =>
    rw [hop] at h
    obtain ⟨k, hmove, -⟩ := hm.follows.next hop
    have hwait := Op.wait_of_waitsFor hmove h
    unfold Phase.wait at hwait
    rw [if_neg hawaited] at hwait
    exact (Option.ite_none_right_eq_some.mp hwait).1

theorem permits_tasks {t : ThreadId} {held : List CriticalSection} (ht : t ≠ .executor)
    (h : permits t held (.queue .tasks) = true) : held = [.executor] := by
  unfold permits at h
  split at h <;> simp_all

theorem permits_executor {held : List CriticalSection} {criticalSection : CriticalSection}
    (h : permits .executor held criticalSection = true) :
    held = [] ∨ held = [.queue .tasks] ∧ criticalSection = .queue .outgoing := by
  unfold permits at h
  split at h <;> simp_all

theorem not_deadlocked (hm : m.Sound) (hexpects : ExpectsOutside m.shared m.phase) :
    ¬m.Deadlocked := by
  rintro ⟨t, hawaits, criticalSection, hentering, hown⟩
  have hheld := (hm.exclusive.owner_iff _ _).mp hown
  have hpermits := hm.permits hentering
  have ht : t ≠ .executor := by
    rintro rfl
    exact permits_fresh hpermits hheld
  -- a thread about to enter the queue is inside `addTask`
  have hins : (m.phase .executor).held = [.queue .tasks] → (m.phase t).held = [.executor] := by
    intro hlocked
    rw [hlocked, List.mem_singleton] at hheld
    exact permits_tasks ht (hheld ▸ hpermits)
  obtain ⟨entered, hentered, hother⟩ | ⟨handle, hwaits, hawaited, hsig⟩ := awaits_cases hawaits
  · obtain hnone | ⟨hlocked, rfl⟩ := permits_executor (hm.permits hentered)
    · rw [hnone] at hheld
      cases hheld
    · have hmem := (hm.exclusive.owner_iff _ _).mp hother
      rw [hins hlocked, List.mem_singleton] at hmem
      cases hmem
  · obtain ⟨hlocked, hexpected⟩ := hm.waits hwaits (hawaited ▸ Option.some_ne_none t)
    have haddTask : m.shared.owner .executor = some t :=
      (hm.exclusive.owner_iff _ _).mpr (hins hlocked ▸ List.mem_singleton_self _)
    exact hexpects t ⟨handle, hexpected, hawaited, hsig⟩ haddTask

/-- Threads that keep out of each other's way never deadlock the executor. -/
theorem executor_never_deadlocked (config : Config) (events : List ThreadEvent)
    (h : Along (step config) Separate init events) : ¬(after config events).Deadlocked := by
  have hinvariant : (after config events).Sound ∧
      ExpectsOutside (after config events).shared (after config events).phase := by
    refine h.invariant (I := fun m => m.Sound ∧ ExpectsOutside m.shared m.phase) ?_ ⟨init_sound, ?_⟩
    · rintro m event ⟨hm, hexpects⟩ hseparate
      exact ⟨hm.step event, hexpects.step hm hseparate⟩
    · rintro t ⟨handle, hmem, -⟩
      cases hmem
  exact not_deadlocked hinvariant.1 hinvariant.2

end Process

namespace Sample

def advances (t : ThreadId) (n : Nat) : List ThreadEvent := List.replicate n (.advance t)

def loggedOn : List ThreadEvent :=
  .startTaskExecutor :: advances .main 4 ++ .request (logon 1 "alice" "secret") :: advances .rpcEngine 21

/-- `EndSession` is served, and the executor has locked its queue. -/
def ending : List ThreadEvent :=
  .request (.endSession 1) :: advances .rpcEngine 7 ++ .runExecutor :: advances .executor 3

/-- `TaskEndSession` has asked freerds to log the user off. -/
def callSent : List ThreadEvent := loggedOn ++ ending ++ .runExecutor :: advances .executor 7

/-- Nobody is connected, and `TaskEndSession` has asked the monitoring thread to stop. -/
def moduleStopping : List ThreadEvent :=
  loggedOn ++ .request (.disconnectUser 1) :: advances .rpcEngine 5 ++ ending ++
    .runExecutor :: advances .executor 5

def loggedOff : List ThreadEvent :=
  callSent ++ .serveOutgoing true :: advances .rpcEngine 2 ++ .serveOutgoing true :: advances .rpcEngine 2 ++
    .serveOutgoing true :: advances .rpcEngine 2 ++ .response 0 ⟨0, true⟩ :: advances .rpcEngine 3 ++
    advances .executor 5 ++ .monitoringThread 0 false :: advances (.monitor 0) 2 ++ advances .executor 8

end Sample

namespace Process

theorem executor_never_deadlocked_loggedOff :
    Along (step Sample.config) Separate init Sample.loggedOff ∧
      ¬(after Sample.config Sample.loggedOff).Deadlocked := by
  have h : Along (step Sample.config) Separate init Sample.loggedOff := by decide +kernel
  exact ⟨h, executor_never_deadlocked Sample.config Sample.loggedOff h⟩

/-- A second `EndSession` keeps the RPC engine from sending the call; a module that exits while it is
being stopped keeps its monitoring thread from ending. -/
theorem executor_deadlocks :
    (after Sample.config (Sample.callSent ++
      .request (.endSession 1) :: Sample.advances .rpcEngine 3)).Deadlocked ∧
    (after Sample.config (Sample.moduleStopping ++
      .monitoringThread 0 true :: Sample.advances (.monitor 0) 3)).Deadlocked := by
  decide +kernel

end Process

end FreeRDS.Manager
