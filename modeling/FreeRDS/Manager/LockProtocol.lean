import FreeRDS.Manager.Threads

/-! # The protocol of the locks

Which critical section a thread enters while it holds which, and what it waits for after
having asked for it. Every program of every thread follows the protocol, so that each
critical section has one owner at a time, and where a thread stands tells what it holds.
-/

namespace FreeRDS.Manager

open Lib Prog Function TaskSwitchTo

def Handle.awaited : Handle → Option ThreadId
  | .answer _ => some .rpcEngine
  | .monitorThread p => some (.monitor p)
  | .queue _ | .monitorStopEvent _ => none

structure Phase where
  held : List CriticalSection
  /-- What the thread has asked another one for and not yet waited for. -/
  expected : Option Handle

/-- What a thread holds while it runs a handler: the executor has its queue locked. -/
def ThreadId.base : ThreadId → List CriticalSection
  | .executor => [.queue .tasks]
  | _ => []

/-- The critical section that a thread may enter, by those it holds. Only the executor enters its
queue directly; the others do so in `addTask`. -/
def permits : ThreadId → List CriticalSection → CriticalSection → Bool
  | .executor, [], .queue .tasks | .executor, [.queue .tasks], .queue .outgoing => true
  | .executor, _, _ => false
  | _, [], .executor | _, [.executor], .queue .tasks | _, [], .queue .outgoing => true
  | _, _, _ => false

/-- A wait for another thread needs what was asked of it, and no locks beyond the usual. -/
def Phase.wait (t : ThreadId) (handle : Handle) (k : Phase) : Option Phase :=
  if handle.awaited = none then some k
  else if k.held = t.base ∧ k.expected = some handle then some { k with expected := none } else none

namespace Sync

variable {β : Type}

def enters : Sync β → Option CriticalSection
  | .enterCriticalSection criticalSection => some criticalSection
  | _ => none

def waitsFor : Sync β → Option Handle
  | .waitForSingleObject handle | .waitWithTimeout handle => some handle
  | _ => none

/-- The handle that is going to be signaled because of the operation. -/
def expects : Sync β → Option Handle
  | .pushCall call => some (.answer call)
  | .setEvent (.monitorStopEvent p) => some (.monitorThread p)
  | _ => none

def move (t : ThreadId) (k : Phase) : Sync β → Option Phase
  | .enterCriticalSection criticalSection =>
    if permits t k.held criticalSection then some { k with held := criticalSection :: k.held } else none
  | .leaveCriticalSection criticalSection =>
    if k.held.head? = some criticalSection then some { k with held := k.held.tail } else none
  | .resetEvent handle => if handle.awaited = none then some k else none
  | .waitForSingleObject handle | .waitWithTimeout handle => k.wait t handle
  | op => some { k with expected := op.expects.or k.expected }

end Sync

def Op.observe {β δ : Type} (f : ∀ {β : Type}, Sync β → Option δ) : Op β → Option δ
  | .sync op => f op
  | .access _ => none

def lockProtocol : Protocol Op ThreadId Phase where
  move
    | t, .sync op, k => op.move t k
    | _, .access _, k => some k

section Follows

variable {α β : Type} {t : ThreadId} {k k' : Phase} {post : Phase → Prop}

section

variable {criticalSection : CriticalSection} {held : List CriticalSection} {expected : Option Handle}

theorem Sync.move_enter (h : permits t held criticalSection = true) :
    (Sync.enterCriticalSection criticalSection).move t ⟨held, expected⟩ =
      some ⟨criticalSection :: held, expected⟩ :=
  if_pos h

theorem Sync.move_leave :
    (Sync.leaveCriticalSection criticalSection).move t ⟨criticalSection :: held, expected⟩ =
      some ⟨held, expected⟩ :=
  if_pos rfl

end

theorem Phase.wait_expected {handle : Handle} (h : handle.awaited ≠ none) :
    Phase.wait t handle ⟨t.base, some handle⟩ = some ⟨t.base, none⟩ := by
  unfold Phase.wait
  rw [if_neg h, if_pos ⟨rfl, rfl⟩]

theorem sync_bind {op : Sync β} {f : β → Prog Op α} (h : op.move t k = some k')
    (hf : ∀ value, (f value).Follows lockProtocol t post k') :
    (sync op >>= f).Follows lockProtocol t post k :=
  .perform_bind h hf

theorem sync_follows {op : Sync α} (h : op.move t k = some k') (hpost : post k') :
    (sync op).Follows lockProtocol t post k := .perform h hpost

theorem access_bind {action : Action β} {f : β → Prog Op α}
    (hf : ∀ value, (f value).Follows lockProtocol t post k) :
    (access action >>= f).Follows lockProtocol t post k :=
  .perform_bind rfl hf

theorem access_follows {action : Action α} (hpost : post k) :
    (access action).Follows lockProtocol t post k :=
  .perform rfl hpost

theorem addElement_follows {queue : Queue} {push : Sync Unit} {held : List CriticalSection}
    {expected : Option Handle} (hpermits : permits t held (.queue queue) = true)
    (hpush : ∀ k : Phase, push.move t k = some ⟨k.held, push.expects.or k.expected⟩) :
    (SignalingQueue.addElement queue push).Follows lockProtocol t (· = ⟨held, push.expects.or expected⟩)
      ⟨held, expected⟩ := by
  unfold SignalingQueue.addElement
  refine sync_bind (Sync.move_enter hpermits) fun _ => sync_bind (hpush _) fun _ => ?_
  exact sync_bind rfl fun _ => sync_follows Sync.move_leave rfl

theorem resetEventAndLockQueue_follows {queue : Queue} {held : List CriticalSection}
    {expected : Option Handle}
    (hpermits : permits t held (.queue queue) = true) (hpost : post ⟨.queue queue :: held, expected⟩) :
    (SignalingQueue.resetEventAndLockQueue queue).Follows lockProtocol t post ⟨held, expected⟩ :=
  sync_bind rfl fun _ => sync_follows (Sync.move_enter hpermits) hpost

/-! ### Handlers -/

def AtBase (t : ThreadId) (k : Phase) : Prop := k.held = t.base

theorem permits_addTask (ht : t ≠ .executor) :
    t.base = [] ∧ permits t [] .executor = true ∧ permits t [.executor] (.queue .tasks) = true := by
  cases t with
  | executor => exact absurd rfl ht
  | main | rpcEngine | monitor p | worker n => exact ⟨rfl, rfl, rfl⟩

theorem addTask_follows (task : Task) (ht : t ≠ .executor) (hk : AtBase t k) :
    (Executor.addTask task).Follows lockProtocol t (AtBase t) k := by
  obtain ⟨held, expected⟩ := k
  obtain ⟨hbase, hexecutor, hqueue⟩ := permits_addTask ht
  obtain rfl : held = [] := hbase ▸ hk
  unfold Executor.addTask
  refine sync_bind (Sync.move_enter hexecutor) fun _ => sync_bind rfl fun running => .ite ?_ ?_
  · refine .bind (addElement_follows hqueue fun _ => rfl) ?_
    rintro - _ rfl
    exact sync_bind Sync.move_leave fun _ => hk
  · exact sync_bind Sync.move_leave fun _ => hk

theorem startModule_follows (p : Ptr) (config : Config) (answers : Answers) (hk : AtBase t k) :
    (startModule p config answers).Follows lockProtocol t (AtBase t) k := by
  unfold startModule
  refine access_bind fun started => access_bind fun session => .ite ?_ hk
  exact sync_bind rfl fun _ => hk

theorem stopModule_follows (p : Ptr) (config : Config) (hk : AtBase t k) :
    (stopModule p config).Follows lockProtocol t (AtBase t) k := by
  obtain ⟨held, expected⟩ := k
  obtain rfl : held = t.base := hk
  unfold stopModule
  refine access_bind fun session => .ite ?_ (access_follows rfl)
  have hawaited : (Handle.monitorThread p).awaited ≠ none := nofun
  have hstop : (x11RdsModuleStop p).Follows lockProtocol t (AtBase t) ⟨t.base, expected⟩ :=
    sync_bind rfl fun _ => sync_follows (Phase.wait_expected hawaited) rfl
  exact hstop.bind fun _ _ hk => access_follows hk

def Action.addsTask {β : Type} : Action β → Bool
  | .addTask _ => true
  | _ => false

theorem Action.operations_follows (action : Action β)
    (haction : t = .executor → action.addsTask = false)
    (hk : AtBase t k) : action.operations.Follows lockProtocol t (AtBase t) k := by
  cases action with
  | addTask task => exact addTask_follows task (fun ht => Bool.noConfusion (haction ht)) hk
  | startModule p config answers => exact startModule_follows p config answers hk
  | stopModule p config => exact stopModule_follows p config hk
  | _ => exact access_follows hk

theorem operations_follows {handler : Handler α}
    (hhand : t = .executor → handler.Every fun action => action.addsTask = false) (hk : AtBase t k) :
    (operations handler).Follows lockProtocol t (AtBase t) k := by
  have hevery : handler.Every fun action => t = .executor → action.addsTask = false := by
    by_cases ht : t = .executor
    · exact (hhand ht).mono fun _ h _ => h
    · exact .of_forall (fun _ h => absurd h ht) handler
  exact hevery.follows (fun action k haction hk => action.operations_follows haction hk) hk

theorem event_follows (config : Config) (s : Shared) (event : Event) (ht : t ≠ .executor)
    (hk : AtBase t k) :
    (event.operations config s).Follows lockProtocol t (AtBase t) k :=
  operations_follows (fun h => absurd h ht) hk

/-! ### Tasks -/

section Tasks

variable {config : Config}

theorem beginTask_addsNoTask (task : Task) :
    (Event.beginTask config task).Every fun action => action.addsTask = false := by
  cases task <;>
    simp [Event.beginTask, TaskEndSession.begin, TaskModuleShutdown.begin, stopSession, onSession, bind_bind,
      pure_bind_eq, ite_bind, Option.forall, Action.addsTask]

theorem resumeTask_addsNoTask (result : UInt32) (loggedOff : Bool) (waiting : Waiting) :
    (Event.resumeTask config result loggedOff waiting).Every fun action => action.addsTask = false := by
  cases waiting with
  | switchTo task =>
    simp [Event.resumeTask, resume, cleanUpOnError, rollBackSession,
      completeSwitch, endOldSession, onSession, onConnection, bind_bind, pure_bind_eq,
      ite_bind, Option.forall, Action.addsTask]
  | endSession task connectionId =>
    simp [Event.resumeTask, TaskEndSession.resume, stopSession, onSession, bind_bind, pure_bind_eq, Option.forall,
      Action.addsTask]
  | moduleShutdown connectionId => simp [Event.resumeTask, TaskModuleShutdown.resume, Action.addsTask]

theorem callOut_follows (waiting : Waiting) (hk : AtBase .executor k) :
    waiting.callOut.Follows lockProtocol .executor (AtBase .executor) k := by
  obtain ⟨held, expected⟩ := k
  obtain rfl : held = ThreadId.executor.base := hk
  unfold Waiting.callOut
  refine sync_bind rfl fun call => .bind (addElement_follows rfl fun _ => rfl) ?_
  rintro - _ rfl
  have hwait : Phase.wait .executor (.answer call) ⟨ThreadId.executor.base, some (.answer call)⟩ =
      some ⟨ThreadId.executor.base, none⟩ := Phase.wait_expected nofun
  exact .ite (sync_bind hwait fun _ => sync_follows rfl rfl) (sync_bind hwait fun _ => sync_follows rfl rfl)

theorem Task.run_follows (task : Task) (hk : AtBase .executor k) :
    (task.run config).Follows lockProtocol .executor (AtBase .executor) k := by
  unfold Task.run
  refine (operations_follows (fun _ => beginTask_addsNoTask task) hk).bind fun waits k hk => ?_
  cases waits with
  | none => exact hk
  | some waiting =>
    refine (callOut_follows waiting hk).bind fun answer k hk => ?_
    exact operations_follows (fun _ => resumeTask_addsNoTask _ _ waiting) hk

end Tasks

end Follows

/-! ### Threads -/

/-- What a thread may hold between two of its programs: the queue that it is going through. -/
def AtRest : ThreadId → Phase → Prop
  | .executor, k => k.held = [] ∨ k.held = [.queue .tasks]
  | .rpcEngine, k => k.held = [] ∨ k.held = [.queue .outgoing]
  | _, k => k.held = []

/-- Each critical section is held by the thread that owns it, and entered once. -/
structure Exclusive (owner : CriticalSection → Option ThreadId) (phase : ThreadId → Phase) : Prop where
  owner_iff : ∀ criticalSection t, owner criticalSection = some t ↔ criticalSection ∈ (phase t).held
  nodup : ∀ t, (phase t).held.Nodup

section Begins

variable {config : Config} {s : Shared} {phase : ThreadId → Phase} {k : Phase}

theorem AtBase.atRest {t : ThreadId} (h : AtBase t k) : AtRest t k := by
  cases t with
  | executor => exact .inr h
  | rpcEngine => exact .inl h
  | main | monitor p | worker n => exact h

theorem start_follows (hk : AtBase .main k) :
    Executor.start.Follows lockProtocol .main (AtRest .main) k := by
  obtain ⟨held, expected⟩ := k
  obtain rfl : held = [] := hk
  refine sync_bind (Sync.move_enter rfl) fun _ => sync_bind rfl fun running => .ite ?_ ?_
  · exact sync_follows Sync.move_leave rfl
  · exact sync_bind rfl fun _ => sync_follows Sync.move_leave rfl

theorem runExecutor_follows (hs : Exclusive s.owner phase) (hk : AtRest .executor (phase .executor)) :
    (Executor.runExecutor config s).Follows lockProtocol .executor (AtRest .executor) (phase .executor) := by
  have hown := hs.owner_iff (.queue .tasks) .executor
  revert hk hown
  generalize phase .executor = k
  intro hk hown
  obtain ⟨held, expected⟩ := k
  unfold Executor.runExecutor
  rcases hk with rfl | rfl
  · rw [if_neg (by rw [hown]; exact List.not_mem_nil)]
    exact sync_bind rfl fun _ => resetEventAndLockQueue_follows rfl (.inr rfl)
  · rw [if_pos (hown.mpr List.mem_cons_self)]
    refine sync_bind rfl fun found => ?_
    cases found with
    | some currentTask =>
      have hbase : AtBase .executor ⟨[.queue .tasks], expected⟩ := rfl
      exact (currentTask.run_follows hbase).mono fun _ h => h.atRest
    | none => exact sync_follows Sync.move_leave (.inl rfl)

theorem serveOutgoing_follows (sent : Bool) (hs : Exclusive s.owner phase)
    (hk : AtRest .rpcEngine (phase .rpcEngine)) :
    (RpcEngine.serveOutgoing sent s).Follows lockProtocol .rpcEngine (AtRest .rpcEngine) (phase .rpcEngine) := by
  have hown := hs.owner_iff (.queue .outgoing) .rpcEngine
  revert hk hown
  generalize phase .rpcEngine = k
  intro hk hown
  obtain ⟨held, expected⟩ := k
  unfold RpcEngine.serveOutgoing
  rcases hk with rfl | rfl
  · rw [if_neg (by rw [hown]; exact List.not_mem_nil)]
    exact resetEventAndLockQueue_follows rfl (.inr rfl)
  · rw [if_pos (hown.mpr List.mem_cons_self)]
    refine sync_bind rfl fun found => ?_
    cases found with
    | some currentCall =>
      refine .ite (sync_follows rfl (.inr rfl)) ?_
      exact sync_bind rfl fun _ => sync_follows rfl (.inr rfl)
    | none => exact sync_follows Sync.move_leave (.inl rfl)

theorem processResponse_follows {t : ThreadId} (call : Nat) (result : CallResult) (hk : AtBase t k) :
    (RpcEngine.processResponse call result).Follows lockProtocol t (AtBase t) k :=
  sync_bind rfl fun _ => .ite (sync_bind rfl fun _ => sync_follows rfl hk) hk

theorem monitoringThread_follows (p : Ptr) (exited : Bool) (hk : AtBase (.monitor p) k) :
    (monitoringThread p exited).Follows lockProtocol (.monitor p) (AtBase (.monitor p)) k := by
  unfold monitoringThread
  refine .ite (access_bind fun session => ?_) (sync_bind rfl fun stop => .ite (sync_follows rfl hk) hk)
  exact (operations_follows (t := .monitor p) nofun hk).bind fun _ _ hk => sync_follows rfl hk

theorem rpcEngine_atBase (hs : Exclusive s.owner phase) (hk : AtRest .rpcEngine (phase .rpcEngine))
    (hown : s.owner (.queue .outgoing) ≠ some .rpcEngine) : AtBase .rpcEngine (phase .rpcEngine) := by
  rcases hk with hk | hk
  · exact hk
  · exact absurd ((hs.owner_iff _ _).mpr (hk ▸ List.mem_cons_self)) hown

theorem begins_follows {event : ThreadEvent} {t : ThreadId} {p : Prog Op Unit}
    (hs : Exclusive s.owner phase)
    (h : event.begins config s = some (t, p)) (hk : AtRest t (phase t)) :
    p.Follows lockProtocol t (AtRest t) (phase t) := by
  cases event with
  | advance t | clock now => cases h
  | startTaskExecutor =>
    cases h
    exact start_follows hk
  | runExecutor =>
    cases h
    exact runExecutor_follows hs hk
  | request event =>
    obtain ⟨hc, h⟩ := Option.ite_none_right_eq_some.mp h
    cases h
    have hbase := rpcEngine_atBase hs hk hc.2
    exact (event_follows (t := .rpcEngine) config s event nofun hbase).mono fun _ h => h.atRest
  | serveOutgoing sent =>
    cases h
    exact serveOutgoing_follows sent hs hk
  | response call result =>
    obtain ⟨hc, h⟩ := Option.ite_none_right_eq_some.mp h
    cases h
    exact (processResponse_follows call result (rpcEngine_atBase hs hk hc)).mono fun _ h => h.atRest
  | monitoringThread q exited =>
    obtain ⟨-, h⟩ := Option.ite_none_right_eq_some.mp h
    cases h
    exact (monitoringThread_follows q exited hk).mono fun _ h => h.atRest
  | work n event =>
    obtain ⟨-, h⟩ := Option.ite_none_right_eq_some.mp h
    cases h
    exact (event_follows (t := .worker n) config s event nofun hk).mono fun _ h => h.atRest

end Begins

/-! ## Mutual exclusion -/

section Exclusion

variable {β : Type} {t : ThreadId} {k k' : Phase}

theorem permits_fresh {held : List CriticalSection} {criticalSection : CriticalSection}
    (h : permits t held criticalSection = true) : criticalSection ∉ held := by
  unfold permits at h
  split at h <;> first | simp | cases h

theorem Phase.wait_cases {handle : Handle} (h : k.wait t handle = some k') :
    k'.held = k.held ∧ (k'.expected = none ∨ k'.expected = k.expected) := by
  unfold Phase.wait at h
  split at h
  · cases h
    exact ⟨rfl, .inr rfl⟩
  · obtain ⟨-, hk⟩ := Option.ite_none_right_eq_some.mp h
    cases hk
    exact ⟨rfl, .inl rfl⟩

/-- What a permitted operation does. The thread expects nothing more, or what it did and what it asks for now;
and the operation enters a critical section, leaves one, or does neither. -/
theorem Op.execute_cases {op : Op β} (hmove : lockProtocol.move t op k = some k') (s : Shared) :
    (k'.expected = none ∨ k'.expected = (op.observe Sync.expects).or k.expected) ∧
    ((∃ criticalSection, op.observe Sync.enters = some criticalSection ∧ k'.held = criticalSection :: k.held ∧
      (execute t op s).2.owner = Function.update s.owner criticalSection (some t)) ∨
    (∃ criticalSection, k.held = criticalSection :: k'.held ∧
      (execute t op s).2.owner = Function.update s.owner criticalSection none) ∨
    k'.held = k.held ∧ (execute t op s).2.owner = s.owner) := by
  cases op with
  | access action =>
    cases hmove
    exact ⟨.inr rfl, .inr (.inr ⟨rfl, rfl⟩)⟩
  | sync op =>
    cases op with
    | enterCriticalSection criticalSection =>
      obtain ⟨-, hk⟩ := Option.ite_none_right_eq_some.mp hmove
      cases hk
      exact ⟨.inr rfl, .inl ⟨criticalSection, rfl, rfl, rfl⟩⟩
    | leaveCriticalSection criticalSection =>
      obtain ⟨hhead, hk⟩ := Option.ite_none_right_eq_some.mp hmove
      obtain ⟨rest, hrest⟩ := List.head?_eq_some_iff.mp hhead
      cases hk
      exact ⟨.inr rfl, .inr (.inl ⟨criticalSection, by rw [hrest, List.tail_cons], rfl⟩)⟩
    | resetEvent handle =>
      obtain ⟨-, hk⟩ := Option.ite_none_right_eq_some.mp hmove
      cases hk
      exact ⟨.inr rfl, .inr (.inr ⟨rfl, rfl⟩)⟩
    | waitForSingleObject handle | waitWithTimeout handle =>
      obtain ⟨hheld, hexpected⟩ := Phase.wait_cases hmove
      exact ⟨hexpected, .inr (.inr ⟨hheld, rfl⟩)⟩
    | _ =>
      cases hmove
      exact ⟨.inr rfl, .inr (.inr ⟨rfl, rfl⟩)⟩

theorem Op.execute_signaled {op : Op β} {s : Shared} {handle : Handle}
    (hmove : lockProtocol.move t op k = some k')
    (hawaited : handle.awaited ≠ none) (h : s.signaled handle = true) :
    (execute t op s).2.signaled handle = true := by
  cases op with
  | access action => exact h
  | sync op =>
    cases op with
    | setEvent handle' =>
      rcases eq_or_ne handle handle' with rfl | hne
      · exact update_self ..
      · exact (update_of_ne hne _ _).trans h
    | resetEvent handle' =>
      obtain ⟨hnone, -⟩ := Option.ite_none_right_eq_some.mp hmove
      have hne : handle ≠ handle' := fun heq => hawaited (heq ▸ hnone)
      exact (update_of_ne hne _ _).trans h
    | _ => exact h

theorem Op.permits_of_enters {op : Op β} {criticalSection : CriticalSection}
    (hmove : lockProtocol.move t op k = some k') (hop : op.observe Sync.enters = some criticalSection) :
    permits t k.held criticalSection = true := by
  cases op with
  | access action => cases hop
  | sync op =>
    cases op with
    | enterCriticalSection _ =>
      cases hop
      exact (Option.ite_none_right_eq_some.mp hmove).1
    | _ => cases hop

theorem Op.wait_of_waitsFor {op : Op β} {handle : Handle} (hmove : lockProtocol.move t op k = some k')
    (hop : op.observe Sync.waitsFor = some handle) : k.wait t handle = some k' := by
  cases op with
  | access action => cases hop
  | sync op =>
    cases op with
    | waitForSingleObject _ | waitWithTimeout _ =>
      cases hop
      exact hmove
    | _ => cases hop

variable {s : Shared} {phase : ThreadId → Phase}

theorem Exclusive.owner_eq_none {criticalSection : CriticalSection} {op : Op β}
    (hs : Exclusive s.owner phase)
    (hready : ready t op s = true) (hop : op.observe Sync.enters = some criticalSection)
    (hfresh : criticalSection ∉ (phase t).held) : s.owner criticalSection = none := by
  cases op with
  | access action => cases hop
  | sync op =>
    cases op with
    | enterCriticalSection _ =>
      cases hop
      rcases Bool.or_eq_true_iff.mp hready with hnone | hown
      · exact of_decide_eq_true hnone
      · exact absurd ((hs.owner_iff _ _).mp (of_decide_eq_true hown)) hfresh
    | _ => cases hop

variable {owner : CriticalSection → Option ThreadId} {criticalSection : CriticalSection}

theorem Exclusive.enter (hs : Exclusive owner phase) (hnone : owner criticalSection = none)
    (hheld : k.held = criticalSection :: (phase t).held) :
    Exclusive (Function.update owner criticalSection (some t)) (Function.update phase t k) := by
  have hfree : ∀ t', criticalSection ∉ (phase t').held := by
    intro t' hmem
    rw [← hs.owner_iff, hnone] at hmem
    cases hmem
  refine ⟨fun criticalSection' t' => ?_, fun t' => ?_⟩
  · have hsame := hs.owner_iff criticalSection' t'
    have hother := hfree t'
    by_cases hc : criticalSection' = criticalSection <;> by_cases ht : t' = t <;> simp_all [eq_comm]
  · by_cases ht : t' = t
    · subst ht
      rw [update_self, hheld, List.nodup_cons]
      exact ⟨hfree t', hs.nodup t'⟩
    · rw [update_of_ne ht]
      exact hs.nodup t'

theorem Exclusive.leave (hs : Exclusive owner phase)
    (hheld : (phase t).held = criticalSection :: k.held) :
    Exclusive (Function.update owner criticalSection none) (Function.update phase t k) := by
  have hnodup := hs.nodup t
  rw [hheld, List.nodup_cons] at hnodup
  have hown : owner criticalSection = some t := (hs.owner_iff _ _).mpr (hheld ▸ List.mem_cons_self)
  refine ⟨fun criticalSection' t' => ?_, fun t' => ?_⟩
  · have hsame := hs.owner_iff criticalSection' t'
    by_cases ht : t' = t
    · subst ht
      by_cases hc : criticalSection' = criticalSection <;> simp_all
    · have hother : criticalSection ∉ (phase t').held := by
        rw [← hs.owner_iff, hown]
        exact fun h => ht (Option.some.inj h).symm
      by_cases hc : criticalSection' = criticalSection <;> simp_all
  · by_cases ht : t' = t
    · subst ht
      rw [update_self]
      exact hnodup.2
    · rw [update_of_ne ht]
      exact hs.nodup t'

theorem Exclusive.execute {op : Op β} (hs : Exclusive s.owner phase) (hready : ready t op s = true)
    (hmove : lockProtocol.move t op (phase t) = some k) :
    Exclusive (execute t op s).2.owner (Function.update phase t k) := by
  obtain ⟨criticalSection, hop, hheld, hown⟩ | ⟨criticalSection, hheld, hown⟩ | ⟨hheld, hown⟩ :=
    (Op.execute_cases hmove s).2 <;> rw [hown]
  · exact hs.enter (hs.owner_eq_none hready hop (permits_fresh (Op.permits_of_enters hmove hop))) hheld
  · exact hs.leave hheld
  · have hsame : ∀ t', (update phase t k t').held = (phase t').held := by
      intro t'
      by_cases ht : t' = t
      · subst ht
        rw [update_self, hheld]
      · rw [update_of_ne ht]
    exact ⟨fun criticalSection t' => by rw [hsame]; exact hs.owner_iff criticalSection t',
      fun t' => by rw [hsame]; exact hs.nodup t'⟩

end Exclusion

/-! ## Runs -/

abbrev Process := Machine Op ThreadId Shared Phase

namespace Process

def init : Process where
  shared := Shared.init
  program _ := .ret ()
  phase _ := ⟨[], none⟩

def step (config : Config) (m : Process) : ThreadEvent → Process
  | .advance t => m.advance lockProtocol t
  | .clock now => { m with shared := { m.shared with manager := { m.shared.manager with clock := now } } }
  | event =>
    match event.begins config m.shared with
    | some (t, p) => m.start t p
    | none => m

def after (config : Config) (events : List ThreadEvent) : Process := events.foldl (step config) init

theorem step_cases (config : Config) (m : Process) (event : ThreadEvent) :
    (∃ t, event = .advance t ∧ m.step config event = m.advance lockProtocol t) ∨
    (∃ now, m.step config event =
      { m with shared := { m.shared with manager := { m.shared.manager with clock := now } } }) ∨
    (∃ t p, event.begins config m.shared = some (t, p) ∧ m.step config event = m.start t p) ∨
    m.step config event = m := by
  have hbegins : ∀ next, (next = match event.begins config m.shared with
      | some (t, p) => m.start t p
      | none => m) → (∃ t p, event.begins config m.shared = some (t, p) ∧ next = m.start t p) ∨ next = m := by
    rintro next rfl
    split
    · rename_i t p h
      exact .inl ⟨t, p, h, rfl⟩
    · exact .inr rfl
  cases event with
  | advance t => exact .inl ⟨t, rfl, rfl⟩
  | clock now => exact .inr (.inl ⟨now, rfl⟩)
  | _ => exact .inr (.inr (hbegins _ rfl))

/-- Every thread follows the protocol, and no two threads hold a critical section. -/
structure Sound (m : Process) : Prop where
  follows : m.Follows lockProtocol AtRest
  exclusive : Exclusive m.shared.owner m.phase

theorem init_sound : init.Sound where
  follows t := (show AtBase t ⟨[], none⟩ ∨ t = .executor by cases t <;> simp [AtBase, ThreadId.base]).elim
    AtBase.atRest fun h => h ▸ .inl rfl
  exclusive := ⟨fun criticalSection t => by simp [init, Shared.init], fun t => List.nodup_nil⟩

theorem Sound.step {config : Config} {m : Process} (hm : m.Sound) (event : ThreadEvent) :
    (m.step config event).Sound := by
  obtain ⟨t, -, hstep⟩ | ⟨now, hstep⟩ | ⟨t, p, hbegins, hstep⟩ | hstep := m.step_cases config event <;> rw [hstep]
  · refine ⟨hm.follows.advance t, ?_⟩
    refine hm.follows.invariant (I := fun s phase => Exclusive s.owner phase) hm.exclusive ?_
    exact fun op next k hop hready hmove => hm.exclusive.execute hready hmove
  · exact ⟨hm.follows, hm.exclusive⟩
  · refine ⟨hm.follows.start (begins_follows hm.exclusive hbegins), ?_⟩
    rw [Machine.start_shared, Machine.start_phase]
    exact hm.exclusive
  · exact hm

end Process

end FreeRDS.Manager
