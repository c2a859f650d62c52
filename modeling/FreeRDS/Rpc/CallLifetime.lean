import FreeRDS.Rpc.Engine

/-! # The end of a call

What a creator relies on: every call that the engine takes gets one result, and once the creator has
returned the engine has no pointer to the call any more.
-/

namespace FreeRDS.Rpc

open Lib List Engine List.Subset

namespace Engine

variable {e : Engine}

/-! ## Every call gets one result -/

/-- Every call that was taken has its one result, or is still on its way while freerds is served. -/
def Answered (e : Engine) : Prop :=
  ∀ call, (e.calls call).taken → (e.calls call).results.length = 1 ∨
    (e.calls call).results = [] ∧ e.thread.serves ∧ (call ∈ e.answerWaitingQueue ∨ 0 < e.thread.count call)

/-- A response that is found to belong to a call has one of the three statuses of the protocol, and
`serveClient` does not end while a call waits. -/
def Attended (e : Engine) (event : EngineEvent) : Prop :=
  match event, e.thread with
  | .setResult, .answering _ status => status = statusSuccess ∨ status = statusFailed ∨ status = statusNotFound
  | .disconnected, .serving | .stop, .serving => e.answerWaitingQueue = []
  | _, _ => True

/-- No call was lost on a response, and none waits for a client that has gone. -/
def Attends (e : Engine) : Prop :=
  (∀ call, (e.calls call).ignored = []) ∧ (e.thread.serves ∨ e.answerWaitingQueue = [])

theorem Tracks.of_pos {call : Nat} (h : e.Tracks call) (hpos : 0 < e.places call) :
    (e.calls call).taken = true ∧ e.places call = 1 := by
  have hplaces := h.places_eq
  by_cases htaken : (e.calls call).taken
  · rw [if_pos htaken] at hplaces
    exact ⟨htaken, hplaces⟩
  · rw [if_neg htaken] at hplaces
    omega

theorem answered_iff_attends (h : ∀ call, e.Tracks call) : e.Answered ↔ e.Attends := by
  constructor
  · intro hanswered
    -- A call that was lost, or that waits for nobody, is in no other place.
    constructor
    · intro call
      by_contra hne
      have hpos := length_pos_iff.mpr hne
      obtain ⟨htaken, hplaces⟩ := (h call).of_pos (by rw [places]; omega)
      rw [places] at hplaces
      obtain hone | ⟨-, -, hmem | hheld⟩ := hanswered call htaken
      · omega
      · have hcnt := count_pos_iff.mpr hmem
        omega
      · omega
    · by_contra hnot
      obtain ⟨hserves, hne⟩ := not_or.mp hnot
      obtain ⟨call, hmem⟩ := exists_mem_of_ne_nil _ hne
      have hcnt := count_pos_iff.mpr hmem
      obtain ⟨htaken, hplaces⟩ := (h call).of_pos (by rw [places]; omega)
      rw [places] at hplaces
      obtain hone | ⟨-, hserves', -⟩ := hanswered call htaken
      · omega
      · exact hserves hserves'
  · intro hattends call htaken
    obtain ⟨hignored, hserves⟩ := hattends
    have hplaces := (h call).places_eq
    rw [if_pos htaken, places, hignored call, length_nil] at hplaces
    by_cases hresults : (e.calls call).results = []
    · right
      rw [hresults, length_nil] at hplaces
      by_cases hwaits : call ∈ e.answerWaitingQueue
      · refine ⟨hresults, ?_, .inl hwaits⟩
        exact hserves.resolve_right (ne_nil_of_mem hwaits)
      · have hcnt := count_eq_zero.mpr hwaits
        have hheld : 0 < e.thread.count call := by omega
        refine ⟨hresults, ?_, .inr hheld⟩
        revert hheld
        cases e.thread <;> simp [ListenerThread.count, ListenerThread.serves]
    · left
      have hpos := length_pos_iff.mpr hresults
      omega

theorem resultOf_eq_none_iff (status : UInt32) :
    resultOf status = none ↔
      ¬(status = statusSuccess ∨ status = statusFailed ∨ status = statusNotFound) := by
  unfold resultOf
  split
  · simp_all
  · split
    · simp_all
    · split <;> simp_all

theorem update_ignored {calls : Nat → OutgoingCall} (h : ∀ call, (calls call).ignored = []) {call : Nat}
    {value : OutgoingCall} (hval : value.ignored = []) (other : Nat) :
    (Function.update calls call value other).ignored = [] := by
  revert other
  exact (Function.forall_update_iff calls fun _ c => c.ignored = []).mpr ⟨hval, fun other _ => h other⟩

theorem answer_attends (h : ∀ call, (e.calls call).ignored = []) (call : Nat) (status : UInt32) :
    (e.answer call status).Attends ↔ status = statusSuccess ∨ status = statusFailed ∨ status = statusNotFound := by
  unfold answer
  cases hres : resultOf status with
  | none =>
    have hstat := (resultOf_eq_none_iff status).mp hres
    refine iff_of_false (fun hattends => ?_) hstat
    have hignored := hattends.1 call
    simp [update] at hignored
  | some result =>
    have hstat := mt (resultOf_eq_none_iff status).mpr (by simp [hres])
    exact iff_of_true ⟨update_ignored h (h call), .inl rfl⟩ (not_not.mp hstat)

theorem addElement_attends (h : e.Attends) (creator : Creator) : (e.addElement creator).Attends := by
  unfold addElement
  split
  · exact h
  · exact ⟨update_ignored h.1 rfl, h.2⟩

theorem destroy_attends (h : e.Attends) (call : Nat) : (e.destroy call).Attends :=
  ⟨update_ignored h.1 (h.1 call), h.2⟩

section

variable (h : ∀ call, (e.calls call).ignored = [])

include h

theorem receive_attends (hthr : e.thread = .serving)
    (data : List UInt8) :
    (e.receive data).Attends := by
  have hserves : e.thread.serves := by rw [hthr]; rfl
  unfold receive
  split
  split
  · exact ⟨h, .inl hserves⟩
  · rw [processResponse]
    split
    · split
      · exact ⟨h, .inl hserves⟩
      · exact ⟨h, .inl rfl⟩
    · exact ⟨h, .inl hserves⟩

theorem take_attends : e.take.Attends := by
  unfold take
  split
  · exact ⟨h, .inl rfl⟩
  · exact ⟨update_ignored h (h _), .inl rfl⟩

theorem sent_attends (call : Nat) (success : Bool) :
    (e.sent call success).Attends := by
  cases success with
  | true => exact ⟨h, .inl rfl⟩
  | false => exact ⟨update_ignored h (h call), .inl rfl⟩

theorem leave_attends (thread : ListenerThread)
    (reader : Reader)
    (hthr : thread.serves = false) :
    Attends { e with thread := thread, reader := reader } ↔ e.answerWaitingQueue = [] := by
  simp [Attends, h, hthr]

end

theorem step_attends (h : e.Attends) (event : EngineEvent) :
    (e.step event).Attends ↔ e.Attended event := by
  have hignored := h.1
  unfold step Attended
  split
  next => exact iff_of_true (addElement_attends h _) trivial
  next =>
    split
    · exact iff_of_true (destroy_attends h _) trivial
    · exact iff_of_true h trivial
  next =>
    split
    · exact iff_of_true (destroy_attends h _) trivial
    · exact iff_of_true h trivial
  next => exact iff_of_true ⟨hignored, .inl rfl⟩ trivial
  next hthr => exact iff_of_true (receive_attends hignored hthr _) trivial
  next hthr =>
    rw [hthr]
    exact leave_attends hignored .accepting e.reader.resetStatus rfl
  next hthr =>
    rw [hthr]
    exact leave_attends hignored .stopped e.reader rfl
  next hthr =>
    have hwait : e.answerWaitingQueue = [] := by
      have hserves := h.2
      rw [hthr] at hserves
      exact hserves.resolve_left Bool.false_ne_true
    rw [hthr]
    exact iff_of_true ⟨hignored, .inr hwait⟩ trivial
  next => exact iff_of_true ⟨hignored, .inl rfl⟩ trivial
  next => exact iff_of_true (take_attends hignored) trivial
  next => exact iff_of_true (sent_attends hignored _ _) trivial
  next hthr =>
    rw [hthr]
    exact answer_attends hignored _ _
  next =>
    refine iff_of_true h ?_
    split <;> simp_all

end Engine

/-- In every run, every call that the engine takes gets exactly one result exactly if every response that
is found to belong to a call has the status success, failed or not found, and the engine neither loses
freerds nor is stopped while a call waits for its response. -/
theorem calls_answered_iff (header payloadBuffer : Memory UInt8) (events : List EngineEvent) :
    (∀ j, ((events.take j).foldl Engine.step (.new header payloadBuffer)).Answered) ↔
      Along Engine.step Engine.Attended (.new header payloadBuffer) events := by
  have htracks := new_tracks header payloadBuffer
  have hfirst : (new header payloadBuffer).Answered := nofun
  apply Along.always_iff (I := fun e => ∀ call, e.Tracks call) Engine.Answered ?_ ?_ htracks hfirst
  · intro e event h
    exact step_tracks h event
  · intro e event h hanswered
    rw [answered_iff_attends (step_tracks h event)]
    exact step_attends ((answered_iff_attends h).mp hanswered) event

namespace Sample

def engine : Engine := .new (fun _ => 0) fun _ => 0

/-- freerds is connected and has been sent the one call of the queue. -/
def sends (creator : Creator) : List EngineEvent :=
  [.addElement creator, .acceptClient, .resetEventAndLockQueue, .getElement, .send true, .getElement]

end Sample

/-- freerds goes away before it answers, and `TaskSwitchTo` waits for ever. -/
theorem lost_connection_never_answered :
    ¬((Sample.sends .taskSwitchTo ++ [EngineEvent.disconnected]).foldl Engine.step Sample.engine).Answered := by
  intro h
  have hcall := h 0 (by decide)
  revert hcall
  decide

/-! ## No pointer outlives its call -/

namespace Engine

variable {e : Engine}

def PointersLive (e : Engine) : Prop :=
  ∀ call, (e.calls call).returned → call ∉ e.outgoing ∧ call ∉ e.answerWaitingQueue

/-- A wait does not run out while its call is in a queue, and a call is not sent with success after its
wait has run out. -/
def InTime (e : Engine) (event : EngineEvent) : Prop :=
  match event, e.thread with
  | .timeout call, _ => e.CanTimeOut call → call ∉ e.outgoing ∧ call ∉ e.answerWaitingQueue
  | .send true, .sending call => (e.calls call).returned = false
  | _, _ => True

theorem PointersLive.mono {e' : Engine} (h : e.PointersLive)
    (hret : ∀ call, (e'.calls call).returned → (e.calls call).returned)
    (hout : e'.outgoing ⊆ e.outgoing)
    (hwait : e'.answerWaitingQueue ⊆ e.answerWaitingQueue) : e'.PointersLive := by
  intro call hcall
  obtain ⟨hnotout, hnotwaiting⟩ := h call (hret call hcall)
  exact ⟨mt (@hout call) hnotout, mt (@hwait call) hnotwaiting⟩

theorem update_returned {calls : Nat → OutgoingCall} {call other : Nat} {value : OutgoingCall}
    (hval : value.returned → (calls call).returned)
    (h : (Function.update calls call value other).returned) :
    (calls other).returned := by
  by_cases hcall : other = call
  · subst hcall
    rw [Function.update_self] at h
    exact hval h
  · rwa [Function.update_of_ne hcall] at h

theorem addElement_pointersLive (h : e.PointersLive) (creator : Creator) :
    (e.addElement creator).PointersLive := by
  unfold addElement
  split
  · exact h
  · intro call hret
    have hcall : call ≠ e.nextCall := by
      rintro rfl
      simp at hret
    obtain ⟨hout, hwait⟩ :=
      h call (update_returned (fun hnew => absurd hnew Bool.false_ne_true) hret)
    exact ⟨by simp [hout, hcall], hwait⟩

theorem destroy_pointersLive (h : e.PointersLive) (call : Nat) :
    (e.destroy call).PointersLive ↔ call ∉ e.outgoing ∧ call ∉ e.answerWaitingQueue := by
  constructor
  · intro hlive
    exact hlive call (by simp [destroy, update])
  · intro hcall other hret
    by_cases hother : other = call
    · rw [hother]
      exact hcall
    · apply h other
      simpa [destroy, update, hother] using hret

theorem Tracks.not_mem_of_results {call : Nat} (h : e.Tracks call)
    (hresults : (e.calls call).results ≠ []) :
    call ∉ e.outgoing ∧ call ∉ e.answerWaitingQueue := by
  have hpos := length_pos_iff.mpr hresults
  obtain ⟨htaken, hplaces⟩ := h.of_pos (by rw [places]; omega)
  have hout := h.outgoing_eq
  rw [htaken, if_neg (by simp)] at hout
  rw [places] at hplaces
  exact ⟨count_eq_zero.mp hout, count_eq_zero.mp (by omega)⟩

section

variable (h : e.PointersLive)

include h

theorem receive_pointersLive (data : List UInt8) :
    (e.receive data).PointersLive := by
  unfold receive
  split
  split
  · exact h
  · rw [processResponse]
    split
    · split
      · exact h
      · exact h.mono (fun _ hret => hret) (refl _) (filter_sublist.subset)
    · exact h

theorem take_pointersLive : e.take.PointersLive := by
  unfold take
  split
  · exact h
  · rename_i hout
    refine h.mono (fun _ => update_returned fun hret => hret) ?_ (refl _)
    rw [hout]
    exact subset_cons_self _ _

theorem sent_pointersLive (call : Nat) :
    (e.sent call true).PointersLive ↔ (e.calls call).returned = false := by
  constructor
  · intro hlive
    by_contra hret
    obtain ⟨-, hwait⟩ := hlive call (eq_true_of_ne_false hret)
    exact hwait (mem_append_right _ mem_cons_self)
  · intro hcall other hret
    obtain ⟨hout, hwait⟩ := h other hret
    have hother : other ≠ call := by
      rintro rfl
      exact Bool.false_ne_true (hcall.symm.trans hret)
    exact ⟨hout, by simp [sent, hwait, hother]⟩

theorem setResult_pointersLive (call : Nat) (result : UInt32) :
    (e.setResult call result).PointersLive :=
  h.mono (fun _ => update_returned fun hret => hret) (refl _) (refl _)

end

theorem step_pointersLive (htracks : ∀ call, e.Tracks call) (h : e.PointersLive) (event : EngineEvent) :
    (e.step event).PointersLive ↔ e.InTime event := by
  unfold step InTime
  split
  next => exact iff_of_true (addElement_pointersLive h _) trivial
  next _ call =>
    split
    · rename_i hwake
      have hcall := (htracks call).not_mem_of_results hwake.2
      exact iff_of_true ((destroy_pointersLive h call).mpr hcall) trivial
    · exact iff_of_true h trivial
  next _ call =>
    split
    · rename_i htimeout
      exact (destroy_pointersLive h call).trans ⟨fun hcall _ => hcall, fun hcall => hcall htimeout⟩
    · rename_i htimeout
      exact iff_of_true h fun hcan => absurd hcan htimeout
  next => exact iff_of_true h trivial
  next => exact iff_of_true (receive_pointersLive h _) trivial
  next => exact iff_of_true h trivial
  next => exact iff_of_true h trivial
  next => exact iff_of_true h trivial
  next => exact iff_of_true h trivial
  next => exact iff_of_true (take_pointersLive h) trivial
  next success call hthr =>
    cases success with
    | true =>
      rw [hthr]
      exact sent_pointersLive h call
    | false => exact iff_of_true (setResult_pointersLive h call 1) trivial
  next call status _ =>
    refine iff_of_true ?_ trivial
    unfold answer
    cases resultOf status with
    | none =>
      exact h.mono (fun _ => update_returned fun hret => hret) (refl _) (refl _)
    | some result => exact setResult_pointersLive h call result
  next =>
    refine iff_of_true h ?_
    split <;> simp_all

end Engine

/-- In every interleaving, no queue of the engine ever has a pointer to a destroyed call exactly if no
creator's wait runs out while its call is in a queue, and no call is sent with success after its creator's
wait has run out. Only `TaskModuleShutdown` has a wait that can run out. -/
theorem pointers_live_iff (header payloadBuffer : Memory UInt8) (events : List EngineEvent) :
    (∀ j, ((events.take j).foldl Engine.step (.new header payloadBuffer)).PointersLive) ↔
      Along Engine.step Engine.InTime (.new header payloadBuffer) events := by
  have htracks := new_tracks header payloadBuffer
  have hfirst : (new header payloadBuffer).PointersLive := nofun
  apply Along.always_iff (I := fun e => ∀ call, e.Tracks call) Engine.PointersLive ?_ ?_ htracks hfirst
  · intro e event h
    exact step_tracks h event
  · intro e event h hlive
    exact step_pointersLive h hlive event

/-- freerds takes longer than five seconds to answer, and its answer finds a destroyed call. -/
theorem shutdown_timeout_dangles :
    ¬((Sample.sends .taskModuleShutdown ++ [EngineEvent.timeout 0]).foldl Engine.step
      Sample.engine).PointersLive := by
  intro h
  have hcall := h 0 (by decide)
  revert hcall
  decide

end FreeRDS.Rpc
