import FreeRDS.Pbrpc.Context

/-! # The payload of a queued message

A message in the write queue has a pointer to the request that its stub has packed, and the stub frees the
request once `pbrpc_call_method` has returned. Nothing makes the call wait until its message has been sent.
-/

namespace FreeRDS.Pbrpc

open Lib

namespace Context

variable {s : Context} {i : Nat}

def PayloadsAllocated (s : Context) : Prop :=
  ∀ i, 0 < s.loop.sends i → (s.calls i).streamAllocated = true

def messages (s : Context) (i : Nat) : Nat := s.writeQueue.count i + s.loop.sends i

/-- The message of a call has been in the write queue and is not any more, nor is it being sent. -/
def Sent (s : Context) (i : Nat) : Prop := ¬(s.calls i).Unqueued ∧ s.messages i = 0

instance (s : Context) (i : Nat) : Decidable (s.Sent i) := inferInstanceAs (Decidable (_ ∧ _))

/-- A synchronous call is only given up, answered or taken from the dictionary by `pbrpc_reconnect` when its
message has been sent. -/
def SentFirst (s : Context) : Event → Prop
  | .removeTransaction i => s.getItemValue (s.calls i).callId ≠ none → s.Sent i
  | .receive response => ∀ i ∈ s.getItemValue response.callId, (s.calls i).kind = .callMethod → s.Sent i
  | .removeHead i => (s.calls i).kind = .callMethod → s.Sent i
  | _ => True

instance (s : Context) : (event : Event) → Decidable (s.SentFirst event)
  | .removeTransaction _ => inferInstanceAs (Decidable (_ → _))
  | .receive _ => Option.decidableForallMem _
  | .removeHead _ => inferInstanceAs (Decidable (_ → _))
  | .call _ | .getTag _ | .addTransaction _ | .enqueue _ | .wake _ | .timeout _ | .leave _ | .freeStream _
  | .serverStop | .connect _ | .remove _ _ | .callback _ _ | .readFails | .beginWriting | .dequeue _
  | .writeHeader _ _ | .writePayload _ _ | .endWriting _ | .clearQueue | .drainCallback _ | .endDraining
  | .exit => inferInstanceAs (Decidable True)

/-- What ends the wait of a synchronous call comes after its message. -/
structure Ordered (s : Context) : Prop where
  messages_le : ∀ i, s.messages i ≤ 1
  unqueued : ∀ i, (s.calls i).Unqueued → s.messages i = 0
  settled : ∀ i, (s.calls i).kind = .callMethod →
    (s.calls i).invocations ≠ [] ∨ (s.calls i).Finished ∨ s.loop.answers = some i → s.Sent i
  stream : ∀ i, (s.calls i).streamAllocated = false →
    (s.calls i).kind = .callMethod ∧ (s.calls i).progress = .returned
  absent : ∀ i, s.nextCall ≤ i → s.calls i = {}

theorem new_ordered : new.Ordered where
  messages_le _ := Nat.zero_le _
  unqueued _ _ := rfl
  settled i _ h := by simp [new, Call.Finished, MainLoop.answers] at h
  stream _ := nofun
  absent _ _ := rfl

theorem Ordered.payloadsAllocated (h : s.Ordered) : s.PayloadsAllocated := by
  intro i hsends
  by_contra hfreed
  obtain ⟨hkind, hret⟩ := h.stream i (eq_false_of_ne_true hfreed)
  obtain ⟨-, hzero⟩ := h.settled i hkind (.inr (.inl (.inr hret)))
  rw [messages] at hzero
  omega

/-! ## Three kinds of steps -/

theorem Ordered.mono {s' : Context} (h : s.Ordered) (hcalls : s'.calls = s.calls)
    (hnext : s'.nextCall = s.nextCall)
    (hmsgs : ∀ i, s'.messages i ≤ s.messages i)
    (hans : ∀ i, s'.loop.answers = some i → (s.calls i).kind = .callMethod → s.Sent i) :
    s'.Ordered := by
  have hsent : ∀ i, s.Sent i → s'.Sent i := by
    intro i ⟨hqueued, hzero⟩
    refine ⟨by rwa [hcalls], ?_⟩
    exact Nat.eq_zero_of_le_zero (hzero ▸ hmsgs i)
  refine ⟨?_, ?_, ?_, ?_, ?_⟩
  · intro i
    exact Nat.le_trans (hmsgs i) (h.messages_le i)
  · rw [hcalls]
    intro i hunq
    exact Nat.eq_zero_of_le_zero (h.unqueued i hunq ▸ hmsgs i)
  · rw [hcalls]
    intro i hkind hend
    obtain hinvoked | hfinished | hloop := hend
    · exact hsent i (h.settled i hkind (.inl hinvoked))
    · exact hsent i (h.settled i hkind (.inr (.inl hfinished)))
    · exact hsent i (hans i hloop hkind)
  · rw [hcalls]
    exact h.stream
  · rw [hcalls, hnext]
    exact h.absent

variable (h : s.Ordered)

include h

theorem Ordered.set {call : Call} {n : Nat} (hn : s.nextCall ≤ n) (hi : i < n)
    (hunq : call.Unqueued → s.messages i = 0)
    (hsettled : call.kind = .callMethod → call.invocations ≠ [] ∨ call.Finished ∨ s.loop.answers = some i →
      ¬call.Unqueued ∧ s.messages i = 0)
    (hstrm : call.streamAllocated = false → call.kind = .callMethod ∧ call.progress = .returned) :
    Ordered { s with calls := Function.update s.calls i call, nextCall := n } := by
  refine ⟨h.messages_le, ?_, ?_, ?_, ?_⟩
  · exact (Function.forall_update_iff s.calls fun j c => c.Unqueued → s.messages j = 0).mpr
      ⟨hunq, fun j _ => h.unqueued j⟩
  · exact (Function.forall_update_iff s.calls fun j c => c.kind = .callMethod →
      c.invocations ≠ [] ∨ c.Finished ∨ s.loop.answers = some j → ¬c.Unqueued ∧ s.messages j = 0).mpr
      ⟨hsettled, fun j _ => h.settled j⟩
  · exact (Function.forall_update_iff s.calls fun _ c =>
      c.streamAllocated = false → c.kind = .callMethod ∧ c.progress = .returned).mpr
      ⟨hstrm, fun j _ => h.stream j⟩
  · refine (Function.forall_update_iff s.calls fun j c => n ≤ j → c = {}).mpr ⟨?_, ?_⟩
    · intro hle
      omega
    · intro j _ hle
      exact h.absent j (Nat.le_trans hn hle)

theorem Ordered.push (hzero : s.messages i = 0) (hqueued : ¬(s.calls i).Unqueued)
    (hopen : (s.calls i).kind = .callMethod →
      ¬((s.calls i).invocations ≠ [] ∨ (s.calls i).Finished ∨ s.loop.answers = some i)) :
    Ordered { s with writeQueue := s.writeQueue ++ [i] } := by
  have hcnt : ∀ j, messages { s with writeQueue := s.writeQueue ++ [i] } j =
      s.messages j + if i = j then 1 else 0 := by
    intro j
    simp only [messages, List.count_append, List.count_singleton, beq_iff_eq]
    omega
  refine ⟨?_, ?_, ?_, h.stream, h.absent⟩
  · intro j
    rw [hcnt j]
    by_cases hj : i = j
    · subst hj
      simp [hzero]
    · rw [if_neg hj]
      exact h.messages_le j
  · intro j hunq
    have hj : i ≠ j := fun hj => hqueued (hj ▸ hunq)
    rw [hcnt j, if_neg hj]
    exact h.unqueued j hunq
  · intro j hkind hend
    have hj : i ≠ j := by
      rintro rfl
      exact hopen hkind hend
    refine ⟨(h.settled j hkind hend).1, ?_⟩
    rw [hcnt j, if_neg hj]
    exact (h.settled j hkind hend).2

/-! ## One step -/

theorem Ordered.lt_nextCall (hprog : (s.calls i).progress ≠ .absent) :
    i < s.nextCall := by
  by_contra hle
  rw [h.absent i (Nat.le_of_not_lt hle)] at hprog
  exact hprog rfl

theorem Ordered.not_settled (hunq : (s.calls i).Unqueued)
    (hkind : (s.calls i).kind = .callMethod) :
    ¬((s.calls i).invocations ≠ [] ∨ (s.calls i).Finished ∨ s.loop.answers = some i) :=
  fun hend => (h.settled i hkind hend).1 hunq

theorem Ordered.setProgress {progress : Progress}
    (habsent : (s.calls i).progress ≠ .absent)
    (hret : (s.calls i).progress ≠ .returned)
    (hunq : Call.Unqueued { s.calls i with progress := progress } → (s.calls i).Unqueued)
    (hfinished : (s.calls i).kind = .callMethod →
      Call.Finished { s.calls i with progress := progress } → s.Sent i) :
    (s.setProgress i progress).Ordered := by
  apply h.set (Nat.le_refl _) (h.lt_nextCall habsent)
  · intro hcall
    exact h.unqueued i (hunq hcall)
  · intro hkind hend
    have hsent : s.Sent i := by
      obtain hinvoked | hend | hloop := hend
      · exact h.settled i hkind (.inl hinvoked)
      · exact hfinished hkind hend
      · exact h.settled i hkind (.inr (.inr hloop))
    exact ⟨fun hcall => hsent.1 (hunq hcall), hsent.2⟩
  · intro hfreed
    exact absurd (h.stream i hfreed).2 hret

theorem Ordered.call (kind : Kind) : (s.next (.call kind)).Ordered := by
  have hnew : s.calls s.nextCall = {} := h.absent _ (Nat.le_refl _)
  have hunq : (s.calls s.nextCall).Unqueued := by
    rw [hnew]
    exact .inl (.inl rfl)
  have hzero := h.unqueued _ hunq
  have hloop : s.loop.answers ≠ some s.nextCall := by
    intro hans
    exact h.not_settled hunq (by rw [hnew]) (.inr (.inr hans))
  refine h.set (Nat.le_succ _) (Nat.lt_succ_self _) (fun _ => hzero) ?_ ?_
  · unfold entered
    split
    · simp [Call.Finished, hloop]
    · cases kind <;> simp [Call.Unqueued, Call.Early, hzero]
  · unfold entered
    split
    · exact nofun
    · cases kind <;> exact nofun

theorem Ordered.sent_of_answers :
    ∀ i, s.loop.answers = some i → (s.calls i).kind = .callMethod → s.Sent i :=
  fun i hloop hkind => h.settled i hkind (.inr (.inr hloop))

theorem Ordered.getTag (hprog : (s.calls i).progress = .connected) :
    (s.next (.getTag i)).Ordered := by
  have hunq : (s.calls i).Unqueued := .inl (.inr (.inl hprog))
  have hset : Ordered (s.update i fun call => { call with callId := s.tag + 1, progress := .tagged }) := by
    apply h.set (Nat.le_refl _) (h.lt_nextCall (by simp [hprog]))
    · intro _
      exact h.unqueued i hunq
    · intro hkind hend
      have hnot := h.not_settled hunq hkind
      simp only [Call.Finished, reduceCtorEq, or_self, false_or] at hend
      exact absurd (hend.imp_right .inr) hnot
    · intro hfreed
      rw [(h.stream i hfreed).2] at hprog
      cases hprog
  exact hset.mono rfl rfl (fun _ => Nat.le_refl _) hset.sent_of_answers

theorem Ordered.addTransaction (hprog : (s.calls i).progress = .tagged) :
    (s.next (.addTransaction i)).Ordered := by
  have hadd : Ordered { s with transactions := s.transactions ++ [((s.calls i).callId, i)] } :=
    h.mono rfl rfl (fun _ => Nat.le_refl _) h.sent_of_answers
  apply hadd.setProgress
  · simp [hprog]
  · simp [hprog]
  · intro _
    exact .inl (.inr (.inr hprog))
  · simp [Call.Finished]

theorem Ordered.enqueue (hprog : (s.calls i).progress = .registered) :
    (s.next (.enqueue i)).Ordered := by
  have hunq : (s.calls i).Unqueued := .inr hprog
  have hzero := h.unqueued i hunq
  have hopen := h.not_settled hunq
  let progress : Progress := if (s.calls i).kind = Kind.callMethod then .waiting else .returned
  have hset : (s.setProgress i progress).Ordered := by
    apply h.setProgress
    · simp [hprog]
    · simp [hprog]
    · intro _
      exact hunq
    · intro hkind
      simp [Call.Finished, progress, hkind]
  have hcall := setProgress_calls_self s i progress
  refine hset.push hzero ?_ ?_
  · rw [hcall]
    cases hkind : (s.calls i).kind <;> simp [Call.Unqueued, Call.Early, progress, hkind]
  · rw [hcall]
    intro hkind hend
    have hkind' : (s.calls i).kind = .callMethod := hkind
    simp only [Call.Finished, progress, hkind', if_true, reduceCtorEq, or_self, false_or] at hend
    exact hopen hkind (hend.imp_right .inr)

theorem Ordered.wake (hprog : (s.calls i).progress = .waiting ∨ (s.calls i).progress = .waitingForever)
    (hanswered : (s.calls i).invocations ≠ []) : (s.next (.wake i)).Ordered := by
  apply h.setProgress
  · obtain hprog | hprog := hprog <;> simp [hprog]
  · obtain hprog | hprog := hprog <;> simp [hprog]
  · simp [Call.Unqueued, Call.Early]
  · intro hkind _
    exact h.settled i hkind (.inl hanswered)

theorem Ordered.removeTransaction (hprog : (s.calls i).progress = .timedOut)
    (hfirst : s.SentFirst (.removeTransaction i)) : (s.next (.removeTransaction i)).Ordered := by
  simp only [next]
  split
  · apply h.setProgress
    · simp [hprog]
    · simp [hprog]
    · simp [Call.Unqueued, Call.Early]
    · simp [Call.Finished]
  · rename_i j hlookup
    have hremoved : (s.removeItem (s.calls i).callId).Ordered :=
      h.mono rfl rfl (fun _ => Nat.le_refl _) h.sent_of_answers
    apply hremoved.setProgress
    · simp [removeItem, hprog]
    · simp [removeItem, hprog]
    · simp [Call.Unqueued, Call.Early]
    · intro _ _
      exact hfirst (by simp [hlookup])

theorem Ordered.leave (hprog : (s.calls i).progress = .finishing) :
    (s.next (.leave i)).Ordered := by
  apply h.setProgress
  · simp [hprog]
  · simp [hprog]
  · simp [Call.Unqueued, Call.Early]
  · intro hkind _
    exact h.settled i hkind (.inr (.inl (.inl hprog)))

theorem Ordered.freeStream (hprog : (s.calls i).progress = .returned)
    (hkind : (s.calls i).kind = .callMethod) : (s.next (.freeStream i)).Ordered := by
  apply h.set (Nat.le_refl _) (h.lt_nextCall (by simp [hprog]))
  · exact h.unqueued i
  · exact h.settled i
  · intro _
    exact ⟨hkind, hprog⟩

theorem Ordered.setLoop {loop : MainLoop} (hans : loop.answers = none)
    (hsends : ∀ i, loop.sends i ≤ s.loop.sends i) (isConnected : Bool) :
    Ordered { s with loop := loop, isConnected := isConnected } := by
  have hmsgs : ∀ i, messages { s with loop := loop, isConnected := isConnected } i ≤ s.messages i := by
    intro i
    exact Nat.add_le_add_left (hsends i) _
  refine h.mono rfl rfl hmsgs ?_
  intro i hi
  exact absurd (hans.symm.trans hi) nofun

theorem Ordered.invoke {loop : MainLoop} {reason : UInt32} {response : Option Response}
    (hans : s.loop.answers = some i) (hloop : loop.answers = none)
    (hsends : ∀ j, loop.sends j = 0) :
    ({ s with loop := loop }.invoke i reason response).Ordered := by
  have hle : ∀ j, loop.sends j ≤ s.loop.sends j := by
    intro j
    rw [hsends j]
    exact Nat.zero_le _
  have hset := h.setLoop hloop hle s.isConnected
  have hsent := h.sent_of_answers i hans
  have hlt : i < s.nextCall := by
    by_contra hge
    have hnew := h.absent i (Nat.le_of_not_lt hge)
    obtain ⟨hqueued, -⟩ := hsent (by rw [hnew])
    rw [hnew] at hqueued
    exact hqueued (.inl (.inl rfl))
  apply hset.set (Nat.le_refl _) hlt
  · exact hset.unqueued i
  · intro hkind _
    obtain ⟨hqueued, hzero⟩ := hsent hkind
    refine ⟨hqueued, ?_⟩
    have hcnt := Nat.add_le_add_left (hle i) (s.writeQueue.count i)
    exact Nat.eq_zero_of_le_zero (Nat.le_trans hcnt (Nat.le_of_eq hzero))
  · exact hset.stream i

theorem Ordered.dequeue (hhead : s.writeQueue.head? = some i) :
    (s.next (.dequeue i)).Ordered := by
  have hcons : s.writeQueue = i :: s.writeQueue.tail := List.eq_cons_of_mem_head? hhead
  refine h.mono rfl rfl ?_ nofun
  intro j
  have hcnt : s.writeQueue.count j = s.writeQueue.tail.count j + if i = j then 1 else 0 := by
    rw [hcons, List.tail_cons, List.count_cons]
    simp
  show s.writeQueue.tail.count j + (if i = j then 1 else 0) ≤ s.writeQueue.count j + s.loop.sends j
  omega

theorem Ordered.next {event : Event} (henb : s.Enabled event)
    (hfirst : s.SentFirst event) :
    (s.next event).Ordered := by
  cases event with
  | call kind => exact h.call kind
  | getTag i => exact h.getTag henb
  | addTransaction i => exact h.addTransaction henb
  | enqueue i => exact h.enqueue henb
  | wake i => exact h.wake henb.1 henb.2
  | timeout i =>
    obtain ⟨hprog, -⟩ := henb
    apply h.setProgress
    · simp [hprog]
    · simp [hprog]
    · simp [Call.Unqueued, Call.Early]
    · simp [Call.Finished]
  | removeTransaction i => exact h.removeTransaction henb hfirst
  | leave i => exact h.leave henb.1
  | freeStream i => exact h.freeStream henb.1 henb.2
  | serverStop => exact h.mono rfl rfl (fun _ => Nat.le_refl _) h.sent_of_answers
  | connect opened => cases opened <;> exact h.setLoop rfl (fun _ => Nat.zero_le _) _
  | receive response =>
    simp only [Context.next]
    split
    · exact h
    · rename_i i hlookup
      refine h.mono rfl rfl (fun _ => Nat.add_le_add_left (Nat.zero_le _) _) ?_
      intro j hj
      cases hj
      exact hfirst i hlookup
  | remove response i =>
    have hloop : s.loop = .found response i := henb
    refine h.mono rfl rfl (fun _ => Nat.add_le_add_left (Nat.zero_le _) _) ?_
    intro j hj
    cases hj
    exact h.sent_of_answers i (by rw [hloop]; rfl)
  | callback response i =>
    have hloop : s.loop = .removed response i := henb
    exact h.invoke (by rw [hloop]; rfl) rfl fun _ => rfl
  | readFails | beginWriting | endDraining | exit => exact h.setLoop rfl (fun _ => Nat.zero_le _) _
  | dequeue i => exact h.dequeue henb.2
  | writeHeader i written =>
    have hloop : s.loop = .dequeued i := henb
    cases written with
    | true => exact h.setLoop rfl (fun _ => by rw [hloop]; exact Nat.le_refl _) _
    | false => exact h.setLoop rfl (fun _ => Nat.zero_le _) _
  | writePayload i written => cases written <;> exact h.setLoop rfl (fun _ => Nat.zero_le _) _
  | endWriting failed => cases failed <;> exact h.setLoop rfl (fun _ => Nat.zero_le _) _
  | clearQueue => exact h.mono rfl rfl (fun _ => Nat.zero_le _) nofun
  | removeHead i =>
    refine h.mono rfl rfl (fun _ => Nat.add_le_add_left (Nat.zero_le _) _) ?_
    intro j hj
    cases hj
    exact hfirst
  | drainCallback i =>
    have hloop : s.loop = .drained i := henb
    exact h.invoke (by rw [hloop]; rfl) rfl fun _ => rfl

theorem Ordered.step {event : Event} (hfirst : s.SentFirst event) :
    (s.step event).Ordered := by
  unfold Context.step
  split
  · rename_i henb
    exact h.next henb hfirst
  · exact h

end Context

/-- In every interleaving in which a synchronous call takes its transaction back after a timeout, gets a
response, or is taken from the dictionary by `pbrpc_reconnect` only when its message has been sent or
cleared, the main loop sends nothing that has been freed. -/
theorem payloads_allocated (events : List Event)
    (hfirst : Along Context.step Context.SentFirst .new events) :
    (events.foldl Context.step .new).PayloadsAllocated := by
  have hord : (events.foldl Context.step .new).Ordered := by
    apply Along.invariant _ Context.new_ordered hfirst
    intro s event h hev
    exact h.step hev
  exact hord.payloadsAllocated

namespace Sample

/-- A call that gets its response, one that times out, and one whose message is being sent. -/
def inOrder : List Event :=
  [.connect true] ++ sent 0 ++
    [.receive ⟨1, 0⟩, .remove ⟨1, 0⟩ 0, .callback ⟨1, 0⟩ 0, .wake 0, .leave 0, .freeStream 0] ++
    sent 1 ++ [.timeout 1, .removeTransaction 1, .leave 1, .freeStream 1] ++ (sent 2).take 6

/-- The connection is lost after the transaction of a call is registered and before its message is queued. -/
def drainedEarly : List Event :=
  [.connect true, .call .callMethod, .getTag 0, .addTransaction 0, .readFails, .clearQueue, .removeHead 0,
    .drainCallback 0, .endDraining, .enqueue 0, .wake 0, .leave 0, .freeStream 0, .connect true, .beginWriting,
    .dequeue 0]

end Sample

theorem inOrder_payloads_allocated : (Sample.inOrder.foldl Context.step .new).PayloadsAllocated :=
  payloads_allocated Sample.inOrder (by decide +kernel)

/-- The message is sent over the new connection, and its payload has been freed. -/
theorem drainedEarly_payload_freed :
    ¬(Sample.drainedEarly.foldl Context.step .new).PayloadsAllocated := by
  intro h
  have hallocated := h 0 (by decide +kernel)
  exact absurd hallocated (by decide +kernel)

end FreeRDS.Pbrpc
