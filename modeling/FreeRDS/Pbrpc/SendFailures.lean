import FreeRDS.Lib.Dictionary
import FreeRDS.Pbrpc.Context

/-! # Messages that cannot be sent

The main loop takes message after message out of the write queue and looks at the status only when the queue is
empty, so it sees what became of the last message. A call whose message was lost before that is not told: its
transaction stays in the dictionary, and the loop waits for a response that nobody will send.
-/

namespace FreeRDS.Pbrpc

open Lib Context List

namespace Event

/-- The call whose request `pbrpc_process_message_out` fails to send. -/
def unsent : Event → Option Nat
  | .writeHeader i false | .writePayload i false => some i
  | _ => none

def registers : Event → Option Nat
  | .addTransaction i => some i
  | _ => none

/-- The loop calls `pbrpc_reconnect`. -/
def reconnects : Event → Bool
  | .readFails | .endWriting true => true
  | _ => false

end Event

namespace Context

/-- The call whose transaction is taken out for a response or after a timeout. -/
def settles (s : Context) : Event → Option Nat
  | .remove response _ => s.getItemValue response.callId
  | .removeTransaction i => s.getItemValue (s.calls i).callId
  | _ => none

end Context

structure Watched where
  context : Context
  /-- A message could not be sent, and `pbrpc_reconnect` has not been called since. -/
  missed : Bool
  registered : List Nat
  unsent : List Nat
  /-- The calls whose transaction was taken out for a response or after a timeout. -/
  settled : List Nat

namespace Watched

def new : Watched where
  context := .new
  missed := false
  registered := []
  unsent := []
  settled := []

variable (s : Watched) (event : Event)

def next : Watched where
  context := s.context.next event
  missed := !event.reconnects && (s.missed || event.unsent.isSome)
  registered := event.registers.toList ++ s.registered
  unsent := event.unsent.toList ++ s.unsent
  settled := (s.context.settles event).toList ++ s.settled

def step : Watched := if s.context.Enabled event then s.next event else s

/-- The transaction is over, with `PBRCP_TRANSPORT_ERROR` unless it had been taken out before. -/
def Completed (s : Watched) (i : Nat) : Prop :=
  (∃ invocation ∈ (s.context.calls i).invocations, invocation.reason = transportError) ∨ i ∈ s.settled

/-- When the loop waits, it has called `pbrpc_reconnect` after every failure to send, and every transaction whose
request was not sent is over. -/
def Noticed (s : Watched) : Prop :=
  s.context.loop = .waiting → s.missed = false ∧ ∀ i ∈ s.unsent, s.Completed i

instance (s : Watched) (i : Nat) : Decidable (s.Completed i) := inferInstanceAs (Decidable (_ ∨ _))

instance (s : Watched) : Decidable s.Noticed := inferInstanceAs (Decidable (_ → _))

/-- When the queue has run empty, the last message could not be sent, or all messages were sent. -/
def LastSendDecides : Prop :=
  event = .endWriting false → s.context.Enabled event → s.missed = false

end Watched

/-! ## What a step does to one transaction -/

namespace Context

variable {s : Context} {i : Nat} {event : Event}

/-- `pbrpc_reconnect` has closed the pipe, and has not emptied the dictionary. -/
def Reconnecting (s : Context) : Prop :=
  s.loop = .closed ∨ s.loop = .draining ∨ ∃ i, s.loop = .drained i

def Registered (s : Context) (i : Nat) : Prop := ∃ entry ∈ s.transactions, entry.2 = i

@[simp] theorem update_invocations (s : Context) (j : Nat) (f : Call → Call) (i : Nat)
    (hf : ∀ call, (f call).invocations = call.invocations) :
    ((s.update j f).calls i).invocations = (s.calls i).invocations := by
  by_cases h : i = j
  · subst h
    simp [update, hf]
  · simp [update, Function.update_of_ne h]

@[simp] theorem setProgress_invocations (s : Context) (j : Nat) (progress : Progress) (i : Nat) :
    ((s.setProgress j progress).calls i).invocations = (s.calls i).invocations :=
  update_invocations _ _ _ _ fun _ => rfl

theorem invoke_invocations (s : Context) (j : Nat) (reason : UInt32) (response : Option Response) (i : Nat) :
    (s.calls i).invocations ⊆ ((s.invoke j reason response).calls i).invocations := by
  by_cases h : i = j
  · subst h
    simp [invoke, update]
  · simp [invoke, update, Function.update_of_ne h]

theorem invocations_next (hi : i < s.nextCall) (event : Event) :
    (s.calls i).invocations ⊆ ((s.next event).calls i).invocations := by
  cases event with
  | call kind => simp [next, Function.update_of_ne (Nat.ne_of_lt hi)]
  | callback response j => exact invoke_invocations { s with loop := .waiting } j _ _ i
  | drainCallback j => exact invoke_invocations { s with loop := .draining } j _ _ i
  | removeTransaction j =>
    simp only [next]
    split <;> simp [removeItem]
  | connect opened | endWriting failed | receive response =>
    simp only [next]
    split <;> simp
  | _ => simp [next, removeItem]

theorem Registered.removeItem (h : s.Registered i) (callId : UInt32) :
    (s.removeItem callId).Registered i ∨ s.getItemValue callId = some i := by
  obtain ⟨entry, hentry, rfl⟩ := h
  rcases mem_eraseP_or_find? (p := fun entry => entry.1 = callId) hentry with hkept | hfound
  · exact .inl ⟨entry, hkept, rfl⟩
  · exact .inr (by simp [getItemValue, hfound])

theorem Registered.next (h : s.Registered i) (henb : s.Enabled event) :
    (s.next event).Registered i ∨ (s.next event).loop = .drained i ∨ i ∈ (s.settles event).toList := by
  cases event with
  | addTransaction j =>
    obtain ⟨entry, hentry, hi⟩ := h
    exact .inl ⟨entry, mem_append_left _ hentry, hi⟩
  | remove response j =>
    rcases h.removeItem response.callId with hkept | hfound
    · exact .inl hkept
    · exact .inr (.inr (by simp [settles, hfound]))
  | removeTransaction j =>
    rcases h.removeItem (s.calls j).callId with hkept | hfound
    · refine .inl ?_
      simp only [next]
      split
      · exact h
      · exact hkept
    · exact .inr (.inr (by simp [settles, hfound]))
  | removeHead j =>
    obtain ⟨entry, hentry, hi⟩ := h
    obtain ⟨-, hhead⟩ := henb
    cases htrxs : s.transactions with
    | nil => simp [htrxs] at hentry
    | cons first others =>
      rw [htrxs] at hentry hhead
      rcases mem_cons.mp hentry with rfl | hothers
      · refine .inr (.inl ?_)
        have hij : i = j := by simpa [hi] using hhead
        simp [next, hij]
      · exact .inl ⟨entry, by simpa [next, htrxs] using hothers, hi⟩
  | connect opened | endWriting failed | receive response =>
    simp only [next]
    split <;> exact .inl h
  | _ => exact .inl h

theorem drained_next (h : s.loop = .drained i) (henb : s.Enabled event) :
    (s.next event).loop = .drained i ∨
      ∃ invocation ∈ ((s.next event).calls i).invocations, invocation.reason = transportError := by
  cases event with
  | drainCallback j =>
    simp only [Enabled, h, MainLoop.drained.injEq] at henb
    subst henb
    exact .inr (by simp [next, invoke, update])
  | removeTransaction j =>
    simp only [next]
    split <;> exact .inl h
  | call _ | getTag _ | addTransaction _ | enqueue _ | wake _ | timeout _ | leave _ | freeStream _ | serverStop =>
    exact .inl h
  | _ => simp [Enabled, h] at henb

/-! ## What a step does to one call -/

theorem nextCall_le_next (s : Context) (event : Event) : s.nextCall ≤ (s.next event).nextCall := by
  cases event with
  | call kind => exact Nat.le_succ _
  | removeTransaction j | receive response | connect opened | endWriting failed =>
    simp only [next]
    split <;> exact Nat.le_refl _
  | _ => exact Nat.le_refl _

theorem lt_nextCall (habsent : ∀ i, s.nextCall ≤ i → (s.calls i).progress = .absent)
    (h : (s.calls i).progress ≠ .absent) : i < s.nextCall := by
  by_contra hle
  exact h (habsent i (Nat.not_lt.mp hle))

theorem update_progress (calls : Nat → Call) {call : Call} {j n : Nat} (hj : j < n)
    (hcall : call.progress = .registered → event = .addTransaction j) (i : Nat) :
    (Function.update calls j call i).progress = (calls i).progress ∨
      i < n ∧ ((Function.update calls j call i).progress = .registered → event = .addTransaction i) := by
  by_cases h : i = j
  · subst h
    rw [Function.update_self]
    exact .inr ⟨hj, hcall⟩
  · rw [Function.update_of_ne h]
    exact .inl rfl

theorem progress_next (habsent : ∀ i, s.nextCall ≤ i → (s.calls i).progress = .absent)
    (henb : s.Enabled event) (i : Nat) :
    ((s.next event).calls i).progress = (s.calls i).progress ∨
      i < (s.next event).nextCall ∧
        (((s.next event).calls i).progress = .registered → event = .addTransaction i) := by
  have hlt : ∀ {j : Nat} {progress : Progress}, (s.calls j).progress = progress → progress ≠ .absent →
      j < s.nextCall := fun h hne => lt_nextCall habsent (h ▸ hne)
  cases event with
  | call kind =>
    apply update_progress s.calls (Nat.lt_succ_self _)
    simp only [entered]
    cases kind <;> split <;> simp
  | getTag j => exact update_progress s.calls (hlt henb (by decide)) (by simp) i
  | addTransaction j => exact update_progress s.calls (hlt henb (by decide)) (fun _ => rfl) i
  | enqueue j =>
    apply update_progress s.calls (hlt henb (by decide))
    simp only
    split <;> simp
  | wake j =>
    have hj : j < s.nextCall := henb.1.elim (hlt · (by decide)) (hlt · (by decide))
    exact update_progress s.calls hj (by simp) i
  | timeout j | leave j => exact update_progress s.calls (hlt henb.1 (by decide)) (by simp) i
  | freeStream j =>
    have hret : (s.calls j).progress = .returned := henb.1
    exact update_progress s.calls (hlt hret (by decide)) (by simp [hret]) i
  | removeTransaction j =>
    simp only [next]
    split
    · exact update_progress s.calls (hlt henb (by decide)) (by simp) i
    · exact update_progress s.calls (hlt henb (by decide)) (by simp) i
  | callback response j | drainCallback j =>
    refine .inl ?_
    by_cases h : i = j
    · subst h
      simp [next, invoke, update]
    · simp [next, invoke, update, Function.update_of_ne h]
  | connect opened | endWriting failed | receive response =>
    simp only [next]
    split <;> exact .inl rfl
  | _ => exact .inl rfl

/-! ## What a step does to the main loop -/

theorem mem_writeQueue_next (h : i ∈ (s.next event).writeQueue) : i ∈ s.writeQueue ∨ event = .enqueue i := by
  cases event with
  | enqueue j =>
    rcases mem_append.mp h with hqueue | hj
    · exact .inl hqueue
    · exact .inr (by rw [mem_singleton.mp hj])
  | dequeue j => exact .inl (mem_of_mem_tail h)
  | clearQueue => cases h
  | removeTransaction j | receive response | connect opened | endWriting failed =>
    simp only [next] at h
    split at h <;> exact .inl h
  | _ => exact .inl h

theorem sends_next (henb : s.Enabled event)
    (h : (s.next event).loop = .dequeued i ∨ (s.next event).loop = .headerWritten i) :
    i ∈ s.writeQueue ∨ s.loop = .dequeued i ∨ s.loop = .headerWritten i := by
  cases event with
  | dequeue j =>
    have hij : j = i := by simpa [next] using h
    subst hij
    exact .inl (mem_of_head? henb.2)
  | writeHeader j written =>
    cases written with
    | false => simp [next] at h
    | true =>
      have hij : j = i := by simpa [next] using h
      subst hij
      exact .inr (.inl henb)
  | removeTransaction j =>
    simp only [next] at h
    split at h <;> exact .inr h
  | receive response =>
    simp only [next] at h
    split at h
    · exact .inr h
    · simp at h
  | connect opened | endWriting failed =>
    simp only [next] at h
    split at h <;> simp at h
  | call _ | getTag _ | addTransaction _ | enqueue _ | wake _ | timeout _ | leave _ | freeStream _ | serverStop =>
    exact .inr h
  | _ => simp [next, invoke, update] at h

theorem reconnecting_of_reconnects (s : Context) (h : event.reconnects = true) : (s.next event).Reconnecting := by
  cases event with
  | readFails => exact .inl rfl
  | endWriting failed =>
    cases failed with
    | false => cases h
    | true => exact .inl rfl
  | _ => cases h

theorem Reconnecting.next (h : s.Reconnecting) (henb : s.Enabled event) :
    (s.next event).Reconnecting ∨ event = .endDraining := by
  cases event with
  | endDraining => exact .inr rfl
  | clearQueue | drainCallback j => exact .inl (.inr (.inl rfl))
  | removeHead j => exact .inl (.inr (.inr ⟨j, rfl⟩))
  | removeTransaction j =>
    simp only [next]
    split <;> exact .inl h
  | call _ | getTag _ | addTransaction _ | enqueue _ | wake _ | timeout _ | leave _ | freeStream _ | serverStop =>
    exact .inl h
  | _ =>
    rcases h with h | h | ⟨j, h⟩ <;> simp [Enabled, h] at henb

end Context

/-! ## What the steps keep -/

namespace Watched

variable {s : Watched} {i : Nat} {event : Event}

def Traced (s : Watched) (i : Nat) : Prop :=
  s.context.Registered i ∨ s.context.loop = .drained i ∨ s.Completed i

theorem Completed.next (h : s.Completed i) (hi : i < s.context.nextCall) (event : Event) :
    (s.next event).Completed i := by
  rcases h with ⟨invocation, hmem, hreason⟩ | hsettled
  · exact .inl ⟨invocation, invocations_next hi event hmem, hreason⟩
  · exact .inr (mem_append_right _ hsettled)

theorem Traced.next (h : s.Traced i) (hi : i < s.context.nextCall) (henb : s.context.Enabled event) :
    (s.next event).Traced i := by
  rcases h with hreg | hdrained | hcomp
  · rcases hreg.next henb with hkept | htaken | hsettled
    · exact .inl hkept
    · exact .inr (.inl htaken)
    · exact .inr (.inr (.inr (mem_append_left _ hsettled)))
  · rcases drained_next hdrained henb with hkept | hinvoked
    · exact .inr (.inl hkept)
    · exact .inr (.inr (.inl hinvoked))
  · exact .inr (.inr (hcomp.next hi event))

structure Tracked (s : Watched) : Prop where
  absent : ∀ i, s.context.nextCall ≤ i → (s.context.calls i).progress = .absent
  known : ∀ i ∈ s.registered, i < s.context.nextCall
  traced : ∀ i ∈ s.registered, s.Traced i
  progress : ∀ i, (s.context.calls i).progress = .registered → i ∈ s.registered
  writeQueue : ∀ i ∈ s.context.writeQueue, i ∈ s.registered
  sends : ∀ i, s.context.loop = .dequeued i ∨ s.context.loop = .headerWritten i → i ∈ s.registered
  unsent : ∀ i ∈ s.unsent, i ∈ s.registered
  noticed : ∀ i ∈ s.unsent, s.Completed i ∨ s.missed = true ∨ s.context.Reconnecting

theorem new_tracked : new.Tracked where
  absent _ _ := rfl
  known i hi := by simp [new] at hi
  traced i hi := by simp [new] at hi
  progress i hi := by simp [new, Context.new] at hi
  writeQueue i hi := by simp [new, Context.new] at hi
  sends i hi := by simp [new, Context.new] at hi
  unsent i hi := by simp [new] at hi
  noticed i hi := by simp [new] at hi

theorem Tracked.unsent_mem (h : s.Tracked) (henb : s.context.Enabled event)
    (hi : i ∈ event.unsent.toList) : i ∈ s.registered := by
  cases event with
  | writeHeader j written =>
    cases written with
    | true => cases hi
    | false =>
      rw [mem_singleton.mp hi]
      exact h.sends j (.inl henb)
  | writePayload j written =>
    cases written with
    | true => cases hi
    | false =>
      rw [mem_singleton.mp hi]
      exact h.sends j (.inr henb)
  | _ => cases hi

theorem mem_registered_next (h : i ∈ s.registered) : i ∈ (s.next event).registered :=
  mem_append_right _ h

theorem missed_of_unsent (hi : i ∈ event.unsent.toList) : (s.next event).missed = true := by
  have hfails : event.reconnects = false := by
    cases event with
    | writeHeader j written | writePayload j written => rfl
    | _ => cases hi
  have hsome : event.unsent.isSome = true := by
    rw [Option.mem_toList.mp hi]
    rfl
  simp [next, hfails, hsome]

theorem Tracked.completed (h : s.Tracked) (hi : i ∈ s.registered) (hempty : s.context.transactions = [])
    (hloop : s.context.loop = .draining) : s.Completed i := by
  rcases h.traced i hi with ⟨entry, hentry, -⟩ | hdrained | hcomp
  · simp [hempty] at hentry
  · simp [hloop] at hdrained
  · exact hcomp

theorem Tracked.next (h : s.Tracked) (henb : s.context.Enabled event) : (s.next event).Tracked := by
  have hle := s.context.nextCall_le_next event
  have hprog := progress_next h.absent henb
  constructor
  case absent =>
    intro i hi
    rcases hprog i with hsame | ⟨hlt, -⟩
    · exact hsame.trans (h.absent i (Nat.le_trans hle hi))
    · exact absurd hi (Nat.not_le.mpr hlt)
  case known =>
    intro i hi
    rcases mem_append.mp hi with hnew | hold
    · cases event <;> simp [Event.registers] at hnew
      subst hnew
      have htagged : (s.context.calls i).progress = .tagged := henb
      have hlt : i < s.context.nextCall := lt_nextCall h.absent (by simp [htagged])
      exact Nat.lt_of_lt_of_le hlt hle
    · exact Nat.lt_of_lt_of_le (h.known i hold) hle
  case traced =>
    intro i hi
    rcases mem_append.mp hi with hnew | hold
    · cases event <;> simp [Event.registers] at hnew
      subst hnew
      exact .inl ⟨_, mem_append_right _ mem_cons_self, rfl⟩
    · exact (h.traced i hold).next (h.known i hold) henb
  case progress =>
    intro i hi
    rcases hprog i with hsame | ⟨-, hadd⟩
    · exact mem_registered_next (h.progress i (hsame ▸ hi))
    · rw [hadd hi]
      exact mem_append_left _ mem_cons_self
  case writeQueue =>
    intro i hi
    rcases mem_writeQueue_next hi with hold | rfl
    · exact mem_registered_next (h.writeQueue i hold)
    · exact mem_registered_next (h.progress i henb)
  case sends =>
    intro i hi
    rcases sends_next henb hi with hqueue | hsends
    · exact mem_registered_next (h.writeQueue i hqueue)
    · exact mem_registered_next (h.sends i hsends)
  case unsent =>
    intro i hi
    rcases mem_append.mp hi with hnew | hold
    · exact mem_registered_next (h.unsent_mem henb hnew)
    · exact mem_registered_next (h.unsent i hold)
  case noticed =>
    intro i hi
    rcases mem_append.mp hi with hnew | hold
    · exact .inr (.inl (missed_of_unsent hnew))
    · have hreg := h.unsent i hold
      rcases h.noticed i hold with hcomp | hmissed | hreconnecting
      · exact .inl (hcomp.next (h.known i hreg) event)
      · cases hreconnects : event.reconnects with
        | true => exact .inr (.inr (reconnecting_of_reconnects _ hreconnects))
        | false => exact .inr (.inl (by simp [Watched.next, hreconnects, hmissed]))
      · rcases hreconnecting.next henb with hstill | rfl
        · exact .inr (.inr hstill)
        · have hover := h.completed hreg henb.2 henb.1
          exact .inl (hover.next (h.known i hreg) _)

theorem Tracked.step (h : s.Tracked) (event : Event) : (s.step event).Tracked := by
  unfold Watched.step
  split
  next henb => exact h.next henb
  next => exact h

/-! ## Failures that are noticed -/

def Sending (loop : MainLoop) : Prop :=
  (∃ failed, loop = .writing failed) ∨ (∃ i, loop = .dequeued i) ∨ ∃ i, loop = .headerWritten i

def Attentive (s : Watched) : Prop := s.missed = true → Sending s.context.loop

theorem Tracked.noticed_of_attentive (h : s.Tracked) (hattentive : s.Attentive) : s.Noticed := by
  intro hwait
  have hmissed : s.missed = false := by
    by_contra hmissed
    rcases hattentive (eq_true_of_ne_false hmissed) with ⟨_, hloop⟩ | ⟨_, hloop⟩ | ⟨_, hloop⟩ <;>
      simp [hwait] at hloop
  refine ⟨hmissed, fun i hi => ?_⟩
  rcases h.noticed i hi with hcomp | hcontra | hreconnecting
  · exact hcomp
  · simp [hmissed] at hcontra
  · rcases hreconnecting with hloop | hloop | ⟨_, hloop⟩ <;> simp [hwait] at hloop

theorem sending_next (h : Sending s.context.loop) (henb : s.context.Enabled event) :
    Sending (s.next event).context.loop ∨ ∃ failed, event = .endWriting failed := by
  cases event with
  | endWriting failed => exact .inr ⟨failed, rfl⟩
  | dequeue i => exact .inl (.inr (.inl ⟨i, rfl⟩))
  | writeHeader i written =>
    cases written with
    | false => exact .inl (.inl ⟨true, rfl⟩)
    | true => exact .inl (.inr (.inr ⟨i, rfl⟩))
  | writePayload i written => exact .inl (.inl ⟨!written, rfl⟩)
  | removeTransaction i =>
    simp only [next, Context.next]
    split <;> exact .inl h
  | call _ | getTag _ | addTransaction _ | enqueue _ | wake _ | timeout _ | leave _ | freeStream _ | serverStop =>
    exact .inl h
  | _ =>
    rcases h with ⟨_, h⟩ | ⟨_, h⟩ | ⟨_, h⟩ <;> simp [Context.Enabled, h] at henb

theorem sending_of_unsent (hsome : event.unsent.isSome = true) : Sending (s.next event).context.loop := by
  cases event with
  | writeHeader i written | writePayload i written =>
    cases written with
    | false => exact .inl ⟨true, rfl⟩
    | true => cases hsome
  | _ => cases hsome

theorem Attentive.step (h : s.Attentive) (hlast : s.LastSendDecides event) : (s.step event).Attentive := by
  unfold Watched.step
  split
  next henb =>
    intro hmissed
    simp only [next, Bool.and_eq_true, Bool.not_eq_true', Bool.or_eq_true] at hmissed
    obtain ⟨hreconnects, hbefore | hsome⟩ := hmissed
    · rcases sending_next (h hbefore) henb with hsending | ⟨failed, rfl⟩
      · exact hsending
      · cases failed with
        | true => cases hreconnects
        | false => exact absurd (hlast rfl henb) (by simp [hbefore])
    · exact sending_of_unsent hsome
  next => exact h

/-- Every failure to send is noticed exactly if, whenever the queue runs empty after failures, the last message
was one of those that could not be sent. -/
theorem failures_noticed_iff (events : List Event) :
    (∀ j, ((events.take j).foldl step new).Noticed) ↔ Along step LastSendDecides new events := by
  constructor
  · intro hall
    apply Along.of_always Noticed _ hall
    intro s event hnoticed hend henb
    subst hend
    rw [step, if_pos henb] at hnoticed
    simpa [next, Event.reconnects, Event.unsent] using (hnoticed rfl).1
  · intro hlast j
    have hboth := Along.always_of_invariant (I := fun s => Tracked s ∧ Attentive s)
      (fun s event h hlast => ⟨h.1.step event, h.2.step hlast⟩)
      ⟨new_tracked, by simp [Attentive, new]⟩ hlast j
    exact hboth.1.noticed_of_attentive hboth.2

end Watched

namespace Sample

def twoQueued : List Event :=
  [.connect true, .call .callMethod, .getTag 0, .addTransaction 0, .enqueue 0, .call .callMethod, .getTag 1,
    .addTransaction 1, .enqueue 1]

def firstLost : List Event :=
  twoQueued ++ [.beginWriting, .dequeue 0, .writeHeader 0 false, .dequeue 1, .writeHeader 1 true,
    .writePayload 1 true, .endWriting false]

end Sample

/-- The loop waits, and the transaction of the lost message is in the dictionary still. -/
theorem first_lost_unnoticed :
    ¬((Sample.firstLost.foldl Watched.step .new).Noticed) ∧
      0 ∈ (Sample.firstLost.foldl Watched.step .new).unsent ∧
      (1, 0) ∈ (Sample.firstLost.foldl Watched.step .new).context.transactions := by
  decide

end FreeRDS.Pbrpc
