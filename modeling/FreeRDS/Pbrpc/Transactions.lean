import FreeRDS.Lib.Dictionary
import FreeRDS.Pbrpc.Context

/-! # Callbacks

Every transaction is in the dictionary, in the hands of the main loop, or gone. A callback that runs uses
the transaction up; a call that times out takes it back. Only the lookup of a response breaks this: the main
loop then knows of a transaction that is still in the dictionary.
-/

namespace FreeRDS.Pbrpc

open Lib List

/-- A response to the call itself, or an error without a response; and not after `pbrpc_call_method`. -/
structure Invocation.Proper (invocation : Invocation) (call : Call) : Prop where
  own : ∀ response ∈ invocation.response, response.callId = call.callId
  error : invocation.response = none → invocation.reason ≠ 0
  inTime : call.kind = .callMethod → invocation.returned = false

theorem Invocation.Proper.congr {invocation : Invocation} {call call' : Call}
    (h : invocation.Proper call)
    (hid : call'.callId = call.callId) (hkind : call'.kind = call.kind) : invocation.Proper call' := by
  refine ⟨?_, h.error, ?_⟩
  · rw [hid]
    exact h.own
  · rw [hkind]
    exact h.inTime

namespace Context

variable {s : Context} {i : Nat}

/-- Every callback runs at most once, with arguments that are meant for it, and in time. -/
structure CallbacksProper (s : Context) : Prop where
  once : ∀ i, (s.calls i).invocations.length ≤ 1
  proper : ∀ i, ∀ invocation ∈ (s.calls i).invocations, invocation.Proper (s.calls i)

/-- The references to the transaction of a call that will lead to its callback. -/
def refs (s : Context) (i : Nat) : Nat := (s.transactions.map (·.2)).count i + s.loop.owns i

/-- A reference is only there between the registration of a transaction and its callback or removal. -/
structure Consistent (s : Context) : Prop where
  refs_le : ∀ i, s.refs i + (s.calls i).invocations.length ≤ 1
  early : ∀ i, (s.calls i).Early → s.refs i = 0 ∧ (s.calls i).invocations = []
  late : ∀ i, (s.calls i).Over → s.refs i = 0
  proper : ∀ i, ∀ invocation ∈ (s.calls i).invocations, invocation.Proper (s.calls i)
  key : ∀ entry ∈ s.transactions, (s.calls entry.2).callId = entry.1
  found : ∀ response i, s.loop = .found response i → (response.callId, i) ∈ s.transactions
  removed : ∀ response i, s.loop = .removed response i → (s.calls i).callId = response.callId
  distinct : ∀ i j, (s.calls i).Outstanding → (s.calls j).Outstanding →
    (s.calls i).callId = (s.calls j).callId → i = j
  absent : ∀ i, s.nextCall ≤ i → (s.calls i).progress = .absent

theorem new_consistent : new.Consistent where
  refs_le _ := Nat.zero_le _
  early _ _ := ⟨rfl, rfl⟩
  late _ _ := rfl
  proper _ _ := nofun
  key _ := nofun
  found _ _ := nofun
  removed _ _ := nofun
  distinct _ _ hi := absurd hi (by simp [new, Call.Outstanding])
  absent _ _ := rfl

theorem Consistent.callbacksProper (h : s.Consistent) : s.CallbacksProper where
  once i := Nat.le_trans (Nat.le_add_left _ _) (h.refs_le i)
  proper := h.proper

/-! ## Three kinds of steps -/

theorem Consistent.mono {s' : Context} (h : s.Consistent) (hcalls : s'.calls = s.calls)
    (hnext : s'.nextCall = s.nextCall) (hsub : s'.transactions ⊆ s.transactions)
    (hrefs : ∀ i, s'.refs i ≤ s.refs i)
    (hfound : ∀ response i, s'.loop = .found response i → (response.callId, i) ∈ s'.transactions)
    (hremoved : ∀ response i, s'.loop = .removed response i → (s.calls i).callId = response.callId) :
    s'.Consistent := by
  refine ⟨?_, ?_, ?_, ?_, ?_, hfound, ?_, ?_, ?_⟩
  all_goals rw [hcalls]
  · intro i
    exact Nat.le_trans (Nat.add_le_add_right (hrefs i) _) (h.refs_le i)
  · intro i hearly
    obtain ⟨hzero, hempty⟩ := h.early i hearly
    exact ⟨Nat.eq_zero_of_le_zero (hzero ▸ hrefs i), hempty⟩
  · intro i hover
    exact Nat.eq_zero_of_le_zero (h.late i hover ▸ hrefs i)
  · exact h.proper
  · intro entry hentry
    exact h.key entry (hsub hentry)
  · exact hremoved
  · exact h.distinct
  · rw [hnext]
    exact h.absent

/-- What a call may become while the references to its transaction stay. -/
structure Fits (s : Context) (i : Nat) (call : Call) : Prop where
  refs_le : s.refs i + call.invocations.length ≤ 1
  early : call.Early → s.refs i = 0 ∧ call.invocations = []
  late : call.Over → s.refs i = 0
  proper : ∀ invocation ∈ call.invocations, invocation.Proper call
  callId : s.refs i ≠ 0 → call.callId = (s.calls i).callId
  fresh : call.Outstanding → ∀ j, j ≠ i → (s.calls j).Outstanding → (s.calls j).callId ≠ call.callId

theorem refs_ne_zero_of_mem {callId : UInt32} (h : (callId, i) ∈ s.transactions) : s.refs i ≠ 0 := by
  have hmem : i ∈ s.transactions.map (·.2) := mem_map_of_mem h
  have hpos := count_pos_iff.mpr hmem
  rw [refs]
  omega

theorem refs_ne_zero_of_owns (h : s.loop.owns i = 1) : s.refs i ≠ 0 := by
  rw [refs, h]
  omega

section

variable (h : s.Consistent)

include h

theorem Consistent.set {call : Call} {n : Nat} (hcall : s.Fits i call)
    (hn : s.nextCall ≤ n) (hi : i < n) :
    Consistent { s with calls := Function.update s.calls i call, nextCall := n } := by
  have hid : ∀ j, s.refs j ≠ 0 → (Function.update s.calls i call j).callId = (s.calls j).callId :=
    (Function.forall_update_iff s.calls fun j c => s.refs j ≠ 0 → c.callId = (s.calls j).callId).mpr
      ⟨hcall.callId, fun _ _ _ => rfl⟩
  refine ⟨?_, ?_, ?_, ?_, ?_, h.found, ?_, ?_, ?_⟩
  · exact (Function.forall_update_iff s.calls fun j c => s.refs j + c.invocations.length ≤ 1).mpr
      ⟨hcall.refs_le, fun j _ => h.refs_le j⟩
  · exact (Function.forall_update_iff s.calls fun j c => c.Early → s.refs j = 0 ∧ c.invocations = []).mpr
      ⟨hcall.early, fun j _ => h.early j⟩
  · exact (Function.forall_update_iff s.calls fun j c => c.Over → s.refs j = 0).mpr
      ⟨hcall.late, fun j _ => h.late j⟩
  · exact (Function.forall_update_iff s.calls fun _ c => ∀ invocation ∈ c.invocations, invocation.Proper c).mpr
      ⟨hcall.proper, fun j _ => h.proper j⟩
  · intro entry hentry
    exact (hid entry.2 (refs_ne_zero_of_mem hentry)).trans (h.key entry hentry)
  · intro response j hloop
    have howns : s.loop.owns j = 1 := by
      rw [show s.loop = .removed response j from hloop]
      exact if_pos rfl
    have hrefs := refs_ne_zero_of_owns howns
    exact (hid j hrefs).trans (h.removed response j hloop)
  · intro j k houtj houtk hjk
    -- Two outstanding calls are both old, or one of them is the call that has changed.
    by_cases hj : j = i <;> by_cases hk : k = i
    · rw [hj, hk]
    · subst hj
      simp only [Function.update_self, Function.update_of_ne hk] at houtj houtk hjk
      exact absurd hjk.symm (hcall.fresh houtj k hk houtk)
    · subst hk
      simp only [Function.update_self, Function.update_of_ne hj] at houtj houtk hjk
      exact absurd hjk (hcall.fresh houtk j hj houtj)
    · simp only [Function.update_of_ne hj, Function.update_of_ne hk] at houtj houtk hjk
      exact h.distinct j k houtj houtk hjk
  · refine (Function.forall_update_iff s.calls fun j c => n ≤ j → c.progress = .absent).mpr ⟨?_, ?_⟩
    · intro hle
      omega
    · intro j _ hle
      exact h.absent j (Nat.le_trans hn hle)

theorem Consistent.add (hrefs : s.refs i = 0) (hempty : (s.calls i).invocations = [])
    (hearly : ¬(s.calls i).Early) (hover : ¬(s.calls i).Over) :
    Consistent { s with transactions := s.transactions ++ [((s.calls i).callId, i)] } := by
  have hcnt : ∀ j, refs { s with transactions := s.transactions ++ [((s.calls i).callId, i)] } j =
      s.refs j + if i = j then 1 else 0 := by
    intro j
    simp only [refs, map_append, map_cons, map_nil, count_append,
      count_singleton, beq_iff_eq]
    omega
  refine ⟨?_, ?_, ?_, h.proper, ?_, ?_, h.removed, h.distinct, h.absent⟩
  · intro j
    rw [hcnt j]
    by_cases hj : i = j
    · subst hj
      simp [hrefs, hempty]
    · rw [if_neg hj]
      exact h.refs_le j
  · intro j hearlyj
    have hj : i ≠ j := fun hj => hearly (hj ▸ hearlyj)
    rw [hcnt j, if_neg hj]
    exact h.early j hearlyj
  · intro j hoverj
    have hj : i ≠ j := fun hj => hover (hj ▸ hoverj)
    rw [hcnt j, if_neg hj]
    exact h.late j hoverj
  · intro entry hentry
    obtain hold | hnew := mem_append.mp hentry
    · exact h.key entry hold
    · rw [mem_singleton.mp hnew]
  · intro response j hloop
    exact mem_append_left _ (h.found response j hloop)

theorem Consistent.of_refs (hrefs : s.refs i ≠ 0) :
    (s.calls i).invocations = [] ∧ ¬(s.calls i).Early ∧ ¬(s.calls i).Over := by
  have hle := h.refs_le i
  refine ⟨length_eq_zero_iff.mp (by omega), ?_, ?_⟩
  · intro hearly
    exact hrefs (h.early i hearly).1
  · intro hover
    exact hrefs (h.late i hover)

theorem Consistent.outstanding_of_refs (hrefs : s.refs i ≠ 0) :
    (s.calls i).Outstanding := by
  obtain ⟨hempty, hearly, hover⟩ := h.of_refs hrefs
  revert hearly hover
  cases hprog : (s.calls i).progress <;> cases hkind : (s.calls i).kind <;>
    simp [Call.Early, Call.Over, Call.Outstanding, hprog, hkind, hempty]

theorem Consistent.outstanding_of_mem {entry : UInt32 × Nat}
    (hentry : entry ∈ s.transactions) :
    (s.calls entry.2).Outstanding := h.outstanding_of_refs (refs_ne_zero_of_mem hentry)

theorem Consistent.getItemValue_eq {callId : UInt32} {j : Nat}
    (hlookup : s.getItemValue callId = some j) (hout : (s.calls i).Outstanding)
    (hid : (s.calls i).callId = callId) :
    j = i := by
  obtain ⟨entry, hfind, rfl⟩ := Option.map_eq_some_iff.mp hlookup
  have hmem := mem_of_find?_eq_some hfind
  have hkey : entry.1 = callId := by simpa using find?_some hfind
  exact h.distinct _ _ (h.outstanding_of_mem hmem) hout (by rw [h.key entry hmem, hkey, hid])

end

theorem removeItem_perm {callId : UInt32} (hlookup : s.getItemValue callId = some i) :
    s.transactions.Perm ((callId, i) :: (s.removeItem callId).transactions) := by
  obtain ⟨entry, hfind, rfl⟩ := Option.map_eq_some_iff.mp hlookup
  have hkey : entry.1 = callId := by simpa using find?_some hfind
  rw [← hkey] at hfind ⊢
  exact perm_eraseP_of_find? hfind

theorem Consistent.takeOut {s' : Context} {entry : UInt32 × Nat} (h : s.Consistent)
    (hcalls : s'.calls = s.calls)
    (hnext : s'.nextCall = s.nextCall) (hperm : s.transactions.Perm (entry :: s'.transactions))
    (howns : ∀ i, s'.loop.owns i ≤ s.loop.owns i + if entry.2 = i then 1 else 0)
    (hfound : ∀ response i, s'.loop = .found response i → (response.callId, i) ∈ s'.transactions)
    (hremoved : ∀ response i, s'.loop = .removed response i → (s.calls i).callId = response.callId) :
    s'.Consistent := by
  refine h.mono hcalls hnext ?_ ?_ hfound hremoved
  · intro other hother
    exact hperm.mem_iff.mpr (mem_cons_of_mem _ hother)
  · intro i
    have hcnt := (hperm.map (·.2)).count_eq i
    rw [map_cons, count_cons] at hcnt
    have howns := howns i
    simp only [refs]
    by_cases hi : entry.2 = i
    · simp only [hi, beq_self_eq_true, if_true] at hcnt howns
      omega
    · simp only [hi, beq_iff_eq, if_false] at hcnt howns
      omega

/-! ## One step -/

def FreshTag (s : Context) : Event → Prop
  | .getTag _ => ∀ i < s.nextCall, (s.calls i).Outstanding → (s.calls i).callId ≠ s.tag + 1
  | _ => True

/-- No call takes its transaction back while the main loop has looked it up for a response. -/
def NoRace (s : Context) : Event → Prop
  | .removeTransaction i => s.loop.lookedUp ≠ some i
  | _ => True

instance (s : Context) : (event : Event) → Decidable (s.FreshTag event)
  | .getTag _ => inferInstanceAs (Decidable (∀ i < s.nextCall, _ → _))
  | .call _ | .addTransaction _ | .enqueue _ | .wake _ | .timeout _ | .removeTransaction _ | .leave _
  | .freeStream _ | .serverStop | .connect _ | .receive _ | .remove _ _ | .callback _ _ | .readFails
  | .beginWriting | .dequeue _ | .writeHeader _ _ | .writePayload _ _ | .endWriting _ | .clearQueue
  | .removeHead _ | .drainCallback _ | .endDraining | .exit => inferInstanceAs (Decidable True)

instance (s : Context) : (event : Event) → Decidable (s.NoRace event)
  | .removeTransaction _ => inferInstanceAs (Decidable (_ ≠ _))
  | .call _ | .getTag _ | .addTransaction _ | .enqueue _ | .wake _ | .timeout _ | .leave _ | .freeStream _
  | .serverStop | .connect _ | .receive _ | .remove _ _ | .callback _ _ | .readFails | .beginWriting
  | .dequeue _ | .writeHeader _ _ | .writePayload _ _ | .endWriting _ | .clearQueue | .removeHead _
  | .drainCallback _ | .endDraining | .exit => inferInstanceAs (Decidable True)

theorem Consistent.lt_nextCall (h : s.Consistent) (hprog : (s.calls i).progress ≠ .absent) :
    i < s.nextCall := by
  by_contra hle
  exact hprog (h.absent i (Nat.le_of_not_lt hle))

theorem Consistent.setLoop {s' : Context} (h : s.Consistent) (hcalls : s'.calls = s.calls)
    (hnext : s'.nextCall = s.nextCall) (htrxs : s'.transactions = s.transactions)
    (howns : ∀ i, s'.loop.owns i = 0) (hfound : ∀ response i, s'.loop ≠ .found response i) :
    s'.Consistent := by
  refine h.mono hcalls hnext (by rw [htrxs]; exact .refl _) ?_ ?_ ?_
  · intro i
    rw [refs, refs, htrxs, howns i]
    omega
  · intro response i hloop
    exact absurd hloop (hfound response i)
  · intro response i hloop
    have hzero := howns i
    simp [hloop, MainLoop.owns] at hzero

variable (h : s.Consistent)

include h

theorem Consistent.change {call : Call} (hid : call.callId = (s.calls i).callId)
    (hkind : call.kind = (s.calls i).kind) (hsame : call.invocations = (s.calls i).invocations)
    (hnext : (s.calls i).progress ≠ .absent) (hnew : ¬call.Early) (hover : call.Over → s.refs i = 0)
    (hout : call.Outstanding → (s.calls i).Outstanding) :
    Consistent { s with calls := Function.update s.calls i call } := by
  refine h.set ⟨?_, ?_, hover, ?_, fun _ => hid, ?_⟩ (Nat.le_refl _) (h.lt_nextCall hnext)
  · rw [hsame]
    exact h.refs_le i
  · intro hearly
    exact absurd hearly hnew
  · intro invocation hinvoc
    rw [hsame] at hinvoc
    exact (h.proper i invocation hinvoc).congr hid hkind
  · intro hcall j hj houtj hjid
    exact hj (h.distinct j i houtj (hout hcall) (hjid.trans hid))

theorem Consistent.setProgress {progress : Progress}
    (hnext : (s.calls i).progress ≠ .absent)
    (hnew : ¬Call.Early { s.calls i with progress := progress })
    (hover : Call.Over { s.calls i with progress := progress } → s.refs i = 0)
    (hout : Call.Outstanding { s.calls i with progress := progress } → (s.calls i).Outstanding) :
    (s.setProgress i progress).Consistent := h.change rfl rfl rfl hnext hnew hover hout

theorem Consistent.call (kind : Kind) : (s.next (.call kind)).Consistent := by
  have hearly : (s.calls s.nextCall).Early := .inl (h.absent _ (Nat.le_refl _))
  obtain ⟨hrefs, -⟩ := h.early _ hearly
  refine h.set ⟨?_, ?_, fun _ => hrefs, ?_, fun hne => absurd hrefs hne, ?_⟩ (Nat.le_succ _) (Nat.lt_succ_self _)
  · rw [hrefs]
    unfold entered
    split
    · exact Nat.zero_le _
    · cases kind <;> decide
  · intro hcall
    refine ⟨hrefs, ?_⟩
    revert hcall
    unfold entered
    split
    · intro _
      rfl
    · cases kind <;> simp [Call.Early]
  · unfold entered
    split
    · exact nofun
    · cases kind with
      | callMethod => exact nofun
      | callMethodAsync =>
        intro invocation hinvoc
        rw [mem_singleton.mp hinvoc]
        exact ⟨nofun, fun _ => by decide, nofun⟩
  · intro hcall
    revert hcall
    unfold entered
    split
    · simp [Call.Outstanding]
    · cases kind <;> simp [Call.Outstanding]

theorem Consistent.getTag (hprog : (s.calls i).progress = .connected)
    (hfresh : s.FreshTag (.getTag i)) : (s.next (.getTag i)).Consistent := by
  obtain ⟨hrefs, hempty⟩ := h.early i (.inr (.inl hprog))
  have hlt : i < s.nextCall := h.lt_nextCall (by simp [hprog])
  have hset : Consistent (s.update i fun call => { call with callId := s.tag + 1, progress := .tagged }) := by
    refine h.set ⟨?_, fun _ => ⟨hrefs, hempty⟩, fun _ => hrefs, ?_, fun hne => absurd hrefs hne, ?_⟩
      (Nat.le_refl _) hlt
    · rw [hrefs, hempty]
      exact Nat.zero_le _
    · rw [hempty]
      exact nofun
    · intro _ j hj houtj
      refine hfresh j (h.lt_nextCall ?_) houtj
      intro habsent
      simp [Call.Outstanding, habsent] at houtj
  exact hset.mono rfl rfl (.refl _) (fun _ => Nat.le_refl _) hset.found hset.removed

theorem Consistent.addTransaction (hprog : (s.calls i).progress = .tagged) :
    (s.next (.addTransaction i)).Consistent := by
  obtain ⟨hrefs, hempty⟩ := h.early i (.inr (.inr hprog))
  have hset : (s.setProgress i .registered).Consistent := by
    apply h.setProgress
    · simp [hprog]
    · simp [Call.Early]
    · simp [Call.Over]
    · intro _
      exact .inl hprog
  have hcall := setProgress_calls_self s i .registered
  have hadd := hset.add (i := i) hrefs (by rw [hcall]; exact hempty) (by rw [hcall]; simp [Call.Early])
    (by rw [hcall]; simp [Call.Over])
  rw [hcall] at hadd
  exact hadd

theorem Consistent.removeTransaction (hprog : (s.calls i).progress = .timedOut)
    (hrace : s.NoRace (.removeTransaction i)) : (s.next (.removeTransaction i)).Consistent := by
  have hout : (s.calls i).Outstanding := by simp [Call.Outstanding, hprog]
  simp only [next]
  split
  · apply h.setProgress
    · simp [hprog]
    · simp [Call.Early]
    · simp [Call.Over]
    · intro _
      exact hout
  · rename_i j hlookup
    obtain rfl := h.getItemValue_eq hlookup hout rfl
    have hperm := removeItem_perm hlookup
    have hremoved : (s.removeItem (s.calls j).callId).Consistent := by
      refine h.takeOut rfl rfl hperm (fun k => Nat.le_add_right _ _) ?_ h.removed
      intro response k hfound
      have hloop : s.loop = .found response k := hfound
      obtain heq | hmem := mem_cons.mp (hperm.mem_iff.mp (h.found response k hloop))
      · obtain rfl : k = j := congrArg Prod.snd heq
        exact absurd (by rw [hloop]; rfl) hrace
      · exact hmem
    apply hremoved.setProgress
    · simp [removeItem, hprog]
    · simp [Call.Early]
    · intro _
      have hcnt := (hperm.map (·.2)).count_eq j
      have hle := h.refs_le j
      simp only [map_cons, count_cons_self] at hcnt
      rw [refs] at hle
      show ((s.removeItem (s.calls j).callId).transactions.map (·.2)).count j + s.loop.owns j = 0
      omega
    · simp [Call.Outstanding]

theorem Consistent.enqueue (hprog : (s.calls i).progress = .registered) :
    (s.next (.enqueue i)).Consistent := by
  have hqueue : Consistent { s with writeQueue := s.writeQueue ++ [i] } :=
    h.mono rfl rfl (.refl _) (fun _ => Nat.le_refl _) h.found h.removed
  apply hqueue.setProgress
  · simp [hprog]
  · cases hkind : (s.calls i).kind <;> simp [Call.Early]
  · cases hkind : (s.calls i).kind <;> simp [Call.Over, hkind]
  · intro _
    simp [Call.Outstanding, hprog]

theorem Consistent.wake (hprog : (s.calls i).progress = .waiting ∨ (s.calls i).progress = .waitingForever)
    (hanswered : (s.calls i).invocations ≠ []) : (s.next (.wake i)).Consistent := by
  apply h.setProgress
  · obtain hprog | hprog := hprog <;> simp [hprog]
  · simp [Call.Early]
  · intro _
    have hpos := length_pos_iff.mpr hanswered
    have hle := h.refs_le i
    omega
  · simp [Call.Outstanding]

theorem Consistent.leave (hprog : (s.calls i).progress = .finishing)
    (hkind : (s.calls i).kind = .callMethod) : (s.next (.leave i)).Consistent := by
  apply h.setProgress
  · simp [hprog]
  · simp [Call.Early]
  · intro _
    exact h.late i (.inl hprog)
  · simp [Call.Outstanding, hkind]

theorem Consistent.freeStream (hprog : (s.calls i).progress = .returned) :
    (s.next (.freeStream i)).Consistent := by
  refine h.change rfl rfl rfl ?_ ?_ (h.late i) id
  · simp [hprog]
  · simp [Call.Early, hprog]

theorem Consistent.receive (response : Response) :
    (s.next (.receive response)).Consistent := by
  simp only [Context.next]
  split
  · exact h
  · rename_i i hlookup
    have hmem : (response.callId, i) ∈ s.transactions :=
      (removeItem_perm hlookup).mem_iff.mpr mem_cons_self
    refine h.mono rfl rfl (.refl _) (fun j => ?_) ?_ nofun
    · exact Nat.add_le_add_left (Nat.zero_le _) _
    · intro response' j heq
      cases heq
      exact hmem

theorem Consistent.remove {response : Response}
    (hloop : s.loop = .found response i) :
    (s.next (.remove response i)).Consistent := by
  have hmem := h.found response i hloop
  have hid := h.key _ hmem
  have hlookup : s.getItemValue response.callId = some i := by
    cases hfind : s.getItemValue response.callId with
    | none =>
      rw [getItemValue, Option.map_eq_none_iff, find?_eq_none] at hfind
      simpa using hfind _ hmem
    | some j => rw [h.getItemValue_eq hfind (h.outstanding_of_mem hmem) hid]
  refine h.takeOut rfl rfl (removeItem_perm hlookup) ?_ nofun ?_
  · intro j
    exact Nat.le_add_left _ _
  · intro response' j heq
    cases heq
    exact hid

theorem Consistent.removeHead (hhead : s.transactions.head?.map (·.2) = some i) :
    (s.next (.removeHead i)).Consistent := by
  obtain ⟨entry, hentry, rfl⟩ := Option.map_eq_some_iff.mp hhead
  have hcons : s.transactions = entry :: s.transactions.tail := eq_cons_of_mem_head? hentry
  refine h.takeOut rfl rfl (by rw [hcons]; exact .refl _) ?_ nofun nofun
  intro j
  exact Nat.le_add_left _ _

theorem Consistent.invoke {loop : MainLoop} {reason : UInt32}
    {response : Option Response}
    (howns : s.loop.owns i = 1) (hloop : ∀ j, loop.owns j = 0)
    (hfound : ∀ response j, loop ≠ .found response j)
    (hown : ∀ r ∈ response, r.callId = (s.calls i).callId) (herror : response = none → reason ≠ 0) :
    ({ s with loop := loop }.invoke i reason response).Consistent := by
  have hset : Consistent { s with loop := loop } := h.setLoop rfl rfl rfl hloop hfound
  have hrefs := refs_ne_zero_of_owns howns
  obtain ⟨hempty, hearly, hover⟩ := h.of_refs hrefs
  have hle := h.refs_le i
  rw [refs, howns] at hle
  have hzero : refs { s with loop := loop } i = 0 := by
    show (s.transactions.map (·.2)).count i + loop.owns i = 0
    rw [hloop i]
    omega
  refine hset.set ⟨?_, ?_, fun _ => hzero, ?_, fun _ => rfl, ?_⟩ (Nat.le_refl _) (h.lt_nextCall ?_)
  · rw [hzero]
    simp [hempty]
  · intro hcall
    exact absurd hcall hearly
  · intro invocation hinvoc
    simp only [hempty, nil_append, mem_singleton] at hinvoc
    subst hinvoc
    refine ⟨hown, herror, fun hkind => ?_⟩
    have hret : (s.calls i).progress ≠ .returned := fun hprog => hover (.inr ⟨hprog, hkind⟩)
    simpa using hret
  · intro _ j hj houtj hid
    exact hj (h.distinct j i houtj (h.outstanding_of_refs hrefs) hid)
  · intro habsent
    exact hearly (.inl habsent)

theorem Consistent.next {event : Event} (henb : s.Enabled event)
    (hfresh : s.FreshTag event)
    (hrace : s.NoRace event) : (s.next event).Consistent := by
  cases event with
  | call kind => exact h.call kind
  | getTag i => exact h.getTag henb hfresh
  | addTransaction i => exact h.addTransaction henb
  | enqueue i => exact h.enqueue henb
  | wake i => exact h.wake henb.1 henb.2
  | timeout i =>
    obtain ⟨hprog, -⟩ := henb
    apply h.setProgress
    · simp [hprog]
    · simp [Call.Early]
    · simp [Call.Over]
    · simp [Call.Outstanding, hprog]
  | removeTransaction i => exact h.removeTransaction henb hrace
  | leave i => exact h.leave henb.1 henb.2
  | freeStream i => exact h.freeStream henb.1
  | serverStop => exact h.mono rfl rfl (.refl _) (fun _ => Nat.le_refl _) h.found h.removed
  | connect opened =>
    cases opened <;> exact h.setLoop rfl rfl rfl (fun _ => rfl) nofun
  | receive response => exact h.receive response
  | remove response i => exact h.remove henb
  | callback response i =>
    have hloop : s.loop = .removed response i := henb
    refine h.invoke (by simp [hloop, MainLoop.owns]) (fun _ => rfl) nofun ?_ nofun
    intro r hr
    cases hr
    exact (h.removed response i hloop).symm
  | readFails | beginWriting | dequeue i | clearQueue | endDraining | exit =>
    exact h.setLoop rfl rfl rfl (fun _ => rfl) nofun
  | writeHeader i written | writePayload i written => cases written <;> exact h.setLoop rfl rfl rfl (fun _ => rfl) nofun
  | endWriting failed => cases failed <;> exact h.setLoop rfl rfl rfl (fun _ => rfl) nofun
  | removeHead i => exact h.removeHead henb.2
  | drainCallback i =>
    have hloop : s.loop = .drained i := henb
    exact h.invoke (by simp [hloop, MainLoop.owns]) (fun _ => rfl) nofun nofun fun _ => by decide

theorem Consistent.step {event : Event} (hfresh : s.FreshTag event)
    (hrace : s.NoRace event) :
    (s.step event).Consistent := by
  unfold Context.step
  split
  · rename_i henb
    exact h.next henb hfresh hrace
  · exact h

end Context

/-- In every interleaving in which call ids are distinct among outstanding calls, and no call that has timed
out takes its transaction back between the lookup and the removal of it for a response, every callback
runs at most once, with a response to its own call or with an error, and not after its
`pbrpc_call_method` has returned. -/
theorem callbacks_proper (events : List Event)
    (hfresh : Along Context.step Context.FreshTag .new events)
    (hrace : Along Context.step Context.NoRace .new events) :
    (events.foldl Context.step .new).CallbacksProper := by
  have hconsistent : (events.foldl Context.step .new).Consistent := by
    apply Along.invariant _ Context.new_consistent (hfresh.and hrace)
    intro s event h hev
    exact h.step hev.1 hev.2
  exact hconsistent.callbacksProper

namespace Sample

def answered : List Event :=
  [.connect true] ++ sent 0 ++ [.receive ⟨1, 0⟩, .remove ⟨1, 0⟩ 0, .callback ⟨1, 0⟩ 0, .wake 0, .leave 0] ++
    sent 1 ++ [.timeout 1, .removeTransaction 1, .leave 1, .receive ⟨2, 0⟩]

def late : List Event :=
  [.connect true] ++ sent 0 ++ [.timeout 0, .receive ⟨1, 0⟩, .removeTransaction 0, .leave 0, .remove ⟨1, 0⟩ 0,
    .callback ⟨1, 0⟩ 0]

end Sample

theorem answered_callbacks_proper : (Sample.answered.foldl Context.step .new).CallbacksProper :=
  callbacks_proper Sample.answered (by decide +kernel) (by decide +kernel)

/-- The callback of a call on the stack of a function that has returned. -/
theorem late_callback_improper :
    Along Context.step Context.FreshTag .new Sample.late ∧
      ¬(Sample.late.foldl Context.step .new).CallbacksProper := by
  refine ⟨by decide +kernel, fun h => ?_⟩
  have hproper := h.proper 0 ⟨0, some ⟨1, 0⟩, true⟩ (by decide +kernel)
  exact absurd (hproper.inTime (by decide +kernel)) (by decide)

end FreeRDS.Pbrpc
