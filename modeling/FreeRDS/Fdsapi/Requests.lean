import FreeRDS.Lib.Run
import Mathlib.Data.Fintype.Basic
import Mathlib.Data.List.Nodup
import Mathlib.Logic.Function.Basic
import Mathlib.Tactic.Common

/-! # Requests of a client

`FDSAPI_SendRequest` gives a request the next number of 16 bits, puts an item with it into a list, sends it and waits
for an event. `FDSAPI_HandleResponse`, on the thread that receives, looks for the first item with the number of a
response, copies the response and sets the event. Any number of threads call the one; the items are on their stacks.
-/

namespace FreeRDS.Fdsapi

open Lib List

variable {ι : Type}

/-- A response: its number, and the call whose request the manager has made it for. -/
structure Response (ι : Type) where
  requestId : UInt16
  generatedFor : ι
  deriving DecidableEq

/-- Where a call of `FDSAPI_SendRequest` stands. -/
inductive CallPhase
  | idle
  | assigned
  | listed
  | written
  /-- `WaitForSingleObject`, without a limit. -/
  | waiting
  /-- Behind the check of the number, or behind a message that could not be sent. -/
  | checked (success : Bool)
  | returned (success : Bool)
  deriving DecidableEq, Repr

namespace CallPhase

def InList : CallPhase → Prop
  | listed | written | waiting | checked _ => True
  | idle | assigned | returned _ => False

/-- The request has been sent, and the call has not looked at a response. -/
def IsSent : CallPhase → Prop
  | written | waiting => True
  | _ => False

def IsUnsent : CallPhase → Prop
  | assigned | listed => True
  | _ => False

end CallPhase

structure Call (ι : Type) where
  phase : CallPhase
  /-- `requestMsg->requestId`. -/
  requestId : UInt16
  /-- `responseMsg`, once something has been copied to it. -/
  response : Option (Response ι)
  /-- `hWaitEvent` is set. -/
  signaled : Bool
  deriving DecidableEq

namespace Call

def Outstanding (call : Call ι) : Prop :=
  call.phase ≠ .idle ∧ ∀ success, call.phase ≠ .returned success

instance (call : Call ι) : Decidable call.Outstanding := inferInstanceAs (Decidable (_ ∧ _))

def Waiting (call : Call ι) : Prop := call.phase = .waiting ∧ call.signaled = false

def Unanswered (call : Call ι) : Prop := call.phase.IsSent ∧ call.signaled = false

theorem Waiting.unanswered {call : Call ι} (h : call.Waiting) : call.Unanswered :=
  ⟨by rw [h.1]; trivial, h.2⟩

theorem Unanswered.cases {call : Call ι} (h : call.Unanswered) : call.phase = .written ∨ call.Waiting := by
  cases hphase : call.phase with
  | written => exact .inl rfl
  | waiting => exact .inr ⟨hphase, h.2⟩
  | _ => rw [Unanswered, hphase] at h; exact h.1.elim

end Call

/-- The client, and the requests that the manager still has to answer. -/
structure Requests (ι : Type) where
  nextRequestId : UInt16
  activeRequestList : List ι
  calls : ι → Call ι
  pending : List ι
  connected : Bool

inductive RequestEvent (ι : Type)
  | assign (k : ι)
  | giveUp (k : ι)
  | add (k : ι)
  | write (k : ι)
  | writeFails (k : ι)
  | sent (k : ι)
  | respond (k : ι)
  | wake (k : ι)
  | remove (k : ι)
  /-- The pipe is closed, and `FDSAPI_RpcConnectionClosed` is called. -/
  | close
  | connect
  deriving DecidableEq

namespace Requests

def new : Requests ι where
  nextRequestId := 0
  activeRequestList := []
  calls _ := ⟨.idle, 0, none, false⟩
  pending := []
  connected := true

variable [DecidableEq ι]

variable (s : Requests ι)

def setCall (k : ι) (call : Call ι) : Requests ι :=
  { s with calls := Function.update s.calls k call }

def setPhase (k : ι) (phase : CallPhase) : Requests ι :=
  s.setCall k { s.calls k with phase := phase }

/-- `FDSAPI_HandleResponse`. -/
def handleResponse (msg : Response ι) : Requests ι :=
  match s.activeRequestList.find? fun k => (s.calls k).requestId = msg.requestId with
  | some k => s.setCall k { s.calls k with response := some msg, signaled := true }
  | none => s

/-- `responseMsg->requestId`, which is zero at first. -/
def responseId (call : Call ι) : UInt16 := (call.response.map Response.requestId).getD 0

def step : RequestEvent ι → Requests ι
  | .assign k =>
    if (s.calls k).phase = .idle then
      { s.setCall k ⟨.assigned, s.nextRequestId, none, false⟩ with nextRequestId := s.nextRequestId + 1 }
    else s
  | .giveUp k => if (s.calls k).phase = .assigned then s.setPhase k (.returned false) else s
  | .add k =>
    if (s.calls k).phase = .assigned then
      { s.setPhase k .listed with activeRequestList := s.activeRequestList ++ [k] }
    else s
  | .write k =>
    if (s.calls k).phase = .listed ∧ s.connected then { s.setPhase k .written with pending := s.pending ++ [k] }
    else s
  | .writeFails k => if (s.calls k).phase = .listed then s.setPhase k (.checked false) else s
  | .sent k => if (s.calls k).phase = .written then s.setPhase k .waiting else s
  | .respond k =>
    if k ∈ s.pending then
      { s.handleResponse ⟨(s.calls k).requestId, k⟩ with pending := s.pending.erase k }
    else s
  | .wake k =>
    if (s.calls k).phase = .waiting ∧ (s.calls k).signaled then
      s.setPhase k (.checked ((s.calls k).requestId = responseId (s.calls k)))
    else s
  | .remove k =>
    match (s.calls k).phase with
    | .checked success =>
      { s.setPhase k (.returned success) with activeRequestList := s.activeRequestList.erase k }
    | _ => s
  -- The handler writes to the log. What was not answered stays without an answer.
  | .close => { s with connected := false, pending := [] }
  | .connect => { s with connected := true }

/-- The number that is assigned next is not that of a request that is still outstanding. -/
def Fresh : RequestEvent ι → Prop
  | .assign _ => ∀ j, (s.calls j).Outstanding → (s.calls j).requestId ≠ s.nextRequestId
  | _ => True

end Requests

/-! ## The numbers of the requests -/

/-- What a call has got was made for it, and it has got something whenever it takes itself to have. -/
structure Call.Ok (k : ι) (call : Call ι) : Prop where
  unsent : call.phase.IsUnsent → call.signaled = false
  generatedFor : ∀ msg ∈ call.response, msg.generatedFor = k
  signaled : call.signaled = true → call.response ≠ none
  success : call.phase = .checked true ∨ call.phase = .returned true → call.response ≠ none

namespace Requests

/-- The numbers of the outstanding requests differ, and no response has gone to another call than its own. -/
structure Inv (s : Requests ι) : Prop where
  ok : ∀ k, (s.calls k).Ok k
  distinct : ∀ j k, (s.calls j).Outstanding → (s.calls k).Outstanding →
    (s.calls j).requestId = (s.calls k).requestId → j = k
  nodup : s.activeRequestList.Nodup
  listed : ∀ k, k ∈ s.activeRequestList ↔ (s.calls k).phase.InList
  pending_nodup : s.pending.Nodup
  pending : ∀ k ∈ s.pending, (s.calls k).Unanswered

theorem inv_new : (new : Requests ι).Inv where
  ok k := by constructor <;> simp [new]
  distinct j k hj := absurd rfl hj.1
  nodup := .nil
  listed k := by simp [new, CallPhase.InList]
  pending_nodup := .nil
  pending k hk := absurd hk not_mem_nil

namespace Inv

variable {s t : Requests ι} {k : ι}

theorem pending_inList (h : s.Inv) (hk : k ∈ s.pending) : k ∈ s.activeRequestList := by
  rw [h.listed]
  have hsent := (h.pending k hk).1
  cases hphase : (s.calls k).phase <;> rw [hphase] at hsent <;> trivial

theorem not_pending (h : s.Inv) (hphase : ¬(s.calls k).phase.IsSent) : k ∉ s.pending :=
  fun hk => hphase (h.pending k hk).1

theorem outstanding (h : s.Inv) (hk : k ∈ s.activeRequestList) : (s.calls k).Outstanding := by
  have hlisted := (h.listed k).mp hk
  constructor
  · intro hidle
    rw [hidle] at hlisted
    exact hlisted
  · intro success hret
    rw [hret] at hlisted
    exact hlisted

variable [DecidableEq ι]

variable (h : s.Inv)

include h

theorem update {call : Call ι} (hcalls : t.calls = Function.update s.calls k call) (hok : call.Ok k)
    (hdistinct : call.Outstanding → ∀ j, j ≠ k → (s.calls j).Outstanding → (s.calls j).requestId ≠ call.requestId)
    (hnodup : t.activeRequestList.Nodup)
    (hlist : ∀ j, j ≠ k → (j ∈ t.activeRequestList ↔ j ∈ s.activeRequestList))
    (hlisted : k ∈ t.activeRequestList ↔ call.phase.InList)
    (hpending_nodup : t.pending.Nodup) (hpend : ∀ j ∈ t.pending, j ≠ k → j ∈ s.pending)
    (hsent : k ∈ t.pending → call.phase.IsSent ∧ call.signaled = false) : t.Inv := by
  have hself : t.calls k = call := by rw [hcalls, Function.update_self]
  have hother : ∀ j, j ≠ k → t.calls j = s.calls j := by
    intro j hj
    rw [hcalls, Function.update_of_ne hj]
  refine ⟨fun j => ?_, fun i j hi hj hsame => ?_, hnodup, fun j => ?_, hpending_nodup, fun j hmem => ?_⟩
  · by_cases hj : j = k
    · rw [hj, hself]
      exact hok
    · rw [hother j hj]
      exact h.ok j
  · by_cases hik : i = k <;> by_cases hjk : j = k
    · rw [hik, hjk]
    · rw [hik, hself] at hi hsame
      rw [hother j hjk] at hj hsame
      exact absurd hsame.symm (hdistinct hi j hjk hj)
    · rw [hjk, hself] at hj hsame
      rw [hother i hik] at hi hsame
      exact absurd hsame (hdistinct hj i hik hi)
    · rw [hother i hik] at hi hsame
      rw [hother j hjk] at hj hsame
      exact h.distinct i j hi hj hsame
  · by_cases hj : j = k
    · rw [hj, hself]
      exact hlisted
    · rw [hother j hj, hlist j hj]
      exact h.listed j
  · by_cases hj : j = k
    · subst hj
      rw [hself]
      exact hsent hmem
    · rw [hother j hj]
      exact h.pending j (hpend j hmem hj)

theorem phase {phase : CallPhase} (hcalls : t.calls = (s.setPhase k phase).calls)
    (hout : (s.calls k).Outstanding) (hunsent : phase.IsUnsent → (s.calls k).signaled = false)
    (hsuccess : phase = .checked true ∨ phase = .returned true → (s.calls k).response ≠ none)
    (hnodup : t.activeRequestList.Nodup)
    (hlist : ∀ j, j ≠ k → (j ∈ t.activeRequestList ↔ j ∈ s.activeRequestList))
    (hlisted : k ∈ t.activeRequestList ↔ phase.InList)
    (hpending_nodup : t.pending.Nodup) (hpend : ∀ j ∈ t.pending, j ≠ k → j ∈ s.pending)
    (hsent : k ∈ t.pending → phase.IsSent ∧ (s.calls k).signaled = false) : t.Inv := by
  have hok : ({ s.calls k with phase := phase } : Call ι).Ok k :=
    ⟨hunsent, (h.ok k).generatedFor, (h.ok k).signaled, hsuccess⟩
  refine h.update hcalls hok (fun _ j hj hjout hsame => ?_) hnodup hlist hlisted hpending_nodup hpend hsent
  exact hj (h.distinct j k hjout hout hsame)

theorem handleResponse (hk : k ∈ s.pending) :
    s.handleResponse ⟨(s.calls k).requestId, k⟩ =
      s.setCall k { s.calls k with response := some ⟨(s.calls k).requestId, k⟩, signaled := true } := by
  have hmem := h.pending_inList hk
  rw [Requests.handleResponse]
  cases hfind : s.activeRequestList.find? fun j => (s.calls j).requestId = (s.calls k).requestId with
  | none =>
    have hne := find?_eq_none.mp hfind k hmem
    simp at hne
  | some j =>
    have hj := mem_of_find?_eq_some hfind
    have hsame : (s.calls j).requestId = (s.calls k).requestId := by simpa using find?_some hfind
    have hjk : j = k := h.distinct j k (h.outstanding hj) (h.outstanding hmem) hsame
    rw [hjk]

theorem setPhase {phase : CallPhase} (hout : (s.calls k).Outstanding)
    (hunsent : phase.IsUnsent → (s.calls k).signaled = false)
    (hsuccess : phase = .checked true ∨ phase = .returned true → (s.calls k).response ≠ none)
    (hlist : (s.calls k).phase.InList ↔ phase.InList) (hpend : k ∈ s.pending → phase.IsSent) :
    (s.setPhase k phase).Inv :=
  h.phase rfl hout hunsent hsuccess h.nodup (fun _ _ => .rfl) ((h.listed k).trans hlist) h.pending_nodup
    (fun _ hj _ => hj) fun hk => ⟨hpend hk, (h.pending k hk).2⟩

theorem assign (hphase : (s.calls k).phase = .idle) (hfresh : s.Fresh (.assign k)) :
    Inv { s.setCall k ⟨.assigned, s.nextRequestId, none, false⟩ with nextRequestId := s.nextRequestId + 1 } := by
  have hnew : k ∉ s.activeRequestList := by simp [h.listed, hphase, CallPhase.InList]
  refine h.update rfl ?_ (fun _ j _ hj => hfresh j hj) h.nodup (fun _ _ => .rfl) (iff_of_false hnew id)
    h.pending_nodup (fun _ hj _ => hj) fun hk => absurd (h.pending_inList hk) hnew
  constructor <;> simp

theorem add (hphase : (s.calls k).phase = .assigned) :
    Inv { s.setPhase k .listed with activeRequestList := s.activeRequestList ++ [k] } := by
  have hnew : k ∉ s.activeRequestList := by simp [h.listed, hphase, CallPhase.InList]
  have hnodup : (s.activeRequestList ++ [k]).Nodup := by
    rw [← concat_eq_append]
    exact h.nodup.concat hnew
  refine h.phase rfl (by simp [Call.Outstanding, hphase]) (fun _ => ?_) (by simp) hnodup ?_
    (iff_of_true (by simp) trivial) h.pending_nodup (fun _ hj _ => hj) fun hk => absurd (h.pending_inList hk) hnew
  · exact (h.ok k).unsent (by rw [hphase]; trivial)
  · intro j hj
    simp [hj]

theorem write (hphase : (s.calls k).phase = .listed) :
    Inv { s.setPhase k .written with pending := s.pending ++ [k] } := by
  have hsig := (h.ok k).unsent (by rw [hphase]; trivial)
  have hlisted : k ∈ s.activeRequestList := by rw [h.listed, hphase]; trivial
  have hnodup : (s.pending ++ [k]).Nodup := by
    rw [← concat_eq_append]
    exact h.pending_nodup.concat (h.not_pending (by rw [hphase]; exact id))
  refine h.phase rfl (by simp [Call.Outstanding, hphase]) (False.elim ·) (by simp) h.nodup (fun _ _ => Iff.rfl)
    (iff_of_true hlisted trivial) hnodup ?_ fun _ => ⟨trivial, hsig⟩
  intro j hj hne
  simpa [hne] using hj

theorem respond (hk : k ∈ s.pending) :
    Inv { s.handleResponse ⟨(s.calls k).requestId, k⟩ with pending := s.pending.erase k } := by
  rw [h.handleResponse hk]
  refine h.update rfl ?_ ?_ h.nodup (fun _ _ => .rfl) (h.listed k) (h.pending_nodup.erase k) ?_ ?_
  · refine ⟨fun hunsent => ?_, by simp, by simp, by simp⟩
    have hsent := (h.pending k hk).1
    cases hphase : (s.calls k).phase <;> rw [hphase] at hsent hunsent <;> trivial
  · exact fun _ j hj hjout hsame => hj (h.distinct j k hjout (h.outstanding (h.pending_inList hk)) hsame)
  · exact fun j hj _ => mem_of_mem_erase hj
  · exact fun hmem => absurd hmem h.pending_nodup.not_mem_erase

theorem remove {success : Bool} (hphase : (s.calls k).phase = .checked success) :
    Inv { s.setPhase k (.returned success) with activeRequestList := s.activeRequestList.erase k } := by
  refine h.phase rfl (by simp [Call.Outstanding, hphase]) (False.elim ·) ?_ (h.nodup.erase k)
    (fun j hj => mem_erase_of_ne hj) (iff_of_false h.nodup.not_mem_erase id) h.pending_nodup
    (fun _ hj _ => hj) fun hk => absurd hk (h.not_pending (by rw [hphase]; exact id))
  intro hsuccess
  refine (h.ok k).success (.inl ?_)
  simpa [hphase] using hsuccess

theorem step {e : RequestEvent ι} (hfresh : s.Fresh e) : (s.step e).Inv := by
  cases e with
  | assign k =>
    rw [Requests.step]
    split
    case isFalse => exact h
    case isTrue hphase => exact h.assign hphase hfresh
  | giveUp k | writeFails k =>
    rw [Requests.step]
    split
    case isFalse => exact h
    case isTrue hphase =>
      refine h.setPhase (by simp [Call.Outstanding, hphase]) (False.elim ·) (by simp) (by rw [hphase]; rfl) ?_
      exact fun hk => absurd hk (h.not_pending (by rw [hphase]; exact id))
  | add k =>
    rw [Requests.step]
    split
    case isFalse => exact h
    case isTrue hphase => exact h.add hphase
  | write k =>
    rw [Requests.step]
    split
    case isFalse => exact h
    case isTrue hphase => exact h.write hphase.1
  | sent k =>
    rw [Requests.step]
    split
    case isFalse => exact h
    case isTrue hphase =>
      exact h.setPhase (by simp [Call.Outstanding, hphase]) (False.elim ·) (by simp) (by rw [hphase]; rfl)
        fun _ => trivial
  | respond k =>
    rw [Requests.step]
    split
    case isFalse => exact h
    case isTrue hk => exact h.respond hk
  | wake k =>
    rw [Requests.step]
    split
    case isFalse => exact h
    case isTrue hphase =>
      refine h.setPhase (by simp [Call.Outstanding, hphase]) (False.elim ·)
        (fun _ => (h.ok k).signaled hphase.2) (by rw [hphase.1]; rfl) fun hk => ?_
      exact absurd hphase.2 (by simp [(h.pending k hk).2])
  | remove k =>
    rw [Requests.step]
    split
    case h_2 => exact h
    case h_1 success hphase => exact h.remove hphase
  | close => exact ⟨h.ok, h.distinct, h.nodup, h.listed, .nil, fun k hk => absurd hk not_mem_nil⟩
  | connect => exact ⟨h.ok, h.distinct, h.nodup, h.listed, h.pending_nodup, h.pending⟩

end Inv

/-- A call that succeeds has the response made for its request. -/
theorem responses_matched [DecidableEq ι] (events : List (RequestEvent ι)) (h : Along step Fresh new events) (k : ι)
    (hk : ((events.foldl step new).calls k).phase = .returned true) :
    ∃ requestId, ((events.foldl step new).calls k).response = some ⟨requestId, k⟩ := by
  have hinv : (events.foldl step new).Inv := Along.invariant (fun s e hs he => hs.step he) inv_new h
  obtain ⟨msg, hmsg⟩ := Option.ne_none_iff_exists'.mp ((hinv.ok k).success (.inr hk))
  refine ⟨msg.requestId, ?_⟩
  rw [hmsg, ← (hinv.ok k).generatedFor msg hmsg]

instance [Fintype ι] [DecidableEq ι] (s : Requests ι) : (e : RequestEvent ι) → Decidable (s.Fresh e)
  | .assign _ => Fintype.decidableForallFintype
  | .giveUp _ | .add _ | .write _ | .writeFails _ | .sent _ | .respond _ | .wake _ | .remove _ | .close | .connect =>
    .isTrue trivial

def crossed : List (RequestEvent (Fin 2)) :=
  [.assign 0, .assign 1, .add 1, .add 0, .write 0, .write 1, .sent 0, .sent 1, .respond 1, .respond 0,
    .wake 0, .wake 1, .remove 0, .remove 1]

theorem responses_matched_crossed :
    Along step Fresh new crossed ∧ ((crossed.foldl step new).calls 0).phase = .returned true ∧
      ∃ requestId, ((crossed.foldl step new).calls 0).response = some ⟨requestId, 0⟩ := by
  have hfresh : Along step Fresh new crossed := by decide
  have hret : ((crossed.foldl step new).calls 0).phase = .returned true := by decide
  exact ⟨hfresh, hret, responses_matched crossed hfresh 0 hret⟩

section Wrap

variable [DecidableEq ι] {s : Requests ι} {k : ι}

theorem setCall_of_ne {call : Call ι} {j : ι} (hkj : k ≠ j) : (s.setCall j call).calls k = s.calls k := by
  simp [setCall, hkj]

theorem outstanding_setCall {call : Call ι} {j : ι} (hj : call.Outstanding → (s.calls j).Outstanding)
    (hk : ((s.setCall j call).calls k).Outstanding) : (s.calls k).Outstanding := by
  by_cases hkj : k = j
  · subst hkj
    exact hj (by simpa [setCall] using hk)
  · rwa [setCall_of_ne hkj] at hk

theorem outstanding_step {e : RequestEvent ι} (hk : ((s.step e).calls k).Outstanding) :
    (s.calls k).Outstanding ∨ e = .assign k := by
  have hphase : ∀ j phase, (s.calls j).Outstanding → ((s.setPhase j phase).calls k).Outstanding →
      (s.calls k).Outstanding := fun j phase hj => outstanding_setCall fun _ => hj
  cases e with
  | assign j =>
    by_cases hkj : k = j
    · exact .inr (by rw [hkj])
    · rw [step] at hk
      split at hk
      · exact .inl (setCall_of_ne hkj ▸ hk)
      · exact .inl hk
  | respond j =>
    rw [step, handleResponse] at hk
    split at hk
    · split at hk
      case h_1 => exact .inl (outstanding_setCall (by exact id) hk)
      case h_2 => exact .inl hk
    · exact .inl hk
  | remove j =>
    rw [step] at hk
    split at hk
    case h_1 success hj => exact .inl (hphase j _ (by simp [Call.Outstanding, hj]) hk)
    case h_2 => exact .inl hk
  | close | connect => exact .inl hk
  | _ j =>
    rw [step] at hk
    split at hk
    case isTrue hj => exact .inl (hphase j _ (by simp [Call.Outstanding, hj]) hk)
    case isFalse => exact .inl hk

def answered (k : ι) : List (RequestEvent ι) :=
  [.assign k, .add k, .write k, .sent k, .respond k, .wake k, .remove k]

theorem foldl_answered (hphase : (s.calls k).phase = .idle) (hlist : k ∉ s.activeRequestList)
    (hpend : k ∉ s.pending) (hconn : s.connected = true)
    (hids : ∀ j ∈ s.activeRequestList, (s.calls j).requestId ≠ s.nextRequestId) :
    (answered k).foldl step s =
      { s with
        nextRequestId := s.nextRequestId + 1
        calls := Function.update s.calls k ⟨.returned true, s.nextRequestId, some ⟨s.nextRequestId, k⟩, true⟩ } := by
  have hfind : (s.activeRequestList ++ [k]).find? (fun j =>
      (Function.update s.calls k ⟨.waiting, s.nextRequestId, none, false⟩ j).requestId = s.nextRequestId) = some k := by
    have hnone : s.activeRequestList.find? (fun j =>
        (Function.update s.calls k ⟨.waiting, s.nextRequestId, none, false⟩ j).requestId = s.nextRequestId) = none := by
      rw [find?_eq_none]
      intro j hj
      have hjk : j ≠ k := fun hjk => hlist (hjk ▸ hj)
      simpa [Function.update_of_ne hjk] using hids j hj
    simp [hnone]
  have herase : ∀ {list : List ι}, k ∉ list → (list ++ [k]).erase k = list := by
    intro list hk
    rw [erase_append_right _ hk, erase_cons_head, append_nil]
  simp [answered, step, setPhase, setCall, handleResponse, responseId, hphase, hconn, hfind, herase hlist,
    herase hpend]

end Wrap

/-- The first request waits, and a number of others have been answered since. -/
structure Held (count : Nat) (s : Requests Nat) : Prop where
  nextRequestId : s.nextRequestId = UInt16.ofNat (count + 1)
  activeRequestList : s.activeRequestList = [0]
  pending : s.pending = [0]
  connected : s.connected = true
  first : s.calls 0 = ⟨.waiting, 0, none, false⟩
  others : ∀ k, 0 < k → ¬(s.calls k).Outstanding
  idle : ∀ k, count < k → (s.calls k).phase = .idle

def hold : List (RequestEvent Nat) := [.assign 0, .add 0, .write 0, .sent 0]

theorem held_hold : Held 0 (hold.foldl step new) where
  nextRequestId := rfl
  activeRequestList := rfl
  pending := rfl
  connected := rfl
  first := rfl
  others k hk := by
    have hne : k ≠ 0 := by omega
    simp [hold, step, setPhase, setCall, new, Call.Outstanding, hne]
  idle k hk := by
    have hne : k ≠ 0 := by omega
    simp [hold, step, setPhase, setCall, new, hne]

variable {count : Nat}

theorem Held.answered {s : Requests Nat} (h : Held count s) (hcnt : count + 1 < 65536) :
    Held (count + 1) ((answered (count + 1)).foldl step s) := by
  have hnext : s.nextRequestId ≠ 0 := by
    rw [h.nextRequestId]
    intro hzero
    have := congrArg UInt16.toNat hzero
    rw [UInt16.toNat_ofNat_of_lt' hcnt] at this
    simp at this
  rw [foldl_answered (h.idle _ (by omega)) (by simp [h.activeRequestList]) (by simp [h.pending]) h.connected
    (by simp [h.activeRequestList, h.first, hnext.symm])]
  refine ⟨?_, h.activeRequestList, h.pending, h.connected, ?_, fun k hk => ?_, fun k hk => ?_⟩
  · simp [h.nextRequestId]
  · simp [h.first]
  · by_cases hne : k = count + 1
    · simp [hne, Call.Outstanding]
    · simpa [hne] using h.others k hk
  · have hne : k ≠ count + 1 := by omega
    simpa [hne] using h.idle k (by omega)

def others (count : Nat) : List (RequestEvent Nat) := (List.range count).flatMap fun k => answered (k + 1)

theorem others_succ (count : Nat) : others (count + 1) = others count ++ answered (count + 1) := by
  simp [others, range_succ]

theorem held_others (hcnt : count < 65536) :
    Held count ((others count).foldl step (hold.foldl step new)) := by
  induction count with
  | zero => exact held_hold
  | succ count ih =>
    rw [others_succ, foldl_append]
    exact (ih (by omega)).answered hcnt

def AtMostTwo (s : Requests ι) : Prop := ∃ i k, ∀ j, (s.calls j).Outstanding → j = i ∨ j = k

theorem along_atMostTwo [DecidableEq ι] {s : Requests ι} {i k : ι} {events : List (RequestEvent ι)}
    (hs : ∀ j, (s.calls j).Outstanding → j = i ∨ j = k) (hevs : ∀ j, .assign j ∈ events → j = i ∨ j = k) :
    Along step (fun s _ => s.AtMostTwo) s events := by
  induction events generalizing s with
  | nil => trivial
  | cons e events ih =>
    refine ⟨⟨i, k, hs⟩, ih (fun j hj => ?_) fun j hj => hevs j (mem_cons_of_mem e hj)⟩
    rcases outstanding_step hj with hj | rfl
    · exact hs j hj
    · exact hevs j mem_cons_self

theorem Held.outstanding {s : Requests Nat} (h : Held count s) (k j : Nat)
    (hj : (s.calls j).Outstanding) : j = 0 ∨ j = k :=
  .inl (Nat.eq_zero_of_not_pos fun hpos => h.others j hpos hj)

theorem along_others (hcnt : count < 65536) :
    Along step (fun s _ => s.AtMostTwo) (hold.foldl step new) (others count) := by
  induction count with
  | zero => trivial
  | succ count ih =>
    rw [others_succ, Along.append_iff]
    refine ⟨ih (by omega), along_atMostTwo ((held_others (by omega)).outstanding (count + 1)) ?_⟩
    simp [answered]

/-- The first request waits while a number of others are answered. Then another one is sent and answered. -/
def overtaken (count : Nat) : List (RequestEvent Nat) :=
  hold ++ (others count ++ [.assign (count + 1), .add (count + 1), .write (count + 1), .sent (count + 1),
    .respond (count + 1), .wake 0, .remove 0])

theorem along_overtaken (hcnt : count < 65536) :
    Along step (fun s _ => s.AtMostTwo) new (overtaken count) := by
  rw [overtaken, Along.append_iff, Along.append_iff]
  refine ⟨?_, along_others hcnt, along_atMostTwo ((held_others hcnt).outstanding (count + 1)) (by simp)⟩
  exact along_atMostTwo (i := 0) (k := 0) (fun j hj => absurd rfl hj.1) (by simp [hold])

theorem foldl_overtaken (hcnt : count < 65536) (hwrap : UInt16.ofNat (count + 1) = 0) :
    ((overtaken count).foldl step new).calls 0 = ⟨.returned true, 0, some ⟨0, count + 1⟩, true⟩ ∧
      (((overtaken count).foldl step new).calls (count + 1)).phase = .waiting := by
  have h := held_others hcnt
  rw [overtaken, foldl_append, foldl_append]
  generalize (others count).foldl step (hold.foldl step new) = s at h
  have hnext : s.nextRequestId = 0 := h.nextRequestId.trans hwrap
  have hidle : (s.calls (count + 1)).phase = .idle := h.idle _ (by omega)
  simp [step, setPhase, setCall, handleResponse, responseId, hidle, hnext, h.first, h.connected,
    h.activeRequestList, h.pending]

theorem responses_not_matched :
    Along step (fun s _ => s.AtMostTwo) new (overtaken 65535) ∧
      ((overtaken 65535).foldl step new).calls 0 = ⟨.returned true, 0, some ⟨0, 65535 + 1⟩, true⟩ ∧
      (((overtaken 65535).foldl step new).calls (65535 + 1)).phase = .waiting :=
  have hcnt : 65535 < 65536 := by decide
  ⟨along_overtaken hcnt, foldl_overtaken hcnt rfl⟩

/-! ## The end of the connection -/

structure Closed (s : Requests ι) : Prop where
  connected : s.connected = false
  pending : s.pending = []

inductive ClosedStep (call : Call ι) : Call ι → Prop
  | same : ClosedStep call call
  | sent (hphase : call.phase = .written) : ClosedStep call { call with phase := .waiting }
  | other {call' : Call ι} (hbefore : ¬call.Unanswered) (hafter : ¬call'.Unanswered) : ClosedStep call call'

theorem ClosedStep.waiting {call call' : Call ι} (h : ClosedStep call call') (hcall : call.Waiting) :
    call'.Waiting := by
  cases h with
  | same => exact hcall
  | sent hphase => exact absurd (hphase.symm.trans hcall.1) (by decide)
  | other hbefore => exact absurd hcall.unanswered hbefore

theorem ClosedStep.unanswered {call call' : Call ι} (h : ClosedStep call call') (hcall : call'.Unanswered) :
    call.Unanswered := by
  cases h with
  | same => exact hcall
  | sent hphase => exact ⟨by rw [hphase]; trivial, hcall.2⟩
  | other _ hafter => exact absurd hcall hafter

section Closing

variable [DecidableEq ι] {s : Requests ι} {k : ι} {e : RequestEvent ι} {later : List (RequestEvent ι)}

theorem closed_close : (s.step .close).Closed := ⟨rfl, rfl⟩

theorem Closed.step (h : s.Closed) (he : e ≠ .connect) : (s.step e).Closed := by
  cases e with
  | close => exact closed_close
  | connect => exact absurd rfl he
  | write k => rwa [Requests.step, if_neg (by simp [h.connected])]
  | respond k => rwa [Requests.step, if_neg (by simp [h.pending])]
  | _ k =>
    rw [Requests.step]
    split
    · exact ⟨h.connected, h.pending⟩
    · exact h

theorem setPhase_self {phase : CallPhase} : (s.setPhase k phase).calls k = { s.calls k with phase := phase } := by
  simp [setPhase, setCall]

theorem ClosedStep.setPhase {j : ι} {phase : CallPhase} (hbefore : ¬(s.calls j).Unanswered) (hafter : ¬phase.IsSent) :
    ClosedStep (s.calls k) ((s.setPhase j phase).calls k) := by
  by_cases hkj : k = j
  · subst hkj
    rw [setPhase_self]
    exact .other hbefore fun hsent => hafter hsent.1
  · rw [Requests.setPhase, setCall_of_ne hkj]
    exact .same

theorem Closed.step_calls (h : s.Closed) (k : ι) : ClosedStep (s.calls k) ((s.step e).calls k) := by
  have hphase : ∀ {j phase}, (s.calls j).phase = phase → ¬phase.IsSent → ¬(s.calls j).Unanswered := by
    intro j phase hj hsent hunanswered
    rw [← hj] at hsent
    exact hsent hunanswered.1
  cases e with
  | close | connect => exact .same
  | write j => rw [Requests.step, if_neg (by simp [h.connected])]; exact .same
  | respond j => rw [Requests.step, if_neg (by simp [h.pending])]; exact .same
  | assign j =>
    rw [Requests.step]
    split
    case isFalse => exact .same
    case isTrue hj =>
      by_cases hkj : k = j
      · subst hkj
        exact .other (hphase hj id) (by simp [setCall, Call.Unanswered, CallPhase.IsSent])
      · dsimp only
        rw [setCall_of_ne hkj]
        exact .same
  | sent j =>
    rw [Requests.step]
    split
    case isFalse => exact .same
    case isTrue hj =>
      by_cases hkj : k = j
      · subst hkj
        rw [setPhase_self]
        exact .sent hj
      · rw [Requests.setPhase, setCall_of_ne hkj]
        exact .same
  | wake j =>
    rw [Requests.step]
    split
    case isFalse => exact .same
    case isTrue hj => exact .setPhase (fun hunanswered => by simp [hunanswered.2] at hj) id
  | remove j =>
    rw [Requests.step]
    split
    case h_1 success hj => exact .setPhase (hphase hj id) id
    case h_2 => exact .same
  | giveUp j | add j | writeFails j =>
    rw [Requests.step]
    split
    case isFalse => exact .same
    case isTrue hj => exact .setPhase (hphase hj id) id

theorem waiting_sent (hk : (s.calls k).Unanswered) : ((s.step (.sent k)).calls k).Waiting := by
  rw [step]
  rcases hk.cases with hphase | hwait
  · rw [if_pos hphase, setPhase_self]
    exact ⟨rfl, hk.2⟩
  · rw [if_neg (by simp [hwait.1])]
    exact hwait

theorem Closed.waiting (h : s.Closed) (hlater : .connect ∉ later) (hk : (s.calls k).Waiting) :
    ((later.foldl Requests.step s).calls k).Waiting := by
  induction later generalizing s with
  | nil => exact hk
  | cons e later ih =>
    rw [mem_cons, not_or] at hlater
    exact ih (h.step (.symm hlater.1)) hlater.2 ((h.step_calls k).waiting hk)

theorem Closed.unanswered (h : s.Closed) (hlater : .connect ∉ later)
    (hk : ((later.foldl Requests.step s).calls k).Unanswered) : (s.calls k).Unanswered := by
  induction later generalizing s with
  | nil => exact hk
  | cons e later ih =>
    rw [mem_cons, not_or] at hlater
    exact (h.step_calls k).unanswered (ih (h.step (.symm hlater.1)) hlater.2 hk)

end Closing

/-- Every call that waits when the pipe closes returns `FALSE`, and none is left waiting while it stays closed. -/
def EndWithConnection [DecidableEq ι] (s : Requests ι) : Prop :=
  (∀ k, (s.calls k).Waiting → ∃ later, ((List.foldl step (s.step .close) later).calls k).phase = .returned false) ∧
  ∀ later, .connect ∉ later → ∀ k, ((List.foldl step (s.step .close) later).calls k).Waiting →
    ∃ further, .connect ∉ further ∧ ¬((List.foldl step (s.step .close) (later ++ further)).calls k).Waiting

/-- `FDSAPI_RpcConnectionClosed` sets no event, so that is so exactly if every request that was sent has its response
when the pipe closes. -/
theorem requests_end_iff [DecidableEq ι] (events : List (RequestEvent ι)) :
    (events.foldl step new).EndWithConnection ↔ ∀ k, ¬((events.foldl step new).calls k).Unanswered := by
  generalize events.foldl step new = s
  constructor
  · intro h k hk
    -- If the call does not wait yet, it does as soon as its thread goes on.
    have hwait : (((s.step .close).step (.sent k)).calls k).Waiting := waiting_sent hk
    obtain ⟨further, hfurther, hnot⟩ := h.2 [.sent k] (by simp) k hwait
    rw [foldl_append] at hnot
    exact hnot ((closed_close.step (e := .sent k) (by simp)).waiting hfurther hwait)
  · intro h
    refine ⟨fun k hk => absurd hk.unanswered (h k), fun later hlater k hk => ?_⟩
    exact absurd (closed_close.unanswered hlater hk.unanswered) (h k)

/-- A request is sent, and the pipe closes before its response. -/
theorem requests_not_ended :
    ((hold.foldl step new).calls 0).Waiting ∧ ∀ later, .connect ∉ later →
      ((List.foldl step ((hold.foldl step new).step .close) later).calls 0).Waiting := by
  have hwait : ((hold.foldl step new).calls 0).Waiting := ⟨rfl, rfl⟩
  exact ⟨hwait, fun later hlater => closed_close.waiting hlater hwait⟩

end Requests

end FreeRDS.Fdsapi
