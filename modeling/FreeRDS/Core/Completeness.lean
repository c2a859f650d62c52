import FreeRDS.Core.Notifications
import FreeRDS.Lib.Dictionary

/-! # One response for each request

A request is with the pbrpc thread, in the queue of a connection that is being served, answered, or lost. It is
lost when its connection does not exist, when the thread of its connection leaves the loop before it gets to the
request, and when the request itself cannot be handled.
-/

namespace FreeRDS.Core

open Lib Rpc List

namespace Server

variable {s : Server} {event : Event}

/-- How many requests with a call id the pbrpc thread has in its hands. -/
def inHand (s : Server) (callId : UInt32) : Nat :=
  match s.rpc with
  | .found request _ => if request.callId = callId then 1 else 0
  | .waiting => 0

def receivedCount (s : Server) (callId : UInt32) : Nat := (s.received.map (·.callId)).count callId

def responseCount (s : Server) (callId : UInt32) : Nat := (s.responses.map (·.callId)).count callId

def postedCount (s : Server) (callId : UInt32) : Nat := (s.posted.map (·.2.callId)).count callId

def lostCount (s : Server) (callId : UInt32) : Nat := (s.lost.map (·.callId)).count callId

/-- There are as many response frames as requests, for each call id. -/
def Answered (s : Server) : Prop := ∀ callId, s.responseCount callId = s.receivedCount callId

/-- Every posted notification has been processed or its connection has ended. -/
structure Settled (s : Server) : Prop where
  posted : s.posted = []
  rpc : s.rpc = .waiting

def Accepts (s : Server) (request : Request) (cbIsNull : Bool) : Option RequestKind → Prop
  | some .heartbeat => True
  | some .switchServiceEndpoint | some .logoffUser | some .channelEndpointOpen =>
    s.getConnection request.connectionId ≠ none
  | none => cbIsNull = true

/-- The thread of a connection answers a request, and leaves its loop after that only if nothing else is queued. -/
def Handles (s : Server) (p : Nat) (request : Request) (channel ready : Bool) : Option RequestKind → Prop
  | some .switchServiceEndpoint => (s.contexts p).connector = true
  | some .logoffUser => s.queue p = [request]
  | some .channelEndpointOpen => channel = true ∧ (ready = true ∨ s.queue p = [request])
  | some .heartbeat | none => False

def Answerable (s : Server) : Event → Prop
  | .receive request cbIsNull => s.Accepts request cbIsNull (RequestKind.ofMsgType request.msgType)
  | .post _ p => (s.contexts p).phase = .serving
  | .process p request channel ready =>
    s.Handles p request channel ready (RequestKind.ofMsgType request.msgType)
  | .leave p => s.queue p = []
  | .accept | .start _ | .postConnect _ | .remove _ | .free _ => True

def NothingLost (s : Server) (event : Event) : Prop := s.Enabled event → s.Answerable event

instance (s : Server) (request : Request) (cbIsNull : Bool) :
    (kind : Option RequestKind) → Decidable (s.Accepts request cbIsNull kind)
  | some .heartbeat => inferInstanceAs (Decidable True)
  | some .switchServiceEndpoint | some .logoffUser | some .channelEndpointOpen => inferInstanceAs (Decidable (_ ≠ _))
  | none => inferInstanceAs (Decidable (_ = _))

instance (s : Server) (p : Nat) (request : Request) (channel ready : Bool) :
    (kind : Option RequestKind) → Decidable (s.Handles p request channel ready kind)
  | some .switchServiceEndpoint | some .logoffUser => inferInstanceAs (Decidable (_ = _))
  | some .channelEndpointOpen => inferInstanceAs (Decidable (_ ∧ _))
  | some .heartbeat | none => inferInstanceAs (Decidable False)

instance (s : Server) : (event : Event) → Decidable (s.Answerable event)
  | .receive request cbIsNull => inferInstanceAs (Decidable (s.Accepts request cbIsNull _))
  | .process p request channel ready => inferInstanceAs (Decidable (s.Handles p request channel ready _))
  | .post _ _ | .leave _ => inferInstanceAs (Decidable (_ = _))
  | .accept | .start _ | .postConnect _ | .remove _ | .free _ => inferInstanceAs (Decidable True)

instance (s : Server) (event : Event) : Decidable (s.NothingLost event) := inferInstanceAs (Decidable (_ → _))

def Balanced (s : Server) : Prop :=
  ∀ callId, s.receivedCount callId =
    s.responseCount callId + s.postedCount callId + s.inHand callId + s.lostCount callId

def Short (s : Server) (request : Request) : Prop :=
  ∀ callId, s.receivedCount callId =
    s.responseCount callId + s.postedCount callId + s.inHand callId + s.lostCount callId +
      if request.callId = callId then 1 else 0

variable {request : Request} {p : Nat}

theorem new_balanced : new.Balanced := by
  intro callId
  rfl

section

variable (h : s.Short request)

include h

theorem Short.respond (status : UInt32) : (s.respond request status).Balanced := by
  intro callId
  have hcnt : (s.respond request status).responseCount callId =
      s.responseCount callId + if request.callId = callId then 1 else 0 := by
    simp [Server.respond, responseCount, Request.response, count_cons]
  have hshort := h callId
  show s.receivedCount callId = (s.respond request status).responseCount callId + s.postedCount callId +
    s.inHand callId + s.lostCount callId
  omega

theorem Short.lose : (s.lose request).Balanced := by
  intro callId
  have hcnt : (s.lose request).lostCount callId =
      s.lostCount callId + if request.callId = callId then 1 else 0 := by
    simp [Server.lose, lostCount, count_cons]
  have hshort := h callId
  show s.receivedCount callId = s.responseCount callId + s.postedCount callId + s.inHand callId +
    (s.lose request).lostCount callId
  omega

theorem Short.found (hrpc : s.rpc = .waiting) (p : Nat) :
    Balanced { s with rpc := .found request p } := by
  intro callId
  have hzero : s.inHand callId = 0 := by simp [inHand, hrpc]
  have hshort := h callId
  show s.receivedCount callId = s.responseCount callId + s.postedCount callId +
    (if request.callId = callId then 1 else 0) + s.lostCount callId
  omega

theorem Short.post (p : Nat) : (s.post request p).Balanced := by
  unfold Server.post
  split
  · intro callId
    have hcnt : postedCount { s with posted := s.posted ++ [(p, request)] } callId =
        s.postedCount callId + if request.callId = callId then 1 else 0 := by
      simp [postedCount, count_append, count_singleton]
    have hshort := h callId
    show s.receivedCount callId = s.responseCount callId +
      postedCount { s with posted := s.posted ++ [(p, request)] } callId + s.inHand callId + s.lostCount callId
    omega
  · exact h.lose

end

/-! ## What makes the books short of a request -/

theorem Balanced.receive (h : s.Balanced) (request : Request) :
    Short { s with received := request :: s.received } request := by
  intro callId
  have hcnt : receivedCount { s with received := request :: s.received } callId =
      s.receivedCount callId + if request.callId = callId then 1 else 0 := by
    simp [receivedCount, count_cons]
  have hbal := h callId
  show receivedCount { s with received := request :: s.received } callId = s.responseCount callId +
    s.postedCount callId + s.inHand callId + s.lostCount callId + if request.callId = callId then 1 else 0
  omega

theorem Balanced.take (h : s.Balanced) (hrpc : s.rpc = .found request p) :
    Short { s with rpc := .waiting } request := by
  intro callId
  have hcnt : s.inHand callId = if request.callId = callId then 1 else 0 := by simp [inHand, hrpc]
  have hbal := h callId
  show s.receivedCount callId = s.responseCount callId + s.postedCount callId + 0 + s.lostCount callId +
    if request.callId = callId then 1 else 0
  omega

theorem posted_perm (h : s.notification p = some request) :
    s.posted.Perm ((p, request) :: s.posted.eraseP fun entry => entry.1 = p) := by
  obtain ⟨entry, hfind, rfl⟩ := Option.map_eq_some_iff.mp h
  have hp : entry.1 = p := by simpa using find?_some hfind
  rw [← hp] at hfind ⊢
  exact perm_eraseP_of_find? hfind

theorem Balanced.process (h : s.Balanced) (hnotification : s.notification p = some request) :
    Short { s with posted := s.posted.eraseP fun entry => entry.1 = p } request := by
  intro callId
  have hcnt : s.postedCount callId =
      postedCount { s with posted := s.posted.eraseP fun entry => entry.1 = p } callId +
        if request.callId = callId then 1 else 0 := by
    unfold postedCount
    rw [((posted_perm hnotification).map _).count_eq]
    simp [count_cons]
  have hbal := h callId
  show s.receivedCount callId = s.responseCount callId +
    postedCount { s with posted := s.posted.eraseP fun entry => entry.1 = p } callId + s.inHand callId +
      s.lostCount callId + if request.callId = callId then 1 else 0
  omega

theorem Balanced.leaveLoop (h : s.Balanced) (p : Nat) : (s.leaveLoop p).Balanced := by
  intro callId
  have hcnt : s.postedCount callId + s.lostCount callId =
      (s.leaveLoop p).postedCount callId + (s.leaveLoop p).lostCount callId := by
    have hperm := (filter_append_perm (fun entry : Nat × Request => entry.1 = p) s.posted).map (·.2.callId)
    have hsplit := hperm.count_eq callId
    rw [map_append, count_append] at hsplit
    simp only [postedCount, lostCount, Server.leaveLoop, setPhase, update, queue, map_append, map_map,
      count_append, decide_not]
    simp only [Function.comp_def]
    omega
  have hbal := h callId
  show s.receivedCount callId = s.responseCount callId + (s.leaveLoop p).postedCount callId + s.inHand callId +
    (s.leaveLoop p).lostCount callId
  omega

theorem Balanced.processNotification (h : s.Short request) (p : Nat) (channel ready : Bool) :
    (s.processNotification p request channel ready).Balanced := by
  unfold Server.processNotification
  split
  · split
    · exact h.respond 0
    · exact h.lose
  · exact (Short.respond (s := s.update p _) h 0).leaveLoop p
  · split
    · split
      · exact h.respond 0
      · exact (h.respond 0).leaveLoop p
    · exact h.lose.leaveLoop p
  all_goals exact h.lose.leaveLoop p

theorem Balanced.processRequest (h : s.Short request) (hrpc : s.rpc = .waiting) (cbIsNull : Bool) :
    (s.processRequest request cbIsNull).Balanced := by
  unfold Server.processRequest
  split
  · exact h.respond 0
  · split
    · exact h.lose
    · exact h.found hrpc _
  · exact h.respond _
  · exact h.lose

theorem Balanced.next (h : s.Balanced) (henb : s.Enabled event) : (s.next event).Balanced := by
  cases event with
  | receive request cbIsNull => exact .processRequest (h.receive request) henb.2 cbIsNull
  | post request p => exact (h.take henb.2).post p
  | process p request channel ready =>
    exact .processNotification (h.process henb.2.2) p channel ready
  | leave p => exact h.leaveLoop p
  | accept | start p | postConnect p | remove p | free p => exact h

theorem Balanced.step (h : s.Balanced) (event : Event) : (s.step event).Balanced := by
  unfold Server.step
  split
  next henb => exact h.next henb
  next => exact h

/-! ## Losses -/

@[simp] theorem lose_lost : (s.lose request).lost ≠ [] := cons_ne_nil _ _

@[simp] theorem leaveLoop_lost_eq_nil :
    (s.leaveLoop p).lost = [] ↔ s.queue p = [] ∧ s.lost = [] := append_eq_nil_iff

theorem queue_eq_cons (h : s.notification p = some request) :
    s.queue p = request :: queue { s with posted := s.posted.eraseP fun entry => entry.1 = p } p := by
  obtain ⟨entry, hfind, rfl⟩ := Option.map_eq_some_iff.mp h
  unfold queue
  rw [filter_eq_cons_of_find? hfind]
  rfl

theorem lost_processRequest (h : s.lost = []) (cbIsNull : Bool) :
    (s.processRequest request cbIsNull).lost = [] ↔ s.Answerable (.receive request cbIsNull) := by
  simp only [Server.processRequest, callback, Answerable]
  cases RequestKind.ofMsgType request.msgType with
  | none => cases cbIsNull <;> simp [Accepts, respond, h]
  | some kind =>
    cases kind with
    | heartbeat => simp [Accepts, respond, h]
    | switchServiceEndpoint | logoffUser | channelEndpointOpen =>
      cases hlookup : s.getConnection request.connectionId with
      | none => simp [Accepts, hlookup]
      | some p => simp [Accepts, hlookup, h]

theorem lost_processNotification (h : s.lost = []) (hnotification : s.notification p = some request)
    (channel ready : Bool) :
    (processNotification { s with posted := s.posted.eraseP fun entry => entry.1 = p } p request channel
      ready).lost = [] ↔ s.Answerable (.process p request channel ready) := by
  have hqueue := queue_eq_cons hnotification
  simp only [Server.processNotification, Answerable]
  cases RequestKind.ofMsgType request.msgType with
  | none => simp [Handles]
  | some kind =>
    cases kind with
    | heartbeat => simp [Handles]
    | switchServiceEndpoint => cases hconnector : (s.contexts p).connector <;> simp [Handles, respond, h, hconnector]
    | logoffUser =>
      rw [leaveLoop_lost_eq_nil, Handles, hqueue, cons_eq_cons]
      exact ⟨fun hlost => ⟨rfl, hlost.1⟩, fun hqueue => ⟨hqueue.2, h⟩⟩
    | channelEndpointOpen =>
      rw [Handles, hqueue, cons_eq_cons]
      cases channel with
      | false => simp
      | true =>
        cases ready with
        | true => simp [respond, h]
        | false =>
          simp only [if_true, Bool.false_eq_true, if_false, leaveLoop_lost_eq_nil, true_and, false_or]
          exact and_iff_left h

theorem lost_next (h : s.lost = []) (henb : s.Enabled event) :
    (s.next event).lost = [] ↔ s.Answerable event := by
  cases event with
  | receive request cbIsNull =>
    exact lost_processRequest (s := { s with received := request :: s.received }) h cbIsNull
  | post request p =>
    simp only [Server.next, Server.post, Answerable]
    split <;> simp [*]
  | process p request channel ready => exact lost_processNotification h henb.2.2 channel ready
  | leave p => simp [Server.next, h, Answerable]
  | accept | start p | postConnect p | remove p | free p => exact iff_of_true h trivial

theorem lost_subset_next (s : Server) (event : Event) : s.lost ⊆ (s.next event).lost := by
  cases event with
  | receive request cbIsNull =>
    simp only [Server.next, Server.processRequest]
    split
    · exact .refl _
    · split <;> simp [lose]
    · exact .refl _
    · simp [lose]
  | post request p =>
    simp only [Server.next, Server.post]
    split <;> simp [lose]
  | process p request channel ready =>
    simp only [Server.next, Server.processNotification]
    split
    · split <;> simp [lose, respond]
    · simp [Server.leaveLoop, setPhase, update, respond]
    · split
      · split <;> simp [Server.leaveLoop, setPhase, update, respond]
      · simp [Server.leaveLoop, setPhase, update, lose]
    all_goals simp [Server.leaveLoop, setPhase, update, lose]
  | leave p => simp [Server.next, Server.leaveLoop, setPhase, update]
  | accept | start p | postConnect p | remove p | free p => exact .refl _

theorem lost_step (h : s.lost = []) (event : Event) : (s.step event).lost = [] ↔ s.NothingLost event := by
  unfold Server.step NothingLost
  split
  next henb => simp [henb, lost_next h henb]
  next henb => simp [henb, h]

theorem lost_eq_nil_of_step (h : (s.step event).lost = []) : s.lost = [] := by
  unfold Server.step at h
  split at h
  · exact eq_nil_of_subset_nil (h ▸ s.lost_subset_next event)
  · exact h

theorem Balanced.answered_iff_lost (h : s.Balanced) (hsettled : s.Settled) : s.Answered ↔ s.lost = [] := by
  have hcounts : ∀ callId, s.receivedCount callId = s.responseCount callId + s.lostCount callId := by
    intro callId
    have hbal := h callId
    have hposted : s.postedCount callId = 0 := by simp [postedCount, hsettled.posted]
    have hhand : s.inHand callId = 0 := by simp [inHand, hsettled.rpc]
    omega
  constructor
  · intro hanswered
    cases hlost : s.lost with
    | nil => rfl
    | cons request lost =>
      have hcnt : 0 < s.lostCount request.callId := by simp [lostCount, hlost]
      have hrcv := hcounts request.callId
      have hresp := hanswered request.callId
      omega
  · intro hlost callId
    have hcnt : s.lostCount callId = 0 := by simp [lostCount, hlost]
    have hrcv := hcounts callId
    omega

/-- Once every notification has been processed or its connection has ended, every request has one response exactly
if no step lost one. -/
theorem responses_complete_iff (events : List Event) (hsettled : (events.foldl step new).Settled) :
    (events.foldl step new).Answered ↔ Along step NothingLost new events := by
  have hbal : (events.foldl step new).Balanced :=
    Along.invariant (P := fun _ _ => True) (fun _ event h _ => h.step event) new_balanced
      (.of_forall fun _ _ => trivial)
  rw [hbal.answered_iff_lost hsettled]
  exact Along.last_iff (fun s : Server => s.lost = []) (fun _ event h => lost_step h event)
    (fun _ _ h => lost_eq_nil_of_step h) rfl

end Server

namespace Sample

def connected : List Event := [.accept, .start 0, .postConnect 0]

def switchRequest : Request := { msgType := switchServiceEndpointRequestId, callId := 7, connectionId := 0 }

def switched : List Event :=
  connected ++ [.receive switchRequest false, .post switchRequest 0, .process 0 switchRequest true true]

def unknownConnection : List Event := [.receive switchRequest false]

end Sample

/-- One response for the one request. -/
theorem switched_complete :
    (Sample.switched.foldl Server.step .new).Settled ∧
      (Sample.switched.foldl Server.step .new).responses =
        [⟨responseId switchServiceEndpointRequestId, 7, 0⟩] ∧
      (Sample.switched.foldl Server.step .new).Answered := by
  have hsettled : (Sample.switched.foldl Server.step .new).Settled := ⟨by decide, by decide⟩
  exact ⟨hsettled, by decide, (Server.responses_complete_iff _ hsettled).mpr (by decide)⟩

/-- The manager waits for a response to call 7. -/
theorem unknown_connection_unanswered :
    (Sample.unknownConnection.foldl Server.step .new).Settled ∧
      (Sample.unknownConnection.foldl Server.step .new).receivedCount 7 = 1 ∧
      (Sample.unknownConnection.foldl Server.step .new).responses = [] ∧
      ¬(Sample.unknownConnection.foldl Server.step .new).Answered := by
  refine ⟨⟨by decide, by decide⟩, by decide, by decide, fun hanswered => ?_⟩
  exact absurd (hanswered 7) (by decide)

end FreeRDS.Core
