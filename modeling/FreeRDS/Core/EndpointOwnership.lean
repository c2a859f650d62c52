import FreeRDS.Lib.Accesses
import FreeRDS.Lib.Heap
import FreeRDS.Lib.Run

/-! # Who owns the endpoint

The manager names the service endpoint twice: in the response to the logon, and in the request to switch the session.
`freerds_connector_free` frees `connector->Endpoint`, so the connector owns the string. The logon leaves the string of
the response to it. The switch frees the string of the request itself, behind the connector's back.
-/

namespace FreeRDS.Core

open Lib

/-- Where the string of a connector came from. No function of the source reads it. -/
inductive Origin
  | logon | switch
  deriving DecidableEq, Repr

structure Endpoint where
  string : Ptr
  origin : Origin
  deriving DecidableEq, Repr

inductive Thread
  | serving | ended | crashed
  deriving DecidableEq, Repr

/-- What `freerds_icp_LogonUser` comes back with. -/
inductive LogonReply
  | refused
  /-- The payload does not unpack, and `response.ServiceEndpoint` keeps what the stack had there. -/
  | undecoded
  /-- `msgpack_unpack_cstr` copies a string that is not empty, and takes an empty one as `NULL`. -/
  | answered (named : Bool)
  deriving DecidableEq, Repr

structure Tenure where
  obtained : Nat
  /-- `connection->connector`, with its `Endpoint`. -/
  connector : Option (Option Endpoint)
  log : List (Access Ptr)
  thread : Thread
  deriving DecidableEq, Repr

inductive TenureEvent
  | postConnect (reply : LogonReply) (connects : Bool)
  | switchSession (named connects responds : Bool)
  | logoff
  | disconnect
  deriving DecidableEq, Repr

namespace Tenure

def new : Tenure where
  obtained := 0
  connector := none
  log := []
  thread := .serving

variable (s : Tenure)

/-- The pointer that `msgpack_unpack_cstr` leaves. -/
def unpack (named : Bool) (origin : Origin) : Option Endpoint :=
  if named then some ⟨s.obtained, origin⟩ else none

/-- A new connector takes the pointer over, and `freerds_connector_connect` reads the string, whether it then succeeds
or not. -/
def connect (named : Bool) (origin : Origin) : Tenure where
  obtained := s.obtained + 1
  connector := some (s.unpack named origin)
  log := ((s.unpack named origin).map fun endpoint => .use endpoint.string).toList ++ s.log
  thread := s.thread

/-- `free` of a pointer that may be `NULL`. -/
def free (endpoint : Option Endpoint) : Tenure :=
  { s with log := (endpoint.map fun endpoint => .free endpoint.string).toList ++ s.log }

/-- `freerds_connector_free`, where there is a connector. -/
def release : Tenure :=
  match s.connector with
  | none => s
  | some endpoint => { s.free endpoint with connector := none }

/-- The end of `freerds_connection_main_thread`. -/
def leave : Tenure := { s.release with thread := .ended }

/-- `freerds_peer_post_connect`. -/
def postConnect (reply : LogonReply) (connects : Bool) : Tenure :=
  match reply with
  | .refused => s.leave
  | .undecoded => { s with thread := .crashed }
  | .answered named => if connects then s.connect named .logon else (s.connect named .logon).leave

/-- `freerds_client_process_switch_session`. The response does not tell whether the pipe was opened, and the connector
stays in either case. -/
def processSwitchSession (named _connects responds : Bool) : Tenure :=
  match s.connector with
  | none => { s with thread := .crashed }
  | some _ =>
    -- The string that is freed is that of the request, to which the connector points as well.
    let s := (s.release.connect named .switch).free (s.release.unpack named .switch)
    if responds then s else s.leave

/-- `freerds_client_process_logoff`. -/
def processLogoff : Tenure := s.release.leave

def next : TenureEvent → Tenure
  | .postConnect reply connects => s.postConnect reply connects
  | .switchSession named connects responds => s.processSwitchSession named connects responds
  | .logoff => s.processLogoff
  | .disconnect => s.leave

def step (event : TenureEvent) : Tenure := if s.thread = .serving then s.next event else s

/-- No string is freed twice, and none is read or freed by a connector behind its free. -/
structure Sound : Prop where
  once : (Access.freed s.log).Nodup
  respected : Access.Respected s.log

/-- The string of the connector, if it has one, is not that of a request. -/
def Owns : Prop := ∀ endpoint, s.connector = some (some endpoint) → endpoint.origin = .logon

def ReleasesOwn : TenureEvent → Prop
  | .postConnect .refused _ => s.Owns
  | .postConnect .undecoded _ => True
  | .postConnect (.answered _) _ => True
  | .switchSession named _ responds => s.Owns ∧ (s.connector ≠ none → named = true → responds = true)
  | .logoff => s.Owns
  | .disconnect => s.Owns

def StepReleasesOwn (event : TenureEvent) : Prop := s.thread = .serving → s.ReleasesOwn event

/-! ## What every run keeps -/

structure WellFormed : Prop where
  log : ∀ access ∈ s.log, access.target < s.obtained
  endpoint : ∀ endpoint, s.connector = some (some endpoint) → endpoint.string < s.obtained
  owned : ∀ endpoint, s.connector = some (some endpoint) →
    (endpoint.origin = .logon ↔ endpoint.string ∉ Access.freed s.log)

theorem new_wellFormed : new.WellFormed := ⟨by simp [new], by simp [new], by simp [new]⟩

variable {s : Tenure}

section

variable (h : s.WellFormed)

include h

theorem WellFormed.fresh : s.obtained ∉ Access.freed s.log := by
  intro hmem
  obtain ⟨access, haccess, htarget⟩ := Access.target_of_mem_freed hmem
  exact Nat.lt_irrefl s.obtained (htarget ▸ h.log access haccess)

theorem WellFormed.release : s.release.WellFormed := by
  unfold Tenure.release
  split
  next => exact h
  next endpoint hconnector =>
    refine ⟨?_, by simp, by simp⟩
    cases endpoint with
    | none => simpa [free] using h.log
    | some endpoint => simpa [free, Access.target, h.endpoint endpoint hconnector] using h.log

theorem WellFormed.leave : s.leave.WellFormed :=
  ⟨h.release.log, h.release.endpoint, h.release.owned⟩

theorem WellFormed.crash : { s with thread := .crashed }.WellFormed := ⟨h.log, h.endpoint, h.owned⟩

theorem WellFormed.connect_log (named : Bool) (origin : Origin) :
    ∀ access ∈ (s.connect named origin).log, access.target < s.obtained + 1 := by
  intro access haccess
  have hold : access ∈ s.log → access.target < s.obtained + 1 := fun hmem => Nat.lt_succ_of_lt (h.log access hmem)
  cases named with
  | false => exact hold (by simpa [Tenure.connect, unpack] using haccess)
  | true =>
    rcases List.mem_cons.mp haccess with rfl | hmem
    · exact Nat.lt_succ_self _
    · exact hold hmem

theorem WellFormed.connect_logon (named : Bool) : (s.connect named .logon).WellFormed := by
  refine ⟨h.connect_log named .logon, ?_, ?_⟩
  · cases named <;> simp [Tenure.connect, unpack]
  · cases named <;> simp [Tenure.connect, unpack, h.fresh]

theorem WellFormed.connect_switch (named : Bool) :
    ((s.connect named .switch).free (s.unpack named .switch)).WellFormed := by
  have hlog := h.connect_log named .switch
  cases named with
  | false => exact ⟨hlog, by simp [free, Tenure.connect, unpack], by simp [free, Tenure.connect, unpack]⟩
  | true =>
    refine ⟨?_, by simp [free, Tenure.connect, unpack], by simp [free, Tenure.connect, unpack]⟩
    intro access haccess
    rcases List.mem_cons.mp haccess with rfl | hmem
    · exact Nat.lt_succ_self _
    · exact hlog access hmem

theorem WellFormed.next (event : TenureEvent) : (s.next event).WellFormed := by
  cases event with
  | postConnect reply connects =>
    cases reply with
    | refused => exact h.leave
    | undecoded => exact h.crash
    | answered named =>
      simp only [Tenure.next, postConnect]
      split
      next => exact h.connect_logon named
      next => exact (h.connect_logon named).leave
  | switchSession named connects responds =>
    simp only [Tenure.next, processSwitchSession]
    split
    next => exact h.crash
    next =>
      have hswitched := h.release.connect_switch named
      split
      next => exact hswitched
      next => exact hswitched.leave
  | logoff => exact h.release.leave
  | disconnect => exact h.leave

theorem WellFormed.step (event : TenureEvent) : (s.step event).WellFormed := by
  unfold Tenure.step
  split
  next => exact h.next event
  next => exact h

end

/-! ## When the log is respected -/

open Access

theorem WellFormed.release_respected_iff (h : s.WellFormed) (hlog : Respected s.log) :
    Respected s.release.log ↔ s.Owns := by
  unfold Tenure.release Owns
  split
  next hconnector => simp [hconnector, hlog]
  next endpoint hconnector =>
    cases endpoint with
    | none => simp [hconnector, free, hlog]
    | some endpoint => simp [hconnector, free, hlog, h.owned endpoint hconnector]

theorem respected_of_release (h : Respected s.release.log) : Respected s.log := by
  unfold Tenure.release at h
  split at h
  next => exact h
  next endpoint _ =>
    cases endpoint with
    | none => exact h
    | some endpoint => exact h.2

theorem release_release : s.release.release = s.release := by
  have hnone : s.release.connector = none := by
    unfold Tenure.release
    split
    next hconnector => exact hconnector
    next => rfl
  rw [Tenure.release, hnone]

theorem WellFormed.connect_respected_iff (h : s.WellFormed) (named : Bool) (origin : Origin) :
    Respected (s.connect named origin).log ↔ Respected s.log := by
  cases named <;> simp [Tenure.connect, unpack, h.fresh]

theorem WellFormed.connect_free_respected_iff (h : s.WellFormed) (named : Bool) :
    Respected ((s.connect named .switch).free (s.unpack named .switch)).log ↔ Respected s.log := by
  cases named <;> simp [Tenure.connect, free, unpack, h.fresh]

theorem connect_logon_owns (named : Bool) : (s.connect named .logon).Owns := by
  cases named <;> simp [Tenure.connect, unpack, Owns]

theorem connect_free_owns_iff (named : Bool) :
    ((s.connect named .switch).free (s.unpack named .switch)).Owns ↔ named = false := by
  cases named <;> simp [Tenure.connect, free, unpack, Owns]

section

variable (h : s.WellFormed) (hlog : Respected s.log)

include h hlog

theorem WellFormed.switch_respected_iff (named connects responds : Bool) :
    Respected (s.processSwitchSession named connects responds).log ↔
      s.ReleasesOwn (.switchSession named connects responds) := by
  unfold processSwitchSession ReleasesOwn
  split
  next hconnector => simp [hconnector, hlog, Owns]
  next endpoint hconnector =>
    have hswitched := (h.release.connect_free_respected_iff named).trans (h.release_respected_iff hlog)
    have hnew := h.release.connect_switch named
    cases responds with
    | true => simpa [hconnector] using hswitched
    | false =>
      have hleft : Respected ((s.release.connect named .switch).free (s.release.unpack named .switch)).leave.log ↔
          s.Owns ∧ named = false := by
        constructor
        · intro hleft
          have hbefore := respected_of_release hleft
          rw [← s.release.connect_free_owns_iff named]
          exact ⟨hswitched.mp hbefore, (hnew.release_respected_iff hbefore).mp hleft⟩
        · intro howns
          have hbefore := hswitched.mpr howns.1
          exact (hnew.release_respected_iff hbefore).mpr ((s.release.connect_free_owns_iff named).mpr howns.2)
      simpa [hconnector] using hleft

theorem WellFormed.next_respected_iff (event : TenureEvent) :
    Respected (s.next event).log ↔ s.ReleasesOwn event := by
  cases event with
  | postConnect reply connects =>
    cases reply with
    | refused => exact h.release_respected_iff hlog
    | undecoded => exact iff_of_true hlog trivial
    | answered named =>
      have hconn := (h.connect_respected_iff named .logon).mpr hlog
      have hleft := ((h.connect_logon named).release_respected_iff hconn).mpr (s.connect_logon_owns named)
      cases connects with
      | true => exact iff_of_true hconn trivial
      | false => exact iff_of_true hleft trivial
  | switchSession named connects responds => exact h.switch_respected_iff hlog named connects responds
  | logoff =>
    have hrls : (s.next .logoff).log = s.release.log := by
      show s.release.release.log = s.release.log
      rw [s.release_release]
    rw [hrls]
    exact h.release_respected_iff hlog
  | disconnect => exact h.release_respected_iff hlog

theorem WellFormed.step_respected_iff (event : TenureEvent) :
    Respected (s.step event).log ↔ s.StepReleasesOwn event := by
  unfold Tenure.step StepReleasesOwn
  by_cases hserving : s.thread = .serving
  · simpa [hserving] using h.next_respected_iff hlog event
  · simpa [hserving] using hlog

end

theorem sound_iff : s.Sound ↔ Respected s.log := by
  constructor
  · intro h
    exact h.respected
  · intro h
    exact ⟨h.nodup_freed, h⟩

/-- No string is freed twice, and none is read behind its free, exactly in the runs in which a connector is only freed
with a string of its own. -/
theorem endpoints_sound_iff (events : List TenureEvent) :
    (∀ j, ((events.take j).foldl step new).Sound) ↔ Along step StepReleasesOwn new events := by
  have hnew : new.Sound := sound_iff.mpr trivial
  apply Along.always_iff Sound (fun _ event h => h.step event) _ new_wellFormed hnew
  intro s event h hsound
  rw [sound_iff]
  exact h.step_respected_iff hsound.respected event

end Tenure

namespace Sample

/-- A session that is switched once, and a client that then leaves. -/
def switchedOnce : List TenureEvent :=
  [.postConnect (.answered true) true, .switchSession true true true, .disconnect]

end Sample

/-- The string of the request is freed by the switch and by the end of the thread. -/
theorem switched_endpoint_freed_twice :
    (Sample.switchedOnce.foldl Tenure.step .new).log = [.free 1, .free 1, .use 1, .free 0, .use 0] ∧
      ¬(Sample.switchedOnce.foldl Tenure.step .new).Sound := by
  refine ⟨by decide, ?_⟩
  intro h
  exact absurd h.once (by decide)

end FreeRDS.Core
