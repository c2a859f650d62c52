import FreeRDS.Manager.Frame
import FreeRDS.Manager.System

/-! # The connection that shows a session

`getConnectionIdForSessionId` answers 0 for no connection, and the freerds server begins to
number its connections at 0. On the other side a connection stands with session id 0 until it
shows a session, and with about-to-switch id 0 unless a switch is under way, so a lookup for
session 0 finds connections that show nothing of the kind.
-/

namespace FreeRDS.Manager

open Std Lib Prog ConnectionStore

/-- The counter of `rdsServer` that connections get their ids from. -/
structure RdsServer where
  connectionId : UInt32
  deriving DecidableEq, Repr

namespace RdsServer

/-- `freerds_server_new`. -/
def new : RdsServer := ⟨0⟩

/-- `freerds_peer_context_new`: `context->id = context->server->connectionId++`. -/
def peerContextNew (server : RdsServer) : UInt32 × RdsServer :=
  (server.connectionId, ⟨server.connectionId + 1⟩)

end RdsServer

/-! ## The loop over the connections -/

def Connection.Matches (sessionId : UInt32) (connection : Connection) : Prop :=
  connection.sessionId = sessionId ∨ connection.about2SwitchSessionId = sessionId

/-- The session is the current or the about-to-switch session of the connection; 0 is no session. -/
def Connection.Shows (sessionId : UInt32) (connection : Connection) : Prop :=
  sessionId ≠ 0 ∧ connection.Matches sessionId

instance (sessionId : UInt32) (connection : Connection) : Decidable (connection.Matches sessionId) :=
  inferInstanceAs (Decidable (_ ∨ _))

namespace ConnectionStore

variable (store : ConnectionStore) (sessionId : UInt32)

/-- The connection stored under the id passes the test of the loop. -/
def Matching (connectionId : UInt32) : Prop :=
  ∃ q ∈ store.getConnection connectionId, (store.heap.cell q).Matches sessionId

def Showing (connectionId : UInt32) : Prop :=
  ∃ q ∈ store.getConnection connectionId, (store.heap.cell q).Shows sessionId

instance (connectionId : UInt32) : Decidable (store.Matching sessionId connectionId) :=
  Option.decidableExistsMem _

variable {store sessionId}

theorem showing_iff {connectionId : UInt32} :
    store.Showing sessionId connectionId ↔ sessionId ≠ 0 ∧ store.Matching sessionId connectionId := by
  constructor
  · intro h
    obtain ⟨q, hq, hne, hmatches⟩ := h
    exact ⟨hne, q, hq, hmatches⟩
  · intro h
    obtain ⟨hne, q, hq, hmatches⟩ := h
    exact ⟨q, hq, hne, hmatches⟩

theorem matching_of_mem {entry : UInt32 × Ptr} (hmem : entry ∈ store.map.toList)
    (hmatches : (store.heap.cell entry.2).Matches sessionId) : store.Matching sessionId entry.1 :=
  ⟨entry.2, TreeMap.mem_toList_iff_getElem?_eq_some.mp hmem, hmatches⟩

theorem find_matching {entry : UInt32 × Ptr}
    (h : store.map.toList.find? (fun entry => (store.heap.cell entry.2).Matches sessionId) = some entry) :
    store.Matching sessionId entry.1 ∧ ∀ id, store.Matching sessionId id → entry.1 ≤ id := by
  obtain ⟨hmatches, before, behind, hsplit, hbefore⟩ := List.find?_eq_some_iff_append.mp h
  have hmem : entry ∈ store.map.toList := List.mem_of_find?_eq_some h
  refine ⟨matching_of_mem hmem (of_decide_eq_true hmatches), fun id hid => ?_⟩
  obtain ⟨q, hq, hq'⟩ := hid
  have hother : (id, q) ∈ before ++ entry :: behind := by
    rw [← hsplit]
    exact TreeMap.mem_toList_iff_getElem?_eq_some.mpr hq
  have hord := TreeMap.ordered_keys_toList (t := store.map)
  rw [hsplit, List.pairwise_append, List.pairwise_cons] at hord
  rcases List.mem_append.mp hother with hin | hin
  · have hnot := hbefore _ hin
    simp [hq'] at hnot
  · rcases List.mem_cons.mp hin with heq | hin
    · rw [← heq]
      exact UInt32.le_refl _
    · have hlt : compare entry.1 id = .lt := hord.2.1.1 _ hin
      exact UInt32.le_of_lt (Std.compare_eq_lt.mp hlt)

theorem getConnectionIdForSessionId_cases (store : ConnectionStore) (sessionId : UInt32) :
    (∀ id, ¬store.Matching sessionId id) ∧ store.getConnectionIdForSessionId sessionId = 0 ∨
      store.Matching sessionId (store.getConnectionIdForSessionId sessionId) ∧
        ∀ id, store.Matching sessionId id → store.getConnectionIdForSessionId sessionId ≤ id := by
  have heq : store.getConnectionIdForSessionId sessionId =
      ((store.map.toList.find? fun entry => (store.heap.cell entry.2).Matches sessionId).map (·.1)).getD 0 := rfl
  cases hfind : store.map.toList.find? fun entry => (store.heap.cell entry.2).Matches sessionId with
  | none =>
    refine .inl ⟨fun id hid => ?_, by rw [heq, hfind]; rfl⟩
    obtain ⟨q, hq, hmatches⟩ := hid
    have hnot := List.find?_eq_none.mp hfind (id, q) (TreeMap.mem_toList_iff_getElem?_eq_some.mpr hq)
    simp [hmatches] at hnot
  | some entry =>
    refine .inr ?_
    rw [heq, hfind]
    exact find_matching hfind

theorem getConnectionIdForSessionId_eq_zero :
    store.getConnectionIdForSessionId sessionId = 0 ↔
      (∀ id, ¬store.Matching sessionId id) ∨ store.Matching sessionId 0 := by
  obtain ⟨hnone, hzero⟩ | ⟨hmatching, hleast⟩ := store.getConnectionIdForSessionId_cases sessionId
  · simp [hnone, hzero]
  · constructor
    · intro hzero
      rw [hzero] at hmatching
      exact .inr hmatching
    · intro h
      rcases h with hnone | hmatching0
      · exact absurd hmatching (hnone _)
      · have hle := hleast 0 hmatching0
        exact UInt32.le_antisymm hle (UInt32.zero_le)

theorem getConnectionIdForSessionId_matching (h : store.getConnectionIdForSessionId sessionId ≠ 0) :
    store.Matching sessionId (store.getConnectionIdForSessionId sessionId) := by
  obtain ⟨-, hzero⟩ | ⟨hmatching, -⟩ := store.getConnectionIdForSessionId_cases sessionId
  · exact absurd hzero h
  · exact hmatching

end ConnectionStore

/-! ## The tasks -/

section Tasks

variable (config : Config) (m : ApplicationContext)

theorem endSession_begin_none (task : TaskEndSession) :
    ((task.begin config).run m).1 = none ↔ m.connectionStore.getConnectionIdForSessionId task.sessionId = 0 := by
  unfold TaskEndSession.begin
  simp only [run_bind, run_perform, exec_action, Action.exec]
  by_cases h : m.connectionStore.getConnectionIdForSessionId task.sessionId = 0
  all_goals simp [h]

theorem moduleShutdown_begin_none (task : TaskModuleShutdown) :
    ((task.begin config).run m).1 = none ↔ m.connectionStore.getConnectionIdForSessionId task.sessionId = 0 := by
  unfold TaskModuleShutdown.begin
  simp only [run_bind, run_perform, exec_action, Action.exec]
  by_cases h : m.connectionStore.getConnectionIdForSessionId task.sessionId = 0
  all_goals simp [h]

end Tasks

structure LookupExact (config : Config) (m : ApplicationContext) (sessionId : UInt32) : Prop where
  found : m.connectionStore.getConnectionIdForSessionId sessionId ≠ 0 →
    m.connectionStore.Showing sessionId (m.connectionStore.getConnectionIdForSessionId sessionId)
  missing : m.connectionStore.getConnectionIdForSessionId sessionId = 0 →
    ∀ id, ¬m.connectionStore.Showing sessionId id
  endSession : ∀ origin, ((TaskEndSession.begin config ⟨sessionId, origin⟩).run m).1 = none ↔
    ∀ id, ¬m.connectionStore.Showing sessionId id
  moduleShutdown : ((TaskModuleShutdown.begin config ⟨sessionId⟩).run m).1 = none ↔
    ∀ id, ¬m.connectionStore.Showing sessionId id

/-- Connection 0 does not show the session; and for session 0, the loop meets no connection with a 0
in it, or connection 0 first. -/
structure ConnectionStore.Unambiguous (store : ConnectionStore) (sessionId : UInt32) : Prop where
  session : sessionId ≠ 0 → ¬store.Matching sessionId 0
  noSession : sessionId = 0 → (∀ id, ¬store.Matching 0 id) ∨ store.Matching 0 0

theorem lookupExact_of_zero (config : Config) {m : ApplicationContext} {sessionId : UInt32}
    (h : m.connectionStore.getConnectionIdForSessionId sessionId = 0 ↔
      ∀ id, ¬m.connectionStore.Showing sessionId id) : LookupExact config m sessionId where
  found hne := by
    have hmatching := getConnectionIdForSessionId_matching hne
    rw [showing_iff]
    refine ⟨fun hzero => hne (h.mpr fun id hid => ?_), hmatching⟩
    exact (showing_iff.mp hid).1 hzero
  missing := h.mp
  endSession origin := (endSession_begin_none config m ⟨sessionId, origin⟩).trans h
  moduleShutdown := (moduleShutdown_begin_none config m ⟨sessionId⟩).trans h

/-- For every state of the store and every session id. -/
theorem connection_lookup_exact_iff (config : Config) (m : ApplicationContext) (sessionId : UInt32) :
    LookupExact config m sessionId ↔ m.connectionStore.Unambiguous sessionId := by
  constructor
  · intro h
    constructor
    · intro hses hmatching
      have hzero := getConnectionIdForSessionId_eq_zero.mpr (.inr hmatching)
      exact h.missing hzero 0 (showing_iff.mpr ⟨hses, hmatching⟩)
    · intro hses
      subst hses
      by_cases hzero : m.connectionStore.getConnectionIdForSessionId 0 = 0
      · exact getConnectionIdForSessionId_eq_zero.mp hzero
      · exact absurd rfl (showing_iff.mp (h.found hzero)).1
  · intro h
    apply lookupExact_of_zero
    rw [getConnectionIdForSessionId_eq_zero]
    by_cases hses : sessionId = 0
    · subst hses
      exact iff_of_true (h.noSession rfl) fun id hid => (showing_iff.mp hid).1 rfl
    · have hiff : ∀ id, m.connectionStore.Showing sessionId id ↔ m.connectionStore.Matching sessionId id := by
        intro id
        simp [showing_iff, hses]
      simp [hiff, h.session hses]

/-- The first connection of the server logs on: its session counts as shown by no connection, and
ending the session does not tell freerds. -/
theorem first_connection_not_found :
    let id := RdsServer.new.peerContextNew.1
    let m := (System.after Sample.config [.startTaskExecutor, Sample.logon id "alice" "secret"]).manager
    m.connectionStore.Matching 1 id ∧ ¬LookupExact Sample.config m 1 := by
  intro id m
  have hmatching : m.connectionStore.Matching 1 id := by decide +kernel
  have hzero : m.connectionStore.getConnectionIdForSessionId 1 = 0 := by decide +kernel
  refine ⟨hmatching, fun h => ?_⟩
  exact h.missing hzero id (showing_iff.mpr ⟨by decide, hmatching⟩)

end FreeRDS.Manager
