import FreeRDS.Lib.Heap
import FreeRDS.Manager.Session

/-! # SessionStore and ConnectionStore

Both stores map ids to shared pointers. Every pointer in a map is allocated and its
object carries the id it is stored under; the two structures below hold that fact,
so every operation has to keep it.
-/

namespace FreeRDS.Manager

open Std Lib TreeMap

/-! ## SessionStore -/

structure SessionStore where
  heap : Heap Session
  map : TreeMap UInt32 Ptr
  nextSessionId : UInt32
  stored : ∀ {id p}, map[id]? = some p → p < heap.next ∧ (heap.cell p).sessionId = id

namespace SessionStore

def empty : SessionStore where
  heap := Heap.empty { sessionId := 0 }
  map := ∅
  nextSessionId := 1
  stored := by simp

variable (store : SessionStore)

def getSession (sessionId : UInt32) : Option Ptr := store.map[sessionId]?

/-- `m_NextSessionId++` wraps at 2^32; the new session then takes the place of an old one. -/
def createSession : SessionStore where
  heap := store.heap.alloc { sessionId := store.nextSessionId }
  map := store.map.insert store.nextSessionId store.heap.next
  nextSessionId := store.nextSessionId + 1
  stored := by
    intro id p h
    rw [TreeMap.getElem?_insert] at h
    split at h
    · rename_i heq
      cases h
      simpa using LawfulEqCmp.eq_of_compare heq
    · obtain ⟨hlt, hid⟩ := store.stored h
      refine ⟨Nat.lt_succ_of_lt hlt, ?_⟩
      rw [Heap.alloc_cell_of_lt _ _ hlt]
      exact hid

def getFirstDisconnectedSessionUserName (username domain : String) :
    Option Ptr :=
  (store.map.toList.find? fun entry =>
    (store.heap.cell entry.2).username = username ∧ (store.heap.cell entry.2).domain = domain ∧
      (store.heap.cell entry.2).currentState = .disconnected).map (·.2)

def removeSession (sessionId : UInt32) : SessionStore where
  heap := store.heap
  map := store.map.erase sessionId
  nextSessionId := store.nextSessionId
  stored := by
    intro id p h
    rw [TreeMap.getElem?_erase] at h
    split at h
    · cases h
    · exact store.stored h

def getAllSessions : List Ptr := store.map.toList.map (·.2)

def modify (p : Ptr) (method : Session.Method) : SessionStore where
  heap := store.heap.modify p (·.call method)
  map := store.map
  nextSessionId := store.nextSessionId
  stored := by
    intro id q h
    obtain ⟨hlt, hid⟩ := store.stored h
    refine ⟨hlt, ?_⟩
    rw [Heap.modify_cell]
    split
    · rw [Session.call_sessionId]
      exact hid
    · exact hid

theorem getFirstDisconnectedSessionUserName_some {store : SessionStore} {username domain : String}
    {p : Ptr} (h : store.getFirstDisconnectedSessionUserName username domain = some p) :
    (∃ id : UInt32, store.map[id]? = some p) ∧ (store.heap.cell p).username = username ∧
      (store.heap.cell p).domain = domain ∧ (store.heap.cell p).currentState = .disconnected := by
  unfold getFirstDisconnectedSessionUserName at h
  obtain ⟨entry, hfind, rfl⟩ := Option.map_eq_some_iff.mp h
  have hmem := List.mem_of_find?_eq_some hfind
  have hpred := List.find?_some hfind
  refine ⟨⟨entry.1, mem_toList_iff_getElem?_eq_some.mp hmem⟩, ?_⟩
  simpa using hpred

theorem mem_getAllSessions {store : SessionStore} {p : Ptr} :
    p ∈ store.getAllSessions ↔ ∃ id : UInt32, store.map[id]? = some p := by
  simp only [getAllSessions, List.mem_map, Prod.exists, exists_eq_right]
  exact exists_congr fun id => mem_toList_iff_getElem?_eq_some

theorem getAllSessions_nodup : store.getAllSessions.Nodup := by
  unfold getAllSessions
  rw [List.Nodup, List.pairwise_map]
  refine distinct_keys_toList.imp_of_mem ?_
  intro a b ha hb hkeys hsame
  have hida := (store.stored (mem_toList_iff_getElem?_eq_some.mp ha)).2
  have hidb := (store.stored (mem_toList_iff_getElem?_eq_some.mp hb)).2
  rw [hsame, hidb] at hida
  rw [hida] at hkeys
  exact hkeys compare_self

end SessionStore

/-! ## Connection -/

structure ClientInformation where
  width : UInt32 := 0
  height : UInt32 := 0
  colordepth : UInt32 := 0
  deriving DecidableEq, Repr

structure Connection where
  connectionId : UInt32
  sessionId : UInt32 := 0
  about2SwitchSessionId : UInt32 := 0
  authStatus : Int := -1
  clientInformation : ClientInformation := {}
  username : String := ""
  domain : String := ""
  deriving DecidableEq, Repr

def Connection.authenticateUser (config : Config) (answers : Answers)
    (username domain password : String) (connection : Connection) : Int × Connection :=
  if connection.authStatus = 0 then (-1, connection)
  else
    match answers.loadFromName config.getAuthModule with
    | none => (1, connection)
    | some auth =>
      let status := auth.logonUser username domain password
      if status = 0 then
        (status, { connection with authStatus := status, username := username, domain := domain })
      else (status, { connection with authStatus := status })

variable (connection : Connection)

def Connection.account : Int × String × String :=
  (connection.authStatus, connection.username, connection.domain)

namespace Connection

def setSessionId (sessionId : UInt32) : Connection :=
  { connection with sessionId := sessionId }

def setAbout2SwitchSessionId (switchSessionId : UInt32) : Connection :=
  { connection with about2SwitchSessionId := switchSessionId }

def setClientInformation (information : ClientInformation) : Connection :=
  { connection with clientInformation := information }

@[simp] theorem setSessionId_account (sessionId : UInt32) :
    (connection.setSessionId sessionId).account = connection.account := by
  simp [account, setSessionId]

@[simp] theorem setAbout2SwitchSessionId_account (switchSessionId : UInt32) :
    (connection.setAbout2SwitchSessionId switchSessionId).account = connection.account := by
  simp [account, setAbout2SwitchSessionId]

@[simp] theorem setClientInformation_account (information : ClientInformation) :
    (connection.setClientInformation information).account = connection.account := by
  simp [account, setClientInformation]

end Connection

theorem Connection.authenticateUser_unseen {α : Type*} (config : Config) (answers : Answers)
    (username domain password : String) (connection : Connection) (π : Connection → α)
    (h : ∀ (c : Connection) (status : Int) (username domain : String),
      π { c with authStatus := status, username := username, domain := domain } = π c) :
    π (connection.authenticateUser config answers username domain password).2 = π connection := by
  unfold authenticateUser
  split
  · rfl
  · split
    · rfl
    · dsimp only
      split <;> exact h connection _ _ _

variable {config : Config} {answers : Answers} {username domain password : String} {connection : Connection}

theorem Connection.authenticateUser_success
    (h : (connection.authenticateUser config answers username domain password).1 = 0) :
    (connection.authenticateUser config answers username domain password).2.account =
      (0, username, domain) := by
  unfold authenticateUser at h ⊢
  split at h
  · cases h
  · split at h
    · cases h
    · dsimp only at h
      split at h
      · rename_i hstat
        simp_all [account]
      · rename_i hstat
        exact absurd h hstat

theorem Connection.authenticateUser_again (h : connection.authStatus = 0) :
    (connection.authenticateUser config answers username domain password).2 = connection := by
  simp [authenticateUser, h]

theorem Connection.authenticateUser_username
    (h : (connection.authenticateUser config answers username domain password).1 = 0) :
    username.isEmpty = false := by
  unfold authenticateUser at h
  split at h
  · cases h
  · split at h
    · cases h
    · have hstat : ∀ auth : AuthModule, auth.logonUser username domain password = 0 →
          username.isEmpty = false := by
        intro auth hzero
        unfold AuthModule.logonUser at hzero
        split at hzero
        · cases hzero
        · split at hzero
          · cases hzero
          · simp_all
      dsimp only at h
      split at h <;> exact hstat _ h

namespace Connection

inductive Method
  | authenticateUser (config : Config) (answers : Answers) (username domain password : String)
  | setSessionId (sessionId : UInt32)
  | setAbout2SwitchSessionId (switchSessionId : UInt32)
  | setClientInformation (information : ClientInformation)

@[simp] def call : Method → Connection
  | .authenticateUser config answers username domain password =>
    (connection.authenticateUser config answers username domain password).2
  | .setSessionId sessionId => connection.setSessionId sessionId
  | .setAbout2SwitchSessionId switchSessionId => connection.setAbout2SwitchSessionId switchSessionId
  | .setClientInformation information => connection.setClientInformation information

theorem call_connectionId (method : Method) :
    (connection.call method).connectionId = connection.connectionId := by
  cases method with
  | authenticateUser config answers username domain password =>
    exact authenticateUser_unseen config answers username domain password connection connectionId
      fun _ _ _ _ => rfl
  | _ => rfl

end Connection

/-! ## ConnectionStore -/

structure ConnectionStore where
  heap : Heap Connection
  map : TreeMap UInt32 Ptr
  stored : ∀ {id p}, map[id]? = some p → p < heap.next ∧ (heap.cell p).connectionId = id

namespace ConnectionStore

def empty : ConnectionStore where
  heap := Heap.empty { connectionId := 0 }
  map := ∅
  stored := by simp

variable (store : ConnectionStore)

variable (connectionId : UInt32)

def getConnection : Option Ptr :=
  store.map[connectionId]?

def createConnection : ConnectionStore where
  heap := store.heap.alloc { connectionId := connectionId }
  map := store.map.insert connectionId store.heap.next
  stored := by
    intro id p h
    rw [TreeMap.getElem?_insert] at h
    split at h
    · rename_i heq
      cases h
      simpa using LawfulEqCmp.eq_of_compare heq
    · obtain ⟨hlt, hid⟩ := store.stored h
      refine ⟨Nat.lt_succ_of_lt hlt, ?_⟩
      rw [Heap.alloc_cell_of_lt _ _ hlt]
      exact hid

def getOrCreateConnection :
    Ptr × ConnectionStore :=
  match store.map[connectionId]? with
  | some p => (p, store)
  | none => (store.heap.next, store.createConnection connectionId)

theorem getOrCreateConnection_stored :
    (store.getOrCreateConnection connectionId).2.getConnection connectionId =
      some (store.getOrCreateConnection connectionId).1 := by
  unfold getOrCreateConnection
  split
  · assumption
  · simp [getConnection, createConnection]

section

variable {store : ConnectionStore}

theorem getOrCreateConnection_keeps {connectionId : UInt32} {q : Ptr}
    (h : store.getConnection connectionId = some q) (other : UInt32) :
    (store.getOrCreateConnection other).2.getConnection connectionId = some q ∧
      (store.getOrCreateConnection other).2.heap.cell q = store.heap.cell q := by
  unfold getOrCreateConnection
  split
  · exact ⟨h, rfl⟩
  · rename_i hnone
    have hne : other ≠ connectionId := by
      rintro rfl
      rw [getConnection, hnone] at h
      cases h
    refine ⟨?_, Heap.alloc_cell_of_lt _ _ (store.stored h).1⟩
    simpa [getConnection, createConnection, getElem?_insert, hne] using h

theorem getOrCreateConnection_cases {connectionId other : UInt32} {q : Ptr}
    (h : (store.getOrCreateConnection other).2.getConnection connectionId = some q) :
    store.getConnection connectionId = some q ∧
        (store.getOrCreateConnection other).2.heap.cell q = store.heap.cell q ∨
      (store.getOrCreateConnection other).2.heap.cell q = { connectionId := other } := by
  unfold getOrCreateConnection at h ⊢
  split
  · rename_i p hp
    simp only [hp] at h
    exact .inl ⟨h, rfl⟩
  · rename_i hnone
    simp only [hnone, getConnection, createConnection, getElem?_insert] at h
    split at h
    · cases h
      exact .inr (Heap.alloc_cell_self _ _)
    · exact .inl ⟨h, Heap.alloc_cell_of_lt _ _ (store.stored h).1⟩

theorem getOrCreateConnection_of_stored {connectionId : UInt32} {q : Ptr}
    (h : store.getConnection connectionId = some q) :
    store.getOrCreateConnection connectionId = (q, store) := by
  unfold getConnection at h
  simp [getOrCreateConnection, h]

end

def removeConnection : ConnectionStore where
  heap := store.heap
  map := store.map.erase connectionId
  stored := by
    intro id p h
    rw [TreeMap.getElem?_erase] at h
    split at h
    · cases h
    · exact store.stored h

theorem removeConnection_keeps {store : ConnectionStore} {connectionId other : UInt32} {q : Ptr}
    (h : store.getConnection connectionId = some q) (hne : other ≠ connectionId) :
    (store.removeConnection other).getConnection connectionId = some q := by
  simpa [getConnection, removeConnection, getElem?_erase, hne] using h

def getConnectionIdForSessionId (sessionId : UInt32) : UInt32 :=
  ((store.map.toList.find? fun entry =>
    (store.heap.cell entry.2).sessionId = sessionId ∨
      (store.heap.cell entry.2).about2SwitchSessionId = sessionId).map (·.1)).getD 0

def reset : ConnectionStore where
  heap := store.heap
  map := ∅
  stored := by simp

def modify (p : Ptr) (method : Connection.Method) : ConnectionStore where
  heap := store.heap.modify p (·.call method)
  map := store.map
  stored := by
    intro id q h
    obtain ⟨hlt, hid⟩ := store.stored h
    refine ⟨hlt, ?_⟩
    rw [Heap.modify_cell]
    split
    · rw [Connection.call_connectionId]
      exact hid
    · exact hid

theorem modify_getConnectionIdForSessionId (p : Ptr)
    (method : Connection.Method)
    (hkeep : ∀ c : Connection, (c.call method).sessionId = c.sessionId ∧
      (c.call method).about2SwitchSessionId = c.about2SwitchSessionId) (sessionId : UInt32) :
    (store.modify p method).getConnectionIdForSessionId sessionId =
      store.getConnectionIdForSessionId sessionId := by
  have hcell : ∀ q, ((store.modify p method).heap.cell q).sessionId = (store.heap.cell q).sessionId ∧
      ((store.modify p method).heap.cell q).about2SwitchSessionId =
        (store.heap.cell q).about2SwitchSessionId := by
    intro q
    simp only [modify, Heap.modify_cell]
    split
    · exact hkeep _
    · exact ⟨rfl, rfl⟩
  simp only [getConnectionIdForSessionId, hcell]
  rfl

end ConnectionStore

end FreeRDS.Manager
