import FreeRDS.Lib.Interleaving
import FreeRDS.Lib.Run
import FreeRDS.Manager.Frame
import FreeRDS.Manager.System

/-! # One session for each connection

The RPC thread and the workers of the FDSAPI take turns at the stores. A handler finds or
creates a session in one action and makes it the current session of a connection in a later
one; what others do in between decides whether two connections end up with the same session.
-/

namespace FreeRDS.Manager

open Std Lib Prog FDSApiHandler ApplicationContext

section Sharing

variable {β : Type}

def Action.acquires (m : ApplicationContext) : Action β → Option UInt32
  | .createSession => some m.sessionStore.nextSessionId
  | .getFirstDisconnectedSessionUserName username domain =>
    (m.sessionStore.getFirstDisconnectedSessionUserName username domain).map fun p => (m.session p).sessionId
  | _ => none

def Action.binds : Action β → Option (Ptr × UInt32)
  | .setSessionId q sessionId => some (q, sessionId)
  | _ => none

/-- A thread holds the session it has found or created until it is bound to a connection. -/
def holding : Ghost Action ApplicationContext (Option UInt32) where
  init := none
  update held action m := if action.binds.isSome then none else (action.acquires m).or held

structure KeepsIds (m m' : ApplicationContext) : Prop where
  next : m.sessionStore.heap.next ≤ m'.sessionStore.heap.next
  sessionId : ∀ p, p < m.sessionStore.heap.next → (m'.session p).sessionId = (m.session p).sessionId

theorem Action.keepsIds (action : Action β) (m : ApplicationContext) : KeepsIds m (action.exec m).2 where
  next := action.next_le m
  sessionId p hlt := by
    obtain hsame | ⟨-, hp, -⟩ | ⟨method, -, hcalled⟩ := action.exec_session m p
    · rw [hsame]
    · exact absurd hlt (hp ▸ Nat.lt_irrefl _)
    · rw [hcalled, Session.call_sessionId]

def bindsHeld : Discipline Action ApplicationContext (Option UInt32) where
  toGhost := holding
  rely := KeepsIds
  guard held action _ := ∀ bound ∈ action.binds, held = some bound.2
  rely_refl _ := ⟨Nat.le_refl _, fun _ _ => rfl⟩
  rely_trans h h' := ⟨Nat.le_trans h.next h'.next, fun p hp =>
    (h'.sessionId p (Nat.lt_of_lt_of_le hp h.next)).trans (h.sessionId p hp)⟩
  rely_exec action m := action.keepsIds m

end Sharing

/-! ## The handlers bind what they hold -/

def Action.quiet {β : Type} : Action β → Bool
  | .createSession | .getFirstDisconnectedSessionUserName _ _ | .setSessionId _ _ => false
  | _ => true

theorem Action.quiet_bindsHeld {β : Type} {action : Action β} (h : action.quiet = true) :
    Quiet bindsHeld action := by
  intro held m
  cases action with
  | createSession | getFirstDisconnectedSessionUserName username domain | setSessionId q sessionId => cases h
  | _ => exact ⟨nofun, rfl⟩

section Handlers

variable {config : Config} {answers : Answers} {m : ApplicationContext} {held : Option UInt32}

/-- The thread holds the session behind `p`. -/
structure Holds (p : Ptr) (held : Option UInt32) (m : ApplicationContext) : Prop where
  allocated : p < m.sessionStore.heap.next
  id : held = some (m.session p).sessionId

theorem Holds.rely {p : Ptr} {m' : ApplicationContext} (h : Holds p held m) (hm : KeepsIds m m') :
    Holds p held m' :=
  ⟨Nat.lt_of_lt_of_le h.allocated hm.next, by rw [hm.sessionId p h.allocated]; exact h.id⟩

theorem perform_quiet {β : Type} (action : Action β) (h : action.quiet = true) :
    (perform action).Every (Quiet bindsHeld) := (every_perform action).mpr (Action.quiet_bindsHeld h)

theorem setSession_quiet (p : Ptr) (setters : List Session.Setter) :
    (setSession p setters).Every (Quiet bindsHeld) := by
  induction setters with
  | nil => trivial
  | cons setter setters ih => exact (perform_quiet _ rfl).bind fun _ => ih

theorem findDisconnectedSession_secures (username domain : String) :
    (findDisconnectedSession config username domain).Secures bindsHeld
      (fun found held m => ∀ p, found = some p → Holds p held m) none m := by
  unfold findDisconnectedSession
  rw [secures_ite]
  refine ⟨fun _ => ?_, fun _ => nofun⟩
  rw [secures_bind, secures_perform]
  refine fun m1 _ => ⟨nofun, ?_⟩
  simp only [exec_action, Action.exec]
  cases hp : m1.sessionStore.getFirstDisconnectedSessionUserName username domain with
  | none => exact nofun
  | some p =>
    obtain ⟨⟨id, hid⟩, -⟩ := SessionStore.getFirstDisconnectedSessionUserName_some hp
    have hupdate : bindsHeld.update none (.getFirstDisconnectedSessionUserName username domain) m1 =
        some (m1.session p).sessionId := by
      simp [bindsHeld, holding, Action.binds, Action.acquires, hp]
    have hholds : Holds p (some (m1.session p).sessionId) m1 := ⟨(m1.sessionStore.stored hid).1, rfl⟩
    rw [hupdate]
    refine (perform_quiet _ rfl).secures_bind fun session m2 hm => ?_
    rw [secures_ite]
    refine ⟨fun _ p' hp' => ?_, fun _ => nofun⟩
    cases hp'
    exact hholds.rely hm

theorem createSession_secures {post : Ptr → Option UInt32 → ApplicationContext → Prop}
    (hpost : ∀ p held m, Holds p held m → post p held m) :
    (perform .createSession).Secures bindsHeld post held m := by
  rw [secures_perform]
  refine fun m1 _ => ⟨nofun, hpost _ _ _ ⟨Nat.lt_succ_self _, ?_⟩⟩
  simp [bindsHeld, holding, Action.binds, Action.acquires, Action.exec]

theorem Holds.quiet_bind {α β : Type} {p : Ptr} {action : Action β} {f : β → Handler α}
    {post : α → Option UInt32 → ApplicationContext → Prop} (h : Holds p held m)
    (hquiet : action.quiet = true)
    (hf : ∀ value m, Holds p held m → (f value).Secures bindsHeld post held m) :
    (perform action >>= f).Secures bindsHeld post held m :=
  (perform_quiet action hquiet).secures_bind fun value m' hm => hf value m' (h.rely hm)

theorem newUserSession_secures (username domain : String) (setters : List Session.Setter) :
    (newUserSession config answers username domain setters).Secures bindsHeld
      (fun found held m => ∀ p, found = some p → Holds p held m) held m := by
  unfold newUserSession
  rw [secures_bind]
  refine createSession_secures fun p held m h => ?_
  refine h.quiet_bind rfl fun _ m h => h.quiet_bind rfl fun _ m h => ?_
  refine (setSession_quiet _ _).secures_bind fun _ m hm => ?_
  refine (h.rely hm).quiet_bind rfl fun _ m h => ?_
  rw [secures_ite]
  refine ⟨fun _ => h.quiet_bind rfl fun _ m h => ?_, fun _ => nofun⟩
  rw [secures_ite]
  refine ⟨fun _ => h.quiet_bind rfl fun _ m h p' hp' => ?_, fun _ => nofun⟩
  cases hp'
  exact h

theorem bindSession_secures {α : Type} {p q : Ptr} {rest : Session → Handler α} (h : Holds p held m)
    (hrest : ∀ session held m, (rest session).Secures bindsHeld (fun _ _ _ => True) held m) :
    (do let session ← perform (.session p)
        perform (.setSessionId q session.sessionId)
        rest session : Handler α).Secures bindsHeld (fun _ _ _ => True) held m := by
  rw [secures_bind, secures_perform]
  refine fun m1 hm1 => ⟨nofun, ?_⟩
  rw [secures_bind, secures_perform]
  refine fun m2 hm2 => ⟨fun bound hbound => ?_, hrest _ _ _⟩
  cases hbound
  exact (h.rely hm1).id

theorem secures_of_quiet {α : Type} {p : Handler α} (h : p.Every fun action => action.quiet = true) :
    p.Secures bindsHeld (fun _ _ _ => True) held m :=
  (h.mono fun _ => Action.quiet_bindsHeld).secures fun _ _ _ => trivial

variable (call : CallInLogonUser)

theorem logonUser_connectSession_secures {q p : Ptr} (h : Holds p held m) :
    (call.connectSession config answers q p).Secures bindsHeld (fun _ _ _ => True) held m := by
  refine bindSession_secures h fun session held m => secures_of_quiet ?_
  simp [startIfDown, bind_bind, pure_bind_eq, ite_bind, Action.quiet]

theorem logonUser_getUserSession_secures :
    (call.getUserSession config answers).Secures bindsHeld (fun _ _ _ => True) none m := by
  unfold CallInLogonUser.getUserSession
  refine (perform_quiet _ rfl).secures_bind fun q m1 _ => ?_
  rw [secures_bind]
  refine (findDisconnectedSession_secures _ _).mono fun found held m2 hfound => ?_
  cases found with
  | some p =>
    refine (perform_quiet _ rfl).secures_bind fun _ m3 hm3 => ?_
    exact logonUser_connectSession_secures call ((hfound p rfl).rely hm3)
  | none =>
    rw [secures_bind]
    refine (newUserSession_secures _ _ _).mono fun found held m3 hnew => ?_
    cases found with
    | some p => exact logonUser_connectSession_secures call (hnew p rfl)
    | none => trivial

theorem logonUser_getAuthSession_secures :
    (call.getAuthSession config answers).Secures bindsHeld (fun _ _ _ => True) held m := by
  unfold CallInLogonUser.getAuthSession
  refine (perform_quiet _ rfl).secures_bind fun q m1 _ => ?_
  rw [secures_bind]
  refine createSession_secures fun p held m h => ?_
  unfold CallInLogonUser.startGreeter
  refine h.quiet_bind rfl fun _ m h => h.quiet_bind rfl fun _ m h => h.quiet_bind rfl fun _ m h => ?_
  refine h.quiet_bind rfl fun _ m h => h.quiet_bind rfl fun _ m h => h.quiet_bind rfl fun _ m h => ?_
  rw [secures_ite]
  refine ⟨fun _ => bindSession_secures h fun session held m => secures_of_quiet ?_, fun _ => trivial⟩
  simp [Action.quiet]

theorem logonUser_doStuff_secures :
    (call.doStuff config answers).Secures bindsHeld (fun _ _ _ => True) none m := by
  unfold CallInLogonUser.doStuff
  have hauth : (call.authenticateUser config answers).Every (Quiet bindsHeld) :=
    (perform_quiet _ rfl).bind fun _ => perform_quiet _ rfl
  refine hauth.secures_bind fun status m1 _ => ?_
  rw [secures_ite]
  exact ⟨fun _ => logonUser_getAuthSession_secures call, fun _ => logonUser_getUserSession_secures call⟩

/-! ### The FDSAPI -/

theorem fdsApi_switchSession_secures (request : FDSApiCredentials) (greeter : FDSApiHandler.Greeter)
    {p : Ptr}
    (h : Holds p held m) :
    (FDSApiHandler.switchSession config answers request greeter p).Secures bindsHeld
      (fun _ _ _ => True) held m := by
  unfold switchSession
  refine h.quiet_bind rfl fun _ m h => h.quiet_bind rfl fun _ m h => h.quiet_bind rfl fun _ m h => ?_
  refine h.quiet_bind rfl fun _ m h => h.quiet_bind rfl fun _ m h => h.quiet_bind rfl fun _ m h => ?_
  refine h.quiet_bind rfl fun _ m h => h.quiet_bind rfl fun _ m h => ?_
  exact bindSession_secures h fun session held m => secures_of_quiet (by simp [Action.quiet])

theorem fdsApi_authenticateUser_secures (request : FDSApiCredentials) :
    (FDSApiHandler.authenticateUser config answers request).Secures bindsHeld (fun _ _ _ => True) none m := by
  have hswitch : ∀ (greeter : FDSApiHandler.Greeter) (status : Int) (isNewSession : Bool) p held m, Holds p held m →
      (do switchSession config answers request greeter p
          if ← startNewSession config answers p isNewSession then
            queueSwitch request greeter.connectionId p
            pure (status, some p)
          else pure (-1, none) : Handler (Int × Option Ptr)).Secures bindsHeld (fun _ _ _ => True) held m := by
    intro greeter status isNewSession p held m h
    rw [secures_bind]
    refine (fdsApi_switchSession_secures request greeter h).mono fun _ held m _ => secures_of_quiet ?_
    simp [startNewSession, queueSwitch, bind_bind, pure_bind_eq, ite_bind, Action.quiet]
  have hprepare : (prepareSwitch config answers request).Secures bindsHeld
      (fun _ _ _ => True) none m := by
    have hauth : (authenticate config answers request).Every fun action => action.quiet = true := by
      simp [authenticate, Option.forall, Action.quiet]
    unfold prepareSwitch
    refine (hauth.mono fun _ => Action.quiet_bindsHeld).secures_bind fun authenticated m1 _ => ?_
    cases authenticated.2 with
    | none => trivial
    | some greeter =>
      simp only
      rw [secures_bind]
      refine (findDisconnectedSession_secures _ _).mono fun found held m2 hfound => ?_
      rw [secures_bind]
      cases found with
      | some p => exact hswitch greeter _ _ p held m2 (hfound p rfl)
      | none => exact createSession_secures fun p held m h => hswitch greeter _ _ p held m h
  unfold authenticateUser
  rw [secures_bind]
  refine hprepare.mono fun prepared held m _ => ?_
  cases prepared.2 with
  | none => trivial
  | some p => exact secures_of_quiet (by simp [Action.quiet])

/-! ### Requests that bind nothing -/

theorem unguarded_of_binds {α : Type} {p : Handler α} (h : p.Every fun action => action.binds = none) :
    p.Every (Unguarded bindsHeld) := by
  refine h.mono fun action hnone _ _ bound hbound => ?_
  rw [hnone] at hbound
  cases hbound

theorem startSession_doStuff_unguarded (call : CallInAuthenticateUser) :
    (call.doStuff config answers).Every (Unguarded bindsHeld) := by
  apply unguarded_of_binds
  simp [CallInAuthenticateUser.doStuff, CallInAuthenticateUser.authenticateUser, CallInAuthenticateUser.getUserSession,
    CallInAuthenticateUser.newUserSession, CallInAuthenticateUser.switchSession, findDisconnectedSession, newUserSession,
    setSession, startIfDown, bind_bind, pure_bind_eq, ite_bind, Option.forall, Action.binds]

theorem disconnectUser_unguarded (connectionId : UInt32) :
    (CallInDisconnectUserSession.doStuff config connectionId).Every (Unguarded bindsHeld) := by
  apply unguarded_of_binds
  simp [CallInDisconnectUserSession.doStuff, Option.forall, Action.binds]

end Handlers

inductive RpcRequest
  | logonUser (answers : Answers) (request : LogonUserRequest)
  | startSession (answers : Answers) (request : StartSessionRequest)
  | disconnectUser (connectionId : UInt32)

variable (config : Config)

def RpcRequest.program : RpcRequest → Handler Unit
  | .logonUser answers request => do
      let _ ← (CallInLogonUser.decodeRequest request).doStuff config answers
  | .startSession answers request => do
      let _ ← (CallInAuthenticateUser.decodeRequest request).doStuff config answers
  | .disconnectUser connectionId => do
      let _ ← CallInDisconnectUserSession.doStuff config connectionId

/-- Thread 0 is that of the RPC engine; every request of the FDSAPI has a worker of its own. -/
inductive Move
  | rpc (request : RpcRequest)
  | fdsApi (answers : Answers) (request : FDSApiCredentials)
  | exec (thread : Nat)

def Move.event : Move → PoolEvent Action
  | .rpc request => .begin 0 (request.program config)
  | .fdsApi answers request => .fork do
      let _ ← FDSApiHandler.authenticateUser config answers request
  | .exec thread => .exec thread

abbrev Threads := Pool Action ApplicationContext (Option UInt32)

namespace Threads

def init : Threads := ⟨ApplicationContext.init, [⟨pure (), none⟩]⟩

def step (threads : Threads) (move : Move) : Threads :=
  Pool.step holding threads (move.event config)

def after (moves : List Move) : Threads := moves.foldl (step config) init

end Threads

theorem Move.secured (move : Move) : (move.event config).Secured bindsHeld := by
  intro program hprg m
  cases move with
  | rpc request =>
    cases hprg
    cases request with
    | logonUser answers request =>
      exact (secures_bind _ _).mpr ((logonUser_doStuff_secures _).mono fun _ _ _ _ => trivial)
    | startSession answers request =>
      exact Every.secures_of_unguarded ((startSession_doStuff_unguarded _).bind fun _ => trivial)
    | disconnectUser connectionId =>
      exact Every.secures_of_unguarded ((disconnectUser_unguarded connectionId).bind fun _ => trivial)
  | fdsApi answers request =>
    cases hprg
    exact (secures_bind _ _).mpr ((fdsApi_authenticateUser_secures request).mono fun _ _ _ _ => trivial)
  | exec thread => cases hprg

/-! ## What is shown by the connections -/

variable (m : ApplicationContext)

def ApplicationContext.NoneShared : Prop :=
  ∀ c c' q q', m.connectionStore.getConnection c = some q → m.connectionStore.getConnection c' = some q' → c ≠ c' →
    (m.connection q).sessionId ≠ 0 → (m.connection q).sessionId ≠ (m.connection q').sessionId

def ApplicationContext.Shown (id : UInt32) : Prop :=
  ∃ entry ∈ m.connectionStore.map.toList, (m.connection entry.2).sessionId = id

instance (m : ApplicationContext) (id : UInt32) : Decidable (m.Shown id) :=
  inferInstanceAs (Decidable (∃ entry ∈ m.connectionStore.map.toList, _))

theorem ApplicationContext.shown_iff {m : ApplicationContext} {id : UInt32} :
    m.Shown id ↔
      ∃ c q, m.connectionStore.getConnection c = some q ∧ (m.connection q).sessionId = id := by
  simp only [Shown, Prod.exists, TreeMap.mem_toList_iff_getElem?_eq_some]
  rfl

section Connections

variable {β : Type} {action : Action β} {m : ApplicationContext}

theorem Action.exec_connection (action : Action β) (m : ApplicationContext) {c : UInt32} {q : Ptr}
    (h : (action.exec m).2.connectionStore.getConnection c = some q) :
    m.connectionStore.getConnection c = some q ∧
        ((action.exec m).2.connection q).sessionId = (m.connection q).sessionId ∨
      ((action.exec m).2.connection q).sessionId = 0 ∨
      ∃ id, action.binds = some (q, id) ∧ ((action.exec m).2.connection q).sessionId = id := by
  have hset : ∀ r method, (∀ connection : Connection, (connection.call method).sessionId = connection.sessionId) →
      ((m.setConnection r method).connection q).sessionId = (m.connection q).sessionId := by
    intro r method hcall
    rw [connection_setConnection]
    split
    · exact hcall _
    · rfl
  cases action with
  | getOrCreateConnection other =>
    rcases ConnectionStore.getOrCreateConnection_cases h with ⟨hq, hcell⟩ | hcell
    · exact .inl ⟨hq, congrArg _ hcell⟩
    · exact .inr (.inl (congrArg Connection.sessionId hcell))
  | removeConnection other =>
    simp only [exec, setConnections_connectionStore, ConnectionStore.removeConnection,
      ConnectionStore.getConnection, TreeMap.getElem?_erase] at h
    split at h
    · cases h
    · exact .inl ⟨h, rfl⟩
  | resetConnections => simp [exec, ConnectionStore.reset, ConnectionStore.getConnection] at h
  | authenticateUser r config answers username domain password =>
    exact .inl ⟨h, hset r _ fun connection =>
      connection.authenticateUser_unseen _ _ _ _ _ Connection.sessionId fun _ _ _ _ => rfl⟩
  | setSessionId r id =>
    simp only [exec, connection_setConnection]
    split
    · rename_i hqr
      exact .inr (.inr ⟨id, by rw [hqr]; rfl, rfl⟩)
    · exact .inl ⟨h, rfl⟩
  | setAbout2SwitchSessionId r id | setClientInformation r information => exact .inl ⟨h, hset r _ fun _ => rfl⟩
  | addTask task => exact .inl (by simpa [exec] using h)
  | _ => exact .inl ⟨h, rfl⟩

theorem Action.exec_shown {id : UInt32} (hid : id ≠ 0) (h : (action.exec m).2.Shown id) :
    m.Shown id ∨ ∃ q, action.binds = some (q, id) := by
  obtain ⟨c, q, hq, hses⟩ := shown_iff.mp h
  rcases action.exec_connection m hq with ⟨hold, hsame⟩ | hzero | ⟨id', hbinds, hid'⟩
  · exact .inl (shown_iff.mpr ⟨c, q, hold, hsame.symm.trans hses⟩)
  · exact absurd (hses.symm.trans hzero) hid
  · exact .inr ⟨q, by rw [hbinds, ← hid', hses]⟩

theorem Action.exec_noneShared (hm : m.NoneShared)
    (hbinds : ∀ q id, action.binds = some (q, id) → id ≠ 0 → ¬m.Shown id) :
    (action.exec m).2.NoneShared := by
  intro c c' q q' hq hq' hne hzero hshared
  have hptr : q ≠ q' := by
    rintro rfl
    have hid := ((action.exec m).2.connectionStore.stored hq).2
    exact hne (hid.symm.trans ((action.exec m).2.connectionStore.stored hq').2)
  -- a session bound just now is shown by no other connection
  have hbound : ∀ {c' q q' id}, action.binds = some (q, id) → q ≠ q' → id ≠ 0 →
      (action.exec m).2.connectionStore.getConnection c' = some q' →
      ((action.exec m).2.connection q').sessionId ≠ id := by
    intro c' q q' id hb hptr hid hq' hses
    rcases action.exec_connection m hq' with ⟨hold, hsame⟩ | hzero | ⟨id', hb', -⟩
    · exact hbinds q id hb hid (shown_iff.mpr ⟨c', q', hold, hsame.symm.trans hses⟩)
    · exact hid (hses.symm.trans hzero)
    · rw [hb] at hb'
      cases hb'
      exact hptr rfl
  rcases action.exec_connection m hq with ⟨hold, hsame⟩ | hz | ⟨id, hb, rfl⟩
  · rcases action.exec_connection m hq' with ⟨hold', hsame'⟩ | hz' | ⟨id', hb', rfl⟩
    · rw [hsame, hsame'] at hshared
      exact hm c c' q q' hold hold' hne (hsame ▸ hzero) hshared
    · exact hzero (hshared.trans hz')
    · exact hbound hb' (Ne.symm hptr) (hshared ▸ hzero) hq hshared
  · exact hzero hz
  · exact hbound hb hptr hzero hq' hshared.symm

end Connections

/-! ## Apart along every run -/

namespace Threads

def held (thread : Thread Action (Option UInt32)) : Option UInt32 :=
  if thread.done then none else thread.ghost

def acquires (thread : Thread Action (Option UInt32)) : Option UInt32 :=
  match thread.program with
  | .ret _ => none
  | .act action _ => action.acquires m

/-- The session is shown by a connection or held by a thread other than `i`. -/
def Taken (threads : Threads) (i : Nat) (id : UInt32) : Prop :=
  threads.shared.Shown id ∨ ∃ entry ∈ threads.threads.zipIdx, entry.2 ≠ i ∧ held entry.1 = some id

instance (threads : Threads) (i : Nat) (id : UInt32) : Decidable (threads.Taken i id) :=
  inferInstanceAs (Decidable (_ ∨ ∃ entry ∈ threads.threads.zipIdx, _ ∧ _))

end Threads

def Move.thread : Move → Option Nat
  | .exec thread => some thread
  | _ => none

def Move.Contends (threads : Threads) (move : Move) : Prop :=
  ∃ i ∈ move.thread, ∃ thread ∈ threads.threads[i]?, ∃ id ∈ Threads.acquires threads.shared thread,
    id ≠ 0 ∧ threads.Taken i id

instance (threads : Threads) (move : Move) : Decidable (move.Contends threads) :=
  have (i : Nat) (thread : Thread Action (Option UInt32)) :
      Decidable (∃ id ∈ Threads.acquires threads.shared thread, id ≠ 0 ∧ threads.Taken i id) :=
    Option.decidableExistsMem (Threads.acquires threads.shared thread)
  inferInstanceAs (Decidable (∃ i ∈ move.thread, ∃ thread ∈ threads.threads[i]?, _))

namespace Threads

variable {threads : Threads}

theorem taken_iff {i : Nat} {id : UInt32} : threads.Taken i id ↔ threads.shared.Shown id ∨
    ∃ (j : Nat) (thread : _), threads.threads[j]? = some thread ∧ j ≠ i ∧ held thread = some id := by
  unfold Taken
  refine or_congr_right ⟨?_, ?_⟩
  · rintro ⟨⟨thread, j⟩, hmem, hne, hheld⟩
    exact ⟨j, thread, List.mem_zipIdx_iff_getElem?.mp hmem, hne, hheld⟩
  · rintro ⟨j, thread, hj, hne, hheld⟩
    exact ⟨(thread, j), List.mem_zipIdx_iff_getElem?.mpr hj, hne, hheld⟩

/-- No session is shown twice, and a session that a thread holds is not taken otherwise. -/
structure Apart (threads : Threads) : Prop where
  noneShared : threads.shared.NoneShared
  held : ∀ (i : Nat) thread id, threads.threads[i]? = some thread → held thread = some id → id ≠ 0 →
    ¬threads.Taken i id

theorem ghost_of_held {thread : Thread Action (Option UInt32)} {id : UInt32}
    (h : held thread = some id) :
    thread.ghost = some id := by
  unfold held at h
  split at h
  · cases h
  · exact h

theorem start_apart {threads' : Threads} {event : PoolEvent Action} (hapart : threads.Apart)
    (hshared : threads'.shared = threads.shared)
    (hold : ∀ (j : Nat) (thread : Thread Action (Option UInt32)), threads'.threads[j]? = some thread →
      threads.threads[j]? = some thread ∨ ∃ program ∈ event.program, thread = ⟨program, holding.init⟩) :
    threads'.Apart := by
  have hkept : ∀ (j : Nat) thread id, threads'.threads[j]? = some thread → held thread = some id →
      threads.threads[j]? = some thread := by
    intro j thread id hj hheld
    rcases hold j thread hj with hsame | ⟨program, -, rfl⟩
    · exact hsame
    · cases ghost_of_held hheld
  refine ⟨hshared ▸ hapart.noneShared, fun i thread id hi hheld hid htaken => ?_⟩
  refine hapart.held i thread id (hkept i thread id hi hheld) hheld hid (taken_iff.mpr ?_)
  rcases taken_iff.mp htaken with hshown | ⟨j, other, hj, hne, hother⟩
  · exact .inl (hshared ▸ hshown)
  · exact .inr ⟨j, other, hkept j other id hj hother, hne, hother⟩

theorem exec_apart {β : Type} {action : Action β} {next : β → Handler Unit} {g : Option UInt32}
    {i : Nat}
    (hapart : threads.Apart) (hi : threads.threads[i]? = some ⟨.act action next, g⟩)
    (hguard : ∀ bound ∈ action.binds, g = some bound.2)
    (hacquires : ∀ id, action.acquires threads.shared = some id → id ≠ 0 → ¬threads.Taken i id)
    (moved : Handler Unit) :
    Apart ⟨(action.exec threads.shared).2,
      threads.threads.set i ⟨moved, holding.update g action threads.shared⟩⟩ := by
  have hholds : ∀ id, g = some id → id ≠ 0 → ¬threads.Taken i id := fun id hg => hapart.held i _ id hi hg
  have hmoved : ∀ id, held ⟨moved, holding.update g action threads.shared⟩ = some id → id ≠ 0 →
      ¬threads.Taken i id ∧ action.binds = none := by
    intro id hheld hid
    have hupdate : (if action.binds.isSome then none else (action.acquires threads.shared).or g) = some id :=
      ghost_of_held hheld
    split at hupdate
    · cases hupdate
    · rename_i hbinds
      refine ⟨?_, by simpa using hbinds⟩
      cases hacq : action.acquires threads.shared with
      | none => exact hholds id (by simpa [hacq] using hupdate) hid
      | some id' =>
        rw [hacq, Option.some_or] at hupdate
        cases hupdate
        exact hacquires id hacq hid
  constructor
  · refine Action.exec_noneShared hapart.noneShared fun q id hbinds hid hshown => ?_
    exact hholds id (hguard _ hbinds) hid (taken_iff.mpr (.inl hshown))
  · intro j thread id hj hheld hid htaken
    rcases Pool.getElem?_set_cases hj with ⟨rfl, rfl⟩ | ⟨hji, hold⟩
    · -- the thread that has moved
      obtain ⟨hfree, hbinds⟩ := hmoved id hheld hid
      refine hfree (taken_iff.mpr ?_)
      rcases taken_iff.mp htaken with hshown | ⟨k, other, hk, hkj, hother⟩
      · rcases Action.exec_shown hid hshown with hshown | ⟨q, hbound⟩
        · exact .inl hshown
        · rw [hbinds] at hbound
          cases hbound
      · rcases Pool.getElem?_set_cases hk with ⟨rfl, -⟩ | ⟨-, hk⟩
        · exact absurd rfl hkj
        · exact .inr ⟨k, other, hk, hkj, hother⟩
    · -- another thread, which the one that has moved cannot have robbed
      have hfree := hapart.held j thread id hold hheld hid
      rcases taken_iff.mp htaken with hshown | ⟨k, other, hk, hkj, hother⟩
      · rcases Action.exec_shown hid hshown with hshown | ⟨q, hbound⟩
        · exact hfree (taken_iff.mpr (.inl hshown))
        · exact hfree (taken_iff.mpr (.inr ⟨i, _, hi, Ne.symm hji, hguard _ hbound⟩))
      · rcases Pool.getElem?_set_cases hk with ⟨rfl, rfl⟩ | ⟨-, hk⟩
        · exact (hmoved id hother hid).1 (taken_iff.mpr (.inr ⟨j, thread, hold, hji, hheld⟩))
        · exact hfree (taken_iff.mpr (.inr ⟨k, other, hk, hkj, hother⟩))

theorem step_apart {config : Config} {move : Move} (hmove : ¬move.Contends threads)
    (hsecured : threads.Secured bindsHeld) (hapart : threads.Apart) :
    (threads.step config move).Apart := by
  obtain ⟨hshared, hold⟩ | ⟨i, β, action, next, g, hexec, hi, hstep⟩ :=
    Pool.step_cases holding threads (move.event config)
  · exact start_apart hapart hshared hold
  · have hthr := hsecured _ (List.mem_of_getElem? hi)
    unfold step
    rw [hstep]
    refine exec_apart hapart hi hthr.next.1 (fun id hacquires hid htaken => hmove ?_) _
    cases move with
    | exec thread =>
      cases hexec
      exact ⟨i, rfl, _, hi, id, hacquires, hid, htaken⟩
    | _ => cases hexec

theorem init_apart : init.Apart where
  noneShared c c' q q' hq := by
    simp [init, ApplicationContext.init, ConnectionStore.empty, ConnectionStore.getConnection] at hq
  held i thread id hi hheld := by
    cases List.mem_singleton.mp (List.mem_of_getElem? hi)
    cases hheld

end Threads

/-- Every state reached by threads of which none finds or creates a session that is taken. -/
theorem no_session_shared (moves : List Move)
    (h : Along (Threads.step config) (fun threads move => ¬move.Contends threads) Threads.init moves) :
    (Threads.after config moves).shared.NoneShared := by
  have hinv : (Threads.after config moves).Secured bindsHeld ∧ (Threads.after config moves).Apart := by
    refine h.invariant (I := fun threads => threads.Secured bindsHeld ∧ threads.Apart) ?_ ⟨?_, Threads.init_apart⟩
    · exact fun threads move hthrs hmove =>
        ⟨Pool.step_secured hthrs.1 (move.secured config), Threads.step_apart hmove hthrs.1 hthrs.2⟩
    · intro thread hthr
      cases List.mem_singleton.mp hthr
      trivial
  exact hinv.2.noneShared

namespace Sample

def rpc (request : RpcRequest) : List Move := .rpc request :: List.replicate 25 (.exec 0)

def rpcLogon (connectionId : UInt32) (user password : String) : List Move :=
  rpc (.logonUser answers (logonRequest connectionId user password))

/-- Session 1 is a greeter on connection 1, and session 2 one that alice has left. -/
def left : List Move :=
  rpcLogon 1 "alice" "wrong" ++ rpcLogon 2 "alice" "secret" ++ rpc (.disconnectUser 2)

/-- A worker logs alice on from the greeter and is interrupted after `n` actions. -/
def worker (n : Nat) : List Move :=
  .fdsApi answers ⟨1, "alice", "secret", ""⟩ :: List.replicate n (.exec 1)

end Sample

/-- The worker comes first and the session is not found again. -/
theorem no_session_shared_worker_first :
    (Threads.after Sample.config
      (Sample.left ++ Sample.worker 25 ++ Sample.rpcLogon 3 "alice" "secret")).shared.NoneShared :=
  no_session_shared Sample.config _ (by decide +kernel)

/-- The worker has found the session; before it binds it, the RPC thread gives it to connection 3. -/
theorem session_shared_by_two_connections :
    ¬(Threads.after Sample.config (Sample.left ++ Sample.worker 7 ++ Sample.rpcLogon 3 "alice" "secret" ++
      List.replicate 18 (.exec 1))).shared.NoneShared := by
  intro h
  exact h 1 3 0 2 (by decide +kernel) (by decide +kernel) (by decide) (by decide +kernel) (by decide +kernel)

end FreeRDS.Manager
