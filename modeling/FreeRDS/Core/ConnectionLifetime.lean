import FreeRDS.Core.Notifications
import FreeRDS.Lib.Dictionary

/-! # Posting to a connection that is gone

The dictionary has a lock of its own, and what it gives out is a bare pointer. Between the lookup of a connection
and the post to its queue its thread may take the connection out of the dictionary and free it.
-/

namespace FreeRDS.Core

open Lib Rpc List Function

/-- The connection that the thread has looked up and not yet posted to. -/
def RpcThread.context : RpcThread → Option Nat
  | .found _ p => some p
  | .waiting => none

namespace Server

variable {s : Server} {event : Event} {p : Nat}

def PostsToLive (s : Server) : Event → Prop
  | .post request p => s.Enabled (.post request p) → (s.contexts p).phase ≠ .freed
  | .accept | .start _ | .postConnect _ | .receive _ _ | .process _ _ _ _ | .leave _ | .remove _ | .free _ => True

/-- No context is freed between its lookup and the post, and no connection gets the id of another one that is
still in the dictionary. -/
def Undisturbed (s : Server) : Event → Prop
  | .start p => ∀ entry ∈ s.connections, entry.1 ≠ (s.contexts p).id
  | .free p => s.rpc.context ≠ some p
  | .accept | .postConnect _ | .receive _ _ | .post _ _ | .process _ _ _ _ | .leave _ | .remove _ => True

instance (s : Server) : (event : Event) → Decidable (s.PostsToLive event)
  | .post _ _ => inferInstanceAs (Decidable (_ → _))
  | .accept | .start _ | .postConnect _ | .receive _ _ | .process _ _ _ _ | .leave _ | .remove _ | .free _ =>
    inferInstanceAs (Decidable True)

instance (s : Server) : (event : Event) → Decidable (s.Undisturbed event)
  | .start _ => inferInstanceAs (Decidable (∀ entry ∈ s.connections, _))
  | .free _ => inferInstanceAs (Decidable (_ ≠ _))
  | .accept | .postConnect _ | .receive _ _ | .post _ _ | .process _ _ _ _ | .leave _ | .remove _ =>
    inferInstanceAs (Decidable True)

/-- The dictionary only has connections whose threads have not yet taken them out. -/
structure Tidy (s : Server) : Prop where
  fresh : ∀ p, s.nextContext ≤ p → (s.contexts p).phase = .absent
  key : ∀ entry ∈ s.connections, (s.contexts entry.2).id = entry.1
  phase : ∀ entry ∈ s.connections, (s.contexts entry.2).phase = .serving ∨ (s.contexts entry.2).phase = .leaving
  unique : (s.connections.map (·.1)).Nodup
  held : ∀ request p, s.rpc = .found request p → (s.contexts p).phase ≠ .freed

theorem new_tidy : new.Tidy where
  fresh _ _ := rfl
  key entry hentry := by cases hentry
  phase entry hentry := by cases hentry
  unique := nodup_nil
  held request p hrpc := by cases hrpc

theorem Tidy.lt_nextContext (h : s.Tidy) (hphase : (s.contexts p).phase ≠ .absent) : p < s.nextContext := by
  by_contra hle
  exact hphase (h.fresh p (Nat.not_lt.mp hle))

/-! ## Kinds of steps -/

theorem Tidy.set (h : s.Tidy) {connection : Connection} (hp : p < s.nextContext)
    (hid : connection.id = (s.contexts p).id)
    (hphase : (∃ entry ∈ s.connections, entry.2 = p) → connection.phase = .serving ∨ connection.phase = .leaving)
    (hheld : (∃ request, s.rpc = .found request p) → connection.phase ≠ .freed) :
    Tidy { s with contexts := Function.update s.contexts p connection } := by
  constructor
  case fresh =>
    intro q hq
    have hne : q ≠ p := by
      have hq' : s.nextContext ≤ q := hq
      omega
    simpa [update_of_ne hne] using h.fresh q hq
  case key =>
    intro entry hentry
    by_cases hentry' : entry.2 = p
    · simpa [hentry', hid] using h.key entry hentry
    · simpa [update_of_ne hentry'] using h.key entry hentry
  case phase =>
    intro entry hentry
    by_cases hentry' : entry.2 = p
    · simpa [hentry'] using hphase ⟨entry, hentry, hentry'⟩
    · simpa [update_of_ne hentry'] using h.phase entry hentry
  case unique => exact h.unique
  case held =>
    intro request q hrpc
    by_cases hq : q = p
    · subst hq
      simpa using hheld ⟨request, hrpc⟩
    · simpa [update_of_ne hq] using h.held request q hrpc

theorem Tidy.congr {s' : Server} (h : s.Tidy) (hcontexts : s'.contexts = s.contexts)
    (hnext : s'.nextContext = s.nextContext) (hconns : s'.connections = s.connections)
    (hrpc : ∀ request p, s'.rpc = .found request p → (s.contexts p).phase ≠ .freed) : s'.Tidy := by
  constructor
  case fresh =>
    rw [hcontexts, hnext]
    exact h.fresh
  case key =>
    rw [hcontexts, hconns]
    exact h.key
  case phase =>
    rw [hcontexts, hconns]
    exact h.phase
  case unique =>
    rw [hconns]
    exact h.unique
  case held =>
    rw [hcontexts]
    exact hrpc

section

variable (h : s.Tidy)

include h

theorem Tidy.add {id : UInt32} (hid : (s.contexts p).id = id)
    (hphase : (s.contexts p).phase = .serving) (hfresh : ∀ entry ∈ s.connections, entry.1 ≠ id) :
    Tidy { s with connections := s.connections ++ [(id, p)] } := by
  constructor
  case fresh => exact h.fresh
  case key =>
    intro entry hentry
    rcases mem_append.mp hentry with hold | hnew
    · exact h.key entry hold
    · rw [mem_singleton.mp hnew]
      exact hid
  case phase =>
    intro entry hentry
    rcases mem_append.mp hentry with hold | hnew
    · exact h.phase entry hold
    · rw [mem_singleton.mp hnew]
      exact .inl hphase
  case unique =>
    have hnot : id ∉ s.connections.map (·.1) := by
      intro hmem
      obtain ⟨entry, hentry, hkey⟩ := mem_map.mp hmem
      exact hfresh entry hentry hkey
    have hperm : (s.connections ++ [(id, p)]).Perm ((id, p) :: s.connections) :=
      perm_append_singleton (id, p) s.connections
    apply (hperm.map _).nodup_iff.mpr
    exact nodup_cons.mpr ⟨hnot, h.unique⟩
  case held => exact h.held

theorem Tidy.sublist {connections : List (UInt32 × Nat)} (hsub : connections.Sublist s.connections) :
    Tidy { s with connections := connections } where
  fresh := h.fresh
  key entry hentry := h.key entry (hsub.subset hentry)
  phase entry hentry := h.phase entry (hsub.subset hentry)
  unique := h.unique.sublist (hsub.map _)
  held := h.held

theorem Tidy.not_mem_eraseP :
    ¬∃ entry ∈ s.connections.eraseP fun entry => entry.1 = (s.contexts p).id, entry.2 = p := by
  intro hexists
  obtain ⟨entry, hentry, hp⟩ := hexists
  have hmem : entry ∈ s.connections := mem_of_mem_eraseP hentry
  have hkey : entry.1 = (s.contexts p).id := by rw [← h.key entry hmem, hp]
  cases hfind : s.connections.find? fun entry => entry.1 = (s.contexts p).id with
  | none =>
    have hnot := find?_eq_none.mp hfind entry hmem
    simp [hkey] at hnot
  | some first =>
    have hfirst : first.1 = (s.contexts p).id := by simpa using find?_some hfind
    have hunique := ((perm_eraseP_of_find? hfind).map (·.1)).nodup_iff.mp h.unique
    rw [map_cons, nodup_cons] at hunique
    have hin := mem_map_of_mem (f := (·.1)) hentry
    rw [hkey, ← hfirst] at hin
    exact hunique.1 (hfirst ▸ hin)

theorem Tidy.setPhase {phase : Phase} (hbefore : (s.contexts p).phase ≠ .absent)
    (hphase : (∃ entry ∈ s.connections, entry.2 = p) → phase = .serving ∨ phase = .leaving)
    (hheld : (∃ request, s.rpc = .found request p) → phase ≠ .freed) : (s.setPhase p phase).Tidy :=
  h.set (h.lt_nextContext hbefore) rfl hphase hheld

theorem Tidy.respond (request : Request) (status : UInt32) : (s.respond request status).Tidy :=
  h.congr rfl rfl rfl h.held

theorem Tidy.lose (request : Request) : (s.lose request).Tidy := h.congr rfl rfl rfl h.held

theorem Tidy.leaveLoop (hphase : (s.contexts p).phase = .serving) : (s.leaveLoop p).Tidy := by
  have hlists : Tidy { s with posted := s.posted.filter fun entry => entry.1 ≠ p, lost := s.queue p ++ s.lost } :=
    h.congr rfl rfl rfl h.held
  exact hlists.setPhase (by simp [hphase]) (fun _ => .inr rfl) (by simp)

/-! ## The events -/

theorem Tidy.accept : (s.next .accept).Tidy := by
  have hne : ∀ entry ∈ s.connections, entry.2 ≠ s.nextContext := by
    intro entry hentry
    have hlt : entry.2 < s.nextContext := by
      apply h.lt_nextContext
      rcases h.phase entry hentry with hphase | hphase <;> simp [hphase]
    exact Nat.ne_of_lt hlt
  constructor
  case fresh =>
    intro q hq
    have hq' : s.nextContext + 1 ≤ q := hq
    have hne' : q ≠ s.nextContext := by omega
    simpa [Server.next, update_of_ne hne'] using h.fresh q (by omega)
  case key =>
    intro entry hentry
    simpa [Server.next, update_of_ne (hne entry hentry)] using h.key entry hentry
  case phase =>
    intro entry hentry
    simpa [Server.next, update_of_ne (hne entry hentry)] using h.phase entry hentry
  case unique => exact h.unique
  case held =>
    intro request q hrpc
    by_cases hq : q = s.nextContext
    · simp [Server.next, hq]
    · simpa [Server.next, update_of_ne hq] using h.held request q hrpc

theorem Tidy.processRequest (request : Request) (cbIsNull : Bool) :
    (s.processRequest request cbIsNull).Tidy := by
  unfold Server.processRequest
  split
  · exact h.respond request 0
  · split
    · exact h.lose request
    next p hlookup =>
      -- what the dictionary gives out has not been taken out of it
      refine h.congr rfl rfl rfl ?_
      intro request' q hrpc
      obtain ⟨entry, hfind, hentry⟩ := Option.map_eq_some_iff.mp hlookup
      have hq : entry.2 = q := by
        cases hrpc
        exact hentry
      rw [← hq]
      rcases h.phase entry (mem_of_find?_eq_some hfind) with hphase | hphase <;> simp [hphase]
  · exact h.respond request _
  · exact (h.lose request).congr rfl rfl rfl h.held

theorem Tidy.processNotification (hphase : (s.contexts p).phase = .serving) (request : Request)
    (channel ready : Bool) : (s.processNotification p request channel ready).Tidy := by
  unfold Server.processNotification
  split
  · split
    · exact h.respond request 0
    · exact (h.lose request).congr rfl rfl rfl h.held
  · have hclosed : (s.update p fun connection => { connection with connector := false }).Tidy :=
      h.set (h.lt_nextContext (by simp [hphase])) rfl (fun _ => .inl hphase) (by simp [hphase])
    exact (hclosed.respond request 0).leaveLoop (by simp [Server.respond, update, hphase])
  · split
    · split
      · exact h.respond request 0
      · exact (h.respond request 0).leaveLoop hphase
    · exact (h.lose request).leaveLoop hphase
  all_goals exact (h.lose request).leaveLoop hphase

theorem Tidy.next (henb : s.Enabled event) (hundist : s.Undisturbed event) :
    (s.next event).Tidy := by
  cases event with
  | accept => exact h.accept
  | start p =>
    have hacc : (s.contexts p).phase = .accepted := henb.2
    have habsent : ¬∃ entry ∈ s.connections, entry.2 = p := by
      intro hexists
      obtain ⟨entry, hentry, rfl⟩ := hexists
      rcases h.phase entry hentry with hphase | hphase <;> simp [hacc] at hphase
    have hserving : (s.setPhase p .serving).Tidy :=
      h.setPhase (by simp [hacc]) (fun hexists => absurd hexists habsent) (by simp)
    exact hserving.add (by simp [Server.setPhase, update]) (by simp [Server.setPhase, update]) hundist
  | postConnect p =>
    have hphase : (s.contexts p).phase = .serving := henb.2
    exact h.set (h.lt_nextContext (by simp [hphase])) rfl (fun _ => Or.inl hphase) (by simp [hphase])
  | receive request cbIsNull =>
    exact .processRequest (s := { s with received := request :: s.received })
      (h.congr rfl rfl rfl h.held) request cbIsNull
  | post request p =>
    have hwait : Tidy { s with rpc := .waiting } := h.congr rfl rfl rfl (by simp)
    simp only [Server.next, Server.post]
    split
    · exact hwait.congr rfl rfl rfl hwait.held
    · exact hwait.lose request
  | process p request channel ready =>
    have htaken : Tidy { s with posted := s.posted.eraseP fun entry => entry.1 = p } :=
      h.congr rfl rfl rfl h.held
    exact htaken.processNotification henb.2.1 request channel ready
  | leave p => exact h.leaveLoop henb.2
  | remove p =>
    have hleaving : (s.contexts p).phase = .leaving := henb.2
    exact (h.sublist eraseP_sublist).setPhase (by simp [hleaving])
      (fun hexists => absurd hexists h.not_mem_eraseP) (by simp)
  | free p =>
    have hremoved : (s.contexts p).phase = .removed := henb.2
    refine h.setPhase (by simp [hremoved]) ?_ ?_
    · intro hexists
      obtain ⟨entry, hentry, rfl⟩ := hexists
      rcases h.phase entry hentry with hphase | hphase <;> simp [hremoved] at hphase
    · intro hexists
      obtain ⟨request, hrpc⟩ := hexists
      exact absurd (congrArg RpcThread.context hrpc) hundist

theorem Tidy.step (hundist : s.Undisturbed event) : (s.step event).Tidy := by
  unfold Server.step
  split
  next henb => exact h.next henb hundist
  next => exact h

end

end Server

namespace Sample

def logoffRequest : Request := { msgType := RequestKind.logoffUser.msgType, callId := 3, connectionId := 0 }

def endsAfterPost : List Event :=
  [.accept, .start 0, .receive logoffRequest false, .post logoffRequest 0, .leave 0, .remove 0, .free 0]

def endsBeforePost : List Event :=
  [.accept, .start 0, .receive logoffRequest false, .leave 0, .remove 0, .free 0, .post logoffRequest 0]

end Sample

end FreeRDS.Core
