import FreeRDS.Lib.Run
import Mathlib.Logic.Function.Basic

/-! # The life of a channel

A channel is made by the thread of a connection, which waits five seconds for its socket. The thread of the server
accepts the socket and finds the channel in `channelServer->table`. Then the channel goes to the list of the connection
and becomes the user data of a virtual channel of RDP. The steps here are those that the other thread can see.
-/

namespace FreeRDS.Core.Channels

open Lib List

/-- The channels in the order in which they are made. No two of them have the same GUID. -/
abbrev ChannelId := Nat

abbrev ConnectionId := Nat

abbrev Handle := Nat

structure Channel where
  connected : Bool := false
  /-- `readyEvent` is set. -/
  ready : Bool := false
  freed : Bool := false
  deriving DecidableEq, Repr

inductive Stage
  | waiting | timedOut | accepted | opened | failed
  deriving DecidableEq, Repr

structure Connection where
  busy : Option (ChannelId × Stage) := none
  channels : List ChannelId := []
  userData : Handle → Option ChannelId := fun _ => none
  ended : Bool := false

/-- The containers of a connection go with it. The channels in them are not freed. -/
def Connection.closed : Connection := { ended := true }

/-- How far `freerds_channel_server_accept` has got. -/
inductive Accepting
  | idle
  | found (channel : ChannelId)
  | unconnected (channel : ChannelId)
  | bound (channel : ChannelId)
  deriving DecidableEq, Repr

structure State where
  next : ChannelId := 0
  channel : ChannelId → Channel := fun _ => {}
  table : List ChannelId := []
  connections : ConnectionId → Connection := fun _ => {}
  accepting : Accepting := .idle
  sockets : List ChannelId := []

namespace State

def set (k : ConnectionId) (connection : Connection) (s : State) : State :=
  { s with connections := Function.update s.connections k connection }

variable (channel : ChannelId)

def modify (write : Channel → Channel) (s : State) : State :=
  { s with channel := Function.update s.channel channel (write (s.channel channel)) }

/-- `freerds_channel_free`. -/
def free (s : State) : State := s.modify channel fun c => { c with freed := true }

/-! ## The thread of a connection -/

variable (k : ConnectionId) (s : State)

/-- `freerds_client_process_channel_endpoint_open` as far as the wait. -/
def channelEndpointOpen : State :=
  let connection := s.connections k
  if connection.busy.isNone && !connection.ended then
    { s.set k { connection with busy := some (s.next, .waiting) } with
      next := s.next + 1
      table := s.next :: s.table }
  else s

/-- The wait ends with `WAIT_OBJECT_0`, and the channel is taken out of the table. -/
def waitReady : State :=
  let connection := s.connections k
  match connection.busy with
  | some (channel, .waiting) =>
    if (s.channel channel).ready then
      { s.set k { connection with busy := some (channel, .accepted) } with table := s.table.erase channel }
    else s
  | _ => s

def waitTimeOut : State :=
  let connection := s.connections k
  match connection.busy with
  | some (channel, .waiting) =>
    if (s.channel channel).ready then s else s.set k { connection with busy := some (channel, .timedOut) }
  | _ => s

/-- The channel is freed, and the main loop of the connection is left. -/
def freeTimedOut : State :=
  match (s.connections k).busy with
  | some (channel, .timedOut) => (s.free channel).set k .closed
  | _ => s

/-- `VirtualChannelOpen`, which returns `NULL`, a new handle or one that is open, and `VirtualChannelSetData`. -/
def virtualChannelOpen (k : ConnectionId) (handle : Option Handle) (s : State) : State :=
  let connection := s.connections k
  match connection.busy with
  | some (channel, .accepted) =>
    let userData := handle.elim connection.userData fun handle =>
      Function.update connection.userData handle (some channel)
    s.set k { connection with busy := some (channel, .opened), userData }
  | _ => s

/-- `freerds_client_add_channel`. -/
def addChannel : State :=
  let connection := s.connections k
  match connection.busy with
  | some (channel, .opened) =>
    s.set k { connection with busy := none, channels := connection.channels ++ [channel] }
  | _ => s

/-- `freerds_client_check_channel_event_handles` with a channel whose socket fails: it is removed, -/
def removeChannel (k : ConnectionId) (channel : ChannelId) (s : State) : State :=
  let connection := s.connections k
  if connection.busy = none ∧ channel ∈ connection.channels then
    s.set k { connection with busy := some (channel, .failed), channels := connection.channels.erase channel }
  else s

def freeFailed : State :=
  let connection := s.connections k
  match connection.busy with
  | some (channel, .failed) => (s.free channel).set k { connection with busy := none }
  | _ => s

def disconnect : State :=
  if (s.connections k).busy = none then s.set k .closed else s

/-! ## The thread of the server -/

/-- A socket was accepted and has sent the GUID of a channel, or another one. -/
def lookup (s : State) : State :=
  if s.accepting = .idle ∧ channel ∈ s.table then { s with accepting := .found channel } else s

/-- The channel must not be connected. A channel that was freed can read as either. -/
def checkConnected (garbage : Bool) (s : State) : State :=
  match s.accepting with
  | .found channel =>
    let connected := if (s.channel channel).freed then garbage else (s.channel channel).connected
    { s with accepting := if connected then .idle else .unconnected channel }
  | _ => s

def bindSocket (s : State) : State :=
  match s.accepting with
  | .unconnected channel =>
    { s.modify channel fun c => { c with connected := true } with
      accepting := .bound channel
      sockets := s.sockets ++ [channel] }
  | _ => s

/-- `SetEvent(channel->readyEvent)`. -/
def signalReady (s : State) : State :=
  match s.accepting with
  | .bound channel =>
    { s.modify channel fun c => { c with ready := true } with accepting := .idle }
  | _ => s

end State

inductive Event
  | channelEndpointOpen (k : ConnectionId)
  | waitReady (k : ConnectionId)
  | waitTimeOut (k : ConnectionId)
  | freeTimedOut (k : ConnectionId)
  | virtualChannelOpen (k : ConnectionId) (handle : Option Handle)
  | addChannel (k : ConnectionId)
  | removeChannel (k : ConnectionId) (channel : ChannelId)
  | freeFailed (k : ConnectionId)
  | disconnect (k : ConnectionId)
  | lookup (channel : ChannelId)
  | checkConnected (garbage : Bool)
  | bindSocket
  | signalReady
  deriving DecidableEq, Repr

namespace State

def step (s : State) : Event → State
  | .channelEndpointOpen k => s.channelEndpointOpen k
  | .waitReady k => s.waitReady k
  | .waitTimeOut k => s.waitTimeOut k
  | .freeTimedOut k => s.freeTimedOut k
  | .virtualChannelOpen k handle => s.virtualChannelOpen k handle
  | .addChannel k => s.addChannel k
  | .removeChannel k channel => s.removeChannel k channel
  | .freeFailed k => s.freeFailed k
  | .disconnect k => s.disconnect k
  | .lookup channel => s.lookup channel
  | .checkConnected garbage => s.checkConnected garbage
  | .bindSocket => s.bindSocket
  | .signalReady => s.signalReady

def Reachable (s : State) (channel : ChannelId) : Prop :=
  channel ∈ s.table ∨ (∃ k, channel ∈ (s.connections k).channels) ∨
    ∃ k handle, (s.connections k).userData handle = some channel

structure Safe (s : State) : Prop where
  alive : ∀ channel, s.Reachable channel → (s.channel channel).freed = false
  bound : s.sockets.Nodup

/--
No open times out. A channel whose socket has failed is freed when it is not the user data of a virtual channel. A
socket is bound to a channel that has not been freed since it was found in the table.
-/
def Conforms (s : State) : Event → Prop
  | .freeTimedOut k => ∀ channel, (s.connections k).busy ≠ some (channel, .timedOut)
  | .freeFailed k => ∀ channel, (s.connections k).busy = some (channel, .failed) →
      ∀ other handle, (s.connections other).userData handle ≠ some channel
  | .bindSocket => ∀ channel, s.accepting = .unconnected channel → (s.channel channel).freed = false
  | _ => True

/-! ## The invariant -/

end State

namespace Connection

def held (connection : Connection) : List ChannelId :=
  (connection.busy.map Prod.fst).toList ++ connection.channels

/-- The thread has put the channel into the table and not taken it out. -/
def Awaits (connection : Connection) (channel : ChannelId) : Prop :=
  connection.busy = some (channel, .waiting) ∨ connection.busy = some (channel, .timedOut)

variable {connection : Connection} {channel : ChannelId}

theorem mem_held_of_busy {stage : Stage} (h : connection.busy = some (channel, stage)) : channel ∈ connection.held := by
  simp [held, h]

theorem Awaits.mem_held (h : connection.Awaits channel) : channel ∈ connection.held :=
  h.elim mem_held_of_busy mem_held_of_busy

theorem Awaits.eq_of_busy (h : connection.Awaits channel) {other : ChannelId} {stage : Stage}
    (hbusy : connection.busy = some (other, stage)) : channel = other := by
  rcases h with hchan | hchan <;>
  · rw [hbusy] at hchan
    cases hchan
    rfl

end Connection

/-- Each channel is held by one connection at most, and it is in the table as long as its socket is awaited. -/
structure State.Inv (s : State) : Prop where
  owner : ∀ k k' channel, channel ∈ (s.connections k).held → channel ∈ (s.connections k').held → k = k'
  nodup : ∀ k, (s.connections k).held.Nodup
  alive : ∀ k, ∀ channel ∈ (s.connections k).held, channel < s.next ∧ (s.channel channel).freed = false
  table : ∀ channel, channel ∈ s.table ↔ ∃ k, (s.connections k).Awaits channel
  tableNodup : s.table.Nodup
  served : ∀ k, ∀ channel ∈ (s.connections k).held, (s.connections k).Awaits channel ∨ channel ∈ s.sockets
  ready : ∀ channel, (s.channel channel).ready = true → channel ∈ s.sockets
  freed : ∀ channel, (s.channel channel).freed = true → channel ∈ s.sockets
  connected : ∀ channel ∈ s.sockets, (s.channel channel).connected = true
  fresh : ∀ channel, s.next ≤ channel → s.channel channel = {}
  found : ∀ channel, s.accepting = .found channel → channel < s.next
  unconnected : ∀ channel, s.accepting = .unconnected channel →
    channel < s.next ∧ ((s.channel channel).freed = false → (s.channel channel).connected = false)
  signalled : ∀ channel, s.accepting = .bound channel → channel < s.next ∧ channel ∈ s.sockets

namespace State

variable {s : State} {k other : ConnectionId} {connection : Connection}

theorem set_self : (s.set k connection).connections k = connection := Function.update_self _ _ _

theorem set_of_ne (h : other ≠ k) : (s.set k connection).connections other = s.connections other :=
  Function.update_of_ne h _ _

end State

namespace State.Inv

variable {s : State} {k : ConnectionId} {connection : Connection}

theorem init : Inv {} where
  owner := by simp [Connection.held]
  nodup := by simp [Connection.held]
  alive := by simp [Connection.held]
  table := by simp [Connection.Awaits]
  tableNodup := nodup_nil
  served := by simp [Connection.held]
  ready := by simp
  freed := by simp
  connected := by simp
  fresh := by simp
  found := by simp
  unconnected := by simp
  signalled := by simp

variable (h : s.Inv)

include h

theorem mem_table_iff (k : ConnectionId) (channel : ChannelId) :
    channel ∈ s.table ↔
      (s.connections k).Awaits channel ∨ ∃ other, other ≠ k ∧ (s.connections other).Awaits channel := by
  rw [h.table]
  constructor
  · rintro ⟨other, hawaits⟩
    by_cases hk : other = k
    · exact .inl (hk ▸ hawaits)
    · exact .inr ⟨other, hk, hawaits⟩
  · rintro (hawaits | ⟨other, -, hawaits⟩)
    · exact ⟨k, hawaits⟩
    · exact ⟨other, hawaits⟩

theorem put {next : ChannelId} (table : List ChannelId) (hnext : s.next ≤ next)
    (hheld : ∀ channel ∈ connection.held, channel ∈ (s.connections k).held ∨ s.next ≤ channel ∧ channel < next)
    (hnodup : connection.held.Nodup)
    (htable : ∀ channel, channel ∈ table ↔
      connection.Awaits channel ∨ ∃ other, other ≠ k ∧ (s.connections other).Awaits channel)
    (htableNodup : table.Nodup)
    (hserved : ∀ channel ∈ connection.held, connection.Awaits channel ∨ channel ∈ s.sockets) :
    Inv { s.set k connection with next, table } := by
  -- a channel of another connection is neither new nor one that this connection held
  have hapart {other : ConnectionId} {channel : ChannelId} (hk : other ≠ k) (hmem : channel ∈ connection.held)
      (hother : channel ∈ (s.connections other).held) : False := by
    rcases hheld channel hmem with hold | hnew
    · exact hk (h.owner other k channel hother hold)
    · exact absurd (h.alive other channel hother).1 (Nat.not_lt.mpr hnew.1)
  refine { h with
    owner := ?_, nodup := ?_, alive := ?_, table := ?_, tableNodup := htableNodup, served := ?_, fresh := ?_,
    found := ?_, unconnected := ?_, signalled := ?_ }
  · intro k₁ k₂ channel h₁ h₂
    dsimp only at h₁ h₂
    by_cases hk₁ : k₁ = k <;> by_cases hk₂ : k₂ = k
    · rw [hk₁, hk₂]
    · rw [hk₁, set_self] at h₁
      rw [set_of_ne hk₂] at h₂
      exact (hapart hk₂ h₁ h₂).elim
    · rw [set_of_ne hk₁] at h₁
      rw [hk₂, set_self] at h₂
      exact (hapart hk₁ h₂ h₁).elim
    · rw [set_of_ne hk₁] at h₁
      rw [set_of_ne hk₂] at h₂
      exact h.owner k₁ k₂ channel h₁ h₂
  · intro other
    dsimp only
    by_cases hk : other = k
    · rw [hk, set_self]
      exact hnodup
    · rw [set_of_ne hk]
      exact h.nodup other
  · intro other channel hmem
    dsimp only at hmem
    by_cases hk : other = k
    · rw [hk, set_self] at hmem
      rcases hheld channel hmem with hold | ⟨hle, hlt⟩
      · exact ⟨Nat.lt_of_lt_of_le (h.alive k channel hold).1 hnext, (h.alive k channel hold).2⟩
      · refine ⟨hlt, ?_⟩
        change (s.channel channel).freed = false
        rw [h.fresh channel hle]
    · rw [set_of_ne hk] at hmem
      exact ⟨Nat.lt_of_lt_of_le (h.alive other channel hmem).1 hnext, (h.alive other channel hmem).2⟩
  · intro channel
    rw [htable]
    constructor
    · rintro (hawaits | ⟨other, hk, hawaits⟩)
      · exact ⟨k, set_self.symm ▸ hawaits⟩
      · exact ⟨other, (set_of_ne hk).symm ▸ hawaits⟩
    · rintro ⟨other, hawaits⟩
      dsimp only at hawaits
      by_cases hk : other = k
      · rw [hk, set_self] at hawaits
        exact .inl hawaits
      · rw [set_of_ne hk] at hawaits
        exact .inr ⟨other, hk, hawaits⟩
  · intro other channel hmem
    dsimp only at hmem ⊢
    by_cases hk : other = k
    · rw [hk, set_self] at hmem ⊢
      exact hserved channel hmem
    · rw [set_of_ne hk] at hmem ⊢
      exact h.served other channel hmem
  · exact fun channel hle => h.fresh channel (Nat.le_trans hnext hle)
  · exact fun channel hfound => Nat.lt_of_lt_of_le (h.found channel hfound) hnext
  · exact fun channel hun => ⟨Nat.lt_of_lt_of_le (h.unconnected channel hun).1 hnext, (h.unconnected channel hun).2⟩
  · exact fun channel hbound => ⟨Nat.lt_of_lt_of_le (h.signalled channel hbound).1 hnext, (h.signalled channel hbound).2⟩

theorem set (hheld : connection.held.Perm (s.connections k).held)
    (hawaits : ∀ channel, connection.Awaits channel ↔ (s.connections k).Awaits channel) : (s.set k connection).Inv := by
  refine h.put s.table (Nat.le_refl s.next) ?_ (hheld.nodup_iff.mpr (h.nodup k)) ?_ h.tableNodup ?_
  · exact fun channel hmem => .inl (hheld.mem_iff.mp hmem)
  · intro channel
    rw [hawaits]
    exact h.mem_table_iff k channel
  · intro channel hmem
    rw [hawaits]
    exact h.served k channel (hheld.mem_iff.mp hmem)

section

variable (k : ConnectionId)

theorem waitTimeOut : (s.waitTimeOut k).Inv := by
  unfold State.waitTimeOut
  dsimp only
  split
  next channel hbusy =>
    split_ifs
    · exact h
    · exact h.set (by simp [Connection.held, hbusy]) (by simp [Connection.Awaits, hbusy])
  next => exact h

theorem virtualChannelOpen (handle : Option Handle) :
    (s.virtualChannelOpen k handle).Inv := by
  unfold State.virtualChannelOpen
  dsimp only
  split
  next channel hbusy => exact h.set (by simp [Connection.held, hbusy]) (by simp [Connection.Awaits, hbusy])
  next => exact h

theorem addChannel : (s.addChannel k).Inv := by
  unfold State.addChannel
  dsimp only
  split
  next channel hbusy =>
    refine h.set ?_ (by simp [Connection.Awaits, hbusy])
    simp [Connection.held, hbusy]
  next => exact h

theorem removeChannel (channel : ChannelId) : (s.removeChannel k channel).Inv := by
  unfold State.removeChannel
  dsimp only
  split_ifs with hlisted
  · obtain ⟨hbusy, hmem⟩ := hlisted
    refine h.set ?_ (by simp [Connection.Awaits, hbusy])
    simpa [Connection.held, hbusy] using (perm_cons_erase hmem).symm
  · exact h

end

theorem lookup (channel : ChannelId) : (s.lookup channel).Inv := by
  unfold State.lookup
  split_ifs with hfound
  · refine { h with found := ?_, unconnected := by simp, signalled := by simp }
    intro other heq
    obtain rfl := Accepting.found.inj heq
    obtain ⟨k, hawaits⟩ := (h.table channel).mp hfound.2
    exact (h.alive k channel hawaits.mem_held).1
  · exact h

theorem checkConnected (garbage : Bool) : (s.checkConnected garbage).Inv := by
  unfold State.checkConnected
  split
  next channel hfound =>
    dsimp only
    generalize hread : (if (s.channel channel).freed then garbage else (s.channel channel).connected) = connected
    cases connected with
    | true => exact { h with found := by simp, unconnected := by simp, signalled := by simp }
    | false =>
      refine { h with found := by simp, unconnected := ?_, signalled := by simp }
      intro other heq
      obtain rfl := Accepting.unconnected.inj heq
      refine ⟨h.found channel hfound, fun halive => ?_⟩
      rwa [if_neg (Bool.eq_false_iff.mp halive)] at hread
  next => exact h

end State.Inv

/-! ## Writes to a channel -/

namespace State

variable {s : State} {channel other : ChannelId} {write : Channel → Channel}

theorem modify_of_ne (h : other ≠ channel) : (s.modify channel write).channel other = s.channel other :=
  Function.update_of_ne h _ _

theorem modify_self : (s.modify channel write).channel channel = write (s.channel channel) := Function.update_self _ _ _

theorem forall_modify {P : ChannelId → Channel → Prop} (h : ∀ other, P other (s.channel other))
    (hwrite : P channel (write (s.channel channel))) (other : ChannelId) :
    P other ((s.modify channel write).channel other) := by
  by_cases hother : other = channel
  · rw [hother, modify_self]
    exact hwrite
  · rw [modify_of_ne hother]
    exact h other

theorem Inv.modify (h : s.Inv) (write : Channel → Channel) (hlt : channel < s.next)
    (halive : ∀ k, channel ∈ (s.connections k).held → (write (s.channel channel)).freed = false)
    (hready : (write (s.channel channel)).ready = true → channel ∈ s.sockets)
    (hfreed : (write (s.channel channel)).freed = true → channel ∈ s.sockets)
    (hconn : channel ∈ s.sockets → (write (s.channel channel)).connected = true)
    (hunconnected : s.accepting = .unconnected channel → (write (s.channel channel)).freed = false →
      (write (s.channel channel)).connected = false) : (s.modify channel write).Inv where
  owner := h.owner
  nodup := h.nodup
  alive k other hother :=
    ⟨(h.alive k other hother).1, forall_modify (P := fun other c => other ∈ (s.connections k).held → c.freed = false)
      (fun other hmem => (h.alive k other hmem).2) (halive k) other hother⟩
  table := h.table
  tableNodup := h.tableNodup
  served := h.served
  ready := forall_modify (P := fun other c => c.ready = true → other ∈ s.sockets) h.ready hready
  freed := forall_modify (P := fun other c => c.freed = true → other ∈ s.sockets) h.freed hfreed
  connected := forall_modify (P := fun other c => other ∈ s.sockets → c.connected = true) h.connected hconn
  fresh other hle := by
    have hne : other ≠ channel := Nat.ne_of_gt (Nat.lt_of_lt_of_le hlt hle)
    rw [modify_of_ne hne]
    exact h.fresh other hle
  found := h.found
  unconnected other hother :=
    ⟨(h.unconnected other hother).1,
      forall_modify (P := fun other c => s.accepting = .unconnected other → c.freed = false → c.connected = false)
        (fun other hother => (h.unconnected other hother).2) hunconnected other hother⟩
  signalled := h.signalled

end State

namespace State.Inv

variable {s : State}

theorem idle (h : s.Inv) : Inv { s with accepting := .idle } :=
  { h with found := by simp, unconnected := by simp, signalled := by simp }

theorem signalReady (h : s.Inv) : s.signalReady.Inv := by
  unfold State.signalReady
  split
  next channel hbound =>
    obtain ⟨hlt, hsocket⟩ := h.signalled channel hbound
    exact h.idle.modify (fun c => { c with ready := true }) hlt (fun k hmem => (h.alive k channel hmem).2)
      (fun _ => hsocket) (h.freed channel) (h.connected channel) (by simp)
  next => exact h

theorem count (h : s.Inv) {channel : ChannelId} (hlt : channel < s.next)
    (hconn : (s.channel channel).connected = true) :
    Inv { s with accepting := .bound channel, sockets := s.sockets ++ [channel] } := by
  have hmem {other : ChannelId} (hother : other ∈ s.sockets) : other ∈ s.sockets ++ [channel] :=
    mem_append_left _ hother
  refine { h with
    served := ?_, ready := ?_, freed := ?_, connected := ?_, found := by simp, unconnected := by simp, signalled := ?_ }
  · exact fun k other hother => (h.served k other hother).imp id hmem
  · exact fun other hready => hmem (h.ready other hready)
  · exact fun other hfreed => hmem (h.freed other hfreed)
  · intro other hother
    rcases mem_append.mp hother with hold | hnew
    · exact h.connected other hold
    · obtain rfl := mem_singleton.mp hnew
      exact hconn
  · intro other heq
    obtain rfl := Accepting.bound.inj heq
    exact ⟨hlt, mem_append_right _ (mem_singleton_self channel)⟩

theorem bindSocket (h : s.Inv) : s.bindSocket.Inv := by
  unfold State.bindSocket
  split
  next channel hun =>
    have hlt := (h.unconnected channel hun).1
    have hmodify := h.idle.modify (fun c => { c with connected := true }) hlt
      (fun k hmem => (h.alive k channel hmem).2) (h.ready channel) (h.freed channel) (fun _ => rfl) (by simp)
    refine hmodify.count hlt ?_
    rw [State.modify_self]
  next => exact h

theorem channelEndpointOpen (h : s.Inv) (k : ConnectionId) : (s.channelEndpointOpen k).Inv := by
  unfold State.channelEndpointOpen
  dsimp only
  split_ifs with hfree
  · have hbusy : (s.connections k).busy = none := by simp_all
    have hold : (s.connections k).held = (s.connections k).channels := by simp [Connection.held, hbusy]
    have hnew : s.next ∉ (s.connections k).channels := fun hmem =>
      Nat.lt_irrefl _ (h.alive k _ (hold ▸ hmem)).1
    have hidle (channel : ChannelId) : ¬ (s.connections k).Awaits channel := by simp [Connection.Awaits, hbusy]
    have hawaits (channel : ChannelId) :
        ({ s.connections k with busy := some (s.next, .waiting) } : Connection).Awaits channel ↔ channel = s.next := by
      simp [Connection.Awaits, eq_comm]
    have hheld : ({ s.connections k with busy := some (s.next, .waiting) } : Connection).held =
        s.next :: (s.connections k).channels := rfl
    refine h.put (s.next :: s.table) (Nat.le_succ s.next) ?_ ?_ ?_ ?_ ?_
    · intro channel hmem
      rcases mem_cons.mp hmem with rfl | hmem
      · exact .inr ⟨Nat.le_refl _, Nat.lt_succ_self _⟩
      · exact .inl (hold ▸ hmem)
    · rw [hheld]
      exact nodup_cons.mpr ⟨hnew, hold ▸ h.nodup k⟩
    · intro channel
      rw [mem_cons, h.mem_table_iff k, hawaits]
      simp [hidle]
    · refine nodup_cons.mpr ⟨fun hmem => ?_, h.tableNodup⟩
      obtain ⟨other, hother⟩ := (h.table s.next).mp hmem
      exact Nat.lt_irrefl _ (h.alive other _ hother.mem_held).1
    · intro channel hmem
      rw [hawaits]
      rcases mem_cons.mp hmem with rfl | hmem
      · exact .inl rfl
      · exact (h.served k channel (hold ▸ hmem)).elim (fun hawait => absurd hawait (hidle channel)) .inr
  · exact h

theorem waitReady (h : s.Inv) (k : ConnectionId) : (s.waitReady k).Inv := by
  unfold State.waitReady
  dsimp only
  split
  next channel hbusy =>
    split_ifs with hready
    · have hheld : ({ s.connections k with busy := some (channel, .accepted) } : Connection).held =
          (s.connections k).held := by simp [Connection.held, hbusy]
      have hdone (other : ChannelId) :
          ¬ ({ s.connections k with busy := some (channel, .accepted) } : Connection).Awaits other := by
        simp [Connection.Awaits]
      refine h.put (s.table.erase channel) (Nat.le_refl s.next) ?_ ?_ ?_ (h.tableNodup.erase channel) ?_
      · exact fun other hmem => .inl (hheld ▸ hmem)
      · rw [hheld]
        exact h.nodup k
      · intro other
        rw [h.tableNodup.mem_erase_iff, h.mem_table_iff k]
        simp only [hdone, false_or]
        constructor
        · rintro ⟨hne, hawaits | hawaits⟩
          · exact absurd (hawaits.eq_of_busy hbusy) hne
          · exact hawaits
        · rintro ⟨k', hk, hawaits⟩
          refine ⟨?_, .inr ⟨k', hk, hawaits⟩⟩
          rintro rfl
          exact hk (h.owner k' k other hawaits.mem_held (Connection.mem_held_of_busy hbusy))
      · intro other hmem
        right
        rcases h.served k other (hheld ▸ hmem) with hawaits | hserved
        · obtain rfl := hawaits.eq_of_busy hbusy
          exact h.ready other hready
        · exact hserved
    · exact h
  next => exact h

theorem drop (h : s.Inv) (hheld : connection.held.Sublist (s.connections k).held)
    (hbefore : ∀ channel, ¬ (s.connections k).Awaits channel) (hafter : ∀ channel, ¬ connection.Awaits channel) :
    (s.set k connection).Inv := by
  refine h.put s.table (Nat.le_refl s.next) ?_ (hheld.nodup (h.nodup k)) ?_ h.tableNodup ?_
  · exact fun channel hmem => .inl (hheld.subset hmem)
  · intro channel
    rw [h.mem_table_iff k]
    simp [hbefore, hafter]
  · intro channel hmem
    exact .inr ((h.served k channel (hheld.subset hmem)).resolve_left (hbefore channel))

theorem disconnect (h : s.Inv) (k : ConnectionId) : (s.disconnect k).Inv := by
  unfold State.disconnect
  split_ifs with hbusy
  · exact h.drop (nil_sublist _) (by simp [Connection.Awaits, hbusy])
      (by simp [Connection.Awaits, Connection.closed])
  · exact h

theorem free (h : s.Inv) {channel : ChannelId} (hlt : channel < s.next) (hsocket : channel ∈ s.sockets)
    (hheld : ∀ k, channel ∉ (s.connections k).held) : (s.free channel).Inv :=
  h.modify (fun c => { c with freed := true }) hlt (fun k hmem => absurd hmem (hheld k)) (h.ready channel)
    (fun _ => hsocket) (h.connected channel) (by simp)

theorem freeFailed (h : s.Inv) (k : ConnectionId) : (s.freeFailed k).Inv := by
  unfold State.freeFailed
  dsimp only
  split
  next channel hbusy =>
    have hmem := Connection.mem_held_of_busy hbusy
    have hidle (other : ChannelId) : ¬ (s.connections k).Awaits other := by simp [Connection.Awaits, hbusy]
    have hheld : (s.connections k).held = channel :: (s.connections k).channels := by
      simp [Connection.held, hbusy]
    have hdrop : (s.set k { s.connections k with busy := none }).Inv := by
      refine h.drop ?_ hidle (by simp [Connection.Awaits])
      rw [hheld]
      exact sublist_cons_self _ _
    refine hdrop.free (h.alive k channel hmem).1 ((h.served k channel hmem).resolve_left (hidle channel)) ?_
    intro other hother
    by_cases hk : other = k
    · subst hk
      have hnodup := h.nodup other
      rw [hheld] at hnodup
      refine (nodup_cons.mp hnodup).1 ?_
      simpa [State.set, Connection.held] using hother
    · rw [State.set_of_ne hk] at hother
      exact hk (h.owner other k channel hother hmem)
  next => exact h

theorem step (h : s.Inv) (e : Event) (hconf : s.Conforms e) : (s.step e).Inv := by
  cases e with
  | channelEndpointOpen k => exact h.channelEndpointOpen k
  | waitReady k => exact h.waitReady k
  | waitTimeOut k => exact h.waitTimeOut k
  | freeTimedOut k =>
    simp only [State.step, State.freeTimedOut]
    split
    next channel hbusy => exact absurd hbusy (hconf channel)
    next => exact h
  | virtualChannelOpen k handle => exact h.virtualChannelOpen k handle
  | addChannel k => exact h.addChannel k
  | removeChannel k channel => exact h.removeChannel k channel
  | freeFailed k => exact h.freeFailed k
  | disconnect k => exact h.disconnect k
  | lookup channel => exact h.lookup channel
  | checkConnected garbage => exact h.checkConnected garbage
  | bindSocket => exact h.bindSocket
  | signalReady => exact h.signalReady

end State.Inv

/-! ## What a step can do -/

inductive Effect (s : State) : Event → State → Prop
  | moves {e : Event} (k : ConnectionId) (connection : Connection) (next : ChannelId) (table : List ChannelId)
      (hdata : ∀ handle channel, connection.userData handle = some channel →
        (s.connections k).userData handle = some channel ∨ (s.connections k).busy = some (channel, .accepted)) :
      Effect s e { s.set k connection with next, table }
  | timedOut (k : ConnectionId) (channel : ChannelId) (hbusy : (s.connections k).busy = some (channel, .timedOut)) :
      Effect s (.freeTimedOut k) ((s.free channel).set k .closed)
  | failed (k : ConnectionId) (channel : ChannelId) (hbusy : (s.connections k).busy = some (channel, .failed)) :
      Effect s (.freeFailed k) ((s.free channel).set k { s.connections k with busy := none })
  | accepts {e : Event} (accepting : Accepting) : Effect s e { s with accepting }
  | binds (channel : ChannelId) (hun : s.accepting = .unconnected channel) :
      Effect s .bindSocket { s.modify channel fun c => { c with connected := true } with
        accepting := .bound channel
        sockets := s.sockets ++ [channel] }
  | signals {e : Event} (channel : ChannelId) :
      Effect s e { s.modify channel fun c => { c with ready := true } with accepting := .idle }

namespace Effect

variable {s t : State} {e : Event}

theorem same : Effect s e s := accepts s.accepting

theorem moves_of_userData {k : ConnectionId} {connection : Connection} {next : ChannelId} {table : List ChannelId}
    (h : connection.userData = (s.connections k).userData) : Effect s e { s.set k connection with next, table } :=
  moves k connection next table fun _ _ hdata => .inl (h ▸ hdata)

theorem of_step (s : State) (e : Event) : Effect s e (s.step e) := by
  cases e with
  | channelEndpointOpen k =>
    simp only [State.step, State.channelEndpointOpen]
    split_ifs
    · exact moves_of_userData rfl
    · exact same
  | waitReady k =>
    simp only [State.step, State.waitReady]
    split
    next channel _ =>
      split_ifs
      · exact moves_of_userData rfl
      · exact same
    next => exact same
  | waitTimeOut k =>
    simp only [State.step, State.waitTimeOut]
    split
    next channel _ =>
      split_ifs
      · exact same
      · exact moves_of_userData rfl
    next => exact same
  | freeTimedOut k =>
    simp only [State.step, State.freeTimedOut]
    split
    next channel hbusy => exact timedOut k channel hbusy
    next => exact same
  | virtualChannelOpen k handle =>
    simp only [State.step, State.virtualChannelOpen]
    split
    next channel hbusy =>
      refine moves k _ s.next s.table ?_
      intro other data hdata
      cases handle with
      | none => exact .inl hdata
      | some handle =>
        by_cases hhandle : other = handle
        · subst hhandle
          simp_all
        · left
          simpa [hhandle] using hdata
    next => exact same
  | addChannel k =>
    simp only [State.step, State.addChannel]
    split
    next channel _ => exact moves_of_userData rfl
    next => exact same
  | removeChannel k channel =>
    simp only [State.step, State.removeChannel]
    split_ifs
    · exact moves_of_userData rfl
    · exact same
  | freeFailed k =>
    simp only [State.step, State.freeFailed]
    split
    next channel hbusy => exact failed k channel hbusy
    next => exact same
  | disconnect k =>
    simp only [State.step, State.disconnect]
    split_ifs
    · exact moves k .closed s.next s.table (by simp [Connection.closed])
    · exact same
  | lookup channel =>
    simp only [State.step, State.lookup]
    split_ifs
    · exact accepts _
    · exact same
  | checkConnected garbage =>
    simp only [State.step, State.checkConnected]
    split
    next channel _ => exact accepts _
    next => exact same
  | bindSocket =>
    simp only [State.step, State.bindSocket]
    split
    next channel hun => exact binds channel hun
    next => exact same
  | signalReady =>
    simp only [State.step, State.signalReady]
    split
    next channel _ => exact signals channel
    next => exact same

theorem freed_of_free {channel other : ChannelId} (h : ((s.free channel).channel other).freed = true) :
    (s.channel other).freed = true ∨ other = channel := by
  by_cases hother : other = channel
  · exact .inr hother
  · rw [State.free, State.modify_of_ne hother] at h
    exact .inl h

theorem freed_of_modify {channel other : ChannelId} (write : Channel → Channel)
    (hwrite : ∀ c, (write c).freed = c.freed) (h : ((s.modify channel write).channel other).freed = true) :
    (s.channel other).freed = true :=
  State.forall_modify (P := fun other c => c.freed = true → (s.channel other).freed = true) (fun _ => id)
    (fun hfreed => hwrite _ ▸ hfreed) other h

theorem freed (h : Effect s e t) {channel : ChannelId} (hfreed : (t.channel channel).freed = true) :
    (s.channel channel).freed = true ∨
      ∃ k, e = .freeTimedOut k ∧ (s.connections k).busy = some (channel, .timedOut) ∨
        e = .freeFailed k ∧ (s.connections k).busy = some (channel, .failed) := by
  cases h with
  | moves | accepts => exact .inl hfreed
  | timedOut k channel hbusy =>
    rcases freed_of_free hfreed with hbefore | rfl
    · exact .inl hbefore
    · exact .inr ⟨k, .inl ⟨rfl, hbusy⟩⟩
  | failed k channel hbusy =>
    rcases freed_of_free hfreed with hbefore | rfl
    · exact .inl hbefore
    · exact .inr ⟨k, .inr ⟨rfl, hbusy⟩⟩
  | binds => exact .inl (freed_of_modify (fun c => { c with connected := true }) (fun _ => rfl) hfreed)
  | signals => exact .inl (freed_of_modify (fun c => { c with ready := true }) (fun _ => rfl) hfreed)

theorem sockets (h : Effect s e t) : t.sockets = s.sockets ∨
    ∃ channel, e = .bindSocket ∧ s.accepting = .unconnected channel ∧ t.sockets = s.sockets ++ [channel] := by
  cases h with
  | binds channel hun => exact .inr ⟨channel, rfl, hun, rfl⟩
  | _ => exact .inl rfl

theorem userData_set {k other : ConnectionId} {connection : Connection} {handle : Handle} {channel : ChannelId}
    (h : ((s.set k connection).connections other).userData handle = some channel) :
    (other = k ∧ connection.userData handle = some channel) ∨
      (s.connections other).userData handle = some channel := by
  by_cases hk : other = k
  · subst hk
    rw [State.set_self] at h
    exact .inl ⟨rfl, h⟩
  · rw [State.set_of_ne hk] at h
    exact .inr h

theorem userData (h : Effect s e t) {k : ConnectionId} {handle : Handle} {channel : ChannelId}
    (hdata : (t.connections k).userData handle = some channel) :
    (s.connections k).userData handle = some channel ∨ (s.connections k).busy = some (channel, .accepted) := by
  cases h with
  | moves k' connection next table hold =>
    rcases userData_set hdata with ⟨rfl, hnew⟩ | hbefore
    · exact hold handle channel hnew
    · exact .inl hbefore
  | timedOut k' freed hbusy =>
    rcases userData_set hdata with ⟨rfl, hnew⟩ | hbefore
    · cases hnew
    · exact .inl hbefore
  | failed k' freed hbusy =>
    rcases userData_set hdata with ⟨rfl, hnew⟩ | hbefore
    · exact .inl hnew
    · exact .inl hbefore
  | accepts | binds | signals => exact .inl hdata

end Effect

/-! ## One step -/

namespace State

variable {s : State} {e : Event}

def DataLive (s : State) : Prop :=
  ∀ k handle channel, (s.connections k).userData handle = some channel → (s.channel channel).freed = false

theorem Inv.safe_iff (h : s.Inv) : s.Safe ↔ s.DataLive ∧ s.sockets.Nodup := by
  constructor
  · intro hsafe
    exact ⟨fun k handle channel hdata => hsafe.alive channel (.inr (.inr ⟨k, handle, hdata⟩)), hsafe.bound⟩
  · intro hlive
    refine ⟨fun channel hreachable => ?_, hlive.2⟩
    rcases hreachable with htable | ⟨k, hlisted⟩ | ⟨k, handle, hdata⟩
    · obtain ⟨k, hawaits⟩ := (h.table channel).mp htable
      exact (h.alive k channel hawaits.mem_held).2
    · exact (h.alive k channel (mem_append_right _ hlisted)).2
    · exact hlive.1 k handle channel hdata

theorem DataLive.step (hlive : s.DataLive) (h : s.Inv) (hconf : s.Conforms e) : (s.step e).DataLive := by
  intro k handle channel hdata
  by_contra hnot
  rcases (Effect.of_step s e).freed (Bool.of_not_eq_false hnot) with hfreed | ⟨k', ⟨rfl, hbusy⟩ | ⟨rfl, hbusy⟩⟩
  · rcases (Effect.of_step s _).userData hdata with hbefore | hacc
    · rw [hlive k handle channel hbefore] at hfreed
      cases hfreed
    · rw [(h.alive k channel (Connection.mem_held_of_busy hacc)).2] at hfreed
      cases hfreed
  · exact hconf channel hbusy
  · rcases (Effect.of_step s _).userData hdata with hbefore | hacc
    · exact hconf channel hbusy k handle hbefore
    · -- one connection cannot be busy with the channel in two ways, and two cannot hold it
      obtain rfl := h.owner k k' channel (Connection.mem_held_of_busy hacc) (Connection.mem_held_of_busy hbusy)
      rw [hacc] at hbusy
      cases hbusy

theorem nodup_sockets_step (hnodup : s.sockets.Nodup) (h : s.Inv) (hconf : s.Conforms e) :
    (s.step e).sockets.Nodup := by
  rcases (Effect.of_step s e).sockets with hsame | ⟨channel, rfl, hun, hsockets⟩
  · rw [hsame]
    exact hnodup
  · rw [hsockets, (perm_append_singleton channel s.sockets).nodup_iff, nodup_cons]
    refine ⟨fun hmem => ?_, hnodup⟩
    have hconn := h.connected channel hmem
    rw [(h.unconnected channel hun).2 (hconf channel hun)] at hconn
    cases hconn

theorem freed_free_set (channel : ChannelId) (k : ConnectionId) (connection : Connection) :
    (((s.free channel).set k connection).channel channel).freed = true := by
  change ((s.free channel).channel channel).freed = true
  rw [State.free, modify_self]

theorem Inv.conforms_of_safe (h : s.Inv) (hsafe : (s.step e).Safe) : s.Conforms e := by
  cases e with
  | freeTimedOut k =>
    intro channel hbusy
    have hstep : s.step (.freeTimedOut k) = (s.free channel).set k .closed := by
      simp [State.step, State.freeTimedOut, hbusy]
    have htable : channel ∈ (s.step (.freeTimedOut k)).table := by
      rw [hstep]
      exact (h.table channel).mpr ⟨k, .inr hbusy⟩
    have halive := hsafe.alive channel (.inl htable)
    rw [hstep, freed_free_set] at halive
    cases halive
  | freeFailed k =>
    intro channel hbusy other handle hdata
    have hstep : s.step (.freeFailed k) = (s.free channel).set k { s.connections k with busy := none } := by
      simp [State.step, State.freeFailed, hbusy]
    have hafter : ((s.step (.freeFailed k)).connections other).userData handle = some channel := by
      rw [hstep]
      by_cases hk : other = k
      · subst hk
        rw [set_self]
        exact hdata
      · rw [set_of_ne hk]
        exact hdata
    have halive := hsafe.alive channel (.inr (.inr ⟨other, handle, hafter⟩))
    rw [hstep, freed_free_set] at halive
    cases halive
  | bindSocket =>
    intro channel hun
    by_contra hfreed
    have hmem := h.freed channel (Bool.of_not_eq_false hfreed)
    have hbound := hsafe.bound
    simp only [State.step, State.bindSocket, hun] at hbound
    exact (nodup_append.mp hbound).2.2 channel hmem channel (mem_singleton_self channel) rfl
  | _ => trivial

theorem Inv.safe_step_iff (h : s.Inv) (hsafe : s.Safe) : (s.step e).Safe ↔ s.Conforms e := by
  constructor
  · exact h.conforms_of_safe
  · intro hconf
    obtain ⟨hlive, hnodup⟩ := h.safe_iff.mp hsafe
    exact (h.step e hconf).safe_iff.mpr ⟨hlive.step h hconf, nodup_sockets_step hnodup h hconf⟩

end State

/-- Channels are safe all along an interleaving exactly if all its steps are conforming. -/
theorem channels_safe_iff (events : List Event) :
    (∀ j, ((events.take j).foldl State.step {}).Safe) ↔ Along State.step State.Conforms {} events := by
  have hfirst : State.Safe {} := State.Inv.init.safe_iff.mpr ⟨by simp [State.DataLive], nodup_nil⟩
  exact Along.always_iff_while State.Safe (fun s e h _ => h.step e) (fun s e h _ hsafe => h.safe_step_iff hsafe)
    State.Inv.init hfirst (Along.of_forall fun _ _ => trivial)

/--
A backend that does not connect in five seconds leaves a freed channel in the table. A channel whose socket fails is
freed as the user data of a virtual channel that is open. A channel that was found with its socket is freed before the
look at `connected`, and gets a second socket.
-/
theorem channels_unsafe :
    ¬ State.Safe ([.channelEndpointOpen 0, .waitTimeOut 0, .freeTimedOut 0].foldl State.step {}) ∧
    ¬ State.Safe ([.channelEndpointOpen 0, .lookup 0, .checkConnected false, .bindSocket, .signalReady,
      .waitReady 0, .virtualChannelOpen 0 (some 0), .addChannel 0, .removeChannel 0 0, .freeFailed 0].foldl
        State.step {}) ∧
    ¬ State.Safe ([.channelEndpointOpen 0, .lookup 0, .checkConnected false, .bindSocket, .signalReady,
      .lookup 0, .waitReady 0, .virtualChannelOpen 0 none, .addChannel 0, .removeChannel 0 0, .freeFailed 0,
      .checkConnected false, .bindSocket].foldl State.step {}) := by
  refine ⟨fun hsafe => ?_, fun hsafe => ?_, fun hsafe => ?_⟩
  · exact absurd (hsafe.alive 0 (.inl (by decide))) (by decide)
  · exact absurd (hsafe.alive 0 (.inr (.inr ⟨0, 0, by decide⟩))) (by decide)
  · exact absurd hsafe.bound (by decide)

end FreeRDS.Core.Channels
