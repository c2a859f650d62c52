import FreeRDS.Core.Channels

/-! # The handles that a connection waits for

The main loop of a connection collects its handles in an array of 128: five of its own, that of the
connector once the client is active, and one for each channel in the list of the connection. None of
the three functions that store into the array knows its size, and nothing bounds the list.
-/

namespace FreeRDS.Core.EventHandles

open Lib Channels

inductive EventHandle
  | clientEvent | channelEvent | globalTermEvent | localTermEvent | notificationEvent
  | serverQueue
  | channel (channel : ChannelId)
  deriving DecidableEq, Repr

/-- `HANDLE events[128]`. -/
def maxEvents : Nat := 128

structure Connector where
  /-- `connector->GetEventHandles` is set. -/
  getEventHandles : Bool
  /-- `connector->ServerQueue` is set. -/
  serverQueue : Bool
  deriving DecidableEq, Repr

/-! ## The handles of one turn

An array that is being filled is the list of what has been stored, `nCount` its length.
-/

/-- `freerds_client_get_event_handles`. -/
def clientGetEventHandles (connector : Connector) (events : List EventHandle) : List EventHandle :=
  if connector.serverQueue then events ++ [.serverQueue] else events

/-- `freerds_client_get_channel_event_handles`. -/
def clientGetChannelEventHandles (connection : Connection) (events : List EventHandle) : List EventHandle :=
  connection.channels.foldl (fun events channel => events ++ [.channel channel]) events

structure MainLoop where
  server : Channels.State := {}
  /-- `client->activated`. -/
  activated : Bool := false
  connector : Option Connector := none
  /-- Not in the source: the channels that were opened and those that were closed so far. -/
  opened : Nat := 0
  closed : Nat := 0

namespace MainLoop

def fixedHandles : List EventHandle :=
  [.clientEvent, .channelEvent, .globalTermEvent, .localTermEvent, .notificationEvent]

def asked (loop : MainLoop) : Option Connector :=
  if loop.activated then loop.connector.filter (·.getEventHandles) else none

def getEventHandles (k : ConnectionId) (loop : MainLoop) : List EventHandle :=
  let events := match loop.asked with
    | some connector => clientGetEventHandles connector fixedHandles
    | none => fixedHandles
  clientGetChannelEventHandles (loop.server.connections k) events

def AtTop (k : ConnectionId) (loop : MainLoop) : Prop :=
  (loop.server.connections k).busy = none ∧ (loop.server.connections k).ended = false

instance (k : ConnectionId) (loop : MainLoop) : Decidable (loop.AtTop k) := inferInstanceAs (Decidable (_ ∧ _))

end MainLoop

inductive Event
  | server (event : Channels.Event)
  | activate (activated : Bool)
  | connect (connector : Option Connector)
  | turn
  deriving DecidableEq, Repr

variable (k : ConnectionId)

def opens (s : Channels.State) : Channels.Event → Nat
  | .addChannel k' => if (s.connections k').busy.map Prod.snd = some .opened ∧ k' = k then 1 else 0
  | _ => 0

/-- The step takes a channel with a failed socket out of the list of the connection. -/
def closes (s : Channels.State) : Channels.Event → Nat
  | .removeChannel k' channel =>
    if (s.connections k').busy = none ∧ channel ∈ (s.connections k').channels ∧ k' = k then 1 else 0
  | _ => 0

namespace MainLoop

variable (loop : MainLoop)

def step : Event → MainLoop
  | .server event =>
    { loop with
      server := loop.server.step event
      opened := loop.opened + opens k loop.server event
      closed := loop.closed + closes k loop.server event }
  | .activate activated => { loop with activated := activated }
  | .connect connector => { loop with connector := connector }
  | .turn => loop

def StoresWithin (event : Event) : Prop :=
  event = .turn → loop.AtTop k → (loop.getEventHandles k).length ≤ maxEvents

/-- What a turn stores besides the channels: five handles, and that of a connector with a queue. -/
def reserved : Nat := if loop.asked.any (·.serverQueue) then 6 else 5

/-- At a turn, the channels opened and not closed since leave room for the rest. -/
def FewOpen (event : Event) : Prop :=
  event = .turn → loop.AtTop k → loop.opened + loop.reserved ≤ loop.closed + maxEvents

end MainLoop

/-! ## The count -/

theorem clientGetChannelEventHandles_length (connection : Connection) (events : List EventHandle) :
    (clientGetChannelEventHandles connection events).length = events.length + connection.channels.length := by
  unfold clientGetChannelEventHandles
  induction connection.channels generalizing events with
  | nil => rfl
  | cons channel channels ih =>
    rw [List.foldl_cons, ih, List.length_append, List.length_singleton, List.length_cons]
    omega

theorem MainLoop.getEventHandles_length (loop : MainLoop) :
    (loop.getEventHandles k).length = loop.reserved + (loop.server.connections k).channels.length := by
  unfold getEventHandles reserved
  rw [clientGetChannelEventHandles_length]
  cases loop.asked with
  | none => rfl
  | some connector =>
    simp only [clientGetEventHandles, Option.any_some]
    split <;> rfl

/-- A connection has ended, or its list has grown by what was opened and shrunk by what was closed. -/
def Counted (before after : ConnectionId → Connection) (opened closed : Nat) : Prop :=
  (after k).ended = true ∨ (after k).ended = (before k).ended ∧
    (after k).channels.length + closed = (before k).channels.length + opened

namespace Counted

variable {k : ConnectionId} {before : ConnectionId → Connection} {connection : Connection} {opened closed : Nat}

theorem same : Counted k before before 0 0 := .inr ⟨rfl, rfl⟩

theorem update (k' : ConnectionId)
    (hself : k' = k → connection.ended = true ∨ connection.ended = (before k').ended ∧
      connection.channels.length + closed = (before k').channels.length + opened)
    (hother : k' ≠ k → opened = 0 ∧ closed = 0) :
    Counted k before (Function.update before k' connection) opened closed := by
  unfold Counted
  by_cases hk : k' = k
  · subst hk
    rw [Function.update_self]
    exact hself rfl
  · rw [Function.update_of_ne (Ne.symm hk), (hother hk).1, (hother hk).2]
    exact .inr ⟨rfl, rfl⟩

theorem moves (k' : ConnectionId) (hended : connection.ended = (before k').ended)
    (hchannels : connection.channels = (before k').channels) :
    Counted k before (Function.update before k' connection) 0 0 :=
  update k' (fun _ => .inr ⟨hended, by rw [hchannels]⟩) fun _ => ⟨rfl, rfl⟩

theorem ends (k' : ConnectionId) : Counted k before (Function.update before k' .closed) 0 0 :=
  update k' (fun _ => .inl rfl) fun _ => ⟨rfl, rfl⟩

theorem of_step (k : ConnectionId) (s : Channels.State) (event : Channels.Event) :
    Counted k s.connections (s.step event).connections (opens k s event) (closes k s event) := by
  cases event with
  | channelEndpointOpen k' =>
    simp only [State.step, State.channelEndpointOpen]
    split_ifs
    · exact moves k' rfl rfl
    · exact same
  | waitReady k' =>
    simp only [State.step, State.waitReady]
    split
    · split_ifs
      · exact moves k' rfl rfl
      · exact same
    · exact same
  | waitTimeOut k' =>
    simp only [State.step, State.waitTimeOut]
    split
    · split_ifs
      · exact same
      · exact moves k' rfl rfl
    · exact same
  | freeTimedOut k' =>
    simp only [State.step, State.freeTimedOut]
    split
    · exact ends k'
    · exact same
  | virtualChannelOpen k' handle =>
    simp only [State.step, State.virtualChannelOpen]
    split
    · exact moves k' rfl rfl
    · exact same
  | addChannel k' =>
    simp only [State.step, State.addChannel]
    split
    next channel hbusy =>
      refine update k' (fun hk => .inr ⟨rfl, ?_⟩) fun hk => ⟨by simp [opens, hk], rfl⟩
      subst hk
      simp [opens, closes, hbusy]
    next hbusy =>
      have hopens : opens k s (.addChannel k') = 0 := by
        refine if_neg fun hopened => ?_
        obtain ⟨⟨channel, stage⟩, hsome, rfl⟩ := Option.map_eq_some_iff.mp hopened.1
        exact hbusy channel hsome
      rw [hopens]
      exact same
  | removeChannel k' channel =>
    simp only [State.step, State.removeChannel, closes]
    split_ifs with hlisted hclosed hclosed
    · refine update k' (fun hk => .inr ⟨rfl, ?_⟩) fun hk => absurd hclosed.2.2 hk
      have hlen := List.length_erase_of_mem hlisted.2
      have hpos := List.length_pos_of_mem hlisted.2
      simp only [opens]
      omega
    · exact update k' (fun hk => absurd ⟨hlisted.1, hlisted.2, hk⟩ hclosed) fun _ => ⟨rfl, rfl⟩
    · exact absurd ⟨hclosed.1, hclosed.2.1⟩ hlisted
    · exact same
  | freeFailed k' =>
    simp only [State.step, State.freeFailed]
    split
    · exact moves k' rfl rfl
    · exact same
  | disconnect k' =>
    simp only [State.step, State.disconnect]
    split_ifs
    · exact ends k'
    · exact same
  | lookup channel =>
    simp only [State.step, State.lookup]
    split_ifs <;> exact same
  | checkConnected garbage =>
    simp only [State.step, State.checkConnected]
    split <;> exact same
  | bindSocket =>
    simp only [State.step, State.bindSocket]
    split <;> exact same
  | signalReady =>
    simp only [State.step, State.signalReady]
    split <;> exact same

end Counted

namespace MainLoop

variable {k : ConnectionId} {loop : MainLoop}

/-- As long as the connection lasts, its list holds what was opened and not closed. -/
def Balanced (k : ConnectionId) (loop : MainLoop) : Prop :=
  (loop.server.connections k).ended = true ∨
    (loop.server.connections k).channels.length + loop.closed = loop.opened

theorem ended_step {s : Channels.State} (event : Channels.Event) (h : (s.connections k).ended = true) :
    ((s.step event).connections k).ended = true := by
  obtain hended | ⟨hended, -⟩ := Counted.of_step k s event
  · exact hended
  · exact hended.trans h

theorem Balanced.step (h : loop.Balanced k) (event : Event) : (loop.step k event).Balanced k := by
  cases event with
  | server event =>
    rcases h with hended | hcnt
    · exact .inl (ended_step event hended)
    · refine (Counted.of_step k loop.server event).imp_right fun ⟨_, hlen⟩ => ?_
      simp only [MainLoop.step]
      omega
  | activate activated | connect connector | turn => exact h

theorem storesWithin_iff (h : loop.Balanced k) (event : Event) : loop.StoresWithin k event ↔ loop.FewOpen k event := by
  refine imp_congr_right fun _ => imp_congr_right fun htop => ?_
  rw [getEventHandles_length]
  rcases h with hended | hcnt
  · rw [htop.2] at hended
    cases hended
  · omega

end MainLoop

/-- In every run of a connection, the handles stay within their array exactly if at each turn of the
main loop no more than 123 channels, or 122 with the queue of a connector, were opened and not closed. -/
theorem event_handles_within_iff (events : List Event) :
    Along (MainLoop.step k) (MainLoop.StoresWithin k) {} events ↔
      Along (MainLoop.step k) (MainLoop.FewOpen k) {} events :=
  Along.iff_while (I := MainLoop.Balanced k) (fun _ event h _ => h.step event)
    (fun _ event h => MainLoop.storesWithin_iff h event) (.inr rfl)

/-! ## Many channels -/

/-- The manager asks connection 0 for a channel, and its backend connects in time. -/
def openChannel (channel : ChannelId) : List Channels.Event :=
  [.channelEndpointOpen 0, .lookup channel, .checkConnected false, .bindSocket, .signalReady, .waitReady 0,
    .virtualChannelOpen 0 none, .addChannel 0]

def openChannels (n : Nat) : List Channels.Event := (List.range n).flatMap openChannel

/-- Connection 0 has `n` channels, and neither thread is busy. -/
structure HasOpened (n : Nat) (s : Channels.State) : Prop where
  next : s.next = n
  table : s.table = []
  accepting : s.accepting = .idle
  busy : (s.connections 0).busy = none
  ended : (s.connections 0).ended = false
  fresh : ∀ channel, n ≤ channel → s.channel channel = {}
  channels : (s.connections 0).channels.length = n

theorem HasOpened.openChannel {n : Nat} {s : Channels.State} (h : HasOpened n s) :
    HasOpened (n + 1) ((EventHandles.openChannel n).foldl State.step s) := by
  have hfresh := h.fresh n (Nat.le_refl n)
  have hopen : (EventHandles.openChannel n).foldl State.step s =
      { s with
        next := n + 1
        channel := Function.update s.channel n { connected := true, ready := true }
        connections := Function.update s.connections 0
          { s.connections 0 with channels := (s.connections 0).channels ++ [n] }
        sockets := s.sockets ++ [n] } := by
    simp [EventHandles.openChannel, State.step, State.channelEndpointOpen, State.lookup, State.checkConnected,
      State.bindSocket, State.signalReady, State.waitReady, State.virtualChannelOpen, State.addChannel, State.set,
      State.modify, h.next, h.table, h.accepting, h.busy, h.ended, hfresh]
  rw [hopen]
  refine ⟨rfl, h.table, h.accepting, ?_, ?_, fun channel hle => ?_, ?_⟩
  · simp [h.busy]
  · simp [h.ended]
  · have hne : channel ≠ n := by omega
    simpa [hne] using h.fresh channel (by omega)
  · simp [h.channels]

theorem hasOpened_openChannels (n : Nat) : HasOpened n ((openChannels n).foldl State.step {}) := by
  induction n with
  | zero => exact ⟨rfl, rfl, rfl, rfl, rfl, fun _ _ => rfl, rfl⟩
  | succ n ih =>
    have hsucc : openChannels (n + 1) = openChannels n ++ openChannel n := by
      simp [openChannels, List.range_succ]
    rw [hsucc, List.foldl_append]
    exact ih.openChannel

theorem server_foldl_step (loop : MainLoop) (events : List Channels.Event) :
    ((events.map Event.server).foldl (MainLoop.step k) loop).server = events.foldl State.step loop.server := by
  induction events generalizing loop with
  | nil => rfl
  | cons event events ih => exact ih _

theorem getEventHandles_openChannels (n : Nat) :
    let loop := ((openChannels n).map Event.server).foldl (MainLoop.step 0) {}
    loop.AtTop 0 ∧ n + 5 ≤ (loop.getEventHandles 0).length := by
  have h := hasOpened_openChannels n
  have hsrv := server_foldl_step 0 {} (openChannels n)
  dsimp only
  rw [MainLoop.AtTop, MainLoop.getEventHandles_length, hsrv, h.channels, MainLoop.reserved]
  refine ⟨⟨h.busy, h.ended⟩, ?_⟩
  split <;> omega

/-- With 124 channels the main loop stores 129 handles. -/
theorem event_handles_overflow :
    ¬Along (MainLoop.step 0) (MainLoop.StoresWithin 0) {} ((openChannels 124).map .server ++ [.turn]) := by
  intro h
  obtain ⟨htop, hcnt⟩ := getEventHandles_openChannels 124
  have hturn := ((Along.append_iff.mp h).2).1 rfl htop
  unfold maxEvents at hturn
  omega

end FreeRDS.Core.EventHandles
