import FreeRDS.Backend.Reconnection
import FreeRDS.Fdsapi.Transport
import FreeRDS.Lib.Run

/-! # Reconnecting

`freerds_rpc_client_thread` closes a pipe that fails and opens another one for the same client. `InboundStream` keeps
what it holds of a message that is not complete, and the position behind it; what the new connection brings is taken
for the rest of that message.
-/

namespace FreeRDS.Fdsapi

open Lib Wire

/-- The turns of `freerds_rpc_client_thread`, with a connection and without one. -/
inductive ConnectionEvent
  | receive
  | reconnect (pieces : List (List UInt8))

namespace RpcClient

def step (s : RpcClient) : ConnectionEvent → RpcClient
  | .receive => s.turn
  | .reconnect pieces => s.reconnect pieces

/-- What `MessageReceived` is called with in `n` turns with a new connection. -/
def delivered (s : RpcClient) (pieces : List (List UInt8)) (n : Nat) : List Received :=
  ((s.reconnect pieces).turns n).received.drop s.received.length

/-- A new connection that brings messages, the last of which may be incomplete, delivers what it would deliver to a
client without a history. -/
def Isolated (s : RpcClient) : Prop :=
  ∀ (buffer : Memory UInt8) (payloads pieces : List (List UInt8)) (coming : List UInt8),
    (∀ payload ∈ payloads, Fits payload) → (∀ piece ∈ pieces, piece ≠ []) →
    pieces.flatten ++ coming = payloads.flatMap sendMessage → ∀ n, pieces.flatten.length ≤ n →
      s.delivered pieces n = ((new buffer pieces).turns n).received

variable {s : RpcClient}

theorem isolated_of_position (hclosed : s.connected = false) (hpos : s.position = 0) : s.Isolated := by
  intro buffer payloads pieces coming hfits hpcs hsent n hn
  have hreconnect : s.reconnect pieces = { s with pieces := pieces, connected := true } := by
    rw [reconnect, hclosed]
    rfl
  have hagain := (received_of_sent (s := { s with pieces := pieces, connected := true }) hfits hpcs hpos rfl
    hsent).2 n hn
  have hfresh := (received_of_sent (s := new buffer pieces) hfits hpcs rfl rfl hsent).2 n hn
  rw [delivered, hreconnect, hagain, hfresh]
  simp [new]

/-! ## What is left of an incomplete message -/

theorem reconnect_of_closed (h : s.connected = false) (pieces : List (List UInt8)) :
    s.reconnect pieces = { s with pieces := pieces, connected := true } := by
  rw [reconnect, h]
  rfl

theorem incomplete_turn (h : intake.Incomplete s) : intake.Incomplete s.turn := by
  cases hconn : s.connected with
  | false => rwa [turn_of_closed hconn]
  | true =>
    have hfail := h.gather
    rw [turn_of_connected hconn]
    cases hok : (intake.gather s).1 with
    | false => exact hfail hok
    | true =>
      rcases (intake.gather s).2.dispatch_cases with ⟨-, -, hdisp⟩ | ⟨hlt, hdisp⟩ <;> rw [if_pos rfl, hdisp]
      · exact .of_lt (.inl (by decide : 0 < headerLength))
      · exact .of_lt hlt

theorem incomplete_reconnect (h : intake.Incomplete s) (pieces : List (List UInt8)) :
    intake.Incomplete (s.reconnect pieces) := by
  cases hconn : s.connected with
  | false =>
    rw [reconnect_of_closed hconn]
    exact h
  | true =>
    rw [RpcClient.reconnect, if_pos hconn]
    exact h

variable (buffer : Memory UInt8)

theorem incomplete_run (pieces : List (List UInt8)) (events : List ConnectionEvent) :
    intake.Incomplete (events.foldl step (new buffer pieces)) := by
  refine Along.invariant (P := fun _ _ => True) (fun s event h _ => ?_)
    (.of_lt (.inl (by decide : 0 < headerLength))) (Along.of_forall fun _ _ => trivial)
  cases event with
  | receive => exact incomplete_turn h
  | reconnect pieces => exact incomplete_reconnect h pieces

/-! ## The rest of another message

A message without a payload is enough to tell that there was an incomplete one: its header is not read as such.
-/

theorem turn_of_pieces_eq_nil (h : intake.Incomplete s) (hnil : s.pieces = []) :
    s.turn.received = s.received ∧ s.turn.pieces = [] := by
  cases hconn : s.connected with
  | false => rw [turn_of_closed hconn]; exact ⟨rfl, hnil⟩
  | true =>
    have hread : ∀ size, (s.namedPipeRead size).1 = false ∧ (s.namedPipeRead size).2.pieces = [] := by
      intro size
      simp [namedPipeRead, hnil, Pieces.read]
    have hgather : ∃ size, intake.gather s = (false, (s.namedPipeRead size).2) := by
      by_cases hhdr : s.position < headerLength
      · have hfirst : intake.readHeader s = s.namedPipeRead (headerLength - s.position) := if_pos hhdr
        exact ⟨headerLength - s.position, by simp [Intake.gather, hfirst, hread]⟩
      · have hfirst : intake.readHeader s = (true, s) := if_neg hhdr
        have hsecond : intake.readBody s = s.namedPipeRead (s.left % 2 ^ 32) :=
          if_pos ⟨Nat.not_lt.mp hhdr, h.left_ne_zero (Nat.not_lt.mp hhdr)⟩
        exact ⟨s.left % 2 ^ 32, by simp [Intake.gather, hfirst, hsecond, Prod.ext_iff, hread]⟩
    obtain ⟨size, hgather⟩ := hgather
    rw [turn_of_connected hconn, hgather]
    exact ⟨rfl, (hread size).2⟩

theorem turns_of_pieces_eq_nil (h : intake.Incomplete s) (hnil : s.pieces = []) (n : Nat) :
    (s.turns n).received = s.received := by
  induction n generalizing s with
  | zero => rfl
  | succ n ih =>
    obtain ⟨hrcv, hnil'⟩ := turn_of_pieces_eq_nil h hnil
    exact (ih (incomplete_turn h) hnil').trans hrcv

theorem received_isPrefix_turn (s : RpcClient) : s.received <+: s.turn.received := by
  cases hconn : s.connected with
  | false => rw [turn_of_closed hconn]
  | true =>
    have hrcv := s.gather_received
    rw [turn_of_connected hconn]
    split
    · rcases (intake.gather s).2.dispatch_cases with ⟨-, -, hdisp⟩ | ⟨-, hdisp⟩ <;> rw [hdisp]
      · exact hrcv ▸ List.prefix_append _ _
      · exact hrcv ▸ List.prefix_rfl
    · exact hrcv ▸ List.prefix_rfl

theorem received_isPrefix_turns (s : RpcClient) (n : Nat) : s.received <+: (s.turns n).received := by
  induction n generalizing s with
  | zero => exact List.prefix_rfl
  | succ n ih => exact s.received_isPrefix_turn.trans (ih s.turn)

def empty : List UInt8 := [4, 0, 0, 0]

theorem message_announced_ne (h : s.buffer.contents headerLength ≠ empty) : s.message.announced ≠ 4 := by
  intro heq
  have htoNat : (UInt32.ofNat s.length).toNat = 4 := congrArg UInt32.toNat heq
  have hlt : s.length < 2 ^ 32 := Intake.length_lt (M := intake) s
  rw [UInt32.toNat_ofNat', Nat.mod_eq_of_lt hlt] at htoNat
  exact h (ofBytes_inj (Memory.contents_length _ _) htoNat)

theorem turn_empty (h : intake.Incomplete s) (hconn : s.connected = true) (hpos : s.position ≠ 0)
    (hpcs : s.pieces = [empty]) :
    (∃ received, s.turn.received = s.received ++ [received] ∧ received.announced ≠ 4) ∨
      s.turn.received = s.received ∧ s.turn.pieces = [] := by
  obtain ⟨hok, hne, hend⟩ := h.gather_header hpos hpcs rfl (by decide) rfl (by decide)
  have hrcv := s.gather_received
  rw [turn_of_connected hconn, if_pos hok]
  rcases (intake.gather s).2.dispatch_cases with ⟨-, -, hdisp⟩ | ⟨hlt, hdisp⟩ <;> rw [hdisp]
  · exact .inl ⟨_, congrArg (· ++ _) hrcv, message_announced_ne hne⟩
  · refine .inr ⟨hrcv, hend.resolve_left fun hdone => ?_⟩
    have hhdr : headerLength ≤ (intake.gather s).2.position := hdone.1
    have hlen : (intake.gather s).2.length ≤ (intake.gather s).2.position := hdone.2
    omega

theorem received_empty : ((new buffer [empty]).turns 4).received = [⟨4, []⟩] := by
  have hfits : ∀ payload ∈ [([] : List UInt8)], Fits payload := by simp [Fits, headerLength, capacity]
  have hsent : [empty].flatten ++ [] = [([] : List UInt8)].flatMap sendMessage := by decide
  have hpcs : ∀ piece ∈ [empty], piece ≠ [] := by decide
  exact (received_of_sent (s := new buffer [empty]) hfits hpcs rfl rfl hsent).2 4 (Nat.le_refl 4)

theorem position_of_isolated (h : intake.Incomplete s) (hclosed : s.connected = false) (hisolated : s.Isolated) :
    s.position = 0 := by
  by_contra hpos
  have hdelivered : s.delivered [empty] 4 = [⟨4, []⟩] := by
    rw [← received_empty s.buffer]
    exact hisolated s.buffer [[]] [empty] [] (by simp [Fits, headerLength, capacity]) (by decide) (by decide) 4
      (by decide)
  rw [delivered, reconnect_of_closed hclosed] at hdelivered
  have hagain : intake.Incomplete { s with pieces := [empty], connected := true } := h
  rcases turn_empty hagain rfl hpos rfl with ⟨received, hrcv, hne⟩ | ⟨hrcv, hnil⟩
  · obtain ⟨more, hmore⟩ := received_isPrefix_turns (.turn { s with pieces := [empty], connected := true }) 3
    rw [hrcv] at hmore
    have hfirst : (turns 4 { s with pieces := [empty], connected := true }).received = _ := hmore.symm
    rw [hfirst, List.append_assoc, List.drop_left, List.singleton_append] at hdelivered
    exact hne (congrArg Received.announced (List.cons.inj hdelivered).1)
  · have hlast := turns_of_pieces_eq_nil (incomplete_turn hagain) hnil 3
    rw [hrcv] at hlast
    have hfirst : (turns 4 { s with pieces := [empty], connected := true }).received = s.received := hlast
    rw [hfirst, List.drop_length] at hdelivered
    cases hdelivered

theorem isolated_iff (pieces : List (List UInt8)) (events : List ConnectionEvent)
    (hclosed : (events.foldl step (new buffer pieces)).connected = false) :
    (events.foldl step (new buffer pieces)).Isolated ↔ (events.foldl step (new buffer pieces)).position = 0 :=
  ⟨position_of_isolated (incomplete_run buffer pieces events) hclosed, isolated_of_position hclosed⟩

end RpcClient

open RpcClient

namespace Sample

/-- A client of the service that leaves within the header of a message. -/
def leaves : List Backend.ServiceEvent :=
  [.link (.arrive [22]), .link (.call [] Backend.Sample.common), .close]

end Sample

end FreeRDS.Fdsapi
