import FreeRDS.Backend.Delivery

/-! # Peers that are slow

The pipe of a service does not block, and a read that finds nothing fails. A call is made when there is something to
read, but it may issue two reads: if the first one completes the header, the second asks for the body. A peer whose
message has come as far as its header, and no further, is taken for one that has left.
-/

namespace FreeRDS.Backend

open Lib

theorem transportReceive_handed_of_fail {handle : Handler} {common : Common} {s : Receiver}
    (h : (transportReceive handle common s).1 = -1) : (transportReceive handle common s).2.handed = s.handed := by
  rw [transportReceive_eq] at h ⊢
  split at h
  · cases h
  · rename_i hfail
    rw [if_neg hfail]
    exact s.gather_handed

def Event.pieces : Event → List (List UInt8)
  | .arrive piece => [piece]
  | .call between _ => between

/-- The second read of the call finds something, if there is a second read. -/
def Link.Fed (s : Link) : Event → Prop
  | .arrive _ => True
  | .call between _ =>
    s.connected = true → s.receiver.arrived ≠ [] → ¬{ s.receiver with between := between }.Starved

instance (s : Link) : (event : Event) → Decidable (s.Fed event)
  | .arrive _ => inferInstanceAs (Decidable True)
  | .call _ _ => inferInstanceAs (Decidable (_ = true → _ ≠ [] → ¬_))

namespace Awaiting

variable {s : Link} {messages : List Message} {coming : List UInt8}

theorem step (handle : Handler) (event : Event) (h : Awaiting s.receiver messages (event.pieces.flatten ++ coming))
    (hconn : s.connected = true) (hpcs : ∀ piece ∈ event.pieces, piece ≠ []) :
    ((s.step handle event).connected = true ↔ s.Fed event) ∧
      ((s.step handle event).connected = true →
        ∃ messages', Awaiting (s.step handle event).receiver messages' coming) := by
  cases event with
  | arrive piece => exact ⟨iff_of_true hconn trivial, fun _ => ⟨messages, h.arrive hpcs⟩⟩
  | call between common =>
    by_cases harr : s.receiver.arrived = []
    · have hstep : s.step handle (.call between common) = s.arrive between :=
        Link.call_of_not_ready handle between common fun hready => hready.2 harr
      rw [hstep]
      exact ⟨iff_of_true hconn fun _ hsome => absurd harr hsome, fun _ => ⟨messages, h.arrive hpcs⟩⟩
    · have hstep := Link.call_of_ready handle between common hconn harr
      have hfed : s.Fed (.call between common) ↔ ¬{ s.receiver with between := between }.Starved := by
        simp [Link.Fed, hconn, harr]
      rw [Link.step, hstep, hfed]
      rcases h.transportReceive between hpcs harr handle common with
        ⟨hstarved, hstat⟩ | ⟨hnot, hstat, hprog⟩
      · simp [hstat, hstarved]
      · obtain ⟨messages', hawait, -⟩ := hprog.awaiting
        exact ⟨by simp [hstat, hnot], fun _ => ⟨messages', hawait⟩⟩

theorem connected_iff (handle : Handler) {events : List Event}
    (h : Awaiting s.receiver messages ((events.flatMap Event.pieces).flatten ++ coming)) (hconn : s.connected = true)
    (hpcs : ∀ event ∈ events, ∀ piece ∈ event.pieces, piece ≠ []) :
    (∀ j, ((events.take j).foldl (Link.step handle) s).connected = true) ↔
      Along (Link.step handle) Link.Fed s events := by
  induction events generalizing s messages with
  | nil => simp [Along, hconn]
  | cons event events ih =>
    rw [List.forall_mem_cons] at hpcs
    rw [List.flatMap_cons, List.flatten_append, List.append_assoc] at h
    obtain ⟨hfed, hnext⟩ := h.step handle event hconn hpcs.1
    rw [Along.always_cons fun s : Link => s.connected = true, Along, ← hfed]
    constructor
    · intro hall
      obtain ⟨messages', hawait⟩ := hnext (hall.2 0)
      exact ⟨hall.2 0, (ih hawait (hall.2 0) hpcs.2).mp hall.2⟩
    · intro hall
      obtain ⟨messages', hawait⟩ := hnext hall.1
      exact ⟨hconn, (ih hawait hall.1 hpcs.2).mpr hall.2⟩

end Awaiting

namespace Sample

def inTime : List Event :=
  [.arrive (windowDelete.header.take 4), .call [] common, .arrive (windowDelete.header.drop 4),
    .call [windowDelete.payload] common]

def late : List Event := [.arrive windowDelete.header, .call [] common, .arrive windowDelete.payload]

end Sample

end FreeRDS.Backend
