import FreeRDS.Core.Connector
import FreeRDS.Core.Damage

/-! # The balance of the copies

Every copy of a message should be in one place: in the list, in the queue, or among those that have been freed. A copy
that is only read for its rectangle is in none of these once the list has been packed.
-/

namespace FreeRDS.Core

open Lib Backend List

namespace Connector

variable {connector next last : Connector}

def holders (connector : Connector) (address : Nat) : Nat :=
  (connector.list.map Copy.address).count address + (connector.queue.map Copy.address).count address +
    connector.freed.count address

def Balanced (connector : Connector) : Prop := ∀ address < connector.copies, connector.holders address = 1

def Numbered (connector : Connector) : Prop := ∀ address, connector.copies ≤ address → connector.holders address = 0

theorem holders_free (connector : Connector) (freed address : Nat) :
    (connector.free freed).holders address = connector.holders address + if freed == address then 1 else 0 := by
  simp only [holders, free, count_append, count_singleton]
  omega

theorem holders_of_queue {copy : Copy} {queue : List Copy} (h : connector.queue = copy :: queue) (address : Nat) :
    connector.holders address =
      { connector with queue }.holders address + if copy.address == address then 1 else 0 := by
  simp only [holders, h, map_cons, count_cons]
  omega

/-! ## New copies -/

/-- Some copies were made, each is in one place, and nothing else has changed. -/
structure Grows (connector next : Connector) : Prop where
  copies : connector.copies ≤ next.copies
  holders : ∀ address, next.holders address =
    connector.holders address + if connector.copies ≤ address ∧ address < next.copies then 1 else 0

namespace Grows

theorem of_eq (hcopies : next.copies = connector.copies) (hholders : next.holders = connector.holders) :
    Grows connector next where
  copies := hcopies.ge
  holders := by
    intro address
    rw [hholders, if_neg (by omega), Nat.add_zero]

theorem trans (h : Grows connector next) (h' : Grows next last) : Grows connector last where
  copies := h.copies.trans h'.copies
  holders := by
    intro address
    have hle := h.copies
    have hle' := h'.copies
    rw [h'.holders, h.holders]
    split <;> split <;> split <;> omega

theorem one (hcopies : next.copies = connector.copies + 1)
    (hholders : ∀ address, next.holders address =
      connector.holders address + if address = connector.copies then 1 else 0) : Grows connector next where
  copies := by omega
  holders := by
    intro address
    rw [hholders]
    congr 1
    exact if_congr (by omega) rfl rfl

theorem post (connector : Connector) (message : AnyMessage) : Grows connector (connector.post message) := by
  apply one rfl
  intro address
  simp only [Connector.holders, Connector.post, map_append, count_append, map_cons, map_nil,
    count_singleton, beq_iff_eq, @eq_comm _ connector.copies]
  omega

theorem enqueue (connector : Connector) (message : AnyMessage) : Grows connector (connector.enqueue message) := by
  unfold Connector.enqueue
  split
  · apply one rfl
    intro address
    simp only [Connector.holders, map_append, count_append, map_cons, map_nil,
      count_singleton, beq_iff_eq, @eq_comm _ connector.copies]
    omega
  · exact of_eq rfl rfl

theorem foldl_post (connector : Connector) (messages : List AnyMessage) :
    Grows connector (messages.foldl Connector.post connector) := by
  induction messages generalizing connector with
  | nil => exact of_eq rfl rfl
  | cons message messages ih => exact (post connector message).trans (ih _)

theorem handle (mapped : Bool) (connector : Connector) (message : AnyMessage) :
    Grows connector (connector.handle mapped message) := by
  unfold Connector.handle
  split
  · split
    · split
      · refine trans ?_ (post _ _)
        exact of_eq rfl rfl
      · exact of_eq rfl rfl
    · split <;> exact of_eq rfl rfl
  all_goals exact of_eq rfl rfl

theorem process (mapped : Bool) (connector : Connector) : Grows connector (connector.process mapped) := by
  unfold Connector.process
  split
  next => exact of_eq rfl rfl
  next copy queue hqueue =>
    have hhandle := handle mapped { connector with queue } copy.message
    refine ⟨hhandle.copies, fun address => ?_⟩
    rw [holders_free, hhandle.holders, holders_of_queue hqueue]
    exact Nat.add_right_comm _ _ _

theorem numbered (h : Grows connector next) (hconnector : Numbered connector) : Numbered next := by
  intro address haddr
  have hle := h.copies
  rw [h.holders, hconnector address (by omega), if_neg (by omega)]

theorem balanced_iff (h : Grows connector next) (hconnector : Numbered connector) :
    Balanced next ↔ Balanced connector := by
  have hle := h.copies
  constructor
  · intro hnext address haddr
    have hone := hnext address (by omega)
    rwa [h.holders, if_neg (by omega)] at hone
  · intro hbal address haddr
    rw [h.holders]
    by_cases hnew : connector.copies ≤ address
    · rw [hconnector address hnew, if_pos ⟨hnew, haddr⟩]
    · rw [hbal address (by omega), if_neg (by omega)]

end Grows

/-! ## Packing -/

/-- What is left when the list has been cleared, before a rectangle is posted. -/
def cleared (connector : Connector) : Connector :=
  { connector with
    list := []
    queue := connector.queue ++ connector.kept }

theorem count_kept_add_dropped (list : List Copy) (address : Nat) :
    ((list.filter fun copy => !copy.message.flagged).map Copy.address).count address +
      ((list.filter fun copy => copy.message.flagged).map Copy.address).count address =
        (list.map Copy.address).count address := by
  induction list with
  | nil => rfl
  | cons copy list ih =>
    cases hflag : copy.message.flagged with
    | true =>
      simp only [filter_cons, hflag, Bool.not_true, Bool.false_eq_true, if_false, if_true, map_cons,
        count_cons, ← ih]
      omega
    | false =>
      simp only [filter_cons, hflag, Bool.not_false, Bool.false_eq_true, if_false, if_true, map_cons,
        count_cons, ← ih]
      omega

theorem holders_cleared (connector : Connector) (address : Nat) :
    connector.cleared.holders address + (connector.dropped.map Copy.address).count address =
      connector.holders address := by
  have hlist := count_kept_add_dropped connector.list address
  simp only [holders, cleared, kept, dropped, map_append, count_append, map_nil, count_nil]
  omega

theorem Numbered.cleared (h : Numbered connector) : Numbered connector.cleared := by
  intro address haddr
  have hholders := holders_cleared connector address
  rw [h address haddr] at hholders
  omega

theorem Balanced.cleared_iff (h : Balanced connector) (hnumbered : Numbered connector) :
    Balanced connector.cleared ↔ connector.dropped = [] := by
  constructor
  · intro hcleared
    apply eq_nil_iff_forall_not_mem.mpr
    intro copy hcopy
    have hcnt : 0 < (connector.dropped.map Copy.address).count copy.address :=
      count_pos_iff.mpr (mem_map_of_mem hcopy)
    have hholders := holders_cleared connector copy.address
    have hlt : copy.address < connector.copies := by
      by_contra hge
      have hnone := hnumbered copy.address (by omega)
      omega
    have hone := hcleared copy.address hlt
    have hone' := h copy.address hlt
    omega
  · intro hnone address haddr
    have hholders := holders_cleared connector address
    rw [hnone, map_nil, count_nil, Nat.add_zero] at hholders
    rw [hholders]
    exact h address haddr

variable (library : RegionLibrary)

theorem grows_pack (connector : Connector) :
    Grows connector.cleared (connector.pack library) := .foldl_post _ _

def Keeps (connector : Connector) : Event → Prop
  | .pack => ∀ copy ∈ connector.list, copy.message.flagged = false
  | _ => True

theorem dropped_eq_nil_iff : connector.dropped = [] ↔ ∀ copy ∈ connector.list, copy.message.flagged = false := by
  simp [dropped]

theorem Numbered.step (h : Numbered connector) (event : Event) :
    Numbered (connector.step library event) := by
  cases event with
  | enqueue message => exact (Grows.enqueue connector message).numbered h
  | pack => exact (grows_pack library connector).numbered h.cleared
  | process mapped => exact (Grows.process mapped connector).numbered h

theorem Balanced.step_iff (hnumbered : Numbered connector) (h : Balanced connector)
    (event : Event) : Balanced (connector.step library event) ↔ Keeps connector event := by
  cases event with
  | enqueue message => exact iff_of_true (((Grows.enqueue connector message).balanced_iff hnumbered).mpr h) trivial
  | pack =>
    show Balanced (connector.pack library) ↔ ∀ copy ∈ connector.list, copy.message.flagged = false
    rw [(grows_pack library connector).balanced_iff hnumbered.cleared, h.cleared_iff hnumbered, dropped_eq_nil_iff]
  | process mapped => exact iff_of_true (((Grows.process mapped connector).balanced_iff hnumbered).mpr h) trivial

/-- The copies are in balance throughout a run exactly when the list has no copy with a rectangle whenever it is packed. -/
theorem copies_balanced_iff (desktop : Desktop) (events : List Event) :
    (∀ j, Balanced ((events.take j).foldl (step library) (init desktop))) ↔
      Along (step library) Keeps (init desktop) events := by
  apply Along.always_iff Balanced
  · exact fun connector event (h : Numbered connector) => h.step library event
  · exact fun connector event hnumbered h => h.step_iff library hnumbered event
  · exact fun address _ => rfl
  · exact fun address haddr => absurd haddr (Nat.not_lt_zero _)

/-- A copy with a rectangle is nowhere once the list has been packed. -/
theorem blt_leaked :
    ¬Balanced ([Event.enqueue (Sample.blt ⟨10, 20, 30, 40⟩), .pack].foldl (step .strict) (init ⟨1024, 768⟩)) := by
  intro h
  exact absurd (h 0 (by decide)) (by decide)

end Connector

end FreeRDS.Core
