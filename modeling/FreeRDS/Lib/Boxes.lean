import Mathlib.Order.Bounds.Basic
import Mathlib.Data.Set.Prod
import Mathlib.Order.Interval.Set.Basic
import Mathlib.Tactic.Common

/-! # Boxes

A box is two half-open intervals. The hull of some boxes has the least and the greatest of their coordinates, those of a
box without points included.
-/

namespace FreeRDS.Lib

section

variable {α β : Type*} [LinearOrder β] {f : α → β} {first : α} {rest : List α} {n : β}

theorem isLeast_cons (h : IsLeast {m | ∃ a ∈ rest, f a = m} n) :
    IsLeast {m | ∃ a ∈ first :: rest, f a = m} (min (f first) n) := by
  have hset : {m | ∃ a ∈ first :: rest, f a = m} = insert (f first) {m | ∃ a ∈ rest, f a = m} := by
    ext m
    simp [eq_comm]
  rw [hset]
  exact h.insert _

theorem isGreatest_cons (h : IsGreatest {m | ∃ a ∈ rest, f a = m} n) :
    IsGreatest {m | ∃ a ∈ first :: rest, f a = m} (max (f first) n) := by
  have hset : {m | ∃ a ∈ first :: rest, f a = m} = insert (f first) {m | ∃ a ∈ rest, f a = m} := by
    ext m
    simp [eq_comm]
  rw [hset]
  exact h.insert _

end

structure Box (α : Type*) where
  left : α
  top : α
  right : α
  bottom : α
  deriving DecidableEq

namespace Box

variable {α : Type*} [LinearOrder α]

structure Proper (box : Box α) : Prop where
  horizontal : box.left ≤ box.right
  vertical : box.top ≤ box.bottom

instance (box : Box α) : Decidable box.Proper :=
  decidable_of_iff (box.left ≤ box.right ∧ box.top ≤ box.bottom)
    ⟨fun h => ⟨h.1, h.2⟩, fun h => ⟨h.horizontal, h.vertical⟩⟩

def region (box : Box α) : Set (α × α) := Set.Ico box.left box.right ×ˢ Set.Ico box.top box.bottom

/-- The coordinates of `box` are the outermost ones of `boxes`. -/
structure IsHull (boxes : List (Box α)) (box : Box α) : Prop where
  left : IsLeast {n | ∃ b ∈ boxes, b.left = n} box.left
  top : IsLeast {n | ∃ b ∈ boxes, b.top = n} box.top
  right : IsGreatest {n | ∃ b ∈ boxes, b.right = n} box.right
  bottom : IsGreatest {n | ∃ b ∈ boxes, b.bottom = n} box.bottom

def join (a b : Box α) : Box α :=
  ⟨min a.left b.left, min a.top b.top, max a.right b.right, max a.bottom b.bottom⟩

def hull : Box α → List (Box α) → Box α
  | first, [] => first
  | first, second :: rest => join first (hull second rest)

namespace IsHull

variable {boxes : List (Box α)} {box box' b : Box α}

variable (h : IsHull boxes box)

include h

theorem cons (first : Box α) : IsHull (first :: boxes) (join first box) :=
  ⟨isLeast_cons h.left, isLeast_cons h.top, isGreatest_cons h.right, isGreatest_cons h.bottom⟩

theorem unique (h' : IsHull boxes box') : box = box' := by
  cases box
  cases box'
  congr
  · exact h.left.unique h'.left
  · exact h.top.unique h'.top
  · exact h.right.unique h'.right
  · exact h.bottom.unique h'.bottom

theorem left_le (hb : b ∈ boxes) : box.left ≤ b.left := h.left.2 ⟨b, hb, rfl⟩

theorem top_le (hb : b ∈ boxes) : box.top ≤ b.top := h.top.2 ⟨b, hb, rfl⟩

theorem le_right (hb : b ∈ boxes) : b.right ≤ box.right := h.right.2 ⟨b, hb, rfl⟩

theorem le_bottom (hb : b ∈ boxes) : b.bottom ≤ box.bottom := h.bottom.2 ⟨b, hb, rfl⟩

theorem proper (hboxes : ∀ b ∈ boxes, b.Proper) : box.Proper := by
  constructor
  · obtain ⟨b, hb, -⟩ := h.left.1
    exact (h.left_le hb).trans ((hboxes b hb).horizontal.trans (h.le_right hb))
  · obtain ⟨b, hb, -⟩ := h.top.1
    exact (h.top_le hb).trans ((hboxes b hb).vertical.trans (h.le_bottom hb))

end IsHull

theorem isHull_hull (first : Box α) (rest : List (Box α)) : IsHull (first :: rest) (hull first rest) := by
  induction rest generalizing first with
  | nil => refine ⟨?_, ?_, ?_, ?_⟩ <;> simp [hull]
  | cons second rest ih => exact (ih second).cons first

end Box

end FreeRDS.Lib
