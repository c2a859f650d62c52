import Mathlib.Tactic.Common

/-! # Objects behind shared pointers

A heap hands out addresses in order and never takes one back, so an object that
was dropped from every container keeps its last value for whoever still holds a
pointer to it.
-/

namespace FreeRDS.Lib

abbrev Ptr := Nat

structure Heap (α : Type) where
  next : Ptr
  cell : Ptr → α

namespace Heap

variable {α : Type}

def empty (value : α) : Heap α := ⟨0, fun _ => value⟩

variable (heap : Heap α) (value : α)

def alloc : Heap α :=
  ⟨heap.next + 1, fun p => if p = heap.next then value else heap.cell p⟩

def modify (heap : Heap α) (p : Ptr) (f : α → α) : Heap α :=
  ⟨heap.next, fun q => if q = p then f (heap.cell q) else heap.cell q⟩

@[simp] theorem alloc_next : (heap.alloc value).next = heap.next + 1 := rfl

@[simp] theorem alloc_cell_self :
    (heap.alloc value).cell heap.next = value := by
  simp [alloc]

theorem alloc_cell_of_lt {p : Ptr} (h : p < heap.next) :
    (heap.alloc value).cell p = heap.cell p := by
  simp [alloc, Nat.ne_of_lt h]

theorem modify_cell (heap : Heap α) (p q : Ptr) (f : α → α) :
    (heap.modify p f).cell q = if q = p then f (heap.cell q) else heap.cell q := rfl

end Heap

end FreeRDS.Lib
