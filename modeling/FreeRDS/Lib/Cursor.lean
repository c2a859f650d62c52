import FreeRDS.Lib.Framing
import FreeRDS.Lib.Layout

/-! # Reading at a position

A reader moves a position over a buffer and assigns what it finds to the members of a record. It sees where the buffer
ends only if it asks for what remains: behind the end there is memory too. On the way it is noted whether the reader
stores to the buffer, and whether it follows a pointer that was in the record before.
-/

namespace FreeRDS.Lib

open Wire Layout

structure Buffer where
  memory : Memory UInt8
  length : Nat
  position : Nat
  position_le : position ≤ length

namespace Buffer

def remaining (buffer : Buffer) : Nat := buffer.length - buffer.position

def number (buffer : Buffer) (offset width : Nat) : Nat :=
  ofBytes ((List.range width).map fun i => buffer.memory (buffer.position + offset + i))

end Buffer

structure Cursor (σ : Type) where
  memory : Memory UInt8
  length : Nat
  position : Nat
  target : σ
  wrote : Bool
  followed : Bool

namespace Cursor

variable {σ : Type}

def start (buffer : Buffer) (target : σ) : Cursor σ :=
  ⟨buffer.memory, buffer.length, buffer.position, target, false, false⟩

variable (c : Cursor σ)

def remaining : Nat := c.length - c.position

variable (count : Nat)

def ahead : List UInt8 := (List.range count).map fun i => c.memory (c.position + i)

/-! ## What readers do -/

def advance (c : Cursor σ) : Cursor σ := { c with position := c.position + count }

def fetch (slots : List (Slot σ)) (c : Cursor σ) : Cursor σ :=
  { c with
    target := assign slots (numbers (slots.map Slot.width) (c.ahead (size slots))) c.target
    position := c.position + size slots }

def update (f : σ → σ) (c : Cursor σ) : Cursor σ := { c with target := f c.target }

def follow (c : Cursor σ) : Cursor σ := { c with followed := c.followed || decide (0 < count) }

def store (data : List UInt8) (count : Nat) (c : Cursor σ) : Cursor σ :=
  { c with memory := c.memory.write c.position data, wrote := c.wrote || decide (0 < count) }

/-- The reader reports an error or stays in the buffer, stores nothing to it and follows no pointer it has not set. -/
def Safe (result : Int × Cursor σ) : Prop :=
  (result.1 < 0 ∨ result.2.position ≤ result.2.length) ∧ result.2.wrote = false ∧ result.2.followed = false

structure Inside (c : Cursor σ) : Prop where
  position_le : c.position ≤ c.length
  wrote : c.wrote = false
  followed : c.followed = false

theorem inside_start (buffer : Buffer) (target : σ) : Inside (start buffer target) := ⟨buffer.position_le, rfl, rfl⟩

namespace Inside

variable {c : Cursor σ}

theorem safe (h : Inside c) (status : Int) : Safe (status, c) := ⟨.inr h.position_le, h.wrote, h.followed⟩

theorem fetch (h : Inside c) (slots : List (Slot σ)) (hroom : size slots ≤ c.remaining) : Inside (c.fetch slots) := by
  have hle := h.position_le
  refine ⟨?_, h.wrote, h.followed⟩
  simp only [remaining, Cursor.fetch] at hroom ⊢
  omega

theorem advance (h : Inside c) {count : Nat} (hroom : count ≤ c.remaining) (f : σ → σ) :
    Inside ((c.update f).advance count) := by
  have hle := h.position_le
  refine ⟨?_, h.wrote, h.followed⟩
  simp only [remaining, Cursor.advance, update] at hroom ⊢
  omega

end Inside

/-! ## Bytes and members -/

@[simp] theorem ahead_length : (c.ahead count).length = count := by
  simp [ahead]

theorem ahead_drop_take {offset width count : Nat} (h : offset + width ≤ count) :
    ((c.ahead count).drop offset).take width = (c.advance offset).ahead width := by
  apply List.ext_getElem
  · simp
    omega
  · intro i hi hi'
    simp [ahead, advance, Nat.add_assoc]

end Cursor

end FreeRDS.Lib
