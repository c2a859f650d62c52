import Mathlib.Data.List.Nodup
import Mathlib.Tactic.Common

/-! # Uses and frees

The log of what is done to the objects of a heap, the newest entry first. Nothing is to be done to an object behind
its free, neither a use nor another free.
-/

namespace FreeRDS.Lib

variable {α : Type*}

inductive Access (α : Type*)
  | use (p : α)
  | free (p : α)
  deriving DecidableEq, Repr

namespace Access

def target : Access α → α
  | use p => p
  | free p => p

def freed? : Access α → Option α
  | use _ => none
  | free p => some p

def freed (log : List (Access α)) : List α := log.filterMap freed?

@[simp] theorem freed_use (p : α) (log : List (Access α)) : freed (use p :: log) = freed log := rfl

@[simp] theorem freed_free (p : α) (log : List (Access α)) : freed (free p :: log) = p :: freed log := rfl

variable {p : α} {log : List (Access α)}

theorem target_of_mem_freed (h : p ∈ freed log) : ∃ access ∈ log, access.target = p := by
  obtain ⟨access, hmem, hfreed⟩ := List.mem_filterMap.mp h
  refine ⟨access, hmem, ?_⟩
  cases access with
  | use q => simp [freed?] at hfreed
  | free q => simpa [freed?, target] using hfreed

def Respected : List (Access α) → Prop
  | [] => True
  | access :: log => access.target ∉ freed log ∧ Respected log

@[simp] theorem respected_use :
    Respected (use p :: log) ↔ p ∉ freed log ∧ Respected log := .rfl

@[simp] theorem respected_free :
    Respected (free p :: log) ↔ p ∉ freed log ∧ Respected log := .rfl

theorem Respected.nodup_freed {log : List (Access α)} (h : Respected log) : (freed log).Nodup := by
  induction log with
  | nil => exact List.nodup_nil
  | cons access log ih =>
    cases access with
    | use p => exact ih h.2
    | free p => exact List.nodup_cons.mpr ⟨h.1, ih h.2⟩

end Access

end FreeRDS.Lib
