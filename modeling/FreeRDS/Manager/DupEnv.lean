import Mathlib.Data.List.Basic

/-! # Copies of environment blocks

An environment block is a row of strings that ends with an empty one. `Session::dupEnv` looks for its end by the first
two characters of each string. A function that would read behind the bytes it is given has no result.
-/

namespace FreeRDS.Manager

open List

def strlen : List UInt8 → Option Nat
  | [] => none
  | byte :: bytes => if byte = 0 then some 0 else (strlen bytes).map (· + 1)

/-- The loop of `Session::dupEnv`, with the bytes from `penvb` on. The lengths are counted without a bound. -/
def envLength (length : Nat) (penvb : List UInt8) : Option Nat :=
  match penvb with
  | [] => none
  | [first] => if first = 0 then some length else none
  | first :: second :: rest =>
    if first = 0 ∨ second = 0 then some length
    else
      match strlen (first :: second :: rest) with
      | some count => envLength (length + (count + 1)) ((second :: rest).drop count)
      | none => none
termination_by penvb.length
decreasing_by grind

/-- The memory that is allocated, and the bytes that are copied to its start. -/
structure DupBlock where
  size : Nat
  bytes : List UInt8
  deriving DecidableEq, Repr

/-- `Session::dupEnv`, which gives `NULL` for `NULL`. -/
def dupEnv : Option (List UInt8) → Option (Option DupBlock)
  | none => some none
  | some orgBlock =>
    match envLength 0 orgBlock with
    | none => none
    | some length =>
      if length + 1 ≤ orgBlock.length then some (some ⟨length + 2, orgBlock.take (length + 1)⟩) else none

/-- `NAME=VALUE`, where the name is not empty. -/
def IsEntry (entry : List UInt8) : Prop :=
  ∃ name value, entry = name ++ 61 :: value ∧ name ≠ [] ∧ 0 ∉ entry

def terminated (entries : List (List UInt8)) : List UInt8 := entries.flatMap fun entry => entry ++ [0]

def blockOf (entries : List (List UInt8)) : List UInt8 := terminated entries ++ [0]

theorem strlen_append {entry : List UInt8} (h : 0 ∉ entry) (rest : List UInt8) :
    strlen (entry ++ 0 :: rest) = some entry.length := by
  induction entry with
  | nil => rfl
  | cons byte entry ih =>
    rw [mem_cons, not_or] at h
    rw [cons_append, strlen, if_neg (Ne.symm h.1), ih h.2]
    rfl

/-- Both characters that the loop looks at are there. -/
theorem IsEntry.eq_cons {entry : List UInt8} (h : IsEntry entry) :
    ∃ first second rest, entry = first :: second :: rest ∧ first ≠ 0 ∧ second ≠ 0 ∧ 0 ∉ entry := by
  obtain ⟨name, value, rfl, hname, hnul⟩ := h
  obtain ⟨first, name, rfl⟩ := exists_cons_of_ne_nil hname
  cases name with
  | nil => exact ⟨first, 61, value, rfl, by grind, by decide, hnul⟩
  | cons second name => exact ⟨first, second, name ++ 61 :: value, rfl, by grind, by grind, hnul⟩

theorem envLength_entry {entry : List UInt8} (h : IsEntry entry) (length : Nat) (rest : List UInt8) :
    envLength length (entry ++ 0 :: rest) = envLength (length + (entry.length + 1)) rest := by
  obtain ⟨first, second, tail, rfl, hfirst, hsecond, hnul⟩ := h.eq_cons
  have hlen := strlen_append hnul rest
  simp only [cons_append] at hlen ⊢
  rw [envLength, if_neg (by simp [hfirst, hsecond]), hlen]
  simp

theorem envLength_blockOf {entries : List (List UInt8)} (h : ∀ entry ∈ entries, IsEntry entry) (length : Nat) :
    envLength length (blockOf entries) = some (length + (terminated entries).length) := by
  induction entries generalizing length with
  | nil => simp [blockOf, terminated, envLength]
  | cons entry entries ih =>
    obtain ⟨hentry, hentries⟩ := forall_mem_cons.mp h
    have hblock : blockOf (entry :: entries) = entry ++ 0 :: blockOf entries := by simp [blockOf, terminated]
    rw [hblock, envLength_entry hentry, ih hentries]
    simp [terminated]
    omega

end FreeRDS.Manager
