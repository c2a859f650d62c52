import Mathlib.Data.List.TakeWhile
import Mathlib.Tactic.Common

/-! # Values of C

A `BOOL` is an `int` that is zero or not. A string is what a `char*` that is not `NULL` points to, up to the byte that
ends it. Each comes with a function that picks one value for all that are taken for the same.
-/

namespace FreeRDS.Lib

/-! ## Truth values -/

def truth (boolValue : Int32) : Int32 := if boolValue ≠ 0 then 1 else 0

@[simp] theorem truth_truth (boolValue : Int32) : truth (truth boolValue) = truth boolValue := by
  unfold truth
  split <;> rfl

/-! ## Strings -/

structure CString where
  bytes : List UInt8
  zero_notMem : 0 ∉ bytes
  deriving DecidableEq

namespace CString

@[ext] theorem ext {a b : CString} (h : a.bytes = b.bytes) : a = b := by
  cases a
  cases b
  cases h
  rfl

/-- The string that starts where the bytes are, with a zero behind them. -/
def ofMemory (memory : List UInt8) : CString where
  bytes := memory.takeWhile (· ≠ 0)
  zero_notMem h := by simpa using List.mem_takeWhile_imp h

theorem ofMemory_bytes (s : CString) : ofMemory s.bytes = s := by
  apply ext
  apply List.takeWhile_eq_self_iff.mpr
  intro byte hbyte
  have hne : byte ≠ 0 := fun h => s.zero_notMem (h ▸ hbyte)
  simpa using hne

/-- The text a pointer stands for, where `NULL` stands for no text. -/
def text : Option CString → List UInt8
  | none => []
  | some s => s.bytes

@[simp] theorem text_none : text none = [] := rfl

@[simp] theorem text_some (s : CString) : text (some s) = s.bytes := rfl

/-- `NULL` for a string without a byte. -/
def ofText (memory : List UInt8) : Option CString := if memory = [] then none else some (ofMemory memory)

variable (s : Option CString)

/-- `NULL` in the place of the empty string. -/
def identify : Option CString := ofText (text s)

theorem text_ofText_text : text (ofText (text s)) = text s := by
  unfold ofText
  split
  · rename_i h
    rw [h, text_none]
  · cases s with
    | none => contradiction
    | some s => rw [text_some, text_some, ofMemory_bytes]

@[simp] theorem identify_identify : identify (identify s) = identify s := by
  rw [identify, identify, text_ofText_text]

end CString

end FreeRDS.Lib
