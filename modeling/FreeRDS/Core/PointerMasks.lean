import FreeRDS.Backend.Extent
import FreeRDS.Core.Pipeline

/-! # The masks of a pointer

A pointer is copied with as much of its masks as the module says that there is. The lengths that are passed to the client
with these are those of a pointer of 32 rows and columns.
-/

namespace FreeRDS.Core

open Lib Backend Layout

/-- `POINTER_COLOR_UPDATE`. -/
structure PointerColorUpdate where
  cacheIndex : UInt32
  xPos : UInt32
  yPos : UInt32
  width : UInt32
  height : UInt32
  lengthAndMask : UInt32
  lengthXorMask : UInt32
  xorMaskData : Pointer (List UInt8)
  andMaskData : Pointer (List UInt8)

inductive PointerCall
  | pointerColor (update : PointerColorUpdate)
  | pointerNew (xorBpp : UInt32) (update : PointerColorUpdate)

def PointerCall.update : PointerCall → PointerColorUpdate
  | pointerColor update | pointerNew _ update => update

def xorMaskLength (xorBpp : UInt32) : UInt32 := if xorBpp = 0 then 3072 else (xorBpp + 7) / 8 * 32 * 32

/-- The call of `freerds_set_pointer` that comes with the masks. -/
def setPointer (msg : SetPointer) : PointerCall :=
  let update : PointerColorUpdate :=
    { cacheIndex := 0
      xPos := msg.xPos
      yPos := msg.yPos
      width := 32
      height := 32
      lengthAndMask := 128
      lengthXorMask := xorMaskLength msg.xorBpp
      xorMaskData := msg.xorMaskData
      andMaskData := msg.andMaskData }
  if msg.xorBpp = 0 then .pointerColor update else .pointerNew msg.xorBpp update

/-- There are as many bytes behind both pointers as the lengths say. -/
def PointerCall.Bounded (call : PointerCall) : Prop :=
  (call.update.xorMaskData.take call.update.lengthXorMask.toNat).isSome = true ∧
    (call.update.andMaskData.take call.update.lengthAndMask.toNat).isSome = true

instance (call : PointerCall) : Decidable call.Bounded := inferInstanceAs (Decidable (_ ∧ _))

theorem bounded_setPointer_iff (msg : SetPointer) :
    (setPointer msg).Bounded ↔ (msg.xorMaskData.take (xorMaskLength msg.xorBpp).toNat).isSome = true ∧
      (msg.andMaskData.take 128).isSome = true := by
  unfold setPointer
  split_ifs <;> rfl

theorem take_duplicate {count : Nat} {bytes : List UInt8} (h : count ≤ bytes.length) (length : Nat) :
    (((Pointer.data (bytes.take count)).duplicateUnlessNull count).take length).isSome = true ↔ length ≤ count := by
  simp [Pointer.duplicateUnlessNull, Pointer.duplicate, Pointer.take, h]

theorem xorBpp_assigned (stream : List UInt8) (memory : SetPointer) :
    (SetPointer.record.assigned stream memory).xorBpp = .ofNat (number stream 4 2) := by
  rw [number, ← List.drop_drop (i := 2) (j := 2)]
  rfl

/-- What is passed with the masks of a pointer that was accepted is no more than there is, if and only if both masks came
with at least that many bytes. -/
theorem pointer_masks_bounded_iff {stream : List UInt8} {memory : SetPointer} {reading : Reading SetPointer}
    (h : readSetPointer stream memory = some reading) (hstatus : reading.status = 0) :
    (setPointer reading.body.copy).Bounded ↔
      (xorMaskLength (.ofNat (number stream 4 2))).toNat ≤ number stream 6 2 ∧ 128 ≤ number stream 8 2 := by
  by_cases hnums : 10 ≤ stream.length
  case neg =>
    rw [readSetPointer, require, if_pos (by omega)] at h
    cases h
    cases hstatus
  rw [readSetPointer, require_of_le hnums, SetPointer.record.readSlots_eq memory hnums] at h
  simp only [Option.bind_eq_bind, Option.bind_some, require] at h
  split_ifs at h with hxor hand
  · cases h
    cases hstatus
  · cases h
    cases hstatus
  · cases h
    rw [bounded_setPointer_iff, ← SetPointer.lengthXorMask_assigned memory, ← SetPointer.lengthAndMask_assigned memory,
      ← xorBpp_assigned stream memory]
    exact and_congr (take_duplicate (Nat.not_lt.mp hxor) _) (take_duplicate (Nat.not_lt.mp hand) _)

set_option maxRecDepth 8192 in
/-- A pointer of one bit with masks of the sizes that are passed. -/
theorem pointer_masks_bounded_iff_one_bit :
    let stream : List UInt8 := [0, 0, 0, 0, 1, 0, 0, 4, 128, 0] ++ List.replicate 1152 0
    ∃ reading, readSetPointer stream default = some reading ∧ (setPointer reading.body.copy).Bounded := by
  intro stream
  exact ⟨_, rfl, (@pointer_masks_bounded_iff stream default _ rfl rfl).mpr (by decide)⟩

/-- A pointer without masks is accepted. -/
theorem pointer_masks_unbounded :
    ∃ reading, readSetPointer (List.replicate 10 0) default = some reading ∧ reading.status = 0 ∧
      ¬(setPointer reading.body.copy).Bounded :=
  ⟨_, rfl, rfl, by decide⟩

end FreeRDS.Core
