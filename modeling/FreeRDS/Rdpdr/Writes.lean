import Mathlib.Algebra.Ring.Nat
import FreeRDS.Lib.Run

/-! # The size of a file on a redirected drive

`rdpdr_fuse_cb_write` passes a write on to the client, and its offset is not kept. The completion adds the length that the
client reports to the size in the inode, wherever the bytes were written.
-/

namespace FreeRDS.Rdpdr

open Lib

structure Write where
  off : UInt64
  length : UInt32
  deriving DecidableEq

/-- The `size` in the `RDPDR_INODE` of a file, and its writes that the client has not completed yet. -/
structure OpenFile where
  size : UInt64
  pending : List Write := []

namespace OpenFile

inductive Event
  | write (request : Write)
  /-- The client completes the pending write `k`, with success and the full length. -/
  | complete (k : Nat)
  | setattr (size : UInt64)

/-- `rdpdr_fuse_cb_write`, `rdpdr_fuse_on_drive_write_file_complete` and `rdpdr_fuse_cb_setattr` with
`FUSE_SET_ATTR_SIZE`. -/
def step (file : OpenFile) : Event → OpenFile
  | .write request => { file with pending := file.pending ++ [request] }
  | .complete k =>
    match file.pending[k]? with
    | none => file
    | some request => { size := file.size + request.length.toUInt64, pending := file.pending.eraseIdx k }
  | .setattr size => { file with size := size }

/-- What a completion is to leave. -/
def Tracks (file : OpenFile) : Event → Prop
  | .complete k => ∀ request ∈ file.pending[k]?,
      (file.step (.complete k)).size.toNat = max file.size.toNat (request.off.toNat + request.length.toNat)
  | _ => True

/-- A completed write starts at the end of the file, or it is an empty one inside it. The size does not overflow. -/
def Appends (file : OpenFile) : Event → Prop
  | .complete k => ∀ request ∈ file.pending[k]?,
      file.size.toNat + request.length.toNat < 2 ^ 64 ∧
        (request.off = file.size ∨ request.length = 0 ∧ request.off ≤ file.size)
  | _ => True

theorem tracks_iff_appends (file : OpenFile) (event : Event) : file.Tracks event ↔ file.Appends event := by
  cases event with
  | complete k =>
    refine forall_congr' fun request => forall_congr' fun hpending => ?_
    have hlen := request.length.toNat_lt
    have hsize := file.size.toNat_lt
    have hsum : (file.step (.complete k)).size.toNat = (file.size.toNat + request.length.toNat) % 2 ^ 64 := by
      simp [step, Option.mem_def.mp hpending]
    rw [hsum, ← UInt64.toNat_inj, ← UInt32.toNat_inj, UInt64.le_iff_toNat_le, UInt32.toNat_zero]
    omega
  | _ => rfl

/-- The size follows the writes of a run exactly if each write that is completed is one at the end of the file, as it is
when the completion comes. -/
theorem size_tracked_iff (file : OpenFile) (events : List Event) :
    Along step Tracks file events ↔ Along step Appends file events :=
  Along.iff_while (I := fun _ => True) (fun _ _ _ _ => trivial) (fun file event _ => file.tracks_iff_appends event) trivial

/-- The same byte is written twice, and counts twice. -/
theorem rewrite_grows :
    let events : List Event := [.write ⟨0, 1⟩, .complete 0, .write ⟨0, 1⟩, .complete 0]
    (events.foldl step ⟨0, []⟩).size = 2 ∧ ¬Along step Tracks ⟨0, []⟩ events := by
  simp [step, Along, Tracks]

end OpenFile

end FreeRDS.Rdpdr
