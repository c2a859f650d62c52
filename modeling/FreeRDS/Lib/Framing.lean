import Mathlib.Algebra.Ring.Nat
import Mathlib.Tactic.Common

/-! # Frames in a byte stream

A frame is a header of a fixed size and a payload whose size the header announces. Where a
stream of frames is cut is described by the position of the cut, which may fall inside a header.

The second half is the memory that such frames are read into, piece by piece.
-/

namespace FreeRDS.Lib

open List

variable {β : Type*}

structure FrameFormat (β : Type*) where
  headerSize : Nat
  headerSize_pos : 0 < headerSize
  payloadSize : List β → Nat

namespace FrameFormat

variable {format : FrameFormat β}

@[ext] structure Frame (format : FrameFormat β) where
  header : List β
  payload : List β
  header_length : header.length = format.headerSize
  payload_length : payload.length = format.payloadSize header

namespace Frame

variable (frame : format.Frame)

def bytes : List β := frame.header ++ frame.payload

def size : Nat := format.headerSize + frame.payload.length

@[simp] theorem bytes_length : frame.bytes.length = frame.size := by
  simp [bytes, size, frame.header_length]

theorem headerSize_le : format.headerSize ≤ frame.size := Nat.le_add_right _ _

theorem size_pos : 0 < frame.size :=
  Nat.lt_of_lt_of_le format.headerSize_pos frame.headerSize_le

theorem bytes_append_cancel {frame frame' : format.Frame} {rest rest' : List β}
    (h : frame.bytes ++ rest = frame'.bytes ++ rest') : frame = frame' ∧ rest = rest' := by
  unfold bytes at h
  rw [append_assoc, append_assoc] at h
  have hlen : frame.header.length = frame'.header.length :=
    frame.header_length.trans frame'.header_length.symm
  obtain ⟨hhdr, htail⟩ := append_inj h hlen
  have hsize : frame.payload.length = frame'.payload.length := by
    rw [frame.payload_length, frame'.payload_length, hhdr]
  obtain ⟨hpay, hrest⟩ := append_inj htail hsize
  exact ⟨Frame.ext hhdr hpay, hrest⟩

end Frame

def encode (frames : List format.Frame) : List β := frames.flatMap Frame.bytes

@[simp] theorem encode_nil : encode ([] : List format.Frame) = [] := rfl

@[simp] theorem encode_cons (frame : format.Frame) (frames : List format.Frame) :
    encode (frame :: frames) = frame.bytes ++ encode frames := rfl

@[simp] theorem encode_append (frames frames' : List format.Frame) :
    encode (frames ++ frames') = encode frames ++ encode frames' := flatMap_append

theorem encode_length (frames : List format.Frame) :
    (encode frames).length = (frames.map Frame.size).sum := by
  simp [encode]

theorem encode_append_cancel {frames frames' : List format.Frame} {rest rest' : List β}
    (h : encode frames' ++ rest' = encode frames ++ rest)
    (hle : (encode frames).length ≤ (encode frames').length) :
    ∃ more, frames' = frames ++ more ∧ encode more ++ rest' = rest := by
  induction frames generalizing frames' with
  | nil => exact ⟨frames', rfl, h⟩
  | cons frame frames ih =>
    cases frames' with
    | nil =>
      have hpos := frame.size_pos
      simp only [encode_cons, encode_nil, length_append, Frame.bytes_length, length_nil] at hle
      omega
    | cons frame' frames' =>
      rw [encode_cons, encode_cons, append_assoc, append_assoc] at h
      obtain ⟨rfl, htail⟩ := Frame.bytes_append_cancel h
      have hle' : (encode frames).length ≤ (encode frames').length := by
        simpa using hle
      obtain ⟨more, rfl, hrest⟩ := ih htail hle'
      exact ⟨more, rfl, hrest⟩

theorem headerSize_le_encode_length {frames : List format.Frame} (hframes : frames ≠ []) :
    format.headerSize ≤ (encode frames).length := by
  obtain ⟨frame, frames, rfl⟩ := exists_cons_of_ne_nil hframes
  have hle := frame.headerSize_le
  simp only [encode_cons, length_append, Frame.bytes_length]
  omega

theorem size_le_encode_length {frames : List format.Frame} {frame : format.Frame} {rest rest' : List β}
    (hframes : frames ≠ []) (h : encode frames ++ rest = frame.header ++ rest') :
    frame.size ≤ (encode frames).length := by
  obtain ⟨first, frames, rfl⟩ := exists_cons_of_ne_nil hframes
  rw [encode_cons, Frame.bytes, append_assoc, append_assoc] at h
  have hlen : first.header.length = frame.header.length :=
    first.header_length.trans frame.header_length.symm
  obtain ⟨hhdr, -⟩ := append_inj h hlen
  have hpay : first.payload.length = frame.payload.length := by
    rw [first.payload_length, frame.payload_length, hhdr]
  simp only [encode_cons, length_append, Frame.bytes_length, Frame.size, hpay]
  omega

/-! ## Positions in a stream -/

/-- Byte `n` is in a header, and not its first byte. -/
def InsideHeader : List format.Frame → Nat → Prop
  | [], _ => False
  | frame :: frames, n =>
    if frame.size ≤ n then InsideHeader frames (n - frame.size) else 0 < n ∧ n < format.headerSize

instance InsideHeader.decidable : (frames : List format.Frame) → (n : Nat) → Decidable (InsideHeader frames n)
  | [], _ => inferInstanceAs (Decidable False)
  | frame :: frames, n =>
    have := InsideHeader.decidable frames (n - frame.size)
    inferInstanceAs (Decidable
      (if frame.size ≤ n then InsideHeader frames (n - frame.size) else 0 < n ∧ n < format.headerSize))

variable {frame : format.Frame} {frames : List format.Frame} {n : Nat}

theorem insideHeader_of_lt (h : n < frame.size) :
    InsideHeader (frame :: frames) n ↔ 0 < n ∧ n < format.headerSize := by
  simp [InsideHeader, Nat.not_le.mpr h]

@[simp] theorem insideHeader_size_add :
    InsideHeader (frame :: frames) (frame.size + n) ↔ InsideHeader frames n := by
  simp [InsideHeader]

@[simp] theorem not_insideHeader_zero (frames : List format.Frame) : ¬InsideHeader frames 0 := by
  cases frames with
  | nil => exact id
  | cons frame frames =>
    rw [insideHeader_of_lt frame.size_pos]
    exact fun h => Nat.lt_irrefl 0 h.1

end FrameFormat

/-! ## Buffers -/

abbrev Memory (β : Type*) := Nat → β

namespace Memory

variable (memory : Memory β)

variable (offset : Nat)

def write (data : List β) : Memory β := fun i =>
  if offset ≤ i then (data[i - offset]?).getD (memory i) else memory i

@[simp] theorem write_nil : memory.write offset [] = memory := by
  funext i
  simp [write]

theorem write_append (data data' : List β) :
    (memory.write offset data).write (offset + data.length) data' = memory.write offset (data ++ data') := by
  funext i
  unfold write
  by_cases hfront : offset + data.length ≤ i
  · have hle : offset ≤ i := by omega
    have hpast : data.length ≤ i - offset := by omega
    rw [if_pos hfront, if_pos hle, if_pos hle, getElem?_append_right hpast, getElem?_eq_none hpast,
      Option.getD_none, Nat.sub_add_eq]
  · rw [if_neg hfront]
    split
    next hle => rw [getElem?_append_left (by omega)]
    next => rfl

/-- The first `n` bytes. -/
def contents (n : Nat) : List β := (List.range n).map memory

@[simp] theorem contents_length (n : Nat) : (memory.contents n).length = n := by
  simp [contents]

@[simp] theorem contents_zero : memory.contents 0 = [] := rfl

theorem contents_write (data : List β) :
    (memory.write offset data).contents (offset + data.length) = memory.contents offset ++ data := by
  unfold contents
  rw [range_add, map_append, map_map]
  congr 1
  · apply map_congr_left
    intro i hi
    have hlt : i < offset := mem_range.mp hi
    simp [write, Nat.not_le.mpr hlt]
  · apply ext_getElem
    · simp
    · intro i hi hi'
      simp [write, hi']

theorem contents_take {n m : Nat} (h : n ≤ m) : (memory.contents m).take n = memory.contents n := by
  simp [contents, ← map_take, Nat.min_eq_left h]

theorem contents_write_of_le {n offset : Nat} (h : n ≤ offset) (data : List β) :
    (memory.write offset data).contents n = memory.contents n := by
  apply map_congr_left
  intro i hi
  have hlt : i < n := mem_range.mp hi
  rw [write, if_neg (by omega)]

theorem contents_write_zero {data : List β} {n : Nat} (h : data.length ≤ n) :
    (memory.write 0 data).contents n = data ++ (memory.contents n).drop data.length := by
  have hfront : ((memory.write 0 data).contents n).take data.length = data := by
    simpa using (contents_take (memory.write 0 data) h).trans (by simpa using contents_write memory 0 data)
  have hback : ((memory.write 0 data).contents n).drop data.length = (memory.contents n).drop data.length := by
    simp only [contents, ← map_drop]
    apply map_congr_left
    intro i hi
    obtain ⟨j, hj, rfl⟩ := mem_iff_getElem.mp hi
    simp [write]
  rw [← take_append_drop data.length ((memory.write 0 data).contents n), hfront, hback]

end Memory

end FreeRDS.Lib
