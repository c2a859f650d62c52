import FreeRDS.Lib.Framing

/-! # Bytes that arrive in pieces

A pipe hands over the bytes of a stream in pieces, and one read returns bytes of one piece. A read
that insists on a number of bytes fails if a piece ends within them.
-/

namespace FreeRDS.Lib

open List

variable {β : Type*}

namespace Pieces

/-- One read of at most `size` bytes: what it returns, and the pieces that are left. -/
def read (size : Nat) : List (List β) → List β × List (List β)
  | [] => ([], [])
  | piece :: pieces =>
    if size < piece.length then (piece.take size, piece.drop size :: pieces) else (piece, pieces)

/-- A piece ends behind the first `n` bytes. -/
def Cut (pieces : List (List β)) (n : Nat) : Prop := ∃ k, (pieces.take k).flatten.length = n

theorem cut_zero (pieces : List (List β)) : Cut pieces 0 := ⟨0, rfl⟩

variable {piece : List β} {pieces : List (List β)} {n size : Nat}

theorem cut_cons : Cut (piece :: pieces) n ↔ n = 0 ∨ ∃ m, Cut pieces m ∧ n = piece.length + m := by
  constructor
  · intro h
    obtain ⟨k, hk⟩ := h
    cases k with
    | zero => exact .inl hk.symm
    | succ k => exact .inr ⟨_, ⟨k, rfl⟩, by simpa using hk.symm⟩
  · intro h
    rcases h with rfl | ⟨m, ⟨k, hk⟩, rfl⟩
    · exact cut_zero _
    · exact ⟨k + 1, by simp [hk]⟩

theorem cut_read (hsize : size ≤ piece.length) (hn : 0 < n) :
    Cut (read size (piece :: pieces)).2 n ↔ Cut (piece :: pieces) (size + n) := by
  by_cases hlt : size < piece.length
  · simp only [read, if_pos hlt, cut_cons, length_drop]
    constructor
    · intro h
      rcases h with rfl | ⟨m, hm, rfl⟩
      · omega
      · exact .inr ⟨m, hm, by omega⟩
    · intro h
      rcases h with h | ⟨m, hm, h⟩
      · omega
      · exact .inr ⟨m, hm, by omega⟩
  · have hsize' : size = piece.length := by omega
    simp only [read, if_neg hlt, cut_cons]
    constructor
    · intro h
      exact .inr ⟨n, h, by omega⟩
    · intro h
      rcases h with h | ⟨m, hm, h⟩
      · omega
      · have hm' : m = n := by omega
        exact hm' ▸ hm

theorem le_length_of_read (h : size ≤ (read size (piece :: pieces)).1.length) : size ≤ piece.length := by
  by_contra hlt
  simp only [read] at h
  split at h <;> simp at h <;> omega

theorem read_fst : (read size (piece :: pieces)).1 = piece.take size := by
  simp only [read]
  split
  next => rfl
  next hlt => exact (take_of_length_le (Nat.not_lt.mp hlt)).symm

theorem read_snd_flatten :
    (read size (piece :: pieces)).2.flatten = piece.drop size ++ pieces.flatten := by
  simp only [read]
  split
  next => rfl
  next hlt => simp [drop_of_length_le (Nat.not_lt.mp hlt)]

theorem read_append (size : Nat) (pieces : List (List β)) :
    (read size pieces).1 ++ (read size pieces).2.flatten = pieces.flatten := by
  cases pieces with
  | nil => rfl
  | cons piece pieces => rw [read_fst, read_snd_flatten, ← append_assoc, take_append_drop, flatten_cons]

theorem read_length_le (size : Nat) (pieces : List (List β)) : (read size pieces).1.length ≤ size := by
  cases pieces with
  | nil => exact Nat.zero_le size
  | cons piece pieces =>
    rw [read_fst, length_take]
    exact Nat.min_le_left _ _

theorem read_fst_ne_nil (hsize : 0 < size) (hne : pieces ≠ []) (h : ∀ piece ∈ pieces, piece ≠ []) :
    (read size pieces).1 ≠ [] := by
  cases pieces with
  | nil => exact absurd rfl hne
  | cons piece pieces =>
    have hpiece : piece ≠ [] := h piece mem_cons_self
    have hsize' : size ≠ 0 := by omega
    simp [read_fst, hpiece, hsize']

theorem eq_nil_of_flatten (hpcs : ∀ piece ∈ pieces, piece ≠ []) (h : pieces.flatten = []) : pieces = [] := by
  apply eq_nil_iff_forall_not_mem.mpr
  intro piece hpiece
  exact hpcs piece hpiece (flatten_eq_nil_iff.mp h piece hpiece)

theorem read_snd_ne_nil (h : ∀ piece ∈ pieces, piece ≠ []) : ∀ piece ∈ (read size pieces).2, piece ≠ [] := by
  cases pieces with
  | nil => simp [read]
  | cons first pieces =>
    rw [forall_mem_cons] at h
    simp only [read]
    split
    next hlt =>
      have hdrop : first.drop size ≠ [] := by simpa using hlt
      exact forall_mem_cons.mpr ⟨hdrop, h.2⟩
    next => exact h.2

theorem read_whole_iff {part rest : List β} (hpart : part ≠ []) (hpcs : ∀ piece ∈ pieces, piece ≠ [])
    (h : pieces.flatten = part ++ rest) :
    part.length ≤ (read part.length pieces).1.length ↔ ∀ n, Cut pieces n → ¬(0 < n ∧ n < part.length) := by
  have hpos : 0 < part.length := length_pos_iff.mpr hpart
  cases pieces with
  | nil => simp_all
  | cons piece pieces =>
    have hpiece : 0 < piece.length := length_pos_iff.mpr (hpcs piece mem_cons_self)
    constructor
    · intro hle n hn hin
      have hle' := le_length_of_read hle
      rcases cut_cons.mp hn with rfl | ⟨m, -, rfl⟩ <;> omega
    · intro hall
      have hnot := hall _ (cut_cons.mpr (.inr ⟨0, cut_zero _, rfl⟩))
      have hle : part.length ≤ piece.length := by omega
      rw [read_fst, length_take]
      omega

structure Whole (pieces : List (List β)) (part rest : List β) : Prop where
  data : (read part.length pieces).1 = part
  rest : (read part.length pieces).2.flatten = rest
  cut : ∀ n, 0 < n → (Cut (read part.length pieces).2 n ↔ Cut pieces (part.length + n))

theorem Whole.of_read {part rest : List β} (hpart : part ≠ []) (h : pieces.flatten = part ++ rest)
    (hwhole : part.length ≤ (read part.length pieces).1.length) : Whole pieces part rest := by
  cases pieces with
  | nil => simp_all
  | cons piece pieces =>
    have hle := le_length_of_read hwhole
    rw [flatten_cons] at h
    have htake : piece.take part.length = part := by
      have h' := congrArg (take part.length) h
      rwa [take_append_of_le_length hle, take_left] at h'
    have hdrop : piece.drop part.length ++ pieces.flatten = rest := by
      have h' := congrArg (drop part.length) h
      rwa [drop_append_of_le_length hle, drop_left] at h'
    exact ⟨read_fst.trans htake, read_snd_flatten.trans hdrop, fun n => cut_read hle⟩

theorem append_take_ne {f : β} {w old : List β} (hagain : f ∉ w) (hsome : old ≠ [])
    (hshort : old.length ≤ w.length) :
    old ++ (f :: w).take ((f :: w).length - old.length) ≠ f :: w := by
  intro heq
  obtain ⟨byte, old, rfl⟩ := exists_cons_of_ne_nil hsome
  rw [length_cons] at hshort
  have hletter := congrArg (fun letters => letters[old.length + 1]?) heq
  have hcnt : (f :: w).length - (byte :: old).length = w.length - old.length - 1 + 1 := by
    simp only [length_cons]
    omega
  simp only [hcnt, take_succ_cons, cons_append, getElem?_cons_succ, getElem?_append_right le_rfl,
    Nat.sub_self, getElem?_cons_zero] at hletter
  exact hagain (mem_of_getElem? hletter.symm)

section Missing

/-! A buffer that holds some letters of another word, and a read of those that are missing. -/

variable {word : List β} {position : Nat}

theorem read_missing (hword : word.length = n) (hpos : position ≠ 0) (hlt : position < n) :
    read (n - position) [word] = (word.take (n - position), [word.drop (n - position)]) := by
  rw [read, if_pos (by omega)]

theorem take_missing_length (hword : word.length = n) : (word.take (n - position)).length = n - position := by
  rw [length_take]
  omega

theorem drop_missing_length (hword : word.length = n) (hle : position ≤ n) :
    (word.drop (n - position)).length = position := by
  rw [length_drop]
  omega

theorem contents_missing_ne (buffer : Memory β) {f : β} {w : List β} (hagain : f ∉ w) (hword : (f :: w).length = n)
    (hpos : position ≠ 0) (hlt : position < n) :
    (buffer.write position ((f :: w).take (n - position))).contents n ≠ f :: w := by
  have hcont := buffer.contents_write position ((f :: w).take (n - position))
  rw [take_missing_length hword, Nat.add_sub_cancel' (Nat.le_of_lt hlt)] at hcont
  have hsome : buffer.contents position ≠ [] := by
    rw [← length_pos_iff, Memory.contents_length]
    omega
  have hshort : (buffer.contents position).length ≤ w.length := by
    rw [Memory.contents_length]
    rw [length_cons] at hword
    omega
  have hne := append_take_ne hagain hsome hshort
  rw [Memory.contents_length, hword] at hne
  rwa [hcont]

end Missing

end Pieces

/-! ## Frames in pieces -/

namespace FrameFormat

variable {format : FrameFormat β}

/-- Byte `n` is in a header or in a payload, and not its first byte. -/
def InsidePart : List format.Frame → Nat → Prop
  | [], _ => False
  | frame :: frames, n =>
    if frame.size ≤ n then InsidePart frames (n - frame.size) else 0 < n ∧ n ≠ format.headerSize

theorem InsidePart.pos {frames : List format.Frame} {n : Nat} (h : InsidePart frames n) : 0 < n := by
  cases frames with
  | nil => exact h.elim
  | cons frame frames =>
    have hsize := frame.size_pos
    rw [InsidePart] at h
    split at h <;> omega

def Uncut (frames : List format.Frame) (pieces : List (List β)) : Prop :=
  ∀ n, Pieces.Cut pieces n → ¬InsidePart frames n

variable {frame : format.Frame} {frames : List format.Frame} {pieces : List (List β)}

theorem uncut_cons_iff :
    Uncut (frame :: frames) pieces ↔
      (∀ n, Pieces.Cut pieces n → ¬(0 < n ∧ n < format.headerSize)) ∧
        (∀ n, Pieces.Cut pieces (format.headerSize + n) → ¬(0 < n ∧ n < frame.payload.length)) ∧
        ∀ n, Pieces.Cut pieces (frame.size + n) → ¬InsidePart frames n := by
  have hsize : frame.size = format.headerSize + frame.payload.length := rfl
  constructor
  · intro h
    refine ⟨fun n hn hin => h n hn ?_, fun n hn hin => h _ hn ?_, fun n hn hin => h _ hn ?_⟩
    · rw [InsidePart, if_neg (by omega)]
      omega
    · rw [InsidePart, if_neg (by omega)]
      omega
    · rw [InsidePart, if_pos (Nat.le_add_right _ _), Nat.add_sub_cancel_left]
      exact hin
  · intro h n hn hin
    obtain ⟨hhdr, hpay, hframes⟩ := h
    rw [InsidePart] at hin
    split at hin
    next hle => exact hframes (n - frame.size) (by rwa [Nat.add_sub_cancel' hle]) hin
    next hlt =>
      by_cases hhead : n < format.headerSize
      · exact hhdr n hn ⟨hin.1, hhead⟩
      · have hsub : format.headerSize + (n - format.headerSize) = n := by omega
        exact hpay (n - format.headerSize) (by rwa [hsub]) (by omega)

end FrameFormat

end FreeRDS.Lib
