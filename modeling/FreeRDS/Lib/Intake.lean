import FreeRDS.Lib.Pieces
import Mathlib.Order.Basic

/-! # Messages that are gathered in a buffer

A receiver copies a message to a buffer over any number of calls. A call reads what is missing of the header and, once
that is whole, what is missing of the message; the header tells how long the message is. What is read has arrived in
pieces, some of which may arrive between the two reads.
-/

namespace FreeRDS.Lib

open List Memory

structure Intake (σ : Type*) where
  headerLength : Nat
  /-- The length that a header announces. -/
  announced : List UInt8 → Nat
  buffer : σ → Memory UInt8
  position : σ → Nat
  arrived : σ → List (List UInt8)
  between : σ → List (List UInt8)
  length : σ → Nat
  /-- A read that is to take the position to a target, and whether it found anything. -/
  read : (target size : Nat) → σ → Bool × σ
  headerLength_pos : 0 < headerLength
  headerLength_lt : headerLength < 2 ^ 16
  announced_take : ∀ bytes, announced (bytes.take headerLength) = announced bytes
  announced_lt : ∀ bytes, announced bytes < 2 ^ 32
  length_eq : ∀ s, length s = announced ((buffer s).contents headerLength)
  read_fst : ∀ target size s, (read target size s).1 = decide ((Pieces.read size (arrived s)).1 ≠ [])
  buffer_read : ∀ target size s,
    buffer (read target size s).2 = (buffer s).write (position s) (Pieces.read size (arrived s)).1
  position_read : ∀ target size s,
    position (read target size s).2 = position s + (Pieces.read size (arrived s)).1.length
  arrived_read : ∀ target size s, arrived (read target size s).2 = (Pieces.read size (arrived s)).2 ++ between s
  between_read : ∀ target size s, between (read target size s).2 = []

namespace Intake

variable {σ : Type*} (M : Intake σ)

variable (s : σ)

/-- The difference is one of the type `size_t`. -/
def left : Nat := (M.length s + 2 ^ 64 - M.position s) % 2 ^ 64

def readHeader : Bool × σ :=
  if M.position s < M.headerLength then M.read M.headerLength (M.headerLength - M.position s) s else (true, s)

/-- The size of a read is of a type of four bytes. -/
def readBody : Bool × σ :=
  if M.headerLength ≤ M.position s ∧ M.left s ≠ 0 then M.read (M.length s) (M.left s % 2 ^ 32) s else (true, s)

/-- The two reads of a call. -/
def gather : Bool × σ :=
  let (ok, s) := M.readHeader s
  if ok then M.readBody s else (false, s)

/-- The bytes from the start of the message on. -/
def pending : List UInt8 := (M.buffer s).contents (M.position s) ++ (M.arrived s ++ M.between s).flatten

def NonEmpty : Prop := ∀ piece ∈ M.arrived s ++ M.between s, piece ≠ []

/-! ## One read -/

variable {s : σ} {target size : Nat}

theorem pending_read (target size : Nat) (s : σ) : M.pending (M.read target size s).2 = M.pending s := by
  unfold pending
  rw [M.buffer_read, M.position_read, M.arrived_read, M.between_read, contents_write, append_nil,
    flatten_append, flatten_append, append_assoc, ← append_assoc (Pieces.read size _).1,
    Pieces.read_append]

variable {M}

theorem pending_length (s : σ) :
    (M.pending s).length = M.position s + (M.arrived s ++ M.between s).flatten.length := by
  rw [pending, length_append, contents_length]

theorem length_of_le (h : M.headerLength ≤ M.position s) : M.length s = M.announced (M.pending s) := by
  rw [M.length_eq, ← M.announced_take (M.pending s), pending,
    take_append_of_le_length (by rwa [contents_length]), contents_take _ h]

theorem length_lt (s : σ) : M.length s < 2 ^ 32 := M.length_eq s ▸ M.announced_lt _

theorem NonEmpty.read (h : M.NonEmpty s) : M.NonEmpty (M.read target size s).2 := by
  obtain ⟨harr, hbetween⟩ := forall_mem_append.mp h
  unfold NonEmpty
  rw [M.arrived_read, M.between_read, append_nil]
  exact forall_mem_append.mpr ⟨Pieces.read_snd_ne_nil harr, hbetween⟩

theorem read_of_false (h : (M.read target size s).1 = false) :
    M.buffer (M.read target size s).2 = M.buffer s ∧ M.position (M.read target size s).2 = M.position s := by
  have hdata : (Pieces.read size (M.arrived s)).1 = [] := by simpa [M.read_fst] using h
  rw [M.buffer_read, M.position_read, hdata]
  simp

theorem NonEmpty.read_cases (h : M.NonEmpty s) (target : Nat) (hsize : 0 < size) :
    (M.read target size s).1 = false ∧ M.arrived s = [] ∧ M.position (M.read target size s).2 = M.position s ∧
        M.arrived (M.read target size s).2 = M.between s ∨
      (M.read target size s).1 = true ∧ M.arrived s ≠ [] ∧ M.position s < M.position (M.read target size s).2 ∧
        M.position (M.read target size s).2 ≤ M.position s + size := by
  rw [M.read_fst, M.position_read, M.arrived_read]
  by_cases hnil : M.arrived s = []
  · simp [hnil, Pieces.read]
  · have hdata := Pieces.read_fst_ne_nil hsize hnil (forall_mem_append.mp h).1
    have hpos := length_pos_iff.mpr hdata
    have hle := Pieces.read_length_le size (M.arrived s)
    exact .inr ⟨decide_eq_true hdata, hnil, by omega, by omega⟩

theorem position_readHeader_le (s : σ) : M.position (M.readHeader s).2 ≤ (M.pending s).length := by
  have hpend : M.pending (M.readHeader s).2 = M.pending s := by
    unfold readHeader
    split
    exacts [pending_read .., rfl]
  rw [← hpend, pending_length]
  exact Nat.le_add_right _ _

theorem readBody_of_lt (h : M.position s < M.headerLength) : M.readBody s = (true, s) := by
  rw [readBody, if_neg fun hread => absurd h (Nat.not_lt.mpr hread.1)]

theorem headerLength_le_readHeader (h : M.headerLength ≤ M.position (M.gather s).2) :
    M.headerLength ≤ M.position (M.readHeader s).2 := by
  by_contra hlt
  rw [Nat.not_le] at hlt
  unfold gather at h
  dsimp only at h
  rw [readBody_of_lt hlt] at h
  split at h <;> exact absurd h (Nat.not_le.mpr hlt)

theorem readBody_eq (hhdr : M.headerLength ≤ M.position s) (hle : M.position s ≤ M.length s) :
    M.readBody s =
      if M.position s = M.length s then (true, s) else M.read (M.length s) (M.length s - M.position s) s := by
  have hlt := M.length_lt s
  have hleft : M.left s = M.length s - M.position s := by
    rw [left]
    omega
  rw [readBody, hleft]
  split_ifs with hread heq heq
  · omega
  · rw [Nat.mod_eq_of_lt (by omega)]
  · rfl
  · omega

/-! ## A call

As long as the header that is read announces at least itself, a call reads on in the message and not beyond.
-/

structure Step (M : Intake σ) (s t : σ) (ok : Bool) : Prop where
  pending : M.pending t = M.pending s
  nonEmpty : M.NonEmpty t
  between : M.between t = []
  moved : ok = true → M.position s < M.position t
  inside : M.headerLength ≤ M.position t → M.position t ≤ M.announced (M.pending s)
  /-- Nothing was there for the first read, or for the second. -/
  failed_iff : ok = false ↔ M.arrived s = [] ∨ M.position s < M.headerLength ∧
    M.headerLength ≤ M.position (M.readHeader s).2 ∧ M.arrived (M.readHeader s).2 = [] ∧
    M.announced (M.pending s) ≠ M.headerLength
  failed : ok = false → (M.headerLength ≤ M.position t → M.position t < M.announced (M.pending s)) ∧
    (M.arrived s = [] ∧ M.arrived t = M.between s ∨ M.arrived t = [])
  /-- What reads within a limit keep is kept. -/
  kept : ∀ {P : σ → Prop} {limit : Nat}, M.headerLength ≤ limit →
    (M.headerLength ≤ M.position (M.readHeader s).2 → M.announced (M.pending s) ≤ limit) →
    (∀ s target size, P s → M.position s + size ≤ limit → M.position s ≤ target → P (M.read target size s).2) →
    P s → P t

theorem step_readBody (hne : M.NonEmpty s) (hhdr : M.headerLength ≤ M.position s)
    (hlt : M.position s < M.announced (M.pending s)) : M.Step s (M.readBody s).2 (M.readBody s).1 := by
  have hlen := length_of_le hhdr
  rw [readBody_eq hhdr (by omega), if_neg (by omega)]
  have hfirst : M.readHeader s = (true, s) := by rw [readHeader, if_neg (Nat.not_lt.mpr hhdr)]
  have hcases := hne.read_cases (M.length s) (show 0 < M.length s - M.position s by omega)
  refine ⟨pending_read .., hne.read, M.between_read .., fun hok => ?_, fun _ => ?_, ?_, fun hfail => ?_, ?_⟩
  · rcases hcases with ⟨hfail, -⟩ | ⟨-, -, hmore, -⟩
    · simp [hfail] at hok
    · exact hmore
  · rcases hcases with ⟨-, -, hsame, -⟩ | ⟨-, -, -, hle⟩ <;> omega
  · rcases hcases with ⟨hfail, harr, -⟩ | ⟨hok, harr, -⟩
    · exact iff_of_true hfail (.inl harr)
    · exact iff_of_false (by simp [hok]) (by simp [harr, Nat.not_lt.mpr hhdr])
  · rcases hcases with ⟨-, harr, hsame, hnext⟩ | ⟨hok, -⟩
    · exact ⟨fun _ => by omega, .inl ⟨harr, hnext⟩⟩
    · simp [hok] at hfail
  · intro P limit _ hfits hread hs
    have hhigh := hfits (hfirst ▸ hhdr)
    exact hread s _ _ hs (by omega) (by omega)

theorem step_gather (hne : M.NonEmpty s)
    (hlow : M.headerLength ≤ M.position (M.readHeader s).2 → M.headerLength ≤ M.announced (M.pending s))
    (hpos : M.headerLength ≤ M.position s → M.position s < M.announced (M.pending s)) :
    M.Step s (M.gather s).2 (M.gather s).1 := by
  by_cases hhdr : M.position s < M.headerLength
  case neg =>
    have hgather : M.gather s = M.readBody s := by simp [gather, readHeader, hhdr]
    rw [hgather]
    exact step_readBody hne (by omega) (hpos (by omega))
  have hfirst : M.readHeader s = M.read M.headerLength (M.headerLength - M.position s) s := by
    rw [readHeader, if_pos hhdr]
  have hpend := M.pending_read M.headerLength (M.headerLength - M.position s) s
  have hne' : M.NonEmpty (M.read M.headerLength (M.headerLength - M.position s) s).2 := hne.read
  have hbetween := M.between_read M.headerLength (M.headerLength - M.position s) s
  have hkept : ∀ {P : σ → Prop} {limit : Nat}, M.headerLength ≤ limit →
      (∀ s target size, P s → M.position s + size ≤ limit → M.position s ≤ target → P (M.read target size s).2) →
      P s → P (M.read M.headerLength (M.headerLength - M.position s) s).2 := by
    intro P limit hlimit hread hs
    exact hread s _ _ hs (by omega) hhdr.le
  have hcases := hne.read_cases M.headerLength (Nat.sub_pos_of_lt hhdr)
  rw [← hfirst] at hpend hne' hbetween hkept hcases
  rcases hcases with ⟨hfail, harr, hsame, hnext⟩ | ⟨hok, harr, hmore, hle⟩
  · have hgather : M.gather s = (false, (M.readHeader s).2) := by simp [gather, hfail]
    rw [hgather]
    have hge : ¬M.headerLength ≤ M.position (M.readHeader s).2 := by omega
    exact ⟨hpend, hne', hbetween, Bool.noConfusion, (absurd · hge), iff_of_true rfl (.inl harr),
      fun _ => ⟨(absurd · hge), .inl ⟨harr, hnext⟩⟩, fun hlimit _ hread => hkept hlimit hread⟩
  have hgather : M.gather s = M.readBody (M.readHeader s).2 := by simp [gather, hok]
  rw [hgather]
  obtain ⟨t, ht⟩ : ∃ t, (M.readHeader s).2 = t := ⟨_, rfl⟩
  have hiff : (M.arrived s = [] ∨ M.position s < M.headerLength ∧ M.headerLength ≤ M.position (M.readHeader s).2 ∧
      M.arrived (M.readHeader s).2 = [] ∧ M.announced (M.pending s) ≠ M.headerLength) ↔
      M.headerLength ≤ M.position t ∧ M.arrived t = [] ∧ M.announced (M.pending s) ≠ M.headerLength := by
    simp [harr, hhdr, ht]
  rw [ht] at hpend hne' hbetween hkept hmore hle ⊢
  by_cases hshort : M.position t < M.headerLength
  · rw [readBody_of_lt hshort]
    have hge := Nat.not_le.mpr hshort
    exact ⟨hpend, hne', hbetween, fun _ => hmore, (absurd · hge), by simp [hiff, hge], Bool.noConfusion,
      fun hlimit _ hread => hkept hlimit hread⟩
  have hwhole : M.position t = M.headerLength := by omega
  have hlow := hlow (by rw [ht]; omega)
  have hlen := length_of_le hwhole.ge
  rw [hpend] at hlen
  by_cases heq : M.headerLength = M.announced (M.pending s)
  · rw [readBody_eq hwhole.ge (by omega), if_pos (by omega)]
    exact ⟨hpend, hne', hbetween, fun _ => hmore, fun _ => hwhole.trans_le hlow, by simp [harr, ← heq], Bool.noConfusion,
      fun hlimit _ hread => hkept hlimit hread⟩
  · have hbody := step_readBody hne' hwhole.ge (by rw [hpend]; omega)
    have hins := hbody.inside
    have hfail := hbody.failed
    have hkept' := @hbody.kept
    rw [hpend] at hins hfail hkept'
    refine ⟨hbody.pending.trans hpend, hbody.nonEmpty, hbody.between, fun hok => hmore.trans (hbody.moved hok), hins,
      hbody.failed_iff.trans (.trans ?_ hiff.symm), fun hlost => ⟨(hfail hlost).1, .inr ?_⟩,
      fun hlimit hfits hread hs => hkept' hlimit (fun _ => hfits (by rw [ht]; omega)) hread (hkept hlimit hread hs)⟩
    · simp [hwhole, Ne.symm heq]
    · exact (hfail hlost).2.elim (fun hnone => hnone.2.trans hbetween) id

/-- A header that announces less than itself, or more than a limit, makes the second read go over the limit. -/
theorem gather_unfit {limit : Nat} (hge : M.headerLength ≤ limit) (hlimit : limit < 2 ^ 16)
    (hhdr : M.position s < M.headerLength)
    (hwhole : M.headerLength ≤ M.position (M.readHeader s).2)
    (hbad : M.announced (M.pending s) < M.headerLength ∨ limit < M.announced (M.pending s)) :
    ∃ size t, M.gather s = M.read (M.announced (M.pending s)) size t ∧ M.position t = M.headerLength ∧
      limit < M.headerLength + size := by
  have hfirst : M.readHeader s = M.read M.headerLength (M.headerLength - M.position s) s := by
    rw [readHeader, if_pos hhdr]
  have hpos := M.position_read M.headerLength (M.headerLength - M.position s) s
  have hle := Pieces.read_length_le (M.headerLength - M.position s) (M.arrived s)
  have hpend := M.pending_read M.headerLength (M.headerLength - M.position s) s
  have hok := M.read_fst M.headerLength (M.headerLength - M.position s) s
  rw [← hfirst] at hpos hpend hok
  rw [decide_eq_true (length_pos_iff.mp (by omega))] at hok
  have hgather : M.gather s = M.readBody (M.readHeader s).2 := by simp [gather, hok]
  have hlen := length_of_le hwhole
  have hlt := M.length_lt (M.readHeader s).2
  have hsmall := M.headerLength_lt
  have hleft : M.left (M.readHeader s).2 =
      (M.length (M.readHeader s).2 + 2 ^ 64 - M.position (M.readHeader s).2) % 2 ^ 64 := rfl
  rw [hpend] at hlen
  refine ⟨M.left (M.readHeader s).2 % 2 ^ 32, (M.readHeader s).2, ?_, by omega, by omega⟩
  rw [hgather, readBody, if_pos ⟨hwhole, by omega⟩, hlen]

/-- The buffer held `before` at first, and since then the message has been copied to its front. -/
def Since (M : Intake σ) (before : Memory UInt8) (s : σ) : Prop :=
  M.buffer s = before.write 0 ((M.buffer s).contents (M.position s))

theorem Since.start (h : M.position s = 0) : M.Since (M.buffer s) s := by
  rw [Since, h, contents_zero, write_nil]

theorem Since.read {before : Memory UInt8} (h : M.Since before s) : M.Since before (M.read target size s).2 := by
  have hwrite := write_append before 0 ((M.buffer s).contents (M.position s)) (Pieces.read size (M.arrived s)).1
  rw [← show M.buffer s = _ from h, Nat.zero_add, contents_length] at hwrite
  rw [Since, M.buffer_read, M.position_read, contents_write, ← hwrite]

theorem Step.since {before : Memory UInt8} {t : σ} {ok : Bool} (h : M.Step s t ok) (hs : M.Since before s) :
    M.Since before t :=
  h.kept (Nat.le_max_left _ _) (fun _ => Nat.le_max_right _ _) (fun _ _ _ hs _ _ => hs.read) hs

/-! ## Calls that fail -/

/-- All that has arrived is one piece that ends with the header of a message that goes on. -/
def Starved (M : Intake σ) (s : σ) : Prop :=
  (M.arrived s).length = 1 ∧ M.between s = [] ∧ M.position s + (M.arrived s).flatten.length = M.headerLength ∧
    M.announced (M.pending s) ≠ M.headerLength

theorem starved_iff (hhdr : M.position s < M.headerLength) (harr : M.arrived s ≠ []) :
    M.Starved s ↔ M.headerLength ≤ M.position (M.readHeader s).2 ∧ M.arrived (M.readHeader s).2 = [] ∧
      M.announced (M.pending s) ≠ M.headerLength := by
  obtain ⟨piece, pieces, hcons⟩ := exists_cons_of_ne_nil harr
  rw [readHeader, if_pos hhdr, M.position_read, M.arrived_read, Starved, hcons]
  by_cases hlt : M.headerLength - M.position s < piece.length
  · refine iff_of_false ?_ (by simp [Pieces.read, hlt])
    rintro ⟨hone, -, htotal, -⟩
    obtain rfl : pieces = [] := by simpa using hone
    simp only [flatten_cons, flatten_nil, append_nil] at htotal
    omega
  · simp only [Pieces.read, if_neg hlt, append_eq_nil_iff, flatten_cons, length_append]
    constructor
    · rintro ⟨hone, hbetween, htotal, hann⟩
      obtain rfl : pieces = [] := by simpa using hone
      exact ⟨by simp at htotal; omega, ⟨rfl, hbetween⟩, hann⟩
    · rintro ⟨hge, ⟨rfl, hbetween⟩, hann⟩
      exact ⟨rfl, hbetween, by simp; omega, hann⟩

theorem Step.failed_iff_starved {t : σ} {ok : Bool} (h : M.Step s t ok) (hne : M.NonEmpty s) (harr : M.arrived s ≠ []) :
    ok = false ↔ M.Starved s := by
  rw [h.failed_iff]
  by_cases hhdr : M.position s < M.headerLength
  · rw [starved_iff hhdr harr]
    simp [harr, hhdr]
  · refine iff_of_false (by simp [harr, hhdr]) fun hstarved => hhdr ?_
    have htotal := hstarved.2.2.1
    have hsome : (M.arrived s).flatten ≠ [] := fun hnone =>
      harr (Pieces.eq_nil_of_flatten (forall_mem_append.mp hne).1 hnone)
    have hlen := length_pos_iff.mpr hsome
    omega

/-! ## What is left of a message -/

/-- The message in the buffer is not whole. A length that is below that of the header has not been read over. -/
def Incomplete (M : Intake σ) (s : σ) : Prop :=
  M.headerLength ≤ M.position s →
    M.position s < M.length s ∨ M.position s = M.headerLength ∧ M.length s < M.headerLength

theorem Incomplete.of_lt (h : M.position s < M.headerLength ∨ M.position s < M.length s) : M.Incomplete s :=
  fun hhdr => .inl (h.resolve_left (Nat.not_lt.mpr hhdr))

theorem Incomplete.left_ne_zero (h : M.Incomplete s) (hhdr : M.headerLength ≤ M.position s) : M.left s ≠ 0 := by
  have hlt := M.length_lt s
  have hsmall := M.headerLength_lt
  have hcases := h hhdr
  rw [left]
  omega

theorem Incomplete.gather (h : M.Incomplete s) (hfail : (M.gather s).1 = false) : M.Incomplete (M.gather s).2 := by
  by_cases hok : (M.readHeader s).1 = true
  case neg =>
    have hgather : M.gather s = (false, (M.readHeader s).2) := by simp [Intake.gather, hok]
    by_cases hhdr : M.position s < M.headerLength
    · rw [Intake.readHeader, if_pos hhdr, Bool.not_eq_true] at hok
      refine .of_lt (.inl ?_)
      rwa [hgather, Intake.readHeader, if_pos hhdr, (read_of_false hok).2]
    · simp [Intake.readHeader, hhdr] at hok
  have hgather : M.gather s = M.readBody (M.readHeader s).2 := by simp [Intake.gather, hok]
  have hincomp : M.left (M.readHeader s).2 ≠ 0 → M.Incomplete (M.readHeader s).2 := by
    by_cases hhdr : M.position s < M.headerLength
    · intro hleft hge
      have hlt := M.length_lt (M.readHeader s).2
      have hle := Pieces.read_length_le (M.headerLength - M.position s) (M.arrived s)
      have hpos : M.position (M.readHeader s).2 ≤ M.headerLength := by
        rw [Intake.readHeader, if_pos hhdr, M.position_read]
        omega
      rw [left] at hleft
      omega
    · intro _
      rwa [Intake.readHeader, if_neg hhdr]
  rw [hgather] at hfail ⊢
  generalize (M.readHeader s).2 = t at hincomp hfail ⊢
  by_cases hread : M.headerLength ≤ M.position t ∧ M.left t ≠ 0
  · rw [Intake.readBody, if_pos hread] at hfail ⊢
    obtain ⟨hbuffer, hpos⟩ := read_of_false hfail
    unfold Incomplete
    rw [hpos, M.length_eq, hbuffer, ← M.length_eq]
    exact hincomp hread.2
  · rw [Intake.readBody, if_neg hread] at hfail
    cases hfail

/-- The second read of a call, when one piece of no more than the length of a header is there: the message is whole, or
all has been read. -/
theorem readBody_piece {piece : List UInt8} (hhdr : M.headerLength ≤ M.position s)
    (hpos : M.position s ≤ M.length s ∨ M.position s = M.headerLength) (harr : M.arrived s = [piece])
    (hbetween : M.between s = []) (hpiece : piece ≠ []) (hshort : piece.length ≤ M.headerLength) :
    (M.readBody s).1 = true ∧
      (M.buffer (M.readBody s).2).contents M.headerLength = (M.buffer s).contents M.headerLength ∧
      (M.headerLength ≤ M.position (M.readBody s).2 ∧ M.length (M.readBody s).2 ≤ M.position (M.readBody s).2 ∨
        M.arrived (M.readBody s).2 = []) := by
  have hlt := M.length_lt s
  have hsmall := M.headerLength_lt
  have hleft : M.left s = (M.length s + 2 ^ 64 - M.position s) % 2 ^ 64 := rfl
  have hsome := length_pos_iff.mpr hpiece
  by_cases hread : M.headerLength ≤ M.position s ∧ M.left s ≠ 0
  case neg =>
    rw [readBody, if_neg hread]
    exact ⟨rfl, rfl, .inl ⟨hhdr, by dsimp only; omega⟩⟩
  rw [readBody, if_pos hread]
  have hkept := (M.buffer s).contents_write_of_le hhdr (Pieces.read (M.left s % 2 ^ 32) (M.arrived s)).1
  rw [← M.buffer_read (M.length s)] at hkept
  have hdata : (Pieces.read (M.left s % 2 ^ 32) (M.arrived s)).1 ≠ [] :=
    Pieces.read_fst_ne_nil (by omega) (by simp [harr]) (by simp [harr, hpiece])
  refine ⟨by rw [M.read_fst]; exact decide_eq_true hdata, hkept, ?_⟩
  by_cases hwhole : M.left s % 2 ^ 32 < piece.length
  · -- A part of the piece is left only if the message is complete.
    have hposit := M.position_read (M.length s) (M.left s % 2 ^ 32) s
    rw [harr, Pieces.read_fst, length_take_of_le hwhole.le] at hposit
    have hlen : M.length (M.read (M.length s) (M.left s % 2 ^ 32) s).2 = M.length s := by
      rw [M.length_eq (M.read _ _ s).2, hkept, ← M.length_eq]
    exact .inl ⟨by omega, by omega⟩
  · refine .inr ?_
    rw [M.arrived_read, harr, hbetween, Pieces.read, if_neg hwhole]
    rfl

theorem Incomplete.gather_header (h : M.Incomplete s) (hpos : M.position s ≠ 0) {first : UInt8} {others : List UInt8}
    (harr : M.arrived s = [first :: others]) (hbetween : M.between s = []) (hagain : first ∉ others)
    (hlen : (first :: others).length = M.headerLength) (hann : M.announced (first :: others) = M.headerLength) :
    (M.gather s).1 = true ∧ (M.buffer (M.gather s).2).contents M.headerLength ≠ first :: others ∧
      (M.headerLength ≤ M.position (M.gather s).2 ∧ M.length (M.gather s).2 ≤ M.position (M.gather s).2 ∨
        M.arrived (M.gather s).2 = []) := by
  by_cases hhdr : M.position s < M.headerLength
  · have hread := Pieces.read_missing hlen hpos hhdr
    have hcnt := @Pieces.take_missing_length _ _ _ (M.position s) hlen
    have hdrop := Pieces.drop_missing_length hlen hhdr.le
    have hok : (M.readHeader s).1 = true := by
      rw [Intake.readHeader, if_pos hhdr, M.read_fst, harr, hread, decide_eq_true_eq, ← length_pos_iff, hcnt]
      omega
    have hgather : M.gather s = M.readBody (M.readHeader s).2 := by simp [Intake.gather, hok]
    have hwhole : M.position (M.readHeader s).2 = M.headerLength := by
      rw [Intake.readHeader, if_pos hhdr, M.position_read, harr, hread, hcnt]
      omega
    have hcont : (M.buffer (M.readHeader s).2).contents M.headerLength ≠ first :: others := by
      rw [Intake.readHeader, if_pos hhdr, M.buffer_read, harr, hread]
      exact Pieces.contents_missing_ne _ hagain hlen hpos hhdr
    have harr' : M.arrived (M.readHeader s).2 = [(first :: others).drop (M.headerLength - M.position s)] := by
      rw [Intake.readHeader, if_pos hhdr, M.arrived_read, harr, hread, hbetween]
      rfl
    have hbetween' : M.between (M.readHeader s).2 = [] := by
      rw [Intake.readHeader, if_pos hhdr, M.between_read]
    obtain ⟨hok', hsame, hend⟩ := readBody_piece hwhole.ge (.inr hwhole) harr' hbetween'
      (length_pos_iff.mp (by omega)) (by omega)
    rw [hgather]
    exact ⟨hok', hsame ▸ hcont, hend⟩
  · have hgather : M.gather s = M.readBody s := by simp [Intake.gather, Intake.readHeader, hhdr]
    have hcases := h (Nat.not_lt.mp hhdr)
    obtain ⟨hok', hsame, hend⟩ := readBody_piece (Nat.not_lt.mp hhdr) (hcases.imp Nat.le_of_lt And.left) harr hbetween
      (cons_ne_nil _ _) hlen.le
    rw [hgather]
    refine ⟨hok', fun heq => ?_, hend⟩
    -- This message would be complete with its header.
    have hlength := M.length_eq s
    rw [← hsame, heq, hann] at hlength
    omega

end Intake

end FreeRDS.Lib
