import FreeRDS.Core.Damage
import FreeRDS.X11.Service

/-! # Rounding to the grid

Both ends of the pipe align a rectangle to a grid of 16, the service with numbers that have a sign. The start moves to
the grid, and then the remainder of the size is added to it, not what is missing to the next multiple.
-/

namespace FreeRDS.Core

open Backend X11 Int32

def Lies (limit start size : Int) : Prop := 0 ≤ start ∧ 0 < size ∧ start + size ≤ limit

/-- The size is a multiple of 16, or it reaches the edge. -/
def Rounded (limit position size : Int) : Prop := size % 16 = 0 ∨ position + size = limit

/-- The side ends at a multiple of 8, or at the edge once the remainder has been added. -/
def EndsRound (bits limit stop : Nat) : Prop := stop % 8 = 0 ∨ limit ≤ stop + stop % 16 ∧ stop + stop % 16 < 2 ^ bits

section

variable {limit start size : UInt32}

variable (h : Lies limit.toNat (signed start) size.toNat)

include h

theorem Lies.toNat :
    start.toNat < 2 ^ 31 ∧ 0 < size.toNat ∧ start.toNat + size.toNat ≤ limit.toNat := by
  obtain ⟨hstart, hsize, hend⟩ := h
  have hlt := start.toNat_lt
  unfold signed at hstart hend
  split at hstart <;> simp_all <;> omega

theorem clampStart_of_lies : clampStart limit start = start := by
  obtain ⟨hstart, hsize, hend⟩ := h.toNat
  have hle : (limit - 1).toNat = limit.toNat - 1 :=
    UInt32.toNat_sub_of_le _ _ (UInt32.le_iff_toNat_le.mpr (Nat.le_trans hsize (by omega)))
  simp only [clampStart, if_neg (Nat.not_le.mpr hstart), UInt32.lt_iff_toNat_lt, hle]
  rw [if_neg (by omega)]

theorem alignX_rounded_iff :
    Rounded limit.toNat (alignX limit start size).1.toNat (alignX limit start size).2.toNat ↔
      EndsRound 32 limit.toNat (start.toNat + size.toNat) := by
  obtain ⟨hstart, hsize, hend⟩ := h.toNat
  have hlimit := limit.toNat_lt
  have hsnap := @snapStart_toNat start
  simp only [alignX, clampStart_of_lies h, grownSize, Rounded, EndsRound]
  split
  next hcut =>
    rw [UInt32.lt_iff_toNat_lt] at hcut
    rw [UInt32.toNat_sub_of_le _ _ (by rw [UInt32.le_iff_toNat_le]; omega)]
    simp [hsnap] at hcut ⊢
    omega
  next hcut =>
    rw [UInt32.lt_iff_toNat_lt] at hcut
    simp [hsnap] at hcut ⊢
    omega

/-- The height is compared with the limit by itself, but only a side that starts at zero is longer than that. -/
theorem alignY_of_lies :
    alignY limit start size = alignX limit start size := by
  obtain ⟨hstart, hsize, hend⟩ := h.toNat
  have hlimit := limit.toNat_lt
  simp only [alignY, alignX, clampStart_of_lies h]
  by_cases hlarge : limit < grownSize start size
  · have hzero : start - start % 16 = 0 := by
      rw [UInt32.lt_iff_toNat_lt] at hlarge
      rw [← UInt32.toNat_inj, snapStart_toNat]
      simp [grownSize] at hlarge ⊢
      omega
    simp [hlarge, hzero]
  · simp [hlarge]

end

/-! ## With a sign -/

section

variable {limit start size : Int32}

variable (h : Lies limit.toInt start.toInt size.toInt)

include h

theorem Lies.toInt :
    (start - start % 16).toInt = start.toInt - start.toInt % 16 ∧
      (size + start % 16 + (size + start % 16) % 16).toInt =
        (size.toInt + start.toInt % 16 + (start.toInt + size.toInt) % 16).bmod (2 ^ 32) := by
  obtain ⟨hstart, hsize, hend⟩ := h
  have hlimit := limit.toInt_lt
  have hmod {n : Int32} (hn : 0 ≤ n.toInt) : (n % 16).toInt = n.toInt % 16 := by
    rw [toInt_mod]
    exact Int.tmod_eq_emod_of_nonneg hn
  have hsum : (size + start % 16).toInt = size.toInt + start.toInt % 16 := by
    rw [toInt_add, hmod hstart, Int.bmod_eq_of_le (by omega) (by omega)]
  constructor
  · rw [toInt_sub, hmod hstart, Int.bmod_eq_of_le (by omega) (by omega)]
  · rw [toInt_add, hmod (by omega), hsum]
    congr 2
    omega

theorem side_rounded_iff :
    let x := start - start % 16
    let w := size + start % 16 + (size + start % 16) % 16
    Rounded limit.toInt x.toInt (if x + w > limit then limit - x else w).toInt ↔
      EndsRound 31 limit.toInt.toNat (start.toInt + size.toInt).toNat := by
  intro x w
  have hx : x.toInt = _ := h.toInt.1
  have hw : w.toInt = _ := h.toInt.2
  obtain ⟨hstart, hsize, hend⟩ := h
  have hlimit := limit.toInt_lt
  have hsum := toInt_add x w
  rw [Int.bmod_def] at hw hsum
  simp only [Rounded, EndsRound, gt_iff_lt, lt_iff_toInt_lt]
  split
  next =>
    rw [toInt_sub, Int.bmod_eq_of_le (by omega) (by omega)]
    split at hw <;> split at hsum <;> omega
  next => split at hw <;> split at hsum <;> omega

theorem side_of_lies :
    let x := start - start % 16
    let w := size + start % 16 + (size + start % 16) % 16
    (if x + (if w > limit then limit else w) > limit then limit - x else if w > limit then limit else w) =
      if x + w > limit then limit - x else w := by
  intro x w
  obtain ⟨hx, hw⟩ := h.toInt
  obtain ⟨hstart, hsize, hend⟩ := h
  have hlimit := limit.toInt_lt
  by_cases hlarge : w > limit
  · have hzero : x = 0 := by
      rw [gt_iff_lt, lt_iff_toInt_lt, hw, Int.bmod_def] at hlarge
      rw [← toInt_inj, hx]
      split at hlarge <;> simp <;> omega
    simp [hlarge, hzero]
  · simp [hlarge]

theorem start_of_lies :
    (if (if start < 0 then 0 else start) > limit - 1 then limit - 1 else if start < 0 then 0 else start) = start := by
  obtain ⟨hstart, hsize, hend⟩ := h
  have hlimit := limit.toInt_lt
  have hle : (limit - 1).toInt = limit.toInt - 1 := by
    rw [toInt_sub]
    exact Int.bmod_eq_of_le (by simp; omega) (by simp; omega)
  have hneg : ¬start < 0 := by
    rw [lt_iff_toInt_lt]
    simpa using hstart
  rw [if_neg hneg, if_neg (by rw [gt_iff_lt, lt_iff_toInt_lt, hle]; omega)]

end

/-! ## Rectangles -/

/-- A rectangle of the desktop is rounded exactly if both its ends are, at either end of the pipe. The service sends the
area unless it is empty. -/
theorem aligned_rounded_iff (desktop : Desktop) (rect : Rect) (screen : ScreenInfo) (x y w h : Int32)
    (hhoriz : Lies desktop.width.toNat (signed rect.x) rect.width.toNat)
    (hvert : Lies desktop.height.toNat (signed rect.y) rect.height.toNat)
    (hx : Lies screen.width.toInt x.toInt w.toInt) (hy : Lies screen.height.toInt y.toInt h.toInt) :
    (Rounded desktop.width.toNat (alignRect desktop rect).x.toNat (alignRect desktop rect).width.toNat ∧
        Rounded desktop.height.toNat (alignRect desktop rect).y.toNat (alignRect desktop rect).height.toNat ↔
      EndsRound 32 desktop.width.toNat (rect.x.toNat + rect.width.toNat) ∧
        EndsRound 32 desktop.height.toNat (rect.y.toNat + rect.height.toNat)) ∧
    (let (left, top, width, height) := paintedArea screen x y w h;
      Rounded screen.width.toInt left.toInt width.toInt ∧ Rounded screen.height.toInt top.toInt height.toInt ↔
        EndsRound 31 screen.width.toInt.toNat (x.toInt + w.toInt).toNat ∧
          EndsRound 31 screen.height.toInt.toNat (y.toInt + h.toInt).toNat) := by
  constructor
  · simp only [alignRect, alignY_of_lies hvert]
    exact and_congr (alignX_rounded_iff hhoriz) (alignX_rounded_iff hvert)
  · simp only [paintedArea, start_of_lies hx, start_of_lies hy, side_of_lies hy]
    exact and_congr (side_rounded_iff hx) (side_rounded_iff hy)

def Sample.rounding : ScreenInfo := ⟨1024, 768, 24, 4096, 32, 4, 3145728, 1, true, false⟩

theorem aligned_rounded_iff_eight :
    Rounded 1024 (alignRect ⟨1024, 768⟩ ⟨8, 0, 8, 24⟩).x.toNat (alignRect ⟨1024, 768⟩ ⟨8, 0, 8, 24⟩).width.toNat := by
  have hiff := (aligned_rounded_iff ⟨1024, 768⟩ ⟨8, 0, 8, 24⟩ Sample.rounding 0 0 8 8 (by unfold Lies; decide)
    (by unfold Lies; decide) (by unfold Lies; decide) (by unfold Lies; decide)).1
  exact (hiff.mpr (by unfold EndsRound; decide)).1

/-- Five pixels become ten. -/
theorem five_not_rounded :
    ¬Rounded 1024 (alignRect ⟨1024, 768⟩ ⟨0, 0, 5, 16⟩).x.toNat (alignRect ⟨1024, 768⟩ ⟨0, 0, 5, 16⟩).width.toNat ∧
      paintedArea Sample.rounding 0 0 5 16 = (0, 0, 10, 16) := by
  unfold Rounded
  decide

end FreeRDS.Core
