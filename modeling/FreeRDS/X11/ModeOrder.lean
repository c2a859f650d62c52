import Mathlib.Algebra.Ring.Nat
import FreeRDS.X11.Modes

/-! # The order of the modes

A mode that is selected and is not in the table is put where its area belongs. The areas are compared as signed numbers.
-/

namespace FreeRDS.X11

open List

/-- What `rdpModeSelect` leaves where it finds the mode. -/
def RandR.found (size : Size) (randr : RandR) : RandR :=
  { (randr.scan (· == size)).2 with mode := some size, width := size.width, height := size.height }

/-- `rdpModeSelect` with so many calls at most, where the output takes the modes. -/
def rdpModeSelectIn (size : Size) : Nat → RandR → Option RandR
  | 0, _ => none
  | calls + 1, randr =>
    if (randr.scan (· == size)).1 < randr.modes.length then some (randr.found size)
    else rdpModeSelectIn size calls (rdpModeAdd true size (randr.scan (· == size)).2).2

def Size.pixels (size : Size) : Nat := size.width.toNat * size.height.toNat

/-- The larger modes come first. -/
def RandR.Sorted (randr : RandR) : Prop := randr.modes.Pairwise fun mode mode' => mode'.pixels ≤ mode.pixels

section

variable {size mode : Size} {randr : RandR}

theorem scan_lt_iff : (randr.scan (· == size)).1 < randr.modes.length ↔ size ∈ randr.modes := by
  rw [RandR.scan, findIdx_lt_length]
  simp

theorem rdpModeSelect_of_mem (h : size ∈ randr.modes) : rdpModeSelect true size randr = randr.found size := by
  rw [rdpModeSelect]
  exact dif_pos (scan_lt_iff.mpr h)

theorem rdpModeSelect_of_not_mem (h : size ∉ randr.modes) :
    rdpModeSelect true size randr = (rdpModeAdd true size (randr.scan (· == size)).2).2.found size := by
  rw [rdpModeSelect, ← rdpModeSelect_of_mem ((mem_rdpModeAdd true size _).mpr (.inl rfl))]
  exact dif_neg (mt scan_lt_iff.mp h)

theorem modes_rdpModeSelect (h : size ∉ randr.modes) :
    (rdpModeSelect true size randr).modes =
      randr.modes.insertIdx (randr.modes.findIdx fun mode => rdpModeInfoCompare mode size < 0) size := by
  rw [rdpModeSelect_of_not_mem h]
  rfl

theorem rdpModeSelectIn_two (size : Size) (randr : RandR) :
    rdpModeSelectIn size 2 randr = some (rdpModeSelect true size randr) := by
  by_cases h : size ∈ randr.modes
  · rw [rdpModeSelect_of_mem h]
    exact if_pos (scan_lt_iff.mpr h)
  · have hadded := scan_lt_iff.mpr ((mem_rdpModeAdd true size (randr.scan (· == size)).2).mpr (.inl rfl))
    rw [rdpModeSelect_of_not_mem h]
    exact (if_neg (mt scan_lt_iff.mp h)).trans (if_pos hadded)

theorem pixels_lt (size : Size) : size.pixels < 2 ^ 32 := by
  have hle : size.width.toNat * size.height.toNat ≤ 65535 * 65535 :=
    Nat.mul_le_mul (Nat.le_of_lt_succ size.width.toNat_lt) (Nat.le_of_lt_succ size.height.toNat_lt)
  exact Nat.lt_of_le_of_lt hle (by decide)

theorem area_toInt (size : Size) : size.area.toInt = (size.pixels : Int).bmod (2 ^ 32) := by
  have hprod : (size.width.toUInt32 * size.height.toUInt32).toNat = size.pixels := by
    rw [UInt32.toNat_mul, UInt16.toNat_toUInt32, UInt16.toNat_toUInt32]
    exact Nat.mod_eq_of_lt (pixels_lt size)
  change (size.width.toUInt32 * size.height.toUInt32).toBitVec.toInt = _
  rw [BitVec.toInt_eq_toNat_bmod, UInt32.toNat_toBitVec, hprod]

theorem compare_neg_iff (hsize : size.pixels < 2 ^ 31) :
    rdpModeInfoCompare mode size < 0 ↔ mode.pixels < size.pixels ∨ 2 ^ 31 ≤ mode.pixels := by
  have hlt := pixels_lt mode
  unfold rdpModeInfoCompare
  simp only [Int32.lt_iff_toInt_lt, area_toInt, Int.bmod_def]
  split_ifs <;> simp <;> omega

theorem sorted_insert_iff {modes : List Size} (h : modes.Pairwise fun mode mode' => mode'.pixels ≤ mode.pixels)
    (hsize : size.pixels < 2 ^ 31) :
    (modes.insertIdx (modes.findIdx fun mode => rdpModeInfoCompare mode size < 0) size).Pairwise
        (fun mode mode' => mode'.pixels ≤ mode.pixels) ↔
      ∀ mode ∈ modes, mode.pixels < 2 ^ 31 := by
  induction modes with
  | nil => simp
  | cons mode modes ih =>
    obtain ⟨hfirst, hrest⟩ := pairwise_cons.mp h
    have hcompare := @compare_neg_iff size mode hsize
    by_cases hless : rdpModeInfoCompare mode size < 0
    · rw [findIdx_cons, decide_eq_true hless, cond_true, insertIdx_zero, pairwise_cons]
      constructor
      · rintro ⟨hall, -⟩ other hmem
        exact Nat.lt_of_le_of_lt (hall other hmem) hsize
      · intro hsmall
        have hmode := hsmall mode mem_cons_self
        refine ⟨fun other hmem => ?_, h⟩
        have hother : other.pixels ≤ mode.pixels := by
          obtain rfl | hmem := mem_cons.mp hmem
          · exact Nat.le_refl _
          · exact hfirst other hmem
        omega
    · rw [findIdx_cons, decide_eq_false hless, cond_false, insertIdx_succ_cons, pairwise_cons,
        ih hrest, forall_mem_cons, and_iff_right_of_imp, and_iff_right (by omega)]
      intro _ other hmem
      obtain rfl | hmem := (mem_insertIdx findIdx_le_length).mp hmem
      · omega
      · exact hfirst other hmem

end

/-- The mode is found in the second call at the latest, and it is put where its size belongs unless the area of another
mode does not fit into an `int`. -/
theorem mode_selected (randr : RandR) (size : Size) (hwidth : size.width.toNat ≤ 32767)
    (hheight : size.height.toNat ≤ 32767) :
    let selected := rdpModeSelect true size randr;
    rdpModeSelectIn size 2 randr = some selected ∧ selected.mode = some size ∧ size ∈ selected.modes ∧
      randr.modes.Sublist selected.modes ∧
      (randr.Sorted →
        (selected.Sorted ↔ size ∈ randr.modes ∨ ∀ mode ∈ randr.modes, mode.pixels < 2 ^ 31)) := by
  have hsize : size.pixels < 2 ^ 31 := Nat.lt_of_le_of_lt (Nat.mul_le_mul hwidth hheight) (by decide)
  refine ⟨rdpModeSelectIn_two size randr, ?_⟩
  by_cases hmem : size ∈ randr.modes
  · rw [rdpModeSelect_of_mem hmem]
    exact ⟨rfl, hmem, Sublist.refl _, fun h => iff_of_true h (.inl hmem)⟩
  · rw [RandR.Sorted, RandR.Sorted, modes_rdpModeSelect hmem, or_iff_right hmem]
    refine ⟨by rw [rdpModeSelect_of_not_mem hmem]; rfl, ?_, sublist_insertIdx _ _ _, fun h => sorted_insert_iff h hsize⟩
    exact (mem_insertIdx findIdx_le_length).mpr (.inl rfl)

def Sample.tallModes : RandR := { width := 0, height := 0, modes := [⟨65535, 65535⟩] }

theorem mode_selected_small : (rdpModeSelect true ⟨800, 600⟩ ⟨0, 0, [⟨1024, 768⟩, ⟨640, 480⟩], none, []⟩).Sorted := by
  obtain ⟨-, -, -, -, hsorted⟩ := mode_selected ⟨0, 0, [⟨1024, 768⟩, ⟨640, 480⟩], none, []⟩ ⟨800, 600⟩ (by decide)
    (by decide)
  exact (hsorted (by simp [RandR.Sorted, Size.pixels])).mpr (.inr (by simp [Size.pixels]))

/-- The area of the mode that is there counts as negative. -/
theorem mode_selected_unsorted :
    Sample.tallModes.Sorted ∧ (rdpModeSelect true ⟨100, 100⟩ Sample.tallModes).modes = [⟨100, 100⟩, ⟨65535, 65535⟩] ∧
      ¬(rdpModeSelect true ⟨100, 100⟩ Sample.tallModes).Sorted := by
  have hmodes : (rdpModeSelect true ⟨100, 100⟩ Sample.tallModes).modes = [⟨100, 100⟩, ⟨65535, 65535⟩] := by
    rw [modes_rdpModeSelect (by decide)]
    decide
  rw [RandR.Sorted, RandR.Sorted, hmodes]
  simp [Sample.tallModes, Size.pixels]

end FreeRDS.X11
