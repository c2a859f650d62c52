import Mathlib.Data.Finset.Card
import Mathlib.Data.List.InsertIdx

/-! # The mode table of the X server

`randr->modes` has room for 64 modes. `rdpProbeModes` fills in standard sizes; from then on `rdpModeSelect` looks a size
up and has `rdpModeAdd` put it in when it is not there. Nothing is ever taken out.
-/

namespace FreeRDS.X11

open List

/-- The size in an `xRRModeInfo`. -/
structure Size where
  width : UInt16
  height : UInt16
  deriving DecidableEq, Repr

/-- `g_StandardSizes`. -/
def standardSizes : List Size :=
  [⟨8192, 4608⟩, ⟨4096, 2560⟩, ⟨4096, 2160⟩, ⟨3840, 2160⟩, ⟨2560, 1600⟩, ⟨2560, 1440⟩, ⟨2048, 1152⟩, ⟨2048, 1080⟩,
   ⟨1920, 1200⟩, ⟨1920, 1080⟩, ⟨1680, 1050⟩, ⟨1600, 1200⟩, ⟨1600, 900⟩, ⟨1440, 900⟩, ⟨1400, 1050⟩, ⟨1366, 768⟩,
   ⟨1280, 1024⟩, ⟨1280, 960⟩, ⟨1280, 800⟩, ⟨1280, 720⟩, ⟨1152, 864⟩, ⟨1024, 768⟩, ⟨800, 600⟩, ⟨640, 480⟩]

/-- `rdpRandRInfoRec`. -/
structure RandR where
  width : UInt16
  height : UInt16
  /-- The first `numModes` of `modes`. -/
  modes : List Size
  mode : Option Size := none
  /-- The indices at which `modes` has been read or written. -/
  accesses : List Nat := []
  deriving Repr

/-- What `modes` is allocated with. -/
def modeCount : Nat := 64

namespace RandR

def touch (randr : RandR) (indices : List Nat) : RandR := { randr with accesses := randr.accesses ++ indices }

/-- A loop over the modes that stops at the first that meets `p`. -/
def scan (p : Size → Bool) (randr : RandR) : Nat × RandR :=
  let index := randr.modes.findIdx p
  (index, randr.touch (List.range (min (index + 1) randr.modes.length)))

end RandR

/-- The product is an `int`, and can overflow. -/
def Size.area (size : Size) : Int32 := (size.width.toUInt32 * size.height.toUInt32).toInt32

def rdpModeInfoCompare (modeInfo1 modeInfo2 : Size) : Int :=
  if modeInfo1.area < modeInfo2.area then -1 else if modeInfo2.area < modeInfo1.area then 1 else 0

/-- `setModes` is whether the output takes the modes, or there is none yet. The table has grown either way. -/
def rdpModeAdd (setModes : Bool) (size : Size) (randr : RandR) : Bool × RandR :=
  let (index, randr) := randr.scan fun mode => rdpModeInfoCompare mode size < 0
  let numModes := randr.modes.length
  -- `MoveMemory` reads from `index` on and writes from `index + 1` on.
  let moved := List.range' index (numModes - index) ++ List.range' (index + 1) (numModes - index)
  (setModes, { randr.touch (moved ++ [index]) with modes := randr.modes.insertIdx index size })

/-! ## What is in the table -/

section

variable (setModes : Bool) (size : Size) (randr : RandR)

theorem modes_rdpModeAdd : (rdpModeAdd setModes size randr).2.modes =
    randr.modes.insertIdx (randr.modes.findIdx fun mode => rdpModeInfoCompare mode size < 0) size := rfl

theorem mem_rdpModeAdd {mode : Size} :
    mode ∈ (rdpModeAdd setModes size randr).2.modes ↔ mode = size ∨ mode ∈ randr.modes := by
  rw [modes_rdpModeAdd]
  exact mem_insertIdx findIdx_le_length

theorem length_rdpModeAdd : (rdpModeAdd setModes size randr).2.modes.length = randr.modes.length + 1 := by
  rw [modes_rdpModeAdd]
  exact length_insertIdx_of_le_length findIdx_le_length size

theorem not_mem_of_scan (h : ¬(randr.scan (· == size)).1 < randr.modes.length) : size ∉ randr.modes := by
  intro hmem
  exact h (findIdx_lt_length_of_exists ⟨size, hmem, beq_self_eq_true size⟩)

end

/-- A mode that has just been added is found, so there is one call inside a call at most. -/
def rdpModeSelect (setModes : Bool) (size : Size) (randr : RandR) : RandR :=
  let scanned := randr.scan (· == size)
  if _h : scanned.1 < randr.modes.length then
    { scanned.2 with mode := some size, width := size.width, height := size.height }
  else
    let added := rdpModeAdd setModes size scanned.2
    if added.1 then rdpModeSelect setModes size added.2 else added.2
termination_by if size ∈ randr.modes then 0 else 1
decreasing_by
  have hnew : size ∉ randr.modes := not_mem_of_scan size randr _h
  have hold : size ∈ (rdpModeAdd setModes size (randr.scan (· == size)).2).2.modes :=
    (mem_rdpModeAdd setModes size _).mpr (.inl rfl)
  simp [hnew, hold]

/-- The standard sizes that are not too large for a screen and, if `shmmax` is known, for a segment. -/
def probedSizes (shmmax : Int) : List Size :=
  standardSizes.filter fun size => size.width ≤ 1920 && size.height ≤ 1080 &&
    (shmmax ≤ 0 || (size.width.toNat * size.height.toNat * 4 : Int) ≤ shmmax)

variable (shmmax : Int) (initial : Size)

def probed : RandR where
  width := initial.width
  height := initial.height
  modes := probedSizes shmmax
  accesses := List.range (probedSizes shmmax).length

def rdpProbeModes : RandR := rdpModeSelect true initial (probed shmmax initial)

theorem mem_rdpModeSelect (setModes : Bool) (size : Size) (randr : RandR) {mode : Size} :
    mode ∈ (rdpModeSelect setModes size randr).modes ↔ mode = size ∨ mode ∈ randr.modes := by
  fun_induction rdpModeSelect setModes size randr with
  | case1 randr scanned hfound =>
    have hsize : size ∈ randr.modes := by
      have hbeq := findIdx_getElem (p := (· == size)) (w := hfound)
      exact beq_iff_eq.mp hbeq ▸ getElem_mem hfound
    exact ⟨.inr, fun h => h.elim (fun heq => heq ▸ hsize) id⟩
  | case2 randr scanned _ added _ ih =>
    rw [ih, mem_rdpModeAdd]
    exact ⟨fun h => h.elim .inl id, .inr⟩
  | case3 randr scanned _ added _ => exact mem_rdpModeAdd setModes size scanned.2

/-! ## What is touched -/

namespace RandR

/-- Every access so far was inside `modes`. -/
def Safe (randr : RandR) : Prop := ∀ index ∈ randr.accesses, index < modeCount

instance (randr : RandR) : Decidable randr.Safe := List.decidableBAll _ _

theorem safe_touch_iff {randr : RandR} {indices : List Nat} :
    (randr.touch indices).Safe ↔ randr.Safe ∧ ∀ index ∈ indices, index < modeCount :=
  forall_mem_append

/-- No mode is there twice, and the accesses have been safe as long as the modes fit. -/
structure Tracked (randr : RandR) : Prop where
  nodup : randr.modes.Nodup
  safe_iff : randr.Safe ↔ randr.modes.length ≤ modeCount

namespace Tracked

variable {randr : RandR}

theorem scan (h : randr.Tracked) (p : Size → Bool) : (randr.scan p).2.Tracked := by
  refine ⟨h.nodup, ?_⟩
  change (randr.touch _).Safe ↔ randr.modes.length ≤ modeCount
  rw [safe_touch_iff, h.safe_iff, and_iff_left_iff_imp]
  intro hfits index hmem
  have hlt := mem_range.mp hmem
  omega

theorem last_touched_iff {index numModes : Nat} (hle : index ≤ numModes) :
    (numModes ≤ modeCount ∧
      ((∀ i, index ≤ i ∧ i < index + (numModes - index) → i < modeCount) ∧
        ∀ i, index + 1 ≤ i ∧ i < index + 1 + (numModes - index) → i < modeCount) ∧ index < modeCount) ↔
      numModes + 1 ≤ modeCount := by
  constructor
  · intro ⟨_, ⟨_, hwritten⟩, hidx⟩
    by_cases hlast : index = numModes
    · exact hlast ▸ hidx
    · exact hwritten numModes (by omega)
  · intro hfits
    refine ⟨by omega, ⟨?_, ?_⟩, by omega⟩ <;> intro i hi <;> omega

theorem add (h : randr.Tracked) {size : Size} (hnew : size ∉ randr.modes) (setModes : Bool) :
    (rdpModeAdd setModes size randr).2.Tracked := by
  have hscan := h.scan fun mode => rdpModeInfoCompare mode size < 0
  have hle : randr.modes.findIdx (fun mode => rdpModeInfoCompare mode size < 0) ≤ randr.modes.length :=
    findIdx_le_length
  constructor
  · rw [modes_rdpModeAdd, (perm_insertIdx size _ hle).nodup_iff]
    exact nodup_cons.mpr ⟨hnew, h.nodup⟩
  · rw [length_rdpModeAdd]
    change ((randr.scan _).2.touch (_ ++ [_])).Safe ↔ _
    rw [safe_touch_iff, hscan.safe_iff]
    simp only [forall_mem_append, mem_range'_1, mem_singleton, forall_eq]
    change randr.modes.length ≤ modeCount ∧ _ ↔ _
    exact last_touched_iff hle

theorem select (h : randr.Tracked) (setModes : Bool) (size : Size) : (rdpModeSelect setModes size randr).Tracked := by
  fun_induction rdpModeSelect setModes size randr with
  | case1 randr scanned _ =>
    have hscan := h.scan (· == size)
    exact ⟨hscan.nodup, hscan.safe_iff⟩
  | case2 randr scanned hnew added _ ih => exact ih ((h.scan _).add (not_mem_of_scan size randr hnew) setModes)
  | case3 randr scanned hnew added _ => exact (h.scan _).add (not_mem_of_scan size randr hnew) setModes

theorem safe_iff_card (h : randr.Tracked) : randr.Safe ↔ randr.modes.toFinset.card ≤ modeCount := by
  rw [h.safe_iff, toFinset_card_of_nodup h.nodup]

end Tracked

theorem tracked_probed : (probed shmmax initial).Tracked := by
  have hlen : (probedSizes shmmax).length ≤ modeCount := (length_filter_le _ standardSizes).trans (by decide)
  refine ⟨.filter _ (by decide), iff_of_true ?_ hlen⟩
  exact fun index hmem => (mem_range.mp hmem).trans_le hlen

end RandR

end FreeRDS.X11
