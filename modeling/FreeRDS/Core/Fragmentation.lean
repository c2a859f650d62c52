import FreeRDS.Core.EncoderGrid

/-! # Bitmap updates in fragments

`freerds_send_bitmap_update` sends its tiles in one `BitmapUpdate` if an estimate of the size allows it. Otherwise a loop
fills one update after another; only two of its branches go on to the next tile. Sizes are numbers of 32 bits.
-/

namespace FreeRDS.Core

open List

structure BitmapData extends Tile where
  bitmapLength : UInt32
  deriving DecidableEq

/-- The state of the loop: the entries of `bitmapData` from `i` on, and those of `fragBitmapData` below `j`. -/
structure Fragments where
  rest : List BitmapData
  fragBitmapData : List BitmapData := []
  updateSize : UInt32 := 1024
  /-- The tiles of each call of `BitmapUpdate`. -/
  updates : List (List BitmapData) := []
  /-- The indices at which `fragBitmapData` was written. -/
  written : List Nat := []

namespace Fragments

def copy (s : Fragments) (tile : BitmapData) (rest : List BitmapData) (newUpdateSize : UInt32) : Fragments :=
  { s with
    rest
    fragBitmapData := s.fragBitmapData ++ [tile]
    updateSize := newUpdateSize
    written := s.written ++ [s.fragBitmapData.length] }

def send (s : Fragments) : Fragments :=
  { s with
    fragBitmapData := []
    updateSize := 1024
    updates := s.updates ++ [s.fragBitmapData] }

/-- One turn of the loop. -/
def step (maxUpdateSize : UInt32) (s : Fragments) : Fragments :=
  match s.rest with
  | [] => s
  | tile :: rest =>
    let newUpdateSize := s.updateSize + (tile.bitmapLength + 16)
    if newUpdateSize < maxUpdateSize ∧ rest ≠ [] then s.copy tile rest newUpdateSize
    else (if rest = [] then s.copy tile rest newUpdateSize else s).send

end Fragments

def updateSizeEstimate (tiles : List BitmapData) : UInt32 :=
  tiles.foldl (fun size tile => size + tile.bitmapLength) 0 + UInt32.ofNat tiles.length * UInt32.ofNat tiles.length + 16

variable (maxUpdateSize : UInt32) (tiles : List BitmapData)

def fragments (turns : Nat) : Fragments :=
  (Fragments.step maxUpdateSize)^[turns] { rest := tiles }

/-- The calls of `BitmapUpdate`, after so many turns if there is a loop. -/
def bitmapUpdates (turns : Nat) : List (List BitmapData) :=
  if maxUpdateSize < updateSizeEstimate tiles then (fragments maxUpdateSize tiles turns).updates else [tiles]

namespace Sample

def tileOf (bitmapLength : UInt32) : BitmapData := ⟨⟨0, 0, 64, 64⟩, bitmapLength⟩

end Sample

/-- The loop ends, if it is entered, and no update is empty. -/
structure Terminates : Prop where
  ends : maxUpdateSize < updateSizeEstimate tiles → ∃ turns, (fragments maxUpdateSize tiles turns).rest = []
  nonempty : ∀ turns, ∀ update ∈ bitmapUpdates maxUpdateSize tiles turns, update ≠ []

/-- The size of the tiles of an update, without the 1024 for the update itself. -/
def load (tiles : List BitmapData) : Nat := (tiles.map fun tile => tile.bitmapLength.toNat + 16).sum

/-- No update is larger than is allowed. -/
def Bounded : Prop :=
  ∀ turns, ∀ update ∈ bitmapUpdates maxUpdateSize tiles turns,
    (if maxUpdateSize < updateSizeEstimate tiles then 1024 else 0) + load update ≤ maxUpdateSize.toNat

/-- Updates filled in order from a size on: no sum has more than 32 bits, and the last tile does not make its update too
large. -/
def Packs (limit : Nat) : Nat → List BitmapData → Prop
  | _, [] => True
  | size, [tile] => size + (tile.bitmapLength.toNat + 16) ≤ limit
  | size, tile :: tile' :: rest =>
    if size + (tile.bitmapLength.toNat + 16) < limit then
      Packs limit (size + (tile.bitmapLength.toNat + 16)) (tile' :: rest)
    else
      size + (tile.bitmapLength.toNat + 16) < 2 ^ 32 ∧ Packs limit (1024 + (tile.bitmapLength.toNat + 16)) (tile' :: rest)

namespace Fragments

variable {limit : UInt32} {s : Fragments} {tile : BitmapData} {rest tiles : List BitmapData}

/-- What a turn of the loop can do. -/
inductive Turns (limit : UInt32) (s : Fragments) : Fragments → Prop
  | ended (hs : s.rest = []) : Turns limit s s
  | copy {tile : BitmapData} {rest : List BitmapData} (hs : s.rest = tile :: rest) (hrest : rest ≠ [])
      (hlt : s.updateSize + (tile.bitmapLength + 16) < limit) :
      Turns limit s (s.copy tile rest (s.updateSize + (tile.bitmapLength + 16)))
  | send {tile : BitmapData} {rest : List BitmapData} (hs : s.rest = tile :: rest) (hrest : rest ≠ [])
      (hlt : ¬s.updateSize + (tile.bitmapLength + 16) < limit) : Turns limit s s.send
  | last {tile : BitmapData} (hs : s.rest = [tile]) :
      Turns limit s (s.copy tile [] (s.updateSize + (tile.bitmapLength + 16))).send

theorem turns (limit : UInt32) (s : Fragments) : Turns limit s (s.step limit) := by
  unfold step
  split
  next hs => exact .ended hs
  next tile rest hs =>
    by_cases hrest : rest = []
    · subst hrest
      simpa using .last hs
    · by_cases hlt : s.updateSize + (tile.bitmapLength + 16) < limit
      · simpa [hrest, hlt] using .copy hs hrest hlt
      · simpa [hrest, hlt] using .send hs hrest hlt

structure Keeps (tiles : List BitmapData) (s : Fragments) : Prop where
  written : ∀ index ∈ s.written, index < tiles.length
  split : s.updates.flatten ++ s.fragBitmapData ++ s.rest = tiles
  ended : s.rest = [] → s.fragBitmapData = []

theorem Keeps.length_lt (h : s.Keeps tiles) (hs : s.rest = tile :: rest) : s.fragBitmapData.length < tiles.length := by
  rw [← h.split, hs]
  simp
  omega

theorem Keeps.turn {s' : Fragments} (h : s.Keeps tiles) (hturn : Turns limit s s') : s'.Keeps tiles := by
  have hsplit := h.split
  have hwritten := h.written
  cases hturn with
  | ended => exact h
  | copy hs hrest =>
    have hlen := h.length_lt hs
    constructor <;> simp_all [copy]
    grind
  | send hs => constructor <;> simp_all [send]
  | last hs =>
    have hlen := h.length_lt hs
    constructor <;> simp_all [copy, send]
    grind

end Fragments

theorem toNat_newUpdateSize {size length : UInt32} (h : size.toNat + (length.toNat + 16) < 2 ^ 32) :
    (size + (length + 16)).toNat = size.toNat + (length.toNat + 16) := by
  rw [UInt32.toNat_add, UInt32.toNat_add]
  simp
  omega

theorem start_lt {length limit : UInt32} (h : 1040 + length.toNat < limit.toNat) : 1024 + (length + 16) < limit := by
  have hlimit := limit.toNat_lt
  rw [UInt32.lt_iff_toNat_lt, toNat_newUpdateSize] <;> simp <;> omega

namespace Fragments

variable {limit : UInt32} {s s' : Fragments} {tile : BitmapData} {rest tiles : List BitmapData}

/-- Every tile that is not the last one fits into an update of its own. -/
structure Progresses (limit : UInt32) (s : Fragments) : Prop where
  fits : ∀ tile ∈ s.rest.dropLast, 1040 + tile.bitmapLength.toNat < limit.toNat
  start : s.fragBitmapData = [] → s.updateSize = 1024
  nonempty : ∀ update ∈ s.updates, update ≠ []

theorem Progresses.fragment_ne (h : s.Progresses limit) (hs : s.rest = tile :: rest) (hrest : rest ≠ [])
    (hlt : ¬s.updateSize + (tile.bitmapLength + 16) < limit) : s.fragBitmapData ≠ [] := by
  intro hfragment
  rw [h.start hfragment] at hlt
  refine hlt (start_lt (h.fits tile ?_))
  rw [hs, dropLast_cons_of_ne_nil hrest]
  exact mem_cons_self

theorem Progresses.turn (h : s.Progresses limit) (hturn : Turns limit s s') : s'.Progresses limit := by
  have hfits := h.fits
  have hnonempty := h.nonempty
  cases hturn with
  | ended => exact h
  | copy hs hrest =>
    rw [hs, dropLast_cons_of_ne_nil hrest] at hfits
    exact ⟨fun tile htile => hfits tile (mem_cons_of_mem _ htile), by simp [copy], hnonempty⟩
  | send hs hrest hlt =>
    have hfragment := h.fragment_ne hs hrest hlt
    exact ⟨hfits, fun _ => rfl, by simpa [send, or_imp, forall_and, hfragment] using hnonempty⟩
  | last hs => exact ⟨by simp [copy, send], fun _ => rfl, by simpa [copy, send, or_imp, forall_and] using hnonempty⟩

/-- The number of tiles that are left decreases, or an update that is not empty is sent. -/
def left (s : Fragments) : Nat := 2 * s.rest.length + min 1 s.fragBitmapData.length

theorem Progresses.left_lt (h : s.Progresses limit) (hs : s.rest ≠ []) (hturn : Turns limit s s') :
    s'.left < s.left := by
  unfold left
  cases hturn with
  | ended hs' => exact absurd hs' hs
  | copy hs' =>
    simp only [hs', copy, length_append, length_cons]
    omega
  | send hs' hrest hlt =>
    have hpos := length_pos_iff.mpr (h.fragment_ne hs' hrest hlt)
    simp only [send, length_nil]
    omega
  | last hs' => simp [hs', copy, send]

theorem Progresses.ends (h : s.Progresses limit) : ∃ turns, ((step limit)^[turns] s).rest = [] := by
  induction hleft : s.left using Nat.strong_induction_on generalizing s with
  | _ n ih =>
    by_cases hs : s.rest = []
    · exact ⟨0, hs⟩
    · have hturn := s.turns limit
      obtain ⟨turns, hturns⟩ := ih _ (hleft ▸ h.left_lt hs hturn) (h.turn hturn) rfl
      exact ⟨turns + 1, hturns⟩

/-- A tile that does not fit is not the last one. -/
structure Stuck (limit : UInt32) (s : Fragments) : Prop where
  stuck : ∃ tile ∈ s.rest.dropLast, limit.toNat ≤ 1040 + tile.bitmapLength.toNat
  lengths : ∀ tile ∈ s.rest, tile.bitmapLength.toNat ≤ 16384
  size : 1024 ≤ s.updateSize.toNat ∧ s.updateSize.toNat ≤ 17424

theorem Stuck.turn (h : s.Stuck limit) (hturn : Turns limit s s') : s'.Stuck limit := by
  obtain ⟨⟨large, hlarge, hlimit⟩, hlengths, hsize⟩ := h
  cases hturn with
  | ended hs => simp [hs] at hlarge
  | @copy tile rest hs hrest hlt =>
    rw [hs] at hlarge hlengths
    have hlen := hlengths tile mem_cons_self
    have hlen' := hlengths large (mem_of_mem_dropLast hlarge)
    have hnew := @toNat_newUpdateSize s.updateSize tile.bitmapLength (by omega)
    rw [UInt32.lt_iff_toNat_lt, hnew] at hlt
    rw [dropLast_cons_of_ne_nil hrest, mem_cons] at hlarge
    refine ⟨⟨large, hlarge.resolve_left ?_, hlimit⟩, fun tile htile => hlengths tile (mem_cons_of_mem _ htile), ?_⟩
    · rintro rfl
      omega
    · simp only [copy, hnew]
      omega
  | send hs => exact ⟨⟨large, hlarge, hlimit⟩, hlengths, by simp [send]⟩
  | last hs => simp [hs] at hlarge

end Fragments

theorem load_append (tiles tiles' : List BitmapData) : load (tiles ++ tiles') = load tiles + load tiles' := by
  simp [load]

theorem load_singleton (tile : BitmapData) : load [tile] = tile.bitmapLength.toNat + 16 := by
  simp [load]

namespace Fragments

variable {limit : UInt32} {s s' : Fragments} {tile : BitmapData} {rest tiles : List BitmapData}

theorem step_copy (hs : s.rest = tile :: rest) (hrest : rest ≠ [])
    (hlt : s.updateSize + (tile.bitmapLength + 16) < limit) :
    s.step limit = s.copy tile rest (s.updateSize + (tile.bitmapLength + 16)) := by
  simp [step, hs, hrest, hlt]

theorem step_send (hs : s.rest = tile :: rest) (hrest : rest ≠ [])
    (hlt : ¬s.updateSize + (tile.bitmapLength + 16) < limit) : s.step limit = s.send := by
  simp [step, hs, hrest, hlt]

def Small (limit : UInt32) (s : Fragments) : Prop := ∀ update ∈ s.updates, 1024 + load update ≤ limit.toNat

def AlwaysSmall (limit : UInt32) (s : Fragments) : Prop := ∀ turns, ((step limit)^[turns] s).Small limit

theorem Turns.subset (hturn : Turns limit s s') : s.updates ⊆ s'.updates := by
  cases hturn <;> simp [Fragments.copy, Fragments.send]

theorem alwaysSmall_step_iff : (s.step limit).AlwaysSmall limit ↔ s.AlwaysSmall limit := by
  constructor
  · rintro h (_ | turns)
    · exact fun update hupdate => h 0 update ((s.turns limit).subset hupdate)
    · exact h turns
  · exact fun h turns => h (turns + 1)

theorem alwaysSmall_iff_of_ended (hs : s.rest = []) : s.AlwaysSmall limit ↔ s.Small limit := by
  refine ⟨fun h => h 0, fun h turns => ?_⟩
  have hfixed : s.step limit = s := by simp [step, hs]
  rwa [Function.iterate_fixed hfixed]

/-- A sum of more than 32 bits is forgotten, but its tiles are sent. -/
theorem not_alwaysSmall (hrest : s.rest ≠ []) (hload : 2 ^ 32 ≤ 1024 + load s.fragBitmapData) :
    ¬s.AlwaysSmall limit := by
  have hlimit := limit.toNat_lt
  induction hlen : s.rest.length generalizing s with
  | zero => exact absurd (eq_nil_of_length_eq_zero hlen) hrest
  | succ n ih =>
    rw [← alwaysSmall_step_iff]
    have hturn := s.turns limit
    generalize s.step limit = s' at hturn ⊢
    cases hturn with
    | ended hs => exact absurd hs hrest
    | copy hs hrest => exact ih hrest (by simp only [copy, load_append]; omega) (by simp_all [copy])
    | send =>
      intro h
      have hsmall := h 0 s.fragBitmapData (by simp [send])
      omega
    | @last tile =>
      intro h
      have hsmall := h 0 (s.fragBitmapData ++ [tile]) (by simp [copy, send])
      rw [load_append] at hsmall
      omega

theorem alwaysSmall_iff (hs : s.rest = tiles) (hfits : ∀ tile ∈ tiles, 1040 + tile.bitmapLength.toNat < limit.toNat)
    (hsize : s.updateSize.toNat = 1024 + load s.fragBitmapData) (hlt : s.updateSize.toNat < limit.toNat) :
    s.AlwaysSmall limit ↔ s.Small limit ∧ Packs limit.toNat s.updateSize.toNat tiles := by
  have hlimit := limit.toNat_lt
  induction tiles generalizing s with
  | nil => simp [alwaysSmall_iff_of_ended hs, Packs]
  | cons tile rest ih =>
    have hfit := hfits tile mem_cons_self
    have hrest' := fun tile htile => hfits tile (mem_cons_of_mem _ htile)
    rw [← alwaysSmall_step_iff]
    cases rest with
    | nil =>
      have hlast : s.step limit = (s.copy tile [] (s.updateSize + (tile.bitmapLength + 16))).send := by simp [step, hs]
      rw [hlast, alwaysSmall_iff_of_ended rfl, Packs, hsize, ← load_singleton, Nat.add_assoc, ← load_append]
      simp [Small, copy, send, or_imp, forall_and]
    | cons tile' rest =>
      have hne := cons_ne_nil tile' rest
      have hcopy (s : Fragments) (hsize : s.updateSize.toNat = 1024 + load s.fragBitmapData)
          (hlt : s.updateSize.toNat + (tile.bitmapLength.toNat + 16) < limit.toNat) :
          (s.copy tile (tile' :: rest) (s.updateSize + (tile.bitmapLength + 16))).AlwaysSmall limit ↔
            s.Small limit ∧ Packs limit.toNat (s.updateSize.toNat + (tile.bitmapLength.toNat + 16)) (tile' :: rest) := by
        have hnew := toNat_newUpdateSize (hlt.trans hlimit)
        rw [← hnew]
        refine ih rfl hrest' ?_ (hnew ▸ hlt)
        simp only [copy, hnew, load_append, load_singleton]
        omega
      by_cases hwrap : s.updateSize.toNat + (tile.bitmapLength.toNat + 16) < 2 ^ 32
      · have hnew := toNat_newUpdateSize hwrap
        by_cases hnext : s.updateSize.toNat + (tile.bitmapLength.toNat + 16) < limit.toNat
        · rw [step_copy hs hne (UInt32.lt_iff_toNat_lt.mpr (hnew ▸ hnext)), hcopy s hsize hnext, Packs, if_pos hnext]
        · rw [step_send hs hne fun h => hnext (hnew ▸ UInt32.lt_iff_toNat_lt.mp h), ← alwaysSmall_step_iff,
            step_copy (s := s.send) hs hne (start_lt hfit), hcopy s.send rfl (by simp [send]; omega), Packs, if_neg hnext,
            and_iff_right hwrap]
          simp [Small, send, or_imp, forall_and, ← hsize, hlt.le]
      · have hnew : (s.updateSize + (tile.bitmapLength + 16)).toNat < limit.toNat := by
          rw [UInt32.toNat_add, UInt32.toNat_add]
          simp
          omega
        rw [step_copy hs hne (UInt32.lt_iff_toNat_lt.mpr hnew), Packs, if_neg (by omega)]
        refine iff_of_false (not_alwaysSmall hne ?_) (by omega)
        simp only [copy, load_append, load_singleton]
        omega

end Fragments

end FreeRDS.Core
