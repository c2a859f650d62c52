import FreeRDS.Core.EncoderGrid

/-! # Where the tiles are

`freerds_send_bitmap_update` cuts the two axes of a rectangle independently, so a fact about its tiles follows from the
pieces of one axis. How many pieces there are is counted before the axis is widened and clipped.
-/

namespace FreeRDS.Core

open Backend

/-! ## One axis -/

namespace Axis

variable {axis : Axis} {limit dest width : Int}

/-- The place and the size of a tile, as the loop computes them. -/
def Piece (limit : Int) (axis : Axis) (dest width : Int) : Prop :=
  0 < (axis.align.widen.clip limit).size ∧ ∃ index : Nat, index < axis.align.tiles ∧
    dest = (axis.align.widen.clip limit).dest index ∧ width = (axis.align.widen.clip limit).tileSize index

def Kept (limit : Int) (axis : Axis) (dest width : Int) : Prop := axis.Piece limit dest width ∧ 4 ≤ width

theorem dest_eq {index : Nat} (hstart : 0 ≤ axis.start) (hidx : axis.start + 64 * index < 2 ^ 32) :
    axis.dest index = axis.start + 64 * index := by
  unfold Axis.dest unsigned
  omega

/-- Behind the end of the axis the size wraps. -/
theorem tileSize_eq {index : Nat} (hstart : 0 ≤ axis.start) (hidx : axis.start + 64 * index + 64 < 2 ^ 32)
    (hpos : 0 ≤ axis.start + axis.size) (hstop : axis.start + axis.size < 2 ^ 31) :
    axis.tileSize index =
      if axis.start + 64 * index ≤ axis.start + axis.size then min 64 (axis.size - 64 * index)
      else axis.size - 64 * index + 2 ^ 32 := by
  rw [tileSize, dest_eq hstart (by omega)]
  unfold unsigned
  split <;> split <;> omega

/-- The end of the axis after the clipping, from which the sizes are computed. -/
def stop (limit : Int) (axis : Axis) : Int := (axis.align.widen.clip limit).start + (axis.align.widen.clip limit).size

/-- The size that is counted. -/
def counted (axis : Axis) : Int := axis.size + axis.start % 4

/-- Where the first tile starts. -/
def first (axis : Axis) : Int := max 0 (axis.start - axis.start % 4 - axis.counted % 4)

/-- Where the last tile that is counted starts. -/
def last (axis : Axis) : Int := axis.first + (axis.counted - 1) / 64 * 64

/-- An axis on which no number overflows. -/
structure Bounded (limit : Int) (axis : Axis) : Prop where
  start : 0 ≤ axis.start
  size : 0 ≤ axis.size
  sum : axis.start + axis.size < 2 ^ 31
  pos : 0 < limit
  limit : limit < 2 ^ 31

namespace Bounded

variable (h : axis.Bounded limit)

include h

theorem stop_eq : axis.stop limit = min (axis.start + axis.size) limit :=
  (clip_widen_align limit h.start h.size).2

theorem piece_iff :
    axis.Piece limit dest width ↔ axis.first < limit ∧ ∃ index : Nat, 64 * index < axis.counted ∧
      dest = axis.first + 64 * index ∧ width = if dest ≤ axis.stop limit then min 64 (axis.stop limit - dest)
        else axis.stop limit - dest + 2 ^ 32 := by
  obtain ⟨hstart, hsize, hend, hpos, hlimit⟩ := h
  obtain ⟨hfirst, hstop⟩ := clip_widen_align limit hstart hsize
  rw [Piece, tiles_align hstart hsize, Axis.stop, first, counted, ← hfirst]
  constructor
  · rintro ⟨hpcs, index, hidx, rfl, rfl⟩
    rw [dest_eq (by omega) (by omega), tileSize_eq (by omega) (by omega) (by omega) (by omega)]
    exact ⟨by omega, index, by omega, rfl, by split <;> omega⟩
  · rintro ⟨hpcs, index, hidx, rfl, rfl⟩
    refine ⟨by omega, index, by omega, ?_⟩
    rw [dest_eq (by omega) (by omega), tileSize_eq (by omega) (by omega) (by omega) (by omega)]
    exact ⟨rfl, by split <;> omega⟩

theorem exists_piece_iff :
    (∃ dest width, axis.Piece limit dest width) ↔ 0 < axis.counted ∧ axis.first < limit := by
  simp only [h.piece_iff]
  constructor
  · rintro ⟨dest, width, hlimit, index, hidx, -⟩
    exact ⟨by omega, hlimit⟩
  · rintro ⟨hpos, hlimit⟩
    exact ⟨_, _, hlimit, 0, by omega, rfl, rfl⟩

/-- No size wraps exactly when no tile that is counted starts behind the limit. -/
theorem exact_iff (hpos : 0 < axis.counted) (hfirst : axis.first < limit) :
    (∀ dest width, axis.Piece limit dest width → dest + 64 < 2 ^ 32 ∧ dest ≤ axis.stop limit) ↔ axis.last ≤ limit := by
  have hbounded := h
  obtain ⟨hstart, hsize, hend, -, hlimit⟩ := h
  simp only [hbounded.piece_iff, hbounded.stop_eq]
  unfold last first counted at *
  constructor
  · intro hall
    have hlast := hall _ _ ⟨hfirst, ((axis.size + axis.start % 4 - 1) / 64).toNat, by omega, rfl, rfl⟩
    omega
  · rintro hlast dest width ⟨-, index, hidx, rfl, -⟩
    omega

theorem inside (hkept : axis.Kept limit dest width) (hexact : dest ≤ axis.stop limit) :
    width ≤ 64 ∧ 0 ≤ dest ∧ dest + width ≤ limit := by
  obtain ⟨hpiece, hwid⟩ := hkept
  obtain ⟨-, index, hidx, hdest, hsize⟩ := h.piece_iff.mp hpiece
  rw [if_pos hexact] at hsize
  have hstop := h.stop_eq
  unfold first at hdest
  omega

end Bounded

/-- Every place of the axis is on a tile that is kept. -/
def Covered (limit : Int) (axis : Axis) : Prop := ∀ place, axis.start ≤ place → place < axis.start + axis.size →
  ∃ dest width, axis.Kept limit dest width ∧ dest ≤ place ∧ place < dest + width

/-- What is left for the last tile is large enough, and the last tile was counted. -/
structure Divides (axis : Axis) : Prop where
  one : axis.counted % 64 ≠ 1
  edge : axis.start < 4 → axis.counted % 64 ≠ 2 ∧ axis.counted % 64 ≠ 3
  inner : 4 ≤ axis.start → axis.counted % 64 ≠ 63

/-- The axis is so short that its only tile is left out. -/
def Short (axis : Axis) : Prop := axis.counted = 1 ∨ axis.start < 4 ∧ axis.counted < 4

/-- The counted size is a multiple of four, or the axis is not moved and the tile that is not whole is left out. -/
def Even (axis : Axis) : Prop := axis.counted % 4 = 0 ∨ axis.start < 4 ∧ axis.counted % 64 < 4

section

variable (h : axis.Bounded limit) (hpos : 0 < axis.size) (hend : axis.start + axis.size ≤ limit)

include h hpos hend

theorem covered_iff : axis.Covered limit ↔ axis.Divides := by
  have hstart := h.start
  have hfirst : axis.first < limit := by
    unfold first counted
    omega
  unfold Covered Kept
  simp only [h.piece_iff, h.stop_eq]
  unfold first counted at *
  constructor
  · intro hall
    obtain ⟨dest, width, ⟨⟨-, index, hidx, rfl, rfl⟩, hwid⟩, -, hlast⟩ :=
      hall (axis.start + axis.size - 1) (by omega) (by omega)
    split at hwid
    · constructor <;> unfold counted <;> omega
    · omega
  · rintro ⟨hone, hedge, hinner⟩ place hle hlt
    unfold counted at hone hedge hinner
    refine ⟨_, _, ⟨⟨hfirst, ((place - first axis) / 64).toNat, ?_, rfl, rfl⟩, ?_⟩, ?_, ?_⟩
    all_goals unfold first counted
    · omega
    · rw [if_pos] <;> omega
    · omega
    · rw [if_pos] <;> omega

theorem not_short_iff : (∃ dest width, axis.Kept limit dest width) ↔ ¬axis.Short := by
  have hstart := h.start
  unfold Kept Short
  simp only [h.piece_iff, h.stop_eq]
  unfold first counted
  constructor
  · rintro ⟨dest, width, ⟨-, index, hidx, rfl, rfl⟩, hwid⟩
    split at hwid <;> omega
  · intro hshort
    refine ⟨_, _, ⟨by omega, 0, by omega, rfl, rfl⟩, ?_⟩
    rw [if_pos] <;> omega

theorem even_iff (hshort : ¬axis.Short) :
    (∀ dest width, axis.Kept limit dest width → 4 ∣ dest ∧ 4 ∣ width) ↔ axis.Even := by
  have hstart := h.start
  unfold Kept Even
  unfold Short at hshort
  simp only [h.piece_iff, h.stop_eq]
  unfold first counted at *
  constructor
  · intro hall
    by_contra hodd
    have hzero := hall _ _ ⟨⟨by omega, 0, by omega, rfl, rfl⟩, by rw [if_pos] <;> omega⟩
    have hlast := hall _ _ ⟨⟨by omega, ((axis.size + axis.start % 4 - 1) / 64).toNat, by omega, rfl, rfl⟩,
      by rw [if_pos] <;> omega⟩
    rw [if_pos (by omega)] at hlast
    omega
  · rintro heven dest width ⟨⟨-, index, hidx, rfl, rfl⟩, hwid⟩
    rw [if_pos (by omega)] at hwid ⊢
    omega

end

end Axis

/-! ## The tiles -/

namespace Tile

def Covers (tile : Tile) (x y : Int) : Prop :=
  (tile.destLeft ≤ x ∧ x < tile.destLeft + tile.width) ∧ tile.destTop ≤ y ∧ y < tile.destTop + tile.height

/-- A tile that a compressor may read. -/
structure Inside (framebuffer : Framebuffer) (tile : Tile) : Prop where
  width : 4 ≤ tile.width ∧ tile.width ≤ 64
  height : 4 ≤ tile.height ∧ tile.height ≤ 64
  left : 0 ≤ tile.destLeft ∧ tile.destLeft + tile.width ≤ signed framebuffer.fbWidth
  top : 0 ≤ tile.destTop ∧ tile.destTop + tile.height ≤ signed framebuffer.fbHeight

end Tile

def xAxis (msg : PaintRect) : Axis := ⟨signed msg.nLeftRect, signed msg.nWidth⟩

def yAxis (msg : PaintRect) : Axis := ⟨signed msg.nTopRect, signed msg.nHeight⟩

variable (framebuffer : Framebuffer) (msg : PaintRect)

/-- Every pixel of the rectangle is on a tile that is compressed. -/
def CoveredByTiles : Prop := ∀ x y : Int,
  signed msg.nLeftRect ≤ x → x < signed msg.nLeftRect + signed msg.nWidth →
    signed msg.nTopRect ≤ y → y < signed msg.nTopRect + signed msg.nHeight →
      ∃ tile ∈ compressedTiles framebuffer msg, tile.Covers x y

/-- Every tile that is compressed is on the framebuffer, and no sum or difference of the loop wraps. -/
structure Confined : Prop where
  inside : ∀ tile ∈ compressedTiles framebuffer msg, tile.Inside framebuffer
  exact : ∀ tile ∈ loopTiles framebuffer msg,
    (tile.destLeft + 64 < 2 ^ 32 ∧ tile.destLeft ≤ (xAxis msg).stop (signed framebuffer.fbWidth)) ∧
      tile.destTop + 64 < 2 ^ 32 ∧ tile.destTop ≤ (yAxis msg).stop (signed framebuffer.fbHeight)

def AlignedTiles : Prop := ∀ tile ∈ compressedTiles framebuffer msg,
  (4 ∣ tile.destLeft ∧ 4 ∣ tile.width) ∧ 4 ∣ tile.destTop ∧ 4 ∣ tile.height

namespace Sample

def screen : Framebuffer := ⟨200, 200, true, 0⟩

def rectOf (left top width height : UInt32) : PaintRect :=
  { wholeRect screen with nLeftRect := left, nTopRect := top, nWidth := width, nHeight := height }

theorem onFramebuffer_square : OnFramebuffer screen (rectOf 16 16 64 64) :=
  ⟨⟨by decide, by decide, by decide, by decide⟩, by decide, by decide⟩

end Sample

section

variable {framebuffer : Framebuffer} {msg : PaintRect} {tile : Tile}

theorem mem_loopTiles : tile ∈ loopTiles framebuffer msg ↔
    (xAxis msg).Piece (signed framebuffer.fbWidth) tile.destLeft tile.width ∧
      (yAxis msg).Piece (signed framebuffer.fbHeight) tile.destTop tile.height := by
  unfold loopTiles Axis.Piece xAxis yAxis
  simp only
  split
  next hnone =>
    refine iff_of_false List.not_mem_nil ?_
    rintro ⟨⟨hx, -⟩, hy, -⟩
    omega
  next hsome =>
    simp only [tileGrid, List.mem_flatMap, List.mem_map, List.mem_range, Int.lt_toNat]
    constructor
    · rintro ⟨yIdx, hy, xIdx, hx, rfl⟩
      exact ⟨⟨by omega, xIdx, hx, rfl, rfl⟩, by omega, yIdx, hy, rfl, rfl⟩
    · rintro ⟨⟨-, xIdx, hx, hleft, hwid⟩, -, yIdx, hy, htop, hhgt⟩
      refine ⟨yIdx, hy, xIdx, hx, ?_⟩
      rw [← hleft, ← hwid, ← htop, ← hhgt]

theorem mem_compressedTiles : tile ∈ compressedTiles framebuffer msg ↔
    (xAxis msg).Kept (signed framebuffer.fbWidth) tile.destLeft tile.width ∧
      (yAxis msg).Kept (signed framebuffer.fbHeight) tile.destTop tile.height := by
  rw [compressedTiles, List.mem_filter, mem_loopTiles, decide_eq_true_iff, Axis.Kept, Axis.Kept, and_and_and_comm]

/-- A property of both axes of every tile, when a tile is any two pieces of the axes. -/
theorem forall_tiles_iff {A B P Q : Int → Int → Prop} {tiles : List Tile}
    (hmem : ∀ tile, tile ∈ tiles ↔ A tile.destLeft tile.width ∧ B tile.destTop tile.height) :
    (∀ tile ∈ tiles, P tile.destLeft tile.width ∧ Q tile.destTop tile.height) ↔
      ((∃ dest width, A dest width) → (∃ dest height, B dest height) →
        (∀ dest width, A dest width → P dest width) ∧ ∀ dest height, B dest height → Q dest height) := by
  constructor
  · rintro h ⟨left, width, hA⟩ ⟨top, height, hB⟩
    exact ⟨fun left' width' hA' => (h ⟨left', top, width', height⟩ ((hmem _).mpr ⟨hA', hB⟩)).1,
      fun top' height' hB' => (h ⟨left, top', width, height'⟩ ((hmem _).mpr ⟨hA, hB'⟩)).2⟩
  · intro h tile htile
    obtain ⟨hA, hB⟩ := (hmem tile).mp htile
    obtain ⟨hP, hQ⟩ := h ⟨_, _, hA⟩ ⟨_, _, hB⟩
    exact ⟨hP _ _ hA, hQ _ _ hB⟩

section

variable (h : OnFramebuffer framebuffer msg) (hwid : 0 < signed msg.nWidth) (hhgt : 0 < signed msg.nHeight)

include h hwid hhgt

theorem OnFramebuffer.bounded :
    (xAxis msg).Bounded (signed framebuffer.fbWidth) ∧ (yAxis msg).Bounded (signed framebuffer.fbHeight) := by
  have hright := h.right
  have hbottom := h.bottom
  have hleft := h.left
  have htop := h.top
  exact ⟨⟨hleft, hwid.le, hright.trans_lt (signed_lt _), by omega, signed_lt _⟩,
    htop, hhgt.le, hbottom.trans_lt (signed_lt _), by omega, signed_lt _⟩

/-- Every pixel of a rectangle on the framebuffer is compressed exactly when both of its axes divide into tiles that
are counted and large enough. -/
theorem tiles_cover_iff :
    CoveredByTiles framebuffer msg ↔ (xAxis msg).Divides ∧ (yAxis msg).Divides := by
  obtain ⟨hx, hy⟩ := h.bounded hwid hhgt
  rw [← Axis.covered_iff hx hwid h.right, ← Axis.covered_iff hy hhgt h.bottom]
  constructor
  · intro hall
    constructor
    · intro x hle hlt
      obtain ⟨tile, htile, hcovers, -⟩ := hall x (signed msg.nTopRect) hle hlt le_rfl (by omega)
      exact ⟨_, _, (mem_compressedTiles.mp htile).1, hcovers⟩
    · intro y hle hlt
      obtain ⟨tile, htile, -, hcovers⟩ := hall (signed msg.nLeftRect) y le_rfl (by omega) hle hlt
      exact ⟨_, _, (mem_compressedTiles.mp htile).2, hcovers⟩
  · rintro ⟨hallX, hallY⟩ x y hleft hright htop hbottom
    obtain ⟨left, width, hkept, hx⟩ := hallX x hleft hright
    obtain ⟨top, height, hkept', hy⟩ := hallY y htop hbottom
    exact ⟨⟨left, top, width, height⟩, mem_compressedTiles.mpr ⟨hkept, hkept'⟩, hx, hy⟩

end

theorem tiles_cover_iff_square : CoveredByTiles Sample.screen (Sample.rectOf 16 16 64 64) :=
  (tiles_cover_iff Sample.onFramebuffer_square (by decide) (by decide)).mpr
    ⟨⟨by decide, by decide, by decide⟩, by decide, by decide, by decide⟩

/-- The last column of 65 is in a tile of one pixel, which is left out. -/
theorem tiles_leave_column : ¬CoveredByTiles Sample.screen (Sample.rectOf 0 0 65 64) := by
  intro h
  obtain ⟨tile, htile, hcovers⟩ := h 64 0 (by decide) (by decide) (by decide) (by decide)
  have htiles : compressedTiles Sample.screen (Sample.rectOf 0 0 65 64) = [⟨0, 0, 64, 64⟩] := by decide
  rw [htiles, List.mem_singleton] at htile
  rw [htile] at hcovers
  exact absurd hcovers.1.2 (by decide)

/-- The tiles of a rectangle are on the framebuffer, and nothing wraps, exactly when the last tiles that are counted do
not start behind its edges, or there are no tiles at all. -/
theorem tiles_confined_iff (hfbWid : 0 < signed framebuffer.fbWidth) (hfbHgt : 0 < signed framebuffer.fbHeight)
    (h : ∀ n ∈ [msg.nLeftRect, msg.nTopRect, msg.nWidth, msg.nHeight], n.toNat ≤ 65535) :
    Confined framebuffer msg ↔
      (0 < (xAxis msg).counted ∧ (xAxis msg).first < signed framebuffer.fbWidth →
        0 < (yAxis msg).counted ∧ (yAxis msg).first < signed framebuffer.fbHeight →
          (xAxis msg).last ≤ signed framebuffer.fbWidth ∧ (yAxis msg).last ≤ signed framebuffer.fbHeight) := by
  have hsmall : ∀ n ∈ [msg.nLeftRect, msg.nTopRect, msg.nWidth, msg.nHeight], 0 ≤ signed n ∧ signed n ≤ 65535 := by
    intro n hn
    have hle := h n hn
    rw [signed_of_lt (by omega)]
    omega
  simp only [List.forall_mem_cons, List.not_mem_nil, false_imp_iff, implies_true, and_true] at hsmall
  obtain ⟨hleft, htop, hwid, hhgt⟩ := hsmall
  have hx : (xAxis msg).Bounded (signed framebuffer.fbWidth) :=
    ⟨hleft.1, hwid.1, lt_of_le_of_lt (Int.add_le_add hleft.2 hwid.2) (by decide), hfbWid, signed_lt _⟩
  have hy : (yAxis msg).Bounded (signed framebuffer.fbHeight) :=
    ⟨htop.1, hhgt.1, lt_of_le_of_lt (Int.add_le_add htop.2 hhgt.2) (by decide), hfbHgt, signed_lt _⟩
  have hconfined (hexact : ∀ tile ∈ loopTiles framebuffer msg,
      (tile.destLeft + 64 < 2 ^ 32 ∧ tile.destLeft ≤ (xAxis msg).stop (signed framebuffer.fbWidth)) ∧
        tile.destTop + 64 < 2 ^ 32 ∧ tile.destTop ≤ (yAxis msg).stop (signed framebuffer.fbHeight)) :
      Confined framebuffer msg := by
    refine ⟨fun tile htile => ?_, hexact⟩
    obtain ⟨⟨-, hstopX⟩, -, hstopY⟩ := hexact tile (List.mem_of_mem_filter htile)
    obtain ⟨hkept, hkept'⟩ := mem_compressedTiles.mp htile
    obtain ⟨hwid, hleft⟩ := hx.inside hkept hstopX
    obtain ⟨hhgt, htop⟩ := hy.inside hkept' hstopY
    exact ⟨⟨hkept.2, hwid⟩, ⟨hkept'.2, hhgt⟩, hleft, htop⟩
  rw [show Confined framebuffer msg ↔ _ from ⟨Confined.exact, hconfined⟩, forall_tiles_iff
    (P := fun dest _ => dest + 64 < 2 ^ 32 ∧ dest ≤ (xAxis msg).stop (signed framebuffer.fbWidth))
    (Q := fun dest _ => dest + 64 < 2 ^ 32 ∧ dest ≤ (yAxis msg).stop (signed framebuffer.fbHeight))
    fun tile => mem_loopTiles, hx.exists_piece_iff, hy.exists_piece_iff]
  refine forall₂_congr fun hpiece hpiece' => ?_
  rw [hx.exact_iff hpiece.1 hpiece.2, hy.exact_iff hpiece'.1 hpiece'.2]

theorem tiles_confined_iff_square : Confined Sample.screen (Sample.rectOf 16 16 64 64) :=
  (tiles_confined_iff (by decide) (by decide) (by simp [Sample.rectOf])).mpr fun _ _ => by decide

/-- A rectangle that is passed on as it is: its third column of tiles starts at 228. -/
theorem tiles_overshoot : inboundPaintRect Sample.screen (Sample.rectOf 100 0 200 64) = some (Sample.rectOf 100 0 200 64) ∧
    ¬Confined Sample.screen (Sample.rectOf 100 0 200 64) := by
  refine ⟨by decide, fun h => ?_⟩
  have hins := h.inside ⟨228, 0, 4294967268, 64⟩ (by decide)
  exact absurd hins.width.2 (by decide)

/-- The tiles of a rectangle on the framebuffer are aligned exactly when both axes are even, or one of them is so short
that there are none. -/
theorem tiles_aligned_iff (h : OnFramebuffer framebuffer msg) (hwid : 0 < signed msg.nWidth)
    (hhgt : 0 < signed msg.nHeight) :
    AlignedTiles framebuffer msg ↔
      (xAxis msg).Short ∨ (yAxis msg).Short ∨ (xAxis msg).Even ∧ (yAxis msg).Even := by
  obtain ⟨hx, hy⟩ := h.bounded hwid hhgt
  rw [AlignedTiles, forall_tiles_iff (P := fun dest width => 4 ∣ dest ∧ 4 ∣ width)
    (Q := fun dest height => 4 ∣ dest ∧ 4 ∣ height) fun tile => mem_compressedTiles,
    Axis.not_short_iff hx hwid h.right, Axis.not_short_iff hy hhgt h.bottom]
  by_cases hshort : (xAxis msg).Short
  · simp [hshort]
  by_cases hshort' : (yAxis msg).Short
  · simp [hshort']
  rw [Axis.even_iff hx hwid h.right hshort, Axis.even_iff hy hhgt h.bottom hshort']
  simp [hshort, hshort']

theorem tiles_aligned_iff_square : AlignedTiles Sample.screen (Sample.rectOf 16 16 64 64) :=
  (tiles_aligned_iff Sample.onFramebuffer_square (by decide) (by decide)).mpr
    (.inr (.inr ⟨.inl (by decide), .inl (by decide)⟩))

/-- A width of 62 moves the tiles two pixels to the left. -/
theorem tiles_misaligned : ¬AlignedTiles Sample.screen (Sample.rectOf 16 16 62 64) := by
  intro h
  have halgn := h ⟨14, 16, 64, 64⟩ (by decide)
  exact absurd halgn.1.1 (by decide)

end

end FreeRDS.Core
