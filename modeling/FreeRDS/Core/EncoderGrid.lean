import FreeRDS.Core.PaintBounds

/-! # The grid of the encoder

An encoder has a buffer for each tile of the desktop that it was created for. What is painted is cut into tiles as well,
and each tile that is large enough takes the next buffer.
-/

namespace FreeRDS.Core

open Lib Backend List

/-! ## Tiles -/

structure Axis where
  start : Int
  size : Int

namespace Axis

variable (axis : Axis)

def align : Axis := ⟨axis.start - axis.start.tmod 4, axis.size + axis.start.tmod 4⟩

def tiles : Int := axis.size.tdiv 64 + if axis.size.tmod 64 ≠ 0 then 1 else 0

def widen : Axis := ⟨axis.start - axis.size.tmod 4, axis.size + axis.size.tmod 4⟩

def clip (limit : Int) (axis : Axis) : Axis :=
  let axis := if axis.start < 0 then ⟨0, axis.size + axis.start⟩ else axis
  let extra := axis.start + axis.size - limit
  if 0 < extra then { axis with size := axis.size - extra } else axis

/-- An `int` as a `UINT32`. -/
def unsigned (value : Int) : Int := value % 2 ^ 32

def dest (index : Nat) : Int := unsigned (axis.start + index * 64)

/-- The members of `BITMAP_DATA` have no sign: behind the end of the axis the size of a tile wraps. -/
def tileSize (index : Nat) : Int :=
  if unsigned (axis.start + axis.size) < unsigned (axis.dest index + 64) then
    unsigned (axis.start + axis.size - axis.dest index)
  else 64

end Axis

/-- The state of the loop is the number `k` of the next buffer, and the numbers that were used. A tile that is too small
is left out. -/
def drawTile (width height : Int) (state : Nat × List Nat) : Nat × List Nat :=
  if width < 4 ∨ height < 4 then state else (state.1 + 1, state.2 ++ [state.1])

variable (framebuffer : Framebuffer) (msg : PaintRect)

/-- The buffers that `freerds_send_bitmap_update` uses. -/
def sendBitmapUpdate : List Nat :=
  let x := Axis.align ⟨signed msg.nLeftRect, signed msg.nWidth⟩
  let y := Axis.align ⟨signed msg.nTopRect, signed msg.nHeight⟩
  let rows := y.tiles
  let cols := x.tiles
  let x := x.widen.clip (signed framebuffer.fbWidth)
  let y := y.widen.clip (signed framebuffer.fbHeight)
  if x.size ≤ 0 ∨ y.size ≤ 0 then []
  else
    ((List.range rows.toNat).foldl (fun state yIdx =>
      (List.range cols.toNat).foldl (fun state xIdx => drawTile (x.tileSize xIdx) (y.tileSize yIdx) state) state)
      (0, [])).2

structure Tile where
  destLeft : Int
  destTop : Int
  width : Int
  height : Int
  deriving DecidableEq

variable (x y : Axis) (cols rows : Int)

def tileGrid : List Tile :=
  (List.range rows.toNat).flatMap fun yIdx =>
    (List.range cols.toNat).map fun xIdx => ⟨x.dest xIdx, y.dest yIdx, x.tileSize xIdx, y.tileSize yIdx⟩

/-- The tiles of the loop of `freerds_send_bitmap_update`, with those that are left out. -/
def loopTiles : List Tile :=
  let x := Axis.align ⟨signed msg.nLeftRect, signed msg.nWidth⟩
  let y := Axis.align ⟨signed msg.nTopRect, signed msg.nHeight⟩
  let rows := y.tiles
  let cols := x.tiles
  let x := x.widen.clip (signed framebuffer.fbWidth)
  let y := y.widen.clip (signed framebuffer.fbHeight)
  if x.size ≤ 0 ∨ y.size ≤ 0 then [] else tileGrid x y cols rows

/-- The tiles that are passed to a compressor. -/
def compressedTiles : List Tile :=
  (loopTiles framebuffer msg).filter fun tile => 4 ≤ tile.width ∧ 4 ≤ tile.height

theorem foldl_drawTile (tiles : List Tile) (k : Nat) :
    tiles.foldl (fun state tile => drawTile tile.width tile.height state) (k, List.range k) =
      (k + tiles.countP fun tile => 4 ≤ tile.width ∧ 4 ≤ tile.height,
        List.range (k + tiles.countP fun tile => 4 ≤ tile.width ∧ 4 ≤ tile.height)) := by
  induction tiles generalizing k with
  | nil => rfl
  | cons tile tiles ih =>
    rw [foldl_cons, drawTile]
    split
    next hdrawn => rw [ih, countP_cons_of_neg (by simp; omega)]
    next hdrawn =>
      rw [← range_succ, ih, countP_cons_of_pos (by simp; omega), Nat.add_right_comm, Nat.add_assoc]

theorem foldl_tileGrid :
    ((List.range rows.toNat).foldl (fun state yIdx =>
      (List.range cols.toNat).foldl (fun state xIdx => drawTile (x.tileSize xIdx) (y.tileSize yIdx) state) state)
      (0, [])).2 =
      List.range ((tileGrid x y cols rows).countP fun tile => 4 ≤ tile.width ∧ 4 ≤ tile.height) := by
  have hloop := congrArg Prod.snd (foldl_drawTile (tileGrid x y cols rows) 0)
  simpa only [tileGrid, foldl_flatMap, foldl_map, Nat.zero_add, range_zero] using hloop

theorem sendBitmapUpdate_eq_range :
    sendBitmapUpdate framebuffer msg = List.range (compressedTiles framebuffer msg).length := by
  unfold sendBitmapUpdate compressedTiles loopTiles
  simp only
  split
  next => rfl
  next => rw [← countP_eq_length_filter, foldl_tileGrid]

def Axis.drawn (axis : Axis) (count : Int) : Nat := (List.range count.toNat).countP fun index => 4 ≤ axis.tileSize index

theorem countP_tileGrid :
    (tileGrid x y cols rows).countP (fun tile => 4 ≤ tile.width ∧ 4 ≤ tile.height) = y.drawn rows * x.drawn cols := by
  unfold tileGrid Axis.drawn
  induction range rows.toNat with
  | nil => simp
  | cons yIdx indices ih =>
    rw [flatMap_cons, countP_append, ih, countP_map, countP_cons]
    by_cases hhgt : 4 ≤ y.tileSize yIdx
    · simp [Function.comp_def, hhgt, Nat.add_mul, Nat.add_comm]
    · simp [hhgt]

theorem sendBitmapUpdate_eq :
    let x := Axis.align ⟨signed msg.nLeftRect, signed msg.nWidth⟩
    let y := Axis.align ⟨signed msg.nTopRect, signed msg.nHeight⟩
    let x' := x.widen.clip (signed framebuffer.fbWidth)
    let y' := y.widen.clip (signed framebuffer.fbHeight)
    sendBitmapUpdate framebuffer msg =
      if x'.size ≤ 0 ∨ y'.size ≤ 0 then [] else List.range (y'.drawn y.tiles * x'.drawn x.tiles) := by
  intro x y x' y'
  rw [sendBitmapUpdate_eq_range, compressedTiles, loopTiles]
  split
  next => rfl
  next =>
    rw [← countP_eq_length_filter, countP_tileGrid]

/-! ## How many tiles there are -/

theorem signed_lt (n : UInt32) : signed n < 2 ^ 31 := by
  have hlt := n.toNat_lt
  unfold signed
  split <;> omega

theorem countP_range_lt (n m : Nat) : (List.range n).countP (fun index => index < m) = min n m := by
  induction n with
  | zero => simp
  | succ n ih =>
    rw [range_succ, countP_append, ih, countP_singleton]
    by_cases h : n < m
    all_goals
      simp [h]
      omega

def tilesFor (size : Int) : Nat := ((size + 60) / 64).toNat

namespace Axis

variable {axis : Axis} {limit : Int}

theorem drawn_eq (hstart : 0 ≤ axis.start) (hend : axis.start + axis.size < 2 ^ 31) {count : Int}
    (hcnt : count * 64 < axis.size + 64) : axis.drawn count = min count.toNat (tilesFor axis.size) := by
  rw [drawn, ← countP_range_lt]
  refine countP_congr fun index hidx => ?_
  have hlt := mem_range.mp hidx
  rw [decide_eq_true_iff, decide_eq_true_iff, tileSize, dest, tilesFor]
  unfold unsigned
  split <;> omega

theorem clip_widen_align (limit : Int) (hstart : 0 ≤ axis.start) (hsize : 0 ≤ axis.size) :
    (axis.align.widen.clip limit).start = max 0 (axis.start - axis.start % 4 - (axis.size + axis.start % 4) % 4) ∧
      (axis.align.widen.clip limit).start + (axis.align.widen.clip limit).size = min (axis.start + axis.size) limit := by
  unfold clip widen align
  simp only [Int.tmod_eq_emod_of_nonneg hstart]
  rw [Int.tmod_eq_emod_of_nonneg (by omega)]
  split <;> split <;> simp only at * <;> omega

section

variable (hstart : 0 ≤ axis.start) (hsize : 0 ≤ axis.size)

include hstart hsize

theorem tiles_align :
    axis.align.tiles = (axis.size + axis.start % 4 + 63) / 64 := by
  unfold tiles align
  simp only [Int.tmod_eq_emod_of_nonneg hstart]
  rw [Int.tdiv_eq_ediv_of_nonneg (by omega), Int.tmod_eq_emod_of_nonneg (by omega)]
  split <;> omega

theorem drawn_clip (hend : axis.start + axis.size ≤ limit)
    (hlimit : limit < 2 ^ 31) : (axis.align.widen.clip limit).drawn axis.align.tiles =
      min axis.align.tiles.toNat (tilesFor (axis.align.widen.clip limit).size) := by
  have hclip := clip_widen_align limit hstart hsize
  have htiles := tiles_align hstart hsize
  exact drawn_eq (by omega) (by omega) (by omega)

theorem drawn_le (hend : axis.start + axis.size ≤ limit)
    (hlimit : limit < 2 ^ 31) : (axis.align.widen.clip limit).drawn axis.align.tiles ≤ tilesFor limit := by
  have hclip := clip_widen_align limit hstart hsize
  rw [drawn_clip hstart hsize hend hlimit, tilesFor, tilesFor]
  omega

end

theorem drawn_full (hlimit : 0 ≤ limit) (hlimit' : limit < 2 ^ 31) :
    let full : Axis := ⟨0, limit⟩
    (full.align.widen.clip limit).size = limit ∧
      (full.align.widen.clip limit).drawn full.align.tiles = tilesFor limit := by
  intro full
  have hfull : full.start = 0 ∧ full.size = limit := ⟨rfl, rfl⟩
  have hclip := @clip_widen_align full limit le_rfl hlimit
  have htiles := @tiles_align full le_rfl hlimit
  have hsize : (full.align.widen.clip limit).size = limit := by omega
  refine ⟨hsize, ?_⟩
  rw [drawn_clip le_rfl hlimit (by omega) hlimit', hsize, tilesFor]
  omega

end Axis

/-! ## The buffers -/

/-- `rdsEncoder`, as far as its grid. -/
structure Encoder where
  width : UInt32
  height : UInt32
  gridWidth : Int
  gridHeight : Int

/-- The tiles of an axis of the desktop. The sum is one of 32 bits. -/
def gridSize (size : UInt32) : Int := (signed (size + 63)).tdiv 64

/-- `freerds_encoder_new` and `freerds_encoder_init_grid`. -/
def Encoder.new (desktop : Desktop) : Encoder :=
  ⟨desktop.width, desktop.height, gridSize desktop.width, gridSize desktop.height⟩

def Encoder.capacity (encoder : Encoder) : Int := encoder.gridWidth * encoder.gridHeight

structure OnFramebuffer : Prop extends Within framebuffer msg where
  left : 0 ≤ signed msg.nLeftRect
  top : 0 ≤ signed msg.nTopRect

def tilesOf (framebuffer : Framebuffer) : Nat :=
  tilesFor (signed framebuffer.fbHeight) * tilesFor (signed framebuffer.fbWidth)

section

variable {framebuffer : Framebuffer} {msg : PaintRect}

theorem OnFramebuffer.lt_tilesOf (h : OnFramebuffer framebuffer msg) {k : Nat}
    (hk : k ∈ sendBitmapUpdate framebuffer msg) : k < tilesOf framebuffer := by
  rw [sendBitmapUpdate_eq] at hk
  split at hk
  next => exact absurd hk not_mem_nil
  next =>
    have hx := @Axis.drawn_le ⟨_, _⟩ _ h.left h.width h.right (signed_lt _)
    have hy := @Axis.drawn_le ⟨_, _⟩ _ h.top h.height h.bottom (signed_lt _)
    exact (mem_range.mp hk).trans_le (Nat.mul_le_mul hy hx)

def wholeRect (framebuffer : Framebuffer) : PaintRect where
  nLeftRect := 0
  nTopRect := 0
  nWidth := framebuffer.fbWidth
  nHeight := framebuffer.fbHeight
  nXSrc := 0
  nYSrc := 0
  bitmapData := .null
  bitmapDataLength := 0
  fbSegmentId := framebuffer.fbSegmentId
  framebuffer := .data ()

theorem wholeRect_tiles (hwid : 0 < signed framebuffer.fbWidth) (hhgt : 0 < signed framebuffer.fbHeight) :
    sendBitmapUpdate framebuffer (wholeRect framebuffer) = List.range (tilesOf framebuffer) := by
  obtain ⟨hx, hx'⟩ := Axis.drawn_full hwid.le (signed_lt _)
  obtain ⟨hy, hy'⟩ := Axis.drawn_full hhgt.le (signed_lt _)
  have hzero : signed 0 = 0 := rfl
  rw [sendBitmapUpdate_eq, wholeRect, hzero, hx, hy, hx', hy', if_neg (by omega), tilesOf]

theorem tiles_lt_iff (capacity : Int) :
    (∀ msg, OnFramebuffer framebuffer msg → ∀ k ∈ sendBitmapUpdate framebuffer msg, (k : Int) < capacity) ↔
      tilesOf framebuffer = 0 ∨ tilesOf framebuffer ≤ capacity := by
  constructor
  · intro h
    by_cases hnone : tilesOf framebuffer = 0
    · exact .inl hnone
    have hpos := Nat.pos_of_ne_zero hnone
    have hhgt : 0 < tilesFor (signed framebuffer.fbHeight) := Nat.pos_of_mul_pos_right hpos
    have hwid : 0 < tilesFor (signed framebuffer.fbWidth) := Nat.pos_of_mul_pos_left hpos
    unfold tilesFor at hhgt hwid
    have hzero : signed 0 = 0 := rfl
    have hwhole : OnFramebuffer framebuffer (wholeRect framebuffer) := by
      constructor
      · constructor <;> simp only [wholeRect, hzero] <;> omega
      all_goals exact le_rfl
    have hlast := h _ hwhole (tilesOf framebuffer - 1) (by
      rw [wholeRect_tiles (by omega) (by omega), mem_range]
      omega)
    exact .inr (by omega)
  · intro h msg hmsg k hk
    have hlt := hmsg.lt_tilesOf hk
    omega

end

/-! ## Runs -/

structure Peer where
  connector : Connector
  encoder : Option Encoder

namespace Peer

inductive Event where
  | activate
  | connector (event : Connector.Event)

/-- `freerds_peer_activate` makes an encoder for the desktop of that moment. -/
def step (library : RegionLibrary) (peer : Peer) : Event → Peer
  | .activate => { peer with encoder := some (.new peer.connector.desktop) }
  | .connector event => { peer with connector := peer.connector.step library event }

def init (desktop : Desktop) : Peer := ⟨.init desktop, none⟩

/-- Every tile of a rectangle on the framebuffer has a buffer of its own. -/
def GridSafe (peer : Peer) : Prop := ∀ encoder, peer.encoder = some encoder →
  peer.connector.framebuffer.fbAttached = true → ∀ msg, OnFramebuffer peer.connector.framebuffer msg →
    ∀ k ∈ sendBitmapUpdate peer.connector.framebuffer msg, (k : Int) < encoder.capacity

/-- The framebuffer needs no more tiles than the desktop had at the last activation. -/
def Covers (peer : Peer) : Prop := ∀ encoder, peer.encoder = some encoder →
  peer.connector.framebuffer.fbAttached = true → tilesOf peer.connector.framebuffer = 0 ∨
    tilesOf peer.connector.framebuffer ≤ gridSize encoder.width * gridSize encoder.height

def Created (peer : Peer) : Prop := ∀ encoder, peer.encoder = some encoder → encoder = .new ⟨encoder.width, encoder.height⟩

theorem Created.step {peer : Peer} (h : Created peer) (library : RegionLibrary) (event : Event) :
    Created (peer.step library event) := by
  cases event with
  | activate =>
    intro encoder hencoder
    obtain rfl := Option.some_inj.mp hencoder
    rfl
  | connector event => exact h

theorem Created.gridSafe_iff {peer : Peer} (h : Created peer) : GridSafe peer ↔ Covers peer := by
  unfold GridSafe Covers
  refine forall₃_congr fun encoder hencoder hatt => ?_
  rw [tiles_lt_iff, h encoder hencoder]
  rfl

/-- In every state of every run, each tile has its buffer exactly when the framebuffer needs no more tiles than the
desktop of the last activation. -/
theorem grid_capacity_iff (library : RegionLibrary) (desktop : Desktop) (events : List Event) (j : Nat) :
    GridSafe ((events.take j).foldl (step library) (init desktop)) ↔
      Covers ((events.take j).foldl (step library) (init desktop)) := by
  have hcreated : Created ((events.take j).foldl (step library) (init desktop)) :=
    Along.always_of_invariant (P := fun _ _ => True) (fun _ event h _ => h.step library event)
      (fun _ hencoder => by cases hencoder) (.of_forall fun _ _ => trivial) j
  exact hcreated.gridSafe_iff

/-- The framebuffer becomes larger after the activation: it needs 510 tiles, and there are 192 buffers. -/
theorem grid_too_small :
    ¬GridSafe ([Event.activate, .connector (.enqueue (Sample.attach 1920 1080)), .connector .pack,
      .connector (.process true)].foldl (step .strict) (init ⟨1024, 768⟩)) := by
  intro h
  have htiles := (tiles_lt_iff _).mp (h _ rfl rfl)
  exact absurd htiles (by decide)

end Peer

end FreeRDS.Core
