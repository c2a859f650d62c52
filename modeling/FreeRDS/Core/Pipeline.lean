import FreeRDS.Backend.Outbound
import FreeRDS.Lib.Boxes

/-! # The pipeline of a connector

The messages of a backend are copied to a list. When the timer fires the list is packed: a message that comes with a
rectangle is dropped, and one painted rectangle takes the place of all of these; every other message is posted to the
queue of the connection.
-/

namespace FreeRDS.Backend

open Pointer

/-! ## Copies -/

namespace Pointer

variable {α : Type}

/-- A pointer that is copied without what it points to. Its owner goes on to use the memory. -/
def borrowed : Pointer α → Pointer α
  | .data _ => .wild
  | .null => .null
  | .wild => .wild

variable (count : Nat) (pointer : Pointer (List α))

def duplicate : Pointer (List α) :=
  match pointer.take count with
  | some target => .data target
  | none => .wild

/-- `if (dup->data) { … }`. -/
def duplicateUnlessNull (count : Nat) : Pointer (List α) → Pointer (List α)
  | .null => .null
  | .data target => (Pointer.data target).duplicate count
  | .wild => (Pointer.wild : Pointer (List α)).duplicate count

theorem borrowed_eq_self_iff {pointer : Pointer α} : pointer.borrowed = pointer ↔ ∀ target, pointer ≠ .data target := by
  cases pointer <;> simp [borrowed]

theorem duplicate_ne_null : pointer.duplicate count ≠ .null := by
  unfold duplicate
  split <;> simp

theorem duplicate_duplicate :
    (pointer.duplicate count).duplicate count = pointer.duplicate count := by
  cases htake : pointer.take count with
  | some target =>
    have hlen := take_length htake
    have hagain : (data target).take count = some target := by simp [take, ← hlen]
    simp [duplicate, htake, hagain]
  | none =>
    have hcnt : count ≠ 0 := by
      rintro rfl
      cases pointer <;> simp [take] at htake
    have hagain : (wild : Pointer (List α)).take count = none := if_neg hcnt
    simp [duplicate, htake, hagain]

theorem duplicateUnlessNull_of_ne_null (count : Nat) {pointer : Pointer (List α)} (h : pointer ≠ .null) :
    pointer.duplicateUnlessNull count = pointer.duplicate count := by
  cases pointer with
  | null => exact absurd rfl h
  | data target | wild => rfl

theorem duplicateUnlessNull_twice :
    (pointer.duplicateUnlessNull count).duplicateUnlessNull count = pointer.duplicateUnlessNull count := by
  by_cases hnull : pointer = .null
  · rw [hnull]
    rfl
  · rw [duplicateUnlessNull_of_ne_null count hnull, duplicateUnlessNull_of_ne_null count (duplicate_ne_null _ _),
      duplicate_duplicate]

end Pointer

def PaintRect.copy (msg : PaintRect) : PaintRect :=
  if msg.bitmapDataLength ≠ 0 then { msg with bitmapData := msg.bitmapData.duplicate msg.bitmapDataLength.toNat }
  else msg

def SetPointer.copy (msg : SetPointer) : SetPointer :=
  { msg with
    andMaskData := msg.andMaskData.duplicateUnlessNull msg.lengthAndMask.toNat
    xorMaskData := msg.xorMaskData.duplicateUnlessNull msg.lengthXorMask.toNat }

theorem PaintRect.copy_copy (msg : PaintRect) : msg.copy.copy = msg.copy := by
  by_cases hlen : msg.bitmapDataLength ≠ 0
  · simp [copy, hlen, duplicate_duplicate]
  · simp [copy, hlen]

theorem SetPointer.copy_copy (msg : SetPointer) : msg.copy.copy = msg.copy := by
  simp [copy, duplicateUnlessNull_twice]

def PatBlt.copy (msg : PatBlt) : PatBlt := { msg with brush.data := msg.brush.data.borrowed }

def SetPalette.copy (msg : SetPalette) : SetPalette := { msg with palette := msg.palette.borrowed }

def CacheGlyph.copy (msg : CacheGlyph) : CacheGlyph :=
  { msg with
    glyphData := msg.glyphData.borrowed
    unicodeCharacters := msg.unicodeCharacters.borrowed }

def GlyphIndex.copy (msg : GlyphIndex) : GlyphIndex :=
  { msg with
    brush.data := msg.brush.data.borrowed
    data := msg.data.borrowed }

theorem PatBlt.copy_eq_self_iff {msg : PatBlt} : msg.copy = msg ↔ ∀ pattern, msg.brush.data ≠ .data pattern := by
  rw [← borrowed_eq_self_iff]
  constructor
  · exact fun h => congrArg (fun msg => msg.brush.data) h
  · intro h
    unfold copy
    rw [h]

theorem SetPalette.copy_eq_self_iff {msg : SetPalette} : msg.copy = msg ↔ ∀ palette, msg.palette ≠ .data palette := by
  rw [← borrowed_eq_self_iff]
  exact ⟨fun h => congrArg palette h, fun h => congrArg SetPalette.mk h⟩

theorem CacheGlyph.copy_eq_self_iff {msg : CacheGlyph} :
    msg.copy = msg ↔ (∀ glyphs, msg.glyphData ≠ .data glyphs) ∧ ∀ text, msg.unicodeCharacters ≠ .data text := by
  rw [← borrowed_eq_self_iff, ← borrowed_eq_self_iff]
  constructor
  · exact fun h => ⟨congrArg glyphData h, congrArg unicodeCharacters h⟩
  · intro ⟨hglyphs, htext⟩
    unfold copy
    rw [hglyphs, htext]

theorem GlyphIndex.copy_eq_self_iff {msg : GlyphIndex} :
    msg.copy = msg ↔ (∀ pattern, msg.brush.data ≠ .data pattern) ∧ ∀ glyphs, msg.data ≠ .data glyphs := by
  rw [← borrowed_eq_self_iff, ← borrowed_eq_self_iff]
  constructor
  · exact fun h => ⟨congrArg (fun msg => msg.brush.data) h, congrArg data h⟩
  · intro ⟨hpattern, hglyphs⟩
    unfold copy
    rw [hpattern, hglyphs]

namespace ServerType

/-- `freerds_server_message_copy`, for the messages that are copied to the list. Where a type has no case here, its copy
function copies the struct and there is no pointer in it. -/
def copy : (kind : ServerType) → kind.Body → kind.Body
  | received .paintRect, msg => PaintRect.copy msg
  | received .setPointer, msg => SetPointer.copy msg
  | received .patBlt, msg => PatBlt.copy msg
  | setPalette, msg => SetPalette.copy msg
  | cacheGlyph, msg => CacheGlyph.copy msg
  | glyphIndex, msg => GlyphIndex.copy msg
  | _, msg => msg

/-- The members, with as much data behind the pointers as the message says there is. -/
def contents : (kind : ServerType) → kind.Body → kind.Body
  | received .paintRect, msg => PaintRect.copy msg
  | received .setPointer, msg => SetPointer.copy msg
  | _, msg => msg

def Whole : (kind : ServerType) → kind.Body → Prop
  | received .patBlt, msg => ∀ pattern, msg.brush.data ≠ .data pattern
  | setPalette, msg => ∀ palette, msg.palette ≠ .data palette
  | cacheGlyph, msg => (∀ glyphs, msg.glyphData ≠ .data glyphs) ∧ ∀ text, msg.unicodeCharacters ≠ .data text
  | glyphIndex, msg => (∀ pattern, msg.brush.data ≠ .data pattern) ∧ ∀ glyphs, msg.data ≠ .data glyphs
  | _, _ => True

theorem contents_copy_iff (kind : ServerType) (msg : kind.Body) :
    kind.contents (kind.copy msg) = kind.contents msg ↔ kind.Whole msg := by
  cases kind with
  | setPalette => exact SetPalette.copy_eq_self_iff
  | cacheGlyph => exact CacheGlyph.copy_eq_self_iff
  | glyphIndex => exact GlyphIndex.copy_eq_self_iff
  | beep | reset => exact iff_of_true rfl trivial
  | received kind =>
    cases kind with
    | paintRect => exact iff_of_true (PaintRect.copy_copy msg) trivial
    | setPointer => exact iff_of_true (SetPointer.copy_copy msg) trivial
    | patBlt => exact PatBlt.copy_eq_self_iff
    | _ => exact iff_of_true rfl trivial

/-- Whether `freerds_message_server_connector_init` sets a callback for the message that copies it. There is one for new
windows that does not, and users log on by other ways. -/
def enqueued : ServerType → Bool
  | received .windowNewUpdate => false
  | received .windowDelete => false
  | received .logonUser => false
  | received .logoffUser => false
  | _ => true

end ServerType

namespace AnyMessage

variable (message : AnyMessage)

def typed : AnyMessage := { message with common.type := message.kind.type }

def copy : AnyMessage := ⟨message.kind, message.common, message.kind.copy message.msg⟩

def contents : AnyMessage := ⟨message.kind, message.common, message.kind.contents message.msg⟩

def Whole : Prop := message.kind.Whole message.msg

/-- `msg->msgFlags & RDS_MSG_FLAG_RECT`. -/
def flagged : Bool := message.common.msgFlags &&& flagRect ≠ 0

theorem contents_copy_iff : message.copy.contents = message.contents ↔ message.Whole := by
  rw [Whole, ← ServerType.contents_copy_iff]
  simp [copy, contents]

end AnyMessage

end FreeRDS.Backend

namespace FreeRDS.Core

open Lib Backend

def box (rect : Rectangle16) : Box Nat := ⟨rect.left.toNat, rect.top.toNat, rect.right.toNat, rect.bottom.toNat⟩

/-- `region16_init`, `region16_union_rect` and `region16_extents`, which are not a part of this program: the extents are
the hull of rectangles whose coordinates are in order. -/
structure RegionLibrary where
  Region : Type
  init : Region
  unionRect : Region → Rectangle16 → Region
  extents : Region → Rectangle16
  extents_init : extents init = ⟨0, 0, 0, 0⟩
  extents_union : ∀ rects : List Rectangle16, rects ≠ [] → (∀ rect ∈ rects, (box rect).Proper) →
    Box.IsHull (rects.map box) (box (extents (rects.foldl unionRect init)))

/-! ## Packing -/

structure Desktop where
  width : UInt32
  height : UInt32
  deriving DecidableEq

/-- `RDS_FRAMEBUFFER`, as far as it decides what is painted. -/
structure Framebuffer where
  fbWidth : UInt32
  fbHeight : UInt32
  fbAttached : Bool
  fbSegmentId : UInt32
  deriving DecidableEq

/-- `freerds_message_server_align_rect` moves the start to the desktop. The second comparison is unsigned. -/
def clampStart (limit start : UInt32) : UInt32 :=
  let start := if 2 ^ 31 ≤ start.toNat then 0 else start
  if limit - 1 < start then limit - 1 else start

/-- What is added to the size when the start moves to the grid, and what is added then. -/
def grownSize (start size : UInt32) : UInt32 :=
  let size := size + start % 16
  size + size % 16

/-- The horizontal half of `freerds_message_server_align_rect`. -/
def alignX (limit x width : UInt32) : UInt32 × UInt32 :=
  let x := clampStart limit x
  let width := grownSize x width
  let x := x - x % 16
  let width := if limit < x + width then limit - x else width
  (x, width)

def alignY (limit y height : UInt32) : UInt32 × UInt32 :=
  let y := clampStart limit y
  let height := grownSize y height
  let y := y - y % 16
  let height := if limit < height then limit else height
  let height := if limit < y + height then limit - y else height
  (y, height)

def alignRect (desktop : Desktop) (rect : Rect) : Rect :=
  let (x, width) := alignX desktop.width rect.x rect.width
  let (y, height) := alignY desktop.height rect.y rect.height
  ⟨x, y, width, height⟩

def rect16 (rect : Rect) : Rectangle16 where
  left := rect.x.toUInt16
  top := rect.y.toUInt16
  right := (rect.x + rect.width).toUInt16
  bottom := (rect.y + rect.height).toUInt16

def ofExtents (extents : Rectangle16) : Rect where
  x := extents.left.toUInt32
  y := extents.top.toUInt32
  width := extents.right.toUInt32 - extents.left.toUInt32
  height := extents.bottom.toUInt32 - extents.top.toUInt32

/-- The painted rectangle that is put together for a part of the framebuffer. The members of its header other than the
type are not set, and nobody reads them. -/
def paintRect (segmentId : UInt32) (rect : Rect) : AnyMessage where
  kind := .received .paintRect
  common := ⟨6, 0, 0, ⟨0, 0, 0, 0⟩⟩
  msg := PaintRect.copy
    { nLeftRect := rect.x, nTopRect := rect.y, nWidth := rect.width, nHeight := rect.height, nXSrc := 0, nYSrc := 0
      bitmapData := .null, bitmapDataLength := 0, fbSegmentId := segmentId, framebuffer := .data () }

/-- The loop of `freerds_message_server_queue_pack`. -/
structure Packing (library : RegionLibrary) where
  region : library.Region
  posted : List AnyMessage

namespace Packing

variable {library : RegionLibrary}

def start (library : RegionLibrary) : Packing library := ⟨library.init, []⟩

def node (packing : Packing library) (message : AnyMessage) : Packing library :=
  if message.flagged then { packing with region := library.unionRect packing.region (rect16 message.common.rect) }
  else { packing with posted := packing.posted ++ [message] }

def rect (packing : Packing library) (desktop : Desktop) : Rect :=
  alignRect desktop (ofExtents (library.extents packing.region))

theorem foldl_node (list : List AnyMessage) (packing : Packing library) :
    list.foldl node packing =
      ⟨((list.filter AnyMessage.flagged).map fun message => rect16 message.common.rect).foldl library.unionRect
          packing.region,
        packing.posted ++ list.filter fun message => !message.flagged⟩ := by
  induction list generalizing packing with
  | nil => simp
  | cons message list ih =>
    rw [List.foldl_cons, ih]
    by_cases hflag : message.flagged = true
    all_goals simp [node, hflag]

end Packing

def postRect (framebuffer : Framebuffer) (rect : Rect) : List AnyMessage :=
  if framebuffer.fbAttached ∧ rect.width * rect.height ≠ 0 then [paintRect framebuffer.fbSegmentId rect] else []

/-- `ServerList` and `ServerQueue`. -/
structure Pipeline where
  list : List AnyMessage
  queue : List AnyMessage

namespace Pipeline

/-- `freerds_server_message_enqueue`, by the callback for the message. -/
def enqueue (pipeline : Pipeline) (message : AnyMessage) : Pipeline :=
  if message.kind.enqueued then { pipeline with list := pipeline.list ++ [message.typed.copy] } else pipeline

/-- `freerds_message_server_queue_pack`. -/
def queuePack (library : RegionLibrary) (desktop : Desktop) (framebuffer : Framebuffer) (pipeline : Pipeline) :
    Pipeline :=
  let packing := pipeline.list.foldl Packing.node (.start library)
  ⟨[], pipeline.queue ++ packing.posted ++ postRect framebuffer (packing.rect desktop)⟩

end Pipeline

/-! ## The alignment in numbers -/

section

variable {limit start size : UInt32}

theorem clampStart_eq (hstart : start.toNat < 2 ^ 16) :
    clampStart limit start = if limit - 1 < start then limit - 1 else start := by
  have hnonneg : ¬2 ^ 31 ≤ start.toNat := by omega
  simp only [clampStart, if_neg hnonneg]

theorem clampStart_of_pos (hlimit : 0 < limit.toNat) (hstart : start.toNat < 2 ^ 16) :
    (clampStart limit start).toNat = min start.toNat (limit.toNat - 1) := by
  have hlast : (limit - 1).toNat = limit.toNat - 1 := UInt32.toNat_sub_of_le _ _ (UInt32.le_iff_toNat_le.mpr hlimit)
  rw [clampStart_eq hstart]
  split
  next h =>
    rw [UInt32.lt_iff_toNat_lt, hlast] at h
    rw [hlast]
    omega
  next h =>
    rw [UInt32.lt_iff_toNat_lt, hlast] at h
    omega

theorem clampStart_of_zero (hlimit : limit.toNat = 0) (hstart : start.toNat < 2 ^ 16) :
    clampStart limit start = start := by
  have hlast : ¬limit - 1 < start := by
    rw [UInt32.lt_iff_toNat_lt, UInt32.toNat_sub, hlimit]
    show ¬4294967295 < start.toNat
    omega
  rw [clampStart_eq hstart, if_neg hlast]

theorem grownSize_toNat (hsize : size.toNat < 2 ^ 16) :
    (grownSize start size).toNat = size.toNat + start.toNat % 16 + (size.toNat + start.toNat % 16) % 16 := by
  have hadd : (size + start % 16).toNat = size.toNat + start.toNat % 16 := by
    rw [UInt32.toNat_add, UInt32.toNat_mod]
    show (size.toNat + start.toNat % 16) % 4294967296 = _
    omega
  unfold grownSize
  rw [UInt32.toNat_add, UInt32.toNat_mod, hadd]
  show (_ + _ % 16) % 4294967296 = _
  omega

theorem snapStart_toNat : (start - start % 16).toNat = 16 * (start.toNat / 16) := by
  have hmod : (start % 16).toNat = start.toNat % 16 := UInt32.toNat_mod ..
  rw [UInt32.toNat_sub_of_le _ _ (UInt32.le_iff_toNat_le.mpr (by omega)), hmod]
  omega

/-- Where the aligned part of an axis ends, before it is cut off at the limit. -/
def alignedEnd (limit start size : Nat) : Nat :=
  let start := min start (limit - 1)
  16 * (start / 16) + (size + start % 16 + (size + start % 16) % 16)

theorem alignX_of_pos (hlimit : 0 < limit.toNat) (hstart : start.toNat < 2 ^ 16) (hsize : size.toNat < 2 ^ 16) :
    (alignX limit start size).1.toNat = 16 * (min start.toNat (limit.toNat - 1) / 16) ∧
      (alignX limit start size).1.toNat + (alignX limit start size).2.toNat =
        min limit.toNat (alignedEnd limit.toNat start.toNat size.toNat) := by
  have hlt := limit.toNat_lt
  have hclamp := clampStart_of_pos hlimit hstart
  unfold alignX alignedEnd
  rw [← hclamp] 
  generalize clampStart limit start = x at hclamp ⊢
  have hgrown := @grownSize_toNat x size hsize
  have hsnap := @snapStart_toNat x
  refine ⟨hsnap, ?_⟩
  simp only
  have hsum : (x - x % 16 + grownSize x size).toNat = 16 * (x.toNat / 16) + (grownSize x size).toNat := by
    rw [UInt32.toNat_add, hsnap]
    show _ % 4294967296 = _
    omega
  by_cases h : limit < x - x % 16 + grownSize x size
  · have hle : x - x % 16 ≤ limit := UInt32.le_iff_toNat_le.mpr (by omega)
    rw [if_pos h, UInt32.toNat_sub_of_le _ _ hle]
    rw [UInt32.lt_iff_toNat_lt] at h
    omega
  · rw [if_neg h]
    rw [UInt32.lt_iff_toNat_lt] at h
    omega

theorem alignX_of_zero (hlimit : limit.toNat = 0) (hstart : start.toNat < 2 ^ 16) (hsize : size.toNat < 2 ^ 16) :
    (alignX limit start size).1.toNat = 16 * (start.toNat / 16) ∧
      (alignX limit start size).2.toNat = (2 ^ 32 - 16 * (start.toNat / 16)) % 2 ^ 32 := by
  have hgrown := @grownSize_toNat start size hsize
  have hsnap := @snapStart_toNat start
  unfold alignX
  rw [clampStart_of_zero hlimit hstart]
  refine ⟨hsnap, ?_⟩
  simp only
  have hsum : (start - start % 16 + grownSize start size).toNat = 16 * (start.toNat / 16) + (grownSize start size).toNat := by
    rw [UInt32.toNat_add, hsnap]
    show _ % 4294967296 = _
    omega
  by_cases h : limit < start - start % 16 + grownSize start size
  · rw [if_pos h, UInt32.toNat_sub, hsnap, hlimit]
    rfl
  · rw [if_neg h]
    rw [UInt32.lt_iff_toNat_lt] at h
    omega

theorem alignY_eq_alignX (hstart : start.toNat < 2 ^ 16) (hsize : size.toNat < 2 ^ 16) :
    alignY limit start size = alignX limit start size := by
  have hclamp : (clampStart limit start).toNat < 2 ^ 16 := by
    by_cases hlimit : limit.toNat = 0
    · rwa [clampStart_of_zero hlimit hstart]
    · rw [clampStart_of_pos (Nat.pos_of_ne_zero hlimit) hstart]
      omega
  simp only [alignY, alignX]
  generalize clampStart limit start = x at hclamp ⊢
  have hgrown := @grownSize_toNat x size hsize
  have hsnap := @snapStart_toNat x
  generalize grownSize x size = grown at hgrown ⊢
  generalize x - x % 16 = snapped at hsnap ⊢
  by_cases hlarge : limit < grown
  · have hlarge' := UInt32.lt_iff_toNat_lt.mp hlarge
    have hpast : limit < snapped + grown := by
      rw [UInt32.lt_iff_toNat_lt, UInt32.toNat_add]
      show _ < _ % 4294967296
      omega
    have hsame : (if limit < snapped + limit then limit - snapped else limit) = limit - snapped := by
      split
      next => rfl
      next h =>
        rw [UInt32.lt_iff_toNat_lt, UInt32.toNat_add] at h
        have hzero : snapped = 0 := UInt32.toNat_inj.mp (by show _ = 0; omega)
        rw [hzero, UInt32.sub_zero]
    simp [if_pos hlarge, if_pos hpast, hsame]
  · simp [if_neg hlarge]

end

end FreeRDS.Core
