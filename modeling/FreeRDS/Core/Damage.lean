import FreeRDS.Core.Pipeline
import Mathlib.Data.Set.Prod
import Mathlib.Order.Interval.Set.Basic
import Mathlib.Algebra.Order.Ring.Int
import Mathlib.Data.Nat.Prime.Basic
import Mathlib.Data.Nat.Factorization.Basic

/-! # Damage

A message with a rectangle reports damage. What is packed for a list of these is a rectangle of the desktop that is to be
painted again.
-/

namespace FreeRDS.Core

open Lib Backend List Pipeline

def signed (n : UInt32) : Int := if n.toNat < 2 ^ 31 then n.toNat else n.toNat - 2 ^ 32

theorem signed_of_lt {n : UInt32} (h : n.toNat < 2 ^ 31) : signed n = n.toNat := if_pos h

/-- The area of a rectangle: its origin has a sign, and its size has none. -/
def area (rect : Rect) : Box Int :=
  ⟨signed rect.x, signed rect.y, signed rect.x + rect.width.toNat, signed rect.y + rect.height.toNat⟩

variable (desktop : Desktop)

def Desktop.area : Box Int := ⟨0, 0, desktop.width.toNat, desktop.height.toNat⟩

def visible (rect : Rect) : Set (Int × Int) := (area rect).region ∩ desktop.area.region

def painted (msg : PaintRect) : Box Int :=
  ⟨signed msg.nLeftRect, signed msg.nTopRect, signed msg.nLeftRect + signed msg.nWidth,
    signed msg.nTopRect + signed msg.nHeight⟩

structure Inside (desktop : Desktop) (msg : PaintRect) : Prop where
  left : 0 ≤ signed msg.nLeftRect
  top : 0 ≤ signed msg.nTopRect
  width : 0 ≤ signed msg.nWidth
  height : 0 ≤ signed msg.nHeight
  right : signed msg.nLeftRect + signed msg.nWidth ≤ desktop.width.toNat
  bottom : signed msg.nTopRect + signed msg.nHeight ≤ desktop.height.toNat

def paint? : AnyMessage → Option PaintRect
  | ⟨.received .paintRect, _, msg⟩ => some msg
  | _ => none

def Covered (points : Set (Int × Int)) (messages : List AnyMessage) : Prop :=
  ∀ point ∈ points, ∃ message ∈ messages, ∃ msg, paint? message = some msg ∧ point ∈ (painted msg).region

variable (messages : List AnyMessage)

def damageOf : List AnyMessage := messages.filter fun message =>
  message.kind.enqueued && message.flagged

def othersOf : List AnyMessage := messages.filter fun message =>
  message.kind.enqueued && !message.flagged

variable (library : RegionLibrary)

def alignedExtents (desktop : Desktop) (rects : List Rectangle16) : Rect :=
  alignRect desktop (ofExtents (library.extents (rects.foldl library.unionRect library.init)))

namespace Pipeline

theorem foldl_enqueue (pipeline : Pipeline) :
    messages.foldl enqueue pipeline =
      ⟨pipeline.list ++ (messages.filter fun message => message.kind.enqueued).map fun message => message.typed.copy,
        pipeline.queue⟩ := by
  induction messages generalizing pipeline with
  | nil => simp
  | cons message messages ih =>
    rw [foldl_cons, ih]
    by_cases henqueued : message.kind.enqueued = true
    all_goals simp [enqueue, henqueued]

def regionOf : List Rectangle16 :=
  (damageOf messages).map fun message => rect16 message.common.rect

end Pipeline

def damageRect (desktop : Desktop) (messages : List AnyMessage) : Rect :=
  alignedExtents library desktop (Pipeline.regionOf messages)

namespace Pipeline

theorem queuePack_enqueue (desktop : Desktop) (framebuffer : Framebuffer)
    (messages queue : List AnyMessage) :
    queuePack library desktop framebuffer (messages.foldl enqueue ⟨[], queue⟩) =
      ⟨[], queue ++ (othersOf messages).map (fun message => message.typed.copy) ++
        postRect framebuffer (damageRect library desktop messages)⟩ := by
  have hflag : AnyMessage.flagged ∘ (fun message : AnyMessage => message.typed.copy) = AnyMessage.flagged := rfl
  have hother : (fun message : AnyMessage => !message.flagged) ∘ (fun message : AnyMessage => message.typed.copy) =
      fun message : AnyMessage => !message.flagged := rfl
  rw [foldl_enqueue, queuePack]
  simp only [nil_append, Packing.foldl_node, filter_map, hflag, hother, filter_filter, map_map]
  simp only [Packing.start, Packing.rect, nil_append, othersOf, damageRect, alignedExtents, regionOf, damageOf,
    Bool.and_comm]
  rfl

end Pipeline

/-! ## The aligned rectangle -/

def gridStart (limit start : Nat) : Nat := 16 * (min start (limit - 1) / 16)

theorem box_le (extents : Rectangle16) : (box extents).right < 2 ^ 16 ∧ (box extents).bottom < 2 ^ 16 ∧
    (box extents).left < 2 ^ 16 ∧ (box extents).top < 2 ^ 16 :=
  ⟨extents.right.toNat_lt, extents.bottom.toNat_lt, extents.left.toNat_lt, extents.top.toNat_lt⟩

section

variable {desktop : Desktop} {extents : Rectangle16}

theorem ofExtents_toNat (h : (box extents).Proper) :
    (ofExtents extents).x.toNat = (box extents).left ∧ (ofExtents extents).y.toNat = (box extents).top ∧
      (ofExtents extents).width.toNat = (box extents).right - (box extents).left ∧
      (ofExtents extents).height.toNat = (box extents).bottom - (box extents).top := by
  have hhoriz : extents.left.toUInt32 ≤ extents.right.toUInt32 := by
    rw [UInt32.le_iff_toNat_le, UInt16.toNat_toUInt32, UInt16.toNat_toUInt32]
    exact h.horizontal
  have hvert : extents.top.toUInt32 ≤ extents.bottom.toUInt32 := by
    rw [UInt32.le_iff_toNat_le, UInt16.toNat_toUInt32, UInt16.toNat_toUInt32]
    exact h.vertical
  simp [ofExtents, box, UInt32.toNat_sub_of_le _ _ hhoriz, UInt32.toNat_sub_of_le _ _ hvert]

end

/-- One axis of the aligned rectangle. It starts at the grid and ends at the limit, which takes it back to zero where the
limit is zero. -/
structure Aligned (limit start stop : Nat) (position size : UInt32) : Prop where
  proper : start ≤ stop
  bounded : stop < 2 ^ 16
  inside : 0 < limit → position.toNat = gridStart limit start ∧
    position.toNat + size.toNat = min limit (alignedEnd limit start (stop - start))
  outside : limit = 0 → position.toNat = 16 * (start / 16) ∧ size = -position

theorem alignX_aligned {limit start size : UInt32} (h : start.toNat + size.toNat < 2 ^ 16) :
    Aligned limit.toNat start.toNat (start.toNat + size.toNat) (alignX limit start size).1
      (alignX limit start size).2 where
  proper := Nat.le_add_right _ _
  bounded := h
  inside := by
    intro hlimit
    have hend := @alignX_of_pos limit start size hlimit (by omega) (by omega)
    rwa [Nat.add_sub_cancel_left]
  outside := by
    intro hlimit
    obtain ⟨hstart, hsize⟩ := @alignX_of_zero limit start size hlimit (by omega) (by omega)
    refine ⟨hstart, UInt32.toNat_inj.mp ?_⟩
    rw [hsize, UInt32.toNat_neg, hstart]
    rfl

theorem alignRect_aligned {desktop : Desktop} {extents : Rectangle16} (hproper : (box extents).Proper) :
    let rect := alignRect desktop (ofExtents extents)
    Aligned desktop.width.toNat (box extents).left (box extents).right rect.x rect.width ∧
      Aligned desktop.height.toNat (box extents).top (box extents).bottom rect.y rect.height := by
  intro rect
  obtain ⟨hx, hy, hw, hh⟩ := ofExtents_toNat hproper
  obtain ⟨hright, hbottom, hleft, htop⟩ := box_le extents
  have hhoriz : (box extents).left ≤ (box extents).right := hproper.horizontal
  have hvert : (box extents).top ≤ (box extents).bottom := hproper.vertical
  have halgn := @alignX_aligned desktop.width (ofExtents extents).x (ofExtents extents).width (by omega)
  have halgn' := @alignX_aligned desktop.height (ofExtents extents).y (ofExtents extents).height (by omega)
  rw [← alignY_eq_alignX (by omega) (by omega)] at halgn'
  rw [hx, hw, Nat.add_sub_cancel' hhoriz] at halgn
  rw [hy, hh, Nat.add_sub_cancel' hvert] at halgn'
  exact ⟨halgn, halgn'⟩

def Overflows (limit start stop : Nat) : Prop :=
  start < 16 ∧ (stop = 65528 ∧ 65536 ≤ limit ∨ 65529 ≤ stop ∧ limit = 65536)

namespace Aligned

variable {limit start stop : Nat} {position size : UInt32}

section

variable (h : Aligned limit start stop position size)

include h

theorem position_lt : position.toNat < 2 ^ 16 := by
  have hproper := h.proper
  have hbounded := h.bounded
  obtain hlimit | hlimit := Nat.eq_zero_or_pos limit
  · have hpos := (h.outside hlimit).1
    omega
  · have hpos := (h.inside hlimit).1
    simp only [gridStart] at hpos
    omega

theorem size_le (hlimit : 0 < limit) : size.toNat ≤ 65550 := by
  have hproper := h.proper
  have hbounded := h.bounded
  obtain ⟨hpos, hsize⟩ := h.inside hlimit
  simp only [gridStart, alignedEnd] at hpos hsize
  omega

theorem size_eq_iff (hlimit : 0 < limit) :
    size.toNat = 65536 ↔ Overflows limit start stop := by
  have hproper := h.proper
  have hbounded := h.bounded
  obtain ⟨hpos, hsize⟩ := h.inside hlimit
  simp only [gridStart, alignedEnd, Overflows] at hpos hsize ⊢
  omega

theorem size_pos (hlimit : 0 < limit) (hstart : start < stop) :
    0 < size.toNat := by
  obtain ⟨hpos, hsize⟩ := h.inside hlimit
  simp only [gridStart, alignedEnd] at hpos hsize
  omega

end

theorem mem {point : Int} (h : Aligned limit start stop position size) (hlow : start ≤ point) (hhigh : point < stop)
    (hlimit : point < limit) : position.toNat ≤ point ∧ point < position.toNat + size.toNat := by
  obtain ⟨hpos, hsize⟩ := h.inside (by omega)
  simp only [gridStart, alignedEnd] at hpos hsize
  omega

theorem size_of_empty (h : Aligned limit 0 0 position size) : size = 0 := by
  obtain hlimit | hlimit := Nat.eq_zero_or_pos limit
  · obtain ⟨hpos, hsize⟩ := h.outside hlimit
    have hzero : position = 0 := UInt32.toNat_inj.mp hpos
    rw [hsize, hzero]
    rfl
  · obtain ⟨hpos, hsize⟩ := h.inside hlimit
    simp only [gridStart, alignedEnd] at hpos hsize
    exact UInt32.toNat_inj.mp (show size.toNat = 0 by omega)

theorem stop_le (h : Aligned limit start stop position size) (hlimit : 0 < limit) :
    position.toNat + size.toNat ≤ limit := by
  rw [(h.inside hlimit).2]
  exact Nat.min_le_left _ _

end Aligned

theorem mul_eq_zero_iff {a b : UInt32} (ha : a.toNat ≤ 65550) (hb : b.toNat ≤ 65550) :
    a * b = 0 ↔ a.toNat = 0 ∨ b.toNat = 0 ∨ a.toNat = 65536 ∧ b.toNat = 65536 := by
  rw [← UInt32.toNat_inj, UInt32.toNat_mul]
  show a.toNat * b.toNat % 4294967296 = 0 ↔ _
  generalize a.toNat = m at *
  generalize b.toNat = n at *
  constructor
  · intro h
    have hlt : m * n < 2 * 4294967296 := by
      calc m * n ≤ 65550 * 65550 := Nat.mul_le_mul ha hb
        _ < _ := by norm_num
    have hcases : m * n = 0 ∨ m * n = 4294967296 := by omega
    obtain hzero | hfull := hcases
    · obtain hm | hn := Nat.mul_eq_zero.mp hzero
      · exact .inl hm
      · exact .inr (.inl hn)
    · have hdvd : m ∣ 2 ^ 32 := ⟨n, hfull.symm⟩
      obtain ⟨k, hk, rfl⟩ := (Nat.dvd_prime_pow Nat.prime_two).mp hdvd
      have hsmall : k ≤ 16 := by
        by_contra hlarge
        have hpow : 2 ^ 17 ≤ 2 ^ k := Nat.pow_le_pow_right two_pos (by omega)
        omega
      interval_cases k <;> omega
  · rintro (rfl | rfl | ⟨rfl, rfl⟩) <;> simp

theorem neg_eq_zero_iff {n : UInt32} : -n = 0 ↔ n = 0 := by
  rw [← UInt32.neg_inj, UInt32.neg_neg, UInt32.neg_zero]

namespace Aligned

variable {limit start stop limit' start' stop' : Nat} {position size position' size' : UInt32}

section

variable (h : Aligned limit start stop position size) (h' : Aligned limit' start' stop' position' size')

include h h'

theorem mul_eq_zero_iff (hlimit : 0 < limit) (hlimit' : 0 < limit') :
    size * size' = 0 ↔
      size.toNat = 0 ∨ size'.toNat = 0 ∨ Overflows limit start stop ∧ Overflows limit' start' stop' := by
  rw [Core.mul_eq_zero_iff (h.size_le hlimit) (h'.size_le hlimit'), h.size_eq_iff hlimit, h'.size_eq_iff hlimit']

theorem mul_eq_zero_of_outside (hlimit : limit = 0) (hstart : start' < stop') :
    size * size' = 0 ↔ start < 16 ∨ limit' = 0 ∧ start' < 16 := by
  obtain ⟨hposit, hsize⟩ := h.outside hlimit
  have hlt := h.position_lt
  have hlt' := h'.position_lt
  rw [hsize, UInt32.neg_mul, neg_eq_zero_iff]
  obtain hlimit' | hlimit' := Nat.eq_zero_or_pos limit'
  · obtain ⟨hpos', hsize'⟩ := h'.outside hlimit'
    rw [hsize', UInt32.mul_neg, neg_eq_zero_iff, Core.mul_eq_zero_iff (by omega) (by omega)]
    omega
  · have hpos := h'.size_pos hlimit' hstart
    rw [Core.mul_eq_zero_iff (by omega) (h'.size_le hlimit')]
    omega

end

theorem signed_size_neg (h : Aligned limit start stop position size) (hlimit : limit = 0) (hstart : 16 ≤ start) :
    signed size < 0 := by
  obtain ⟨hpos, hsize⟩ := h.outside hlimit
  have hlt := h.position_lt
  have hneg : size.toNat = 4294967296 - position.toNat := by
    rw [hsize, UInt32.toNat_neg]
    show (4294967296 - position.toNat) % 4294967296 = _
    omega
  unfold signed
  split <;> omega

end Aligned

/-! ## What is posted -/

structure Paints (msg : PaintRect) (rect : Rect) : Prop where
  left : msg.nLeftRect = rect.x
  top : msg.nTopRect = rect.y
  width : msg.nWidth = rect.width
  height : msg.nHeight = rect.height

theorem exists_paint (segmentId : UInt32) (rect : Rect) :
    ∃ msg, paint? (paintRect segmentId rect) = some msg ∧ Paints msg rect := ⟨_, rfl, rfl, rfl, rfl, rfl⟩

section

variable {desktop : Desktop} {framebuffer : Framebuffer} {rect : Rect} {hull : Box Nat}

theorem postRect_of_ne_zero (hatt : framebuffer.fbAttached = true) (h : rect.width * rect.height ≠ 0) :
    postRect framebuffer rect = [paintRect framebuffer.fbSegmentId rect] := if_pos ⟨hatt, h⟩

theorem postRect_of_eq_zero (h : rect.width * rect.height = 0) : postRect framebuffer rect = [] :=
  if_neg fun hposted => hposted.2 h

theorem postRect_of_detached (h : framebuffer.fbAttached = false) : postRect framebuffer rect = [] :=
  if_neg fun hposted => by simp [h] at hposted

theorem length_postRect : (postRect framebuffer rect).length ≤ 1 := by
  unfold postRect
  split <;> simp

theorem eq_of_mem_postRect {message : AnyMessage} (h : message ∈ postRect framebuffer rect) :
    message = paintRect framebuffer.fbSegmentId rect := by
  unfold postRect at h
  split at h
  · exact mem_singleton.mp h
  · exact absurd h not_mem_nil

theorem mem_visible {point : Int × Int} : point ∈ visible desktop rect ↔
    (signed rect.x ≤ point.1 ∧ point.1 < signed rect.x + rect.width.toNat) ∧
      (signed rect.y ≤ point.2 ∧ point.2 < signed rect.y + rect.height.toNat) ∧
      (0 ≤ point.1 ∧ point.1 < desktop.width.toNat) ∧ 0 ≤ point.2 ∧ point.2 < desktop.height.toNat := by
  simp only [visible, area, Desktop.area, Box.region, Set.mem_inter_iff, Set.mem_prod, Set.mem_Ico]
  tauto

theorem covered_of_zero (messages : List AnyMessage)
    (h : desktop.width.toNat = 0 ∨ desktop.height.toNat = 0) : Covered (visible desktop rect) messages := by
  intro point hpoint
  rw [mem_visible] at hpoint
  omega

theorem covered_nil {points : Set (Int × Int)} : Covered points [] ↔ points = ∅ := by
  simp [Covered, Set.eq_empty_iff_forall_notMem]

structure AlignedRect (desktop : Desktop) (hull : Box Nat) (rect : Rect) : Prop where
  horizontal : Aligned desktop.width.toNat hull.left hull.right rect.x rect.width
  vertical : Aligned desktop.height.toNat hull.top hull.bottom rect.y rect.height

namespace AlignedRect

section

variable (h : AlignedRect desktop hull rect) (hwid : 0 < desktop.width.toNat) (hhgt : 0 < desktop.height.toNat)

include h hwid hhgt

theorem signed_eq :
    signed rect.x = rect.x.toNat ∧ signed rect.y = rect.y.toNat ∧ signed rect.width = rect.width.toNat ∧
      signed rect.height = rect.height.toNat := by
  have hx := h.horizontal.position_lt
  have hy := h.vertical.position_lt
  have hw := h.horizontal.size_le hwid
  have hh := h.vertical.size_le hhgt
  exact ⟨signed_of_lt (by omega), signed_of_lt (by omega), signed_of_lt (by omega), signed_of_lt (by omega)⟩

theorem mul_ne_zero (hleft : hull.left < hull.right) (htop : hull.top < hull.bottom)
    (hovf : ¬(Overflows desktop.width.toNat hull.left hull.right ∧
      Overflows desktop.height.toNat hull.top hull.bottom)) : rect.width * rect.height ≠ 0 := by
  have hw := h.horizontal.size_pos hwid hleft
  have hh := h.vertical.size_pos hhgt htop
  rw [Ne, h.horizontal.mul_eq_zero_iff h.vertical hwid hhgt]
  rintro (hzero | hzero | hboth)
  · omega
  · omega
  · exact hovf hboth

theorem inside {msg : PaintRect} (hpaints : Paints msg rect) : Inside desktop msg := by
  obtain ⟨hx, hy, hw, hh⟩ := h.signed_eq hwid hhgt
  rw [← hpaints.left] at hx
  rw [← hpaints.top] at hy
  rw [← hpaints.width] at hw
  rw [← hpaints.height] at hh
  have hright := h.horizontal.stop_le hwid
  have hbottom := h.vertical.stop_le hhgt
  rw [← hpaints.left, ← hpaints.width] at hright
  rw [← hpaints.top, ← hpaints.height] at hbottom
  constructor <;> omega

end

theorem mem_painted (h : AlignedRect desktop hull rect) {msg : PaintRect} (hpaints : Paints msg rect)
    {point : Int × Int} (hx : hull.left ≤ point.1 ∧ point.1 < hull.right)
    (hy : hull.top ≤ point.2 ∧ point.2 < hull.bottom) (hwid : point.1 < desktop.width.toNat)
    (hhgt : point.2 < desktop.height.toNat) : point ∈ (painted msg).region := by
  obtain ⟨hx', hy', hw', hh'⟩ := h.signed_eq (by omega) (by omega)
  obtain ⟨hlow, hhigh⟩ := h.horizontal.mem hx.1 hx.2 hwid
  obtain ⟨hlow', hhigh'⟩ := h.vertical.mem hy.1 hy.2 hhgt
  simp only [painted, Box.region, Set.mem_prod, Set.mem_Ico, hpaints.left, hpaints.top, hpaints.width, hpaints.height,
    hx', hy', hw', hh']
  omega

theorem not_inside (h : AlignedRect desktop hull rect) (hleft : hull.left < hull.right)
    (htop : hull.top < hull.bottom) (hzero : desktop.width.toNat = 0 ∨ desktop.height.toNat = 0)
    (hposted : rect.width * rect.height ≠ 0) {msg : PaintRect} (hpaints : Paints msg rect) : ¬Inside desktop msg := by
  intro hins
  obtain hwid | hhgt := hzero
  · rw [Ne, h.horizontal.mul_eq_zero_of_outside h.vertical hwid htop] at hposted
    have hneg := h.horizontal.signed_size_neg hwid (by omega)
    have hnonneg := hins.width
    rw [hpaints.width] at hnonneg
    omega
  · rw [Ne, UInt32.mul_comm, h.vertical.mul_eq_zero_of_outside h.horizontal hhgt hleft] at hposted
    have hneg := h.vertical.signed_size_neg hhgt (by omega)
    have hnonneg := hins.height
    rw [hpaints.height] at hnonneg
    omega

end AlignedRect

theorem exists_alignedExtents (desktop : Desktop) {rects : List Rectangle16}
    (hne : rects ≠ []) (hproper : ∀ rect ∈ rects, (box rect).Proper) :
    ∃ hull, Box.IsHull (rects.map box) hull ∧ AlignedRect desktop hull (alignedExtents library desktop rects) := by
  have hhull := library.extents_union rects hne hproper
  have hboxes : ∀ b ∈ rects.map box, b.Proper := by
    intro b hb
    obtain ⟨rect, hrect, rfl⟩ := mem_map.mp hb
    exact hproper rect hrect
  obtain ⟨hhoriz, hvert⟩ := @alignRect_aligned desktop _ (hhull.proper hboxes)
  exact ⟨_, hhull, hhoriz, hvert⟩

theorem postRect_of_empty {library : RegionLibrary} {rects : List Rectangle16}
    (h : library.extents (rects.foldl library.unionRect library.init) = ⟨0, 0, 0, 0⟩) :
    postRect framebuffer (alignedExtents library desktop rects) = [] := by
  apply postRect_of_eq_zero
  have hproper : (box ⟨0, 0, 0, 0⟩).Proper := ⟨le_rfl, le_rfl⟩
  obtain ⟨halgn, -⟩ := @alignRect_aligned desktop _ hproper
  rw [alignedExtents, h, halgn.size_of_empty, UInt32.zero_mul]

theorem postRect_alignedExtents_nil (library : RegionLibrary) :
    postRect framebuffer (alignedExtents library desktop []) = [] :=
  postRect_of_empty library.extents_init

end

def ofBox (box : Box Nat) : Rectangle16 :=
  ⟨.ofNat box.left, .ofNat box.top, .ofNat box.right, .ofNat box.bottom⟩

theorem box_ofBox {rects : List Rectangle16} {hull : Box Nat} (h : Box.IsHull (rects.map box) hull) :
    box (ofBox hull) = hull := by
  have hlt : ∀ b ∈ rects.map box, b.left < 2 ^ 16 ∧ b.top < 2 ^ 16 ∧ b.right < 2 ^ 16 ∧ b.bottom < 2 ^ 16 := by
    intro b hb
    obtain ⟨rect, -, rfl⟩ := mem_map.mp hb
    obtain ⟨hright, hbottom, hleft, htop⟩ := box_le rect
    exact ⟨hleft, htop, hright, hbottom⟩
  obtain ⟨⟨bl, hbl, hleft⟩, -⟩ := h.left
  obtain ⟨⟨bt, hbt, htop⟩, -⟩ := h.top
  obtain ⟨⟨br, hbr, hright⟩, -⟩ := h.right
  obtain ⟨⟨bb, hbb, hbottom⟩, -⟩ := h.bottom
  have hl := (hlt bl hbl).1
  have ht := (hlt bt hbt).2.1
  have hr := (hlt br hbr).2.2.1
  have hb := (hlt bb hbb).2.2.2
  simp only [box, ofBox, UInt16.toNat_ofNat']
  rw [Nat.mod_eq_of_lt (by omega), Nat.mod_eq_of_lt (by omega), Nat.mod_eq_of_lt (by omega),
    Nat.mod_eq_of_lt (by omega)]

/-- The hull of some rectangles, and nothing for what is no rectangle. -/
def strictExtents : List Rectangle16 → Rectangle16
  | [] => ⟨0, 0, 0, 0⟩
  | first :: rest =>
    if ∀ rect ∈ first :: rest, (box rect).Proper then ofBox (Box.hull (box first) (rest.map box)) else ⟨0, 0, 0, 0⟩

theorem foldl_concat (rects : List Rectangle16) : rects.foldl (fun region rect => region ++ [rect]) [] = rects := by
  simp [← flatMap_def]

def RegionLibrary.strict : RegionLibrary where
  Region := List Rectangle16
  init := []
  unionRect region rect := region ++ [rect]
  extents := strictExtents
  extents_init := rfl
  extents_union := by
    intro rects hne hproper
    rw [foldl_concat]
    cases rects with
    | nil => exact absurd rfl hne
    | cons first rest =>
      have hhull := Box.isHull_hull (box first) (rest.map box)
      rw [strictExtents, if_pos hproper, @box_ofBox (first :: rest) _ hhull]
      exact hhull

/-! ## The damage of rectangles on the screen -/

structure Modest (rect : Rect) : Prop where
  left : 0 ≤ signed rect.x
  top : 0 ≤ signed rect.y
  right : signed rect.x + rect.width.toNat ≤ 65535
  bottom : signed rect.y + rect.height.toNat ≤ 65535
  width : 0 < rect.width.toNat
  height : 0 < rect.height.toNat

theorem toNat_of_signed {n : UInt32} (h : 0 ≤ signed n) : signed n = n.toNat := by
  apply signed_of_lt
  have hlt := n.toNat_lt
  unfold signed at h
  split at h <;> omega

theorem end16_toNat {start size : UInt32} (h : start.toNat + size.toNat ≤ 65535) :
    (start + size).toUInt16.toNat = start.toNat + size.toNat := by
  rw [UInt32.toNat_toUInt16, UInt32.toNat_add]
  show _ % 4294967296 % 65536 = _
  omega

variable {rect : Rect}

theorem box_rect16 (hleft : 0 ≤ signed rect.x) (htop : 0 ≤ signed rect.y)
    (hright : signed rect.x + rect.width.toNat ≤ 65535) (hbottom : signed rect.y + rect.height.toNat ≤ 65535) :
    box (rect16 rect) = ⟨rect.x.toNat, rect.y.toNat, rect.x.toNat + rect.width.toNat,
      rect.y.toNat + rect.height.toNat⟩ := by
  rw [toNat_of_signed hleft] at hright
  rw [toNat_of_signed htop] at hbottom
  have hx : rect.x.toUInt16.toNat = rect.x.toNat := by
    rw [UInt32.toNat_toUInt16]
    omega
  have hy : rect.y.toUInt16.toNat = rect.y.toNat := by
    rw [UInt32.toNat_toUInt16]
    omega
  simp only [box, rect16, hx, hy]
  rw [end16_toNat (by omega), end16_toNat (by omega)]

theorem Modest.box_rect16 (h : Modest rect) :
    box (rect16 rect) = ⟨rect.x.toNat, rect.y.toNat, rect.x.toNat + rect.width.toNat,
      rect.y.toNat + rect.height.toNat⟩ := Core.box_rect16 h.left h.top h.right h.bottom

structure Packed (desktop : Desktop) (framebuffer : Framebuffer) (messages posts paints : List AnyMessage) : Prop where
  posts : posts.map AnyMessage.contents = (othersOf messages).map fun message => message.typed.contents
  detached : framebuffer.fbAttached = false → paints = []
  single : paints.length ≤ 1
  inside : ∀ message ∈ paints, ∃ msg, paint? message = some msg ∧ Inside desktop msg
  covers : framebuffer.fbAttached = true → ∀ message ∈ damageOf messages,
    Covered (visible desktop message.common.rect) paints

/-- A rectangle is posted for a desktop without points, or none is posted since the product of the sizes is `2 ^ 32`. -/
def Lost (hull : Box Nat) : Prop :=
  let width := desktop.width.toNat
  let height := desktop.height.toNat
  width = 0 ∧ 16 ≤ hull.left ∧ ¬(height = 0 ∧ hull.top < 16) ∨
    height = 0 ∧ 16 ≤ hull.top ∧ ¬(width = 0 ∧ hull.left < 16) ∨
    Overflows width hull.left hull.right ∧ Overflows height hull.top hull.bottom

section

variable {desktop : Desktop} {framebuffer : Framebuffer} {messages : List AnyMessage} {rect : Rect} {hull : Box Nat}

theorem mem_regionOf {message : AnyMessage} (h : message ∈ damageOf messages) :
    box (rect16 message.common.rect) ∈ (Pipeline.regionOf messages).map box := by
  rw [regionOf, map_map]
  exact mem_map_of_mem h

theorem exists_damage (hhull : Box.IsHull ((Pipeline.regionOf messages).map box) hull) :
    ∃ message, message ∈ damageOf messages := by
  obtain ⟨b, hb, -⟩ := hhull.left.1
  rw [regionOf, map_map] at hb
  obtain ⟨message, hmsg, -⟩ := mem_map.mp hb
  exact ⟨message, hmsg⟩

theorem Modest.hull_le (hhull : Box.IsHull ((Pipeline.regionOf messages).map box) hull) {message : AnyMessage}
    (hmsg : message ∈ damageOf messages) (h : Modest message.common.rect) :
    let rect := message.common.rect
    hull.left ≤ rect.x.toNat ∧ rect.x.toNat + rect.width.toNat ≤ hull.right ∧ hull.top ≤ rect.y.toNat ∧
      rect.y.toNat + rect.height.toNat ≤ hull.bottom := by
  have hbox := mem_regionOf hmsg
  rw [h.box_rect16] at hbox
  exact ⟨hhull.left_le hbox, hhull.le_right hbox, hhull.top_le hbox, hhull.le_bottom hbox⟩

theorem Modest.covered (hatt : framebuffer.fbAttached = true)
    (hhull : Box.IsHull ((Pipeline.regionOf messages).map box) hull) (halgn : AlignedRect desktop hull rect)
    (hposted : rect.width * rect.height ≠ 0) {message : AnyMessage} (hmsg : message ∈ damageOf messages)
    (h : Modest message.common.rect) :
    Covered (visible desktop message.common.rect) (postRect framebuffer rect) := by
  intro point hpoint
  obtain ⟨msg, hpaint, hpaints⟩ := exists_paint framebuffer.fbSegmentId rect
  obtain ⟨hleft, hright, htop, hbottom⟩ := h.hull_le hhull hmsg
  rw [mem_visible, toNat_of_signed h.left, toNat_of_signed h.top] at hpoint
  obtain ⟨hx, hy, hx', hy'⟩ := hpoint
  rw [postRect_of_ne_zero hatt hposted]
  refine ⟨_, mem_singleton_self _, msg, hpaint, ?_⟩
  exact halgn.mem_painted hpaints (by omega) (by omega) hx'.2 hy'.2

theorem Modest.visible_of_overflow {message : AnyMessage} (h : Modest message.common.rect)
    (hwid : 65536 ≤ desktop.width.toNat) (hhgt : 65536 ≤ desktop.height.toNat) :
    visible desktop message.common.rect ≠ ∅ := by
  have hright := h.right
  have hbottom := h.bottom
  have hw := h.width
  have hh := h.height
  apply Set.Nonempty.ne_empty
  refine ⟨(signed message.common.rect.x, signed message.common.rect.y), ?_⟩
  rw [mem_visible]
  have hleft := h.left
  have htop := h.top
  dsimp only
  omega

section

variable (h : AlignedRect desktop hull rect) (hleft : hull.left < hull.right) (htop : hull.top < hull.bottom)

include h hleft htop

theorem AlignedRect.mul_eq_zero_iff_lost (hwid : 0 < desktop.width.toNat) (hhgt : 0 < desktop.height.toNat) :
    rect.width * rect.height = 0 ↔ Lost desktop hull := by
  have hw := h.horizontal.size_pos hwid hleft
  have hh := h.vertical.size_pos hhgt htop
  rw [h.horizontal.mul_eq_zero_iff h.vertical hwid hhgt, Lost]
  simp [hw.ne', hh.ne', hwid.ne', hhgt.ne']

theorem AlignedRect.mul_ne_zero_iff_lost (hzero : desktop.width.toNat = 0 ∨ desktop.height.toNat = 0) :
    rect.width * rect.height ≠ 0 ↔ Lost desktop hull := by
  obtain hwid | hhgt := hzero
  · rw [Ne, h.horizontal.mul_eq_zero_of_outside h.vertical hwid htop, Lost, Overflows, Overflows]
    omega
  · rw [Ne, UInt32.mul_comm, h.vertical.mul_eq_zero_of_outside h.horizontal hhgt hleft, Lost, Overflows, Overflows]
    omega

end

theorem posted_iff (hatt : framebuffer.fbAttached = true)
    (hmodest : ∀ message ∈ damageOf messages, Modest message.common.rect)
    (hhull : Box.IsHull ((Pipeline.regionOf messages).map box) hull) (halgn : AlignedRect desktop hull rect) :
    ((∀ message ∈ postRect framebuffer rect, ∃ msg, paint? message = some msg ∧ Inside desktop msg) ∧
      ∀ message ∈ damageOf messages, Covered (visible desktop message.common.rect) (postRect framebuffer rect)) ↔
      ¬Lost desktop hull := by
  obtain ⟨message, hmsg⟩ := exists_damage hhull
  have hrect := hmodest message hmsg
  have hw := hrect.width
  have hh := hrect.height
  obtain ⟨hx, hx', hy, hy'⟩ := hrect.hull_le hhull hmsg
  have hleft : hull.left < hull.right := by omega
  have htop : hull.top < hull.bottom := by omega
  obtain ⟨msg, hpaint, hpaints⟩ := exists_paint framebuffer.fbSegmentId rect
  by_cases hzero : desktop.width.toNat = 0 ∨ desktop.height.toNat = 0
  · rw [← halgn.mul_ne_zero_iff_lost hleft htop hzero, not_not]
    constructor
    · intro ⟨hins, _⟩
      by_contra hposted
      rw [postRect_of_ne_zero hatt hposted] at hins
      obtain ⟨msg', hpaint', hins'⟩ := hins _ (mem_singleton_self _)
      obtain rfl := Option.some_inj.mp (hpaint.symm.trans hpaint')
      exact halgn.not_inside hleft htop hzero hposted hpaints hins'
    · intro hproduct
      rw [postRect_of_eq_zero hproduct]
      exact ⟨fun _ h => absurd h not_mem_nil, fun _ _ => covered_of_zero _ hzero⟩
  · have hwid : 0 < desktop.width.toNat := by omega
    have hhgt : 0 < desktop.height.toNat := by omega
    have hlost := halgn.mul_eq_zero_iff_lost hleft htop hwid hhgt
    constructor
    · intro ⟨_, hcov⟩ h
      rw [postRect_of_eq_zero (hlost.mpr h)] at hcov
      simp only [Lost, Overflows] at h
      exact hrect.visible_of_overflow (by omega) (by omega) (covered_nil.mp (hcov message hmsg))
    · intro h
      have hposted : rect.width * rect.height ≠ 0 := fun hproduct => h (hlost.mp hproduct)
      refine ⟨?_, fun message hmsg => (hmodest message hmsg).covered hatt hhull halgn hposted hmsg⟩
      rw [postRect_of_ne_zero hatt hposted]
      intro posted hmem
      obtain rfl := mem_singleton.mp hmem
      exact ⟨msg, hpaint, halgn.inside hwid hhgt hpaints⟩

theorem Modest.proper (h : Modest rect) : (box (rect16 rect)).Proper := by
  rw [h.box_rect16]
  exact ⟨Nat.le_add_right _ _, Nat.le_add_right _ _⟩

theorem exists_hull (library : RegionLibrary) (desktop : Desktop) (hdmg : damageOf messages ≠ [])
    (hproper : ∀ message ∈ damageOf messages, (box (rect16 message.common.rect)).Proper) :
    ∃ hull, Box.IsHull ((Pipeline.regionOf messages).map box) hull ∧
      AlignedRect desktop hull (damageRect library desktop messages) := by
  apply exists_alignedExtents
  · simpa [regionOf] using hdmg
  · intro rect hrect
    obtain ⟨message, hmsg, rfl⟩ := mem_map.mp hrect
    exact hproper message hmsg

theorem postRect_damageRect_nil (library : RegionLibrary) (hdmg : damageOf messages = []) :
    postRect framebuffer (damageRect library desktop messages) = [] := by
  rw [damageRect, regionOf, hdmg, map_nil, postRect_alignedExtents_nil]

theorem contents_posts_iff {messages : List AnyMessage} :
    (messages.map fun message => message.typed.copy.contents) = (messages.map fun message => message.typed.contents) ↔
      ∀ message ∈ messages, message.Whole := by
  rw [map_inj_left]
  exact forall₂_congr fun message _ => message.typed.contents_copy_iff

theorem exists_packed_iff {queue posts paints : List AnyMessage} (hlen : posts.length = (othersOf messages).length) :
    (∃ posts' paints', (⟨[], queue ++ posts ++ paints⟩ : Pipeline) = ⟨[], queue ++ posts' ++ paints'⟩ ∧
      Packed desktop framebuffer messages posts' paints') ↔ Packed desktop framebuffer messages posts paints := by
  constructor
  · intro ⟨posts', paints', hqueue, hpacked⟩
    have hlen' : posts'.length = (othersOf messages).length := by simpa using congrArg length hpacked.posts
    rw [mk.injEq, append_assoc, append_assoc, append_right_inj] at hqueue
    obtain ⟨rfl, rfl⟩ := append_inj hqueue.2 (hlen.trans hlen'.symm)
    exact hpacked
  · exact fun hpacked => ⟨posts, paints, rfl, hpacked⟩

theorem packed_iff {posts : List AnyMessage} :
    Packed desktop framebuffer messages posts (postRect framebuffer rect) ↔
      (posts.map AnyMessage.contents = (othersOf messages).map fun message => message.typed.contents) ∧
        (framebuffer.fbAttached = true →
          (∀ message ∈ postRect framebuffer rect, ∃ msg, paint? message = some msg ∧ Inside desktop msg) ∧
            ∀ message ∈ damageOf messages,
              Covered (visible desktop message.common.rect) (postRect framebuffer rect)) := by
  constructor
  · exact fun h => ⟨h.posts, fun hatt => ⟨h.inside, h.covers hatt⟩⟩
  · intro ⟨hposts, hpaints⟩
    refine ⟨hposts, postRect_of_detached, length_postRect, ?_, fun hatt => (hpaints hatt).2⟩
    by_cases hatt : framebuffer.fbAttached = true
    · exact (hpaints hatt).1
    · rw [postRect_of_detached (Bool.eq_false_iff.mpr hatt)]
      exact fun _ h => absurd h not_mem_nil

end

/-- What is packed is right exactly when no message leaves data behind and the hull of the damage is not lost. -/
theorem damage_packed_iff (desktop : Desktop) (framebuffer : Framebuffer)
    (messages queue : List AnyMessage) (hmodest : ∀ message ∈ damageOf messages, Modest message.common.rect) :
    (∃ posts paints, Pipeline.queuePack library desktop framebuffer (messages.foldl Pipeline.enqueue ⟨[], queue⟩) =
        ⟨[], queue ++ posts ++ paints⟩ ∧ Packed desktop framebuffer messages posts paints) ↔
      (∀ message ∈ othersOf messages, message.Whole) ∧ (framebuffer.fbAttached = true →
        ∀ hull, Box.IsHull ((Pipeline.regionOf messages).map box) hull → ¬Lost desktop hull) := by
  rw [queuePack_enqueue, exists_packed_iff (length_map _), packed_iff, map_map]
  refine and_congr contents_posts_iff (imp_congr_right fun hatt => ?_)
  by_cases hdmg : damageOf messages = []
  · rw [postRect_damageRect_nil library hdmg]
    refine iff_of_true ⟨fun _ h => absurd h not_mem_nil, fun _ h => ?_⟩ fun hull hhull => ?_
    · rw [hdmg] at h
      exact absurd h not_mem_nil
    · obtain ⟨message, hmsg⟩ := exists_damage hhull
      rw [hdmg] at hmsg
      exact absurd hmsg not_mem_nil
  · obtain ⟨hull, hhull, halgn⟩ := exists_hull library desktop hdmg fun message hmsg =>
      (hmodest message hmsg).proper
    rw [posted_iff hatt hmodest hhull halgn]
    constructor
    · intro hlost hull' hhull'
      rwa [hhull'.unique hhull]
    · exact fun h => h hull hhull

def Sample.blt (rect : Rect) : AnyMessage where
  kind := .received .screenBlt
  common := ⟨5, 0, flagRect, rect⟩
  msg := ⟨rect.x, rect.y, rect.width, rect.height, 0, 0, 0⟩

def Sample.attached : Framebuffer := ⟨1024, 768, true, 7⟩

theorem Sample.hull_blt {hull : Box Nat} (h : Box.IsHull [box (rect16 rect)] hull) :
    hull = box (rect16 rect) := h.unique (Box.isHull_hull _ [])

theorem Sample.modest_blt : ∀ message ∈ damageOf [Sample.blt ⟨10, 20, 30, 40⟩], Modest message.common.rect := by
  intro message hmsg
  obtain rfl : message = Sample.blt ⟨10, 20, 30, 40⟩ := mem_singleton.mp hmsg
  constructor <;> decide

theorem damage_packed_blt :
    ∃ posts paints, Pipeline.queuePack .strict ⟨1024, 768⟩ Sample.attached
        ([Sample.blt ⟨10, 20, 30, 40⟩].foldl Pipeline.enqueue ⟨[], []⟩) = ⟨[], [] ++ posts ++ paints⟩ ∧
      Packed ⟨1024, 768⟩ Sample.attached [Sample.blt ⟨10, 20, 30, 40⟩] posts paints := by
  apply (damage_packed_iff .strict ⟨1024, 768⟩ Sample.attached [Sample.blt ⟨10, 20, 30, 40⟩] [] Sample.modest_blt).mpr
  refine ⟨fun message hmsg => absurd hmsg not_mem_nil, fun _ hull hhull => ?_⟩
  obtain rfl := Sample.hull_blt hhull
  unfold Lost Overflows
  decide

/-- A rectangle on a large desktop that nothing is posted for. -/
theorem damage_lost_blt :
    (∀ message ∈ damageOf [Sample.blt ⟨0, 0, 65528, 65528⟩], Modest message.common.rect) ∧
      ¬∃ posts paints, Pipeline.queuePack .strict ⟨65536, 65536⟩ Sample.attached
          ([Sample.blt ⟨0, 0, 65528, 65528⟩].foldl Pipeline.enqueue ⟨[], []⟩) = ⟨[], [] ++ posts ++ paints⟩ ∧
        Packed ⟨65536, 65536⟩ Sample.attached [Sample.blt ⟨0, 0, 65528, 65528⟩] posts paints := by
  constructor
  · intro message hmsg
    obtain rfl : message = Sample.blt ⟨0, 0, 65528, 65528⟩ := mem_singleton.mp hmsg
    constructor <;> decide
  · intro ⟨posts, paints, hqueue, hpacked⟩
    have hnone : queuePack .strict ⟨65536, 65536⟩ Sample.attached
        ([Sample.blt ⟨0, 0, 65528, 65528⟩].foldl enqueue ⟨[], []⟩) = ⟨[], []⟩ := rfl
    rw [hnone, mk.injEq, nil_append] at hqueue
    obtain ⟨rfl, rfl⟩ := append_eq_nil_iff.mp hqueue.2.symm
    have hcov := hpacked.covers rfl _ (mem_singleton_self _)
    obtain ⟨message, hmsg, -⟩ := hcov (0, 0) (by rw [mem_visible]; decide)
    exact absurd hmsg not_mem_nil

/-! ## Damage that is not all on the screen -/

/-- An axis of the hull is enough for what is between two coordinates. -/
def Reaches (limit start stop : Nat) (low high : Int) : Prop :=
  gridStart limit start ≤ max low 0 ∧
    if start < limit then min high limit ≤ stop + stop % 16 else start < stop ∨ (limit - 1) % 16 ≠ 0

theorem Aligned.reaches_iff {limit start stop : Nat} {position size : UInt32} {low high : Int}
    (h : Aligned limit start stop position size) (hne : max low 0 < min high limit) :
    ((position.toNat : Int) ≤ max low 0 ∧ min high limit ≤ position.toNat + size.toNat) ↔
      Reaches limit start stop low high := by
  have hproper := h.proper
  obtain ⟨hpos, hsize⟩ := h.inside (by omega)
  simp only [gridStart, alignedEnd, Reaches] at hpos hsize ⊢
  split <;> omega

section

variable {desktop : Desktop} {framebuffer : Framebuffer} {rect damage : Rect} {hull : Box Nat}

theorem visible_eq : visible desktop damage =
    Box.region
      { left := max (area damage).left 0, top := max (area damage).top 0
        right := min (area damage).right desktop.width.toNat
        bottom := min (area damage).bottom desktop.height.toNat } := by
  ext point
  simp only [visible, Desktop.area, Box.region, Set.mem_inter_iff, Set.mem_prod, Set.mem_Ico]
  omega

theorem visible_ranges (h : (visible desktop damage).Nonempty) :
    max (area damage).left 0 < min (area damage).right desktop.width.toNat ∧
      max (area damage).top 0 < min (area damage).bottom desktop.height.toNat := by
  rw [visible_eq] at h
  obtain ⟨hx, hy⟩ := Set.prod_nonempty_iff.mp h
  exact ⟨Set.nonempty_Ico.mp hx, Set.nonempty_Ico.mp hy⟩

theorem covered_singleton {points : Set (Int × Int)} {message : AnyMessage} {msg : PaintRect}
    (h : paint? message = some msg) : Covered points [message] ↔ points ⊆ (painted msg).region := by
  simp [Covered, h, Set.subset_def]

theorem AlignedRect.subset_iff (h : AlignedRect desktop hull rect) {msg : PaintRect} (hpaints : Paints msg rect)
    (hvis : (visible desktop damage).Nonempty) :
    visible desktop damage ⊆ (painted msg).region ↔
      Reaches desktop.width.toNat hull.left hull.right (area damage).left (area damage).right ∧
        Reaches desktop.height.toNat hull.top hull.bottom (area damage).top (area damage).bottom := by
  obtain ⟨hx, hy⟩ := visible_ranges hvis
  obtain ⟨hx', hy', hw', hh'⟩ := h.signed_eq (by omega) (by omega)
  rw [visible_eq, ← h.horizontal.reaches_iff hx, ← h.vertical.reaches_iff hy, Box.region, Box.region,
    Set.prod_subset_prod_iff, Set.Ico_subset_Ico_iff hx, Set.Ico_subset_Ico_iff hy]
  simp only [painted, hpaints.left, hpaints.top, hpaints.width, hpaints.height, hx', hy', hw', hh']
  simp [(Set.nonempty_Ico.mpr hx).ne_empty, (Set.nonempty_Ico.mpr hy).ne_empty]

theorem Reaches.size_ne_zero {limit start stop : Nat} {position size : UInt32} {low high : Int}
    (h : Aligned limit start stop position size) (hne : max low 0 < min high limit)
    (hreaches : Reaches limit start stop low high) : size.toNat ≠ 0 := by
  have hends := (h.reaches_iff hne).mpr hreaches
  omega

theorem covered_posted_iff (halgn : AlignedRect desktop hull rect) (hatt : framebuffer.fbAttached = true)
    (hvis : (visible desktop damage).Nonempty) :
    Covered (visible desktop damage) (postRect framebuffer rect) ↔
      ¬(Overflows desktop.width.toNat hull.left hull.right ∧ Overflows desktop.height.toNat hull.top hull.bottom) ∧
        Reaches desktop.width.toNat hull.left hull.right (area damage).left (area damage).right ∧
        Reaches desktop.height.toNat hull.top hull.bottom (area damage).top (area damage).bottom := by
  obtain ⟨hx, hy⟩ := visible_ranges hvis
  have hproduct := halgn.horizontal.mul_eq_zero_iff halgn.vertical (by omega) (by omega)
  obtain ⟨msg, hpaint, hpaints⟩ := exists_paint framebuffer.fbSegmentId rect
  by_cases hzero : rect.width * rect.height = 0
  · rw [postRect_of_eq_zero hzero, covered_nil]
    refine iff_of_false hvis.ne_empty fun ⟨hovf, hreaches, hreaches'⟩ => ?_
    obtain hsize | hsize | hboth := hproduct.mp hzero
    · exact Reaches.size_ne_zero halgn.horizontal hx hreaches hsize
    · exact Reaches.size_ne_zero halgn.vertical hy hreaches' hsize
    · exact hovf hboth
  · rw [postRect_of_ne_zero hatt hzero, covered_singleton hpaint, halgn.subset_iff hpaints hvis]
    exact (and_iff_right fun hboth => hzero (hproduct.mpr (.inr (.inr hboth)))).symm

variable {messages : List AnyMessage}

theorem postRect_strict (h : ¬∀ message ∈ damageOf messages, (box (rect16 message.common.rect)).Proper) :
    postRect framebuffer (damageRect .strict desktop messages) = [] := by
  apply postRect_of_empty
  have hregion : ¬∀ rect ∈ regionOf messages, (box rect).Proper := by
    intro hproper
    exact h fun message hmsg => hproper _ (mem_map_of_mem hmsg)
  show strictExtents ((regionOf messages).foldl (fun region rect => region ++ [rect]) []) = _
  rw [foldl_concat]
  cases hrects : regionOf messages with
  | nil => rfl
  | cons first rest =>
    rw [hrects] at hregion
    rw [strictExtents, if_neg hregion]

/-- What may be damaged without being lost: the hull of the coordinates modulo `2 ^ 16` reaches everything that can be
seen. -/
structure Reached (desktop : Desktop) (messages : List AnyMessage) : Prop where
  proper : ∀ message ∈ messages, (box (rect16 message.common.rect)).Proper
  reaches : ∀ hull, Box.IsHull (messages.map fun message => box (rect16 message.common.rect)) hull →
    ¬(Overflows desktop.width.toNat hull.left hull.right ∧ Overflows desktop.height.toNat hull.top hull.bottom) ∧
      ∀ message ∈ messages, (visible desktop message.common.rect).Nonempty →
        let damage := area message.common.rect
        Reaches desktop.width.toNat hull.left hull.right damage.left damage.right ∧
          Reaches desktop.height.toNat hull.top hull.bottom damage.top damage.bottom

theorem queuePack_damage (library : RegionLibrary) {messages : List AnyMessage} (queue : List AnyMessage)
    (hflag : ∀ message ∈ messages, message.kind.enqueued = true ∧ message.flagged = true) :
    damageOf messages = messages ∧
      Pipeline.queuePack library desktop framebuffer (messages.foldl Pipeline.enqueue ⟨[], queue⟩) =
        ⟨[], queue ++ postRect framebuffer (damageRect library desktop messages)⟩ := by
  have hdmg : damageOf messages = messages := by
    rw [damageOf, filter_eq_self]
    intro message hmsg
    simp [hflag message hmsg]
  have hothers : othersOf messages = [] := by
    rw [othersOf, filter_eq_nil_iff]
    intro message hmsg
    simp [hflag message hmsg]
  refine ⟨hdmg, ?_⟩
  rw [queuePack_enqueue, hothers, map_nil, append_nil]

theorem Covered.of_empty {points : Set (Int × Int)} (h : points = ∅) :
    Covered points messages := by
  rw [h]
  exact fun _ hpoint => absurd hpoint (Set.notMem_empty _)

theorem exists_hull_damage (library : RegionLibrary) {messages : List AnyMessage} (hdmg : damageOf messages = messages)
    (hne : messages ≠ []) (hproper : ∀ message ∈ messages, (box (rect16 message.common.rect)).Proper) :
    ∃ hull, Box.IsHull (messages.map fun message => box (rect16 message.common.rect)) hull ∧
      AlignedRect desktop hull (damageRect library desktop messages) := by
  obtain ⟨hull, hhull, halgn⟩ := exists_hull library desktop (hdmg.symm ▸ hne) (hdmg.symm ▸ hproper)
  rw [regionOf, hdmg, map_map] at hhull
  exact ⟨hull, hhull, halgn⟩

theorem Reached.of_covered (hatt : framebuffer.fbAttached = true)
    (hdmg : damageOf messages = messages)
    (hcov : ∀ message ∈ messages,
      Covered (visible desktop message.common.rect) (postRect framebuffer (damageRect .strict desktop messages)))
    {seen : AnyMessage} (hseen : seen ∈ messages) (hvis : (visible desktop seen.common.rect).Nonempty) :
    Reached desktop messages := by
  have hproper : ∀ message ∈ messages, (box (rect16 message.common.rect)).Proper := by
    by_contra hnot
    have hnil := hcov seen hseen
    rw [postRect_strict (hdmg.symm ▸ hnot), covered_nil] at hnil
    exact hvis.ne_empty hnil
  refine ⟨hproper, fun hull hhull => ?_⟩
  obtain ⟨hull', hhull', halgn⟩ :=
    @exists_hull_damage desktop .strict messages hdmg (ne_nil_of_mem hseen) hproper
  obtain rfl := hhull.unique hhull'
  have hreaches := fun message (hmsg : message ∈ messages) hvis =>
    (covered_posted_iff halgn hatt hvis).mp (hcov message hmsg)
  exact ⟨(hreaches seen hseen hvis).1, fun message hmsg hvis => (hreaches message hmsg hvis).2⟩

theorem Reached.covered (h : Reached desktop messages) (library : RegionLibrary)
    (hatt : framebuffer.fbAttached = true) (hdmg : damageOf messages = messages) {message : AnyMessage}
    (hmsg : message ∈ messages) (hvis : (visible desktop message.common.rect).Nonempty) :
    Covered (visible desktop message.common.rect) (postRect framebuffer (damageRect library desktop messages)) := by
  obtain ⟨hull, hhull, halgn⟩ :=
    @exists_hull_damage desktop library messages hdmg (ne_nil_of_mem hmsg) h.proper
  obtain ⟨hovf, hreaches⟩ := h.reaches hull hhull
  exact (covered_posted_iff halgn hatt hvis).mpr ⟨hovf, hreaches message hmsg hvis⟩

end

theorem Sample.flagged_blt (rect : Rect) : ∀ message ∈ [Sample.blt rect],
    message.kind.enqueued = true ∧ message.flagged = true := by
  intro message hmsg
  obtain rfl := mem_singleton.mp hmsg
  exact ⟨rfl, show decide (flagRect &&& flagRect ≠ 0) = true by decide⟩

end FreeRDS.Core
