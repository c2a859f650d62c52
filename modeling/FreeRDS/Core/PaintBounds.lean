import FreeRDS.Core.Connector
import FreeRDS.Core.Damage

/-! # The bounds of what is painted

A rectangle is packed for the desktop of that moment, and it is painted from the framebuffer of a later one. In between
another framebuffer may have been attached.
-/

namespace FreeRDS.Core

open Lib Backend List

/-! ## Painting -/

/-- The size is cut off where it is too large for the framebuffer, whatever the place that is painted. -/
def clampSize (source limit size : UInt32) : UInt32 :=
  if signed limit < signed (source + size) then limit - source else size

variable (framebuffer : Framebuffer) (msg : PaintRect)

def clampPaint : PaintRect :=
  { msg with
    nWidth := clampSize msg.nXSrc framebuffer.fbWidth msg.nWidth
    nHeight := clampSize msg.nYSrc framebuffer.fbHeight msg.nHeight }

/-- What `freerds_client_inbound_paint_rect` passes on to `freerds_send_surface_bits` or `freerds_send_bitmap_update`.
Without a pointer to the framebuffer it does not get so far. -/
def inboundPaintRect : Option PaintRect :=
  match msg.framebuffer with
  | .data () => if framebuffer.fbAttached then some (clampPaint framebuffer msg) else none
  | .null => none
  | .wild => none

variable (connector : Connector)

/-- What is passed on when the first message of the queue is processed. -/
def Connector.passedOn : Option PaintRect :=
  match connector.pipeline.queue with
  | [] => none
  | message :: _ => (paint? message).bind (inboundPaintRect connector.framebuffer)

structure Within : Prop where
  right : signed msg.nLeftRect + signed msg.nWidth ≤ signed framebuffer.fbWidth
  bottom : signed msg.nTopRect + signed msg.nHeight ≤ signed framebuffer.fbHeight
  width : 0 ≤ signed msg.nWidth
  height : 0 ≤ signed msg.nHeight

/-- A rectangle that is painted from the framebuffer of the connector, with no negative member. -/
structure Plain (msg : PaintRect) : Prop where
  framebuffer : msg.framebuffer = .data ()
  nXSrc : msg.nXSrc = 0
  nYSrc : msg.nYSrc = 0
  left : 0 ≤ signed msg.nLeftRect
  top : 0 ≤ signed msg.nTopRect
  width : 0 ≤ signed msg.nWidth
  height : 0 ≤ signed msg.nHeight

/-- A rectangle starts at the edge, where its size is cut off as it should be, or ends on a framebuffer of this size. -/
structure Fits (width height : UInt32) (msg : PaintRect) : Prop where
  horizontal : signed msg.nLeftRect = 0 ∨ signed msg.nLeftRect + signed msg.nWidth ≤ signed width
  vertical : signed msg.nTopRect = 0 ∨ signed msg.nTopRect + signed msg.nHeight ≤ signed height

theorem signed_clampSize_zero (limit size : UInt32) : signed (clampSize 0 limit size) = min (signed size) (signed limit) := by
  unfold clampSize
  rw [UInt32.zero_add, UInt32.sub_zero]
  split <;> omega

theorem Fits.within {framebuffer : Framebuffer} {msg : PaintRect} (hplain : Plain msg)
    (hwid : 0 < signed framebuffer.fbWidth) (hhgt : 0 < signed framebuffer.fbHeight)
    (h : Fits framebuffer.fbWidth framebuffer.fbHeight msg) : Within framebuffer (clampPaint framebuffer msg) := by
  have hw := signed_clampSize_zero framebuffer.fbWidth msg.nWidth
  have hh := signed_clampSize_zero framebuffer.fbHeight msg.nHeight
  have hw' := hplain.width
  have hh' := hplain.height
  have hx := h.horizontal
  have hy := h.vertical
  constructor <;> simp only [clampPaint, hplain.nXSrc, hplain.nYSrc] <;> omega

/-! ## What is waiting -/

/-- A message in the list: one that is posted is not to be painted itself and does not change the desktop, and the
coordinates of damage are in order. -/
def Listed (message : AnyMessage) : Prop :=
  if message.flagged then (box (rect16 message.common.rect)).Proper
  else message.kind ≠ .received .paintRect ∧ message.kind ≠ .reset

theorem paint?_eq_none {message : AnyMessage} (h : message.kind ≠ .received .paintRect) : paint? message = none := by
  unfold paint?
  split
  next => exact absurd rfl h
  next => rfl

structure Sound (pipeline : Pipeline) (desktop : Desktop) (framebuffer : Framebuffer) : Prop where
  listed : ∀ message ∈ pipeline.list, Listed message
  queued : ∀ message ∈ pipeline.queue, message.kind ≠ .reset
  plain : ∀ message ∈ pipeline.queue, ∀ msg, paint? message = some msg → Plain msg
  fits : framebuffer.fbAttached = true → ∀ message ∈ pipeline.queue, ∀ msg, paint? message = some msg →
    Fits framebuffer.fbWidth framebuffer.fbHeight msg
  size : framebuffer.fbAttached = true → desktop = ⟨framebuffer.fbWidth, framebuffer.fbHeight⟩ ∧
    0 < signed framebuffer.fbWidth ∧ 0 < signed framebuffer.fbHeight

theorem plain_paintRect {segmentId : UInt32} {rect : Rect} {msg : PaintRect}
    (h : paint? (paintRect segmentId rect) = some msg) (hleft : 0 ≤ signed rect.x) (htop : 0 ≤ signed rect.y)
    (hwid : 0 ≤ signed rect.width) (hhgt : 0 ≤ signed rect.height) : Plain msg ∧ Paints msg rect := by
  obtain rfl := Option.some_inj.mp h
  exact ⟨⟨rfl, rfl, rfl, hleft, htop, hwid, hhgt⟩, rfl, rfl, rfl, rfl⟩

namespace Sound

variable {pipeline : Pipeline} {desktop : Desktop} {framebuffer : Framebuffer}

section

variable (h : Sound pipeline desktop framebuffer)

include h

theorem enqueue {message : AnyMessage}
    (hlisted : message.kind.enqueued = true → Listed message) :
    Sound (pipeline.enqueue message) desktop framebuffer := by
  unfold Pipeline.enqueue
  split
  next henqueued =>
    refine { h with listed := fun m hm => ?_ }
    obtain hm | hm := mem_append.mp hm
    · exact h.listed m hm
    · obtain rfl := mem_singleton.mp hm
      exact hlisted henqueued
  next => exact h

theorem posted (library : RegionLibrary)
    (hatt : framebuffer.fbAttached = true) {message : AnyMessage}
    (hmsg : message ∈ postRect framebuffer
      ((pipeline.list.foldl Packing.node (.start library)).rect desktop)) {msg : PaintRect}
    (hpaint : paint? message = some msg) : Plain msg ∧ Fits framebuffer.fbWidth framebuffer.fbHeight msg := by
  have hrect : (pipeline.list.foldl Packing.node (.start library)).rect desktop = alignedExtents library desktop
      ((pipeline.list.filter AnyMessage.flagged).map fun message => rect16 message.common.rect) := by
    rw [Packing.foldl_node]
    rfl
  rw [hrect] at hmsg
  obtain ⟨hdsk, hwid, hhgt⟩ := h.size hatt
  have hproper : ∀ rect ∈ (pipeline.list.filter AnyMessage.flagged).map fun message => rect16 message.common.rect,
      (box rect).Proper := by
    intro rect hmem
    obtain ⟨damage, hdmg, rfl⟩ := mem_map.mp hmem
    obtain ⟨hlist, hflag⟩ := mem_filter.mp hdmg
    have hlisted := h.listed damage hlist
    rwa [Listed, if_pos hflag] at hlisted
  by_cases hnone : ((pipeline.list.filter AnyMessage.flagged).map fun message => rect16 message.common.rect) = []
  · rw [hnone, postRect_alignedExtents_nil] at hmsg
    exact absurd hmsg not_mem_nil
  obtain ⟨hull, -, halgn⟩ := exists_alignedExtents library desktop hnone hproper
  have hwid' := toNat_of_signed hwid.le
  have hhgt' := toNat_of_signed hhgt.le
  have hpos : 0 < desktop.width.toNat := by rw [hdsk]; dsimp only; omega
  have hpos' : 0 < desktop.height.toNat := by rw [hdsk]; dsimp only; omega
  obtain ⟨hx, hy, hw, hh⟩ := halgn.signed_eq hpos hpos'
  obtain rfl := eq_of_mem_postRect hmsg
  obtain ⟨hplain, hpaints⟩ := plain_paintRect hpaint (by omega) (by omega) (by omega) (by omega)
  have hins := halgn.inside hpos hpos' hpaints
  have hright := hins.right
  have hbottom := hins.bottom
  rw [hdsk] at hright hbottom
  exact ⟨hplain, .inr (hwid' ▸ hright), .inr (hhgt' ▸ hbottom)⟩

theorem queuePack (library : RegionLibrary) :
    Sound (pipeline.queuePack library desktop framebuffer) desktop framebuffer := by
  have hposted : (pipeline.list.foldl Packing.node (.start library)).posted =
      pipeline.list.filter fun message => !message.flagged := by
    rw [Packing.foldl_node]
    rfl
  have hkept : ∀ message ∈ pipeline.list.filter fun message => !message.flagged,
      message.kind ≠ .received .paintRect ∧ message.kind ≠ .reset := by
    intro message hmsg
    obtain ⟨hlist, hflag⟩ := mem_filter.mp hmsg
    have hlisted := h.listed message hlist
    rwa [Listed, if_neg (by simpa using hflag)] at hlisted
  have hmem : ∀ message ∈ (pipeline.queuePack library desktop framebuffer).queue, message ∈ pipeline.queue ∨
      (message.kind ≠ .received .paintRect ∧ message.kind ≠ .reset) ∨
      message ∈ postRect framebuffer ((pipeline.list.foldl Packing.node (.start library)).rect desktop) := by
    intro message hmsg
    rw [Pipeline.queuePack, hposted] at hmsg
    obtain hmsg | hmsg := mem_append.mp hmsg
    · obtain hmsg | hmsg := mem_append.mp hmsg
      · exact .inl hmsg
      · exact .inr (.inl (hkept message hmsg))
    · exact .inr (.inr hmsg)
  have hatt : ∀ message ∈ postRect framebuffer
      ((pipeline.list.foldl Packing.node (.start library)).rect desktop), framebuffer.fbAttached = true := by
    intro message hmsg
    by_contra hdet
    rw [postRect_of_detached (Bool.eq_false_iff.mpr hdet)] at hmsg
    exact absurd hmsg not_mem_nil
  refine ⟨fun _ hmsg => absurd hmsg not_mem_nil, ?_, ?_, ?_, h.size⟩
  · intro message hmsg
    obtain hqueue | hother | hpost := hmem message hmsg
    · exact h.queued message hqueue
    · exact hother.2
    · obtain rfl := eq_of_mem_postRect hpost
      exact ServerType.noConfusion
  · intro message hmsg msg hpaint
    obtain hqueue | hother | hpost := hmem message hmsg
    · exact h.plain message hqueue msg hpaint
    · rw [paint?_eq_none hother.1] at hpaint
      cases hpaint
    · exact (h.posted library (hatt message hpost) hpost hpaint).1
  · intro hfb message hmsg msg hpaint
    obtain hqueue | hother | hpost := hmem message hmsg
    · exact h.fits hfb message hqueue msg hpaint
    · rw [paint?_eq_none hother.1] at hpaint
      cases hpaint
    · exact (h.posted library hfb hpost hpaint).2

theorem detach {detached : Framebuffer} (hdet : detached.fbAttached = false) :
    Sound pipeline desktop detached where
  listed := h.listed
  queued := h.queued
  plain := h.plain
  fits hatt := by simp [hdet] at hatt
  size hatt := by simp [hdet] at hatt

theorem attach {msg : SharedFramebuffer} (hwid : 0 < signed msg.width)
    (hhgt : 0 < signed msg.height)
    (hfits : ∀ waiting ∈ pipeline.queue, ∀ paint, paint? waiting = some paint → Fits msg.width msg.height paint) :
    Sound ⟨pipeline.list, pipeline.queue ++ [fullPaint msg]⟩ ⟨msg.width, msg.height⟩ (.attached msg) := by
  have hfull : ∀ paint, paint? (fullPaint msg) = some paint → Plain paint ∧ Fits msg.width msg.height paint := by
    intro paint hpaint
    obtain ⟨hplain, hpaints⟩ := plain_paintRect hpaint (le_refl (0 : Int)) (le_refl (0 : Int)) hwid.le hhgt.le
    refine ⟨hplain, .inl ?_, .inl ?_⟩
    · rw [hpaints.left]
      rfl
    · rw [hpaints.top]
      rfl
  refine ⟨h.listed, ?_, ?_, ?_, fun _ => ⟨rfl, hwid, hhgt⟩⟩
  · intro message hmsg
    obtain hqueue | hnew := mem_append.mp hmsg
    · exact h.queued message hqueue
    · obtain rfl := mem_singleton.mp hnew
      exact ServerType.noConfusion
  · intro message hmsg paint hpaint
    obtain hqueue | hnew := mem_append.mp hmsg
    · exact h.plain message hqueue paint hpaint
    · obtain rfl := mem_singleton.mp hnew
      exact (hfull paint hpaint).1
  · intro _ message hmsg paint hpaint
    obtain hqueue | hnew := mem_append.mp hmsg
    · exact hfits message hqueue paint hpaint
    · obtain rfl := mem_singleton.mp hnew
      exact (hfull paint hpaint).2

end

theorem tail {list queue : List AnyMessage} {message : AnyMessage}
    (h : Sound ⟨list, message :: queue⟩ desktop framebuffer) : Sound ⟨list, queue⟩ desktop framebuffer where
  listed := h.listed
  queued m hm := h.queued m (mem_cons_of_mem _ hm)
  plain m hm := h.plain m (mem_cons_of_mem _ hm)
  fits hatt m hm := h.fits hatt m (mem_cons_of_mem _ hm)
  size := h.size

end Sound

def Sample.attach (width height : UInt32) : AnyMessage where
  kind := .received .sharedFramebuffer
  common := ⟨18, 0, 0, ⟨0, 0, 0, 0⟩⟩
  msg := ⟨flagAttach, width, height, 4 * width, 7, 32, 4⟩

namespace Connector

/-- The messages are as they should be, and a framebuffer that is attached has a size that fits what is waiting. -/
def Careful : Event → Prop
  | .enqueue message => message.kind.enqueued = true → Listed message
  | .pack => True
  | .process mapped => mapped = true → ∀ message rest, connector.pipeline.queue = message :: rest →
      ∀ msg, shared? message = some msg → attaches msg = true → 0 < signed msg.width ∧ 0 < signed msg.height ∧
        ∀ waiting ∈ rest, ∀ paint, paint? waiting = some paint → Fits msg.width msg.height paint

def Bounded : Event → Prop
  | .process _ => ∀ msg, connector.passedOn = some msg → Within connector.framebuffer msg
  | _ => True

def IsSound : Prop := Sound connector.pipeline connector.desktop connector.framebuffer

variable {connector : Connector}

section

variable (h : IsSound connector)

include h

theorem IsSound.enqueue {message : AnyMessage}
    (hlisted : message.kind.enqueued = true → Listed message) : IsSound (connector.enqueue message) := by
  have hsame : (connector.enqueue message).desktop = connector.desktop ∧
      (connector.enqueue message).framebuffer = connector.framebuffer := by
    unfold Connector.enqueue
    split <;> exact ⟨rfl, rfl⟩
  unfold IsSound
  rw [pipeline_enqueue, hsame.1, hsame.2]
  exact .enqueue h hlisted

theorem IsSound.pack (library : RegionLibrary) : IsSound (connector.pack library) := by
  have hdsk : (connector.pack library).desktop = connector.desktop := desktop_foldl_post _ _
  have hfb : (connector.pack library).framebuffer = connector.framebuffer := framebuffer_foldl_post _ _
  unfold IsSound
  rw [pipeline_pack, hdsk, hfb]
  exact Sound.queuePack h library

theorem IsSound.process {mapped : Bool} (hcareful : Careful connector (.process mapped)) :
    IsSound (connector.process mapped) := by
  unfold Connector.process
  split
  next => exact h
  next copy queue hqueue =>
    have hpipeline : connector.pipeline.queue = copy.message :: queue.map Copy.message := by
      rw [pipeline, hqueue, map_cons]
    have htail : Sound { connector with queue }.pipeline connector.desktop connector.framebuffer := by
      refine @Sound.tail _ _ connector.pipeline.list _ copy.message ?_
      rw [← hpipeline]
      exact h
    obtain ⟨msg, hshared, hatts, hmapped, hhandle⟩ | ⟨msg, hhandle⟩ | hhandle | hreset | hhandle :=
      handle_cases mapped { connector with queue } copy.message
    · obtain ⟨hwid, hhgt, hfits⟩ := hcareful hmapped copy.message _ hpipeline msg hshared hatts
      have hattach := htail.attach hwid hhgt hfits
      rw [hhandle]
      simpa [IsSound, free, post, pipeline] using hattach
    · rw [hhandle]
      exact htail.detach rfl
    · rw [hhandle]
      exact htail.detach rfl
    · exact absurd hreset (h.queued copy.message (hpipeline ▸ mem_cons_self))
    · rw [hhandle]
      exact htail

theorem IsSound.step (library : RegionLibrary) {event : Event}
    (hcareful : Careful connector event) : IsSound (connector.step library event) := by
  cases event with
  | enqueue message => exact h.enqueue hcareful
  | pack => exact h.pack library
  | process mapped => exact h.process hcareful

theorem IsSound.bounded (event : Event) : Bounded connector event := by
  cases event with
  | enqueue message | pack => trivial
  | process mapped =>
    intro msg hpassed
    unfold passedOn at hpassed
    split at hpassed
    next => cases hpassed
    next message queue hqueue =>
      obtain ⟨paint, hpaint, hinb⟩ := Option.bind_eq_some_iff.mp hpassed
      have hmem : message ∈ connector.pipeline.queue := hqueue ▸ mem_cons_self
      have hplain := h.plain message hmem paint hpaint
      rw [inboundPaintRect, hplain.framebuffer] at hinb
      simp only at hinb
      split at hinb
      next hatt =>
        obtain rfl := Option.some_inj.mp hinb
        obtain ⟨-, hwid, hhgt⟩ := h.size hatt
        exact (h.fits hatt message hmem paint hpaint).within hplain hwid hhgt
      next => cases hinb

end

theorem isSound_init (desktop : Desktop) : IsSound (init desktop) where
  listed := fun _ h => absurd h not_mem_nil
  queued := fun _ h => absurd h not_mem_nil
  plain := fun _ h => absurd h not_mem_nil
  fits := fun h => absurd h Bool.false_ne_true
  size := fun h => absurd h Bool.false_ne_true

end Connector

end FreeRDS.Core
