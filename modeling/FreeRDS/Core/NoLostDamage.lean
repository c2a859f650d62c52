import FreeRDS.Core.Announcements

/-! # No damage is lost

A rectangle may be packed while the framebuffer that it belongs to is being attached, and then what is posted for it may be
cut off wrongly, or nothing is posted. The callback that attaches the framebuffer posts all of it in the end. While no
announcement is on the way, what is packed is aligned for the right desktop.
-/

namespace FreeRDS.Core

open Lib Backend List Option

/-! ## What covers a rectangle -/

/-- A rectangle lies inside an announced framebuffer and has coordinates below 65536. -/
structure InsideOf (msg : SharedFramebuffer) (rect : Rect) : Prop where
  left : 0 ≤ signed rect.x
  top : 0 ≤ signed rect.y
  right : signed rect.x + rect.width.toNat ≤ signed msg.width
  bottom : signed rect.y + rect.height.toNat ≤ signed msg.height
  right16 : signed rect.x + rect.width.toNat < 65536
  bottom16 : signed rect.y + rect.height.toNat < 65536

def Sized (msg : SharedFramebuffer) : Prop := ¬(65536 ≤ msg.width.toNat ∧ 65536 ≤ msg.height.toNat)

def Covers (msg : SharedFramebuffer) (rect : Rect) (message : AnyMessage) : Prop :=
  ∃ paint, paint? message = some paint ∧ paint.framebuffer = .data () ∧
    (area rect).region ⊆ (painted (clampPaint (.attached msg) paint)).region

section

variable {msg : SharedFramebuffer} {rect : Rect} {rects : List Rectangle16}

theorem mem_area {point : Int × Int} : point ∈ (area rect).region ↔
    (signed rect.x ≤ point.1 ∧ point.1 < signed rect.x + rect.width.toNat) ∧
      signed rect.y ≤ point.2 ∧ point.2 < signed rect.y + rect.height.toNat := .rfl

theorem InsideOf.covers_fullPaint (h : InsideOf msg rect) : Covers msg rect (fullPaint msg) := by
  refine ⟨_, rfl, rfl, fun point hpoint => ?_⟩
  rw [mem_area] at hpoint
  have hleft := h.left
  have htop := h.top
  have hright := h.right
  have hbottom := h.bottom
  have hwid := signed_clampSize_zero msg.width msg.width
  have hhgt := signed_clampSize_zero msg.height msg.height
  show (0 ≤ point.1 ∧ point.1 < 0 + signed (clampSize 0 msg.width msg.width)) ∧
    0 ≤ point.2 ∧ point.2 < 0 + signed (clampSize 0 msg.height msg.height)
  omega

theorem InsideOf.box_eq (h : InsideOf msg rect) :
    box (rect16 rect) = ⟨rect.x.toNat, rect.y.toNat, rect.x.toNat + rect.width.toNat,
      rect.y.toNat + rect.height.toNat⟩ :=
  box_rect16 h.left h.top (Int.lt_add_one_iff.mp h.right16) (Int.lt_add_one_iff.mp h.bottom16)

def Clean (msg : SharedFramebuffer) (rects : List Rectangle16) : Prop :=
  ∀ r ∈ rects, ∃ rect, InsideOf msg rect ∧ r = rect16 rect

section

variable (hclean : Clean msg rects) (library : RegionLibrary) (h : InsideOf msg rect) (hmem : rect16 rect ∈ rects)

include hclean h hmem

theorem Clean.exists_hull :
    ∃ hull, AlignedRect ⟨msg.width, msg.height⟩ hull (alignedExtents library ⟨msg.width, msg.height⟩ rects) ∧
      hull.left ≤ rect.x.toNat ∧ rect.x.toNat + rect.width.toNat ≤ hull.right ∧ hull.top ≤ rect.y.toNat ∧
      rect.y.toNat + rect.height.toNat ≤ hull.bottom := by
  have hproper : ∀ r ∈ rects, (box r).Proper := by
    intro r hr
    obtain ⟨other, hother, rfl⟩ := hclean r hr
    rw [hother.box_eq]
    exact ⟨Nat.le_add_right _ _, Nat.le_add_right _ _⟩
  obtain ⟨hull, hhull, halgn⟩ :=
    exists_alignedExtents library ⟨msg.width, msg.height⟩ (ne_nil_of_mem hmem) hproper
  have hbox : box (rect16 rect) ∈ rects.map box := mem_map_of_mem hmem
  rw [h.box_eq] at hbox
  exact ⟨hull, halgn, hhull.left_le hbox, hhull.le_right hbox, hhull.top_le hbox, hhull.le_bottom hbox⟩

theorem Clean.eq_empty (hsized : Sized msg)
    (hzero : (alignedExtents library ⟨msg.width, msg.height⟩ rects).width *
      (alignedExtents library ⟨msg.width, msg.height⟩ rects).height = 0) : (area rect).region = ∅ := by
  obtain ⟨hull, halgn, hleft, hright, htop, hbottom⟩ := hclean.exists_hull library h hmem
  rw [Set.eq_empty_iff_forall_notMem]
  intro point hpoint
  rw [mem_area] at hpoint
  have hx := toNat_of_signed h.left
  have hy := toNat_of_signed h.top
  have hw := h.right
  have hh := h.bottom
  have hw' := toNat_of_signed (show 0 ≤ signed msg.width by omega)
  have hh' := toNat_of_signed (show 0 ≤ signed msg.height by omega)
  refine halgn.mul_ne_zero ?_ ?_ (by omega) (by omega) ?_ hzero
  · show 0 < msg.width.toNat
    omega
  · show 0 < msg.height.toNat
    omega
  · intro ⟨⟨_, hovf⟩, ⟨_, hovf'⟩⟩
    simp only at hovf hovf'
    exact hsized ⟨by omega, by omega⟩

end

theorem painted_clampPaint {paint : PaintRect} (hins : Inside ⟨msg.width, msg.height⟩ paint)
    (hx : paint.nXSrc = 0) (hy : paint.nYSrc = 0) (hwid : signed msg.width = msg.width.toNat)
    (hhgt : signed msg.height = msg.height.toNat) :
    painted (clampPaint (.attached msg) paint) = painted paint := by
  have hw := signed_clampSize_zero msg.width paint.nWidth
  have hh := signed_clampSize_zero msg.height paint.nHeight
  have hleft := hins.left
  have htop := hins.top
  have hright := hins.right
  have hbottom := hins.bottom
  simp only at hright hbottom
  rw [min_eq_left (by omega)] at hw hh
  simp [painted, clampPaint, Framebuffer.attached, Framebuffer.announced, hx, hy, hw, hh]

theorem Clean.covers (hclean : Clean msg rects) (library : RegionLibrary) (h : InsideOf msg rect)
    (hmem : rect16 rect ∈ rects) (segmentId : UInt32) :
    Covers msg rect (paintRect segmentId (alignedExtents library ⟨msg.width, msg.height⟩ rects)) := by
  obtain ⟨hull, halgn, hleft, hright, htop, hbottom⟩ := hclean.exists_hull library h hmem
  obtain ⟨paint, hpaint, hpaints⟩ := exists_paint segmentId (alignedExtents library ⟨msg.width, msg.height⟩ rects)
  have hfields : paint.framebuffer = .data () ∧ paint.nXSrc = 0 ∧ paint.nYSrc = 0 := by
    obtain rfl := some_inj.mp hpaint
    exact ⟨rfl, rfl, rfl⟩
  refine ⟨paint, hpaint, hfields.1, fun point hpoint => ?_⟩
  rw [mem_area] at hpoint
  have hx := toNat_of_signed h.left
  have hy := toNat_of_signed h.top
  have hw := h.right
  have hh := h.bottom
  have hw' := toNat_of_signed (show 0 ≤ signed msg.width by omega)
  have hh' := toNat_of_signed (show 0 ≤ signed msg.height by omega)
  have hpos : 0 < (⟨msg.width, msg.height⟩ : Desktop).width.toNat := by
    show 0 < msg.width.toNat
    omega
  have hpos' : 0 < (⟨msg.width, msg.height⟩ : Desktop).height.toNat := by
    show 0 < msg.height.toNat
    omega
  rw [painted_clampPaint (halgn.inside hpos hpos' hpaints) hfields.2.1 hfields.2.2 hw' hh']
  apply halgn.mem_painted hpaints
  · omega
  · omega
  · show point.1 < msg.width.toNat
    omega
  · show point.2 < msg.height.toNat
    omega

end

/-! ## Where a rectangle is -/

/-- What has been painted since it was received covers the rectangle. -/
def Owed.Settled (owed : Owed) : Prop := ∀ point ∈ (area owed.rect).region, ∃ b ∈ owed.painted, point ∈ b.region

/-- The rectangle is in the list, or in what is made of it while nobody changes the desktop. -/
def Packer.Holds {library : RegionLibrary} (msg : SharedFramebuffer) (list : List AnyMessage) (rect : Rect) :
    Packer library → Prop
  | .idle => ∃ message ∈ list, message.flagged = true ∧ message.common.rect = rect
  | .walking region rest => ∃ rects, region = rects.foldl library.unionRect library.init ∧ Clean msg rects ∧
      (∀ message ∈ rest, message.flagged = true → InsideOf msg message.common.rect) ∧
      (rect16 rect ∈ rects ∨ ∃ message ∈ rest, message.flagged = true ∧ message.common.rect = rect)
  | .aligning extents reads => ∃ rects,
      extents = ofExtents (library.extents (rects.foldl library.unionRect library.init)) ∧ Clean msg rects ∧
      rect16 rect ∈ rects ∧ reads <+: Desktop.reads ⟨msg.width, msg.height⟩
  | .checking aligned => ∃ rects, aligned = alignedExtents library ⟨msg.width, msg.height⟩ rects ∧ Clean msg rects ∧
      rect16 rect ∈ rects
  | .posting aligned => ∃ rects, aligned = alignedExtents library ⟨msg.width, msg.height⟩ rects ∧ Clean msg rects ∧
      rect16 rect ∈ rects

namespace Threads

variable {library : RegionLibrary} {threads next : Threads library} {msg : SharedFramebuffer} {owed : Owed}

/-- A rectangle has been painted, or a message that covers it is in the queue, or it is about to be packed. -/
def Accounted (threads : Threads library) (msg : SharedFramebuffer) (owed : Owed) : Prop :=
  owed.Settled ∨ (∃ message ∈ threads.handler.messages ++ threads.queue, Covers msg owed.rect message) ∨
    threads.packer.Holds msg threads.list owed.rect

/-- Nothing is lost of the rectangles since a framebuffer was announced. -/
structure KeptFor (msg : SharedFramebuffer) (threads : Threads library) : Prop where
  inside : ∀ owed ∈ threads.owed, InsideOf msg owed.rect
  listed : (∀ message ∈ threads.list, shared? message = none) →
    ∀ message ∈ threads.list, message.flagged = true → InsideOf msg message.common.rect
  accounted : threads.pending = [] → ∀ owed ∈ threads.owed, Accounted threads msg owed

theorem Packs.accounted (hstep : Packs threads next) (hcur : threads.framebuffer = .attached msg)
    (hdsk : threads.desktop = ⟨msg.width, msg.height⟩) (hsized : Sized msg) (hins : InsideOf msg owed.rect)
    (hlisted : ∀ message ∈ threads.list, threads.packer = .idle → message.flagged = true →
      InsideOf msg message.common.rect) (h : Accounted threads msg owed) : Accounted next msg owed := by
  obtain hsettled | ⟨message, hmsg, hcovers⟩ | hholds := h
  · exact .inl hsettled
  · right
    left
    refine ⟨message, ?_, hcovers⟩
    cases hstep with
    | post | paint =>
      rw [← append_assoc]
      exact mem_append_left _ hmsg
    | _ => exact hmsg
  · cases hstep with
    | busy => exact .inr (.inr hholds)
    | start hpack =>
      rw [hpack] at hholds
      exact .inr (.inr ⟨[], rfl, fun _ h => absurd h not_mem_nil,
        fun message hmsg => hlisted message hmsg hpack, .inr hholds⟩)
    | @union region message rest hpack hflagg =>
      rw [hpack] at hholds
      obtain ⟨rects, rfl, hclean, hrest, hmem⟩ := hholds
      refine .inr (.inr ⟨rects ++ [rect16 message.common.rect], by simp, ?_,
        fun m hm => hrest m (mem_cons_of_mem _ hm), ?_⟩)
      · intro r hr
        obtain hr | hr := mem_append.mp hr
        · exact hclean r hr
        · exact ⟨_, hrest _ mem_cons_self hflagg, mem_singleton.mp hr⟩
      · obtain hmem | ⟨message, hmsg, hflag, hrect⟩ := hmem
        · exact .inl (mem_append_left _ hmem)
        · obtain rfl | hmsg := mem_cons.mp hmsg
          · rw [← hrect]
            exact .inl (mem_append_right _ (mem_singleton_self _))
          · exact .inr ⟨message, hmsg, hflag, hrect⟩
    | post hpack hflagg =>
      rw [hpack] at hholds
      obtain ⟨rects, hregion, hclean, hrest, hmem⟩ := hholds
      refine .inr (.inr ⟨rects, hregion, hclean, fun m hm => hrest m (mem_cons_of_mem _ hm), ?_⟩)
      obtain hmem | ⟨message, hmsg, hflag, hrect⟩ := hmem
      · exact .inl hmem
      · obtain rfl | hmsg := mem_cons.mp hmsg
        · exact absurd hflag (by simp [hflagg])
        · exact .inr ⟨message, hmsg, hflag, hrect⟩
    | clear hpack =>
      rw [hpack] at hholds
      obtain ⟨rects, rfl, hclean, -, hmem⟩ := hholds
      obtain hmem | ⟨message, hmsg, -⟩ := hmem
      · exact .inr (.inr ⟨rects, rfl, hclean, hmem, nil_prefix⟩)
      · exact absurd hmsg not_mem_nil
    | readWidth hpack hreads =>
      rw [hpack] at hholds
      obtain ⟨rects, hextents, hclean, hmem, hprefix⟩ := hholds
      rw [hdsk]
      exact Or.inr (Or.inr ⟨rects, hextents, hclean, hmem, concat_prefix hprefix (Desktop.reads_width _ hreads)⟩)
    | readHeight hpack hwid hreads =>
      rw [hpack] at hholds
      obtain ⟨rects, hextents, hclean, hmem, hprefix⟩ := hholds
      rw [hdsk]
      exact .inr (.inr
        ⟨rects, hextents, hclean, hmem, concat_prefix hprefix (Desktop.reads_height _ hwid hreads)⟩)
    | align hpack hreads =>
      rw [hpack] at hholds
      obtain ⟨rects, rfl, hclean, hmem, hprefix⟩ := hholds
      have hall := hprefix.eq_of_length_le (by rwa [Desktop.length_reads])
      refine .inr (.inr ⟨rects, ?_, hclean, hmem⟩)
      rw [hall, alignReads_reads]
      rfl
    | check hpack hpost =>
      rw [hpack] at hholds
      exact .inr (.inr hholds)
    | skip hpack hpost =>
      rw [hpack] at hholds
      obtain ⟨rects, rfl, hclean, hmem⟩ := hholds
      rw [hcur] at hpost
      have hzero : (alignedExtents library ⟨msg.width, msg.height⟩ rects).width *
          (alignedExtents library ⟨msg.width, msg.height⟩ rects).height = 0 := by
        by_contra hne
        exact hpost ⟨rfl, hne⟩
      left
      intro point hpoint
      rw [hclean.eq_empty library hins hmem hsized hzero] at hpoint
      exact absurd hpoint (Set.notMem_empty _)
    | paint hpack =>
      rw [hpack] at hholds
      obtain ⟨rects, rfl, hclean, hmem⟩ := hholds
      refine .inr (.inl ⟨_, ?_, hclean.covers library hins hmem threads.framebuffer.fbSegmentId⟩)
      exact mem_append_right _ (mem_append_right _ (mem_singleton_self _))

theorem Ordered.attached (h : Ordered threads) (hlat : threads.latest = some msg) (hatts : attaches msg = true)
    (hpend : threads.pending = []) :
    threads.framebuffer = .attached msg ∧ threads.desktop = ⟨msg.width, msg.height⟩ := by
  have hcur := h.current hpend
  rwa [hlat, Current, if_pos hatts] at hcur

theorem shared?_eq_none_of_pending (hpend : threads.pending = []) {message : AnyMessage}
    (hmsg : message ∈ threads.waiting) : shared? message = none := by
  rw [pending, append_eq_nil_iff, filterMap_eq_nil_iff] at hpend
  exact hpend.2 message (mem_append_right _ hmsg)

theorem Packs.list_eq (hstep : Packs threads next) : next.list = threads.list ∨ next.list = [] := by
  cases hstep with
  | clear => exact .inr rfl
  | _ => exact .inl rfl

theorem Packs.keptFor (hstep : Packs threads next) (h : Ordered threads) (hlat : threads.latest = some msg)
    (hatts : attaches msg = true) (hsized : Sized msg) (hkept : KeptFor msg threads) : KeptFor msg next := by
  obtain ⟨-, -, -, -, -, howed⟩ := hstep.same
  refine ⟨howed ▸ hkept.inside, ?_, ?_⟩
  · obtain hlist | hlist := hstep.list_eq
    · rw [hlist]
      exact hkept.listed
    · rw [hlist]
      exact fun _ _ hmsg => absurd hmsg not_mem_nil
  · intro hpend
    rw [hstep.pending_eq h] at hpend
    rw [howed]
    obtain ⟨hfb, hdsk⟩ := h.attached hlat hatts hpend
    intro owed hmem
    refine hstep.accounted hfb hdsk hsized (hkept.inside owed hmem) ?_ (hkept.accounted hpend owed hmem)
    intro message hmsg hpack hflag
    have hwait : threads.waiting = threads.list := by rw [waiting, hpack]
    refine hkept.listed (fun other hother => ?_) message hmsg hflag
    exact shared?_eq_none_of_pending hpend (hwait ▸ hother)

theorem mem_owed_paint {b : Box Int} (h : owed ∈ (threads.paint b).owed) :
    ∃ before ∈ threads.owed, owed = { before with painted := before.painted ++ [b] } := by
  obtain ⟨before, hbefore, rfl⟩ := mem_map.mp h
  exact ⟨before, hbefore, rfl⟩

theorem Processes.mem_owed (hstep : Processes threads next) (h : Ordered threads) (hmem : owed ∈ next.owed) :
    ∃ before ∈ threads.owed, owed.rect = before.rect ∧ before.painted ⊆ owed.painted := by
  cases hstep with
  | reset hhand hreset => exact absurd hreset (h.kinds _ (by simp [hhand, Handler.messages]))
  | paint =>
    obtain ⟨before, hbefore, rfl⟩ := mem_owed_paint hmem
    exact ⟨before, hbefore, rfl, subset_append_left _ _⟩
  | _ => exact ⟨owed, hmem, rfl, .refl _⟩

theorem inboundPaintRect_attached {paint : PaintRect} (hdata : paint.framebuffer = .data ()) :
    inboundPaintRect (.attached msg) paint = some (clampPaint (.attached msg) paint) := by
  rw [inboundPaintRect, hdata]
  rfl

theorem Processes.covers (hstep : Processes threads next) (h : Ordered threads)
    (hfb : threads.framebuffer = .attached msg) {rect : Rect} {message : AnyMessage}
    (hmsg : message ∈ threads.handler.messages ++ threads.queue) (hcovers : Covers msg rect message) :
    message ∈ next.handler.messages ++ next.queue ∨
      ∃ b, (∀ owed ∈ next.owed, b ∈ owed.painted) ∧ (area rect).region ⊆ b.region := by
  obtain ⟨paint, hpaint, hdata, hregion⟩ := hcovers
  cases hstep with
  | reset hhand hreset => exact absurd hreset (h.kinds _ (by simp [hhand, Handler.messages]))
  | stuck => exact .inl hmsg
  | take hhand hqueue =>
    rw [hhand, hqueue] at hmsg
    exact .inl hmsg
  | paint hhand hpaint' hinb =>
    rw [hhand] at hmsg
    obtain rfl | hqueue := mem_cons.mp hmsg
    · obtain rfl := some_inj.mp (hpaint.symm.trans hpaint')
      rw [hfb, inboundPaintRect_attached hdata] at hinb
      obtain rfl := some_inj.mp hinb
      refine .inr ⟨_, fun owed howed => ?_, hregion⟩
      obtain ⟨before, -, rfl⟩ := mem_owed_paint howed
      exact mem_append_right _ (mem_singleton_self _)
    · exact .inl hqueue
  | ignore hhand hpaint' hdata' hinb =>
    rw [hfb, inboundPaintRect_attached hdata'] at hinb
    cases hinb
  | announce hhand hshared | detach hhand hshared =>
    rw [hhand] at hmsg
    obtain rfl | hqueue := mem_cons.mp hmsg
    · rw [shared?_of_paint hpaint] at hshared
      cases hshared
    · exact .inl hqueue
  | other hhand hnone =>
    rw [hhand] at hmsg
    obtain rfl | hqueue := mem_cons.mp hmsg
    · rw [hpaint] at hnone
      cases hnone
    · exact .inl hqueue
  | map hhand | width hhand | height hhand =>
    rw [hhand] at hmsg
    exact .inl hmsg
  | repaint hhand =>
    rw [hhand] at hmsg
    exact .inl (mem_append_right _ (mem_append_left _ hmsg))

theorem Processes.same (hstep : Processes threads next) (h : Ordered threads) :
    next.list = threads.list ∧ next.packer = threads.packer ∧ next.announced = threads.announced := by
  cases hstep with
  | reset hhand hreset => exact absurd hreset (h.kinds _ (by simp [hhand, Handler.messages]))
  | _ => exact ⟨rfl, rfl, rfl⟩

theorem Owed.Settled.mono {before : Owed} (h : before.Settled) (hrect : owed.rect = before.rect)
    (hpainted : before.painted ⊆ owed.painted) : owed.Settled := by
  intro point hpoint
  rw [hrect] at hpoint
  obtain ⟨b, hb, hmem⟩ := h point hpoint
  exact ⟨b, hpainted hb, hmem⟩

theorem Processes.keptFor (hstep : Processes threads next) (h : Ordered threads) (hlat : threads.latest = some msg)
    (hatts : attaches msg = true) (hkept : KeptFor msg threads) : KeptFor msg next := by
  obtain ⟨hlist, hpack, -⟩ := hstep.same h
  have hins : ∀ owed ∈ next.owed, InsideOf msg owed.rect := by
    intro owed hmem
    obtain ⟨before, hbefore, hrect, -⟩ := hstep.mem_owed h hmem
    rw [hrect]
    exact hkept.inside before hbefore
  refine ⟨hins, hlist ▸ hkept.listed, fun hnone owed hmem => ?_⟩
  obtain ⟨hpend, -⟩ | ⟨first, hpend, hthrough⟩ := hstep.pending_cases h
  · rw [hnone] at hpend
    obtain ⟨before, hbefore, hrect, hpainted⟩ := hstep.mem_owed h hmem
    obtain hsettled | ⟨message, hmsg, hcovers⟩ | hholds := hkept.accounted hpend.symm before hbefore
    · exact Or.inl (Owed.Settled.mono hsettled hrect hpainted)
    · rw [← hrect] at hcovers
      have hfb := (h.attached hlat hatts hpend.symm).1
      obtain hqueue | ⟨b, hb, hregion⟩ := hstep.covers h hfb hmsg hcovers
      · exact .inr (.inl ⟨message, hqueue, hcovers⟩)
      · exact .inl fun point hpoint => ⟨b, hb owed hmem, hregion hpoint⟩
    · rw [← hrect, ← hlist, ← hpack] at hholds
      exact .inr (.inr hholds)
  · rw [hnone] at hpend
    obtain rfl := some_inj.mp (hlat.symm.trans (h.latest_eq hpend))
    obtain ⟨-, hdetaches⟩ | ⟨-, -, -, hqueue⟩ := hthrough
    · rw [hatts] at hdetaches
      cases hdetaches
    · refine .inr (.inl ⟨fullPaint msg, ?_, (hins owed hmem).covers_fullPaint⟩)
      rw [hqueue]
      exact mem_append_right _ (mem_append_right _ (mem_singleton_self _))

/-! ## Runs -/

/-- Nothing is lost of what was received since the last announcement. -/
structure Kept (threads : Threads library) : Prop where
  ordered : Ordered threads
  announced : ∀ msg, threads.latest = some msg → attaches msg = true → threads.announced = some msg ∧ Sized msg
  kept : ∀ msg, threads.latest = some msg → attaches msg = true → KeptFor msg threads

/-- A rectangle is received that lies inside the framebuffer of the latest announcement, and segments can be mapped. -/
def Given (threads : Threads library) : Event → Prop
  | .receive message => message.flagged = true → ∀ msg, threads.announced = some msg → InsideOf msg message.common.rect
  | .process mapped => mapped = true
  | _ => True

/-- An announcement comes without a rectangle, and its framebuffer does not have 65536 rows and columns. -/
def Careful (_ : Threads library) : Event → Prop
  | .receive message => ∀ msg, shared? message = some msg → message.flagged = false ∧ (attaches msg = true → Sized msg)
  | _ => True

theorem Packs.kept (hstep : Packs threads next) (h : Kept threads) : Kept next := by
  obtain ⟨-, -, -, hlat, hann, -⟩ := hstep.same
  refine ⟨hstep.ordered h.ordered, ?_, ?_⟩
  · rw [hlat, hann]
    exact h.announced
  · intro msg hmsg hatts
    rw [hlat] at hmsg
    exact hstep.keptFor h.ordered hmsg hatts (h.announced msg hmsg hatts).2 (h.kept msg hmsg hatts)

theorem Processes.kept (hstep : Processes threads next) (h : Kept threads) : Kept next := by
  have hlat := hstep.latest_eq h.ordered
  obtain ⟨-, -, hann⟩ := hstep.same h.ordered
  refine ⟨hstep.ordered h.ordered, ?_, ?_⟩
  · rw [hlat, hann]
    exact h.announced
  · intro msg hmsg hatts
    rw [hlat] at hmsg
    exact hstep.keptFor h.ordered hmsg hatts (h.kept msg hmsg hatts)

theorem KeptFor.receive {message : AnyMessage} (hkept : KeptFor msg threads) (hpack : threads.packer = .idle)
    (hins : message.flagged = true → InsideOf msg message.common.rect) (owed' : List Owed)
    (howed : ∀ owed ∈ owed', owed ∈ threads.owed ∨ message.flagged = true ∧ owed.rect = message.common.rect) :
    KeptFor msg { threads with
      list := threads.list ++ [message.typed.copy]
      owed := owed' } := by
  refine ⟨?_, ?_, ?_⟩
  · intro owed hmem
    obtain hbefore | ⟨hflag, hrect⟩ := howed owed hmem
    · exact hkept.inside owed hbefore
    · rw [hrect]
      exact hins hflag
  · intro hnone other hother hflag
    obtain hbefore | hnew := mem_append.mp hother
    · exact hkept.listed (fun message hmem => hnone message (mem_append_left _ hmem)) other hbefore hflag
    · obtain rfl := mem_singleton.mp hnew
      exact hins hflag
  · intro hpend owed hmem
    obtain hbefore | ⟨hflag, hrect⟩ := howed owed hmem
    · have hnone : threads.pending = [] := by
        simp only [pending, waiting, hpack, filterMap_append, append_eq_nil_iff] at hpend ⊢
        exact ⟨hpend.1, hpend.2.1, hpend.2.2.1⟩
      obtain hsettled | hqueued | hholds := hkept.accounted hnone owed hbefore
      · exact .inl hsettled
      · exact .inr (.inl hqueued)
      · rw [hpack] at hholds
        obtain ⟨other, hother, hrect⟩ := hholds
        refine .inr (.inr ?_)
        rw [hpack]
        exact ⟨other, mem_append_left _ hother, hrect⟩
    · refine .inr (.inr ?_)
      rw [hpack]
      exact ⟨_, mem_append_right _ (mem_singleton_self _), hflag, hrect.symm⟩

theorem Receives.kept {message : AnyMessage} (hstep : Receives threads message next) (h : Kept threads)
    (hgiven : Given threads (.receive message)) (hcareful : Careful threads (.receive message)) : Kept next := by
  have hunflagged : message.flagged = true → shared? message = none := by
    intro hflag
    by_contra hsome
    obtain ⟨msg, hmsg⟩ := ne_none_iff_exists'.mp hsome
    rw [(hcareful msg hmsg).1] at hflag
    cases hflag
  have hord := hstep.ordered h.ordered hunflagged
  have hins : ∀ msg, threads.latest = some msg → attaches msg = true → message.flagged = true →
      InsideOf msg message.common.rect := by
    intro msg hlat hatts hflag
    exact hgiven hflag msg (h.announced msg hlat hatts).1
  cases hstep with
  | ignore => exact h
  | attach hpack hkind hshared hatts =>
    refine ⟨hord, ?_, ?_⟩
    · intro msg hlat _
      obtain rfl := some_inj.mp hlat
      exact ⟨rfl, (hcareful _ hshared).2 hatts⟩
    · intro msg _ _
      refine ⟨fun owed howed => absurd howed not_mem_nil, fun hnone => ?_,
        fun _ owed howed => absurd howed not_mem_nil⟩
      have hnone := hnone _ (mem_append_right _ (mem_singleton_self _))
      rw [shared?_copy, hshared] at hnone
      cases hnone
  | detach hpack hkind hshared hdetaches =>
    refine ⟨hord, ?_, ?_⟩
    all_goals
      intro msg hlat hatts
      obtain rfl := some_inj.mp hlat
      exact absurd hatts (Bool.eq_false_iff.mp hdetaches)
  | damage hpack hkind hshared hflag =>
    refine ⟨hord, h.announced, fun msg hlat hatts => ?_⟩
    refine (h.kept msg hlat hatts).receive hpack (hins msg hlat hatts) _ fun owed howed => ?_
    obtain hbefore | hnew := mem_append.mp howed
    · exact .inl hbefore
    · obtain rfl := mem_singleton.mp hnew
      exact .inr ⟨hflag, rfl⟩
  | plain hpack hkind hshared hflag =>
    refine ⟨hord, h.announced, fun msg hlat hatts => ?_⟩
    exact (h.kept msg hlat hatts).receive hpack (hins msg hlat hatts) _ fun owed => .inl

theorem Kept.step (h : Kept threads) (event : Event) (hgiven : Given threads event) (hcareful : Careful threads event) :
    Kept (threads.step event) := by
  cases event with
  | receive message => exact (receive_receives threads message).kept h hgiven hcareful
  | timer => exact (timer_packs threads).kept h
  | pack => exact (packs threads).kept h
  | take => exact (take_processes threads).kept h
  | process mapped =>
    obtain rfl : mapped = true := hgiven
    exact (process_processes threads).kept h

theorem Kept.init (library : RegionLibrary) (desktop : Desktop) : Kept (Threads.init library desktop) := by
  refine ⟨⟨?_, ?_, ?_, fun _ => rfl, trivial⟩, ?_, ?_⟩
  · intro message hmsg
    exact absurd hmsg not_mem_nil
  · intro message hmsg
    exact absurd hmsg not_mem_nil
  · intro msg hlast
    cases hlast
  all_goals
    intro msg hlat
    cases hlat

/-- Both queues are empty, and neither thread is in the middle of something. -/
structure AtRest (threads : Threads library) : Prop where
  list : threads.list = []
  queue : threads.queue = []
  packer : threads.packer = .idle
  handler : threads.handler = .idle

/-- If the threads are at rest and a framebuffer is attached, what was painted since they were received covers all
rectangles since the framebuffer was announced. -/
def NothingLost (threads : Threads library) : Prop :=
  AtRest threads → threads.framebuffer.fbAttached = true → ∀ owed ∈ threads.owed, owed.Settled

theorem Kept.nothingLost (h : Kept threads) : NothingLost threads := by
  intro hrest hatt owed howed
  have hpend : threads.pending = [] := by
    simp [pending, waiting, hrest.list, hrest.queue, hrest.packer, hrest.handler, Handler.shared]
  have hcur := h.ordered.current hpend
  cases hlat : threads.latest with
  | none =>
    rw [hlat, Current, hatt] at hcur
    cases hcur
  | some msg =>
    rw [hlat, Current] at hcur
    split at hcur
    next hatts =>
      obtain hsettled | ⟨message, hmsg, -⟩ | hholds := (h.kept msg hlat hatts).accounted hpend owed howed
      · exact hsettled
      · rw [hrest.handler, hrest.queue] at hmsg
        exact absurd hmsg not_mem_nil
      · rw [hrest.packer, hrest.list] at hholds
        obtain ⟨message, hmsg, -⟩ := hholds
        exact absurd hmsg not_mem_nil
    next =>
      rw [hatt] at hcur
      cases hcur

/-- Whatever the threads do, nothing is lost if announcements come without rectangles and are not too large. -/
theorem no_lost_damage (library : RegionLibrary) (desktop : Desktop) (events : List Event)
    (hgiven : Along step Given (init library desktop) events)
    (hcareful : Along step Careful (init library desktop) events) (j : Nat) :
    NothingLost ((events.take j).foldl step (init library desktop)) := by
  have hkept : Kept ((events.take j).foldl step (init library desktop)) :=
    Along.always_of_invariant (fun _ event h hev => h.step event hev.1 hev.2) (Kept.init library desktop)
      (hgiven.and hcareful) j
  exact hkept.nothingLost

namespace Sample

open Core.Sample

def framebuffer (width height : UInt32) : SharedFramebuffer := ⟨flagAttach, width, height, 4 * width, 7, 32, 4⟩

def resting (list queue : List AnyMessage) (desktop : Desktop) (framebuffer : Framebuffer) (msg : SharedFramebuffer)
    (owed : List Owed) : Threads .strict :=
  ⟨list, queue, desktop, framebuffer, .idle, .idle, some msg, some msg, owed⟩

def packed (messages : Nat) : List Event := .timer :: List.replicate (messages + 14) .pack

def handled : List Event := .take :: List.replicate 5 (.process true)

theorem foldl_handled (width height : UInt32) (desktop : Desktop) (owed : List Owed) :
    handled.foldl step (handled.foldl step
        (resting [] [attach width height] desktop .detached (framebuffer width height) owed)) =
      resting [] [] ⟨width, height⟩ (.attached (framebuffer width height)) (framebuffer width height)
        (owed.map fun owed => { owed with painted := owed.painted ++
          [⟨0, 0, 0 + signed (clampSize 0 width width), 0 + signed (clampSize 0 height height)⟩] }) := by
  have hatt : handled.foldl step
        (resting [] [attach width height] desktop .detached (framebuffer width height) owed) =
      resting [] [fullPaint (framebuffer width height)] ⟨width, height⟩ (.attached (framebuffer width height))
        (framebuffer width height) owed := by
    have htaken : step (resting [] [attach width height] desktop .detached (framebuffer width height) owed) .take =
        { resting [] [] desktop .detached (framebuffer width height) owed with
          handler := .handling (attach width height) } := rfl
    rw [handled, foldl_cons, htaken]
    exact foldl_process_attach (resting [] [] desktop .detached (framebuffer width height) owed) _
      (show decide (flagAttach &&& flagAttach ≠ 0) = true by decide)
  have hpainted : step (step (resting [] [fullPaint (framebuffer width height)] ⟨width, height⟩
        (.attached (framebuffer width height)) (framebuffer width height) owed) .take) (.process true) =
      resting [] [] ⟨width, height⟩ (.attached (framebuffer width height)) (framebuffer width height)
        (owed.map fun owed => { owed with painted := owed.painted ++
          [⟨0, 0, 0 + signed (clampSize 0 width width), 0 + signed (clampSize 0 height height)⟩] }) := rfl
  rw [hatt, handled, foldl_cons, replicate_succ, foldl_cons, hpainted, foldl_process_idle rfl]

/-- A rectangle is received and packed before its framebuffer is attached. -/
def early : List Event :=
  [.receive (attach 1024 768), .receive (blt ⟨10, 20, 30, 40⟩)] ++ packed 2 ++ handled ++ handled

theorem foldl_early : early.foldl step (init .strict ⟨800, 600⟩) =
    resting [] [] ⟨1024, 768⟩ (.attached (framebuffer 1024 768)) (framebuffer 1024 768)
      [⟨⟨10, 20, 30, 40⟩, [⟨0, 0, 1024, 768⟩]⟩] := by
  have hrcv : [Event.receive (attach 1024 768), .receive (blt ⟨10, 20, 30, 40⟩)].foldl step
        (init .strict ⟨800, 600⟩) =
      resting [attach 1024 768, blt ⟨10, 20, 30, 40⟩] [] ⟨800, 600⟩ .detached (framebuffer 1024 768)
        [⟨⟨10, 20, 30, 40⟩, []⟩] := rfl
  have hpacked : (packed 2).foldl step
        (resting [attach 1024 768, blt ⟨10, 20, 30, 40⟩] [] ⟨800, 600⟩ .detached (framebuffer 1024 768)
          [⟨⟨10, 20, 30, 40⟩, []⟩]) =
      resting [] [attach 1024 768] ⟨800, 600⟩ .detached (framebuffer 1024 768) [⟨⟨10, 20, 30, 40⟩, []⟩] :=
    foldl_pack rfl
  rw [early, foldl_append, foldl_append, foldl_append, hrcv, hpacked, foldl_handled]
  rfl

end Sample

theorem no_lost_damage_early :
    AtRest (Sample.early.foldl step (init .strict ⟨800, 600⟩)) ∧
      (Sample.early.foldl step (init .strict ⟨800, 600⟩)).framebuffer.fbAttached = true ∧
      NothingLost ((Sample.early.take 31).foldl step (init .strict ⟨800, 600⟩)) := by
  have hgiven : Along step Given (init .strict ⟨800, 600⟩) Sample.early := by
    simp only [Sample.early, Sample.packed, Sample.handled, replicate, cons_append, nil_append, Along, Given,
      and_true]
    refine ⟨fun hflag => absurd hflag (by decide), fun _ msg hann => ?_⟩
    obtain rfl := some_inj.mp hann
    constructor <;> decide
  have hcareful : Along step Careful (init .strict ⟨800, 600⟩) Sample.early := by
    simp only [Sample.early, Sample.packed, Sample.handled, replicate, cons_append, nil_append, Along,
      Careful, and_true]
    refine ⟨fun msg hshared => ⟨rfl, fun _ => ?_⟩, fun msg hshared => ?_⟩
    · obtain rfl := some_inj.mp hshared
      unfold Sized
      decide
    · cases hshared
  have hlost := no_lost_damage .strict ⟨800, 600⟩ Sample.early hgiven hcareful 31
  rw [Sample.foldl_early]
  exact ⟨⟨rfl, rfl, rfl, rfl⟩, rfl, hlost⟩

namespace Sample

open Core.Sample

def attachment : List Event := [.receive (attach 65536 65536)] ++ packed 1 ++ handled ++ handled

theorem foldl_attachment : attachment.foldl step (init .strict ⟨1024, 768⟩) =
    resting [] [] ⟨65536, 65536⟩ (.attached (framebuffer 65536 65536)) (framebuffer 65536 65536) [] := by
  have hrcv : [Event.receive (attach 65536 65536)].foldl step (init .strict ⟨1024, 768⟩) =
      resting [attach 65536 65536] [] ⟨1024, 768⟩ .detached (framebuffer 65536 65536) [] := rfl
  have hpacked : (packed 1).foldl step
        (resting [attach 65536 65536] [] ⟨1024, 768⟩ .detached (framebuffer 65536 65536) []) =
      resting [] [attach 65536 65536] ⟨1024, 768⟩ .detached (framebuffer 65536 65536) [] := foldl_pack rfl
  rw [attachment, foldl_append, foldl_append, foldl_append, hrcv, hpacked, foldl_handled]
  rfl

def late : List Event := attachment ++ ([.receive (blt ⟨0, 0, 65528, 65528⟩)] ++ packed 1)

theorem foldl_late : late.foldl step (init .strict ⟨1024, 768⟩) =
    resting [] [] ⟨65536, 65536⟩ (.attached (framebuffer 65536 65536)) (framebuffer 65536 65536)
      [⟨⟨0, 0, 65528, 65528⟩, []⟩] := by
  have hrcv : [Event.receive (blt ⟨0, 0, 65528, 65528⟩)].foldl step
        (resting [] [] ⟨65536, 65536⟩ (.attached (framebuffer 65536 65536)) (framebuffer 65536 65536) []) =
      resting [blt ⟨0, 0, 65528, 65528⟩] [] ⟨65536, 65536⟩ (.attached (framebuffer 65536 65536))
        (framebuffer 65536 65536) [⟨⟨0, 0, 65528, 65528⟩, []⟩] := rfl
  have hpacked : (packed 1).foldl step
        (resting [blt ⟨0, 0, 65528, 65528⟩] [] ⟨65536, 65536⟩ (.attached (framebuffer 65536 65536))
          (framebuffer 65536 65536) [⟨⟨0, 0, 65528, 65528⟩, []⟩]) =
      resting [] [] ⟨65536, 65536⟩ (.attached (framebuffer 65536 65536)) (framebuffer 65536 65536)
        [⟨⟨0, 0, 65528, 65528⟩, []⟩] := foldl_pack rfl
  rw [late, foldl_append, foldl_append, foldl_attachment, hrcv, hpacked]

end Sample

/-- Nothing is posted for a rectangle of 65528 rows and columns: their product is zero after the alignment. -/
theorem damage_lost_late :
    Along step Given (init .strict ⟨1024, 768⟩) Sample.late ∧
      ¬NothingLost (Sample.late.foldl step (init .strict ⟨1024, 768⟩)) := by
  constructor
  · rw [Sample.late, Along.append_iff, Sample.foldl_attachment]
    constructor
    · simp only [Sample.attachment, Sample.packed, Sample.handled, replicate, cons_append, nil_append,
        Along, Given, and_true]
      exact fun hflag => absurd hflag (by decide)
    · simp only [Sample.packed, replicate, cons_append, nil_append, Along, Given, and_true]
      intro _ msg hann
      obtain rfl := some_inj.mp hann
      constructor <;> decide
  · rw [Sample.foldl_late]
    intro h
    have hsettled := h ⟨rfl, rfl, rfl, rfl⟩ rfl _ (mem_singleton_self _)
    obtain ⟨b, hb, -⟩ := hsettled (0, 0) (by rw [mem_area]; decide)
    exact absurd hb not_mem_nil

end Threads

end FreeRDS.Core
