import FreeRDS.Core.Threads

/-! # Announcements of framebuffers

A `SharedFramebuffer` goes through the list and the queue to the callback, which changes the framebuffer and the desktop
step by step. What one step of a thread can do is said once, by cases, and from that it follows that the announcements
keep their order, and that the framebuffer is what the last one says when there are no others on the way.
-/

namespace FreeRDS.Core

open Lib Backend List Handler

/-! ## Announcements that are on the way -/

namespace Handler

def shared : Handler → List SharedFramebuffer
  | .idle => []
  | .handling message => (shared? message).toList
  | .mapping msg => [msg]
  | .resizingWidth msg => [msg]
  | .resizingHeight msg => [msg]
  | .repainting msg => [msg]

def messages : Handler → List AnyMessage
  | .handling message => [message]
  | _ => []

def Consistent (desktop : Desktop) (framebuffer : Framebuffer) : Handler → Prop
  | .idle => True
  | .handling _ => True
  | .mapping msg => attaches msg = true
  | .resizingWidth msg => attaches msg = true ∧ framebuffer = .attached msg
  | .resizingHeight msg => attaches msg = true ∧ framebuffer = .attached msg ∧ desktop.width = msg.width
  | .repainting msg => attaches msg = true ∧ framebuffer = .attached msg ∧ desktop = ⟨msg.width, msg.height⟩

end Handler

def Current (desktop : Desktop) (framebuffer : Framebuffer) : Option SharedFramebuffer → Prop
  | none => framebuffer.fbAttached = false
  | some msg =>
    if attaches msg then framebuffer = .attached msg ∧ desktop = ⟨msg.width, msg.height⟩
    else framebuffer.fbAttached = false

namespace Threads

variable {library : RegionLibrary} {threads : Threads library}

def waiting (threads : Threads library) : List AnyMessage :=
  match threads.packer with
  | .walking _ rest => rest
  | _ => threads.list

def pending (threads : Threads library) : List SharedFramebuffer :=
  threads.handler.shared ++ (threads.queue ++ threads.waiting).filterMap shared?

theorem shared?_copy (message : AnyMessage) : shared? message.typed.copy = shared? message := by
  obtain ⟨kind, common, msg⟩ := message
  cases kind with
  | received kind => cases kind <;> rfl
  | _ => rfl

theorem shared?_paintRect (segmentId : UInt32) (rect : Rect) : shared? (paintRect segmentId rect) = none := rfl

/-- The messages and announcements that there are, and how far the framebuffer is. -/
structure Ordered (threads : Threads library) : Prop where
  kinds : ∀ message ∈ threads.handler.messages ++ threads.queue ++ threads.waiting, message.kind ≠ .reset
  unflagged : ∀ message ∈ threads.waiting, message.flagged = true → shared? message = none
  last : ∀ msg, threads.pending.getLast? = some msg → threads.latest = some msg
  current : threads.pending = [] → Current threads.desktop threads.framebuffer threads.latest
  stage : threads.handler.Consistent threads.desktop threads.framebuffer

/-- What a step of the connector's thread can do, when it does not receive a message. -/
inductive Packs (threads : Threads library) : Threads library → Prop
  | busy : Packs threads threads
  | start (hpacker : threads.packer = .idle) :
      Packs threads { threads with packer := .walking library.init threads.list }
  | union {region : library.Region} {message : AnyMessage} {rest : List AnyMessage}
      (hpacker : threads.packer = .walking region (message :: rest)) (hflagged : message.flagged = true) :
      Packs threads { threads with packer := .walking (library.unionRect region (rect16 message.common.rect)) rest }
  | post {region : library.Region} {message : AnyMessage} {rest : List AnyMessage}
      (hpacker : threads.packer = .walking region (message :: rest)) (hflagged : message.flagged = false) :
      Packs threads { threads with
        queue := threads.queue ++ [message]
        packer := .walking region rest }
  | clear {region : library.Region} (hpacker : threads.packer = .walking region []) :
      Packs threads { threads with
        list := []
        packer := .aligning (ofExtents (library.extents region)) [] }
  | readWidth {rect : Rect} {reads : List UInt32} (hpacker : threads.packer = .aligning rect reads)
      (hreads : reads.length < 4) :
      Packs threads { threads with packer := .aligning rect (reads ++ [threads.desktop.width]) }
  | readHeight {rect : Rect} {reads : List UInt32} (hpacker : threads.packer = .aligning rect reads)
      (hwidth : 4 ≤ reads.length) (hreads : reads.length < 10) :
      Packs threads { threads with packer := .aligning rect (reads ++ [threads.desktop.height]) }
  | align {rect : Rect} {reads : List UInt32} (hpacker : threads.packer = .aligning rect reads)
      (hreads : 10 ≤ reads.length) : Packs threads { threads with packer := .checking (alignReads reads rect) }
  | check {rect : Rect} (hpacker : threads.packer = .checking rect)
      (hpost : threads.framebuffer.fbAttached = true ∧ rect.width * rect.height ≠ 0) :
      Packs threads { threads with packer := .posting rect }
  | skip {rect : Rect} (hpacker : threads.packer = .checking rect)
      (hpost : ¬(threads.framebuffer.fbAttached = true ∧ rect.width * rect.height ≠ 0)) :
      Packs threads { threads with packer := .idle }
  | paint {rect : Rect} (hpacker : threads.packer = .posting rect) :
      Packs threads { threads with
        queue := threads.queue ++ [paintRect threads.framebuffer.fbSegmentId rect]
        packer := .idle }

theorem packs (threads : Threads library) : Packs threads threads.pack := by
  unfold pack
  split
  next => exact .busy
  next hpack =>
    split
    next hflag => exact .union hpack hflag
    next hflag => exact .post hpack (Bool.eq_false_iff.mpr hflag)
  next hpack => exact .clear hpack
  next hpack =>
    split
    next hreads => exact .readWidth hpack hreads
    next hwid =>
      split
      next hreads => exact .readHeight hpack (not_lt.mp hwid) hreads
      next hreads => exact .align hpack (not_lt.mp hreads)
  next hpack =>
    split
    next hpost => exact .check hpack hpost
    next hpost => exact .skip hpack hpost
  next hpack => exact .paint hpack

theorem timer_packs (threads : Threads library) : Packs threads threads.timer := by
  unfold timer
  split
  next hpack => exact .start hpack
  next => exact .busy

namespace Packs

variable {next : Threads library}

variable (hstep : Packs threads next)

include hstep

theorem pending_eq (h : Ordered threads) : next.pending = threads.pending := by
  have hunflagged := h.unflagged
  cases hstep with
  | busy => rfl
  | start hpack | clear hpack | readWidth hpack | readHeight hpack | align hpack | check hpack
  | skip hpack => simp [pending, waiting, hpack]
  | union hpack hflag =>
    simp only [waiting, hpack] at hunflagged
    have hnone := hunflagged _ mem_cons_self hflag
    simp [pending, waiting, hpack, hnone]
  | post hpack => simp [pending, waiting, hpack]
  | paint hpack => simp [pending, waiting, hpack, filterMap_cons, shared?_paintRect]

theorem mem_waiting {message : AnyMessage} (h : message ∈ next.waiting) :
    message ∈ threads.waiting := by
  cases hstep with
  | busy => exact h
  | start hpack =>
    rw [waiting, hpack]
    exact h
  | union hpack | post hpack =>
    rw [waiting, hpack]
    exact mem_cons_of_mem _ h
  | clear => exact absurd h not_mem_nil
  | readWidth hpack | readHeight hpack | align hpack | check hpack | skip hpack | paint hpack =>
    simpa [waiting, hpack] using h

theorem mem_queue {message : AnyMessage} (h : message ∈ next.queue) :
    message ∈ threads.queue ∨ message ∈ threads.waiting ∨ ∃ segmentId rect, message = paintRect segmentId rect := by
  cases hstep with
  | post hpack =>
    obtain hold | hnew := mem_append.mp h
    · exact .inl hold
    · obtain rfl := mem_singleton.mp hnew
      rw [waiting, hpack]
      exact .inr (.inl mem_cons_self)
  | paint hpack =>
    obtain hold | hnew := mem_append.mp h
    · exact .inl hold
    · exact .inr (.inr ⟨_, _, mem_singleton.mp hnew⟩)
  | _ => exact .inl h

theorem same :
    next.handler = threads.handler ∧ next.desktop = threads.desktop ∧ next.framebuffer = threads.framebuffer ∧
      next.latest = threads.latest ∧ next.announced = threads.announced ∧ next.owed = threads.owed := by
  cases hstep <;> exact ⟨rfl, rfl, rfl, rfl, rfl, rfl⟩

theorem ordered (h : Ordered threads) : Ordered next := by
  obtain ⟨hhand, hdsk, hfb, hlat, -, -⟩ := hstep.same
  have hpend := hstep.pending_eq h
  refine ⟨?_, fun message hmsg => h.unflagged message (hstep.mem_waiting hmsg), ?_, ?_, ?_⟩
  · intro message hmsg
    rw [hhand] at hmsg
    have hkinds := h.kinds
    simp only [mem_append] at hmsg hkinds
    obtain (hmsg | hmsg) | hmsg := hmsg
    · exact hkinds message (.inl (.inl hmsg))
    · obtain hmsg | hmsg | ⟨segmentId, rect, rfl⟩ := hstep.mem_queue hmsg
      · exact hkinds message (.inl (.inr hmsg))
      · exact hkinds message (.inr hmsg)
      · exact ServerType.noConfusion
    · exact hkinds message (.inr (hstep.mem_waiting hmsg))
  · rw [hpend, hlat]
    exact h.last
  · rw [hpend, hdsk, hfb, hlat]
    exact h.current
  · rw [hhand, hdsk, hfb]
    exact h.stage

end Packs

inductive Processes (threads : Threads library) : Threads library → Prop
  | stuck : Processes threads threads
  | take {message : AnyMessage} {rest : List AnyMessage} (hhandler : threads.handler = .idle)
      (hqueue : threads.queue = message :: rest) :
      Processes threads { threads with
        queue := rest
        handler := .handling message }
  | paint {message : AnyMessage} {msg msg' : PaintRect} (hhandler : threads.handler = .handling message)
      (hpaint : paint? message = some msg) (hinbound : inboundPaintRect threads.framebuffer msg = some msg') :
      Processes threads { threads.paint (painted msg') with handler := .idle }
  | ignore {message : AnyMessage} {msg : PaintRect} (hhandler : threads.handler = .handling message)
      (hpaint : paint? message = some msg) (hdata : msg.framebuffer = .data ())
      (hinbound : inboundPaintRect threads.framebuffer msg = none) :
      Processes threads { threads with handler := .idle }
  | announce {message : AnyMessage} {msg : SharedFramebuffer} (hhandler : threads.handler = .handling message)
      (hshared : shared? message = some msg) (hattaches : attaches msg = true) :
      Processes threads { threads with
        framebuffer := .announced msg
        handler := .mapping msg }
  | detach {message : AnyMessage} {msg : SharedFramebuffer} {framebuffer : Framebuffer}
      (hhandler : threads.handler = .handling message) (hshared : shared? message = some msg)
      (hattaches : attaches msg = false) (hframebuffer : framebuffer.fbAttached = false) :
      Processes threads { threads with
        framebuffer
        handler := .idle }
  | reset {message : AnyMessage} {next : Threads library} (hhandler : threads.handler = .handling message)
      (hreset : message.kind = .reset) : Processes threads next
  | other {message : AnyMessage} (hhandler : threads.handler = .handling message) (hpaint : paint? message = none)
      (hshared : shared? message = none) : Processes threads { threads with handler := .idle }
  | map {msg : SharedFramebuffer} (hhandler : threads.handler = .mapping msg) :
      Processes threads { threads with
        framebuffer := .attached msg
        handler := .resizingWidth msg }
  | width {msg : SharedFramebuffer} (hhandler : threads.handler = .resizingWidth msg) :
      Processes threads { threads with
        desktop := { threads.desktop with width := msg.width }
        handler := .resizingHeight msg }
  | height {msg : SharedFramebuffer} (hhandler : threads.handler = .resizingHeight msg) :
      Processes threads { threads with
        desktop := { threads.desktop with height := msg.height }
        handler := .repainting msg }
  | repaint {msg : SharedFramebuffer} (hhandler : threads.handler = .repainting msg) :
      Processes threads { threads with
        queue := threads.queue ++ [fullPaint msg]
        handler := .idle }

theorem take_processes (threads : Threads library) : Processes threads threads.take := by
  unfold take
  split
  next hhand hqueue => exact .take hhand hqueue
  next => exact .stuck

theorem handle_processes {message : AnyMessage} (hhand : threads.handler = .handling message) :
    Processes threads (threads.handle message) := by
  unfold handle
  split
  next common msg =>
    split
    next hdata =>
      split
      next msg' hinb => exact .paint hhand rfl hinb
      next hinb => exact .ignore hhand rfl hdata hinb
    all_goals exact .stuck
  next common msg =>
    split
    next hatts => exact .announce hhand rfl hatts
    next hatts =>
      refine .detach hhand rfl (Bool.eq_false_iff.mpr hatts) ?_
      split
      next => rfl
      next hdet => exact Bool.eq_false_iff.mpr hdet
  next common msg => exact .reset hhand rfl
  next hpaint hshared _ =>
    refine .other hhand ?_ ?_
    · unfold paint?
      split
      next => exact absurd rfl (hpaint _ _)
      next => rfl
    · unfold shared?
      split
      next => exact absurd rfl (hshared _ _)
      next => rfl

theorem process_processes (threads : Threads library) : Processes threads (threads.process true) := by
  unfold process
  split
  next => exact .stuck
  next hhand => exact handle_processes hhand
  next hhand => exact .map hhand
  next hhand => exact .width hhand
  next hhand => exact .height hhand
  next hhand => exact .repaint hhand

theorem shared?_of_paint {message : AnyMessage} {msg : PaintRect} (h : paint? message = some msg) :
    shared? message = none := by
  unfold paint? at h
  split at h
  next => rfl
  next => cases h

theorem Ordered.latest_eq (h : Ordered threads) {msg : SharedFramebuffer} (hpend : threads.pending = [msg]) :
    threads.latest = some msg := h.last msg (by rw [hpend]; rfl)

namespace Processes

variable {next : Threads library}

variable (hstep : Processes threads next) (h : Ordered threads)

include hstep h

theorem waiting_eq : next.waiting = threads.waiting := by
  cases hstep with
  | reset hhand hreset => exact absurd hreset (h.kinds _ (by simp [hhand, messages]))
  | _ => rfl

theorem latest_eq : next.latest = threads.latest := by
  cases hstep with
  | reset hhand hreset => exact absurd hreset (h.kinds _ (by simp [hhand, messages]))
  | _ => rfl

theorem mem_messages {message : AnyMessage}
    (hmsg : message ∈ next.handler.messages ++ next.queue) :
    message ∈ threads.handler.messages ++ threads.queue ∨ ∃ msg, message = fullPaint msg := by
  cases hstep with
  | reset hhand hreset => exact absurd hreset (h.kinds _ (by simp [hhand, messages]))
  | stuck => exact .inl hmsg
  | take hhand hqueue =>
    rw [hqueue]
    exact .inl (mem_append_right _ hmsg)
  | repaint hhand =>
    obtain hold | hnew := mem_append.mp hmsg
    · exact absurd hold not_mem_nil
    · obtain hold | hnew := mem_append.mp hnew
      · exact .inl (mem_append_right _ hold)
      · exact .inr ⟨_, mem_singleton.mp hnew⟩
  | _ => exact .inl (mem_append_right _ hmsg)

theorem pending_cases :
    next.pending = threads.pending ∧
        (next.desktop = threads.desktop ∧ next.framebuffer = threads.framebuffer ∨ next.pending ≠ []) ∨
      ∃ msg, threads.pending = msg :: next.pending ∧ (next.framebuffer.fbAttached = false ∧ attaches msg = false ∨
        attaches msg = true ∧ next.framebuffer = .attached msg ∧ next.desktop = ⟨msg.width, msg.height⟩ ∧
          next.queue = threads.queue ++ [fullPaint msg]) := by
  have hstage := h.stage
  cases hstep with
  | reset hhand hreset => exact absurd hreset (h.kinds _ (by simp [hhand, messages]))
  | stuck => exact .inl ⟨rfl, .inl ⟨rfl, rfl⟩⟩
  | take hhand hqueue =>
    refine .inl ⟨?_, .inl ⟨rfl, rfl⟩⟩
    simp only [pending, waiting, hhand, hqueue, shared, cons_append, filterMap_cons]
    cases shared? _ <;> rfl
  | paint hhand hpaint =>
    refine .inl ⟨?_, .inl ⟨rfl, rfl⟩⟩
    simp [pending, waiting, Threads.paint, hhand, shared, shared?_of_paint hpaint]
  | ignore hhand hpaint =>
    refine .inl ⟨?_, .inl ⟨rfl, rfl⟩⟩
    simp [pending, waiting, hhand, shared, shared?_of_paint hpaint]
  | other hhand hpaint hshared =>
    refine .inl ⟨?_, .inl ⟨rfl, rfl⟩⟩
    simp [pending, waiting, hhand, shared, hshared]
  | announce hhand hshared =>
    refine .inl ⟨?_, .inr ?_⟩
    · simp [pending, waiting, hhand, shared, hshared]
    · simp [pending, shared]
  | detach hhand hshared hatts hfb =>
    refine .inr ⟨_, ?_, .inl ⟨hfb, hatts⟩⟩
    simp [pending, waiting, hhand, shared, hshared]
  | map hhand | width hhand | height hhand =>
    refine .inl ⟨?_, .inr ?_⟩
    · simp [pending, waiting, hhand, shared]
    · simp [pending, shared]
  | repaint hhand =>
    rw [hhand] at hstage
    refine .inr ⟨_, ?_, .inr ⟨hstage.1, hstage.2.1, hstage.2.2, rfl⟩⟩
    simp [pending, waiting, hhand, shared, filterMap_cons, fullPaint, shared?_paintRect]

theorem stage :
    next.handler.Consistent next.desktop next.framebuffer := by
  have hstage := h.stage
  cases hstep with
  | reset hhand hreset => exact absurd hreset (h.kinds _ (by simp [hhand, messages]))
  | stuck => exact hstage
  | announce hhand hshared hatts => exact hatts
  | map hhand =>
    rw [hhand] at hstage
    exact ⟨hstage, rfl⟩
  | width hhand =>
    rw [hhand] at hstage
    exact ⟨hstage.1, hstage.2, rfl⟩
  | height hhand =>
    rw [hhand] at hstage
    refine ⟨hstage.1, hstage.2.1, ?_⟩
    rw [← hstage.2.2]
  | _ => trivial

theorem ordered : Ordered next := by
  have hwait := hstep.waiting_eq h
  have hlat := hstep.latest_eq h
  refine ⟨?_, ?_, ?_, ?_, hstep.stage h⟩
  · intro message hmsg
    obtain hmsg | hmsg := mem_append.mp hmsg
    · obtain hold | ⟨msg, rfl⟩ := hstep.mem_messages h hmsg
      · exact h.kinds message (mem_append_left _ hold)
      · exact ServerType.noConfusion
    · rw [hwait] at hmsg
      exact h.kinds message (mem_append_right _ hmsg)
  · rw [hwait]
    exact h.unflagged
  · intro msg hlast
    rw [hlat]
    obtain ⟨hpend, -⟩ | ⟨first, hpend, -⟩ := hstep.pending_cases h
    · exact h.last msg (hpend ▸ hlast)
    · apply h.last msg
      rw [hpend, getLast?_cons, hlast]
      rfl
  · intro hnone
    rw [hlat]
    obtain ⟨hpend, ⟨hdsk, hfb⟩ | hne⟩ | ⟨msg, hpend, hthrough⟩ := hstep.pending_cases h
    · rw [hdsk, hfb]
      exact h.current (hpend ▸ hnone)
    · exact absurd hnone hne
    · rw [hnone] at hpend
      rw [h.latest_eq hpend, Current]
      obtain ⟨hdet, hatts⟩ | ⟨hatts, hfb, hdsk, -⟩ := hthrough
      · rw [if_neg (by simp [hatts])]
        exact hdet
      · rw [if_pos hatts]
        exact ⟨hfb, hdsk⟩

end Processes

inductive Receives (threads : Threads library) (message : AnyMessage) : Threads library → Prop
  | ignore : Receives threads message threads
  | attach {msg : SharedFramebuffer} (hpacker : threads.packer = .idle) (hkind : message.kind ≠ .reset)
      (hshared : shared? message = some msg) (hattaches : attaches msg = true) :
      Receives threads message { threads with
        list := threads.list ++ [message.typed.copy]
        latest := some msg
        announced := some msg
        owed := [] }
  | detach {msg : SharedFramebuffer} (hpacker : threads.packer = .idle) (hkind : message.kind ≠ .reset)
      (hshared : shared? message = some msg) (hattaches : attaches msg = false) :
      Receives threads message { threads with
        list := threads.list ++ [message.typed.copy]
        latest := some msg }
  | damage (hpacker : threads.packer = .idle) (hkind : message.kind ≠ .reset) (hshared : shared? message = none)
      (hflagged : message.flagged = true) :
      Receives threads message { threads with
        list := threads.list ++ [message.typed.copy]
        owed := threads.owed ++ [⟨message.common.rect, []⟩] }
  | plain (hpacker : threads.packer = .idle) (hkind : message.kind ≠ .reset) (hshared : shared? message = none)
      (hflagged : message.flagged = false) :
      Receives threads message { threads with list := threads.list ++ [message.typed.copy] }

theorem receive_receives (threads : Threads library) (message : AnyMessage) :
    Receives threads message (threads.receive message) := by
  unfold receive
  split
  next hpack =>
    split
    next hdispatched =>
      have hkind : message.kind ≠ .reset := by
        intro hreset
        rw [hreset] at hdispatched
        exact absurd hdispatched (by decide)
      unfold record
      split
      next msg hshared =>
        split
        next hatts => exact .attach hpack hkind hshared hatts
        next hatts => exact .detach hpack hkind hshared (Bool.eq_false_iff.mpr hatts)
      next hshared =>
        split
        next hflag => exact .damage hpack hkind hshared hflag
        next hflag => exact .plain hpack hkind hshared (Bool.eq_false_iff.mpr hflag)
    next => exact .ignore
  next => exact .ignore

namespace Receives

variable {message : AnyMessage} {next : Threads library}

variable (hstep : Receives threads message next)

include hstep

theorem appends (hne : next ≠ threads) :
    next.waiting = threads.waiting ++ [message.typed.copy] ∧
      next.pending = threads.pending ++ (shared? message).toList ∧ message.kind ≠ .reset := by
  cases hstep with
  | ignore => exact absurd rfl hne
  | attach hpack hkind hshared | detach hpack hkind hshared | damage hpack hkind hshared
  | plain hpack hkind hshared =>
    exact ⟨by simp [waiting, hpack], by simp [pending, waiting, hpack, shared?_copy, hshared], hkind⟩

theorem same :
    next.handler = threads.handler ∧ next.queue = threads.queue ∧ next.desktop = threads.desktop ∧
      next.framebuffer = threads.framebuffer ∧ next.packer = threads.packer := by
  cases hstep <;> exact ⟨rfl, rfl, rfl, rfl, rfl⟩

theorem latest_eq (hne : next ≠ threads) :
    next.latest = (shared? message).or threads.latest := by
  cases hstep with
  | ignore => exact absurd rfl hne
  | attach hpack hkind hshared | detach hpack hkind hshared => rw [hshared, Option.some_or]
  | damage hpack hkind hshared | plain hpack hkind hshared => rw [hshared, Option.none_or]

theorem ordered (h : Ordered threads)
    (hunflagged : message.flagged = true → shared? message = none) : Ordered next := by
  by_cases hne : next = threads
  · rw [hne]
    exact h
  obtain ⟨hwait, hpend, hkind⟩ := hstep.appends hne
  obtain ⟨hhand, hqueue, hdsk, hfb, -⟩ := hstep.same
  have hlat := hstep.latest_eq hne
  refine ⟨?_, ?_, ?_, ?_, ?_⟩
  · rw [hhand, hqueue, hwait, ← append_assoc]
    intro other hother
    obtain hother | hother := mem_append.mp hother
    · exact h.kinds other hother
    · obtain rfl := mem_singleton.mp hother
      exact hkind
  · rw [hwait]
    intro other hother hflag
    obtain hother | hother := mem_append.mp hother
    · exact h.unflagged other hother hflag
    · obtain rfl := mem_singleton.mp hother
      rw [shared?_copy]
      exact hunflagged hflag
  · intro msg hlast
    rw [hlat]
    rw [hpend] at hlast
    cases hshared : shared? message with
    | none =>
      rw [hshared, Option.toList_none, append_nil] at hlast
      exact h.last msg hlast
    | some msg' =>
      rw [hshared, Option.toList_some, getLast?_append_of_ne_nil _ (by simp)] at hlast
      exact hlast
  · intro hnone
    rw [hpend, append_eq_nil_iff, Option.toList_eq_nil_iff] at hnone
    rw [hlat, hnone.2, Option.none_or, hdsk, hfb]
    exact h.current hnone.1
  · rw [hhand, hdsk, hfb]
    exact h.stage

end Receives

end Threads

end FreeRDS.Core
