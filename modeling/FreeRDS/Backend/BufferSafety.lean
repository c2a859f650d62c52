import FreeRDS.Backend.Arrival

/-! # Length fields that lie

How much is read behind a header is what its length field says, less what has been read. Nothing compares the field
with the size of `InboundStream`, and a field that is smaller than the header makes the difference wrap.
-/

namespace FreeRDS.Backend

open Lib FrameFormat List Receiver

/-- The read stays in the buffer, and the difference that it asks for did not wrap. -/
def Request.InBounds (request : Request) : Prop :=
  request.position + request.size ≤ capacity ∧ request.position ≤ request.target

instance (request : Request) : Decidable request.InBounds := inferInstanceAs (Decidable (_ ∧ _))

/-- The length that the first header announces is at least that of a header, and not more than the buffer holds. -/
def HeaderFits (bytes : List UInt8) : Prop :=
  headerLength ≤ peekCommonHeaderLength bytes ∧ peekCommonHeaderLength bytes ≤ capacity

def HeadersFit (bytes : List UInt8) : Prop :=
  ∀ (messages : List Message) (rest : List UInt8), bytes = stream messages ++ rest →
    headerLength ≤ rest.length → HeaderFits rest

theorem HeadersFit.header {bytes : List UInt8} (h : HeadersFit bytes) (hlen : headerLength ≤ bytes.length) :
    HeaderFits bytes := h [] bytes rfl hlen

theorem HeadersFit.rest {message : Message} {rest : List UInt8} (h : HeadersFit (message.bytes ++ rest)) :
    HeadersFit rest := by
  intro messages rest' hrest hlen
  apply h (message :: messages) rest' _ hlen
  rw [hrest, ← append_assoc]
  rfl

def Receiver.Safe (s : Receiver) : Prop := ∀ request ∈ s.requests, request.InBounds

variable (handle : Handler)

theorem transportReceive_requests (common : Common) (s : Receiver) :
    (transportReceive handle common s).2.requests = (Receiver.intake.gather s).2.requests := by
  rw [transportReceive_eq]
  split
  · rcases (intake.gather s).2.dispatch_cases handle common with ⟨-, -, handed, -, hdisp⟩ | ⟨-, hdisp⟩ <;>
      rw [hdisp]
  · rfl

/-! ## Streams whose headers fit -/

/-- The headers of the bytes from the start of the current message on, of which some are still coming, fit. -/
structure Tracking (s : Receiver) (coming : List UInt8) : Prop where
  between : s.between = []
  pieces : ∀ piece ∈ s.arrived, piece ≠ []
  fits : HeadersFit (Receiver.intake.pending s ++ coming)
  position : headerLength ≤ s.position → s.position < peekCommonHeaderLength (Receiver.intake.pending s)
  safe : s.Safe

theorem exists_message {bytes : List UInt8} (hfits : HeaderFits bytes)
    (hlen : peekCommonHeaderLength bytes = bytes.length) : ∃ message : Message, message.bytes = bytes := by
  have hpeek := peekCommonHeaderLength_take bytes
  let message : Message :=
    { header := bytes.take headerLength
      payload := bytes.drop headerLength
      header_length := length_take_of_le (hlen ▸ hfits.1)
      payload_length := by
        show _ = peekCommonHeaderLength (bytes.take headerLength) - headerLength
        rw [hpeek, length_drop, hlen]
      length_ge := hpeek ▸ hfits.1
      length_le := hpeek ▸ hfits.2 }
  exact ⟨message, take_append_drop ..⟩

namespace Tracking

open Receiver

variable {s : Receiver} {coming : List UInt8} {batch : List (List UInt8)}

/-- What `feed` is for a message. -/
theorem pending_feed {s' : Receiver} (h : Tracking s (batch.flatten ++ coming)) (hbuffer : s'.buffer = s.buffer)
    (hpos : s'.position = s.position) (harr : s'.arrived ++ s'.between = s.arrived ++ batch) :
    intake.pending s' = intake.pending s ++ batch.flatten := by
  show s'.buffer.contents s'.position ++ (s'.arrived ++ s'.between).flatten =
    s.buffer.contents s.position ++ (s.arrived ++ s.between).flatten ++ batch.flatten
  rw [harr, hbuffer, hpos, h.between, append_nil, flatten_append, append_assoc]

section

variable (h : Tracking s (batch.flatten ++ coming))

include h

theorem position_feed (s' : Receiver) (hpos : s'.position = s.position)
    (hpend : intake.pending s' = intake.pending s ++ batch.flatten) (hhdr : headerLength ≤ s'.position) :
    s'.position < peekCommonHeaderLength (intake.pending s') := by
  have hlen := Intake.pending_length (M := intake) s
  have hlong : headerLength ≤ (intake.pending s).length := (hpos ▸ hhdr).trans (hlen.symm ▸ Nat.le_add_right _ _)
  rw [hpend, peekCommonHeaderLength_append hlong, hpos]
  exact h.position (hpos ▸ hhdr)

theorem arrive (hbatch : ∀ piece ∈ batch, piece ≠ []) :
    Tracking { s with arrived := s.arrived ++ batch } coming := by
  have hpend : intake.pending { s with arrived := s.arrived ++ batch } = intake.pending s ++ batch.flatten :=
    h.pending_feed rfl rfl (by simp [h.between])
  refine ⟨h.between, forall_mem_append.mpr ⟨h.pieces, hbatch⟩, ?_, h.position_feed _ rfl hpend, h.safe⟩
  rw [hpend, append_assoc]
  exact h.fits

theorem transportReceive (hbatch : ∀ piece ∈ batch, piece ≠ [])
    (handle : Handler) (common : Common) :
    (Backend.transportReceive handle common { s with between := batch }).2.Safe ∧
      ((Backend.transportReceive handle common { s with between := batch }).1 = 0 →
        Tracking (Backend.transportReceive handle common { s with between := batch }).2 coming) := by
  have hpend : intake.pending { s with between := batch } = intake.pending s ++ batch.flatten :=
    h.pending_feed rfl rfl rfl
  have hpos := h.position_feed { s with between := batch } rfl hpend
  have hfits : HeadersFit (intake.pending { s with between := batch } ++ coming) := by
    rw [hpend, append_assoc]
    exact h.fits
  have hsafe : { s with between := batch }.Safe := h.safe
  have hpcs : intake.NonEmpty { s with between := batch } := forall_mem_append.mpr ⟨h.pieces, hbatch⟩
  generalize { s with between := batch } = s at hpos hfits hsafe hpcs ⊢
  have hheader : headerLength ≤ (intake.pending s).length → HeaderFits (intake.pending s) := by
    intro hlong
    have hfits := hfits.header (by rw [length_append]; omega)
    rwa [HeaderFits, peekCommonHeaderLength_append hlong] at hfits
  have hread : headerLength ≤ (intake.readHeader s).2.position → HeaderFits (intake.pending s) := fun hhdr =>
    hheader (hhdr.trans (Intake.position_readHeader_le (M := intake) s))
  have hstep := Intake.step_gather hpcs (fun hhdr => (hread hhdr).1) hpos
  have hsafe' : (Backend.transportReceive handle common s).2.Safe := by
    rw [Safe, transportReceive_requests]
    refine hstep.kept (P := Safe) (by decide : headerLength ≤ capacity) (fun hhdr => (hread hhdr).2)
      (fun s target size hs hsize htarget => ?_) hsafe
    exact forall_mem_append.mpr ⟨hs, forall_mem_singleton.mpr ⟨hsize, htarget⟩⟩
  refine ⟨hsafe', fun hstat => ?_⟩
  rw [transportReceive_eq] at hstat hsafe' ⊢
  split at hstat
  case isFalse => cases hstat
  rename_i hok
  rw [if_pos hok] at hsafe' ⊢
  generalize (intake.gather s).2 = t at hstep hsafe' ⊢
  have hpcs' : ∀ piece ∈ t.arrived, piece ≠ [] := (forall_mem_append.mp hstep.nonEmpty).1
  have hlen := Intake.length_of_le (M := intake) (s := t)
  rw [intake_length] at hlen
  rcases t.dispatch_cases handle common with ⟨hhdr, hwhole, handed, -, hdisp⟩ | ⟨hlt, hdisp⟩ <;> rw [hdisp] at hsafe' ⊢
  · have hlong : headerLength ≤ (intake.pending s).length := by
      rw [← hstep.pending, Intake.pending_length]
      exact hhdr.trans (Nat.le_add_right _ _)
    have hlen : t.length = peekCommonHeaderLength (intake.pending s) := hstep.pending ▸ hlen hhdr
    have hposit : t.position = peekCommonHeaderLength (intake.pending s) :=
      Nat.le_antisymm (hstep.inside hhdr) (hlen ▸ hwhole)
    have hsplit : intake.pending s = t.buffer.contents t.position ++ (t.arrived ++ t.between).flatten :=
      hstep.pending.symm
    have hpeek : peekCommonHeaderLength (intake.pending s) = peekCommonHeaderLength (t.buffer.contents t.position) := by
      rw [hsplit]
      exact peekCommonHeaderLength_append ((Memory.contents_length t.buffer t.position).symm ▸ hhdr) _
    have hfit : HeaderFits (t.buffer.contents t.position) := by
      rw [HeaderFits, ← hpeek]
      exact hheader hlong
    obtain ⟨message, hmsg⟩ := exists_message hfit (by rw [Memory.contents_length, ← hpeek, hposit])
    refine ⟨hstep.between, hpcs', ?_, fun hhdr => absurd hhdr (show ¬headerLength ≤ 0 by decide), hsafe'⟩
    rw [hsplit, ← hmsg, append_assoc] at hfits
    exact hfits.rest
  · refine ⟨hstep.between, hpcs', hstep.pending ▸ hfits, fun hhdr => ?_, hsafe'⟩
    exact (hlt.resolve_left (Nat.not_lt.mpr hhdr)).trans_eq (hlen hhdr)

end

variable {s : Link} (handle : Handler)

theorem step (event : Event) (h : Tracking s.receiver (event.pieces.flatten ++ coming))
    (hconn : s.connected = true) (hpcs : ∀ piece ∈ event.pieces, piece ≠ []) :
    (s.step handle event).receiver.Safe ∧
      ((s.step handle event).connected = true → Tracking (s.step handle event).receiver coming) := by
  cases event with
  | arrive piece => exact ⟨h.safe, fun _ => h.arrive hpcs⟩
  | call batch common =>
    by_cases harr : s.receiver.arrived = []
    · have hstep := Link.call_of_not_ready handle batch common fun hready => hready.2 harr
      rw [Link.step, hstep]
      exact ⟨h.safe, fun _ => h.arrive hpcs⟩
    · rw [Link.step, Link.call_of_ready handle batch common hconn harr]
      obtain ⟨hsafe, hnext⟩ := h.transportReceive hpcs handle common
      refine ⟨hsafe, fun hstill => hnext ?_⟩
      rcases transportReceive_fst handle common { s.receiver with between := batch } with hzero | hfail
      · exact hzero
      · simp [hfail] at hstill

theorem foldl_step_requests (h : s.connected = false) (events : List Event) :
    (events.foldl (Link.step handle) s).receiver.requests = s.receiver.requests := by
  induction events generalizing s with
  | nil => rfl
  | cons event events ih =>
    have hstep : ∃ pieces, s.step handle event = s.arrive pieces := by
      cases event with
      | arrive piece => exact ⟨[piece], rfl⟩
      | call batch common =>
        exact ⟨batch, Link.call_of_not_ready handle batch common fun hready => by simp [h] at hready⟩
    obtain ⟨pieces, hstep⟩ := hstep
    have hlost : (s.step handle event).connected = false := by
      rw [hstep]
      exact h
    rw [foldl_cons, ih hlost, hstep]
    rfl

theorem foldl_safe {events : List Event}
    (h : Tracking s.receiver ((events.flatMap Event.pieces).flatten ++ coming)) (hconn : s.connected = true)
    (hpcs : ∀ event ∈ events, ∀ piece ∈ event.pieces, piece ≠ []) :
    (events.foldl (Link.step handle) s).receiver.Safe := by
  induction events generalizing s with
  | nil => exact h.safe
  | cons event events ih =>
    rw [forall_mem_cons] at hpcs
    rw [flatMap_cons, flatten_append, append_assoc] at h
    obtain ⟨hsafe, hnext⟩ := h.step handle event hconn hpcs.1
    rw [foldl_cons]
    by_cases hstill : (s.step handle event).connected = true
    · exact ih (hnext hstill) hstill hpcs.2
    · intro request hreq
      rw [foldl_step_requests handle (by simpa using hstill)] at hreq
      exact hsafe request hreq

end Tracking

/-! ## A header that does not fit -/

theorem transportReceive_request {s : Receiver} {bytes : List UInt8} (handle : Handler) (common : Common)
    (hpos : s.position = 0) (harr : s.arrived = [bytes]) (hbetween : s.between = []) (hlen : headerLength ≤ bytes.length)
    (hfits : ¬HeaderFits bytes) :
    ∃ request ∈ (transportReceive handle common s).2.requests, ¬request.InBounds := by
  have hpend : intake.pending s = bytes := by
    show s.buffer.contents s.position ++ (s.arrived ++ s.between).flatten = bytes
    simp [hpos, harr, hbetween]
  have hwhole : headerLength ≤ (intake.readHeader s).2.position := by
    show headerLength ≤ s.readHeader.2.position
    rw [readHeader, hpos, if_pos (by decide)]
    show headerLength ≤ s.position + (Pieces.read (headerLength - 0) s.arrived).1.length
    rw [harr, Pieces.read_fst, Nat.sub_zero, length_take_of_le hlen]
    exact Nat.le_add_left _ _
  have hbad : peekCommonHeaderLength (intake.pending s) < headerLength ∨
      capacity < peekCommonHeaderLength (intake.pending s) := by
    rw [hpend]
    unfold HeaderFits at hfits
    omega
  obtain ⟨size, t, hgather, hpos', hover⟩ := Intake.gather_unfit (M := intake)
    (by decide : headerLength ≤ capacity) (by decide) (hpos ▸ by decide : s.position < headerLength) hwhole hbad
  refine ⟨⟨t.position, size, peekCommonHeaderLength (intake.pending s)⟩, ?_, fun hin => ?_⟩
  · rw [transportReceive_requests, hgather]
    exact mem_append_right _ mem_cons_self
  · exact absurd hin.1 (Nat.not_le.mpr (hover.trans_eq (congrArg (· + size) hpos'.symm)))

variable (messages : List Message)

/-- The messages in front of such a header are received, then its own bytes arrive. -/
def toHeader (rest : List UInt8) (common : Common) : List Event :=
  messages.map (fun message => .arrive message.bytes) ++
    (List.replicate (stream messages).length (.call [] common) ++ [.arrive rest, .call [] common])

theorem foldl_arrive (s : Link) (messages : List Message) :
    (messages.map fun message => Event.arrive message.bytes).foldl (Link.step handle) s =
      s.arrive (messages.map fun message => message.bytes) := by
  induction messages generalizing s with
  | nil => simp [Link.arrive]
  | cons message messages ih =>
    rw [map_cons, foldl_cons, ih]
    simp [Link.step, Link.arrive]

theorem toHeader_pieces (rest : List UInt8) (common : Common) :
    ((toHeader messages rest common).flatMap Event.pieces).flatten = stream messages ++ rest := by
  have hmsgs : ((messages.map fun message => Event.arrive message.bytes).flatMap Event.pieces).flatten =
      stream messages := by
    induction messages with
    | nil => rfl
    | cons message messages ih =>
      rw [map_cons, flatMap_cons, flatten_append, ih]
      simp [Event.pieces, stream]
  have hcalls : ∀ n, (replicate n (Event.call [] common)).flatMap Event.pieces = [] := by
    intro n
    simp [Event.pieces]
  simp [toHeader, hmsgs, hcalls, Event.pieces]

theorem toHeader_pieces_ne_nil {rest : List UInt8} (common : Common)
    (hlen : headerLength ≤ rest.length) :
    ∀ event ∈ toHeader messages rest common, ∀ piece ∈ event.pieces, piece ≠ [] := by
  have hrest : rest ≠ [] := by
    intro hnil
    simp [hnil, headerLength] at hlen
  simp only [toHeader, forall_mem_append, forall_mem_map, forall_mem_replicate, forall_mem_cons,
    not_mem_nil, Event.pieces, false_imp_iff, implies_true, and_true, or_true, true_and]
  exact ⟨fun message _ => bytes_ne_nil message, hrest⟩

theorem foldl_toHeader (buffer : Memory UInt8) (messages : List Message) (rest : List UInt8)
    (common : Common) :
    ∃ s : Link, s.connected = true ∧ Awaiting s.receiver [] [] ∧
      (toHeader messages rest common).foldl (Link.step handle) (.new buffer []) =
        (s.arrive [rest]).call handle [] common := by
  have hpcs : ∀ piece ∈ messages.map fun message => message.bytes, piece ≠ [] := by
    intro piece hpiece
    obtain ⟨message, -, rfl⟩ := mem_map.mp hpiece
    exact bytes_ne_nil message
  have hflatten : (messages.map fun message => message.bytes).flatten = stream messages := by
    simp [stream, encode, flatMap, Function.comp_def]
  have hawait : Awaiting ((Link.new buffer []).arrive (messages.map fun message => message.bytes)).receiver
      messages [] :=
    .of_stream rfl hpcs rfl (by simpa [Link.new, Link.arrive, new] using hflatten)
  have hcalls := hawait.calls rfl handle (replicate (stream messages).length common)
    (by simp [Link.new, Link.arrive, new, hflatten])
  refine ⟨_, hcalls.2.2, hcalls.2.1, ?_⟩
  rw [toHeader, foldl_append, foldl_append, foldl_arrive]
  simp [Link.calls, Link.step, ← map_replicate, foldl_map]

/-- All reads of every run over a stream are in bounds exactly if every header in it fits. -/
theorem inbound_reads_safe_iff (buffer : Memory UInt8) (bytes : List UInt8) :
    (∀ events : List Event, (∀ event ∈ events, ∀ piece ∈ event.pieces, piece ≠ []) →
        (events.flatMap Event.pieces).flatten = bytes →
        ∀ request ∈ (events.foldl (Link.step handle) (.new buffer [])).receiver.requests, request.InBounds) ↔
      HeadersFit bytes := by
  constructor
  · intro hsafe messages rest hbytes hlen
    by_contra hfits
    let common : Common := ⟨0, 0, 0, ⟨0, 0, 0, 0⟩⟩
    have hstrm := (toHeader_pieces messages rest common).trans hbytes.symm
    obtain ⟨s, hconn, hawait, hfoldl⟩ := foldl_toHeader handle buffer messages rest common
    obtain ⟨harr, hpos, -⟩ := hawait.first
    have hready : (s.arrive [rest]).receiver.arrived = [rest] := by simp [Link.arrive, harr]
    have hreqs := hsafe _ (toHeader_pieces_ne_nil messages common hlen) hstrm
    rw [hfoldl, Link.call_of_ready (s := s.arrive [rest]) handle [] common hconn (by simp [hready])] at hreqs
    obtain ⟨request, hreq, hbad⟩ := transportReceive_request handle common
      (s := { (s.arrive [rest]).receiver with between := [] }) hpos hready rfl hlen hfits
    exact hbad (hreqs request hreq)
  · intro hfits events hpcs hbytes
    have htracking : Tracking (Link.new buffer []).receiver ((events.flatMap Event.pieces).flatten ++ []) := by
      refine ⟨rfl, by simp [Link.new, new], ?_, fun hhdr => absurd hhdr (show ¬headerLength ≤ 0 by decide),
        by simp [Receiver.Safe, Link.new, new]⟩
      rw [hbytes, append_nil]
      exact hfits
    exact htracking.foldl_safe handle rfl hpcs

/-- A header that announces one byte more than the buffer holds. -/
theorem long_message_overruns :
    ⟨10, 8183, 8193⟩ ∈ ([Event.arrive [1, 0, 1, 0x20, 0, 0, 0, 0, 0, 0], .call [] Sample.common].foldl
        (Link.step fun _ buffer => buffer) (.new (fun _ => 0) [])).receiver.requests ∧
      ¬Request.InBounds ⟨10, 8183, 8193⟩ := by
  decide +kernel

end FreeRDS.Backend
