import FreeRDS.Backend.Transport

/-! # Messages arrive whole

However the bytes of the messages are cut into pieces, `freerds_receive_message` is called once for each message, in
their order, and finds it at the start of the buffer.
-/

namespace FreeRDS.Backend

open Lib Wire Layout FrameFormat List

/-- A message as `freerds_receive_message` sees it. A rectangle that is not part of the message is not part of it here
either. -/
@[ext] structure Delivery where
  type : UInt32
  length : UInt32
  msgFlags : UInt32
  rect : Option Rect
  body : List UInt8
  deriving DecidableEq, Repr

def Handed.position (handed : Handed) : Nat := capacity - handed.stream.length

def Handed.delivery (handed : Handed) : Delivery where
  type := handed.common.type
  length := handed.common.length
  msgFlags := handed.common.msgFlags
  rect :=
    if handed.common.msgFlags &&& flagRect ≠ 0 ∧ handed.position ≤ handed.common.length.toNat then
      some handed.common.rect
    else none
  body := handed.stream.take (handed.common.length.toNat - handed.position)

namespace Message

variable (message : Message)

/-- The number in the header behind its first `start` bytes. -/
def field (start width : Nat) : UInt32 := .ofNat (ofBytes ((message.header.drop start).take width))

def rect : Rect where
  x := .ofNat (ofBytes (message.payload.take 4))
  y := .ofNat (ofBytes ((message.payload.drop 4).take 4))
  width := .ofNat (ofBytes ((message.payload.drop 8).take 4))
  height := .ofNat (ofBytes ((message.payload.drop 12).take 4))

def HasRect : Prop := message.field 6 4 &&& flagRect ≠ 0

instance (message : Message) : Decidable message.HasRect := inferInstanceAs (Decidable (_ ≠ _))

def delivery : Delivery where
  type := message.field 0 2
  length := .ofNat message.length
  msgFlags := message.field 6 4
  rect := if message.HasRect ∧ 16 ≤ message.payload.length then some message.rect else none
  body := if message.HasRect then message.payload.drop 16 else message.payload

end Message

variable (message : Message)

theorem readCommonHeader_bytes (tail : List UInt8) (common : Common) :
    readCommonHeader (message.bytes ++ tail) common =
      if message.HasRect then
        readSlots rectSlots (message.payload ++ tail)
          ⟨message.field 0 2, .ofNat message.length, message.field 6 4, common.rect⟩
      else
        some (⟨message.field 0 2, .ofNat message.length, message.field 6 4, common.rect⟩, message.payload ++ tail) := by
  have hlen : message.header.length = 10 := message.header_length_eq
  have hbytes : message.bytes ++ tail = message.header ++ (message.payload ++ tail) := append_assoc _ _ _
  have hsize : size headerSlots = 10 := rfl
  have hwidths : headerSlots.map Slot.width = [2, 4, 4] := rfl
  have hnums : numbers (headerSlots.map Slot.width) message.header =
      [message.field 0 2, .ofNat message.length, message.field 6 4] := by
    simp [hwidths, numbers, Message.field, Message.length, peekCommonHeaderLength]
  have hread : readSlots headerSlots (message.bytes ++ tail) common =
      some (⟨message.field 0 2, .ofNat message.length, message.field 6 4, common.rect⟩, message.payload ++ tail) := by
    rw [readSlots_of_le common (by rw [hbytes, hsize, length_append]; omega), hbytes,
      numbers_append (by rw [hwidths, hlen]; decide), hnums, hsize, ← hlen, drop_left]
    rfl
  simp only [readCommonHeader, hread, Option.bind_eq_bind, Option.bind_some, Message.HasRect]
  rfl

variable (before : Memory UInt8) (message : Message)

def tail : List UInt8 := (before.contents capacity).drop message.length

theorem tail_length :
    (tail before message).length = capacity - message.length := by
  simp [tail]

theorem contents_write_bytes :
    (before.write 0 message.bytes).contents capacity = message.bytes ++ tail before message := by
  have hle : message.bytes.length ≤ capacity := message.bytes_length.trans_le message.length_le
  rw [Memory.contents_write_zero before hle, message.bytes_length, tail]

theorem payload_length : message.payload.length + 10 = message.length := by
  have hsize : message.size = 10 + message.payload.length := rfl
  have hlen := message.size_eq
  omega

theorem bytes_ne_nil : message.bytes ≠ [] := by
  have hlen : headerLength ≤ message.bytes.length := message.bytes_length ▸ message.length_ge
  intro hnil
  simp [hnil, headerLength] at hlen

theorem length_toNat : (UInt32.ofNat message.length).toNat = message.length := by
  have hle : message.length ≤ 8192 := message.length_le
  rw [UInt32.toNat_ofNat']
  omega

theorem payload_tail_length :
    (message.payload ++ tail before message).length = 8182 := by
  have hpay := payload_length message
  have hle : message.length ≤ 8192 := message.length_le
  have htail : (tail before message).length = 8192 - message.length := tail_length before message
  rw [length_append]
  omega

section

variable {message : Message} {before : Memory UInt8} {rect : Rect}

theorem delivery_of_not_hasRect (h : ¬message.HasRect) :
    Handed.delivery ⟨⟨message.field 0 2, .ofNat message.length, message.field 6 4, rect⟩,
      message.payload ++ tail before message⟩ = message.delivery := by
  have hpay := payload_length message
  have hflag : message.field 6 4 &&& flagRect = 0 := not_not.mp h
  have hpos : 8192 - (message.payload ++ tail before message).length = 10 := by
    rw [payload_tail_length]
  have hbody : (message.payload ++ tail before message).take (message.length - 10) = message.payload := by
    rw [← hpay, Nat.add_sub_cancel, take_left]
  ext1
  case type => rfl
  case length => rfl
  case msgFlags => rfl
  case rect => simp [Handed.delivery, Message.delivery, hflag, h]
  case body =>
    show (message.payload ++ tail before message).take ((UInt32.ofNat message.length).toNat -
      (8192 - (message.payload ++ tail before message).length)) = if message.HasRect then _ else _
    rw [length_toNat, hpos, hbody, if_neg h]

theorem delivery_of_hasRect (h : message.HasRect) :
    Handed.delivery ⟨assign rectSlots (numbers [4, 4, 4, 4] (message.payload ++ tail before message))
        ⟨message.field 0 2, .ofNat message.length, message.field 6 4, rect⟩,
      (message.payload ++ tail before message).drop 16⟩ = message.delivery := by
  have hpay := payload_length message
  have hlen := payload_tail_length before message
  have hflag : message.field 6 4 &&& flagRect ≠ 0 := h
  have hpos : 8192 - ((message.payload ++ tail before message).drop 16).length = 26 := by
    rw [length_drop, hlen]
  ext1
  case type => rfl
  case length => rfl
  case msgFlags => rfl
  case rect =>
    show (if message.field 6 4 &&& flagRect ≠ 0 ∧ 8192 - ((message.payload ++ tail before message).drop 16).length ≤
      (UInt32.ofNat message.length).toNat then some _ else none) =
        if message.HasRect ∧ 16 ≤ message.payload.length then some _ else none
    rw [hpos, length_toNat]
    by_cases hins : 16 ≤ message.payload.length
    · have hwidths : [4, 4, 4, 4].sum ≤ message.payload.length := hins
      rw [if_pos ⟨hflag, by omega⟩, if_pos ⟨h, hins⟩, numbers_append hwidths]
      simp [numbers, assign, rectSlots, Message.rect]
    · rw [if_neg (by omega), if_neg (by omega)]
  case body =>
    show ((message.payload ++ tail before message).drop 16).take ((UInt32.ofNat message.length).toNat -
      (8192 - ((message.payload ++ tail before message).drop 16).length)) = if message.HasRect then _ else _
    have hbody : message.length - 26 = (message.payload.drop 16).length := by
      rw [length_drop]
      omega
    rw [length_toNat, hpos, if_pos h, drop_append, hbody, take_left]

end

theorem handed_delivery {before : Memory UInt8} {message : Message} {common : Common} {handed : Handed}
    (h : handOver common (before.write 0 message.bytes) = some handed) : handed.delivery = message.delivery := by
  rw [handOver, contents_write_bytes, readCommonHeader_bytes] at h
  by_cases hrect : message.HasRect
  · have hsize : size rectSlots ≤ (message.payload ++ tail before message).length := by
      rw [payload_tail_length]
      decide
    rw [if_pos hrect, readSlots_of_le _ hsize] at h
    obtain rfl := Option.some.inj h
    exact delivery_of_hasRect hrect
  · rw [if_neg hrect] at h
    obtain rfl := Option.some.inj h
    exact delivery_of_not_hasRect hrect

/-! ## All messages -/

def stream (messages : List Message) : List UInt8 := encode (messages.map Message.toFrame)

/-- These messages are still to be handed over, the first of which may have come in part. -/
structure Awaiting (s : Receiver) (messages : List Message) (coming : List UInt8) : Prop where
  between : s.between = []
  pieces : ∀ piece ∈ s.arrived, piece ≠ []
  first : match messages with
    | [] => s.arrived = [] ∧ s.position = 0 ∧ coming = []
    | message :: messages => ∃ before, Receiving s before message (stream messages) coming

namespace Awaiting

variable {s : Receiver} {messages : List Message} {coming : List UInt8}

theorem of_stream (hbetween : s.between = []) (hpcs : ∀ piece ∈ s.arrived, piece ≠ []) (hposit : s.position = 0)
    (h : s.arrived.flatten ++ coming = stream messages) : Awaiting s messages coming := by
  refine ⟨hbetween, hpcs, ?_⟩
  cases messages with
  | nil =>
    have hempty := append_eq_nil_iff.mp h
    exact ⟨Pieces.eq_nil_of_flatten hpcs hempty.1, hposit, hempty.2⟩
  | cons message messages =>
    rw [← append_nil s.arrived, ← hbetween] at hpcs h
    exact ⟨s.buffer, .start hposit hpcs h⟩

theorem exists_cons (h : Awaiting s messages coming) (harr : s.arrived ≠ []) :
    ∃ message messages', messages = message :: messages' := by
  cases messages with
  | nil => exact absurd h.first.1 harr
  | cons message messages => exact ⟨message, messages, rfl⟩

theorem arrive {pieces : List (List UInt8)} (h : Awaiting s messages (pieces.flatten ++ coming))
    (hpcs : ∀ piece ∈ pieces, piece ≠ []) : Awaiting { s with arrived := s.arrived ++ pieces } messages coming := by
  have hall : ∀ piece ∈ s.arrived ++ pieces, piece ≠ [] := forall_mem_append.mpr ⟨h.pieces, hpcs⟩
  refine ⟨h.between, hall, ?_⟩
  cases messages with
  | nil =>
    obtain ⟨harr, hpos, hcoming⟩ := h.first
    have hempty := append_eq_nil_iff.mp hcoming
    exact ⟨by simp [harr, Pieces.eq_nil_of_flatten hpcs hempty.1], hpos, hempty.2⟩
  | cons message messages =>
    obtain ⟨before, hrecv⟩ := h.first
    exact ⟨before, hrecv.feed hpcs rfl rfl (by simp [h.between])⟩

theorem length_arrived {message : Message} {rest : List UInt8} {before : Memory UInt8} (hbetween : s.between = [])
    (h : Receiving s before message rest coming) :
    s.arrived.flatten.length + coming.length = message.length - s.position + rest.length := by
  have hstrm := congrArg length h.stream
  have hpend := Intake.pending_length (M := Receiver.intake) s
  have hpipe : Receiver.intake.arrived s ++ Receiver.intake.between s = s.arrived := by
    show s.arrived ++ s.between = s.arrived
    rw [hbetween, append_nil]
  have hposit : Receiver.intake.position s = s.position := rfl
  have hlt := h.position_lt
  rw [length_append, length_append, message.bytes_length, hpend, hpipe, hposit] at hstrm
  omega

/-- What a call leaves that has not failed: it has read something, and the messages that it has handed over are the
first of those that were awaited. -/
structure Progress (s s' : Receiver) (messages : List Message) (between : List (List UInt8)) (coming : List UInt8) :
    Prop where
  awaiting : ∃ messages', Awaiting s' messages' coming ∧
    s'.handed.map Handed.delivery ++ messages'.map Message.delivery =
      s.handed.map Handed.delivery ++ messages.map Message.delivery
  length : s'.arrived.flatten.length < s.arrived.flatten.length + between.flatten.length

/-- What a call hands over that has not failed: nothing, or the first message that was awaited. -/
def HandsOver (common : Common) (s s' : Receiver) (messages : List Message) (coming : List UInt8) : Prop :=
  Awaiting s' messages coming ∧ s'.handed = s.handed ∨
    ∃ (message : Message) (messages' : List Message) (before : Memory UInt8) (handed : Handed),
      messages = message :: messages' ∧ Awaiting s' messages' coming ∧
        handOver common (before.write 0 message.bytes) = some handed ∧ s'.handed = s.handed ++ [handed]

variable (between : List (List UInt8)) (h : Awaiting s messages (between.flatten ++ coming))
  (hpcs : ∀ piece ∈ between, piece ≠ []) (harr : s.arrived ≠ []) (handle : Handler) (common : Common)

include h hpcs harr handle

theorem transportReceive_handsOver :
    { s with between := between }.Starved ∧
        (transportReceive handle common { s with between := between }).1 = -1 ∨
      ¬{ s with between := between }.Starved ∧
        (transportReceive handle common { s with between := between }).1 = 0 ∧
        HandsOver common s (transportReceive handle common { s with between := between }).2 messages coming ∧
        (transportReceive handle common { s with between := between }).2.arrived.flatten.length <
          s.arrived.flatten.length + between.flatten.length := by
  obtain ⟨message, messages, rfl⟩ := h.exists_cons harr
  obtain ⟨before, hbefore⟩ := h.first
  have hlt := hbefore.position_lt
  have hlen := length_arrived h.between hbefore
  have hrecv : Receiving { s with between := between } before message (stream messages) coming :=
    hbefore.feed hpcs rfl rfl (by simp [h.between])
  have hbetween := hrecv.transportReceive_between handle common
  have hcall := hrecv.transportReceive handle common harr
  generalize Backend.transportReceive handle common { s with between := between } = result at hbetween hcall ⊢
  rcases hcall with hstarved | ⟨hfed, hstat, hadvanced⟩
  · exact .inl hstarved
  · refine Or.inr ⟨hfed, hstat, ?_⟩
    rw [length_append] at hlen
    rcases hadvanced with ⟨hagain, hmore, hhanded⟩ | hcomp
    · have hlen' := length_arrived hbetween hagain
      have hpcs' : ∀ piece ∈ result.2.arrived, piece ≠ [] := by simpa [hbetween] using hagain.pieces
      have hmore' : s.position < result.2.position := hmore
      exact ⟨Or.inl ⟨⟨hbetween, hpcs', before, hagain⟩, hhanded⟩, by omega⟩
    · have hpipe : result.2.arrived.flatten ++ coming = stream messages := by
        simpa [hbetween] using hcomp.pipe.symm
      have hpcs' : ∀ piece ∈ result.2.arrived, piece ≠ [] := by simpa [hbetween] using hcomp.pieces
      obtain ⟨handed, hhanded, happ, -⟩ := hcomp.handed
      have hnext := of_stream hbetween hpcs' hcomp.position hpipe
      have hrest := congrArg length hpipe
      rw [length_append] at hrest
      exact ⟨.inr ⟨message, messages, before, handed, rfl, hnext, hhanded, happ⟩, by omega⟩

theorem transportReceive :
    { s with between := between }.Starved ∧
        (transportReceive handle common { s with between := between }).1 = -1 ∨
      ¬{ s with between := between }.Starved ∧
        (transportReceive handle common { s with between := between }).1 = 0 ∧
        Progress s (transportReceive handle common { s with between := between }).2 messages between coming := by
  rcases h.transportReceive_handsOver between hpcs harr handle common with
    hstarved | ⟨hfed, hstat, hhands, hlen⟩
  · exact .inl hstarved
  · refine .inr ⟨hfed, hstat, ?_, hlen⟩
    rcases hhands with ⟨hagain, hhanded⟩ | ⟨message, messages', before, handed, rfl, hnext, hhanded, happ⟩
    · exact ⟨messages, hagain, by rw [hhanded]⟩
    · refine ⟨messages', hnext, ?_⟩
      rw [happ, map_append, append_assoc, map_singleton, handed_delivery hhanded]
      rfl

end Awaiting

/-- The calls of a caller that finds all bytes on the pipe, one for each common part. -/
def Link.calls (handle : Handler) (s : Link) (commons : List Common) : Link :=
  commons.foldl (fun s common => s.call handle [] common) s

theorem Link.calls_of_arrived_eq_nil {handle : Handler} {s : Link} (h : s.receiver.arrived = [])
    (commons : List Common) : s.calls handle commons = s := by
  induction commons with
  | nil => rfl
  | cons common commons ih =>
    have hcall : s.call handle [] common = s := by
      simp [Link.call, Link.arrive, h]
      rw [← h]
    rw [Link.calls, foldl_cons, hcall]
    exact ih

namespace Awaiting

variable {s : Link} {messages : List Message}

section

variable {message : Message} (h : Awaiting s.receiver (message :: messages) [])

include h

theorem arrived_ne_nil :
    s.receiver.arrived ≠ [] := by
  intro hnil
  obtain ⟨before, hrecv⟩ := h.first
  have hlt := hrecv.position_lt
  have hlen := length_arrived h.between hrecv
  simp only [hnil, flatten_nil, length_nil] at hlen
  omega

theorem not_starved :
    ¬{ s.receiver with between := [] }.Starved := by
  intro hstarved
  obtain ⟨before, hrecv⟩ := h.first
  have hlt := hrecv.position_lt
  have hsame : { s.receiver with between := [] } = s.receiver := by rw [← h.between]
  have hge : headerLength ≤ message.length := message.length_ge
  have hlen := length_arrived h.between hrecv
  have htotal : s.receiver.position + s.receiver.arrived.flatten.length = headerLength := hstarved.2.2.1
  rw [hsame, Receiver.starved_iff] at hstarved
  refine hstarved.2.2.2 ((hrecv.peek_eq ?_).trans ?_)
  · have hpend := congrArg length hrecv.stream
    simp only [append_nil, length_append, message.bytes_length] at hpend
    omega
  · show message.length = headerLength
    rw [length_nil] at hlen
    omega

theorem call (hconn : s.connected = true)
    (handle : Handler) (common : Common) :
    (s.call handle [] common).connected = true ∧
      Progress s.receiver (s.call handle [] common).receiver (message :: messages) [] [] := by
  have hcall := transportReceive [] h (by simp) h.arrived_ne_nil handle common
  have hnot := h.not_starved
  rcases hcall with hstarved | ⟨-, hstat, hprog⟩
  · exact absurd hstarved.1 hnot
  · rw [Link.call_of_ready handle [] common hconn h.arrived_ne_nil, hstat]
    exact ⟨rfl, hprog⟩

end

theorem calls (h : Awaiting s.receiver messages []) (hconn : s.connected = true) (handle : Handler)
    (commons : List Common) (hcalls : s.receiver.arrived.flatten.length ≤ commons.length) :
    (s.calls handle commons).receiver.handed.map Handed.delivery =
        s.receiver.handed.map Handed.delivery ++ messages.map Message.delivery ∧
      Awaiting (s.calls handle commons).receiver [] [] ∧ (s.calls handle commons).connected = true := by
  induction commons generalizing s messages with
  | nil =>
    cases messages with
    | nil => exact ⟨by simp [Link.calls], h, hconn⟩
    | cons message messages =>
      obtain ⟨before, hrecv⟩ := h.first
      have hlt := hrecv.position_lt
      have hlen := length_arrived h.between hrecv
      rw [length_nil] at hcalls hlen
      omega
  | cons common commons ih =>
    cases messages with
    | nil =>
      rw [Link.calls_of_arrived_eq_nil h.first.1]
      exact ⟨by simp, h, hconn⟩
    | cons message messages =>
      obtain ⟨hstill, hprog⟩ := h.call hconn handle common
      obtain ⟨messages', hawait, hhanded⟩ := hprog.awaiting
      have henough : (s.call handle [] common).receiver.arrived.flatten.length ≤ commons.length := by
        have hless := hprog.length
        rw [length_cons] at hcalls
        simp only [flatten_nil, length_nil] at hless
        omega
      have hdone := ih hawait hstill henough
      rw [hhanded] at hdone
      exact hdone

end Awaiting

/-- However the bytes are cut into pieces, the messages are handed over in their order and once each, and the stream
stands at its start behind the last one. -/
theorem messages_delivered (handle : Handler) (buffer : Memory UInt8) (messages : List Message)
    (pieces : List (List UInt8)) (hpieces : ∀ piece ∈ pieces, piece ≠ []) (h : pieces.flatten = stream messages)
    (commons : List Common) (hcalls : (stream messages).length ≤ commons.length) :
    ((Link.new buffer pieces).calls handle commons).receiver.handed.map Handed.delivery =
        messages.map Message.delivery ∧
      ((Link.new buffer pieces).calls handle commons).receiver.position = 0 ∧
      ((Link.new buffer pieces).calls handle commons).connected = true := by
  have hawait : Awaiting (Link.new buffer pieces).receiver messages [] :=
    .of_stream rfl hpieces rfl (by simpa [Link.new, Receiver.new] using h)
  have hlen : (Link.new buffer pieces).receiver.arrived.flatten.length ≤ commons.length := by
    show pieces.flatten.length ≤ commons.length
    rwa [h]
  obtain ⟨hhanded, hdone, hconn⟩ := hawait.calls rfl handle commons hlen
  exact ⟨by simpa [Link.new, Receiver.new] using hhanded, hdone.first.2.1, hconn⟩

namespace Sample

/-- `RDS_SERVER_BEGIN_UPDATE`. -/
def beginUpdate : Message where
  header := [1, 0, 10, 0, 0, 0, 0, 0, 0, 0]
  payload := []
  header_length := by decide
  payload_length := by decide +kernel
  length_ge := by decide +kernel
  length_le := by decide +kernel

/-- `RDS_SERVER_WINDOW_DELETE`. -/
def windowDelete : Message where
  header := [22, 0, 14, 0, 0, 0, 0, 0, 0, 0]
  payload := [1, 2, 3, 4]
  header_length := by decide
  payload_length := by decide +kernel
  length_ge := by decide +kernel
  length_le := by decide +kernel

def common : Common := ⟨0, 0, 0, ⟨0, 0, 0, 0⟩⟩

end Sample

/-- The second message begins in the first piece, and its header ends in the second. -/
theorem two_messages_delivered :
    ((Link.new (fun _ => 0xAA) [Sample.beginUpdate.bytes ++ [22, 0, 14], [0, 0, 0, 0, 0, 0, 0, 1], [2, 3], [4]]).calls
        (fun _ buffer => buffer) (List.replicate 24 Sample.common)).receiver.handed.map Handed.delivery =
        [Sample.beginUpdate.delivery, Sample.windowDelete.delivery] ∧
      ((Link.new (fun _ => 0xAA) [Sample.beginUpdate.bytes ++ [22, 0, 14], [0, 0, 0, 0, 0, 0, 0, 1], [2, 3],
        [4]]).calls (fun _ buffer => buffer) (List.replicate 24 Sample.common)).receiver.position = 0 ∧
      ((Link.new (fun _ => 0xAA) [Sample.beginUpdate.bytes ++ [22, 0, 14], [0, 0, 0, 0, 0, 0, 0, 1], [2, 3],
        [4]]).calls (fun _ buffer => buffer) (List.replicate 24 Sample.common)).connected = true :=
  messages_delivered (fun _ buffer => buffer) (fun _ => 0xAA) [Sample.beginUpdate, Sample.windowDelete] _
    (by decide) (by decide) _ (by decide)

end FreeRDS.Backend
