import FreeRDS.Lib.Intake
import FreeRDS.Lib.Layout
import FreeRDS.Lib.Run

/-! # The pipe of a backend

`freerds_transport_receive` gathers a message in `InboundStream` over any number of calls: first its header, then as
much as the header announces. The position of the stream tells how far it has come. A message that is complete is
handed to `freerds_receive_message` while it lies in the buffer, and the next one overwrites it.

The bytes arrive in pieces, and a read returns no more than what is left of one piece.
-/

namespace FreeRDS.Backend

open Lib Wire Layout FrameFormat List

/-- `RDS_RECT`. Signed members are kept as the words that represent them. -/
structure Rect where
  x : UInt32
  y : UInt32
  width : UInt32
  height : UInt32
  deriving DecidableEq, Repr, Inhabited

/-- `RDS_MSG_COMMON`. -/
structure Common where
  type : UInt32
  length : UInt32
  msgFlags : UInt32
  rect : Rect
  deriving DecidableEq, Repr, Inhabited

/-- `RDS_MSG_FLAG_RECT`. -/
def flagRect : UInt32 := 0x00000001

/-- `RDS_ORDER_HEADER_LENGTH`. -/
def headerLength : Nat := 10

/-- `freerds_peek_common_header_length`. -/
def peekCommonHeaderLength (data : List UInt8) : Nat := ofBytes ((data.drop 2).take 4)

def headerSlots : List (Slot Common) :=
  [⟨2, fun value msg => { msg with type := value }⟩,
   ⟨4, fun value msg => { msg with length := value }⟩,
   ⟨4, fun value msg => { msg with msgFlags := value }⟩]

def rectSlots : List (Slot Common) :=
  [⟨4, fun value msg => { msg with rect.x := value }⟩,
   ⟨4, fun value msg => { msg with rect.y := value }⟩,
   ⟨4, fun value msg => { msg with rect.width := value }⟩,
   ⟨4, fun value msg => { msg with rect.height := value }⟩]

/-- `freerds_read_common_header`, and what is left of the stream. -/
def readCommonHeader (stream : List UInt8) (msg : Common) : Option (Common × List UInt8) := do
  let (msg, stream) ← readSlots headerSlots stream msg
  if msg.msgFlags &&& flagRect ≠ 0 then readSlots rectSlots stream msg else pure (msg, stream)

/-! ## The receiver -/

/-- The size of `InboundStream`. -/
def capacity : Nat := 8192

/-- A read: where the stream stands, how much is asked for, and where the stream is to stand. -/
structure Request where
  position : Nat
  size : Nat
  target : Nat
  deriving DecidableEq, Repr

/-- What `freerds_receive_message` is called with: the common part, and the stream from its position on. -/
structure Handed where
  common : Common
  stream : List UInt8
  deriving DecidableEq, Repr

structure Receiver where
  /-- `InboundStream`. -/
  buffer : Memory UInt8
  position : Nat
  arrived : List (List UInt8)
  between : List (List UInt8)
  requests : List Request
  handed : List Handed

/-- The header of a message in the buffer is read to a common part whose memory is not initialized. -/
def handOver (common : Common) (buffer : Memory UInt8) : Option Handed :=
  (readCommonHeader (buffer.contents capacity) common).map fun (common, stream) => ⟨common, stream⟩

/-- What `freerds_receive_message` and the callbacks do to the buffer. -/
abbrev Handler := Handed → Memory UInt8 → Memory UInt8

namespace Receiver

def new (buffer : Memory UInt8) (pieces : List (List UInt8)) : Receiver where
  buffer := buffer
  position := 0
  arrived := pieces
  between := []
  requests := []
  handed := []

/-- `freerds_named_pipe_read` to the position of the stream, which is then moved. Without any byte the read fails. -/
def namedPipeRead (target size : Nat) (s : Receiver) : Bool × Receiver :=
  let (data, left) := Pieces.read size s.arrived
  (data ≠ [],
    { s with
      buffer := s.buffer.write s.position data
      position := s.position + data.length
      arrived := left ++ s.between
      between := []
      requests := s.requests ++ [⟨s.position, size, target⟩] })

variable (s : Receiver)

def length : Nat := peekCommonHeaderLength (s.buffer.contents capacity)

/-- `length - Stream_GetPosition(s)`, a difference of the type `size_t`. -/
def left : Nat := (s.length + 2 ^ 64 - s.position) % 2 ^ 64

def readHeader : Bool × Receiver :=
  if s.position < headerLength then s.namedPipeRead headerLength (headerLength - s.position) else (true, s)

/-- The count of `freerds_named_pipe_read` is a `DWORD`. -/
def readBody : Bool × Receiver :=
  if headerLength ≤ s.position ∧ s.left ≠ 0 then s.namedPipeRead s.length (s.left % 2 ^ 32) else (true, s)

def dispatch (handle : Handler) (common : Common) (s : Receiver) : Receiver :=
  if headerLength ≤ s.position ∧ s.length ≤ s.position then
    match handOver common s.buffer with
    | none => s
    | some handed =>
      { s with
        buffer := handle handed s.buffer
        position := 0
        handed := s.handed ++ [handed] }
  else s

end Receiver

variable (handle : Handler) (common : Common)

variable (s : Receiver)

/-- `freerds_transport_receive`. -/
def transportReceive : Int × Receiver :=
  let (ok, s) := s.readHeader
  if ok then
    let (ok, s) := s.readBody
    if ok then (0, s.dispatch handle common) else (-1, s)
  else (-1, s)

theorem transportReceive_fst :
    (transportReceive handle common s).1 = 0 ∨ (transportReceive handle common s).1 = -1 := by
  unfold transportReceive
  dsimp only
  split
  next =>
    split
    next => exact .inl rfl
    next => exact .inr rfl
  next => exact .inr rfl

/-! ## Calls

Both callers wait until there is something to read, and give the connection up once a call has failed.
-/

inductive Event
  | arrive (piece : List UInt8)
  /-- A call, with what arrives while it is between its reads and what the memory of its common part holds. -/
  | call (between : List (List UInt8)) (common : Common)

structure Link where
  receiver : Receiver
  connected : Bool

namespace Link

def new (buffer : Memory UInt8) (pieces : List (List UInt8)) : Link := ⟨.new buffer pieces, true⟩

def arrive (s : Link) (pieces : List (List UInt8)) : Link :=
  { s with receiver := { s.receiver with arrived := s.receiver.arrived ++ pieces } }

def call (handle : Handler) (s : Link) (between : List (List UInt8)) (common : Common) : Link :=
  if s.connected = true ∧ s.receiver.arrived ≠ [] then
    let (status, receiver) := transportReceive handle common { s.receiver with between := between }
    ⟨receiver, 0 ≤ status⟩
  else s.arrive between

def step (handle : Handler) (s : Link) : Event → Link
  | .arrive piece => s.arrive [piece]
  | .call between common => s.call handle between common

variable {s : Link}

theorem call_of_ready (handle : Handler) (between : List (List UInt8)) (common : Common) (hconn : s.connected = true)
    (harr : s.receiver.arrived ≠ []) :
    s.call handle between common =
      ⟨(transportReceive handle common { s.receiver with between := between }).2,
        0 ≤ (transportReceive handle common { s.receiver with between := between }).1⟩ := by
  rw [call, if_pos ⟨hconn, harr⟩]

theorem call_of_not_ready (handle : Handler) (between : List (List UInt8)) (common : Common)
    (h : ¬(s.connected = true ∧ s.receiver.arrived ≠ [])) : s.call handle between common = s.arrive between := by
  rw [call, if_neg h]

end Link

/-! ## Messages -/

def rds : FrameFormat UInt8 where
  headerSize := headerLength
  headerSize_pos := by decide
  payloadSize header := peekCommonHeaderLength header - headerLength

structure Message extends rds.Frame where
  length_ge : headerLength ≤ peekCommonHeaderLength header
  length_le : peekCommonHeaderLength header ≤ capacity

namespace Message

variable (message : Message)

def length : Nat := peekCommonHeaderLength message.header

theorem size_eq : message.size = message.length := by
  have hpay : message.payload.length = message.length - headerLength := message.payload_length
  have hge : headerLength ≤ message.length := message.length_ge
  have hsize : message.size = headerLength + message.payload.length := rfl
  omega

theorem bytes_length : message.bytes.length = message.length := by
  rw [Frame.bytes_length, message.size_eq]

theorem header_length_eq : message.header.length = headerLength := message.header_length

theorem peek_bytes (rest : List UInt8) : peekCommonHeaderLength (message.bytes ++ rest) = message.length := by
  have hhdr := message.header_length_eq
  unfold headerLength at hhdr
  unfold peekCommonHeaderLength length
  rw [Frame.bytes, append_assoc, drop_append_of_le_length (by omega),
    take_append_of_le_length (by rw [length_drop]; omega)]
  rfl

end Message

/-! ## What a call does -/

theorem peekCommonHeaderLength_take (bytes : List UInt8) :
    peekCommonHeaderLength (bytes.take headerLength) = peekCommonHeaderLength bytes := by
  unfold peekCommonHeaderLength headerLength
  rw [drop_take, take_take]
  rfl

theorem peekCommonHeaderLength_lt (bytes : List UInt8) : peekCommonHeaderLength bytes < 2 ^ 32 := by
  have hlt := ofBytes_lt ((bytes.drop 2).take 4)
  have hfour : ((bytes.drop 2).take 4).length ≤ 4 := length_take_le _ _
  exact hlt.trans_le (Nat.pow_le_pow_right (by decide) hfour)

theorem peekCommonHeaderLength_append {bytes : List UInt8} (h : headerLength ≤ bytes.length) (rest : List UInt8) :
    peekCommonHeaderLength (bytes ++ rest) = peekCommonHeaderLength bytes := by
  rw [← peekCommonHeaderLength_take, take_append_of_le_length h, peekCommonHeaderLength_take]

theorem handOver_eq_some (common : Common) (buffer : Memory UInt8) : ∃ handed, handOver common buffer = some handed := by
  have hlen : (buffer.contents capacity).length = 8192 := Memory.contents_length buffer capacity
  have hhdr : size headerSlots ≤ (buffer.contents capacity).length := by
    rw [hlen]
    decide
  unfold handOver readCommonHeader
  simp only [readSlots_of_le _ hhdr, Option.bind_eq_bind, Option.bind_some]
  split
  next =>
    have hrect : size rectSlots ≤ ((buffer.contents capacity).drop (size headerSlots)).length := by
      rw [length_drop, hlen]
      decide
    simp [readSlots_of_le _ hrect]
  next => simp

namespace Receiver

def intake : Intake Receiver where
  headerLength := headerLength
  announced := peekCommonHeaderLength
  buffer := buffer
  position := position
  arrived := arrived
  between := between
  length := length
  read := namedPipeRead
  headerLength_pos := by decide
  headerLength_lt := by decide
  announced_take := peekCommonHeaderLength_take
  announced_lt := peekCommonHeaderLength_lt
  length_eq s := by
    have htake : (s.buffer.contents capacity).take headerLength = s.buffer.contents headerLength :=
      Memory.contents_take _ (by decide)
    rw [length, ← peekCommonHeaderLength_take, htake]
  read_fst _ _ _ := rfl
  buffer_read _ _ _ := rfl
  position_read _ _ _ := rfl
  arrived_read _ _ _ := rfl
  between_read _ _ _ := rfl

theorem intake_length : intake.length s = s.length := by
  simp [intake]

theorem dispatch_cases (handle : Handler) (common : Common) :
    headerLength ≤ s.position ∧ s.length ≤ s.position ∧
        (∃ handed, handOver common s.buffer = some handed ∧ s.dispatch handle common =
          { s with buffer := handle handed s.buffer, position := 0, handed := s.handed ++ [handed] }) ∨
      (s.position < headerLength ∨ s.position < s.length) ∧ s.dispatch handle common = s := by
  obtain ⟨handed, hhanded⟩ := handOver_eq_some common s.buffer
  unfold dispatch
  split
  · rename_i hdone
    exact .inl ⟨hdone.1, hdone.2, handed, hhanded, by rw [hhanded]⟩
  · rename_i hmore
    refine .inr ⟨?_, rfl⟩
    omega

end Receiver

open Receiver

theorem transportReceive_eq : transportReceive handle common s =
    if (intake.gather s).1 then (0, (intake.gather s).2.dispatch handle common) else (-1, (intake.gather s).2) := by
  have hhdr : intake.readHeader s = s.readHeader := rfl
  have hbody : ∀ s, intake.readBody s = s.readBody := by
    intro s
    rw [Intake.readBody, Intake.left, intake_length]
    rfl
  simp only [transportReceive, Intake.gather, hhdr, hbody]
  split <;> rfl

theorem Receiver.gather_handed : (intake.gather s).2.handed = s.handed := by
  have hhdr : (intake.readHeader s).2.handed = s.handed := by
    unfold Intake.readHeader
    split <;> rfl
  have hbody : ∀ s, (intake.readBody s).2.handed = s.handed := by
    intro s
    unfold Intake.readBody
    split <;> rfl
  unfold Intake.gather
  dsimp only
  split
  exacts [(hbody _).trans hhdr, hhdr]

/-- All that has arrived is one piece that ends with the header of a message that goes on. -/
def Receiver.Starved : Prop :=
  s.arrived.length = 1 ∧ s.between = [] ∧ s.position + s.arrived.flatten.length = headerLength ∧
    peekCommonHeaderLength (s.buffer.contents s.position ++ s.arrived.flatten) ≠ headerLength

instance (s : Receiver) : Decidable s.Starved := inferInstanceAs (Decidable (_ ∧ _ ∧ _ ∧ _ ≠ _))

theorem Receiver.starved_iff : s.Starved ↔ intake.Starved s := by
  have hpend : s.between = [] → intake.pending s = s.buffer.contents s.position ++ s.arrived.flatten := by
    intro hbetween
    show _ ++ (s.arrived ++ s.between).flatten = _
    rw [hbetween, append_nil]
    rfl
  constructor
  · intro h
    exact ⟨h.1, h.2.1, h.2.2.1, by rw [hpend h.2.1]; exact h.2.2.2⟩
  · intro h
    exact ⟨h.1, h.2.1, h.2.2.1, by rw [← hpend h.2.1]; exact h.2.2.2⟩

/-! ## A message on its way -/

/-- The stream starts with the message, of which some bytes are in the buffer; it held `before` when the message began.
What is not on the pipe is still `coming`. -/
structure Receiving (before : Memory UInt8) (message : Message) (rest coming : List UInt8) : Prop where
  pieces : ∀ piece ∈ s.arrived ++ s.between, piece ≠ []
  stream : intake.pending s ++ coming = message.bytes ++ rest
  position_lt : s.position < message.length
  since : intake.Since before s

/-- The message has been handed over, and what is behind it is left. -/
structure Completed (s s' : Receiver) (before : Memory UInt8) (message : Message)
    (rest coming : List UInt8) : Prop where
  handed : ∃ handed, handOver common (before.write 0 message.bytes) = some handed ∧
    s'.handed = s.handed ++ [handed] ∧ s'.buffer = handle handed (before.write 0 message.bytes)
  position : s'.position = 0
  pipe : rest = (s'.arrived ++ s'.between).flatten ++ coming
  pieces : ∀ piece ∈ s'.arrived ++ s'.between, piece ≠ []

def Advanced (s s' : Receiver) (before : Memory UInt8) (message : Message)
    (rest coming : List UInt8) : Prop :=
  Receiving s' before message rest coming ∧ s.position < s'.position ∧ s'.handed = s.handed ∨
    Completed handle common s s' before message rest coming

namespace Receiving

variable {s : Receiver} {before : Memory UInt8} {message : Message} {rest coming : List UInt8}

theorem start (hpos : s.position = 0) (hpcs : ∀ piece ∈ s.arrived ++ s.between, piece ≠ [])
    (h : (s.arrived ++ s.between).flatten ++ coming = message.bytes ++ rest) :
    Receiving s s.buffer message rest coming := by
  have hmsg : headerLength ≤ message.length := message.length_ge
  refine ⟨hpcs, ?_, hpos ▸ Nat.lt_of_lt_of_le (by decide) hmsg, .start hpos⟩
  show s.buffer.contents s.position ++ _ ++ coming = _
  rw [hpos]
  exact h

/-- More of the stream has arrived. -/
theorem feed {s' : Receiver} {pieces : List (List UInt8)} (h : Receiving s before message rest (pieces.flatten ++ coming))
    (hpcs : ∀ piece ∈ pieces, piece ≠ []) (hbuffer : s'.buffer = s.buffer) (hpos : s'.position = s.position)
    (harr : s'.arrived ++ s'.between = s.arrived ++ s.between ++ pieces) :
    Receiving s' before message rest coming := by
  refine ⟨harr ▸ forall_mem_append.mpr ⟨h.pieces, hpcs⟩, ?_, hpos ▸ h.position_lt, ?_⟩
  · show s'.buffer.contents s'.position ++ (s'.arrived ++ s'.between).flatten ++ coming = _
    rw [harr, hbuffer, hpos, flatten_append, ← h.stream, append_assoc, append_assoc, ← append_assoc]
    rfl
  · show s'.buffer = before.write 0 (s'.buffer.contents s'.position)
    rw [hbuffer, hpos]
    exact h.since

variable (h : Receiving s before message rest coming)

include h

theorem peek_eq (hlong : headerLength ≤ (intake.pending s).length) :
    peekCommonHeaderLength (intake.pending s) = message.length := by
  rw [← peekCommonHeaderLength_append hlong coming, h.stream, message.peek_bytes]

theorem step : intake.Step s (intake.gather s).2 (intake.gather s).1 := by
  refine Intake.step_gather h.pieces (fun hhdr => ?_) fun hhdr => ?_
  · exact (h.peek_eq (hhdr.trans (Intake.position_readHeader_le s))).ge.trans' message.length_ge
  · have hlen := Intake.pending_length (M := intake) s
    exact h.position_lt.trans_eq (h.peek_eq (hhdr.trans (hlen.symm ▸ Nat.le_add_right _ _))).symm

theorem transportReceive_between (handle : Handler) (common : Common) :
    (Backend.transportReceive handle common s).2.between = [] := by
  have hbetween : (intake.gather s).2.between = [] := h.step.between
  rw [transportReceive_eq]
  split
  · rcases (intake.gather s).2.dispatch_cases handle common with ⟨-, -, handed, -, hdisp⟩ | ⟨-, hdisp⟩ <;> rw [hdisp] <;>
      exact hbetween
  · exact hbetween

theorem transportReceive (handle : Handler) (common : Common)
    (harr : s.arrived ≠ []) :
    s.Starved ∧ (transportReceive handle common s).1 = -1 ∨
      ¬s.Starved ∧ (transportReceive handle common s).1 = 0 ∧
        Advanced handle common s (transportReceive handle common s).2 before message rest coming := by
  have hstep := h.step
  have hstarved := hstep.failed_iff_starved h.pieces harr
  have hsince := hstep.since h.since
  have hhanded := s.gather_handed
  rw [← s.starved_iff] at hstarved
  rw [transportReceive_eq]
  generalize (intake.gather s).1 = ok at hstep hstarved ⊢
  generalize (intake.gather s).2 = t at hstep hsince hhanded ⊢
  cases ok with
  | false => exact .inl ⟨hstarved.mp rfl, rfl⟩
  | true =>
    refine .inr ⟨fun hfail => by simpa using hstarved.mpr hfail, rfl, ?_⟩
    have hlong : t.position ≤ (intake.pending s).length := by
      rw [← hstep.pending, Intake.pending_length]
      exact Nat.le_add_right _ _
    have hpeek : headerLength ≤ t.position → t.position ≤ message.length ∧ t.length = message.length := by
      intro hhdr
      have hpeek := h.peek_eq (hhdr.trans hlong)
      have hlen := Intake.length_of_le (M := intake) (s := t) hhdr
      rw [intake_length, hstep.pending] at hlen
      exact ⟨(hstep.inside hhdr).trans_eq hpeek, hlen.trans hpeek⟩
    have hstrm : t.buffer.contents t.position ++ ((t.arrived ++ t.between).flatten ++ coming) = message.bytes ++ rest := by
      rw [← h.stream, ← hstep.pending, ← append_assoc]
      rfl
    rcases t.dispatch_cases handle common with ⟨hhdr, hle, handed, hsome, hdisp⟩ | ⟨hlt, hdisp⟩ <;>
      rw [if_pos rfl, hdisp]
    · obtain ⟨hpos, hlen⟩ := hpeek hhdr
      have hwhole : (t.buffer.contents t.position).length = message.bytes.length := by
        rw [Memory.contents_length, message.bytes_length]
        omega
      obtain ⟨hbytes, hrest⟩ := append_inj hstrm hwhole
      have hbuffer : t.buffer = before.write 0 message.bytes := hbytes ▸ hsince
      refine .inr ⟨⟨handed, hbuffer ▸ hsome, by rw [hhanded], by rw [hbuffer]⟩, rfl, hrest.symm, hstep.nonEmpty⟩
    · refine .inl ⟨⟨hstep.nonEmpty, ?_, ?_, hsince⟩, hstep.moved rfl, hhanded⟩
      · rw [hstep.pending, h.stream]
      · have hmsg : headerLength ≤ message.length := message.length_ge
        show t.position < message.length
        by_cases hhdr : headerLength ≤ t.position
        · have hlen := (hpeek hhdr).2
          omega
        · omega

end Receiving

end FreeRDS.Backend
