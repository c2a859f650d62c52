import FreeRDS.Lib.Framing
import FreeRDS.Lib.Run

/-! # Reading from the manager's pipe

`RpcEngine` reads a frame in two phases. Three counters say how far it is, and after every
read the same test, `m_PayloadRead == m_PacketLength`, decides whether a frame is complete. The
test also holds of a header that has only been read in part.
-/

namespace FreeRDS.Rpc

open Lib FrameFormat Memory

/-- `FDSAPI_MSG_HEADER_SIZE`. -/
def headerSize : Nat := 16

/-- `PIPE_BUFFER_SIZE`. -/
def pipeBufferSize : Nat := 0xFFFF

/-- A `UINT32` as it lies in memory, the lowest byte first. -/
def uint32 (bytes : List UInt8) : UInt32 :=
  bytes.foldr (fun byte value => byte.toUInt32 + 256 * value) 0

/-- `FDSAPI_MSG_HEADER`. -/
structure MsgHeader where
  msgSize : UInt32
  msgType : UInt32
  callId : UInt32
  status : UInt32
  deriving DecidableEq, Repr

def MsgHeader.ofBytes (bytes : List UInt8) : MsgHeader where
  msgSize := uint32 (bytes.take 4)
  msgType := uint32 ((bytes.drop 4).take 4)
  callId := uint32 ((bytes.drop 8).take 4)
  status := uint32 ((bytes.drop 12).take 4)

def fdsapi : FrameFormat UInt8 where
  headerSize := headerSize
  headerSize_pos := by decide
  payloadSize header := (MsgHeader.ofBytes header).msgSize.toNat

structure PipeFrame extends fdsapi.Frame where
  payload_le : payload.length ≤ pipeBufferSize

/-! ## The reader -/

/-- The part of `RpcEngine` that `read` works on. -/
structure Reader where
  packetLength : Nat
  payloadRead : Nat
  headerRead : Nat
  header : Memory UInt8
  payloadBuffer : Memory UInt8

inductive Buffer
  | header | payload
  deriving DecidableEq, Repr

def Buffer.capacity : Buffer → Nat
  | .header => headerSize
  | .payload => pipeBufferSize

/-- The range that a `ReadFile` may write to. -/
structure ReadRequest where
  buffer : Buffer
  offset : Nat
  size : Nat
  deriving DecidableEq, Repr

def ReadRequest.InBounds (request : ReadRequest) : Prop :=
  request.offset + request.size ≤ request.buffer.capacity

/-- What `processData` works on: `m_Header` and the payload. -/
structure Received where
  header : List UInt8
  payload : List UInt8
  deriving DecidableEq, Repr

def Received.ofFrame (frame : fdsapi.Frame) : Received := ⟨frame.header, frame.payload⟩

namespace Reader

def new (header payloadBuffer : Memory UInt8) : Reader where
  packetLength := 0
  payloadRead := 0
  headerRead := 0
  header := header
  payloadBuffer := payloadBuffer

def resetStatus (r : Reader) : Reader :=
  { r with packetLength := 0, headerRead := 0, payloadRead := 0 }

/-- The arguments of the `ReadFile` that `read` issues. -/
def request (r : Reader) : ReadRequest :=
  if r.packetLength > 0 then ⟨.payload, r.payloadRead, r.packetLength - r.payloadRead⟩
  else ⟨.header, r.headerRead, headerSize - r.headerRead⟩

variable (r : Reader) (data : List UInt8)

/-- `data` is what `ReadFile` has returned. -/
def readHeader : Reader :=
  let header := r.header.write r.headerRead data
  let headerRead := r.headerRead + data.length
  if headerRead = headerSize then
    { r with header := header, headerRead := headerRead
             packetLength := (MsgHeader.ofBytes (header.contents headerSize)).msgSize.toNat }
  else { r with header := header, headerRead := headerRead }

def readPayload : Reader :=
  { r with payloadBuffer := r.payloadBuffer.write r.payloadRead data
           payloadRead := r.payloadRead + data.length }

def read : Reader :=
  if r.packetLength > 0 then r.readPayload data else r.readHeader data

def current (r : Reader) : Received :=
  ⟨r.header.contents headerSize, r.payloadBuffer.contents r.payloadRead⟩

/-- One turn of `serveClient` on a readable pipe: what `processData` is called on, if it is. -/
def receive : Reader × Option Received :=
  let r := r.read data
  if r.payloadRead = r.packetLength then (r.resetStatus, some r.current) else (r, none)

/-- What `ReadFile` may return: at least one byte, and no more than was asked for. -/
def Returns : Prop := data ≠ [] ∧ data.length ≤ r.request.size

instance (r : Reader) (data : List UInt8) : Decidable (r.Returns data) :=
  inferInstanceAs (Decidable (_ ∧ _))

structure AtRest (r : Reader) : Prop where
  packetLength : r.packetLength = 0
  payloadRead : r.payloadRead = 0
  headerRead : r.headerRead = 0

theorem resetStatus_atRest (r : Reader) : r.resetStatus.AtRest := ⟨rfl, rfl, rfl⟩

structure InPayload (r : Reader) (header payload : List UInt8) (n : Nat) : Prop where
  header : r.header.contents headerSize = header
  packetLength : r.packetLength = payload.length
  payloadRead : r.payloadRead = n
  lt : n < payload.length
  payload : r.payloadBuffer.contents n = payload.take n

theorem AtRest.request {r : Reader} (h : r.AtRest) : r.request = ⟨.header, 0, headerSize⟩ := by
  simp [Reader.request, h.packetLength, h.headerRead]

theorem InPayload.request {r : Reader} {header payload : List UInt8} {n : Nat}
    (h : r.InPayload header payload n) :
    r.request = ⟨.payload, n, payload.length - n⟩ := by
  have hpos : r.packetLength > 0 := by
    rw [h.packetLength]
    exact Nat.zero_lt_of_lt h.lt
  rw [Reader.request, if_pos hpos, h.packetLength, h.payloadRead]

/-! ### What one read does -/

theorem contents_write_header (memory : Memory UInt8) {data : List UInt8} (h : data.length = headerSize) :
    (memory.write 0 data).contents headerSize = data := by
  have hwrite := memory.contents_write 0 data
  rw [Nat.zero_add, h] at hwrite
  exact hwrite

theorem readHeader_payloadRead :
    (r.readHeader data).payloadRead = r.payloadRead := by
  unfold readHeader
  dsimp only
  split <;> rfl

variable {r : Reader}

theorem AtRest.readHeader_packetLength (h : r.AtRest) (data : List UInt8) :
    (r.readHeader data).packetLength =
      if data.length = headerSize then (MsgHeader.ofBytes data).msgSize.toNat else 0 := by
  by_cases hwhole : data.length = headerSize
  · simp [readHeader, h.headerRead, hwhole, contents_write_header _ hwhole]
  · simp [readHeader, h.headerRead, hwhole, h.packetLength]

theorem AtRest.receive (h : r.AtRest) (data : List UInt8) :
    r.receive data =
      if (r.readHeader data).packetLength = 0 then
        ((r.readHeader data).resetStatus, some (r.readHeader data).current)
      else (r.readHeader data, none) := by
  have hread : r.read data = r.readHeader data := if_neg (by simp [h.packetLength])
  simp [Reader.receive, hread, readHeader_payloadRead, h.payloadRead, eq_comm]

theorem receive_payload (hpos : r.packetLength > 0) (data : List UInt8) :
    r.receive data =
      if r.payloadRead + data.length = r.packetLength then
        ((r.readPayload data).resetStatus, some (r.readPayload data).current)
      else (r.readPayload data, none) := by
  have hread : r.read data = r.readPayload data := if_pos hpos
  rw [Reader.receive, hread]
  rfl

theorem AtRest.receive_header (h : r.AtRest) (frame : fdsapi.Frame) :
    if frame.payload = [] then
      (r.receive frame.header).1.AtRest ∧ (r.receive frame.header).2 = some (.ofFrame frame)
    else
      (r.receive frame.header).1.InPayload frame.header frame.payload 0 ∧
        (r.receive frame.header).2 = none := by
  have hlen : frame.header.length = headerSize := frame.header_length
  have hpacket : (r.readHeader frame.header).packetLength = frame.payload.length := by
    rw [h.readHeader_packetLength, if_pos hlen]
    exact frame.payload_length.symm
  have hcont : (r.readHeader frame.header).header.contents headerSize = frame.header := by
    simp [readHeader, h.headerRead, hlen, contents_write_header _ hlen]
  have hpayRead : (r.readHeader frame.header).payloadRead = 0 := by
    rw [readHeader_payloadRead, h.payloadRead]
  rw [h.receive, hpacket]
  by_cases hpay : frame.payload = []
  · rw [if_pos hpay, if_pos (List.length_eq_zero_iff.mpr hpay)]
    refine ⟨resetStatus_atRest _, ?_⟩
    simp [current, hcont, hpayRead, Received.ofFrame, hpay]
  · have hpos : 0 < frame.payload.length := List.length_pos_iff.mpr hpay
    rw [if_neg hpay, if_neg (Nat.ne_of_gt hpos)]
    exact ⟨⟨hcont, hpacket, hpayRead, hpos, rfl⟩, rfl⟩

theorem InPayload.receive {header payload data : List UInt8} {n : Nat}
    (h : r.InPayload header payload n) (hdata : data <+: payload.drop n) :
    if n + data.length = payload.length then
      (r.receive data).1.AtRest ∧ (r.receive data).2 = some ⟨header, payload⟩
    else
      (r.receive data).1.InPayload header payload (n + data.length) ∧ (r.receive data).2 = none := by
  have hpos : r.packetLength > 0 := by
    rw [h.packetLength]
    exact Nat.zero_lt_of_lt h.lt
  have hcont : (r.readPayload data).payloadBuffer.contents (n + data.length) =
      payload.take (n + data.length) := by
    rw [readPayload, h.payloadRead, contents_write, h.payload, List.take_add,
      List.prefix_iff_eq_take.mp hdata]
    simp
  have hpayRead : (r.readPayload data).payloadRead = n + data.length := by
    rw [readPayload, h.payloadRead]
  have hle : n + data.length ≤ payload.length := by
    have hlen := hdata.length_le
    rw [List.length_drop] at hlen
    have hlt := h.lt
    omega
  rw [receive_payload hpos, h.payloadRead, h.packetLength]
  by_cases hend : n + data.length = payload.length
  · rw [if_pos hend, if_pos hend]
    refine ⟨resetStatus_atRest _, ?_⟩
    rw [hend, List.take_length] at hcont
    rw [hend] at hpayRead
    have hhdr : (r.readPayload data).header.contents headerSize = header := h.header
    simp [current, hhdr, hpayRead, hcont]
  · rw [if_neg hend, if_neg hend]
    exact ⟨⟨h.header, h.packetLength, hpayRead, Nat.lt_of_le_of_ne hle hend, hcont⟩, rfl⟩

end Reader

/-! ## Memory safety -/

/-- One turn of the listener: a read of the client's pipe, or its loss. -/
def Reader.step (r : Reader) : Option (List UInt8) → Reader
  | some data => (r.receive data).1
  | none => r.resetStatus

/-- A counter is never ahead of what it counts, and between frames all of them are 0. -/
structure Reader.Consistent (r : Reader) : Prop where
  payloadRead : r.payloadRead ≤ r.packetLength
  headerRead : r.packetLength = 0 → r.headerRead = 0

namespace Reader

theorem resetStatus_consistent (r : Reader) : r.resetStatus.Consistent := ⟨Nat.le_refl 0, fun _ => rfl⟩

variable {r : Reader}

theorem Consistent.request_inBounds (h : r.Consistent) :
    r.request.InBounds ↔ r.packetLength ≤ pipeBufferSize := by
  have hle := h.payloadRead
  by_cases hpos : r.packetLength > 0
  · rw [request, if_pos hpos]
    show r.payloadRead + (r.packetLength - r.payloadRead) ≤ pipeBufferSize ↔ _
    rw [Nat.add_sub_cancel' hle]
  · have hzero : r.packetLength = 0 := Nat.eq_zero_of_not_pos hpos
    rw [request, if_neg hpos, h.headerRead hzero, hzero]
    simp [ReadRequest.InBounds, Buffer.capacity]

theorem Consistent.atRest (h : r.Consistent) (hzero : r.packetLength = 0) : r.AtRest :=
  ⟨hzero, Nat.eq_zero_of_le_zero (hzero ▸ h.payloadRead), h.headerRead hzero⟩

theorem Consistent.receive (h : r.Consistent) {data : List UInt8}
    (hrets : r.Returns data) :
    (r.receive data).1.Consistent ∧ (r.receive data).1.packetLength =
      if r.packetLength > 0 then if r.payloadRead + data.length = r.packetLength then 0 else r.packetLength
      else if data.length = headerSize then (MsgHeader.ofBytes data).msgSize.toNat else 0 := by
  by_cases hpos : r.packetLength > 0
  · have hread : r.payloadRead + data.length ≤ r.packetLength := by
      have hle := h.payloadRead
      have hsize := hrets.2
      rw [request, if_pos hpos] at hsize
      have hsize' : data.length ≤ r.packetLength - r.payloadRead := hsize
      omega
    rw [receive_payload hpos, if_pos hpos]
    by_cases hend : r.payloadRead + data.length = r.packetLength
    · rw [if_pos hend, if_pos hend]
      exact ⟨resetStatus_consistent _, rfl⟩
    · rw [if_neg hend, if_neg hend]
      exact ⟨⟨hread, fun hzero => absurd hzero (Nat.ne_of_gt hpos)⟩, rfl⟩
  · have hrest := h.atRest (Nat.eq_zero_of_not_pos hpos)
    rw [hrest.receive, if_neg hpos, ← hrest.readHeader_packetLength]
    by_cases hempty : (r.readHeader data).packetLength = 0
    · rw [if_pos hempty]
      exact ⟨resetStatus_consistent _, hempty.symm⟩
    · rw [if_neg hempty]
      refine ⟨⟨?_, fun hnone => absurd hnone hempty⟩, rfl⟩
      rw [readHeader_payloadRead, hrest.payloadRead]
      exact Nat.zero_le _

/-- A header that comes whole announces no more than the payload buffer holds. -/
def HeaderFits (r : Reader) (event : Option (List UInt8)) : Prop :=
  ∀ data ∈ event, r.packetLength = 0 → data.length = headerSize →
    (MsgHeader.ofBytes data).msgSize.toNat ≤ pipeBufferSize

instance (r : Reader) (event : Option (List UInt8)) : Decidable (r.HeaderFits event) :=
  Option.decidableForallMem event

theorem Consistent.step_consistent (h : r.Consistent) {event : Option (List UInt8)}
    (hrets : ∀ data ∈ event, r.Returns data) : (r.step event).Consistent := by
  cases event with
  | none => exact resetStatus_consistent r
  | some data => exact (h.receive (hrets data rfl)).1

theorem Consistent.step (h : r.Consistent) (hle : r.packetLength ≤ pipeBufferSize)
    {event : Option (List UInt8)} (hrets : ∀ data ∈ event, r.Returns data) :
    (r.step event).packetLength ≤ pipeBufferSize ↔ r.HeaderFits event := by
  cases event with
  | none => exact iff_of_true (Nat.zero_le _) nofun
  | some data =>
    obtain ⟨-, hlen⟩ := h.receive (hrets data rfl)
    show (r.receive data).1.packetLength ≤ pipeBufferSize ↔ _
    rw [hlen]
    by_cases hpos : r.packetLength > 0
    · rw [if_pos hpos]
      refine iff_of_true ?_ fun data' _ hzero => absurd hzero (Nat.ne_of_gt hpos)
      split
      · exact Nat.zero_le _
      · exact hle
    · have hzero : r.packetLength = 0 := Nat.eq_zero_of_not_pos hpos
      rw [if_neg hpos]
      by_cases hwhole : data.length = headerSize
      · simp [HeaderFits, hzero, hwhole]
      · simp [HeaderFits, hwhole]

end Reader

/-- For every stream, every segmentation and every loss of the client: the `ReadFile` of every state
reached stays inside its buffer exactly if every header that comes whole announces at most
`PIPE_BUFFER_SIZE` bytes. -/
theorem reads_in_bounds_iff (header payloadBuffer : Memory UInt8) (events : List (Option (List UInt8)))
    (hreturns : Along Reader.step (fun r event => ∀ data ∈ event, r.Returns data)
      (.new header payloadBuffer) events) :
    (∀ j, ((events.take j).foldl Reader.step (.new header payloadBuffer)).request.InBounds) ↔
      Along Reader.step Reader.HeaderFits (.new header payloadBuffer) events := by
  have hnew : (Reader.new header payloadBuffer).Consistent := ⟨Nat.le_refl 0, fun _ => rfl⟩
  have hfirst := hnew.request_inBounds.mpr (Nat.zero_le _)
  apply Along.always_iff_of (·.request.InBounds) ?_ ?_ hnew hfirst hreturns
  · intro r event h hev
    exact h.step_consistent hev
  · intro r event h hev hbounds
    have hle := h.request_inBounds.mp hbounds
    rw [(h.step_consistent hev).request_inBounds]
    exact h.step hle hev

namespace Sample

def header (msgSize : List UInt8) : List UInt8 := msgSize ++ List.replicate 12 0

end Sample

theorem short_payload_in_bounds :
    Along Reader.step Reader.HeaderFits (.new (fun _ => 0) fun _ => 0)
        [some (Sample.header [2, 0, 0, 0]), some [7], none] ∧
      ∀ j, (([some (Sample.header [2, 0, 0, 0]), some [7], none].take j).foldl Reader.step
        (.new (fun _ => 0) fun _ => 0)).request.InBounds := by
  have hfits : Along .step Reader.HeaderFits (.new (fun _ => 0) fun _ => 0)
      [some (Sample.header [2, 0, 0, 0]), some [7], none] := by decide +kernel
  exact ⟨hfits, (reads_in_bounds_iff _ _ _ (by decide +kernel)).mpr hfits⟩

/-- The header announces 0x10000 bytes, one more than there is room for. -/
theorem long_payload_out_of_bounds :
    ¬((Reader.new (fun _ => 0) fun _ => 0).step (some (Sample.header [0, 0, 1, 0]))).request.InBounds := by
  unfold ReadRequest.InBounds
  decide +kernel

end FreeRDS.Rpc
