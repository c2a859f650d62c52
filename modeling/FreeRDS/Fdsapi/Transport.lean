import FreeRDS.Lib.Intake
import FreeRDS.Lib.Wire

/-! # The pipe of the API

A message on the pipe between a client library and the manager is its length and its payload; the length is a
`UINT32` that counts itself. `freerds_rpc_transport_receive` gathers a message in `InboundStream` over any number of
calls and hands the payload to `MessageReceived` where it lies in the buffer.

The bytes of a connection come in pieces. A read waits for the next piece and returns no more than what is left of it;
behind the last piece the connection is closed, and a read fails.
-/

namespace FreeRDS.Fdsapi

open Lib Wire List

/-- `RDS_RPC_HEADER_LENGTH`. -/
def headerLength : Nat := 4

/-- The size of `InboundStream`. -/
def capacity : Nat := 8192

structure Request where
  position : Nat
  size : Nat
  deriving DecidableEq, Repr

/-- What `MessageReceived` is called with. -/
structure Received where
  announced : UInt32
  /-- What the pointer points at, as far as the length goes that is passed along with it. -/
  data : List UInt8
  deriving DecidableEq, Repr

/-- The length that is passed, a difference of the type `UINT32`. -/
def Received.length (received : Received) : UInt32 := received.announced - 4

/-- `rdsRpcClient`, as far as it receives. -/
structure RpcClient where
  /-- `InboundStream`. -/
  buffer : Memory UInt8
  position : Nat
  pieces : List (List UInt8)
  /-- `hClientPipe` is not `NULL`. -/
  connected : Bool
  requests : List Request
  received : List Received

namespace RpcClient

def new (buffer : Memory UInt8) (pieces : List (List UInt8)) : RpcClient where
  buffer := buffer
  position := 0
  pieces := pieces
  connected := true
  requests := []
  received := []

/-- `freerds_rpc_named_pipe_read` to the position of the stream, which is then moved. -/
def namedPipeRead (size : Nat) (s : RpcClient) : Bool × RpcClient :=
  let (data, left) := Pieces.read size s.pieces
  (data ≠ [],
    { s with
      buffer := s.buffer.write s.position data
      position := s.position + data.length
      pieces := left
      requests := s.requests ++ [⟨s.position, size⟩] })

variable (s : RpcClient)

/-- `*((UINT32*) Stream_Buffer(s))`. -/
def length : Nat := ofBytes (s.buffer.contents headerLength)

/-- `length - Stream_GetPosition(s)`, a difference of the type `size_t`. -/
def left : Nat := (s.length + 2 ^ 64 - s.position) % 2 ^ 64

def readHeader : Bool × RpcClient :=
  if s.position < headerLength then s.namedPipeRead (headerLength - s.position) else (true, s)

/-- The count of `freerds_rpc_named_pipe_read` is a `DWORD`. -/
def readBody : Bool × RpcClient :=
  if headerLength ≤ s.position ∧ s.left ≠ 0 then s.namedPipeRead (s.left % 2 ^ 32) else (true, s)

/-- The arguments of `MessageReceived` for the message in the buffer. -/
def message : Received where
  announced := .ofNat s.length
  data := (s.buffer.contents (headerLength + (UInt32.ofNat s.length - 4).toNat)).drop headerLength

def dispatch : RpcClient :=
  if headerLength ≤ s.position ∧ s.length ≤ s.position then
    { s with position := 0, received := s.received ++ [s.message] }
  else s

/-- `freerds_rpc_transport_receive`. -/
def transportReceive : Int × RpcClient :=
  let (ok, s) := s.readHeader
  if ok then
    let (ok, s) := s.readBody
    if ok then (0, s.dispatch) else (-1, s)
  else (-1, s)

/-- One turn of `freerds_rpc_client_thread` with a connection: a call that fails closes it. -/
def turn : RpcClient :=
  if s.connected then
    let (status, s) := s.transportReceive
    { s with connected := 0 ≤ status }
  else s

/-- A turn of `freerds_rpc_client_thread` without a connection, with the pieces of the new one. `InboundStream` is left
as it is. -/
def reconnect (pieces : List (List UInt8)) : RpcClient :=
  if s.connected then s else { s with pieces := pieces, connected := true }

/-- `n` turns with the same connection. -/
def turns : Nat → RpcClient → RpcClient
  | 0, s => s
  | n + 1, s => turns n s.turn

end RpcClient

/-! ## What a call does -/

def announced (stream : List UInt8) : Nat := ofBytes (stream.take headerLength)

theorem announced_lt (stream : List UInt8) : announced stream < 2 ^ 32 := by
  have hlt := ofBytes_lt (stream.take headerLength)
  have hle : (stream.take headerLength).length ≤ 4 := length_take_le ..
  calc announced stream < 256 ^ (stream.take headerLength).length := hlt
    _ ≤ 256 ^ 4 := Nat.pow_le_pow_right (by decide) hle

theorem announced_append {stream : List UInt8} (h : headerLength ≤ stream.length) (rest : List UInt8) :
    announced (stream ++ rest) = announced stream := by
  rw [announced, take_append_of_le_length h, announced]

namespace RpcClient

/-- The client as a receiver whose pieces have all arrived. -/
def intake : Intake RpcClient where
  headerLength := headerLength
  announced := announced
  buffer := buffer
  position := position
  arrived := pieces
  between _ := []
  length := length
  read _ size s := s.namedPipeRead size
  headerLength_pos := by decide
  headerLength_lt := by decide
  announced_take _ := by rw [announced, List.take_take, Nat.min_self, announced]
  announced_lt := announced_lt
  length_eq s := by rw [length, announced, Memory.contents_take _ le_rfl]
  read_fst _ _ _ := rfl
  buffer_read _ _ _ := rfl
  position_read _ _ _ := rfl
  arrived_read _ _ _ := (List.append_nil _).symm
  between_read _ _ _ := rfl

theorem intake_pending (s : RpcClient) : intake.pending s = s.buffer.contents s.position ++ s.pieces.flatten := by
  rw [Intake.pending]
  exact congrArg (fun pieces => _ ++ flatten pieces) (append_nil s.pieces)

variable {s : RpcClient}

theorem intake_nonEmpty : intake.NonEmpty s ↔ ∀ piece ∈ s.pieces, piece ≠ [] := by
  rw [Intake.NonEmpty]
  exact iff_of_eq (congrArg (fun pieces : List (List UInt8) => ∀ piece ∈ pieces, piece ≠ []) (append_nil s.pieces))

theorem transportReceive_eq (s : RpcClient) : s.transportReceive =
    if (intake.gather s).1 then (0, (intake.gather s).2.dispatch) else (-1, (intake.gather s).2) := by
  have hhdr : intake.readHeader s = s.readHeader := rfl
  have hbody : ∀ s, intake.readBody s = s.readBody := fun _ => rfl
  simp only [transportReceive, Intake.gather, hhdr, hbody]
  split <;> rfl

theorem turn_of_connected (h : s.connected = true) :
    s.turn = if (intake.gather s).1 then { (intake.gather s).2.dispatch with connected := true }
      else { (intake.gather s).2 with connected := false } := by
  rw [turn, if_pos h, transportReceive_eq]
  cases (intake.gather s).1 <;> rfl

theorem turn_of_closed (h : s.connected = false) : s.turn = s := by
  rw [turn, h]
  rfl

theorem gather_received (s : RpcClient) : (intake.gather s).2.received = s.received := by
  have hhdr : (intake.readHeader s).2.received = s.received := by
    unfold Intake.readHeader
    split <;> rfl
  have hbody : ∀ s, (intake.readBody s).2.received = s.received := by
    intro s
    unfold Intake.readBody
    split <;> rfl
  unfold Intake.gather
  dsimp only
  split
  exacts [(hbody _).trans hhdr, hhdr]

theorem dispatch_cases (s : RpcClient) :
    headerLength ≤ s.position ∧ s.length ≤ s.position ∧
        s.dispatch = { s with position := 0, received := s.received ++ [s.message] } ∨
      (s.position < headerLength ∨ s.position < s.length) ∧ s.dispatch = s := by
  unfold dispatch
  split
  · rename_i h
    exact .inl ⟨h.1, h.2, rfl⟩
  · rename_i h
    refine .inr ⟨?_, rfl⟩
    omega

theorem length_eq_announced (h : headerLength ≤ s.position) :
    s.length = announced (intake.pending s) :=
  Intake.length_of_le (M := intake) h

theorem message_eq (hhdr : headerLength ≤ s.position)
    (hpos : s.position = announced (intake.pending s)) :
    s.message = ⟨.ofNat s.position, ((intake.pending s).take s.position).drop headerLength⟩ := by
  have hlen : s.length = s.position := (length_eq_announced hhdr).trans hpos.symm
  have hlt : s.position < 2 ^ 32 := hpos ▸ announced_lt _
  have htoNat : (UInt32.ofNat s.position).toNat = s.position := by rw [UInt32.toNat_ofNat', Nat.mod_eq_of_lt hlt]
  have hle : (4 : UInt32) ≤ UInt32.ofNat s.position := by
    rw [UInt32.le_iff_toNat_le, htoNat]
    exact hhdr
  have hsub : headerLength + (UInt32.ofNat s.position - 4).toNat = s.position := by
    rw [UInt32.toNat_sub_of_le _ _ hle, htoNat]
    exact Nat.add_sub_cancel' hhdr
  rw [message, hlen, hsub, intake_pending, take_left' (Memory.contents_length ..)]

/-- The message in the buffer has room for more, which is what a call finds. -/
structure Open (s : RpcClient) : Prop where
  pieces : ∀ piece ∈ s.pieces, piece ≠ []
  position : headerLength ≤ s.position → s.position < announced (intake.pending s)

/-- What a turn does as long as headers announce at least themselves. -/
inductive TurnCase (s t : RpcClient) : Prop
  /-- The message is not complete. The connection is closed once all bytes have been read. -/
  | kept (hopen : t.Open) (hpending : intake.pending t = intake.pending s) (hreceived : t.received = s.received)
      (hheader : headerLength ≤ t.position → headerLength ≤ (intake.readHeader s).2.position)
      (hprogress : t.connected = true ∧ t.pieces.flatten.length < s.pieces.flatten.length ∨
        t.connected = false ∧ t.pieces = [])
  | completed (hopen : t.Open) (hpending : intake.pending t = (intake.pending s).drop (announced (intake.pending s)))
      (hposition : t.position = 0) (hreceived : t.received = s.received ++
        [⟨.ofNat (announced (intake.pending s)),
          ((intake.pending s).take (announced (intake.pending s))).drop headerLength⟩])
      (hheader : headerLength ≤ (intake.readHeader s).2.position)
      (hwhole : announced (intake.pending s) ≤ (intake.pending s).length)
      (hprogress : t.connected = true ∧ t.pieces.flatten.length < s.pieces.flatten.length)

theorem Open.of_position (hpcs : ∀ piece ∈ s.pieces, piece ≠ []) (hpos : s.position = 0) : s.Open :=
  ⟨hpcs, fun hhdr => absurd (hpos ▸ hhdr) (by decide)⟩

theorem Open.step (h : s.Open)
    (hlow : headerLength ≤ (intake.readHeader s).2.position → headerLength ≤ announced (intake.pending s)) :
    intake.Step s (intake.gather s).2 (intake.gather s).1 :=
  Intake.step_gather (intake_nonEmpty.mpr h.pieces) hlow h.position

theorem Open.turn (h : s.Open) (hconn : s.connected = true)
    (hlow : headerLength ≤ (intake.readHeader s).2.position → headerLength ≤ announced (intake.pending s)) :
    TurnCase s s.turn := by
  have hstep := h.step hlow
  have hrcv := s.gather_received
  have hheader := @Intake.headerLength_le_readHeader _ intake s
  rw [turn_of_connected hconn]
  generalize (intake.gather s).1 = ok at hstep ⊢
  generalize (intake.gather s).2 = t at hstep hrcv hheader ⊢
  have hpend := hstep.pending
  have hpcs : ∀ piece ∈ t.pieces, piece ≠ [] := intake_nonEmpty.mp hstep.nonEmpty
  cases ok with
  | false =>
    obtain ⟨hinside, hnone⟩ := hstep.failed rfl
    rw [← hpend] at hinside
    exact .kept ⟨hpcs, hinside⟩ hpend hrcv hheader (.inr ⟨rfl, hnone.elim And.right id⟩)
  | true =>
    have hprog : t.pieces.flatten.length < s.pieces.flatten.length := by
      have hmore : s.position < t.position := hstep.moved rfl
      have hlen := congrArg List.length hpend
      rw [intake_pending, intake_pending] at hlen
      simp only [List.length_append, Memory.contents_length] at hlen
      omega
    have hinside : headerLength ≤ t.position → t.position ≤ announced (intake.pending s) := hstep.inside
    rcases t.dispatch_cases with ⟨hhdr, hlen, hdisp⟩ | ⟨hlt, hdisp⟩ <;> rw [if_pos rfl, hdisp]
    · rw [length_eq_announced hhdr, hpend] at hlen
      have hpos : t.position = announced (intake.pending s) := Nat.le_antisymm (hinside hhdr) hlen
      have hrest : (intake.pending s).drop t.position = t.pieces.flatten := by
        rw [← hpend, intake_pending, List.drop_left' (Memory.contents_length ..)]
      refine .completed (.of_position hpcs rfl) ?_ rfl ?_ (hheader hhdr) ?_ ⟨rfl, hprog⟩
      · rw [← hpos, hrest, intake_pending]
        rfl
      · rw [← hpos, ← hpend, ← message_eq hhdr (by rw [hpend]; exact hpos), hrcv]
      · rw [← hpos, ← hpend, Intake.pending_length]
        exact Nat.le_add_right _ _
    · refine .kept ⟨hpcs, fun hhdr => ?_⟩ hpend hrcv hheader (.inl ⟨rfl, hprog⟩)
      exact (hlt.resolve_left (Nat.not_lt.mpr hhdr)).trans_eq (length_eq_announced hhdr)

end RpcClient

/-! ## All messages -/

variable (payload : List UInt8)

/-- What `freerds_rpc_client_send_message` writes. -/
def sendMessage : List UInt8 := toBytes headerLength (payload.length + headerLength) ++ payload

theorem sendMessage_length : (sendMessage payload).length = payload.length + headerLength := by
  rw [sendMessage, length_append, toBytes_length, Nat.add_comm]

/-- The call of `MessageReceived` for a payload that has arrived. -/
def Received.ofPayload : Received := ⟨.ofNat (payload.length + headerLength), payload⟩

theorem Received.length_ofPayload :
    (ofPayload payload).length = .ofNat payload.length := by
  simp [Received.length, ofPayload, headerLength]

def Fits : Prop := payload.length + headerLength ≤ capacity

section Sent

variable {payload rest coming : List UInt8}

theorem announced_sendMessage (hfits : Fits payload) :
    announced (sendMessage payload ++ rest) = payload.length + headerLength := by
  have hlen : (toBytes headerLength (payload.length + headerLength)).length = headerLength := toBytes_length _ _
  have htake : (sendMessage payload ++ rest).take headerLength = toBytes headerLength (payload.length + headerLength) := by
    rw [sendMessage, append_assoc, take_append_of_le_length hlen.ge, take_of_length_le hlen.le]
  rw [announced, htake, ofBytes_toBytes_of_lt]
  exact Nat.lt_of_le_of_lt hfits (by decide)

/-- The first message of a stream, of which some bytes are coming. -/
theorem announced_of_append {stream : List UInt8} (hfits : Fits payload) (h : stream ++ coming = sendMessage payload ++ rest)
    (hlong : headerLength ≤ stream.length) : announced stream = payload.length + headerLength := by
  rw [← announced_append hlong coming, h, announced_sendMessage hfits]

theorem split_of_append {stream : List UInt8} (h : stream ++ coming = sendMessage payload ++ rest)
    (hlong : payload.length + headerLength ≤ stream.length) :
    (stream.take (payload.length + headerLength)).drop headerLength = payload ∧
      stream.drop (payload.length + headerLength) ++ coming = rest := by
  rw [← sendMessage_length] at hlong ⊢
  have htake := congrArg (take (sendMessage payload).length) h
  have hdrop := congrArg (drop (sendMessage payload).length) h
  rw [take_append_of_le_length hlong, take_left] at htake
  rw [drop_append_of_le_length hlong, drop_left] at hdrop
  rw [htake, sendMessage, drop_left' (toBytes_length ..)]
  exact ⟨rfl, hdrop⟩

end Sent

/-- The first of the messages that are whole within the first `size` bytes. -/
def arrived : List (List UInt8) → Nat → List (List UInt8)
  | [], _ => []
  | payload :: payloads, size =>
    if payload.length + headerLength ≤ size then payload :: arrived payloads (size - (payload.length + headerLength))
    else []

theorem arrived_all (payloads : List (List UInt8)) :
    arrived payloads (payloads.flatMap sendMessage).length = payloads := by
  induction payloads with
  | nil => rfl
  | cons payload payloads ih =>
    rw [arrived, flatMap_cons, length_append, sendMessage_length, if_pos (Nat.le_add_right _ _),
      Nat.add_sub_cancel_left, ih]

theorem arrived_append_of_lt {payloads : List (List UInt8)} {payload : List UInt8} {size : Nat}
    (hge : (payloads.flatMap sendMessage).length ≤ size)
    (hlt : size < ((payloads ++ [payload]).flatMap sendMessage).length) :
    arrived (payloads ++ [payload]) size = payloads := by
  induction payloads generalizing size with
  | nil =>
    simp only [nil_append, flatMap_cons, flatMap_nil, append_nil, sendMessage_length] at hlt
    simp [arrived, hlt]
  | cons first payloads ih =>
    simp only [cons_append, flatMap_cons, length_append, sendMessage_length] at hge hlt
    rw [cons_append, arrived, if_pos (by omega), ih (by omega) (by omega)]

open RpcClient

/-- These payloads are still to be handed over, the first of which may have come in part. -/
structure Awaiting (s : RpcClient) (payloads : List (List UInt8)) (coming : List UInt8) : Prop where
  fits : ∀ payload ∈ payloads, Fits payload
  pieces : ∀ piece ∈ s.pieces, piece ≠ []
  connected : s.connected = true ∨ s.pieces = []
  stream : intake.pending s ++ coming = payloads.flatMap sendMessage
  position : ∀ payload ∈ payloads.head?, s.position < payload.length + headerLength

namespace Awaiting

variable {s : RpcClient} {payloads : List (List UInt8)} {coming : List UInt8}

theorem of_flatten (hfits : ∀ payload ∈ payloads, Fits payload) (hpcs : ∀ piece ∈ s.pieces, piece ≠ [])
    (hpos : s.position = 0) (hconn : s.connected = true)
    (h : s.pieces.flatten ++ coming = payloads.flatMap sendMessage) : Awaiting s payloads coming := by
  refine ⟨hfits, hpcs, .inl hconn, ?_, fun payload _ => ?_⟩
  · rwa [intake_pending, hpos, Memory.contents_zero, nil_append]
  · rw [hpos]
    exact Nat.add_pos_right _ (by decide)

variable (h : Awaiting s payloads coming)

include h

theorem first (hlong : headerLength ≤ (intake.pending s).length) :
    ∃ payload payloads', payloads = payload :: payloads' ∧
      announced (intake.pending s) = payload.length + headerLength := by
  have hstrm := h.stream
  cases payloads with
  | nil =>
    rw [(append_eq_nil_iff.mp hstrm).1] at hlong
    exact absurd hlong (by decide)
  | cons payload payloads => exact ⟨payload, payloads, rfl, announced_of_append (h.fits _ mem_cons_self) hstrm hlong⟩

theorem isOpen : s.Open := by
  refine ⟨h.pieces, fun hhdr => ?_⟩
  have hlen := Intake.pending_length (M := intake) s
  obtain ⟨payload, payloads, rfl, hann⟩ := h.first (hhdr.trans (hlen.symm ▸ Nat.le_add_right _ _))
  rw [hann]
  exact h.position payload rfl

theorem arrived_of_pieces_eq_nil (hnil : s.pieces = []) :
    arrived payloads (intake.pending s).length = [] := by
  cases payloads with
  | nil => rfl
  | cons payload payloads =>
    have hlt := h.position payload rfl
    rw [arrived, if_neg]
    rw [intake_pending, hnil, flatten_nil, append_nil, Memory.contents_length]
    omega

theorem turn :
    ∃ payloads', Awaiting s.turn payloads' coming ∧
      s.turn.received ++ (arrived payloads' (intake.pending s.turn).length).map Received.ofPayload =
        s.received ++ (arrived payloads (intake.pending s).length).map Received.ofPayload ∧
      (s.turn.pieces.flatten.length < s.pieces.flatten.length ∨ s.turn.pieces = []) := by
  cases hconn : s.connected with
  | false =>
    rw [turn_of_closed hconn]
    exact ⟨payloads, h, rfl, .inr (h.connected.resolve_left (by simp [hconn]))⟩
  | true =>
    have hlow : headerLength ≤ (intake.readHeader s).2.position → headerLength ≤ announced (intake.pending s) := by
      intro hhdr
      obtain ⟨payload, payloads, -, hann⟩ := h.first (hhdr.trans (Intake.position_readHeader_le (M := intake) s))
      exact hann ▸ Nat.le_add_left _ _
    cases h.isOpen.turn hconn hlow with
    | kept hopen hpend hrcv _ hprog =>
      refine ⟨payloads, ⟨h.fits, hopen.pieces, hprog.imp And.left And.right, hpend ▸ h.stream, fun payload hmem => ?_⟩,
        by rw [hpend, hrcv], hprog.imp And.right And.right⟩
      by_cases hhdr : headerLength ≤ s.turn.position
      · have hlen := Intake.pending_length (M := intake) s.turn
        rw [hpend] at hlen
        obtain ⟨first, payloads, rfl, hann⟩ := h.first (hhdr.trans (hlen.symm ▸ Nat.le_add_right _ _))
        obtain rfl := Option.some.inj hmem
        exact (hopen.position hhdr).trans_eq (hpend ▸ hann)
      · omega
    | completed hopen hpend hpos hrcv hhdr hwhole hprog =>
      obtain ⟨payload, payloads, rfl, hann⟩ := h.first (hhdr.trans (Intake.position_readHeader_le (M := intake) s))
      rw [hann] at hpend hrcv hwhole
      obtain ⟨hdata, hrest⟩ := split_of_append h.stream hwhole
      have hnext : Awaiting s.turn payloads coming := by
        refine ⟨(forall_mem_cons.mp h.fits).2, hopen.pieces, .inl hprog.1, hpend ▸ hrest, fun payload _ => ?_⟩
        rw [hpos]
        exact Nat.add_pos_right _ (by decide)
      refine ⟨payloads, hnext, ?_, .inl hprog.2⟩
      rw [hrcv, hdata, hpend, length_drop, arrived, if_pos hwhole, append_assoc]
      rfl

theorem turns (n : Nat) :
    ∃ payloads', Awaiting (s.turns n) payloads' coming ∧
      (s.turns n).received ++ (arrived payloads' (intake.pending (s.turns n)).length).map Received.ofPayload =
        s.received ++ (arrived payloads (intake.pending s).length).map Received.ofPayload ∧
      (s.pieces.flatten.length ≤ n → (s.turns n).pieces = []) := by
  induction n generalizing s payloads with
  | zero =>
    refine ⟨payloads, h, rfl, fun hnone => Pieces.eq_nil_of_flatten h.pieces ?_⟩
    exact length_eq_zero_iff.mp (Nat.le_zero.mp hnone)
  | succ n ih =>
    obtain ⟨payloads', hagain, hsame, hless⟩ := h.turn
    obtain ⟨payloads'', hawait, hall, hnone⟩ := ih hagain
    refine ⟨payloads'', hawait, hall.trans hsame, fun hle => hnone ?_⟩
    rcases hless with hless | hnil
    · omega
    · rw [hnil]
      exact Nat.zero_le n

end Awaiting

/-- However the bytes come, the payloads are handed over in the order in which they were sent, and after as many calls
as there are bytes, those have been whose messages are whole. -/
theorem RpcClient.received_of_sent {s : RpcClient} {payloads : List (List UInt8)} {coming : List UInt8}
    (hfits : ∀ payload ∈ payloads, Fits payload) (hpcs : ∀ piece ∈ s.pieces, piece ≠ []) (hpos : s.position = 0)
    (hconn : s.connected = true) (hsent : s.pieces.flatten ++ coming = payloads.flatMap sendMessage) :
    (∀ n, (s.turns n).received <+:
        s.received ++ (arrived payloads s.pieces.flatten.length).map Received.ofPayload) ∧
      ∀ n, s.pieces.flatten.length ≤ n →
        (s.turns n).received = s.received ++ (arrived payloads s.pieces.flatten.length).map Received.ofPayload := by
  have hawait : Awaiting s payloads coming := .of_flatten hfits hpcs hpos hconn hsent
  have havailable : (intake.pending s).length = s.pieces.flatten.length := by
    rw [intake_pending, hpos, Memory.contents_zero, nil_append]
  rw [← havailable]
  constructor
  · intro n
    obtain ⟨payloads', -, hall, -⟩ := hawait.turns n
    exact ⟨_, hall⟩
  · intro n hn
    obtain ⟨payloads', hawait', hall, hnone⟩ := hawait.turns n
    rw [hawait'.arrived_of_pieces_eq_nil (hnone (havailable ▸ hn)), map_nil, append_nil] at hall
    exact hall

/-- A sender's payloads reach `MessageReceived` in order and once each, with their lengths, whatever the pieces are. -/
theorem payloads_received (buffer : Memory UInt8) (payloads : List (List UInt8))
    (hsize : ∀ payload ∈ payloads, payload.length ≤ 8188) (pieces : List (List UInt8))
    (hpieces : ∀ piece ∈ pieces, piece ≠ []) (hsent : pieces.flatten = payloads.flatMap sendMessage) :
    let calls n := ((RpcClient.new buffer pieces).turns n).received.map fun received => (received.length, received.data)
    let sent := payloads.map fun payload => (UInt32.ofNat payload.length, payload)
    (∀ n, calls n <+: sent) ∧ ∀ n, pieces.flatten.length ≤ n → calls n = sent := by
  have hfits : ∀ payload ∈ payloads, Fits payload := by
    intro payload hpay
    exact Nat.add_le_add_right (hsize payload hpay) 4
  have hmap : (payloads.map Received.ofPayload).map (fun received => (received.length, received.data)) =
      payloads.map fun payload => (UInt32.ofNat payload.length, payload) := by
    rw [map_map]
    exact map_congr_left fun payload _ => Prod.ext (Received.length_ofPayload payload) rfl
  have hrcv := RpcClient.received_of_sent (s := .new buffer pieces) hfits hpieces rfl rfl
    ((append_nil _).trans hsent)
  have hall : arrived payloads pieces.flatten.length = payloads := by rw [hsent, arrived_all]
  simp only [RpcClient.new, nil_append, hall] at hrcv
  obtain ⟨hfirst, hwhole⟩ := hrcv
  dsimp only
  rw [← hmap]
  exact ⟨fun n => (hfirst n).map _, fun n hn => congrArg _ (hwhole n hn)⟩

/-- Two payloads, one of them empty, whose headers are cut. -/
theorem payloads_received_cut :
    let calls n := ((RpcClient.new (fun _ => 7) [[6], [0, 0], [0, 1, 2, 4, 0], [0, 0]]).turns n).received.map
      fun received => (received.length, received.data)
    let sent := [[1, 2], []].map fun payload => (UInt32.ofNat payload.length, payload)
    (∀ n, calls n <+: sent) ∧ ∀ n, 10 ≤ n → calls n = sent :=
  payloads_received (fun _ => 7) [[1, 2], []] (by decide) [[6], [0, 0], [0, 1, 2, 4, 0], [0, 0]] (by decide) (by decide)

end FreeRDS.Fdsapi
