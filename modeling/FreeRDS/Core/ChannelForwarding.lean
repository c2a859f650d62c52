import FreeRDS.Lib.Pieces
import FreeRDS.Lib.Wire

/-! # From an application to the client

`WTSVirtualChannelWrite` sends the length of a message and its bytes. The connection reads them with one `recv` each and
hands the bytes to `VirtualChannelWrite`. A `recv` that returns less than it was asked for closes the channel, although
the rest may only be on its way.
-/

namespace FreeRDS.Core.ChannelForwarding

open Lib FrameFormat List

/-- The length is a `ULONG`. -/
abbrev Message := { data : List UInt8 // data.length < 2 ^ 32 }

/-- What `FreeRDS_WTSVirtualChannelWrite` sends. -/
def wtsVirtualChannelWrite (message : Message) : List UInt8 := Wire.toBytes 4 message.1.length ++ message.1

def channelFormat : FrameFormat UInt8 where
  headerSize := 4
  headerSize_pos := by decide
  payloadSize := Wire.ofBytes

def frame (message : Message) : channelFormat.Frame where
  header := Wire.toBytes 4 message.1.length
  payload := message.1
  header_length := Wire.toBytes_length 4 message.1.length
  payload_length := (Wire.ofBytes_toBytes_of_lt (by simpa using message.2)).symm

structure Segments (stream : List UInt8) where
  pieces : List (List UInt8)
  ne_nil : ∀ piece ∈ pieces, piece ≠ []
  flatten : pieces.flatten = stream

structure Channel where
  pieces : List (List UInt8)
  /-- What the client's `VirtualChannelWrite` was called with. -/
  written : List (List UInt8) := []
  isOpen : Bool := true
  deriving DecidableEq

/-- What `_recv` can return in an `int`. -/
def intMax : Nat := 2 ^ 31 - 1

/-- `_recv` waits for a byte, unless it is asked for none. -/
def recv (size : Nat) (pieces : List (List UInt8)) : List UInt8 × List (List UInt8) :=
  Pieces.read (min size intMax) pieces

/-- `freerds_channel_check_socket`. -/
def checkSocket (channel : Channel) : Int × Channel :=
  let (length, pieces) := recv 4 channel.pieces
  if length.length ≠ 4 then (-1, { channel with pieces })
  else
    let length := Wire.ofBytes length
    let (buffer, pieces) := recv length pieces
    if buffer.length ≠ length then (-1, { channel with pieces })
    else (buffer.length, { channel with pieces, written := channel.written ++ [buffer] })

/-- `freerds_client_check_channel_event_handles`, for a channel with something to read. -/
def checkEventHandles (channel : Channel) : Channel :=
  if channel.isOpen ∧ channel.pieces ≠ [] then
    let (status, channel) := checkSocket channel
    if status < 1 then { channel with isOpen := false } else channel
  else channel

/-- The messages have been handed on one by one, and the channel is still there. -/
structure Channel.Forwards (channel : Channel) (messages : List Message) : Prop where
  written : channel.written = messages.map Subtype.val
  isOpen : channel.isOpen = true

variable {pieces : List (List UInt8)} {part rest : List UInt8}

theorem recv_of_le (h : part.length ≤ intMax) : recv part.length pieces = Pieces.read part.length pieces := by
  rw [recv, Nat.min_eq_left h]

theorem recv_length_iff (hpcs : ∀ piece ∈ pieces, piece ≠ []) (h : pieces.flatten = part ++ rest) :
    (recv part.length pieces).1.length = part.length ↔
      part.length ≤ intMax ∧ ∀ n, Pieces.Cut pieces n → ¬(0 < n ∧ n < part.length) := by
  by_cases hint : part.length ≤ intMax
  · rw [recv_of_le hint]
    have hle := Pieces.read_length_le part.length pieces
    by_cases hpart : part = []
    · subst hpart
      exact iff_of_true (Nat.le_zero.mp hle) ⟨hint, by simp⟩
    · rw [← Pieces.read_whole_iff hpart hpcs h]
      omega
  · have hle := Pieces.read_length_le (min part.length intMax) pieces
    have hlt : (recv part.length pieces).1.length ≠ part.length := by
      unfold recv
      omega
    exact iff_of_false hlt fun hboth => hint hboth.1

theorem recv_whole (hpart : part ≠ []) (h : pieces.flatten = part ++ rest)
    (hlen : (recv part.length pieces).1.length = part.length) (hint : part.length ≤ intMax) :
    Pieces.Whole pieces part rest := by
  rw [recv_of_le hint] at hlen
  exact .of_read hpart h hlen.ge

/-! ## One message -/

/-- What it takes for a message to be handed on, and for the channel to stay open. -/
structure Taken (pieces : List (List UInt8)) (message : Message) : Prop where
  ne_nil : message.1 ≠ []
  length : message.1.length ≤ intMax
  header : ∀ n, Pieces.Cut pieces n → ¬(0 < n ∧ n < 4)
  payload : ∀ n, Pieces.Cut pieces (4 + n) → ¬(0 < n ∧ n < message.1.length)

section

variable {channel : Channel} {message : Message}

/-- What the first `recv` of a message leaves. -/
structure Behind (channel : Channel) (message : Message) (rest : List UInt8) : Prop where
  data : (recv 4 channel.pieces).1 = Wire.toBytes 4 message.1.length
  flatten : (recv 4 channel.pieces).2.flatten = message.1 ++ rest
  ne_nil : ∀ piece ∈ (recv 4 channel.pieces).2, piece ≠ []
  cut : ∀ n, 0 < n → (Pieces.Cut (recv 4 channel.pieces).2 n ↔ Pieces.Cut channel.pieces (4 + n))

section

variable (hpcs : ∀ piece ∈ channel.pieces, piece ≠ [])
  (hflat : channel.pieces.flatten = wtsVirtualChannelWrite message ++ rest)

include hpcs hflat

theorem recv_header (hlen : (recv 4 channel.pieces).1.length = 4) : Behind channel message rest := by
  rw [wtsVirtualChannelWrite, append_assoc] at hflat
  have hsize : (Wire.toBytes 4 message.1.length).length = 4 := Wire.toBytes_length 4 _
  have hwhole : Pieces.Whole channel.pieces (Wire.toBytes 4 message.1.length) (message.1 ++ rest) := by
    refine recv_whole (ne_nil_of_length_pos (by omega)) hflat ?_ ?_
    · rwa [hsize]
    · rw [hsize]
      decide
  obtain ⟨hdata, hrest, hcut⟩ := hwhole
  rw [hsize] at hdata hrest hcut
  exact ⟨hdata, hrest, Pieces.read_snd_ne_nil hpcs, hcut⟩

theorem recv_header_iff :
    (recv 4 channel.pieces).1.length = 4 ↔ ∀ n, Pieces.Cut channel.pieces n → ¬(0 < n ∧ n < 4) := by
  rw [wtsVirtualChannelWrite, append_assoc] at hflat
  have hiff := recv_length_iff hpcs hflat
  rw [Wire.toBytes_length] at hiff
  exact hiff.trans (and_iff_right (by decide))

end

theorem Behind.checkSocket (h : Behind channel message rest) :
    checkSocket channel =
      let (buffer, pieces) := recv message.1.length (recv 4 channel.pieces).2
      if buffer.length ≠ message.1.length then (-1, { channel with pieces })
      else (buffer.length, { channel with pieces, written := channel.written ++ [buffer] }) := by
  have hval : Wire.ofBytes (Wire.toBytes 4 message.1.length) = message.1.length :=
    Wire.ofBytes_toBytes_of_lt (by simpa using message.2)
  unfold ChannelForwarding.checkSocket
  dsimp only
  rw [h.data, Wire.toBytes_length, hval]
  rfl

theorem Behind.recv_payload_iff (h : Behind channel message rest) :
    (recv message.1.length (recv 4 channel.pieces).2).1.length = message.1.length ↔
      message.1.length ≤ intMax ∧ ∀ n, Pieces.Cut channel.pieces (4 + n) → ¬(0 < n ∧ n < message.1.length) := by
  rw [recv_length_iff h.ne_nil h.flatten]
  refine and_congr_right fun _ => forall_congr' fun n => ?_
  constructor
  · exact fun hmiddle hcut hin => hmiddle ((h.cut n hin.1).mpr hcut) hin
  · exact fun hpcs hcut hin => hpcs ((h.cut n hin.1).mp hcut) hin

structure Left (pieces : List (List UInt8)) (message : Message) (rest : List UInt8) (left : List (List UInt8)) :
    Prop where
  flatten : left.flatten = rest
  ne_nil : ∀ piece ∈ left, piece ≠ []
  cut : ∀ n, 0 < n → (Pieces.Cut left n ↔ Pieces.Cut pieces ((frame message).size + n))

theorem Taken.checkSocket (h : Taken channel.pieces message) (hpcs : ∀ piece ∈ channel.pieces, piece ≠ [])
    (hflat : channel.pieces.flatten = wtsVirtualChannelWrite message ++ rest) :
    ∃ left, Left channel.pieces message rest left ∧ checkSocket channel =
      ((message.1.length : Int), { channel with pieces := left, written := channel.written ++ [message.1] }) := by
  have hbehind := recv_header hpcs hflat ((recv_header_iff hpcs hflat).mpr h.header)
  have hlen := hbehind.recv_payload_iff.mpr ⟨h.length, h.payload⟩
  have hwhole := recv_whole h.ne_nil hbehind.flatten hlen h.length
  refine ⟨(recv message.1.length (recv 4 channel.pieces).2).2, ⟨?_, ?_, ?_⟩, ?_⟩
  · rw [recv_of_le h.length]
    exact hwhole.rest
  · exact Pieces.read_snd_ne_nil hbehind.ne_nil
  · intro n hn
    rw [recv_of_le h.length, hwhole.cut n hn, hbehind.cut _ (by omega), ← Nat.add_assoc]
    rfl
  · rw [hbehind.checkSocket]
    have hdata : (recv message.1.length (recv 4 channel.pieces).2).1 = message.1 := by
      rw [recv_of_le h.length]
      exact hwhole.data
    simp [hdata]

theorem status_of_not_taken (h : ¬Taken channel.pieces message) (hpcs : ∀ piece ∈ channel.pieces, piece ≠ [])
    (hflat : channel.pieces.flatten = wtsVirtualChannelWrite message ++ rest) : (checkSocket channel).1 < 1 := by
  by_cases hhdr : (recv 4 channel.pieces).1.length = 4
  · have hbehind := recv_header hpcs hflat hhdr
    rw [hbehind.checkSocket]
    dsimp only
    split_ifs with hlen
    · exact show (-1 : Int) < 1 by decide
    · -- The whole message has arrived, so it must be empty.
      have hparts := hbehind.recv_payload_iff.mp (not_not.mp hlen)
      have hempty : message.1 = [] := by
        by_contra hne
        exact h ⟨hne, hparts.1, (recv_header_iff hpcs hflat).mp hhdr, hparts.2⟩
      rw [not_not.mp hlen, hempty]
      exact Int.zero_lt_one
  · simp [checkSocket, hhdr]

end

/-! ## All messages -/

theorem checkEventHandles_closed {channel : Channel} (h : channel.isOpen = false) (n : Nat) :
    checkEventHandles^[n] channel = channel := by
  have hfixed : checkEventHandles channel = channel := by simp [checkEventHandles, h]
  exact Function.iterate_fixed hfixed n

/-- No message is empty or too long for an `int`, and no segment ends inside a length or inside the bytes behind it. -/
structure Arrives (pieces : List (List UInt8)) (messages : List Message) : Prop where
  sized : ∀ message ∈ messages, message.1 ≠ [] ∧ message.1.length ≤ intMax
  uncut : Uncut (messages.map frame) pieces

theorem Arrives.taken {message : Message} {messages : List Message} (h : Arrives pieces (message :: messages)) :
    Taken pieces message := by
  obtain ⟨hne, hlen⟩ := h.sized message mem_cons_self
  obtain ⟨hhdr, hpay, -⟩ := uncut_cons_iff.mp h.uncut
  exact ⟨hne, hlen, hhdr, hpay⟩

theorem arrives_cons_iff {message : Message} {messages : List Message} {left : List (List UInt8)}
    (htaken : Taken pieces message) (hleft : Left pieces message rest left) :
    Arrives pieces (message :: messages) ↔ Arrives left messages := by
  constructor
  · intro h
    refine ⟨fun other hmem => h.sized other (.tail _ hmem), fun n hcut hin => ?_⟩
    exact (uncut_cons_iff.mp h.uncut).2.2 n ((hleft.cut n hin.pos).mp hcut) hin
  · intro h
    refine ⟨forall_mem_cons.mpr ⟨⟨htaken.ne_nil, htaken.length⟩, h.sized⟩, uncut_cons_iff.mpr ?_⟩
    exact ⟨htaken.header, htaken.payload, fun n hcut hin => h.uncut n ((hleft.cut n hin.pos).mpr hcut) hin⟩

theorem checkEventHandles_cases {channel : Channel} {message : Message} (hopen : channel.isOpen = true)
    (hpcs : ∀ piece ∈ channel.pieces, piece ≠ [])
    (hflat : channel.pieces.flatten = wtsVirtualChannelWrite message ++ rest) :
    (Taken channel.pieces message ∧ ∃ left, Left channel.pieces message rest left ∧
      checkEventHandles channel = { channel with pieces := left, written := channel.written ++ [message.1] }) ∨
    (¬Taken channel.pieces message ∧ (checkEventHandles channel).isOpen = false) := by
  have hsome : channel.pieces ≠ [] := by
    intro hnil
    have hlen := congrArg length hflat
    simp only [hnil, wtsVirtualChannelWrite, flatten_nil, length_nil, length_append,
      Wire.toBytes_length] at hlen
    omega
  by_cases htaken : Taken channel.pieces message
  · obtain ⟨left, hleft, hsocket⟩ := htaken.checkSocket hpcs hflat
    have hstat : ¬(message.1.length : Int) < 1 := by
      have hpos := length_pos_iff.mpr htaken.ne_nil
      omega
    refine .inl ⟨htaken, left, hleft, ?_⟩
    rw [checkEventHandles, if_pos ⟨hopen, hsome⟩, hsocket]
    exact if_neg hstat
  · have hstat := status_of_not_taken htaken hpcs hflat
    refine .inr ⟨htaken, ?_⟩
    rw [checkEventHandles, if_pos ⟨hopen, hsome⟩]
    dsimp only
    rw [if_pos hstat]

theorem forwards_iff_of_open {messages : List Message} {channel : Channel} (hopen : channel.isOpen = true)
    (hpcs : ∀ piece ∈ channel.pieces, piece ≠ [])
    (hflat : channel.pieces.flatten = messages.flatMap wtsVirtualChannelWrite) (extra : Nat) :
    ((checkEventHandles^[messages.length + extra] channel).written = channel.written ++ messages.map Subtype.val ∧
      (checkEventHandles^[messages.length + extra] channel).isOpen = true) ↔ Arrives channel.pieces messages := by
  induction messages generalizing channel with
  | nil =>
    have hnil : channel.pieces = [] := Pieces.eq_nil_of_flatten hpcs hflat
    have hfixed : checkEventHandles channel = channel := by simp [checkEventHandles, hnil]
    rw [Function.iterate_fixed hfixed]
    exact iff_of_true ⟨(append_nil _).symm, hopen⟩ ⟨by simp, fun _ _ => id⟩
  | cons message messages ih =>
    rw [length_cons, Nat.add_right_comm, Function.iterate_succ_apply]
    rcases checkEventHandles_cases hopen hpcs hflat with ⟨htaken, left, hleft, heq⟩ | ⟨hcut, hclosed⟩
    · rw [arrives_cons_iff htaken hleft, heq]
      have hrest := @ih { channel with pieces := left, written := channel.written ++ [message.1] } hopen
        hleft.ne_nil hleft.flatten
      rwa [append_assoc] at hrest
    · rw [checkEventHandles_closed hclosed, hclosed]
      exact iff_of_false (fun h => Bool.false_ne_true h.2) fun h => hcut h.taken

end FreeRDS.Core.ChannelForwarding
