import FreeRDS.Backend.Arrival
import FreeRDS.Backend.Extent

/-! # What earlier messages leave behind

A message is read from a buffer that earlier ones have filled. Two runs that receive the same message behind different
ones are compared by the callbacks that they make for it.
-/

namespace FreeRDS.Backend

open Lib Wire Layout List Option

/-! ## Runs -/

/-- In some run a call hands over the message, to a common part whose memory held `common`. Other messages may have come
before, and others may follow. -/
def Receives (handle : Handler) (buffer : Memory UInt8) (message : Message) (common : Common) (handed : Handed) : Prop :=
  ∃ (earlier later : List Message) (events : List Event) (between : List (List UInt8)) (coming : List UInt8),
    let last := Event.call between common
    let s := events.foldl (Link.step handle) (.new buffer [])
    (∀ event ∈ events ++ [last], ∀ piece ∈ event.pieces, piece ≠ []) ∧
      ((events ++ [last]).flatMap Event.pieces).flatten ++ coming = stream (earlier ++ message :: later) ∧
      s.receiver.handed.length = earlier.length ∧
      (s.step handle last).receiver.handed = s.receiver.handed ++ [handed]

/-- A link that is up has handed over the first messages and waits for the others. -/
def Counting (s : Link) (messages : List Message) (coming : List UInt8) : Prop :=
  s.connected = true → ∃ done waiting, messages = done ++ waiting ∧ s.receiver.handed.length = done.length ∧
    Awaiting s.receiver waiting coming

namespace Counting

variable {s : Link} {messages : List Message} {coming : List UInt8}

theorem start (buffer : Memory UInt8) (messages : List Message) :
    Counting (.new buffer []) messages (stream messages) := by
  intro _
  refine ⟨[], messages, rfl, rfl, .of_stream rfl ?_ rfl ?_⟩
  all_goals simp [Link.new, Receiver.new]

theorem arrive {pieces : List (List UInt8)} (h : Counting s messages (pieces.flatten ++ coming))
    (hpcs : ∀ piece ∈ pieces, piece ≠ []) : Counting (s.arrive pieces) messages coming := by
  intro hconn
  obtain ⟨done, waiting, hmsgs, hlen, hawait⟩ := h hconn
  exact ⟨done, waiting, hmsgs, hlen, hawait.arrive hpcs⟩

theorem step {event : Event} (h : Counting s messages (event.pieces.flatten ++ coming)) (handle : Handler)
    (hpcs : ∀ piece ∈ event.pieces, piece ≠ []) : Counting (s.step handle event) messages coming := by
  cases event with
  | arrive piece => exact h.arrive hpcs
  | call between common =>
    by_cases hready : s.connected = true ∧ s.receiver.arrived ≠ []
    · have hstep := Link.call_of_ready handle between common hready.1 hready.2
      obtain ⟨done, waiting, hmsgs, hlen, hawait⟩ := h hready.1
      rw [Link.step, hstep]
      rcases hawait.transportReceive_handsOver between hpcs hready.2 handle common with
        ⟨-, hstat⟩ | ⟨-, -, hhands, -⟩
      · intro hconn
        rw [hstat] at hconn
        cases hconn
      · intro _
        rcases hhands with ⟨hagain, hhanded⟩ | ⟨message, waiting, before, handed, rfl, hnext, -, happ⟩
        · exact ⟨done, waiting, hmsgs, (congrArg length hhanded).trans hlen, hagain⟩
        · refine ⟨done ++ [message], waiting, by rw [hmsgs, append_assoc]; rfl, ?_, hnext⟩
          rw [happ, length_append, length_append, hlen]
          rfl
    · rw [Link.step, Link.call_of_not_ready handle between common hready]
      exact h.arrive hpcs

theorem foldl {events : List Event} (h : Counting s messages ((events.flatMap Event.pieces).flatten ++ coming))
    (handle : Handler) (hpcs : ∀ event ∈ events, ∀ piece ∈ event.pieces, piece ≠ []) :
    Counting (events.foldl (Link.step handle) s) messages coming := by
  induction events generalizing s with
  | nil => exact h
  | cons event events ih =>
    rw [forall_mem_cons] at hpcs
    rw [flatMap_cons, flatten_append, append_assoc] at h
    exact ih (h.step handle hpcs.1) hpcs.2

end Counting

theorem handOver_of_receives {handle : Handler} {buffer : Memory UInt8} {message : Message} {common : Common}
    {handed : Handed} (h : Receives handle buffer message common handed) :
    ∃ before : Memory UInt8, handOver common (before.write 0 message.bytes) = some handed := by
  obtain ⟨earlier, later, events, between, coming, hpcs, hstrm, hlen, hhanded⟩ := h
  rw [forall_mem_append] at hpcs
  have hbetween : ∀ piece ∈ between, piece ≠ [] := hpcs.2 _ (mem_singleton_self _)
  have hcounting : Counting (events.foldl (Link.step handle) (.new buffer [])) (earlier ++ message :: later)
      (between.flatten ++ coming) := by
    apply Counting.foldl _ handle hpcs.1
    rw [flatMap_append, flatten_append, append_assoc] at hstrm
    have hstart := Counting.start buffer (earlier ++ message :: later)
    rw [← hstrm] at hstart
    simpa [Event.pieces] using hstart
  generalize events.foldl (Link.step handle) (.new buffer []) = s at hlen hhanded hcounting
  have hready : s.connected = true ∧ s.receiver.arrived ≠ [] := by
    by_contra hnot
    rw [Link.step, Link.call_of_not_ready handle between common hnot] at hhanded
    have hsame := congrArg length hhanded
    simp [Link.arrive] at hsame
  obtain ⟨done, waiting, hmsgs, hdone, hawait⟩ := hcounting hready.1
  obtain ⟨-, rfl⟩ := append_inj hmsgs (hlen.symm.trans hdone)
  rw [Link.step, Link.call_of_ready handle between common hready.1 hready.2] at hhanded
  dsimp only at hhanded
  rcases hawait.transportReceive_handsOver between hbetween hready.2 handle common with
    ⟨-, hstat⟩ | ⟨-, -, hhands, -⟩
  · rw [transportReceive_handed_of_fail hstat] at hhanded
    have hsame := congrArg length hhanded
    simp at hsame
  · rcases hhands with ⟨-, hsame⟩ | ⟨message', messages', before, handed', hcons, -, hover, happ⟩
    · rw [hsame] at hhanded
      have hsame := congrArg length hhanded
      simp at hsame
    · obtain ⟨rfl, -⟩ := cons.inj hcons
      rw [happ] at hhanded
      obtain rfl : handed' = handed := by simpa using hhanded
      exact ⟨before, hover⟩

/-! ## Any bytes may lie behind a message -/

theorem Receiving.exists_calls {s : Link} {before : Memory UInt8} {message : Message}
    (h : Receiving s.receiver before message [] []) (hbetween : s.receiver.between = []) (hconn : s.connected = true)
    (handle : Handler) (common : Common) :
    ∃ n s', (List.replicate n (Event.call [] common)).foldl (Link.step handle) s = s' ∧
      s'.receiver.handed = s.receiver.handed ∧ (s'.step handle (.call [] common)).connected = true ∧
      (s'.step handle (.call [] common)).receiver.between = [] ∧
      Completed handle common s'.receiver (s'.step handle (.call [] common)).receiver before message [] [] := by
  induction hleft : message.length - s.receiver.position using Nat.strong_induction_on generalizing s with
  | _ left ih =>
    have hpcs : ∀ piece ∈ s.receiver.arrived, piece ≠ [] := by simpa [hbetween] using h.pieces
    have hawait : Awaiting s.receiver [message] [] := ⟨hbetween, hpcs, before, h⟩
    have harr := hawait.arrived_ne_nil
    have hsame : { s.receiver with between := [] } = s.receiver := by rw [← hbetween]
    have hnot := hawait.not_starved
    have hstep := Link.call_of_ready handle [] common hconn harr
    rw [hsame] at hnot hstep
    have hempty := h.transportReceive_between handle common
    have hlt := h.position_lt
    rcases h.transportReceive handle common harr with ⟨hstarved, -⟩ | ⟨-, hstat, hadvanced⟩
    · exact absurd hstarved hnot
    · rw [hstat] at hstep
      rcases hadvanced with ⟨hagain, hmore, hhanded⟩ | hcomp
      · obtain ⟨n, s', hcalls, hkept, hcall⟩ := ih (message.length - (s.call handle [] common).receiver.position)
          (by rw [hstep]; dsimp only; omega) (by rw [hstep]; exact hagain) (by rw [hstep]; exact hempty)
          (by rw [hstep]; rfl) rfl
        refine ⟨n + 1, s', hcalls, ?_, hcall⟩
        rw [hkept, hstep]
        exact hhanded
      · refine ⟨0, s, rfl, rfl, ?_, ?_, ?_⟩
        · rw [Link.step, hstep]
          rfl
        · rw [Link.step, hstep]
          exact hempty
        · rw [Link.step, hstep]
          exact hcomp

/-- A message that fills the buffer, of a type that there is no case for. -/
def filler (payload : List UInt8) (h : payload.length = 8182) : Message where
  header := [0, 0, 0, 32, 0, 0, 0, 0, 0, 0]
  payload := payload
  header_length := by decide
  payload_length := h
  length_ge := by decide +kernel
  length_le := by decide +kernel

theorem handler_of_type_zero (connector : Connector) (effect : Handler) {handed : Handed} (h : handed.common.type = 0)
    (buffer : Memory UInt8) : handler connector effect handed buffer = buffer := by
  unfold handler
  rw [h]
  split <;> rfl

theorem Receiving.of_arrive {s : Link} (harr : s.receiver.arrived = []) (hbetween : s.receiver.between = [])
    (hpos : s.receiver.position = 0) (message : Message) :
    Receiving (s.arrive [message.bytes]).receiver s.receiver.buffer message [] [] := by
  refine .start hpos ?_ ?_ <;> simp [Link.arrive, harr, hbetween, bytes_ne_nil message]

theorem Completed.arrived_eq_nil {handle : Handler} {common : Common} {s s' : Receiver} {before : Memory UInt8}
    {message : Message} (h : Completed handle common s s' before message [] []) : s'.arrived = [] := by
  have hpcs := (forall_mem_append.mp h.pieces).1
  have hempty := h.pipe.symm
  rw [append_nil, flatten_append, append_eq_nil_iff] at hempty
  exact Pieces.eq_nil_of_flatten hpcs hempty.1

variable (message : Message)

/-- The events up to the call that hands over a message in one piece. -/
def inOnePiece (common : Common) (n : Nat) : List Event :=
  .arrive message.bytes :: List.replicate n (.call [] common)

theorem inOnePiece_pieces (common : Common) (n : Nat) :
    (inOnePiece message common n).flatMap Event.pieces = [message.bytes] := by
  have hcalls : (replicate n (Event.call [] common)).flatMap Event.pieces = [] := by
    induction n with
    | zero => rfl
    | succ n ih => rw [replicate_succ, flatMap_cons, ih]; rfl
  rw [inOnePiece, flatMap_cons, hcalls]
  rfl

theorem exists_inOnePiece {s : Link} (hconn : s.connected = true) (harr : s.receiver.arrived = [])
    (hbetween : s.receiver.between = []) (hpos : s.receiver.position = 0) (handle : Handler) (message : Message)
    (common : Common) :
    ∃ n s', (inOnePiece message common n).foldl (Link.step handle) s = s' ∧ s'.receiver.handed = s.receiver.handed ∧
      (s'.step handle (.call [] common)).connected = true ∧
      (s'.step handle (.call [] common)).receiver.between = [] ∧
      Completed handle common s'.receiver (s'.step handle (.call [] common)).receiver s.receiver.buffer message [] [] := by
  have hrecv := Receiving.of_arrive harr hbetween hpos message
  exact hrecv.exists_calls hbetween hconn handle common

theorem filler_length (payload : List UInt8) (h : payload.length = 8182) : (filler payload h).length = 8192 := by
  show peekCommonHeaderLength [0, 0, 0, 32, 0, 0, 0, 0, 0, 0] = 8192
  decide +kernel

theorem tail_filler (buffer : Memory UInt8) (message : Message) {tail : List UInt8}
    (h : (List.replicate (message.length - 10) 0 ++ tail).length = 8182) :
    Backend.tail (buffer.write 0 (filler _ h).bytes) message = tail := by
  have hge : 10 ≤ message.length := message.length_ge
  have hcont := contents_write_bytes buffer (filler _ h)
  have hnothing : Backend.tail buffer (filler _ h) = [] := by
    rw [← length_eq_zero_iff, tail_length, filler_length]
    rfl
  have hfront : ([0, 0, 0, 32, 0, 0, 0, 0, 0, 0] ++ replicate (message.length - 10) (0 : UInt8)).length =
      message.length := by
    rw [length_append, length_replicate, length_cons]
    simp
    omega
  have hbytes : (filler _ h).bytes =
      ([0, 0, 0, 32, 0, 0, 0, 0, 0, 0] ++ replicate (message.length - 10) (0 : UInt8)) ++ tail := by
    rw [append_assoc]
    rfl
  rw [Backend.tail, hcont, hnothing, append_nil, hbytes, drop_left' hfront]

variable (connector : Connector) (effect : Handler) (buffer : Memory UInt8) (message : Message)

theorem receives_of_tail (common : Common) {tail : List UInt8} (htail : tail.length = capacity - message.length) :
    ∃ handed, Receives (handler connector effect) buffer message common handed ∧
      readCommonHeader (message.bytes ++ tail) common = some (handed.common, handed.stream) := by
  have hge : 10 ≤ message.length := message.length_ge
  have hle : message.length ≤ 8192 := message.length_le
  have htail' : tail.length = 8192 - message.length := htail
  have hpay : (replicate (message.length - 10) 0 ++ tail).length = 8182 := by
    rw [length_append, length_replicate]
    omega
  -- The filler is handed over, and leaves the buffer as it is.
  obtain ⟨n, s, hrun, hhanded, hconn, hbetween, hcomp⟩ := exists_inOnePiece (s := .new buffer []) rfl rfl rfl rfl
    (handler connector effect) (filler _ hpay) common
  obtain ⟨handed, hover, happ, hbuffer⟩ := hcomp.handed
  have htype : handed.common.type = 0 := congrArg Delivery.type (handed_delivery hover)
  rw [handler_of_type_zero connector effect htype] at hbuffer
  -- Then the message is.
  obtain ⟨n', s', hrun', hhanded', -, -, hcomp'⟩ := exists_inOnePiece hconn hcomp.arrived_eq_nil hbetween
    hcomp.position (handler connector effect) message common
  obtain ⟨handed', hover', happ', -⟩ := hcomp'.handed
  have hevs : (inOnePiece (filler _ hpay) common n ++ .call [] common :: inOnePiece message common n').foldl
      (.step (handler connector effect)) (.new buffer []) = s' := by
    rw [foldl_append, hrun, foldl_cons, hrun']
  have hpcs : (inOnePiece (filler _ hpay) common n ++ Event.call [] common :: inOnePiece message common n' ++
      [Event.call [] common]).flatMap Event.pieces = [(filler _ hpay).bytes, message.bytes] := by
    simp only [flatMap_append, flatMap_cons, inOnePiece_pieces]
    rfl
  generalize inOnePiece (filler _ hpay) common n ++ Event.call [] common :: inOnePiece message common n' = events
    at hevs hpcs
  refine ⟨handed', ⟨[filler _ hpay], [], events, [], [], ?_, ?_, ?_, ?_⟩, ?_⟩
  · intro event hev piece hpiece
    have hmem := mem_flatMap.mpr ⟨event, hev, hpiece⟩
    rw [hpcs] at hmem
    rcases mem_pair.mp hmem with rfl | rfl
    · exact bytes_ne_nil _
    · exact bytes_ne_nil message
  · rw [hpcs]
    simp [stream]
  · rw [hevs, hhanded', happ, hhanded]
    rfl
  · rw [hevs, happ']
  · rw [hbuffer, handOver, contents_write_bytes, tail_filler] at hover'
    obtain ⟨⟨common', stream'⟩, hread, rfl⟩ := map_eq_some_iff.mp hover'
    exact hread

/-! ## What is handed over -/

namespace Message

def body : List UInt8 := if message.HasRect then message.payload.drop 16 else message.payload

def streamSize : Nat := if message.HasRect then 8166 else 8182

def common (rect : Rect) : Common :=
  ⟨message.field 0 2, .ofNat message.length, message.field 6 4, rect⟩

end Message

def rectOf (bytes : List UInt8) : Rect where
  x := .ofNat (ofBytes (bytes.take 4))
  y := .ofNat (ofBytes ((bytes.drop 4).take 4))
  width := .ofNat (ofBytes ((bytes.drop 8).take 4))
  height := .ofNat (ofBytes ((bytes.drop 12).take 4))

/-- The message as it is handed over in front of `tail`, to a common part that held `common`. -/
def handedOf (tail : List UInt8) (common : Common) : Handed :=
  if message.HasRect then ⟨message.common (rectOf (message.payload ++ tail)), (message.payload ++ tail).drop 16⟩
  else ⟨message.common common.rect, message.payload ++ tail⟩

theorem readCommonHeader_tail {tail : List UInt8} (htail : tail.length = capacity - message.length)
    (common : Common) :
    readCommonHeader (message.bytes ++ tail) common =
      some ((handedOf message tail common).common, (handedOf message tail common).stream) := by
  have hpay := payload_length message
  have hle : message.length ≤ 8192 := message.length_le
  have htail' : tail.length = 8192 - message.length := htail
  rw [readCommonHeader_bytes, handedOf]
  by_cases hrect : message.HasRect
  · have hsize : size rectSlots ≤ (message.payload ++ tail).length := by
      rw [length_append]
      show 16 ≤ _
      omega
    rw [if_pos hrect, if_pos hrect, readSlots_of_le _ hsize]
    simp only [rectOf]
    rw [← drop_drop (i := 4) (j := 8), ← drop_drop (i := 4) (j := 4)]
    rfl
  · rw [if_neg hrect, if_neg hrect]
    rfl

theorem receives_iff (common : Common) (handed : Handed) :
    Receives (handler connector effect) buffer message common handed ↔
      ∃ tail : List UInt8, tail.length = capacity - message.length ∧ handed = handedOf message tail common := by
  constructor
  · intro h
    obtain ⟨before, hover⟩ := handOver_of_receives h
    rw [handOver, contents_write_bytes, readCommonHeader_tail message (tail_length before message)] at hover
    exact ⟨Backend.tail before message, tail_length before message, (some.inj hover).symm⟩
  · rintro ⟨tail, htail, rfl⟩
    obtain ⟨handed, hrecv, hread⟩ := receives_of_tail connector effect buffer message common htail
    rw [readCommonHeader_tail message htail] at hread
    have hcom := congrArg Prod.fst (some.inj hread)
    have hstrm := congrArg Prod.snd (some.inj hread)
    have hsame : handed = handedOf message tail common := by
      cases handed
      cases hcom
      cases hstrm
      rfl
    rwa [← hsame]

/-! ## What a tail changes -/

namespace Message

variable (message : Message)

theorem body_length_le : message.body.length ≤ message.streamSize := by
  have hpay := payload_length message
  have hle : message.length ≤ 8192 := message.length_le
  unfold body streamSize
  split
  next =>
    rw [length_drop]
    omega
  next => omega

theorem handedOf_common_type (tail : List UInt8) (common : Common) :
    (handedOf message tail common).common.type = message.field 0 2 := by
  unfold handedOf
  split <;> rfl

theorem handedOf_stream (tail : List UInt8) (common : Common) :
    (handedOf message tail common).stream =
      message.body ++ tail.drop (if message.HasRect then 16 - message.payload.length else 0) := by
  unfold handedOf body
  split
  next => rw [drop_append]
  next => rfl

theorem handedOf_stream_length {tail : List UInt8} (htail : tail.length = capacity - message.length)
    (common : Common) : (handedOf message tail common).stream.length = message.streamSize := by
  have hpay := payload_length message
  have hle : message.length ≤ 8192 := message.length_le
  have htail' : tail.length = 8192 - message.length := htail
  unfold handedOf streamSize
  split
  next =>
    rw [length_drop, length_append]
    omega
  next =>
    rw [length_append]
    omega

theorem exists_tail {rest : List UInt8} (h : (message.body ++ rest).length = message.streamSize) :
    ∃ tail : List UInt8, tail.length = capacity - message.length ∧
      ∀ common, (handedOf message tail common).stream = message.body ++ rest := by
  have hpay := payload_length message
  have hle : message.length ≤ 8192 := message.length_le
  refine ⟨replicate (if message.HasRect then 16 - message.payload.length else 0) 0 ++ rest, ?_, ?_⟩
  · rw [length_append] at h ⊢
    rw [length_replicate]
    show _ = 8192 - message.length
    unfold body streamSize at h
    split
    next hrect =>
      rw [if_pos hrect, if_pos hrect, length_drop] at h
      omega
    next hrect =>
      rw [if_neg hrect, if_neg hrect] at h
      omega
  · intro common
    rw [handedOf_stream, drop_left' (length_replicate)]

end Message

theorem numbers_rectOf (bytes : List UInt8) :
    numbers [4, 4, 4, 4] bytes =
      [(rectOf bytes).x, (rectOf bytes).y, (rectOf bytes).width, (rectOf bytes).height] := by
  simp [numbers, rectOf]

theorem rectOf_append {bytes : List UInt8} (h : 16 ≤ bytes.length) (tail : List UInt8) :
    rectOf (bytes ++ tail) = rectOf bytes := by
  have hnums := numbers_append (show [4, 4, 4, 4].sum ≤ bytes.length from h) tail
  rw [numbers_rectOf, numbers_rectOf] at hnums
  simp only [cons.injEq] at hnums
  obtain ⟨hx, hy, hwid, hhgt, -⟩ := hnums
  cases hrect : rectOf bytes
  cases hrect' : rectOf (bytes ++ tail)
  simp_all

namespace Message

variable (message : Message)

theorem handedOf_common_of_inside (h : message.HasRect) (hins : 16 ≤ message.payload.length) (tail : List UInt8)
    (common : Common) : (handedOf message tail common).common = message.common (rectOf message.payload) := by
  rw [handedOf, if_pos h, rectOf_append hins]

theorem handedOf_common_of_not_hasRect (h : ¬message.HasRect) (tail : List UInt8) (common : Common) :
    (handedOf message tail common).common = message.common common.rect := by
  rw [handedOf, if_neg h]

theorem inside_of_handedOf_common (h : message.HasRect)
    (hsame : ∀ (common : Common) (tail tail' : List UInt8), tail.length = capacity - message.length →
      tail'.length = capacity - message.length →
        (handedOf message tail common).common = (handedOf message tail' common).common) :
    16 ≤ message.payload.length := by
  have hpay := payload_length message
  have hle : message.length ≤ 8192 := message.length_le
  have hbody : message.payload.length ≤ 8182 := by omega
  have hcnt : 8182 - message.payload.length = capacity - message.length := by
    show _ = 8192 - message.length
    omega
  have hrect := hsame default (replicate (8182 - message.payload.length) 0)
    (replicate (8182 - message.payload.length) 0xFF) (by rw [length_replicate, hcnt])
    (by rw [length_replicate, hcnt])
  rw [handedOf, if_pos h, handedOf, if_pos h] at hrect
  have hrects : rectOf (padded message.payload 8182 0) = rectOf (padded message.payload 8182 0xFF) :=
    congrArg Common.rect hrect
  have hnums : numbers [4, 4, 4, 4] (padded message.payload 8182 0) =
      numbers [4, 4, 4, 4] (padded message.payload 8182 0xFF) := by
    rw [numbers_rectOf, numbers_rectOf, hrects]
  exact le_of_first_numbers_padded [4, 4, 4, 4] (by decide) (by decide) hbody (by decide) hnums

end Message

/-! ## One message in two runs -/

section

variable {β : Type} (message : Message) (receive : List UInt8 → β → Option β) (callback : Common → β → Option Callback)

def outcome (common : Common) (memory : β) (tail : List UInt8) : Option (Option Callback) :=
  (receive (handedOf message tail common).stream memory).map (callback (handedOf message tail common).common)

/-- It is the same in front of any bytes, if the memory is the same. -/
def SameBytes : Prop :=
  ∀ common memory tail tail', tail.length = capacity - message.length → tail'.length = capacity - message.length →
    ∃ result, outcome message receive callback common memory tail = some result ∧
      outcome message receive callback common memory tail' = some result

def SameMemory : Prop :=
  ∀ common common' memory memory' tail tail', tail.length = capacity - message.length →
    tail'.length = capacity - message.length →
      ∃ result, outcome message receive callback common memory tail = some result ∧
        outcome message receive callback common' memory' tail' = some result

end

section

variable {β : Type} {message : Message} {receive : List UInt8 → β → Option β} {callback : Common → β → Option Callback}

theorem outcome_eq_some {common : Common} {memory : β} {tail : List UInt8} {result : Option Callback}
    (h : outcome message receive callback common memory tail = some result) :
    ∃ msg, receive (handedOf message tail common).stream memory = some msg ∧
      callback (handedOf message tail common).common msg = result :=
  map_eq_some_iff.mp h

theorem SameMemory.sameBytes (h : SameMemory message receive callback) : SameBytes message receive callback :=
  fun common memory => h common common memory memory

theorem receive_of_outcome {common common' : Common} {memory memory' : β}
    (hinj : ∀ common common' msg msg', callback common msg = callback common' msg' → msg = msg')
    (h : ∀ tail tail', tail.length = capacity - message.length → tail'.length = capacity - message.length →
      ∃ result, outcome message receive callback common memory tail = some result ∧
        outcome message receive callback common' memory' tail' = some result)
    (rest rest' : List UInt8) (hrest : (message.body ++ rest).length = message.streamSize)
    (hrest' : (message.body ++ rest').length = message.streamSize) :
    ∃ msg, receive (message.body ++ rest) memory = some msg ∧ receive (message.body ++ rest') memory' = some msg := by
  obtain ⟨tail, htail, hstrm⟩ := message.exists_tail hrest
  obtain ⟨tail', htail', hstrm'⟩ := message.exists_tail hrest'
  obtain ⟨result, hres, hres'⟩ := h tail tail' htail htail'
  obtain ⟨msg, hmsg, hcb⟩ := outcome_eq_some hres
  obtain ⟨msg', hmsg', hcb'⟩ := outcome_eq_some hres'
  rw [hstrm] at hmsg
  rw [hstrm'] at hmsg'
  obtain rfl := hinj _ _ _ _ (hcb.trans hcb'.symm)
  exact ⟨msg, hmsg, hmsg'⟩

theorem outcome_of_receive {common common' : Common} {memory memory' : β}
    (h : ∀ rest rest', (message.body ++ rest).length = message.streamSize →
      (message.body ++ rest').length = message.streamSize →
      ∃ msg, receive (message.body ++ rest) memory = some msg ∧ receive (message.body ++ rest') memory' = some msg)
    {tail tail' : List UInt8} (htail : tail.length = capacity - message.length)
    (htail' : tail'.length = capacity - message.length)
    (hcb : ∀ msg, callback (handedOf message tail common).common msg =
      callback (handedOf message tail' common').common msg) :
    ∃ result, outcome message receive callback common memory tail = some result ∧
      outcome message receive callback common' memory' tail' = some result := by
  have hlen := message.handedOf_stream_length htail common
  have hlen' := message.handedOf_stream_length htail' common'
  rw [message.handedOf_stream] at hlen hlen'
  obtain ⟨msg, hmsg, hmsg'⟩ := h _ _ hlen hlen'
  rw [← message.handedOf_stream _ common] at hmsg
  rw [← message.handedOf_stream _ common'] at hmsg'
  refine ⟨callback (handedOf message tail common).common msg, ?_, ?_⟩
  · rw [outcome, hmsg, map_some]
  · rw [outcome, hmsg', map_some, hcb]

section

variable (hinj : ∀ common common' msg msg', callback common msg = callback common' msg' → msg = msg')

include hinj

theorem SameBytes.determined
    (h : SameBytes message receive callback) : Determined receive message.body message.streamSize :=
  fun memory => receive_of_outcome hinj (h default memory)

theorem SameMemory.independent
    (h : SameMemory message receive callback) : Independent receive message.body message.streamSize :=
  fun memory memory' => receive_of_outcome hinj (h default default memory memory')

end

section

variable (hinj : ∀ common common' msg msg', callback common msg = callback common' msg' → common = common' ∧ msg = msg')
  [Inhabited β]

include hinj

theorem sameBytes_struct_iff :
    SameBytes message receive callback ↔
      (message.HasRect → 16 ≤ message.payload.length) ∧ Determined receive message.body message.streamSize := by
  constructor
  · intro h
    refine ⟨fun hrect => ?_, h.determined fun _ _ _ _ hsame => (hinj _ _ _ _ hsame).2⟩
    apply message.inside_of_handedOf_common hrect
    intro common tail tail' htail htail'
    obtain ⟨result, hres, hres'⟩ := h common default tail tail' htail htail'
    obtain ⟨msg, -, hcb⟩ := outcome_eq_some hres
    obtain ⟨msg', -, hcb'⟩ := outcome_eq_some hres'
    exact (hinj _ _ _ _ (hcb.trans hcb'.symm)).1
  · rintro ⟨hins, hdetermined⟩ common memory tail tail' htail htail'
    apply outcome_of_receive (hdetermined memory) htail htail'
    intro msg
    by_cases hrect : message.HasRect
    · rw [message.handedOf_common_of_inside hrect (hins hrect), message.handedOf_common_of_inside hrect (hins hrect)]
    · rw [message.handedOf_common_of_not_hasRect hrect, message.handedOf_common_of_not_hasRect hrect]

theorem sameMemory_struct_iff :
    SameMemory message receive callback ↔
      (message.HasRect ∧ 16 ≤ message.payload.length) ∧ Independent receive message.body message.streamSize := by
  constructor
  · intro h
    have hbytes := (sameBytes_struct_iff hinj).mp h.sameBytes
    have hrect : message.HasRect := by
      by_contra hnot
      obtain ⟨tail, htail⟩ : ∃ tail : List UInt8, tail.length = capacity - message.length :=
        ⟨replicate _ 0, length_replicate⟩
      obtain ⟨result, hres, hres'⟩ := h ⟨0, 0, 0, ⟨0, 0, 0, 0⟩⟩ ⟨0, 0, 0, ⟨1, 0, 0, 0⟩⟩ default default tail tail
        htail htail
      obtain ⟨msg, -, hcb⟩ := outcome_eq_some hres
      obtain ⟨msg', -, hcb'⟩ := outcome_eq_some hres'
      have hcom := (hinj _ _ _ _ (hcb.trans hcb'.symm)).1
      rw [message.handedOf_common_of_not_hasRect hnot, message.handedOf_common_of_not_hasRect hnot] at hcom
      have hx : (0 : UInt32) = 1 := congrArg (fun common => common.rect.x) hcom
      exact absurd hx (by decide)
    exact ⟨⟨hrect, hbytes.1 hrect⟩, h.independent fun _ _ _ _ hsame => (hinj _ _ _ _ hsame).2⟩
  · rintro ⟨⟨hrect, hins⟩, hindependent⟩ common common' memory memory' tail tail' htail htail'
    apply outcome_of_receive (hindependent memory memory') htail htail'
    intro msg
    rw [message.handedOf_common_of_inside hrect hins, message.handedOf_common_of_inside hrect hins]

end

theorem same_values_iff (hcom : ∀ common common' msg, callback common msg = callback common' msg)
    (hinj : ∀ common msg msg', callback common msg = callback common msg' → msg = msg') :
    (SameBytes message receive callback ↔ Determined receive message.body message.streamSize) ∧
      (SameMemory message receive callback ↔ Independent receive message.body message.streamSize) := by
  have hinj' (common common' : Common) (msg msg' : β) (hsame : callback common msg = callback common' msg') : msg = msg' :=
    hinj common _ _ (hsame.trans (hcom common' common msg'))
  refine ⟨⟨fun h => h.determined hinj', fun h common memory tail tail' htail htail' => ?_⟩,
    ⟨fun h => h.independent hinj', fun h common common' memory memory' tail tail' htail htail' => ?_⟩⟩
  · exact outcome_of_receive (h memory) htail htail' fun msg => hcom _ _ msg
  · exact outcome_of_receive (h memory memory') htail htail' fun msg => hcom _ _ msg

theorem sameMemory_of_none (hnone : ∀ common msg, callback common msg = none)
    (hrcv : ∀ stream memory, stream.length = message.streamSize → (receive stream memory).isSome) :
    SameMemory message receive callback := by
  have hsome {common : Common} {memory : β} {tail : List UInt8} (htail : tail.length = capacity - message.length) :
      outcome message receive callback common memory tail = some none := by
    obtain ⟨msg, hmsg⟩ := isSome_iff_exists.mp
      (hrcv _ memory (message.handedOf_stream_length htail common))
    rw [outcome, hmsg, map_some, hnone]
  intro common common' memory memory' tail tail' htail htail'
  exact ⟨none, hsome htail, hsome htail'⟩

end

/-! ## The callbacks of a connector -/

instance (kind : ServerMessage) : Inhabited kind.Body := by
  cases kind <;> unfold ServerMessage.Body <;> infer_instance

instance (kind : ClientMessage) : Inhabited kind.Body := by
  cases kind <;> unfold ClientMessage.Body <;> infer_instance

namespace Stack

def ofServer (kind : ServerMessage) (memory : kind.Body) : Stack where
  server := Function.update (fun _ => default) kind memory
  client := fun _ => default

def ofClient (kind : ClientMessage) (memory : kind.Body) : Stack where
  server := fun _ => default
  client := Function.update (fun _ => default) kind memory

theorem server_surjective (kind : ServerMessage) : Function.Surjective fun stack : Stack => stack.server kind :=
  fun memory => ⟨ofServer kind memory, by simp [ofServer]⟩

theorem client_surjective (kind : ClientMessage) : Function.Surjective fun stack : Stack => stack.client kind :=
  fun memory => ⟨ofClient kind memory, by simp [ofClient]⟩

end Stack

theorem Message.streamSize_bounds : 60 ≤ message.streamSize ∧ message.streamSize ≤ capacity := by
  have hcap : capacity = 8192 := rfl
  unfold streamSize
  split <;> omega

namespace Connector

variable (connector : Connector) (message : Message)

/-- The callback is the same in front of any bytes, if the stack is the same. -/
def SameBytes : Prop :=
  ∀ stack common tail tail', tail.length = capacity - message.length → tail'.length = capacity - message.length →
    ∃ result, receiveMessage connector stack (handedOf message tail common) = some result ∧
      receiveMessage connector stack (handedOf message tail' common) = some result

def SameMemory : Prop :=
  ∀ stack stack' common common' tail tail', tail.length = capacity - message.length →
    tail'.length = capacity - message.length →
      ∃ result, receiveMessage connector stack (handedOf message tail common) = some result ∧
        receiveMessage connector stack' (handedOf message tail' common') = some result

/-- Everything that the callback gets of the buffer is in the message. -/
def Within : Prop :=
  if connector.serverMode then
    match ClientMessage.ofType (message.field 0 2) with
    | none => True
    | some .capabilities =>
      connector.capabilities = true → (message.HasRect → 16 ≤ message.payload.length) ∧ 28 ≤ message.body.length
    | some kind => kind.need ≤ message.body.length
  else
    match ServerMessage.ofType (message.field 0 2) with
    | none => True
    | some kind =>
      (message.HasRect → 16 ≤ message.payload.length) ∧ kind.Within message.body message.streamSize

def Whole : Prop :=
  if connector.serverMode then
    match ClientMessage.ofType (message.field 0 2) with
    | none => True
    | some .capabilities =>
      connector.capabilities = true → (message.HasRect ∧ 16 ≤ message.payload.length) ∧ 28 ≤ message.body.length
    | some kind => kind.need ≤ message.body.length
  else
    match ServerMessage.ofType (message.field 0 2) with
    | none => True
    | some kind => (message.HasRect ∧ 16 ≤ message.payload.length) ∧ kind.Whole message.body

variable {connector message}

theorem receiveMessage_server {kind : ServerMessage} (hmode : connector.serverMode = false)
    (hkind : ServerMessage.ofType (message.field 0 2) = some kind) (stack : Stack) (common : Common)
    (tail : List UInt8) :
    receiveMessage connector stack (handedOf message tail common) =
      outcome message kind.receive (fun common msg => some (.server kind common msg)) common (stack.server kind) tail := by
  simp [receiveMessage, hmode, receiveServerMessage, message.handedOf_common_type, hkind, outcome]

variable {kind : ClientMessage}

theorem receiveMessage_client (hmode : connector.serverMode = true)
    (hkind : ClientMessage.ofType (message.field 0 2) = some kind) (stack : Stack) (common : Common)
    (tail : List UInt8) :
    receiveMessage connector stack (handedOf message tail common) =
      outcome message kind.receive (fun common msg => clientCallback connector common kind msg) common
        (stack.client kind) tail := by
  simp [receiveMessage, hmode, receiveClientMessage, message.handedOf_common_type, hkind, outcome,
    ClientMessage.receive, Function.comp_def]

theorem sameMemory_of_no_case (h : if connector.serverMode then ClientMessage.ofType (message.field 0 2) = none
      else ServerMessage.ofType (message.field 0 2) = none) : connector.SameMemory message := by
  have hnone (stack : Stack) (common : Common) (tail : List UInt8) :
      receiveMessage connector stack (handedOf message tail common) = some none := by
    unfold receiveMessage
    split at h
    next hmode =>
      rw [if_pos hmode, receiveClientMessage, message.handedOf_common_type, h]
    next hmode =>
      rw [if_neg hmode, receiveServerMessage, message.handedOf_common_type, h]
  intro stack stack' common common' tail tail' _ _
  exact ⟨none, hnone .., hnone ..⟩

theorem SameMemory.sameBytes (h : connector.SameMemory message) : connector.SameBytes message :=
  fun stack common => h stack stack common common

section

variable {β : Type} {receive : List UInt8 → β → Option β} {callback : Common → β → Option Callback}
  {memoryOf : Stack → β} (hsurj : Function.Surjective memoryOf) (hreceive : ∀ stack common tail,
    receiveMessage connector stack (handedOf message tail common) =
      outcome message receive callback common (memoryOf stack) tail)

include hsurj hreceive

theorem sameBytes_iff_outcome : connector.SameBytes message ↔ Backend.SameBytes message receive callback := by
  simp only [SameBytes, hreceive, hsurj.forall, Backend.SameBytes]
  exact forall_comm

theorem sameMemory_iff_outcome : connector.SameMemory message ↔ Backend.SameMemory message receive callback := by
  simp only [SameMemory, hreceive, Backend.SameMemory, hsurj.forall]
  exact ⟨fun h common common' stack stack' => h stack stack' common common',
    fun h stack stack' common common' => h common common' stack stack'⟩

end

theorem clientCallback_common (h : kind ≠ .capabilities) (common common' : Common)
    (msg : kind.Body) : clientCallback connector common kind msg = clientCallback connector common' kind msg := by
  cases kind <;> first | rfl | exact absurd rfl h

theorem clientCallback_inj (h : kind ≠ .capabilities) {common : Common} {msg msg' : kind.Body}
    (hsame : clientCallback connector common kind msg = clientCallback connector common kind msg') : msg = msg' := by
  cases kind with
  | capabilities => exact absurd rfl h
  | vblankEvent => rfl
  | _ =>
    cases msg
    cases msg'
    cases hsame
    rfl

theorem clientCallback_capabilities_inj (hcaps : connector.capabilities = true) {common common' : Common}
    {msg msg' : ClientMessage.Body .capabilities}
    (hsame : clientCallback connector common .capabilities msg = clientCallback connector common' .capabilities msg') :
    common = common' ∧ msg = msg' := by
  have hcb (common : Common) (msg : ClientMessage.Body .capabilities) :
      clientCallback connector common .capabilities msg = some (.capabilities common msg) := if_pos hcaps
  rw [hcb, hcb] at hsame
  cases hsame
  exact ⟨rfl, rfl⟩

theorem server_inj {kind : ServerMessage} {common common' : Common} {msg msg' : kind.Body}
    (hsame : some (Callback.server kind common msg) = some (Callback.server kind common' msg')) :
    common = common' ∧ msg = msg' := by
  cases hsame
  exact ⟨rfl, rfl⟩

theorem sameMemory_of_no_capabilities (hcaps : ¬connector.capabilities = true) :
    Backend.SameMemory message (ClientMessage.receive .capabilities)
      (fun common msg => clientCallback connector common .capabilities msg) := by
  refine sameMemory_of_none (fun common msg => if_neg hcaps) ?_
  intro stream memory hstrm
  have hsize := message.streamSize_bounds.1
  have hread : ClientMessage.receive .capabilities stream memory = some (Capabilities.record.assigned stream memory) :=
    @receiveRecord_of_le _ Capabilities.record _ (show 28 ≤ stream.length by omega) memory
  rw [hread]
  rfl

theorem same_iff : (connector.SameBytes message ↔ connector.Within message) ∧
    (connector.SameMemory message ↔ connector.Whole message) := by
  have hbody := message.body_length_le
  obtain ⟨hsize, hcap⟩ := message.streamSize_bounds
  have htrue (h : connector.SameMemory message) {P Q : Prop} (hP : P) (hQ : Q) :
      (connector.SameBytes message ↔ P) ∧ (connector.SameMemory message ↔ Q) :=
    ⟨iff_of_true h.sameBytes hP, iff_of_true h hQ⟩
  unfold Within Whole
  cases hmode : connector.serverMode with
  | true =>
    cases hkind : ClientMessage.ofType (message.field 0 2) with
    | none => exact htrue (sameMemory_of_no_case (by rwa [hmode])) trivial trivial
    | some kind =>
      obtain ⟨hdetermined, hindependent⟩ := kind.extent_iff hbody (by omega)
      have hreceive := receiveMessage_client hmode hkind
      rw [sameBytes_iff_outcome (Stack.client_surjective _) hreceive,
        sameMemory_iff_outcome (Stack.client_surjective _) hreceive]
      by_cases hkind : kind = .capabilities
      · subst hkind
        by_cases hcaps : connector.capabilities = true
        · rw [sameBytes_struct_iff fun _ _ _ _ => clientCallback_capabilities_inj hcaps,
            sameMemory_struct_iff fun _ _ _ _ => clientCallback_capabilities_inj hcaps, hdetermined, hindependent]
          exact ⟨⟨fun h _ => h, fun h => h hcaps⟩, ⟨fun h _ => h, fun h => h hcaps⟩⟩
        · have hsame := @sameMemory_of_no_capabilities connector message hcaps
          exact ⟨iff_of_true hsame.sameBytes fun h => absurd h hcaps, iff_of_true hsame fun h => absurd h hcaps⟩
      · obtain ⟨hbytes, hmemory⟩ := @same_values_iff _ message kind.receive _
          (fun common common' => clientCallback_common hkind common common') fun _ _ _ => clientCallback_inj hkind
        rw [hbytes, hmemory, hdetermined, hindependent]
        cases kind <;> first | exact absurd rfl hkind | exact ⟨.rfl, .rfl⟩
  | false =>
    cases hkind : ServerMessage.ofType (message.field 0 2) with
    | none => exact htrue (sameMemory_of_no_case (by rwa [hmode])) trivial trivial
    | some kind =>
      obtain ⟨hdetermined, hindependent⟩ := kind.extent_iff hbody hsize hcap
      have hreceive := receiveMessage_server hmode hkind
      rw [sameBytes_iff_outcome (Stack.server_surjective _) hreceive, sameBytes_struct_iff fun _ _ _ _ => server_inj,
        sameMemory_iff_outcome (Stack.server_surjective _) hreceive, sameMemory_struct_iff fun _ _ _ _ => server_inj,
        hdetermined, hindependent]
      exact ⟨.rfl, .rfl⟩

end Connector

/-- Two runs make the same callback for a message, whatever came before it. With the same memory on the stack that is so
if and only if the callback gets nothing of the buffer that is not in the message; with any memory, if and only if it
gets nothing at all that is not in the message. -/
theorem callbacks_independent_iff :
    ((∀ stack common handed handed', Receives (handler connector effect) buffer message common handed →
        Receives (handler connector effect) buffer message common handed' →
          ∃ callback, receiveMessage connector stack handed = some callback ∧
            receiveMessage connector stack handed' = some callback) ↔ connector.Within message) ∧
      ((∀ stack stack' common common' handed handed', Receives (handler connector effect) buffer message common handed →
        Receives (handler connector effect) buffer message common' handed' →
          ∃ callback, receiveMessage connector stack handed = some callback ∧
            receiveMessage connector stack' handed' = some callback) ↔ connector.Whole message) := by
  rw [← Connector.same_iff.1, ← Connector.same_iff.2]
  simp only [receives_iff]
  constructor
  · constructor
    · intro h stack common tail tail' htail htail'
      exact h stack common _ _ ⟨tail, htail, rfl⟩ ⟨tail', htail', rfl⟩
    · rintro h stack common handed handed' ⟨tail, htail, rfl⟩ ⟨tail', htail', rfl⟩
      exact h stack common tail tail' htail htail'
  · constructor
    · intro h stack stack' common common' tail tail' htail htail'
      exact h stack stack' common common' _ _ ⟨tail, htail, rfl⟩ ⟨tail', htail', rfl⟩
    · rintro h stack stack' common common' handed handed' ⟨tail, htail, rfl⟩ ⟨tail', htail', rfl⟩
      exact h stack stack' common common' tail tail' htail htail'

namespace Sample

/-- `RDS_SERVER_WINDOW_DELETE` without its body. -/
def bareWindowDelete : Message where
  header := [22, 0, 10, 0, 0, 0, 0, 0, 0, 0]
  payload := []
  header_length := by decide
  payload_length := by decide +kernel
  length_ge := by decide +kernel
  length_le := by decide +kernel

def client : Connector := ⟨false, false, false⟩

end Sample

theorem receiveMessage_bareWindowDelete {tail : List UInt8} (h : 4 ≤ tail.length) (stack : Stack) (common : Common) :
    receiveMessage Sample.client stack (handedOf Sample.bareWindowDelete tail common) =
      some (some (.server .windowDelete (Sample.bareWindowDelete.common common.rect)
        ⟨.ofNat (ofBytes (tail.take 4))⟩)) := by
  have hkind : ServerMessage.ofType (Sample.bareWindowDelete.field 0 2) = some .windowDelete := by decide +kernel
  have hrect : ¬Sample.bareWindowDelete.HasRect := by decide +kernel
  have hhanded : handedOf Sample.bareWindowDelete tail common =
      ⟨Sample.bareWindowDelete.common common.rect, tail⟩ := if_neg hrect
  have hrcv := @receiveRecord_of_le _ WindowDelete.record tail h (stack.server .windowDelete)
  rw [Connector.receiveMessage_server rfl hkind, outcome, hhanded]
  exact congrArg (Option.map _) hrcv

/-- A window id that another message has left behind. -/
theorem stale_window_deleted :
    ¬∀ stack common handed handed',
      Receives (handler Sample.client fun _ buffer => buffer) (fun _ => 0) Sample.bareWindowDelete common handed →
        Receives (handler Sample.client fun _ buffer => buffer) (fun _ => 0) Sample.bareWindowDelete common handed' →
          receiveMessage Sample.client stack handed = receiveMessage Sample.client stack handed' := by
  intro h
  have hlen : Sample.bareWindowDelete.length = 10 := by decide +kernel
  have hreplicate (byte : UInt8) :
      (replicate 8182 byte).length = capacity - Sample.bareWindowDelete.length := by
    rw [length_replicate, hlen]
    rfl
  have hsame := h ⟨fun _ => default, fun _ => default⟩ default _ _
    ((receives_iff ..).mpr ⟨_, hreplicate 0, rfl⟩) ((receives_iff ..).mpr ⟨_, hreplicate 1, rfl⟩)
  have hle (byte : UInt8) : 4 ≤ (replicate 8182 byte).length := by
    rw [length_replicate]
    decide
  rw [receiveMessage_bareWindowDelete (hle 0), receiveMessage_bareWindowDelete (hle 1)] at hsame
  have hid := congrArg WindowDelete.windowId (Connector.server_inj (some.inj hsame)).2
  rw [take_replicate, take_replicate] at hid
  exact absurd hid (by decide +kernel)

end FreeRDS.Backend
