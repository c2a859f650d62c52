import FreeRDS.Core.Notifications
import FreeRDS.Lib.Pieces
import FreeRDS.Rpc.Reader

/-! # Frames from the manager

`tp_npipe_read` calls `ReadFile` once and takes less than what it asked for as a failure, so that the main loop of
pbrpc opens the pipe anew. A byte stream does not keep to the frames that were written to it: one `ReadFile` may
return a part of a header or of a payload although the manager is there and the rest is on its way.
-/

namespace FreeRDS.Pbrpc

open Lib FrameFormat Rpc FreeRDS.Core

/-- What the source leaves to the platform, for a payload of no bytes. -/
structure Platform where
  /-- `malloc(0)` is not `NULL`. -/
  mallocZero : Bool
  /-- `ReadFile` of no bytes succeeds. -/
  readsNothing : Bool
  deriving DecidableEq, Repr

/-- `tp_npipe_read`: the bytes, and what is left on the pipe. -/
def tpNpipeRead (platform : Platform) (size : Nat) (pieces : List (List UInt8)) :
    Option (List UInt8 × List (List UInt8)) :=
  if size = 0 then if platform.readsNothing then some ([], pieces) else none
  else
    let (data, left) := Pieces.read size pieces
    if data.length < size then none else some (data, left)

/-- The second half of `pbrpc_receive_message`: the payload is read into memory of its size. -/
def receivePayload (platform : Platform) (size : Nat) (pieces : List (List UInt8)) :
    Option (List UInt8 × List (List UInt8)) :=
  if size = 0 ∧ platform.mallocZero = false then none else tpNpipeRead platform size pieces

/-- `pbrpc_receive_message`. -/
def receiveMessage (platform : Platform) (pieces : List (List UInt8)) :
    Option (Received × List (List UInt8)) := do
  let (header, pieces) ← tpNpipeRead platform Rpc.headerSize pieces
  let (payload, pieces) ← receivePayload platform (MsgHeader.ofBytes header).msgSize.toNat pieces
  pure (⟨header, payload⟩, pieces)

structure Turn where
  /-- The memory of `cb` happens to be zero. -/
  cbIsNull : Bool
  /-- Both writes of `pbrpc_send_response` succeed. -/
  replies : Bool
  deriving DecidableEq, Repr

inductive Outcome
  | running | reconnect | crashed
  deriving DecidableEq, Repr

/-- The status of `pbrpc_process_response` is not negative; that of `pbrpc_process_request` is if it cannot send a
response of its own. -/
def processPacket (turn : Turn) (msgType : UInt32) : Outcome :=
  if isResponseId msgType then .running
  else
    match callback msgType turn.cbIsNull with
    | .icp .heartbeat | .null => if turn.replies then .running else .reconnect
    | .icp _ => .running
    | .wild => .crashed

structure Reception where
  pieces : List (List UInt8)
  processed : List Received
  outcome : Outcome
  deriving DecidableEq

namespace Reception

def new (pieces : List (List UInt8)) : Reception where
  pieces := pieces
  processed := []
  outcome := .running

/-- A turn of `pbrpc_main_loop` on a readable pipe, with `pbrpc_process_message_in`. -/
def turn (platform : Platform) (s : Reception) (turn : Turn) : Reception :=
  if s.outcome = .running ∧ s.pieces ≠ [] then
    match receiveMessage platform s.pieces with
    | none => { s with outcome := .reconnect }
    | some (received, pieces) =>
      { pieces := pieces
        processed := s.processed ++ [received]
        outcome := processPacket turn (MsgHeader.ofBytes received.header).msgType }
  else s

/-- The frames have been processed, and the pipe has not been opened anew. -/
structure Receives (s : Reception) (frames : List fdsapi.Frame) : Prop where
  processed : s.processed = frames.map Received.ofFrame
  outcome : s.outcome = .running

end Reception

/-- What the processing of a frame takes: a response of `pbrpc_process_request` itself can be sent, and for a type
that it does not know `cb` happens to be `NULL`. -/
def Turn.Handles (turn : Turn) (msgType : UInt32) : Prop :=
  isResponseId msgType = false →
    match RequestKind.ofMsgType msgType with
    | some .heartbeat => turn.replies = true
    | some .switchServiceEndpoint | some .logoffUser | some .channelEndpointOpen => True
    | none => turn.cbIsNull = true ∧ turn.replies = true

def Platform.Takes (platform : Platform) (payload : List UInt8) : Prop :=
  payload = [] → platform.mallocZero = true ∧ platform.readsNothing = true

theorem processPacket_eq_running_iff (turn : Turn) (msgType : UInt32) :
    processPacket turn msgType = .running ↔ turn.Handles msgType := by
  unfold processPacket Turn.Handles callback
  cases isResponseId msgType with
  | true => simp
  | false =>
    cases RequestKind.ofMsgType msgType with
    | none => cases turn.cbIsNull <;> cases turn.replies <;> simp
    | some kind => cases kind <;> cases turn.replies <;> simp

/-! ## One part of a frame -/

variable {pieces : List (List UInt8)} {part rest : List UInt8}

/-- What is left behind the first `n` bytes. -/
structure Behind (n : Nat) (pieces : List (List UInt8)) (rest : List UInt8) (left : List (List UInt8)) : Prop where
  flatten : left.flatten = rest
  ne_nil : ∀ piece ∈ left, piece ≠ []
  cut : ∀ m, 0 < m → (Pieces.Cut left m ↔ Pieces.Cut pieces (n + m))

theorem Behind.trans {n m : Nat} {rest' : List UInt8} {middle left : List (List UInt8)}
    (h : Behind n pieces rest' middle) (h' : Behind m middle rest left) : Behind (n + m) pieces rest left where
  flatten := h'.flatten
  ne_nil := h'.ne_nil
  cut k hk := by rw [h'.cut k hk, h.cut (m + k) (by omega), Nat.add_assoc]

/-- No piece ends within the `size` bytes behind the first `start` bytes. -/
def WholeAt (pieces : List (List UInt8)) (start size : Nat) : Prop :=
  ∀ n, Pieces.Cut pieces (start + n) → ¬(0 < n ∧ n < size)

theorem Behind.wholeAt_iff {n : Nat} {left : List (List UInt8)} (h : Behind n pieces rest left) (size : Nat) :
    WholeAt left 0 size ↔ WholeAt pieces n size := by
  simp only [WholeAt, Nat.zero_add]
  constructor
  · intro hwhole m hcut hin
    exact hwhole m ((h.cut m hin.1).mpr hcut) hin
  · intro hwhole m hcut hin
    exact hwhole m ((h.cut m hin.1).mp hcut) hin

section

variable (platform : Platform) (hpart : part ≠ []) (hpcs : ∀ piece ∈ pieces, piece ≠ [])
  (h : pieces.flatten = part ++ rest)

include hpart hpcs h

theorem tpNpipeRead_of_whole (hwhole : WholeAt pieces 0 part.length) :
    ∃ left, tpNpipeRead platform part.length pieces = some (part, left) ∧
      Behind part.length pieces rest left := by
  have hpos : part.length ≠ 0 := by simpa using hpart
  have hle : part.length ≤ (Pieces.read part.length pieces).1.length := by
    apply (Pieces.read_whole_iff hpart hpcs h).mpr
    simpa [WholeAt] using hwhole
  have hread := Pieces.Whole.of_read hpart h hle
  refine ⟨(Pieces.read part.length pieces).2, ?_, hread.rest, Pieces.read_snd_ne_nil hpcs, hread.cut⟩
  simp [tpNpipeRead, hpos, hread.data]

theorem tpNpipeRead_of_cut (hcut : ¬WholeAt pieces 0 part.length) :
    tpNpipeRead platform part.length pieces = none := by
  have hpos : part.length ≠ 0 := by simpa using hpart
  have hlt : (Pieces.read part.length pieces).1.length < part.length := by
    by_contra hle
    apply hcut
    simpa [WholeAt] using (Pieces.read_whole_iff hpart hpcs h).mp (Nat.not_lt.mp hle)
  simp [tpNpipeRead, hpos, hlt]

end

section

variable {platform : Platform} (hpcs : ∀ piece ∈ pieces, piece ≠ []) (h : pieces.flatten = part ++ rest)

include hpcs h

theorem receivePayload_of_whole (hwhole : WholeAt pieces 0 part.length) (hplatform : platform.Takes part) :
    ∃ left, receivePayload platform part.length pieces = some (part, left) ∧
      Behind part.length pieces rest left := by
  by_cases hpart : part = []
  · obtain ⟨hmalloc, hreads⟩ := hplatform hpart
    subst hpart
    exact ⟨pieces, by simp [receivePayload, tpNpipeRead, hmalloc, hreads], by simpa using h, hpcs, by simp⟩
  · simpa [receivePayload, hpart] using tpNpipeRead_of_whole platform hpart hpcs h hwhole

theorem receivePayload_of_cut (hcut : ¬(WholeAt pieces 0 part.length ∧ platform.Takes part)) :
    receivePayload platform part.length pieces = none := by
  by_cases hpart : part = []
  · subst hpart
    have hplatform : ¬platform.Takes [] := by simpa [WholeAt] using hcut
    cases hmalloc : platform.mallocZero <;> cases hreads : platform.readsNothing <;>
      simp_all [receivePayload, tpNpipeRead, Platform.Takes]
  · have hwhole : ¬WholeAt pieces 0 part.length := by simpa [Platform.Takes, hpart] using hcut
    simpa [receivePayload, hpart] using tpNpipeRead_of_cut platform hpart hpcs h hwhole

end

/-! ## One frame -/

variable {platform : Platform} {frame : fdsapi.Frame}

theorem header_ne_nil (frame : fdsapi.Frame) : frame.header ≠ [] := by
  have hlen : frame.header.length = Rpc.headerSize := frame.header_length
  intro hnil
  simp [hnil, Rpc.headerSize] at hlen

/-- No piece ends inside the header or inside the payload, and the platform takes the payload. -/
structure Arrives (platform : Platform) (pieces : List (List UInt8)) (frame : fdsapi.Frame) : Prop where
  header : WholeAt pieces 0 Rpc.headerSize
  payload : WholeAt pieces Rpc.headerSize frame.payload.length
  takes : platform.Takes frame.payload

theorem Arrives.receiveMessage (harrives : Arrives platform pieces frame) (hpcs : ∀ piece ∈ pieces, piece ≠ [])
    (h : pieces.flatten = frame.bytes ++ rest) :
    ∃ left, receiveMessage platform pieces = some (.ofFrame frame, left) ∧ Behind frame.size pieces rest left := by
  have hlen : frame.header.length = Rpc.headerSize := frame.header_length
  have hsize : frame.payload.length = (MsgHeader.ofBytes frame.header).msgSize.toNat := frame.payload_length
  rw [Frame.bytes, List.append_assoc] at h
  obtain ⟨middle, hhdr, hmiddle⟩ := tpNpipeRead_of_whole platform (header_ne_nil frame) hpcs h
    (hlen ▸ harrives.header)
  rw [hlen] at hhdr hmiddle
  obtain ⟨left, hpay, hleft⟩ := receivePayload_of_whole hmiddle.ne_nil hmiddle.flatten
    ((hmiddle.wholeAt_iff _).mpr harrives.payload) harrives.takes
  refine ⟨left, ?_, hmiddle.trans hleft⟩
  simp [Pbrpc.receiveMessage, hhdr, ← hsize, hpay, Received.ofFrame]

theorem receiveMessage_of_not_arrives (harrives : ¬Arrives platform pieces frame)
    (hpcs : ∀ piece ∈ pieces, piece ≠ []) (h : pieces.flatten = frame.bytes ++ rest) :
    receiveMessage platform pieces = none := by
  have hlen : frame.header.length = Rpc.headerSize := frame.header_length
  have hsize : frame.payload.length = (MsgHeader.ofBytes frame.header).msgSize.toNat := frame.payload_length
  rw [Frame.bytes, List.append_assoc] at h
  by_cases hhdr : WholeAt pieces 0 Rpc.headerSize
  · obtain ⟨middle, hread, hmiddle⟩ := tpNpipeRead_of_whole platform (header_ne_nil frame) hpcs h
      (hlen ▸ hhdr)
    rw [hlen] at hread hmiddle
    have hpay : receivePayload platform frame.payload.length middle = none := by
      apply receivePayload_of_cut hmiddle.ne_nil hmiddle.flatten
      intro hwhole
      exact harrives ⟨hhdr, (hmiddle.wholeAt_iff _).mp hwhole.1, hwhole.2⟩
    simp [receiveMessage, hread, ← hsize, hpay]
  · have hread := tpNpipeRead_of_cut platform (header_ne_nil frame) hpcs h (hlen ▸ hhdr)
    rw [hlen] at hread
    simp [receiveMessage, hread]

theorem arrives_of_uncut {frames : List fdsapi.Frame} (h : Uncut (frame :: frames) pieces)
    (htakes : platform.Takes frame.payload) : Arrives platform pieces frame := by
  rw [uncut_cons_iff] at h
  exact ⟨fun n hcut => h.1 n (by simpa using hcut), h.2.1, htakes⟩

theorem Arrives.uncut_cons_iff {frames : List fdsapi.Frame} {left : List (List UInt8)}
    (h : Arrives platform pieces frame) (hleft : Behind frame.size pieces rest left) :
    Uncut (frame :: frames) pieces ↔ Uncut frames left := by
  rw [FrameFormat.uncut_cons_iff]
  constructor
  · intro huncut n hcut hins
    exact huncut.2.2 n ((hleft.cut n hins.pos).mp hcut) hins
  · intro huncut
    refine ⟨fun n hcut => h.header n (by simpa using hcut), h.payload, ?_⟩
    intro n hcut hins
    exact huncut n ((hleft.cut n hins.pos).mpr hcut) hins

/-! ## All frames -/

namespace Reception

theorem foldl_turn_of_stopped {s : Reception} (h : s.outcome ≠ .running) (turns : List Turn) :
    turns.foldl (turn platform) s = s := by
  induction turns with
  | nil => rfl
  | cons next turns ih =>
    have hturn : s.turn platform next = s := by simp [turn, h]
    rw [List.foldl_cons, hturn, ih]

theorem turn_eq (platform : Platform) {s : Reception} (next : Turn) (hrun : s.outcome = .running)
    (hpcs : ∀ piece ∈ s.pieces, piece ≠ []) (h : s.pieces.flatten = frame.bytes ++ rest) :
    Arrives platform s.pieces frame ∧
        (∃ left, Behind frame.size s.pieces rest left ∧
          s.turn platform next =
            ⟨left, s.processed ++ [.ofFrame frame], processPacket next (MsgHeader.ofBytes frame.header).msgType⟩) ∨
      ¬Arrives platform s.pieces frame ∧ s.turn platform next = { s with outcome := .reconnect } := by
  have hsome : s.pieces ≠ [] := by
    intro hnil
    have hlen := congrArg List.length h
    have hpos := frame.size_pos
    simp [hnil] at hlen
    omega
  by_cases harrives : Arrives platform s.pieces frame
  · obtain ⟨left, hrcv, hleft⟩ := harrives.receiveMessage hpcs h
    refine .inl ⟨harrives, left, hleft, ?_⟩
    simp [turn, hrun, hsome, hrcv, Received.ofFrame]
  · refine .inr ⟨harrives, ?_⟩
    simp [turn, hrun, hsome, receiveMessage_of_not_arrives harrives hpcs h]

def serve (platform : Platform) (s : Reception) (script : List (fdsapi.Frame × Turn)) : Reception :=
  (script.map Prod.snd).foldl (turn platform) s

variable (platform : Platform) (script : List (fdsapi.Frame × Turn))

def Processable : Prop :=
  ∀ entry ∈ script,
    platform.Takes entry.1.payload ∧ entry.2.Handles (MsgHeader.ofBytes entry.1.header).msgType

theorem serve_iff {s : Reception} (hrun : s.outcome = .running)
    (hpcs : ∀ piece ∈ s.pieces, piece ≠ []) (h : s.pieces.flatten = encode (script.map Prod.fst)) :
    ((s.serve platform script).processed = s.processed ++ script.map (Received.ofFrame ∘ Prod.fst) ∧
        (s.serve platform script).outcome = .running) ↔
      Uncut (script.map Prod.fst) s.pieces ∧ Processable platform script := by
  induction script generalizing s with
  | nil => simp [serve, Processable, hrun, Uncut, InsidePart]
  | cons entry script ih =>
    obtain ⟨frame, next⟩ := entry
    have hcons : s.pieces.flatten = frame.bytes ++ encode (script.map Prod.fst) := h
    have hserve : s.serve platform ((frame, next) :: script) = (s.turn platform next).serve platform script := rfl
    have hprocessable : Processable platform ((frame, next) :: script) ↔
        (platform.Takes frame.payload ∧ next.Handles (MsgHeader.ofBytes frame.header).msgType) ∧
          Processable platform script := by
      simp [Processable]
    rw [hserve, hprocessable, List.map_cons, List.map_cons]
    rcases turn_eq platform next hrun hpcs hcons with ⟨harrives, left, hleft, hturn⟩ | ⟨harrives, hturn⟩
    · rw [harrives.uncut_cons_iff hleft, ← processPacket_eq_running_iff, hturn]
      by_cases hhandles : processPacket next (MsgHeader.ofBytes frame.header).msgType = .running
      · have hserved := ih (s := ⟨left, s.processed ++ [.ofFrame frame], .running⟩) rfl hleft.ne_nil hleft.flatten
        simp only [hhandles, harrives.takes, true_and, Function.comp_apply]
        rw [← hserved, List.append_assoc, List.singleton_append]
      · simp only [hhandles, and_false, false_and, iff_false]
        intro hserved
        rw [serve, foldl_turn_of_stopped hhandles] at hserved
        exact hhandles hserved.2
    · rw [hturn, serve, foldl_turn_of_stopped (by simp)]
      simp only [reduceCtorEq, and_false, false_iff]
      intro huncut
      exact harrives (arrives_of_uncut huncut.1 huncut.2.1.1)

/-- The loop processes the frames and does not open the pipe anew exactly if no piece ends inside a header or inside
a payload, and it is able to process each frame. -/
theorem frames_received_iff (pieces : List (List UInt8))
    (hpieces : ∀ piece ∈ pieces, piece ≠ []) (h : pieces.flatten = encode (script.map Prod.fst)) :
    ((new pieces).serve platform script).Receives (script.map Prod.fst) ↔
      Uncut (script.map Prod.fst) pieces ∧ Processable platform script := by
  have hserved := serve_iff platform script (s := new pieces) rfl hpieces h
  have hnil : (new pieces).processed ++ script.map (.ofFrame ∘ Prod.fst) =
      (script.map Prod.fst).map Received.ofFrame := by simp [new]
  rw [hnil] at hserved
  constructor
  · intro hrecv
    exact hserved.mp ⟨hrecv.processed, hrecv.outcome⟩
  · intro huncut
    exact ⟨(hserved.mpr huncut).1, (hserved.mpr huncut).2⟩

end Reception

namespace Sample

def response : fdsapi.Frame where
  header := [2, 0, 0, 0] ++ [0, 0, 0, 0x80] ++ List.replicate 8 0
  payload := [7, 9]
  header_length := by decide
  payload_length := by decide

def script : List (fdsapi.Frame × Turn) := [(response, ⟨false, true⟩), (response, ⟨false, true⟩)]

def willing : Platform := ⟨true, true⟩

/-- The pieces that the first frame arrives in, and the second frame. -/
def inParts : List (List UInt8) := [response.header, response.payload, response.bytes]

def inPieces : List (List UInt8) := [response.header.take 10, response.header.drop 10, response.payload]

end Sample

/-- The first frame arrives in two pieces, the second in one. -/
theorem responses_in_parts_received :
    ((Reception.new Sample.inParts).serve Sample.willing Sample.script).Receives (Sample.script.map Prod.fst) ∧
      Uncut (Sample.script.map Prod.fst) Sample.inParts ∧ Reception.Processable Sample.willing Sample.script := by
  have hrecv :
      ((Reception.new Sample.inParts).serve Sample.willing Sample.script).Receives (Sample.script.map Prod.fst) :=
    ⟨by decide +kernel, by decide +kernel⟩
  exact ⟨hrecv, (Reception.frames_received_iff _ _ _ (by decide) (by decide)).mp hrecv⟩

/-- What arrives first is taken as a failure, and nothing is processed. -/
theorem header_in_pieces_reconnects :
    Sample.inPieces.flatten = encode [Sample.response] ∧
      ((Reception.new Sample.inPieces).serve Sample.willing [(Sample.response, ⟨false, true⟩)]).outcome =
        .reconnect ∧
      ¬((Reception.new Sample.inPieces).serve Sample.willing [(Sample.response, ⟨false, true⟩)]).Receives
        [Sample.response] := by
  have hreconnect : ((Reception.new Sample.inPieces).serve Sample.willing
      [(Sample.response, ⟨false, true⟩)]).outcome = .reconnect := by decide +kernel
  refine ⟨by decide, hreconnect, ?_⟩
  intro hrecv
  simp [hrecv.outcome] at hreconnect

end FreeRDS.Pbrpc
