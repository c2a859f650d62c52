import FreeRDS.Fdsapi.Server
import FreeRDS.Fdsapi.Transport

/-! # The bounds of the receive buffer

`freerds_rpc_transport_receive` takes the length of a message from its header and does not compare it with anything. The
reads stay inside of `InboundStream`, and the length that is passed on does not wrap, exactly if every header of the
stream announces no less than itself and no more than the buffer holds. The server does not look at the length of what
it sends either.
-/

namespace FreeRDS.Fdsapi

open Lib Wire QuerySessionInformationResponse List

theorem zero_lt_headerLength : 0 < headerLength := by decide

/-- Every header of the stream that is complete announces at least its own length and at most the buffer. -/
inductive HeadersFit : List UInt8 → Prop
  | short {stream : List UInt8} (hshort : stream.length < headerLength) : HeadersFit stream
  | message {stream : List UInt8} (hlow : headerLength ≤ announced stream) (hhigh : announced stream ≤ capacity)
      (hrest : HeadersFit (stream.drop (announced stream))) : HeadersFit stream

namespace HeadersFit

variable {stream : List UInt8}

theorem bounds (h : HeadersFit stream) (hlong : headerLength ≤ stream.length) :
    headerLength ≤ announced stream ∧ announced stream ≤ capacity := by
  cases h with
  | short hshort => exact absurd hshort (Nat.not_lt.mpr hlong)
  | message hlow hhigh _ => exact ⟨hlow, hhigh⟩

theorem drop (h : HeadersFit stream) : HeadersFit (stream.drop (announced stream)) := by
  cases h with
  | short hshort =>
    refine .short ?_
    rw [length_drop]
    exact Nat.lt_of_le_of_lt (Nat.sub_le _ _) hshort
  | message _ _ hrest => exact hrest

end HeadersFit

namespace RpcClient

variable {s : RpcClient}

/-- No read goes over the end of the buffer, and no length that is passed on has wrapped. -/
def Inside (s : RpcClient) : Prop :=
  (∀ request ∈ s.requests, request.position + request.size ≤ capacity) ∧
    ∀ received ∈ s.received, headerLength ≤ received.announced.toNat

structure Between (s : RpcClient) : Prop extends s.Open where
  header : headerLength ≤ s.position → announced (intake.pending s) ≤ capacity

/-- The header that is whole after the first read of a call, if it is, fits. -/
def ReadsFit (s : RpcClient) : Prop :=
  headerLength ≤ (intake.readHeader s).2.position →
    headerLength ≤ announced (intake.pending s) ∧ announced (intake.pending s) ≤ capacity

theorem turn_requests (hconn : s.connected = true) : s.turn.requests = (intake.gather s).2.requests := by
  have hdisp : ∀ t : RpcClient, t.dispatch.requests = t.requests := by
    intro t
    unfold dispatch
    split <;> rfl
  rw [turn_of_connected hconn]
  split
  · exact hdisp _
  · rfl

theorem Between.turn (h : s.Between) (hconn : s.connected = true) (hfits : s.ReadsFit) :
    TurnCase s s.turn ∧ s.turn.Between ∧ (s.Inside → s.turn.Inside) := by
  have hstep := h.toOpen.step fun hhdr => (hfits hhdr).1
  have hcase := h.toOpen.turn hconn fun hhdr => (hfits hhdr).1
  have hreqs : s.Inside → ∀ request ∈ s.turn.requests, request.position + request.size ≤ capacity := by
    intro hins
    rw [turn_requests hconn]
    refine hstep.kept (P := fun s => ∀ request ∈ s.requests, request.position + request.size ≤ capacity)
      (by decide : headerLength ≤ capacity) (fun hhdr => (hfits hhdr).2) (fun s _ size hs hsize _ => ?_) hins.1
    exact forall_mem_append.mpr ⟨hs, forall_mem_singleton.mpr hsize⟩
  refine ⟨hcase, ?_⟩
  cases hcase with
  | kept hopen hpend hrcv hheader hprog =>
    exact ⟨⟨hopen, fun hhdr => hpend ▸ (hfits (hheader hhdr)).2⟩, fun hins => ⟨hreqs hins, hrcv ▸ hins.2⟩⟩
  | completed hopen _ hpos hrcv hhdr _ _ =>
    refine ⟨⟨hopen, fun hge => absurd (hpos ▸ hge) zero_lt_headerLength.not_ge⟩, fun hins => ⟨hreqs hins, ?_⟩⟩
    rw [hrcv]
    refine forall_mem_append.mpr ⟨hins.2, forall_mem_singleton.mpr ?_⟩
    rw [UInt32.toNat_ofNat', Nat.mod_eq_of_lt (announced_lt _)]
    exact (hfits hhdr).1

theorem Between.not_inside_turn (h : s.Between) (hconn : s.connected = true) (hunfit : ¬s.ReadsFit) :
    headerLength ≤ (intake.pending s).length ∧
      ¬(headerLength ≤ announced (intake.pending s) ∧ announced (intake.pending s) ≤ capacity) ∧ ¬s.turn.Inside := by
  obtain ⟨hwhole, hbad⟩ := Classical.not_imp.mp hunfit
  refine ⟨hwhole.trans (Intake.position_readHeader_le (M := intake) s), hbad, fun hins => ?_⟩
  have hhdr : s.position < headerLength := by
    by_contra hge
    rw [Nat.not_lt] at hge
    exact hbad ⟨hge.trans (h.position hge).le, h.header hge⟩
  have hbad' : announced (intake.pending s) < headerLength ∨ capacity < announced (intake.pending s) := by omega
  obtain ⟨size, t, hgather, hpos, hover⟩ :=
    Intake.gather_unfit (M := intake) (by decide : headerLength ≤ capacity) (by decide) hhdr hwhole hbad'
  have hin : t.position + size ≤ capacity := hins.1 ⟨t.position, size⟩ (by
    rw [turn_requests hconn, hgather]
    exact mem_append_right _ (mem_singleton_self _))
  exact absurd hin (Nat.not_le.mpr (hover.trans_eq (congrArg (· + size) hpos.symm)))

theorem inside_turns (h : s.Between) (hins : s.Inside)
    (hfits : s.connected = true → HeadersFit (intake.pending s)) (n : Nat) : (s.turns n).Inside := by
  induction n generalizing s with
  | zero => exact hins
  | succ n ih =>
    cases hconn : s.connected with
    | false =>
      have hturn : s.turns (n + 1) = s.turns n := by rw [turns, turn_of_closed hconn]
      rw [hturn]
      exact ih h hins hfits
    | true =>
      have hfits := hfits hconn
      obtain ⟨hcase, hbetween, hkeeps⟩ := h.turn hconn fun hhdr =>
        hfits.bounds (hhdr.trans (Intake.position_readHeader_le (M := intake) s))
      refine ih hbetween (hkeeps hins) fun _ => ?_
      cases hcase with
      | kept _ hpend _ _ _ => exact hpend ▸ hfits
      | completed _ hpend _ _ _ _ _ => exact hpend ▸ hfits.drop

theorem headersFit_of_inside (h : s.Between) (hconn : s.connected = true) (hins : ∀ n, (s.turns n).Inside) :
    HeadersFit (intake.pending s) := by
  induction hbytes : s.pieces.flatten.length using Nat.strongRecOn generalizing s with
  | ind bytes ih =>
    have hnext : ∀ n, (s.turn.turns n).Inside := fun n => hins (n + 1)
    by_cases hfits : s.ReadsFit
    case neg => exact absurd (hins 1) (h.not_inside_turn hconn hfits).2.2
    obtain ⟨hcase, hbetween, -⟩ := h.turn hconn hfits
    cases hcase with
    | kept hopen hpend _ _ hprog =>
      rw [← hpend]
      rcases hprog with ⟨hstill, hfewer⟩ | ⟨-, hnil⟩
      · exact ih _ (hbytes ▸ hfewer) hbetween hstill hnext rfl
      · -- The bytes end within the header or within the message.
        have hlen : (intake.pending s.turn).length = s.turn.position := by
          rw [intake_pending, hnil, flatten_nil, append_nil, Memory.contents_length]
        by_cases hhdr : headerLength ≤ s.turn.position
        · have hlt := hopen.position hhdr
          refine .message (hhdr.trans hlt.le) (hbetween.header hhdr) (.short ?_)
          rw [length_drop, hlen, Nat.sub_eq_zero_of_le hlt.le]
          exact zero_lt_headerLength
        · exact .short (by omega)
    | completed _ hpend _ _ hhdr hwhole hprog =>
      refine .message (hfits hhdr).1 (hfits hhdr).2 ?_
      rw [← hpend]
      exact ih _ (hbytes ▸ hprog.2) hbetween hprog.1 hnext rfl

/-- However the bytes are cut into pieces, the reads stay inside of the buffer and no length wraps exactly if all headers
fit. -/
theorem inside_iff (buffer : Memory UInt8) {pieces : List (List UInt8)} (hpcs : ∀ piece ∈ pieces, piece ≠ []) :
    (∀ n, ((new buffer pieces).turns n).Inside) ↔ HeadersFit pieces.flatten := by
  have hpend : intake.pending (new buffer pieces) = pieces.flatten := intake_pending _
  have hbetween : (new buffer pieces).Between :=
    ⟨.of_position hpcs rfl, fun hhdr => absurd hhdr zero_lt_headerLength.not_ge⟩
  have hins : (new buffer pieces).Inside := by simp [Inside, new]
  rw [← hpend]
  exact ⟨headersFit_of_inside hbetween rfl, fun hfits => inside_turns hbetween hins fun _ => hfits⟩

end RpcClient

/-! ## Messages of the server -/

theorem announced_sendMessage_mod (payload : List UInt8) :
    announced (sendMessage payload) = (payload.length + headerLength) % 2 ^ 32 := by
  have hlen : (toBytes headerLength (payload.length + headerLength)).length = headerLength := toBytes_length _ _
  rw [announced, sendMessage, take_left' hlen, ofBytes_toBytes]
  rfl

theorem headersFit_sendMessage {payload : List UInt8} (hlt : payload.length < 2 ^ 32) :
    HeadersFit (sendMessage payload) ↔ Fits payload := by
  have hann := announced_sendMessage_mod payload
  have hlen := sendMessage_length payload
  have hlong : headerLength ≤ (sendMessage payload).length := hlen ▸ Nat.le_add_left _ _
  constructor
  · intro h
    obtain ⟨hlow, hhigh⟩ := h.bounds hlong
    rw [hann] at hlow hhigh
    unfold Fits
    unfold headerLength capacity at *
    omega
  · intro h
    have hwhole : announced (sendMessage payload) = (sendMessage payload).length := by
      unfold Fits headerLength capacity at *
      omega
    refine .message (hwhole ▸ hlong) ?_ (.short ?_)
    · rw [hwhole, hlen]
      exact h
    · rw [hwhole, drop_length]
      exact zero_lt_headerLength

namespace FDSApiServer

variable {handler : FDSApiHandler} {request rest : List UInt8} {requestId : UInt16}

theorem inside_iff_of_respond {requestMsg : Message}
    (hdecode : decodeMessage.run request = some (requestMsg, rest)) {id : MessageId} {body : id.Body}
    (hresp : respond handler requestMsg = .ok (.known id requestId body)) :
    ∃ payload, rpcMessageReceived handler request = .ok [payload] ∧
      ∀ (buffer : Memory UInt8) (pieces : List (List UInt8)), (∀ piece ∈ pieces, piece ≠ []) →
        pieces.flatten = sendMessage payload →
        ((∀ n, ((RpcClient.new buffer pieces).turns n).Inside) ↔
          (Message.known id requestId body).bytes.length % 2 ^ 32 + headerLength ≤ capacity) := by
  refine ⟨_, rpcMessageReceived_eq hdecode hresp, fun buffer pieces hpcs hsent => ?_⟩
  have hlt : (Message.known id requestId body).bytes.length % 2 ^ 32 < 2 ^ 32 := Nat.mod_lt _ (by decide)
  have hle : (Message.known id requestId body).bytes.length % 2 ^ 32 ≤ (Message.known id requestId body).bytes.length :=
    Nat.mod_le _ _
  have hlen := length_take_of_le hle
  rw [RpcClient.inside_iff buffer hpcs, hsent, headersFit_sendMessage (hlen.trans_lt hlt), Fits, hlen]

theorem querySessionInformationResponse_fits (handler : FDSApiHandler) (sessionId infoClass : UInt32) :
    (Message.known .querySessionInformationResponse requestId (querySessionInformationResponse infoClass
        (handler.querySessionInformation sessionId.toInt32 infoClass.toInt32))).bytes.length % 2 ^ 32 + headerLength ≤
        capacity ↔
      ∀ value, handler.queried sessionId infoClass = some (.string value) → strlen (strdup value) % 65536 ≤ 8179 := by
  have hlt := @bytes_length_lt .querySessionInformationResponse (by decide) requestId
    (querySessionInformationResponse infoClass
      (handler.querySessionInformation sessionId.toInt32 infoClass.toInt32))
  rw [Nat.mod_eq_of_lt hlt, querySessionInformationResponse_eq]
  cases handler.queried sessionId infoClass with
  | none => simp [Message.bytes, MessageId.codec, codec, sizeOfUINT16, sizeOfBOOL,
      headerLength, capacity]
  | some field =>
    cases field with
    | string value =>
      simp [Message.bytes, MessageId.codec, codec, Field.infoValue,
        SessionInfoValue.encode, encodeString_length_mod, sizeOfUINT16, sizeOfBOOL, headerLength, capacity]
      omega
    | _ =>
      simp [Message.bytes, MessageId.codec, codec, Field.infoValue,
        SessionInfoValue.encode, sizeOfUINT16, sizeOfUINT32, sizeOfBOOL, headerLength, capacity]

end FDSApiServer

open FDSApiServer

/-- A store with one session, whose station has a name of 8200 bytes. -/
def longNameHandler : FDSApiHandler :=
  { emptyHandler with
    sessionStore := Manager.SessionStore.empty.createSession
    bytes := fun _ => List.replicate 8200 58 }

end FreeRDS.Fdsapi
