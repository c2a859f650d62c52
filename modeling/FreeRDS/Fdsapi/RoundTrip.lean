import FreeRDS.Fdsapi.EncoderSafety

/-! # Decoding what was encoded

A message comes back as it was sent, but for what the encoding does not keep: which of `NULL` and the empty string a
pointer was, which number stood for `TRUE`, and what stood beside a result that is `FALSE`. `identify` picks one message
for all that differ in no more than this, and it is the one that the decoder returns.
-/

namespace FreeRDS.Fdsapi

open Lib Wire Decoder EnumerateSessionsResponse List

/-! ## Messages that count as the same -/

def SessionInfo.identify (session : SessionInfo) : SessionInfo :=
  { session with winStationName := CString.identify session.winStationName }

def EnumerateSessionsResponse.identify (msg : EnumerateSessionsResponse) : EnumerateSessionsResponse :=
  if h : msg.result ≠ 0 then
    { msg with
      result := truth msg.result
      pSessionInfo := msg.pSessionInfo.map SessionInfo.identify
      length_eq := fun _ => by rw [List.length_map, msg.length_eq h] }
  else { result := 0, cSessions := 0, pSessionInfo := [], length_eq := fun _ => rfl }

def SessionInfoValue.identify : SessionInfoValue → SessionInfoValue
  | .bool boolValue => .bool (truth boolValue)
  | .string stringValue => .string (CString.identify stringValue)
  | infoValue => infoValue

def QuerySessionInformationResponse.identify (msg : QuerySessionInformationResponse) :
    QuerySessionInformationResponse :=
  if msg.result ≠ 0 then { result := truth msg.result, infoValue := msg.infoValue.identify }
  else { result := 0, infoValue := .bool 0 }

namespace MessageId

def identify : (id : MessageId) → id.Body → id.Body
  | .virtualChannelOpenRequest, (msg : VirtualChannelOpenRequest) =>
    { msg with virtualName := CString.identify msg.virtualName }
  | .virtualChannelOpenResponse, (msg : VirtualChannelOpenResponse) =>
    { msg with channelGuid := CString.identify msg.channelGuid }
  | .virtualChannelOpenExRequest, (msg : VirtualChannelOpenExRequest) =>
    { msg with virtualName := CString.identify msg.virtualName }
  | .virtualChannelOpenExResponse, (msg : VirtualChannelOpenExResponse) =>
    { msg with channelGuid := CString.identify msg.channelGuid }
  | .virtualChannelCloseRequest, (msg : VirtualChannelCloseRequest) =>
    { msg with virtualName := CString.identify msg.virtualName }
  | .virtualChannelCloseResponse, (msg : VirtualChannelCloseResponse) => { msg with result := truth msg.result }
  | .disconnectSessionRequest, (msg : DisconnectSessionRequest) => { msg with wait := truth msg.wait }
  | .disconnectSessionResponse, (msg : DisconnectSessionResponse) => { msg with result := truth msg.result }
  | .logoffSessionRequest, (msg : LogoffSessionRequest) => { msg with wait := truth msg.wait }
  | .logoffSessionResponse, (msg : LogoffSessionResponse) => { msg with result := truth msg.result }
  | .shutdownSystemResponse, (msg : ShutdownSystemResponse) => { msg with result := truth msg.result }
  | .enumerateSessionsResponse, msg => EnumerateSessionsResponse.identify msg
  | .querySessionInformationResponse, msg => QuerySessionInformationResponse.identify msg
  | .authenticateUserRequest, (msg : AuthenticateUserRequest) =>
    { msg with
      username := CString.identify msg.username
      password := CString.identify msg.password
      domain := CString.identify msg.domain }
  | .pingRequest, msg | .pingResponse, msg | .shutdownSystemRequest, msg | .enumerateSessionsRequest, msg
  | .querySessionInformationRequest, msg | .authenticateUserResponse, msg | .sessionEvent, msg => msg

def strings : (id : MessageId) → id.Body → List (Option CString)
  | .virtualChannelOpenRequest, (msg : VirtualChannelOpenRequest) => [msg.virtualName]
  | .virtualChannelOpenResponse, (msg : VirtualChannelOpenResponse) => [msg.channelGuid]
  | .virtualChannelOpenExRequest, (msg : VirtualChannelOpenExRequest) => [msg.virtualName]
  | .virtualChannelOpenExResponse, (msg : VirtualChannelOpenExResponse) => [msg.channelGuid]
  | .virtualChannelCloseRequest, (msg : VirtualChannelCloseRequest) => [msg.virtualName]
  | .enumerateSessionsResponse, (msg : EnumerateSessionsResponse) => msg.pSessionInfo.map (·.winStationName)
  | .querySessionInformationResponse, (msg : QuerySessionInformationResponse) =>
    match msg.infoValue with
    | .string stringValue => [stringValue]
    | _ => []
  | .authenticateUserRequest, (msg : AuthenticateUserRequest) => [msg.username, msg.password, msg.domain]
  | _, _ => []

end MessageId

/-- The ids are the same, and the bodies are but for what `identify` does not tell apart. -/
inductive Message.Same : Message → Message → Prop
  | known {id : MessageId} {requestId : UInt16} {body body' : id.Body} (h : id.identify body = id.identify body') :
      Same (.known id requestId body) (.known id requestId body')

@[simp] theorem run_decodeBOOL (boolValue : Int32) (rest : List UInt8) :
    decodeBOOL.run (encodeBOOL boolValue ++ rest) = some (truth boolValue, rest) := by
  have hlt : (if boolValue ≠ 0 then 1 else 0) < 256 ^ 1 := by split <;> decide
  rw [decodeBOOL, encodeBOOL, StateT.run_bind, run_number hlt]
  by_cases h : boolValue = 0 <;> simp [h, truth]

@[simp] theorem run_decodeUINT16 (uint16Value : UInt16) (rest : List UInt8) :
    decodeUINT16.run (encodeUINT16 uint16Value ++ rest) = some (uint16Value, rest) := by
  rw [decodeUINT16, encodeUINT16, StateT.run_bind, run_number uint16Value.toNat_lt]
  simp

@[simp] theorem run_decodeUINT32 (uint32Value : UInt32) (rest : List UInt8) :
    decodeUINT32.run (encodeUINT32 uint32Value ++ rest) = some (uint32Value, rest) := by
  rw [decodeUINT32, encodeUINT32, StateT.run_bind, run_number uint32Value.toNat_lt]
  simp

theorem run_decodeString {stringValue : Option CString} (h : strlen stringValue ≤ 65535) (rest : List UInt8) :
    decodeString.run (encodeString stringValue ++ rest) = some (CString.identify stringValue, rest) := by
  have hsize : (UInt16.ofNat (strlen stringValue)).toNat = strlen stringValue :=
    UInt16.toNat_ofNat_of_lt (by exact Nat.lt_succ_of_le h)
  have htake : (CString.text stringValue).take (strlen stringValue) = CString.text stringValue :=
    take_length
  rw [decodeString, encodeString, encodeUINT16, hsize, htake, append_assoc, StateT.run_bind,
    run_number (Nat.lt_succ_of_le h), Option.bind_eq_bind, Option.bind_some]
  by_cases hempty : CString.text stringValue = []
  · simp [strlen, hempty, CString.identify, CString.ofText]
  · have hpos : 0 < strlen stringValue := length_pos_iff.mpr hempty
    rw [if_pos hpos, StateT.run_bind, strlen, run_take]
    simp [CString.identify, CString.ofText, hempty]

/-! ## Bodies -/

theorem SessionInfo.run_decode {session : SessionInfo} (h : strlen session.winStationName ≤ 65535)
    (rest : List UInt8) :
    codec.decode.run (codec.encode session ++ rest) = some (session.identify, rest) := by
  simp [codec, identify, run_decodeString h]

theorem EnumerateSessionsResponse.run_decode {msg : EnumerateSessionsResponse}
    (h : ∀ session ∈ msg.pSessionInfo, strlen session.winStationName ≤ 65535) (rest : List UInt8) :
    codec.decode.run (codec.encode msg ++ rest) = some (msg.identify, rest) := by
  by_cases hres : msg.result = 0
  · simp [codec, identify, hres, truth]
  · have hsess := run_repeated (msg.length_eq hres)
      (fun session hmem => SessionInfo.run_decode (h session hmem)) rest
    simp [codec, identify, hres, truth, hsess]

theorem SessionInfoValue.run_decode {infoValue : SessionInfoValue}
    (h : ∀ stringValue, infoValue = .string stringValue → strlen stringValue ≤ 65535) (rest : List UInt8) :
    (decode infoValue.t).run (infoValue.encode ++ rest) = some (infoValue.identify, rest) := by
  cases infoValue with
  | string stringValue =>
    have hstr := run_decodeString (h stringValue rfl) rest
    simp [decode, encode, t, identify, hstr]
  | other t ht => simp [decode, encode, SessionInfoValue.t, identify, ht]
  | _ => simp [decode, encode, t, identify]

theorem QuerySessionInformationResponse.run_decode {msg : QuerySessionInformationResponse}
    (h : ∀ stringValue, msg.infoValue = .string stringValue → strlen stringValue ≤ 65535) (rest : List UInt8) :
    codec.decode.run (codec.encode msg ++ rest) = some (msg.identify, rest) := by
  have hval := SessionInfoValue.run_decode h rest
  by_cases hres : msg.result = 0
  · simp [codec, identify, hres, truth]
  · simp [codec, identify, hres, truth, hval]

variable (id : MessageId)

theorem MessageId.run_decode {body : id.Body} (h : ∀ s ∈ id.strings body, strlen s ≤ 65535)
    (rest : List UInt8) :
    id.codec.decode.run (id.codec.encode body ++ rest) = some (id.identify body, rest) := by
  cases id with
  | enumerateSessionsResponse =>
    apply run_decode
    intro session hmem
    exact h session.winStationName (mem_map_of_mem hmem)
  | querySessionInformationResponse =>
    apply QuerySessionInformationResponse.run_decode
    intro stringValue hval
    apply h stringValue
    simp [strings, hval]
  | virtualChannelOpenRequest | virtualChannelOpenResponse | virtualChannelOpenExRequest
  | virtualChannelOpenExResponse | virtualChannelCloseRequest =>
    have hstr := run_decodeString (h _ mem_cons_self)
    simp [codec, identify, Body, VirtualChannelOpenRequest.codec, VirtualChannelOpenResponse.codec,
      VirtualChannelOpenExRequest.codec, VirtualChannelOpenExResponse.codec, VirtualChannelCloseRequest.codec, hstr]
  | authenticateUserRequest =>
    have husername := run_decodeString (h _ mem_cons_self)
    have hpass := run_decodeString (h _ (mem_cons_of_mem _ mem_cons_self))
    have hdom := run_decodeString (h _ (mem_cons_of_mem _ (mem_cons_of_mem _ mem_cons_self)))
    simp [codec, identify, Body, AuthenticateUserRequest.codec, husername, hpass, hdom]
  | virtualChannelCloseResponse | disconnectSessionRequest | disconnectSessionResponse | logoffSessionRequest
  | logoffSessionResponse | shutdownSystemResponse =>
    simp [codec, identify, Body, VirtualChannelCloseResponse.codec, DisconnectSessionRequest.codec,
      DisconnectSessionResponse.codec, LogoffSessionRequest.codec, LogoffSessionResponse.codec,
      ShutdownSystemResponse.codec]
  | _ =>
    simp only [codec, Body, PingRequest.codec, PingResponse.codec, ShutdownSystemRequest.codec,
      EnumerateSessionsRequest.codec, QuerySessionInformationRequest.codec, AuthenticateUserResponse.codec,
      SessionEvent.codec, append_assoc, StateT.run_bind, run_decodeUINT32, Option.bind_eq_bind, Option.bind_some]
    rfl

theorem MessageId.ofCode?_code : ofCode? id.code = some id := by
  cases id <;> rfl

theorem run_decodeMessage (requestId : UInt16) {body : id.Body}
    (h : ∀ s ∈ id.strings body, strlen s ≤ 65535) :
    decodeMessage.run (Message.known id requestId body).bytes = some (.known id requestId (id.identify body), []) := by
  have hbody := id.run_decode h []
  rw [append_nil] at hbody
  simp [decodeMessage, Message.bytes, id.ofCode?_code, hbody]

theorem SessionInfo.identify_identify (session : SessionInfo) : session.identify.identify = session.identify := by
  simp [identify]

theorem EnumerateSessionsResponse.identify_identify (msg : EnumerateSessionsResponse) :
    msg.identify.identify = msg.identify := by
  by_cases h : msg.result = 0
  · simp [identify, h]
  · simp [identify, h, truth, SessionInfo.identify_identify]

theorem QuerySessionInformationResponse.identify_identify (msg : QuerySessionInformationResponse) :
    msg.identify.identify = msg.identify := by
  have hval : msg.infoValue.identify.identify = msg.infoValue.identify := by
    cases msg.infoValue <;> simp [SessionInfoValue.identify]
  by_cases h : msg.result = 0
  · simp [identify, h]
  · simp [identify, h, truth, hval]

theorem MessageId.identify_identify (body : id.Body) :
    id.identify (id.identify body) = id.identify body := by
  cases id with
  | enumerateSessionsResponse => exact identify_identify body
  | querySessionInformationResponse => exact QuerySessionInformationResponse.identify_identify body
  | pingRequest | pingResponse | shutdownSystemRequest | enumerateSessionsRequest | querySessionInformationRequest
  | authenticateUserResponse | sessionEvent => rfl
  | _ => simp [identify, Body]

/-! ## Sizes -/

theorem EnumerateSessionsResponse.sizeOf_eq {msg : EnumerateSessionsResponse}
    (h : ∀ session ∈ msg.pSessionInfo, strlen session.winStationName ≤ 65535) :
    codec.sizeOf msg = (codec.encode msg).length ∨ codec.sizeOf msg = 5 := by
  have hses : ∀ session ∈ msg.pSessionInfo,
      SessionInfo.codec.sizeOf session = (SessionInfo.codec.encode session).length := by
    intro session hmem
    simp only [SessionInfo.codec, length_append, encodeUINT32_length, encodeString_length (h session hmem)]
    omega
  by_cases hres : msg.result = 0
  · right
    simp [codec, hres, sizeOfBOOL, sizeOfUINT32]
  · left
    simp [codec, hres, length_flatMap, map_congr_left hses, Nat.add_assoc]

theorem SessionInfoValue.sizeOf_le {infoValue : SessionInfoValue}
    (h : ∀ stringValue, infoValue = .string stringValue → strlen stringValue ≤ 65535) :
    infoValue.sizeOf ≤ 65537 := by
  cases infoValue with
  | string stringValue =>
    have hstr := h stringValue rfl
    simp only [sizeOf, sizeOfString]
    omega
  | _ => simp [sizeOf, sizeOfBOOL, sizeOfUINT16, sizeOfUINT32]

theorem MessageId.sizeOf_le {id : MessageId} {body : id.Body} (h : ∀ s ∈ id.strings body, strlen s ≤ 65535)
    (hid : id ≠ .enumerateSessionsResponse) : id.codec.sizeOf body ≤ 4 + 3 * 65537 := by
  cases id with
  | enumerateSessionsResponse => contradiction
  | querySessionInformationResponse =>
    have hval : body.infoValue.sizeOf ≤ 65537 := by
      apply SessionInfoValue.sizeOf_le
      intro stringValue hval
      apply h stringValue
      simp [strings, hval]
    simp only [codec, QuerySessionInformationResponse.codec, sizeOfUINT32, sizeOfUINT8]
    split <;> omega
  | virtualChannelOpenRequest | virtualChannelOpenResponse | virtualChannelOpenExRequest
  | virtualChannelOpenExResponse | virtualChannelCloseRequest =>
    have hstr := h _ mem_cons_self
    simp only [codec, VirtualChannelOpenRequest.codec, VirtualChannelOpenResponse.codec,
      VirtualChannelOpenExRequest.codec, VirtualChannelOpenExResponse.codec, VirtualChannelCloseRequest.codec,
      sizeOfUINT32, sizeOfString]
    omega
  | authenticateUserRequest =>
    have husername := h _ mem_cons_self
    have hpass := h _ (mem_cons_of_mem _ mem_cons_self)
    have hdom := h _ (mem_cons_of_mem _ (mem_cons_of_mem _ mem_cons_self))
    simp only [codec, AuthenticateUserRequest.codec, sizeOfUINT32, sizeOfString]
    omega
  | _ => exact Nat.le_of_ble_eq_true rfl

theorem Message.size_lt {id : MessageId} (requestId : UInt16) {body : id.Body}
    (hstrs : ∀ s ∈ id.strings body, strlen s ≤ 65535)
    (hsize : id = .enumerateSessionsResponse → (Message.known id requestId body).bytes.length < 2 ^ 32) :
    (Message.known id requestId body).size < 2 ^ 32 := by
  by_cases hid : id = .enumerateSessionsResponse
  · subst hid
    have hbytes := hsize rfl
    have hbody : codec.sizeOf body = (codec.encode body).length ∨
        codec.sizeOf body = 5 :=
      sizeOf_eq fun session hmem =>
        hstrs session.winStationName (mem_map_of_mem hmem)
    simp only [bytes, MessageId.codec, length_append, encodeUINT16_length] at hbytes
    simp only [size, MessageId.codec, sizeOfUINT16] at hbytes ⊢
    omega
  · have hbody := MessageId.sizeOf_le hstrs hid
    simp only [size, sizeOfUINT16]
    omega

/-- A message whose strings are not too long for their length comes back from its bytes, and nothing is left of them. -/
theorem decodeMessage_encodeMessage (requestId : UInt16) (body : id.Body)
    (hstrings : ∀ s ∈ id.strings body, strlen s ≤ 65535)
    (hsize : id = .enumerateSessionsResponse → (Message.known id requestId body).bytes.length < 2 ^ 32) :
    ∃ s, encodeMessage (.known id requestId body) = some s ∧ s.data.length ≤ s.size ∧
      ∃ msg, decodeMessage.run s.data = some (msg, []) ∧ msg.Same (.known id requestId body) := by
  refine ⟨_, encodeMessage_known id requestId body, ?_, _, run_decodeMessage id requestId hstrings, ?_⟩
  · rw [Nat.mod_eq_of_lt (Message.size_lt requestId hstrings hsize)]
    exact Message.bytes_length_le (.known id requestId body)
  · exact .known (id.identify_identify body)

/-- An enumeration of two sessions, of which one has a name. -/
theorem decodeMessage_encodeMessage_sessions :
    let sessions : EnumerateSessionsResponse := ⟨-1, 2, [⟨3, 0, some ⟨[58, 49], by decide⟩⟩, ⟨4, 1, none⟩], fun _ => rfl⟩
    ∃ s, encodeMessage (.known .enumerateSessionsResponse 7 sessions) = some s ∧ s.data.length ≤ s.size ∧
      ∃ msg, decodeMessage.run s.data = some (msg, []) ∧ msg.Same (.known .enumerateSessionsResponse 7 sessions) :=
  decodeMessage_encodeMessage .enumerateSessionsResponse 7 _ (by simp [MessageId.strings, strlen]) (fun _ => by decide)

end FreeRDS.Fdsapi
