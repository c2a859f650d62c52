import FreeRDS.Fdsapi.RoundTrip
import FreeRDS.Fdsapi.Server

/-! # Queries of a client

`FreeRDS_WTSQuerySessionInformationA` sends a query to the manager, waits for the response and copies the value into a
buffer for the caller. The class that the caller asks for tells the type of the value at four places, two of the server
and two of the client, and the client does not look at the type that comes with the value.
-/

namespace FreeRDS.Fdsapi

open Lib Wire FDSApiServer

/-- `*ppBuffer`. A `ULONG` has 32 bits. -/
inductive Buffer
  | ulong (value : UInt32)
  | ushort (value : UInt16)
  | string (bytes : List UInt8)
  /-- `WTS_CLIENT_ADDRESS`, by the bytes of its address that are not zero. -/
  | clientAddress (address : List UInt8)
  | clientDisplay (horizontalResolution verticalResolution colorDepth : UInt32)
  deriving DecidableEq

/-- `WTS_CURRENT_SESSION`. -/
def currentSession : UInt32 := 0xFFFFFFFF

structure ClientProcess where
  /-- `g_currentSessionId`. -/
  currentSessionId : UInt32
  /-- The number in `FREERDS_SID`. -/
  environment : Option UInt32
  /-- The numbers that `sscanf` finds, if it finds four. -/
  sscanf : List UInt8 → Option (List Int32)

namespace ClientProcess

variable (process : ClientProcess)

def getCurrentSessionId : Option UInt32 :=
  if process.currentSessionId ≠ currentSession then some process.currentSessionId else process.environment

def checkSessionId (sessionId : UInt32) : Option UInt32 :=
  if sessionId = currentSession then process.getCurrentSessionId else some sessionId

end ClientProcess

namespace SessionInfoValue

/-! The members of the union. One that does not hold the value cannot be told. -/

def uint16Value? : SessionInfoValue → Option UInt16
  | uint16 value => some value
  | _ => none

def uint32Value? : SessionInfoValue → Option UInt32
  | uint32 value => some value
  | _ => none

def stringValue? : SessionInfoValue → Option (Option CString)
  | string value => some value
  | _ => none

def displayValue? : SessionInfoValue → Option (UInt32 × UInt32 × UInt32)
  | display width height colorDepth => some (width, height, colorDepth)
  | _ => none

end SessionInfoValue

namespace ClientProcess

variable (process : ClientProcess)

/-- The request with that number, the response of the manager, and the check of its number. There is no value without a
response, and the call waits. -/
def sendRequest (handler : FDSApiHandler) (requestId : UInt16) (request : QuerySessionInformationRequest) :
    Option (Option QuerySessionInformationResponse) :=
  match encodeMessage (.known .querySessionInformationRequest requestId request) with
  | none => return none
  | some s =>
    match rpcMessageReceived handler s.data with
    | .ok [payload] =>
      match decodeMessage.run payload with
      | some (.known .querySessionInformationResponse requestId' response, _) =>
        -- `FDSAPI_HandleResponse` finds the request by its number.
        if requestId = requestId' then some (some response) else none
      | _ => none
    | _ => none

/-- The `switch` on the class that copies the value; without a case the call returns `FALSE`. -/
def copyValue (infoClass : UInt32) (value : SessionInfoValue) : Option (Option Buffer) :=
  match InfoClass.ofCode? infoClass with
  | some .sessionId | some .connectState | some .clientBuildNumber | some .clientHardwareId => do
      let uint32Value ← value.uint32Value?
      return some (.ulong uint32Value)
  | some .clientProductId | some .clientProtocolType => do
      let uint16Value ← value.uint16Value?
      return some (.ushort uint16Value)
  | some .userName | some .winStationName | some .domainName | some .clientName => do
      let stringValue ← value.stringValue?
      return some (.string (CString.text stringValue ++ [0]))
  | some .clientAddress => do
      let stringValue ← value.stringValue?
      match process.sscanf (CString.text stringValue) with
      | some numbers => return some (.clientAddress (numbers.map fun n => n.toUInt32.toUInt8))
      | none => return some (.clientAddress [])
  | some .clientDisplay => do
      let (width, height, colorDepth) ← value.displayValue?
      return some (.clientDisplay width height colorDepth)
  | none => return none

/-- `FreeRDS_WTSQuerySessionInformationA` on the current server and with both pointers: the buffer with `TRUE`, and
nothing with `FALSE`. There is no value if the call does not return. -/
def querySessionInformationA (handler : FDSApiHandler) (requestId : UInt16) (sessionId infoClass : UInt32) :
    Option (Option Buffer) :=
  match process.checkSessionId sessionId with
  | none => return none
  | some sessionId => do
      match ← sendRequest handler requestId ⟨sessionId, infoClass⟩ with
      | none => return none
      | some response =>
        if response.result = 0 then return none
        else process.copyValue infoClass response.infoValue

end ClientProcess

/-! ## The way of a field -/

/-- The response to a query for a field, as it comes out of the decoder. -/
def Field.decoded : Option Field → QuerySessionInformationResponse
  | some field => ⟨1, field.infoValue.identify⟩
  | none => ⟨0, .bool 0⟩

def Field.cut : Field → Field
  | string value => .string (value.takeWhile (· ≠ 0))
  | field => field

def Field.buffer : Field → Buffer
  | uint16 value => .ushort value
  | uint32 value => .ulong value
  | string value => .string (value ++ [0])
  | display width height colorDepth => .clientDisplay width height colorDepth

namespace ClientProcess

variable {process : ClientProcess} {handler : FDSApiHandler}

theorem identify_response (sessionId infoClass : UInt32) :
    (querySessionInformationResponse infoClass
        (handler.querySessionInformation sessionId.toInt32 infoClass.toInt32)).identify =
      Field.decoded (handler.queried sessionId infoClass) := by
  rw [querySessionInformationResponse_eq]
  cases handler.queried sessionId infoClass <;> rfl

theorem strings_response {sessionId infoClass : UInt32}
    (hstr : ∀ value, handler.queried sessionId infoClass = some (.string value) → strlen (strdup value) ≤ 65535) :
    ∀ s ∈ MessageId.strings .querySessionInformationResponse (querySessionInformationResponse infoClass
        (handler.querySessionInformation sessionId.toInt32 infoClass.toInt32)), strlen s ≤ 65535 := by
  rw [querySessionInformationResponse_eq]
  cases hqueried : handler.queried sessionId infoClass with
  | none => exact fun s hs => absurd hs List.not_mem_nil
  | some field =>
    cases field with
    | string value =>
      intro s hs
      rw [List.mem_singleton.mp hs]
      exact hstr value hqueried
    | _ => exact fun s hs => absurd hs List.not_mem_nil

theorem sendRequest_of {requestId : UInt16} {request : QuerySessionInformationRequest} {s : Stream}
    {payload rest : List UInt8} {response : QuerySessionInformationResponse}
    (hencode : encodeMessage (.known .querySessionInformationRequest requestId request) = some s)
    (hsrv : rpcMessageReceived handler s.data = .ok [payload])
    (hresp : decodeMessage.run payload = some (.known .querySessionInformationResponse requestId response, rest)) :
    sendRequest handler requestId request = some (some response) := by
  unfold sendRequest
  rw [hencode]
  dsimp only
  rw [hsrv]
  dsimp only
  rw [hresp]
  exact if_pos rfl

theorem sendRequest_eq (requestId : UInt16) (sessionId infoClass : UInt32)
    (hstr : ∀ value, handler.queried sessionId infoClass = some (.string value) → strlen (strdup value) ≤ 65535) :
    sendRequest handler requestId ⟨sessionId, infoClass⟩ =
      some (some (Field.decoded (handler.queried sessionId infoClass))) := by
  have hidentify := @identify_response handler sessionId infoClass
  have hstrs := @strings_response handler sessionId infoClass hstr
  have hresp : respond handler (.known .querySessionInformationRequest requestId ⟨sessionId, infoClass⟩) =
      .ok (.known .querySessionInformationResponse requestId (querySessionInformationResponse infoClass
        (handler.querySessionInformation sessionId.toInt32 infoClass.toInt32))) := rfl
  generalize querySessionInformationResponse infoClass
    (handler.querySessionInformation sessionId.toInt32 infoClass.toInt32) = response at hidentify hstrs hresp
  have hreq := @run_decodeMessage .querySessionInformationRequest requestId ⟨sessionId, infoClass⟩
    fun s hs => absurd hs List.not_mem_nil
  have hsrv := rpcMessageReceived_eq hreq hresp
  have hshort := @bytes_length_lt .querySessionInformationResponse (by decide) requestId response
  rw [Nat.mod_eq_of_lt hshort, List.take_length] at hsrv
  have hrespo := @run_decodeMessage .querySessionInformationResponse requestId response hstrs
  have hencode := encodeMessage_known .querySessionInformationRequest requestId ⟨sessionId, infoClass⟩
  rw [sendRequest_of hencode hsrv hrespo]
  exact congrArg (fun response => some (some response)) hidentify

theorem text_identify_strdup (value : List UInt8) :
    CString.text (CString.identify (strdup value)) = value.takeWhile (· ≠ 0) :=
  CString.text_ofText_text (strdup value)

theorem copyValue_field (process : ClientProcess) (handler : FDSApiHandler) (session : Manager.Session)
    {infoClass : InfoClass} (hclass : infoClass ≠ .clientAddress) :
    process.copyValue infoClass.code (handler.field session infoClass).infoValue.identify =
      some (some (handler.field session infoClass).cut.buffer) := by
  rw [copyValue, infoClass.ofCode?_code]
  cases infoClass with
  | clientAddress => exact absurd rfl hclass
  | userName | winStationName | domainName | clientName =>
    show some (some (Buffer.string (CString.text (CString.identify (strdup _)) ++ [0]))) = _
    rw [text_identify_strdup]
    rfl
  | _ => rfl

theorem cut_eq_self_iff (field : Field) : field.cut = field ↔ ∀ value, field = .string value → 0 ∉ value := by
  cases field with
  | string value =>
    simp only [Field.cut, Field.string.injEq, List.takeWhile_eq_self_iff, forall_eq']
    constructor
    · intro h hmem
      simpa using h 0 hmem
    · intro h byte hbyte
      have hne : byte ≠ 0 := fun hzero => h (hzero ▸ hbyte)
      simpa using hne
  | _ => simp [Field.cut]

theorem buffer_injective : Function.Injective Field.buffer := by
  intro field field' h
  cases field <;> cases field' <;> simp_all [Field.buffer]

theorem queried_code (sessionId : UInt32) (infoClass : InfoClass) :
    handler.queried sessionId infoClass.code = (handler.getSession sessionId).bind fun session =>
      if infoClass.isClient ∧ ¬FDSApiHandler.isClientConnected session then none
      else some (handler.field session infoClass) := by
  rw [FDSApiHandler.queried, infoClass.ofCode?_code]
  cases handler.getSession sessionId <;> rfl

theorem querySessionInformationA_eq (process : ClientProcess) (requestId : UInt16) {sessionId : UInt32}
    (hcur : sessionId ≠ currentSession) (infoClass : UInt32)
    (hstr : ∀ value, handler.queried sessionId infoClass = some (.string value) → strlen (strdup value) ≤ 65535) :
    process.querySessionInformationA handler requestId sessionId infoClass =
      match handler.queried sessionId infoClass with
      | some field => process.copyValue infoClass field.infoValue.identify
      | none => some none := by
  have hcheck : process.checkSessionId sessionId = some sessionId := by rw [checkSessionId, if_neg hcur]
  simp only [querySessionInformationA, hcheck, sendRequest_eq requestId sessionId infoClass hstr,
    Option.bind_eq_bind, Option.bind_some]
  cases handler.queried sessionId infoClass <;> rfl

theorem querySessionInformationA_of_session {requestId : UInt16} {sessionId : UInt32} {session : Manager.Session}
    {infoClass : InfoClass} (hcur : sessionId ≠ currentSession) (hclass : infoClass ≠ .clientAddress)
    (hses : handler.getSession sessionId = some session)
    (hstr : ∀ value, handler.field session infoClass = .string value → value.length < 8000) :
    process.querySessionInformationA handler requestId sessionId infoClass.code =
      some (if infoClass.isClient ∧ ¬FDSApiHandler.isClientConnected session then none
        else some (handler.field session infoClass).cut.buffer) := by
  have hqueried := @queried_code handler sessionId infoClass
  rw [hses, Option.bind_some] at hqueried
  rw [querySessionInformationA_eq process requestId hcur]
  · by_cases hhidden : infoClass.isClient ∧ ¬FDSApiHandler.isClientConnected session
    · rw [hqueried, if_pos hhidden, if_pos hhidden]
    · rw [hqueried, if_neg hhidden, if_neg hhidden]
      exact copyValue_field process handler session hclass
  · intro value hval
    rw [hqueried] at hval
    split at hval
    · cases hval
    · have hshort := hstr value (Option.some.inj hval)
      have hle : strlen (strdup value) ≤ value.length := (List.takeWhile_sublist _).length_le
      omega

end ClientProcess

open ClientProcess

namespace Sample

/-- A handler with one session, the next one of its store. All its strings are `A`, a zero and `B`. -/
def zeroInName (store : Manager.SessionStore) : FDSApiHandler :=
  { emptyHandler with
    sessionStore := store.createSession
    bytes := fun _ => [65, 0, 66] }

def lastId : Manager.SessionStore := { Manager.SessionStore.empty with nextSessionId := 0xFFFFFFFF }

def process : ClientProcess := ⟨0xFFFFFFFF, none, fun _ => none⟩

end Sample

end FreeRDS.Fdsapi
