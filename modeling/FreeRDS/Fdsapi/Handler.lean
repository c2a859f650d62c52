import FreeRDS.Fdsapi.Messages
import FreeRDS.Manager.Store

/-! # The handler of the API

`FDSApiHandler` answers requests from the session store. Numbers come and go through the signed types of its
`TReturn…` classes; strings are `std::string`s, which may hold any bytes.
-/

namespace FreeRDS.Fdsapi

open Lib

/-- The values of `WTS_INFO_CLASS` that have a case. -/
inductive InfoClass
  | sessionId | userName | winStationName | domainName | connectState
  | clientBuildNumber | clientName | clientProductId | clientHardwareId | clientAddress
  | clientDisplay | clientProtocolType
  deriving DecidableEq, Repr

namespace InfoClass

def code : InfoClass → UInt32
  | sessionId => 4
  | userName => 5
  | winStationName => 6
  | domainName => 7
  | connectState => 8
  | clientBuildNumber => 9
  | clientName => 10
  | clientProductId => 12
  | clientHardwareId => 13
  | clientAddress => 14
  | clientDisplay => 15
  | clientProtocolType => 16

def all : List InfoClass :=
  [sessionId, userName, winStationName, domainName, connectState, clientBuildNumber, clientName, clientProductId,
    clientHardwareId, clientAddress, clientDisplay, clientProtocolType]

/-- The case of a `switch` on the class, where there is one. -/
def ofCode? (code : UInt32) : Option InfoClass := all.find? fun infoClass => infoClass.code = code

theorem ofCode?_code (infoClass : InfoClass) : ofCode? infoClass.code = some infoClass := by
  cases infoClass <;> decide

def isClient : InfoClass → Bool
  | sessionId | userName | winStationName | domainName | connectState => false
  | clientBuildNumber | clientName | clientProductId | clientHardwareId | clientAddress | clientDisplay
  | clientProtocolType => true

end InfoClass

/-- The values of `WTS_CONNECTSTATE_CLASS`. -/
def connectStateCode : Manager.ConnectState → UInt32
  | .active => 0
  | .connected => 1
  | .connectQuery => 2
  | .shadow => 3
  | .disconnected => 4
  | .idle => 5
  | .listen => 6
  | .reset => 7
  | .down => 8
  | .init => 9

structure TClientDisplay where
  displayWidth : Int32
  displayHeight : Int32
  colorDepth : Int32
  deriving DecidableEq

structure TSessionInfo where
  sessionId : Int32
  connectState : Int32
  winStationName : List UInt8
  deriving DecidableEq

structure TSessionInfoValue where
  int16Value : Int16
  int32Value : Int32
  stringValue : List UInt8
  displayValue : TClientDisplay
  deriving DecidableEq

structure TReturnEnumerateSessions where
  returnValue : Bool
  sessionInfoList : List TSessionInfo
  deriving DecidableEq

structure TReturnQuerySessionInformation where
  returnValue : Bool
  infoValue : TSessionInfoValue
  deriving DecidableEq

/-- `FDSApiHandler` and what it finds in the application context. -/
structure FDSApiHandler where
  sessionStore : Manager.SessionStore
  /-- The bytes of a `std::string` of a session. -/
  bytes : String → List UInt8
  /-- The status for a session, a user name, a password and a domain. -/
  authenticateUser : Int32 → List UInt8 → List UInt8 → List UInt8 → Int32
  /-- The port and the GUID that come back from the connection of a session for a channel of that name. -/
  virtualChannelOpen : Int32 → List UInt8 → UInt32 × List UInt8
  /-- What a `TReturnQuerySessionInformation` holds that nothing has been assigned to. -/
  unassigned : TReturnQuerySessionInformation

namespace FDSApiHandler

variable (handler : FDSApiHandler)

def virtualChannelOpenEx (_sessionId : Int32) (_virtualName : List UInt8) (_flags : Int32) : UInt32 × List UInt8 :=
  (0, [])

def disconnectSession (_sessionId : Int32) (_wait : Bool) : Bool := false

def logoffSession (_sessionId : Int32) (_wait : Bool) : Bool := false

def shutdownSystem (_shutdownFlag : Int32) : Bool := false

variable (session : Manager.Session)

def sessionInfo : TSessionInfo where
  sessionId := session.sessionId.toInt32
  connectState := (connectStateCode session.currentState).toInt32
  winStationName := handler.bytes session.winStationName

def sessions : List Manager.Session :=
  handler.sessionStore.getAllSessions.map handler.sessionStore.heap.cell

/-- The count is a `DWORD`. -/
def enumerateSessions : TReturnEnumerateSessions :=
  let count := handler.sessions.length % 2 ^ 32
  ⟨true, (handler.sessions.take count).map handler.sessionInfo⟩

def isClientConnected : Bool :=
  session.currentState = .connected ∨ session.currentState = .active

/-- The `switch` on the class. -/
def infoValue (infoClass : InfoClass) (value : TSessionInfoValue) : TSessionInfoValue :=
  match infoClass with
  | .sessionId => { value with int32Value := session.sessionId.toInt32 }
  | .userName => { value with stringValue := handler.bytes session.username }
  | .winStationName => { value with stringValue := handler.bytes session.winStationName }
  | .domainName => { value with stringValue := handler.bytes session.domain }
  | .connectState => { value with int32Value := (connectStateCode session.currentState).toInt32 }
  | .clientBuildNumber => { value with int32Value := session.clientBuildNumber.toInt32 }
  | .clientName => { value with stringValue := handler.bytes session.clientName }
  | .clientProductId => { value with int16Value := session.clientProductId.toInt16 }
  | .clientHardwareId => { value with int32Value := session.clientHardwareId.toInt32 }
  | .clientAddress => { value with stringValue := handler.bytes session.clientAddress }
  | .clientDisplay =>
    { value with
      displayValue := ⟨session.clientDisplayWidth.toInt32, session.clientDisplayHeight.toInt32,
        session.clientDisplayColorDepth.toInt32⟩ }
  | .clientProtocolType => { value with int16Value := session.clientProtocolType.toInt16 }

def getSession (sessionId : UInt32) : Option Manager.Session :=
  (handler.sessionStore.getSession sessionId).map handler.sessionStore.heap.cell

def querySessionInformation (sessionId infoClass : Int32) : TReturnQuerySessionInformation :=
  match handler.getSession sessionId.toUInt32, InfoClass.ofCode? infoClass.toUInt32 with
  | some session, some infoClass =>
    if infoClass.isClient ∧ ¬isClientConnected session then { handler.unassigned with returnValue := false }
    else ⟨true, handler.infoValue session infoClass handler.unassigned.infoValue⟩
  | _, _ => { handler.unassigned with returnValue := false }

/-! ## The sessions of the store -/

variable {handler}

theorem enumerateSessions_length_lt (handler : FDSApiHandler) :
    handler.enumerateSessions.sessionInfoList.length < 2 ^ 32 := by
  have hlt : handler.sessions.length % 2 ^ 32 < 2 ^ 32 := Nat.mod_lt _ (by decide)
  rw [enumerateSessions, List.length_map, List.length_take]
  omega

end FDSApiHandler

end FreeRDS.Fdsapi
