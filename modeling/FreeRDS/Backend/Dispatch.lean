import FreeRDS.Backend.Protocol

/-! # Callbacks

`freerds_receive_message` reads the body of a message to a struct on the stack and passes it on. Nobody clears the
struct, and nobody looks at what the reader returned: a callback is made for whatever the struct holds then.
-/

namespace FreeRDS.Backend

open Lib Layout

/-! ## Server messages -/

/-- The messages that `freerds_receive_server_message` has a case for. -/
inductive ServerMessage
  | beginUpdate
  | endUpdate
  | setClippingRegion
  | opaqueRect
  | screenBlt
  | paintRect
  | patBlt
  | dstBlt
  | lineTo
  | createOffscreenSurface
  | switchOffscreenSurface
  | deleteOffscreenSurface
  | paintOffscreenSurface
  | setPointer
  | sharedFramebuffer
  | windowNewUpdate
  | windowDelete
  | setSystemPointer
  | logonUser
  | logoffUser
  deriving DecidableEq

namespace ServerMessage

def ofType (type : UInt32) : Option ServerMessage :=
  match type.toNat with
  | 1 => some beginUpdate
  | 2 => some endUpdate
  | 3 => some setClippingRegion
  | 4 => some opaqueRect
  | 5 => some screenBlt
  | 6 => some paintRect
  | 7 => some patBlt
  | 8 => some dstBlt
  | 9 => some lineTo
  | 10 => some createOffscreenSurface
  | 11 => some switchOffscreenSurface
  | 12 => some deleteOffscreenSurface
  | 13 => some paintOffscreenSurface
  | 17 => some setPointer
  | 18 => some sharedFramebuffer
  | 21 => some windowNewUpdate
  | 22 => some windowDelete
  | 23 => some setSystemPointer
  | 24 => some logonUser
  | 25 => some logoffUser
  | _ => none

def Body : ServerMessage → Type
  | beginUpdate => Unit
  | endUpdate => Unit
  | setClippingRegion => SetClippingRegion
  | opaqueRect => OpaqueRect
  | screenBlt => ScreenBlt
  | paintRect => PaintRect
  | patBlt => PatBlt
  | dstBlt => DstBlt
  | lineTo => LineTo
  | createOffscreenSurface => CreateOffscreenSurface
  | switchOffscreenSurface => SwitchOffscreenSurface
  | deleteOffscreenSurface => DeleteOffscreenSurface
  | paintOffscreenSurface => PaintOffscreenSurface
  | setPointer => SetPointer
  | sharedFramebuffer => SharedFramebuffer
  | windowNewUpdate => WindowNewUpdate
  | windowDelete => WindowDelete
  | setSystemPointer => SetSystemPointer
  | logonUser => LogonUser
  | logoffUser => LogoffUser

end ServerMessage

namespace PaintRect

def detached (msg : PaintRect) : PaintRect := { msg with fbSegmentId := 0, framebuffer := .null }

def attached (msg : PaintRect) : PaintRect :=
  if msg.fbSegmentId ≠ 0 then { msg with framebuffer := .data () } else msg

end PaintRect

namespace ServerMessage

/-- `freerds_server_message_read`, for the types that there are cases for. -/
def read : (kind : ServerMessage) → List UInt8 → kind.Body → Option (Reading kind.Body)
  | beginUpdate => readBeginUpdate
  | endUpdate => readEndUpdate
  | setClippingRegion => readSetClippingRegion
  | opaqueRect => readOpaqueRect
  | screenBlt => readScreenBlt
  | paintRect => readPaintRect
  | patBlt => readPatBlt
  | dstBlt => readDstBlt
  | lineTo => readLineTo
  | createOffscreenSurface => readCreateOffscreenSurface
  | switchOffscreenSurface => readSwitchOffscreenSurface
  | deleteOffscreenSurface => readDeleteOffscreenSurface
  | paintOffscreenSurface => readPaintOffscreenSurface
  | setPointer => readSetPointer
  | sharedFramebuffer => readSharedFramebuffer
  | windowNewUpdate => readWindowNewUpdate
  | windowDelete => readWindowDelete
  | setSystemPointer => readSetSystemPointer
  | logonUser => readLogonUser
  | logoffUser => readLogoffUser

def prepare : (kind : ServerMessage) → kind.Body → kind.Body
  | paintRect, msg => PaintRect.detached msg
  | _, msg => msg

def finish : (kind : ServerMessage) → kind.Body → kind.Body
  | paintRect, msg => PaintRect.attached msg
  | _, msg => msg

/-- The struct that is passed on, where `memory` is what it held. -/
def receive (kind : ServerMessage) (stream : List UInt8) (memory : kind.Body) : Option kind.Body :=
  (kind.read stream (kind.prepare memory)).map fun reading => kind.finish reading.body

end ServerMessage

/-- The messages that `freerds_receive_client_message` has a case for. -/
inductive ClientMessage
  | capabilities
  | synchronizeKeyboardEvent
  | scancodeKeyboardEvent
  | virtualKeyboardEvent
  | unicodeKeyboardEvent
  | mouseEvent
  | extendedMouseEvent
  | vblankEvent
  deriving DecidableEq

namespace ClientMessage

def ofType (type : UInt32) : Option ClientMessage :=
  match type.toNat with
  | 102 => some capabilities
  | 104 => some synchronizeKeyboardEvent
  | 105 => some scancodeKeyboardEvent
  | 106 => some virtualKeyboardEvent
  | 107 => some unicodeKeyboardEvent
  | 108 => some mouseEvent
  | 109 => some extendedMouseEvent
  | 110 => some vblankEvent
  | _ => none

def Body : ClientMessage → Type
  | capabilities => Capabilities
  | synchronizeKeyboardEvent => SynchronizeKeyboardEvent
  | scancodeKeyboardEvent => ScancodeKeyboardEvent
  | virtualKeyboardEvent => VirtualKeyboardEvent
  | unicodeKeyboardEvent => UnicodeKeyboardEvent
  | mouseEvent => MouseEvent
  | extendedMouseEvent => ExtendedMouseEvent
  | vblankEvent => Unit

def read : (kind : ClientMessage) → List UInt8 → kind.Body → Option (Reading kind.Body)
  | capabilities => readCapabilities
  | synchronizeKeyboardEvent => readSynchronizeKeyboardEvent
  | scancodeKeyboardEvent => readScancodeKeyboardEvent
  | virtualKeyboardEvent => readVirtualKeyboardEvent
  | unicodeKeyboardEvent => readUnicodeKeyboardEvent
  | mouseEvent => readMouseEvent
  | extendedMouseEvent => readExtendedMouseEvent
  | vblankEvent => readVblankEvent

end ClientMessage

/-! ## The call -/

inductive Callback
  | server (kind : ServerMessage) (common : Common) (msg : kind.Body)
  | capabilities (common : Common) (msg : Capabilities)
  | synchronizeKeyboardEvent (flags : UInt32)
  | scancodeKeyboardEvent (flags code keyboardType : UInt32)
  | virtualKeyboardEvent (flags code : UInt32)
  | unicodeKeyboardEvent (flags code : UInt32)
  | mouseEvent (flags x y : UInt32)
  | extendedMouseEvent (flags x y : UInt32)
  | vblankEvent

structure Stack where
  server : (kind : ServerMessage) → kind.Body
  client : (kind : ClientMessage) → kind.Body

structure Connector where
  serverMode : Bool
  capabilities : Bool
  vblankEvent : Bool

/-- `freerds_receive_server_message`. There is no value if the reader has none. -/
def receiveServerMessage (stack : Stack) (handed : Handed) : Option (Option Callback) :=
  match ServerMessage.ofType handed.common.type with
  | none => some none
  | some kind => (kind.receive handed.stream (stack.server kind)).map fun msg => some (.server kind handed.common msg)

variable (connector : Connector)

def clientCallback (common : Common) : (kind : ClientMessage) → kind.Body → Option Callback
  | .capabilities, msg => if connector.capabilities then some (.capabilities common msg) else none
  | .synchronizeKeyboardEvent, msg => some (.synchronizeKeyboardEvent msg.flags)
  | .scancodeKeyboardEvent, msg => some (.scancodeKeyboardEvent msg.flags msg.code msg.keyboardType)
  | .virtualKeyboardEvent, msg => some (.virtualKeyboardEvent msg.flags msg.code)
  | .unicodeKeyboardEvent, msg => some (.unicodeKeyboardEvent msg.flags msg.code)
  | .mouseEvent, msg => some (.mouseEvent msg.flags msg.x msg.y)
  | .extendedMouseEvent, msg => some (.extendedMouseEvent msg.flags msg.x msg.y)
  | .vblankEvent, _ => if connector.vblankEvent then some .vblankEvent else none

/-- `freerds_receive_client_message`. -/
def receiveClientMessage (stack : Stack) (handed : Handed) : Option (Option Callback) :=
  match ClientMessage.ofType handed.common.type with
  | none => some none
  | some kind =>
    (kind.read handed.stream (stack.client kind)).map fun reading =>
      clientCallback connector handed.common kind reading.body

/-- `freerds_receive_message`. -/
def receiveMessage (stack : Stack) (handed : Handed) : Option (Option Callback) :=
  if connector.serverMode then receiveClientMessage connector stack handed else receiveServerMessage stack handed

/-- A message that there is no case for leaves the buffer as it is; `effect` is what the readers and the callbacks do to
it otherwise. -/
def handler (effect : Handler) : Handler := fun handed buffer =>
  if connector.serverMode then
    match ClientMessage.ofType handed.common.type with
    | none => buffer
    | some _ => effect handed buffer
  else
    match ServerMessage.ofType handed.common.type with
    | none => buffer
    | some _ => effect handed buffer

end FreeRDS.Backend
