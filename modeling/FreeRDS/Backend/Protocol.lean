import FreeRDS.Backend.Transport

/-! # The messages of a backend

A message is a struct that starts with the common members. Its writer sets the length and the flags, then puts out the
header and the members one after the other; its reader takes the members from behind the header. Most messages are a
row of numbers, and for these the reader and the writer are two columns of one `Record`.

A stream is the bytes that are left of it: `Stream_GetRemainingLength` is their number.
-/

namespace FreeRDS.Backend

open Lib Wire Layout

/-! ## Readers and writers -/

/-- A pointer, with what it points to. A pointer that was never set may point anywhere. -/
inductive Pointer (α : Type)
  | null
  | wild
  | data (target : α)
  deriving DecidableEq, Inhabited

/-- `RECTANGLE_16`. -/
structure Rectangle16 where
  left : UInt16
  top : UInt16
  right : UInt16
  bottom : UInt16
  deriving DecidableEq, Inhabited

structure Reading (β : Type) where
  status : Int
  body : β
  deriving DecidableEq

/-- A message that has been written, with the members as the writer leaves them. -/
structure Written (β : Type) where
  common : Common
  body : β
  bytes : List UInt8
  deriving DecidableEq

section

variable {β : Type}

/-- `if (Stream_GetRemainingLength(s) < need) return -1;`. -/
def require (need : Nat) (stream : List UInt8) (body : β) (next : Option (Reading β)) : Option (Reading β) :=
  if stream.length < need then some ⟨-1, body⟩ else next

/-- There is no value if the reader runs over the end of the stream or follows a pointer that was never set. -/
def readRecord (need : Nat) (record : Record β) (stream : List UInt8) (msg : β) : Option (Reading β) :=
  require need stream msg do
    let (msg, _) ← readSlots record.slots stream msg
    pure ⟨0, msg⟩

def header : Record Common where
  slots := headerSlots
  items := [⟨2, (·.type)⟩, ⟨4, (·.length)⟩, ⟨4, (·.msgFlags)⟩]

def headerRect : Record Common where
  slots := rectSlots
  items := [⟨4, (·.rect.x)⟩, ⟨4, (·.rect.y)⟩, ⟨4, (·.rect.width)⟩, ⟨4, (·.rect.height)⟩]

/-- `freerds_write_common_header`. -/
def writeCommonHeader (msg : Common) : List UInt8 :=
  writeItems header.items msg ++ if msg.msgFlags &&& flagRect ≠ 0 then writeItems headerRect.items msg else []

/-- `freerds_write_common_header` without a stream. -/
def commonHeaderLength (msg : Common) : UInt32 := 10 + if msg.msgFlags &&& flagRect ≠ 0 then 16 else 0

/-- What every writer does to the common members, where `bounds` is the rectangle of a message that has one. -/
def stamp (size : UInt32) (bounds : Option Rect) (msg : Common) : Common :=
  match bounds with
  | none =>
    let msg := { msg with msgFlags := 0 }
    { msg with length := commonHeaderLength msg + size }
  | some bounds =>
    let msg := { msg with msgFlags := flagRect }
    { msg with length := commonHeaderLength msg + size, rect := bounds }

def written (common : Common) (msg : β) (data : List UInt8) : Written β :=
  ⟨common, msg, writeCommonHeader common ++ data⟩

def writeRecord (size : UInt32) (bounds : Option (β → Rect)) (record : Record β) (common : Common) (msg : β) :
    Option (Written β) :=
  some (written (stamp size (bounds.map fun bounds => bounds msg) common) msg (writeItems record.items msg))

end

/-- `Stream_Write` from a pointer. There is no value if there is less behind it. -/
def Pointer.take {α : Type} (count : Nat) : Pointer (List α) → Option (List α)
  | .data target => if count ≤ target.length then some (target.take count) else none
  | .null => if count = 0 then some [] else none
  | .wild => if count = 0 then some [] else none

/-! ## Client messages -/

/-- `RDS_MSG_SYNCHRONIZE_KEYBOARD_EVENT`. -/
structure SynchronizeKeyboardEvent where
  flags : UInt32
  deriving DecidableEq, Inhabited

def SynchronizeKeyboardEvent.record : Record SynchronizeKeyboardEvent where
  slots := [⟨4, fun value msg => { msg with flags := value }⟩]
  items := [⟨4, (·.flags)⟩]

def readSynchronizeKeyboardEvent := readRecord 4 SynchronizeKeyboardEvent.record

def writeSynchronizeKeyboardEvent := writeRecord 4 none SynchronizeKeyboardEvent.record

/-- `RDS_MSG_SCANCODE_KEYBOARD_EVENT`. -/
structure ScancodeKeyboardEvent where
  flags : UInt32
  code : UInt32
  keyboardType : UInt32
  deriving DecidableEq, Inhabited

def ScancodeKeyboardEvent.record : Record ScancodeKeyboardEvent where
  slots :=
    [⟨4, fun value msg => { msg with flags := value }⟩,
     ⟨4, fun value msg => { msg with code := value }⟩,
     ⟨4, fun value msg => { msg with keyboardType := value }⟩]
  items := [⟨4, (·.flags)⟩, ⟨4, (·.code)⟩, ⟨4, (·.keyboardType)⟩]

def readScancodeKeyboardEvent := readRecord 12 ScancodeKeyboardEvent.record

def writeScancodeKeyboardEvent := writeRecord 12 none ScancodeKeyboardEvent.record

/-- `RDS_MSG_VIRTUAL_KEYBOARD_EVENT`. -/
structure VirtualKeyboardEvent where
  flags : UInt32
  code : UInt32
  deriving DecidableEq, Inhabited

def VirtualKeyboardEvent.record : Record VirtualKeyboardEvent where
  slots :=
    [⟨4, fun value msg => { msg with flags := value }⟩,
     ⟨4, fun value msg => { msg with code := value }⟩]
  items := [⟨4, (·.flags)⟩, ⟨4, (·.code)⟩]

def readVirtualKeyboardEvent := readRecord 8 VirtualKeyboardEvent.record

def writeVirtualKeyboardEvent := writeRecord 8 none VirtualKeyboardEvent.record

/-- `RDS_MSG_UNICODE_KEYBOARD_EVENT`. -/
structure UnicodeKeyboardEvent where
  flags : UInt32
  code : UInt32
  deriving DecidableEq, Inhabited

def UnicodeKeyboardEvent.record : Record UnicodeKeyboardEvent where
  slots :=
    [⟨4, fun value msg => { msg with flags := value }⟩,
     ⟨4, fun value msg => { msg with code := value }⟩]
  items := [⟨4, (·.flags)⟩, ⟨4, (·.code)⟩]

def readUnicodeKeyboardEvent := readRecord 8 UnicodeKeyboardEvent.record

def writeUnicodeKeyboardEvent := writeRecord 8 none UnicodeKeyboardEvent.record

/-- `RDS_MSG_MOUSE_EVENT`. -/
structure MouseEvent where
  flags : UInt32
  x : UInt32
  y : UInt32
  deriving DecidableEq, Inhabited

def MouseEvent.record : Record MouseEvent where
  slots :=
    [⟨4, fun value msg => { msg with flags := value }⟩,
     ⟨4, fun value msg => { msg with x := value }⟩,
     ⟨4, fun value msg => { msg with y := value }⟩]
  items := [⟨4, (·.flags)⟩, ⟨4, (·.x)⟩, ⟨4, (·.y)⟩]

def readMouseEvent := readRecord 12 MouseEvent.record

def writeMouseEvent := writeRecord 12 none MouseEvent.record

/-- `RDS_MSG_EXTENDED_MOUSE_EVENT`. -/
structure ExtendedMouseEvent where
  flags : UInt32
  x : UInt32
  y : UInt32
  deriving DecidableEq, Inhabited

def ExtendedMouseEvent.record : Record ExtendedMouseEvent where
  slots :=
    [⟨4, fun value msg => { msg with flags := value }⟩,
     ⟨4, fun value msg => { msg with x := value }⟩,
     ⟨4, fun value msg => { msg with y := value }⟩]
  items := [⟨4, (·.flags)⟩, ⟨4, (·.x)⟩, ⟨4, (·.y)⟩]

def readExtendedMouseEvent := readRecord 12 ExtendedMouseEvent.record

def writeExtendedMouseEvent := writeRecord 12 none ExtendedMouseEvent.record

def empty : Record Unit where
  slots := []
  items := []

def readVblankEvent := readRecord 0 empty

def writeVblankEvent := writeRecord 0 none empty

/-- `RDS_MSG_CAPABILITIES`. -/
structure Capabilities where
  version : UInt32
  desktopWidth : UInt32
  desktopHeight : UInt32
  colorDepth : UInt32
  keyboardLayout : UInt32
  keyboardType : UInt32
  keyboardSubType : UInt32
  deriving DecidableEq, Inhabited

def Capabilities.record : Record Capabilities where
  slots :=
    [⟨4, fun value msg => { msg with version := value }⟩,
     ⟨4, fun value msg => { msg with desktopWidth := value }⟩,
     ⟨4, fun value msg => { msg with desktopHeight := value }⟩,
     ⟨4, fun value msg => { msg with colorDepth := value }⟩,
     ⟨4, fun value msg => { msg with keyboardLayout := value }⟩,
     ⟨4, fun value msg => { msg with keyboardType := value }⟩,
     ⟨4, fun value msg => { msg with keyboardSubType := value }⟩]
  items :=
    [⟨4, (·.version)⟩, ⟨4, (·.desktopWidth)⟩, ⟨4, (·.desktopHeight)⟩, ⟨4, (·.colorDepth)⟩,
     ⟨4, (·.keyboardLayout)⟩, ⟨4, (·.keyboardType)⟩, ⟨4, (·.keyboardSubType)⟩]

def readCapabilities := readRecord 28 Capabilities.record

def writeCapabilities := writeRecord 28 none Capabilities.record

/-- `RDS_MSG_REFRESH_RECT`. -/
structure RefreshRect where
  numberOfAreas : UInt32
  areasToRefresh : Pointer (List Rectangle16)
  deriving DecidableEq, Inhabited

def RefreshRect.record : Record RefreshRect where
  slots := [⟨2, fun value msg => { msg with numberOfAreas := value }⟩]
  items := [⟨2, (·.numberOfAreas)⟩]

def Rectangle16.ofBytes (bytes : List UInt8) : Rectangle16 where
  left := .ofNat (Wire.ofBytes (bytes.take 2))
  top := .ofNat (Wire.ofBytes ((bytes.drop 2).take 2))
  right := .ofNat (Wire.ofBytes ((bytes.drop 4).take 2))
  bottom := .ofNat (Wire.ofBytes ((bytes.drop 6).take 2))

def Rectangle16.toBytes (area : Rectangle16) : List UInt8 :=
  Wire.toBytes 2 area.left.toNat ++ Wire.toBytes 2 area.top.toNat ++ Wire.toBytes 2 area.right.toNat ++
    Wire.toBytes 2 area.bottom.toNat

/-- The loop that reads `count` rectangles. -/
def readRectangles : Nat → List UInt8 → List Rectangle16
  | 0, _ => []
  | count + 1, stream => .ofBytes stream :: readRectangles count (stream.drop 8)

variable (stream : List UInt8)

def readRefreshRect (msg : RefreshRect) : Option (Reading RefreshRect) :=
  require 2 stream msg do
    let (msg, stream) ← readSlots RefreshRect.record.slots stream msg
    let count := msg.numberOfAreas.toNat
    let msg := { msg with areasToRefresh := .data (readRectangles (min count (stream.length / 8)) stream) }
    require (8 * count) stream msg (pure ⟨0, msg⟩)

variable (common : Common)

def writeRefreshRect (msg : RefreshRect) : Option (Written RefreshRect) := do
  let areas ← msg.areasToRefresh.take msg.numberOfAreas.toNat
  pure (written (stamp (2 + msg.numberOfAreas * 8) none common) msg
    (writeItems RefreshRect.record.items msg ++ areas.flatMap Rectangle16.toBytes))

/-- `RDS_MSG_SUPPRESS_OUTPUT`. -/
structure SuppressOutput where
  activeOutput : UInt32
  deriving DecidableEq, Inhabited

def SuppressOutput.record : Record SuppressOutput where
  slots := [⟨4, fun value msg => { msg with activeOutput := value }⟩]
  items := [⟨4, (·.activeOutput)⟩]

def readSuppressOutput := readRecord 4 SuppressOutput.record

def writeSuppressOutput := writeRecord 4 none SuppressOutput.record

/-! ## Server messages -/

def readBeginUpdate := readRecord 0 empty

def writeBeginUpdate := writeRecord 0 none empty

def readEndUpdate := readRecord 0 empty

def writeEndUpdate := writeRecord 0 none empty

/-- `RDS_MSG_SET_CLIPPING_REGION`. -/
structure SetClippingRegion where
  bNullRegion : UInt32
  nLeftRect : UInt32
  nTopRect : UInt32
  nWidth : UInt32
  nHeight : UInt32
  deriving DecidableEq, Inhabited

def SetClippingRegion.record : Record SetClippingRegion where
  slots :=
    [⟨2, fun value msg => { msg with bNullRegion := value }⟩,
     ⟨2, fun value msg => { msg with nLeftRect := value }⟩,
     ⟨2, fun value msg => { msg with nTopRect := value }⟩,
     ⟨2, fun value msg => { msg with nWidth := value }⟩,
     ⟨2, fun value msg => { msg with nHeight := value }⟩]
  items := [⟨2, (·.bNullRegion)⟩, ⟨2, (·.nLeftRect)⟩, ⟨2, (·.nTopRect)⟩, ⟨2, (·.nWidth)⟩, ⟨2, (·.nHeight)⟩]

def readSetClippingRegion := readRecord 10 SetClippingRegion.record

def writeSetClippingRegion := writeRecord 10 none SetClippingRegion.record

/-- `RDS_MSG_OPAQUE_RECT`. -/
structure OpaqueRect where
  nLeftRect : UInt32
  nTopRect : UInt32
  nWidth : UInt32
  nHeight : UInt32
  color : UInt32
  deriving DecidableEq, Inhabited

def OpaqueRect.record : Record OpaqueRect where
  slots :=
    [⟨2, fun value msg => { msg with nLeftRect := value }⟩,
     ⟨2, fun value msg => { msg with nTopRect := value }⟩,
     ⟨2, fun value msg => { msg with nWidth := value }⟩,
     ⟨2, fun value msg => { msg with nHeight := value }⟩,
     ⟨4, fun value msg => { msg with color := value }⟩]
  items := [⟨2, (·.nLeftRect)⟩, ⟨2, (·.nTopRect)⟩, ⟨2, (·.nWidth)⟩, ⟨2, (·.nHeight)⟩, ⟨4, (·.color)⟩]

def OpaqueRect.bounds (msg : OpaqueRect) : Rect := ⟨msg.nLeftRect, msg.nTopRect, msg.nWidth, msg.nHeight⟩

def readOpaqueRect := readRecord 12 OpaqueRect.record

def writeOpaqueRect := writeRecord 12 (some OpaqueRect.bounds) OpaqueRect.record

/-- `RDS_MSG_SCREEN_BLT`. -/
structure ScreenBlt where
  nLeftRect : UInt32
  nTopRect : UInt32
  nWidth : UInt32
  nHeight : UInt32
  bRop : UInt32
  nXSrc : UInt32
  nYSrc : UInt32
  deriving DecidableEq, Inhabited

def ScreenBlt.record : Record ScreenBlt where
  slots :=
    [⟨2, fun value msg => { msg with nLeftRect := value }⟩,
     ⟨2, fun value msg => { msg with nTopRect := value }⟩,
     ⟨2, fun value msg => { msg with nWidth := value }⟩,
     ⟨2, fun value msg => { msg with nHeight := value }⟩,
     ⟨2, fun value msg => { msg with nXSrc := value }⟩,
     ⟨2, fun value msg => { msg with nYSrc := value }⟩]
  items :=
    [⟨2, (·.nLeftRect)⟩, ⟨2, (·.nTopRect)⟩, ⟨2, (·.nWidth)⟩, ⟨2, (·.nHeight)⟩, ⟨2, (·.nXSrc)⟩, ⟨2, (·.nYSrc)⟩]

def ScreenBlt.bounds (msg : ScreenBlt) : Rect := ⟨msg.nLeftRect, msg.nTopRect, msg.nWidth, msg.nHeight⟩

def readScreenBlt := readRecord 12 ScreenBlt.record

def writeScreenBlt := writeRecord 12 (some ScreenBlt.bounds) ScreenBlt.record

/-- `RDS_MSG_PAINT_RECT`. The `framebuffer` is either null or that of the backend. -/
structure PaintRect where
  nLeftRect : UInt32
  nTopRect : UInt32
  nWidth : UInt32
  nHeight : UInt32
  nXSrc : UInt32
  nYSrc : UInt32
  bitmapData : Pointer (List UInt8)
  bitmapDataLength : UInt32
  fbSegmentId : UInt32
  framebuffer : Pointer Unit
  deriving DecidableEq, Inhabited

def PaintRect.target : List (Slot PaintRect) :=
  [⟨2, fun value msg => { msg with nLeftRect := value }⟩,
   ⟨2, fun value msg => { msg with nTopRect := value }⟩,
   ⟨2, fun value msg => { msg with nWidth := value }⟩,
   ⟨2, fun value msg => { msg with nHeight := value }⟩,
   ⟨4, fun value msg => { msg with bitmapDataLength := value }⟩]

def PaintRect.segment : List (Slot PaintRect) := [⟨4, fun value msg => { msg with fbSegmentId := value }⟩]

def PaintRect.source : List (Slot PaintRect) :=
  [⟨2, fun value msg => { msg with nWidth := value }⟩,
   ⟨2, fun value msg => { msg with nHeight := value }⟩,
   ⟨2, fun value msg => { msg with nXSrc := value }⟩,
   ⟨2, fun value msg => { msg with nYSrc := value }⟩]

variable (msg : PaintRect)

/-- The size of the rectangle comes twice, and the second one counts. -/
def readPaintRectSource : Option (Reading PaintRect) :=
  require 8 stream msg do
    let (msg, _) ← readSlots PaintRect.source stream msg
    pure ⟨0, msg⟩

def readPaintRect : Option (Reading PaintRect) :=
  require 12 stream msg do
    let (msg, stream) ← readSlots PaintRect.target stream msg
    if msg.bitmapDataLength ≠ 0 then
      let count := msg.bitmapDataLength.toNat
      require count stream msg
        (readPaintRectSource (stream.drop count) { msg with bitmapData := .data (stream.take count) })
    else
      require 4 stream msg do
        let (msg, stream) ← readSlots PaintRect.segment stream msg
        readPaintRectSource stream msg

namespace PaintRect

def targetItems : List (Item PaintRect) :=
  [⟨2, (·.nLeftRect)⟩, ⟨2, (·.nTopRect)⟩, ⟨2, (·.nWidth)⟩, ⟨2, (·.nHeight)⟩]

def sourceItems : List (Item PaintRect) := [⟨2, (·.nWidth)⟩, ⟨2, (·.nHeight)⟩, ⟨2, (·.nXSrc)⟩, ⟨2, (·.nYSrc)⟩]

def bounds : Rect := ⟨msg.nLeftRect, msg.nTopRect, msg.nWidth, msg.nHeight⟩

/-- A segment takes the place of the bitmap, whose length is then zero. -/
def image : Option (List UInt8) :=
  if msg.fbSegmentId ≠ 0 then some (toBytes 4 0 ++ toBytes 4 msg.fbSegmentId.toNat)
  else (msg.bitmapData.take msg.bitmapDataLength.toNat).map fun data =>
    toBytes 4 msg.bitmapDataLength.toNat ++ data

def size : UInt32 := 20 + if msg.fbSegmentId ≠ 0 then 4 else msg.bitmapDataLength

end PaintRect

def writePaintRect : Option (Written PaintRect) := do
  let image ← msg.image
  pure (written (stamp msg.size (some msg.bounds) common) msg
    (writeItems PaintRect.targetItems msg ++ image ++ writeItems PaintRect.sourceItems msg))

/-- `rdpBrush`, whose `data` is a pattern of eight bytes. -/
structure Brush where
  x : UInt32
  y : UInt32
  bpp : UInt32
  style : UInt32
  hatch : UInt32
  index : UInt32
  data : Pointer (Fin 8 → UInt8)
  deriving Inhabited

/-- `RDS_MSG_PATBLT`. -/
structure PatBlt where
  nLeftRect : UInt32
  nTopRect : UInt32
  nWidth : UInt32
  nHeight : UInt32
  bRop : UInt32
  backColor : UInt32
  foreColor : UInt32
  brush : Brush
  deriving Inhabited

def PatBlt.record : Record PatBlt where
  slots :=
    [⟨4, fun value msg => { msg with nLeftRect := value }⟩,
     ⟨4, fun value msg => { msg with nTopRect := value }⟩,
     ⟨4, fun value msg => { msg with nWidth := value }⟩,
     ⟨4, fun value msg => { msg with nHeight := value }⟩,
     ⟨4, fun value msg => { msg with bRop := value }⟩,
     ⟨4, fun value msg => { msg with backColor := value }⟩,
     ⟨4, fun value msg => { msg with foreColor := value }⟩,
     ⟨4, fun value msg => { msg with brush.x := value }⟩,
     ⟨4, fun value msg => { msg with brush.y := value }⟩,
     ⟨4, fun value msg => { msg with brush.bpp := value }⟩,
     ⟨4, fun value msg => { msg with brush.style := value }⟩,
     ⟨4, fun value msg => { msg with brush.hatch := value }⟩,
     ⟨4, fun value msg => { msg with brush.index := value }⟩]
  items :=
    [⟨4, (·.nLeftRect)⟩, ⟨4, (·.nTopRect)⟩, ⟨4, (·.nWidth)⟩, ⟨4, (·.nHeight)⟩, ⟨4, (·.bRop)⟩,
     ⟨4, (·.backColor)⟩, ⟨4, (·.foreColor)⟩, ⟨4, (·.brush.x)⟩, ⟨4, (·.brush.y)⟩, ⟨4, (·.brush.bpp)⟩,
     ⟨4, (·.brush.style)⟩, ⟨4, (·.brush.hatch)⟩, ⟨4, (·.brush.index)⟩]

def PatBlt.bounds (msg : PatBlt) : Rect := ⟨msg.nLeftRect, msg.nTopRect, msg.nWidth, msg.nHeight⟩

/-- The pattern is copied to where `brush.data` points, which this reader does not set. -/
def readPatBlt (msg : PatBlt) : Option (Reading PatBlt) :=
  require 60 stream msg do
    let (msg, stream) ← readSlots PatBlt.record.slots stream msg
    match msg.brush.data with
    | .data _ => pure ⟨0, { msg with brush.data := .data fun i => stream.getD i 0 }⟩
    | .null => none
    | .wild => none

def writePatBlt (msg : PatBlt) : Option (Written PatBlt) :=
  match msg.brush.data with
  | .data pattern =>
    some (written (stamp 60 (some msg.bounds) common) msg
      (writeItems PatBlt.record.items msg ++ List.ofFn pattern))
  | .null => none
  | .wild => none

/-- `RDS_MSG_DSTBLT`. -/
structure DstBlt where
  nLeftRect : UInt32
  nTopRect : UInt32
  nWidth : UInt32
  nHeight : UInt32
  bRop : UInt32
  deriving DecidableEq, Inhabited

def DstBlt.record : Record DstBlt where
  slots :=
    [⟨4, fun value msg => { msg with nLeftRect := value }⟩,
     ⟨4, fun value msg => { msg with nTopRect := value }⟩,
     ⟨4, fun value msg => { msg with nWidth := value }⟩,
     ⟨4, fun value msg => { msg with nHeight := value }⟩,
     ⟨4, fun value msg => { msg with bRop := value }⟩]
  items := [⟨4, (·.nLeftRect)⟩, ⟨4, (·.nTopRect)⟩, ⟨4, (·.nWidth)⟩, ⟨4, (·.nHeight)⟩, ⟨4, (·.bRop)⟩]

def DstBlt.bounds (msg : DstBlt) : Rect := ⟨msg.nLeftRect, msg.nTopRect, msg.nWidth, msg.nHeight⟩

def readDstBlt := readRecord 20 DstBlt.record

def writeDstBlt := writeRecord 20 (some DstBlt.bounds) DstBlt.record

/-- `RDS_MSG_LINE_TO`. -/
structure LineTo where
  backMode : UInt32
  nXStart : UInt32
  nYStart : UInt32
  nXEnd : UInt32
  nYEnd : UInt32
  backColor : UInt32
  bRop2 : UInt32
  penStyle : UInt32
  penWidth : UInt32
  penColor : UInt32
  deriving DecidableEq, Inhabited

def LineTo.record : Record LineTo where
  slots :=
    [⟨4, fun value msg => { msg with nXStart := value }⟩,
     ⟨4, fun value msg => { msg with nYStart := value }⟩,
     ⟨4, fun value msg => { msg with nXEnd := value }⟩,
     ⟨4, fun value msg => { msg with nYEnd := value }⟩,
     ⟨4, fun value msg => { msg with bRop2 := value }⟩,
     ⟨4, fun value msg => { msg with penStyle := value }⟩,
     ⟨4, fun value msg => { msg with penWidth := value }⟩,
     ⟨4, fun value msg => { msg with penColor := value }⟩]
  items :=
    [⟨4, (·.nXStart)⟩, ⟨4, (·.nYStart)⟩, ⟨4, (·.nXEnd)⟩, ⟨4, (·.nYEnd)⟩, ⟨4, (·.bRop2)⟩, ⟨4, (·.penStyle)⟩,
     ⟨4, (·.penWidth)⟩, ⟨4, (·.penColor)⟩]

def readLineTo := readRecord 32 LineTo.record

def writeLineTo := writeRecord 32 none LineTo.record

/-- `RDS_MSG_CREATE_OFFSCREEN_SURFACE`. -/
structure CreateOffscreenSurface where
  cacheIndex : UInt32
  nWidth : UInt32
  nHeight : UInt32
  deriving DecidableEq, Inhabited

def CreateOffscreenSurface.record : Record CreateOffscreenSurface where
  slots :=
    [⟨4, fun value msg => { msg with cacheIndex := value }⟩,
     ⟨2, fun value msg => { msg with nWidth := value }⟩,
     ⟨2, fun value msg => { msg with nHeight := value }⟩]
  items := [⟨4, (·.cacheIndex)⟩, ⟨2, (·.nWidth)⟩, ⟨2, (·.nHeight)⟩]

def readCreateOffscreenSurface := readRecord 8 CreateOffscreenSurface.record

def writeCreateOffscreenSurface := writeRecord 8 none CreateOffscreenSurface.record

/-- `RDS_MSG_SWITCH_OFFSCREEN_SURFACE`. -/
structure SwitchOffscreenSurface where
  cacheIndex : UInt32
  deriving DecidableEq, Inhabited

def SwitchOffscreenSurface.record : Record SwitchOffscreenSurface where
  slots := [⟨4, fun value msg => { msg with cacheIndex := value }⟩]
  items := [⟨4, (·.cacheIndex)⟩]

def readSwitchOffscreenSurface := readRecord 4 SwitchOffscreenSurface.record

def writeSwitchOffscreenSurface := writeRecord 4 none SwitchOffscreenSurface.record

/-- `RDS_MSG_DELETE_OFFSCREEN_SURFACE`. -/
structure DeleteOffscreenSurface where
  cacheIndex : UInt32
  deriving DecidableEq, Inhabited

def DeleteOffscreenSurface.record : Record DeleteOffscreenSurface where
  slots := [⟨4, fun value msg => { msg with cacheIndex := value }⟩]
  items := [⟨4, (·.cacheIndex)⟩]

def readDeleteOffscreenSurface := readRecord 4 DeleteOffscreenSurface.record

def writeDeleteOffscreenSurface := writeRecord 4 none DeleteOffscreenSurface.record

/-- `RDS_MSG_PAINT_OFFSCREEN_SURFACE`. -/
structure PaintOffscreenSurface where
  cacheIndex : UInt32
  nLeftRect : UInt32
  nTopRect : UInt32
  nWidth : UInt32
  nHeight : UInt32
  bRop : UInt32
  nXSrc : UInt32
  nYSrc : UInt32
  deriving DecidableEq, Inhabited

def PaintOffscreenSurface.record : Record PaintOffscreenSurface where
  slots :=
    [⟨4, fun value msg => { msg with cacheIndex := value }⟩,
     ⟨4, fun value msg => { msg with nLeftRect := value }⟩,
     ⟨4, fun value msg => { msg with nTopRect := value }⟩,
     ⟨4, fun value msg => { msg with nWidth := value }⟩,
     ⟨4, fun value msg => { msg with nHeight := value }⟩,
     ⟨4, fun value msg => { msg with nXSrc := value }⟩,
     ⟨4, fun value msg => { msg with nYSrc := value }⟩,
     ⟨4, fun value msg => { msg with bRop := value }⟩]
  items :=
    [⟨4, (·.cacheIndex)⟩, ⟨4, (·.nLeftRect)⟩, ⟨4, (·.nTopRect)⟩, ⟨4, (·.nWidth)⟩, ⟨4, (·.nHeight)⟩,
     ⟨4, (·.nXSrc)⟩, ⟨4, (·.nYSrc)⟩, ⟨4, (·.bRop)⟩]

def readPaintOffscreenSurface := readRecord 32 PaintOffscreenSurface.record

def writePaintOffscreenSurface := writeRecord 32 none PaintOffscreenSurface.record

/-- `RDS_MSG_SET_POINTER`. -/
structure SetPointer where
  xorBpp : UInt32
  xPos : UInt32
  yPos : UInt32
  width : UInt32
  height : UInt32
  lengthAndMask : UInt32
  lengthXorMask : UInt32
  xorMaskData : Pointer (List UInt8)
  andMaskData : Pointer (List UInt8)
  deriving DecidableEq, Inhabited

def SetPointer.record : Record SetPointer where
  slots :=
    [⟨2, fun value msg => { msg with xPos := value }⟩,
     ⟨2, fun value msg => { msg with yPos := value }⟩,
     ⟨2, fun value msg => { msg with xorBpp := value }⟩,
     ⟨2, fun value msg => { msg with lengthXorMask := value }⟩,
     ⟨2, fun value msg => { msg with lengthAndMask := value }⟩]
  items := [⟨2, (·.xPos)⟩, ⟨2, (·.yPos)⟩, ⟨2, (·.xorBpp)⟩, ⟨2, (·.lengthXorMask)⟩, ⟨2, (·.lengthAndMask)⟩]

def readSetPointer (msg : SetPointer) : Option (Reading SetPointer) :=
  require 10 stream msg do
    let (msg, stream) ← readSlots SetPointer.record.slots stream msg
    let count := msg.lengthXorMask.toNat
    require count stream msg
      (let msg := { msg with xorMaskData := .data (stream.take count) }
       let stream := stream.drop count
       let count := msg.lengthAndMask.toNat
       require count stream msg (pure ⟨0, { msg with andMaskData := .data (stream.take count) }⟩))

/-- The defaults, and the limits of the position, which is never below zero: its members are unsigned. -/
def SetPointer.complete (msg : SetPointer) : SetPointer :=
  let xorBpp := if msg.xorBpp = 0 then 24 else msg.xorBpp
  let lengthXorMask := if msg.lengthXorMask = 0 then (xorBpp + 7) / 8 * 32 * 32 else msg.lengthXorMask
  let lengthAndMask := if msg.lengthAndMask = 0 then 32 * (32 / 8) else msg.lengthAndMask
  { msg with
    xorBpp := xorBpp
    lengthXorMask := lengthXorMask
    lengthAndMask := lengthAndMask
    xPos := if 31 < msg.xPos then 31 else msg.xPos
    yPos := if 31 < msg.yPos then 31 else msg.yPos }

def writeSetPointer (msg : SetPointer) : Option (Written SetPointer) := do
  let msg := msg.complete
  let xorMask ← msg.xorMaskData.take msg.lengthXorMask.toNat
  let andMask ← msg.andMaskData.take msg.lengthAndMask.toNat
  pure (written (stamp (10 + msg.lengthXorMask + msg.lengthAndMask) none common) msg
    (writeItems SetPointer.record.items msg ++ xorMask ++ andMask))

/-- `RDS_MSG_SET_SYSTEM_POINTER`. -/
structure SetSystemPointer where
  ptrType : UInt32
  deriving DecidableEq, Inhabited

def SetSystemPointer.record : Record SetSystemPointer where
  slots := [⟨4, fun value msg => { msg with ptrType := value }⟩]
  items := [⟨4, (·.ptrType)⟩]

def readSetSystemPointer := readRecord 4 SetSystemPointer.record

def writeSetSystemPointer := writeRecord 4 none SetSystemPointer.record

/-- `RDS_MSG_SHARED_FRAMEBUFFER`. -/
structure SharedFramebuffer where
  flags : UInt32
  width : UInt32
  height : UInt32
  scanline : UInt32
  segmentId : UInt32
  bitsPerPixel : UInt32
  bytesPerPixel : UInt32
  deriving DecidableEq, Inhabited

def SharedFramebuffer.record : Record SharedFramebuffer where
  slots :=
    [⟨4, fun value msg => { msg with flags := value }⟩,
     ⟨4, fun value msg => { msg with width := value }⟩,
     ⟨4, fun value msg => { msg with height := value }⟩,
     ⟨4, fun value msg => { msg with scanline := value }⟩,
     ⟨4, fun value msg => { msg with segmentId := value }⟩,
     ⟨4, fun value msg => { msg with bitsPerPixel := value }⟩,
     ⟨4, fun value msg => { msg with bytesPerPixel := value }⟩]
  items :=
    [⟨4, (·.flags)⟩, ⟨4, (·.width)⟩, ⟨4, (·.height)⟩, ⟨4, (·.scanline)⟩, ⟨4, (·.segmentId)⟩,
     ⟨4, (·.bitsPerPixel)⟩, ⟨4, (·.bytesPerPixel)⟩]

def readSharedFramebuffer := readRecord 28 SharedFramebuffer.record

def writeSharedFramebuffer := writeRecord 28 none SharedFramebuffer.record

/-- `RAIL_UNICODE_STRING`. -/
structure RailUnicodeString where
  length : UInt32
  string : Pointer (List UInt8)
  deriving DecidableEq, Inhabited

/-- `RDS_MSG_WINDOW_NEW_UPDATE`. -/
structure WindowNewUpdate where
  windowId : UInt32
  ownerWindowId : UInt32
  style : UInt32
  extendedStyle : UInt32
  showState : UInt32
  titleInfo : RailUnicodeString
  clientOffsetX : UInt32
  clientOffsetY : UInt32
  clientAreaWidth : UInt32
  clientAreaHeight : UInt32
  rpContent : UInt32
  rootParentHandle : UInt32
  windowOffsetX : UInt32
  windowOffsetY : UInt32
  windowClientDeltaX : UInt32
  windowClientDeltaY : UInt32
  windowWidth : UInt32
  windowHeight : UInt32
  numWindowRects : UInt32
  windowRects : Pointer (List Rectangle16)
  visibleOffsetX : UInt32
  visibleOffsetY : UInt32
  numVisibilityRects : UInt32
  visibilityRects : Pointer (List Rectangle16)
  deriving Inhabited

namespace WindowNewUpdate

def window : List (Slot WindowNewUpdate) :=
  [⟨4, fun value msg => { msg with windowId := value }⟩,
   ⟨4, fun value msg => { msg with ownerWindowId := value }⟩,
   ⟨4, fun value msg => { msg with style := value }⟩,
   ⟨4, fun value msg => { msg with extendedStyle := value }⟩,
   ⟨4, fun value msg => { msg with showState := value }⟩,
   ⟨2, fun value msg => { msg with titleInfo.length := value }⟩]

def client : List (Slot WindowNewUpdate) :=
  [⟨4, fun value msg => { msg with clientOffsetX := value }⟩,
   ⟨4, fun value msg => { msg with clientOffsetY := value }⟩,
   ⟨4, fun value msg => { msg with clientAreaWidth := value }⟩,
   ⟨4, fun value msg => { msg with clientAreaHeight := value }⟩,
   ⟨4, fun value msg => { msg with rpContent := value }⟩,
   ⟨4, fun value msg => { msg with rootParentHandle := value }⟩,
   ⟨2, fun value msg => { msg with numWindowRects := value }⟩]

def visible : List (Slot WindowNewUpdate) :=
  [⟨4, fun value msg => { msg with visibleOffsetX := value }⟩,
   ⟨4, fun value msg => { msg with visibleOffsetY := value }⟩,
   ⟨2, fun value msg => { msg with numVisibilityRects := value }⟩]

end WindowNewUpdate

/-- The loop that stores `count` rectangles behind a pointer. -/
def Pointer.store (count : Nat) (areas : List Rectangle16) :
    Pointer (List Rectangle16) → Option (Pointer (List Rectangle16))
  | .data target => if count ≤ target.length then some (.data (areas ++ target.drop count)) else none
  | .null => if count = 0 then some .null else none
  | .wild => if count = 0 then some .wild else none

def skip (count : Nat) (stream : List UInt8) : Option (List UInt8) :=
  if stream.length < count then none else some (stream.drop count)

namespace WindowNewUpdate

variable (msg : WindowNewUpdate)

/-- What `titleInfo.string` points to is written over the title in the stream. -/
def readTitle : Option (List UInt8) := do
  let title ← msg.titleInfo.string.take msg.titleInfo.length.toNat
  skip title.length stream

def withWindowRects (areas : List Rectangle16) : WindowNewUpdate :=
  { msg with windowRects := .data areas }

def readWindowRects : Option (WindowNewUpdate × List UInt8) := do
  let rest ← skip (8 * msg.numWindowRects.toNat) stream
  pure (msg.withWindowRects (readRectangles msg.numWindowRects.toNat stream), rest)

def withVisibilityRects (areas : Pointer (List Rectangle16)) : WindowNewUpdate :=
  { msg with visibilityRects := areas }

/-- The rectangles are read to where `visibilityRects` points, which this reader does not set. -/
def readVisibilityRects :
    Option (WindowNewUpdate × List UInt8) := do
  let rest ← skip (8 * msg.numVisibilityRects.toNat) stream
  let areas ← msg.visibilityRects.store msg.numVisibilityRects.toNat
    (readRectangles msg.numVisibilityRects.toNat stream)
  pure (msg.withVisibilityRects areas, rest)

end WindowNewUpdate

open WindowNewUpdate in
/-- Without any check. The flags that say which members come are constant, so that neither the window's offset nor its
size is read, and those at the end are dropped. -/
def readWindowNewUpdate (msg : WindowNewUpdate) : Option (Reading WindowNewUpdate) := do
  let (msg, stream) ← readSlots window stream msg
  let stream ← readTitle stream msg
  let (msg, stream) ← readSlots client stream msg
  let (msg, stream) ← readWindowRects stream msg
  let (msg, stream) ← readSlots visible stream msg
  let (msg, stream) ← readVisibilityRects stream msg
  let _ ← skip 4 stream
  pure ⟨0, msg⟩

namespace WindowNewUpdate

def windowItems : List (Item WindowNewUpdate) :=
  [⟨4, (·.windowId)⟩, ⟨4, (·.ownerWindowId)⟩, ⟨4, (·.style)⟩, ⟨4, (·.extendedStyle)⟩, ⟨4, (·.showState)⟩,
   ⟨2, (·.titleInfo.length)⟩]

def clientItems : List (Item WindowNewUpdate) :=
  [⟨4, (·.clientOffsetX)⟩, ⟨4, (·.clientOffsetY)⟩, ⟨4, (·.clientAreaWidth)⟩, ⟨4, (·.clientAreaHeight)⟩,
   ⟨4, (·.rpContent)⟩, ⟨4, (·.rootParentHandle)⟩, ⟨4, (·.windowOffsetX)⟩, ⟨4, (·.windowOffsetY)⟩,
   ⟨4, (·.windowClientDeltaX)⟩, ⟨4, (·.windowClientDeltaY)⟩, ⟨4, (·.windowWidth)⟩, ⟨4, (·.windowHeight)⟩,
   ⟨2, (·.numWindowRects)⟩]

def visibleItems : List (Item WindowNewUpdate) :=
  [⟨4, (·.visibleOffsetX)⟩, ⟨4, (·.visibleOffsetY)⟩, ⟨2, (·.numVisibilityRects)⟩]

/-- The `WINDOW_ORDER` flags of a new window and of all the fields that are written. -/
def orderFlags : UInt32 :=
  0x01000000 ||| 0x10000000 ||| 0x00000002 ||| 0x00000008 ||| 0x00000010 ||| 0x00000004 ||| 0x00004000 |||
    0x00010000 ||| 0x00040000 ||| 0x00000800 ||| 0x00008000 ||| 0x00000400 ||| 0x00000100 ||| 0x00001000 ||| 0x00000200

def size (msg : WindowNewUpdate) : UInt32 :=
  5 * 4 + (2 + msg.titleInfo.length) + 12 * 4 + (2 + msg.numWindowRects * 8) + (4 + 4) +
    (2 + msg.numVisibilityRects * 8) + 4

end WindowNewUpdate

open WindowNewUpdate in
/-- Unlike the reader, the writer has the window's offset and size among the members. -/
def writeWindowNewUpdate (msg : WindowNewUpdate) : Option (Written WindowNewUpdate) := do
  let title ← msg.titleInfo.string.take msg.titleInfo.length.toNat
  let windowRects ← msg.windowRects.take msg.numWindowRects.toNat
  let visibilityRects ← msg.visibilityRects.take msg.numVisibilityRects.toNat
  pure (written (stamp msg.size none common) msg
    (writeItems windowItems msg ++ title ++ writeItems clientItems msg ++ windowRects.flatMap Rectangle16.toBytes ++
      writeItems visibleItems msg ++ visibilityRects.flatMap Rectangle16.toBytes ++ toBytes 4 orderFlags.toNat))

/-- `RDS_MSG_WINDOW_DELETE`. -/
structure WindowDelete where
  windowId : UInt32
  deriving DecidableEq, Inhabited

def WindowDelete.record : Record WindowDelete where
  slots := [⟨4, fun value msg => { msg with windowId := value }⟩]
  items := [⟨4, (·.windowId)⟩]

def readWindowDelete := readRecord 4 WindowDelete.record

def writeWindowDelete := writeRecord 4 none WindowDelete.record

/-- `RDS_MSG_LOGON_USER`. A string is the characters in front of the one that ends it. -/
structure LogonUser where
  flags : UInt32
  userLength : UInt32
  domainLength : UInt32
  passwordLength : UInt32
  user : Pointer (List UInt8)
  domain : Pointer (List UInt8)
  password : Pointer (List UInt8)
  deriving DecidableEq, Inhabited

def LogonUser.record : Record LogonUser where
  slots :=
    [⟨4, fun value msg => { msg with flags := value }⟩,
     ⟨4, fun value msg => { msg with userLength := value }⟩,
     ⟨4, fun value msg => { msg with domainLength := value }⟩,
     ⟨4, fun value msg => { msg with passwordLength := value }⟩]
  items := [⟨4, (·.flags)⟩, ⟨4, (·.userLength)⟩, ⟨4, (·.domainLength)⟩, ⟨4, (·.passwordLength)⟩]

/-- A string of a given length, in a buffer of one byte more. The size of the buffer is a `UINT32` as well. -/
def readString (length : UInt32) (stream : List UInt8) : Option (Pointer (List UInt8) × List UInt8) :=
  if length = 0 then some (.null, stream)
  else if length + 1 = 0 then none
  else if stream.length < length.toNat then none
  else some (.data (stream.take length.toNat), stream.drop length.toNat)

def readLogonUser (msg : LogonUser) : Option (Reading LogonUser) :=
  require 16 stream msg do
    let (msg, stream) ← readSlots LogonUser.record.slots stream msg
    let (user, stream) ← readString msg.userLength stream
    let (domain, stream) ← readString msg.domainLength stream
    let (password, _) ← readString msg.passwordLength stream
    pure ⟨0, { msg with user := user, domain := domain, password := password }⟩

def Pointer.text : Pointer (List UInt8) → List UInt8
  | .data target => target.takeWhile (· ≠ 0)
  | .null => []
  | .wild => []

/-- `strlen`, unless the pointer is null. -/
def Pointer.strlen : Pointer (List UInt8) → Option UInt32
  | .data target => some (.ofNat (Pointer.data target).text.length)
  | .null => some 0
  | .wild => none

def writeLogonUser (msg : LogonUser) : Option (Written LogonUser) := do
  let userLength ← msg.user.strlen
  let domainLength ← msg.domain.strlen
  let passwordLength ← msg.password.strlen
  let msg := { msg with userLength := userLength, domainLength := domainLength, passwordLength := passwordLength }
  let user ← msg.user.take userLength.toNat
  let domain ← msg.domain.take domainLength.toNat
  let password ← msg.password.take passwordLength.toNat
  pure (written (stamp (16 + userLength + domainLength + passwordLength) none common) msg
    (writeItems LogonUser.record.items msg ++ user ++ domain ++ password))

/-- `RDS_MSG_LOGOFF_USER`. -/
structure LogoffUser where
  flags : UInt32
  deriving DecidableEq, Inhabited

def LogoffUser.record : Record LogoffUser where
  slots := [⟨4, fun value msg => { msg with flags := value }⟩]
  items := [⟨4, (·.flags)⟩]

def readLogoffUser := readRecord 4 LogoffUser.record

def writeLogoffUser := writeRecord 4 none LogoffUser.record

/-! ## Messages without a format

Their readers and writers return 0 and do nothing else.
-/

/-- `RDS_MSG_SET_PALETTE`. -/
structure SetPalette where
  palette : Pointer (List UInt32)
  deriving DecidableEq, Inhabited

/-- `RDS_GLYPH_DATA`. -/
structure GlyphData where
  cacheIndex : UInt32
  x : UInt32
  y : UInt32
  cx : UInt32
  cy : UInt32
  cb : UInt32
  aj : Pointer (List UInt8)
  deriving DecidableEq, Inhabited

/-- `RDS_MSG_CACHE_GLYPH`. -/
structure CacheGlyph where
  cacheId : UInt32
  flags : UInt32
  cGlyphs : UInt32
  glyphData : Pointer (List GlyphData)
  unicodeCharacters : Pointer (List UInt8)
  deriving DecidableEq, Inhabited

/-- `RDS_MSG_GLYPH_INDEX`. -/
structure GlyphIndex where
  cacheId : UInt32
  flAccel : UInt32
  ulCharInc : UInt32
  fOpRedundant : UInt32
  backColor : UInt32
  foreColor : UInt32
  bkLeft : UInt32
  bkTop : UInt32
  bkRight : UInt32
  bkBottom : UInt32
  opLeft : UInt32
  opTop : UInt32
  opRight : UInt32
  opBottom : UInt32
  brush : Brush
  x : UInt32
  y : UInt32
  cbData : UInt32
  data : Pointer (List UInt8)
  deriving Inhabited

/-- `RDS_MSG_RESET`. -/
structure Reset where
  desktopWidth : UInt32
  desktopHeight : UInt32
  colorDepth : UInt32
  deriving DecidableEq, Inhabited

end FreeRDS.Backend
