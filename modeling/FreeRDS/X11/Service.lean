import FreeRDS.Core.Connector
import FreeRDS.X11.Modes

/-! # The X11 service

`rdpUpdate.c`, `rdpScreen.c` and the part of `rdpRandr.c` that changes the size of the screen. One client is connected at
a time; what it is sent is logged together with the connection and with `g_rdpScreen` as it was.
-/

namespace FreeRDS.X11

open Backend FreeRDS.Core

/-- `g_rdpScreen`. -/
structure ScreenInfo where
  width : Int32
  height : Int32
  depth : Int32
  scanline : Int32
  bitsPerPixel : Int32
  bytesPerPixel : Int32
  sizeInBytes : Int32
  segmentId : Int32
  pfbMemory : Bool
  fbAttached : Bool

def rdpScreenBitsPerPixel (depth : Int32) : Int32 :=
  if depth = 1 then 1 else if depth ≤ 8 then 8 else if depth ≤ 16 then 16 else 32

structure SharedMemory where
  shmmin : Int32
  shmget : Int32
  shmat : Bool

def rdpScreenFrameBufferAlloc (memory : SharedMemory) (screen : ScreenInfo) : ScreenInfo :=
  let bitsPerPixel := rdpScreenBitsPerPixel screen.depth
  let bytesPerPixel := bitsPerPixel / 8
  let scanline := screen.width * bytesPerPixel
  let scanline := scanline + scanline % 16
  let sizeInBytes := scanline * screen.height
  let sizeInBytes := if 0 < memory.shmmin ∧ sizeInBytes < memory.shmmin then memory.shmmin else sizeInBytes
  let screen := { screen with bitsPerPixel, bytesPerPixel, scanline, sizeInBytes }
  if screen.pfbMemory then screen else { screen with segmentId := memory.shmget, pfbMemory := memory.shmat }

variable (screen : ScreenInfo)

def rdpScreenFrameBufferFree : ScreenInfo := { screen with pfbMemory := false }

/-! ## Messages -/

structure Message where
  kind : ServerMessage
  body : kind.Body

def Message.framebuffer? : Message → Option SharedFramebuffer
  | ⟨.sharedFramebuffer, msg⟩ => some msg
  | _ => none

def ScreenInfo.framebuffer (flags : UInt32) : SharedFramebuffer where
  flags := flags
  width := screen.width.toUInt32
  height := screen.height.toUInt32
  scanline := screen.scanline.toUInt32
  segmentId := screen.segmentId.toUInt32
  bitsPerPixel := screen.depth.toUInt32
  bytesPerPixel := screen.bytesPerPixel.toUInt32

structure Sent where
  connection : Nat
  message : Message
  screen : ScreenInfo

structure Service where
  screen : ScreenInfo
  /-- The size in `pScreen`, a `ScreenRec`, where it is a `short`. -/
  pScreenWidth : Int16
  pScreenHeight : Int16
  randr : RandR
  hServerPipe : Bool := true
  hClientPipe : Bool := false
  /-- `g_connected`. -/
  connected : Bool := false
  /-- `g_active`. -/
  active : Bool := false
  crashed : Bool := false
  connection : Nat := 0
  log : List Sent := []

/-- The service behind `rdp_init`, with the modes that have been probed. -/
def Service.start (shmmax : Int) (initial : Size) : Service where
  screen := { screen with fbAttached := false }
  pScreenWidth := initial.width.toInt16
  pScreenHeight := initial.height.toInt16
  randr := rdpProbeModes shmmax initial

def freerdsServerOutboundWriteMessage (message : Message) (service : Service) : Service :=
  { service with log := service.log ++ [⟨service.connection, message, service.screen⟩] }

variable (service : Service)

def Service.setAttached (fbAttached : Bool) : Service :=
  { service with screen := { service.screen with fbAttached := fbAttached } }

def rdpAttachFramebuffer : Service :=
  if !service.active then service
  else if !service.screen.fbAttached then
    let msg : SharedFramebuffer := service.screen.framebuffer flagAttach
    (freerdsServerOutboundWriteMessage ⟨.sharedFramebuffer, msg⟩ service).setAttached true
  else service

def rdpSendUpdate (message : Message) (service : Service) : Service :=
  if service.connected && service.active then
    freerdsServerOutboundWriteMessage message (rdpAttachFramebuffer service)
  else service

def rdpDetachFramebuffer : Service :=
  if service.screen.fbAttached then
    let msg : SharedFramebuffer := service.screen.framebuffer 0
    (rdpSendUpdate ⟨.sharedFramebuffer, msg⟩ service).setAttached false
  else service

/-- The area that `rdp_send_area_update` asks the client to paint: the left and the top side, the width and the height. -/
def paintedArea (x y w h : Int32) : Int32 × Int32 × Int32 × Int32 :=
  let x := if x < 0 then 0 else x
  let x := if x > screen.width - 1 then screen.width - 1 else x
  let w := w + x % 16
  let x := x - x % 16
  let w := w + w % 16
  let w := if x + w > screen.width then screen.width - x else w
  let y := if y < 0 then 0 else y
  let y := if y > screen.height - 1 then screen.height - 1 else y
  let h := h + y % 16
  let y := y - y % 16
  let h := h + h % 16
  let h := if h > screen.height then screen.height else h
  let h := if y + h > screen.height then screen.height - y else h
  (x, y, w, h)

def rdpSendAreaUpdate (x y w h : Int32) (service : Service) : Service :=
  let (x, y, w, h) := paintedArea service.screen x y w h
  if w * h < 1 then service
  else
    let msg : PaintRect :=
      { nLeftRect := x.toUInt32
        nTopRect := y.toUInt32
        nWidth := w.toUInt32
        nHeight := h.toUInt32
        nXSrc := 0
        nYSrc := 0
        bitmapData := .null
        bitmapDataLength := 0
        fbSegmentId := service.screen.segmentId.toUInt32
        framebuffer := .wild }
    rdpSendUpdate ⟨.paintRect, msg⟩ service

structure Update extends Message where
  drawn : kind ≠ .sharedFramebuffer

inductive Drawing
  | update (message : Update)
  | area (x y w h : Int32)

def Drawing.send : Drawing → Service
  | .update message => rdpSendUpdate message.toMessage service
  | .area x y w h => rdpSendAreaUpdate x y w h service

/-! ## The size of the screen -/

/-- What happens around one `rdpRRScreenSetSize`: whether the output takes the modes, what is drawn when the root window
is unmapped, the new segment, and what is drawn on it in the end. -/
structure Surroundings where
  setModes : Bool
  unmapped : List Drawing
  memory : SharedMemory
  painted : List Drawing

/-- `rdpRRScreenSetSize` as far as the new framebuffer. -/
def replaceFrameBuffer (around : Surroundings) (width height : UInt16) (service : Service) : Service :=
  let randr := rdpModeSelect around.setModes ⟨width, height⟩ { service.randr with width, height }
  let service := around.unmapped.foldl Drawing.send { service with randr }
  let service := rdpDetachFramebuffer service
  let screen := { service.screen with width := .ofNat width.toNat, height := .ofNat height.toNat }
  let screen := if screen.pfbMemory then rdpScreenFrameBufferFree screen else screen
  { service with
    pScreenWidth := width.toInt16
    pScreenHeight := height.toInt16
    screen := rdpScreenFrameBufferAlloc around.memory screen }

/-- `rdpRRGetInfo` has a new size to set. -/
def Service.resized : Bool :=
  service.pScreenWidth.toInt ≠ service.randr.width.toNat || service.pScreenHeight.toInt ≠ service.randr.height.toNat

/-- `RRGetInfo` comes back to `rdpRRScreenSetSize` through `rdpRRGetInfo` when a side does not fit into a `short`, and
then always does. `depth` is how many more calls fit on the stack. -/
def rdpRRScreenSetSize (around : Nat → Surroundings) (depth : Nat) (width height : UInt16) (service : Service) :
    Service :=
  if width < 1 || height < 1 then service
  else
    let replaced := replaceFrameBuffer (around depth) width height service
    let informed :=
      if replaced.resized then
        match depth with
        | 0 => { replaced with crashed := true }
        | depth + 1 => rdpRRScreenSetSize around depth replaced.randr.width replaced.randr.height replaced
      else replaced
    if informed.crashed then informed else (around depth).painted.foldl Drawing.send informed

theorem rdpRRScreenSetSize_none {around : Nat → Surroundings} {depth : Nat} {width height : UInt16} {service : Service}
    (hnone : (width < 1 || height < 1) = true) : rdpRRScreenSetSize around depth width height service = service := by
  cases depth <;> rw [rdpRRScreenSetSize, if_pos hnone]

theorem rdpRRScreenSetSize_induct {P : Service → Prop} {around : Nat → Surroundings}
    (hagain : ∀ around service, P service →
      P (replaceFrameBuffer around service.randr.width service.randr.height service))
    (hcrash : ∀ service, P service → P { service with crashed := true })
    (hdraw : ∀ service drawing, P service → P (Drawing.send service drawing))
    {depth : Nat} {width height : UInt16} {service : Service} (hsize : ¬(width < 1 || height < 1) = true)
    (hfirst : P (replaceFrameBuffer (around depth) width height service)) :
    P (rdpRRScreenSetSize around depth width height service) := by
  have hpaint (drawings : List Drawing) (service : Service) (h : P service) :
      P (if service.crashed then service else drawings.foldl Drawing.send service) := by
    split_ifs
    · exact h
    · exact List.foldlRecOn drawings Drawing.send h fun service h drawing _ => hdraw service drawing h
  induction depth generalizing width height service with
  | zero =>
    rw [rdpRRScreenSetSize, if_neg hsize]
    apply hpaint
    split_ifs
    · exact hcrash _ hfirst
    · exact hfirst
  | succ depth ih =>
    rw [rdpRRScreenSetSize, if_neg hsize]
    apply hpaint
    split_ifs
    · -- The size that is set again may be one that `rdpRRScreenSetSize` does nothing for.
      generalize replaceFrameBuffer _ width height service = replaced at hfirst ⊢
      change P (rdpRRScreenSetSize around depth replaced.randr.width replaced.randr.height replaced)
      by_cases hnone : (replaced.randr.width < 1 || replaced.randr.height < 1) = true
      · rw [rdpRRScreenSetSize_none hnone]
        exact hfirst
      · exact ih hnone (hagain _ replaced hfirst)
    · exact hfirst

variable (around : Nat → Surroundings) (depth : Nat)

def rdpRRGetInfo (service : Service) : Service :=
  if service.resized then rdpRRScreenSetSize around depth service.randr.width service.randr.height service
  else service

/-- A `crtc` with a mode of its own is set to `mode`; `physicalSize` is whether the output takes its new size. -/
def rdpRRCrtcSet (setModes : Bool) (mode : Option Size)
    (physicalSize : Bool) (service : Service) : Service :=
  match mode with
  | none => rdpRRGetInfo around depth service
  | some mode =>
    let selected := { service with randr := rdpModeSelect setModes mode service.randr }
    if !physicalSize then selected
    else
      let sized := rdpRRScreenSetSize around depth selected.randr.width selected.randr.height selected
      if sized.crashed then sized else rdpRRGetInfo around depth sized

def rdsClientCapabilities (desktopWidth desktopHeight : UInt32)
    (service : Service) : Service :=
  let sized :=
    if service.pScreenWidth.toInt ≠ desktopWidth.toInt32.toInt ∨
        service.pScreenHeight.toInt ≠ desktopHeight.toInt32.toInt then
      rdpRRScreenSetSize around depth desktopWidth.toUInt16 desktopHeight.toUInt16 service
    else service
  if sized.crashed then sized else { sized with active := true }

/-- `endpoint` and `pipe` are whether the next server pipe and the client's pipe could be had. -/
def rdsServiceAccept (endpoint pipe : Bool) (service : Service) : Service :=
  if !endpoint then { service with hServerPipe := false }
  else
    { service.setAttached false with
      hServerPipe := true
      hClientPipe := pipe
      connected := true
      connection := service.connection + 1 }

def rdsServiceDisconnect : Service :=
  { service.setAttached false with hClientPipe := false, active := false, connected := false }

/-- What happens to the service. `rdp_check` looks at the client's pipe if there is one, and at the server's if not. -/
inductive Event
  | accept (endpoint pipe : Bool)
  | disconnect
  | capabilities (around : Nat → Surroundings) (depth : Nat) (desktopWidth desktopHeight : UInt32)
  | screenSetSize (around : Nat → Surroundings) (depth : Nat) (width height : UInt16)
  | crtcSet (around : Nat → Surroundings) (depth : Nat) (setModes : Bool) (mode : Option Size) (physicalSize : Bool)
  | getInfo (around : Nat → Surroundings) (depth : Nat)
  | draw (drawing : Drawing)

def Service.handle : Event → Service
  | .accept endpoint pipe =>
    if service.hServerPipe && !service.hClientPipe then rdsServiceAccept endpoint pipe service else service
  | .disconnect => if service.hClientPipe then rdsServiceDisconnect service else service
  | .capabilities around depth desktopWidth desktopHeight =>
    if service.hClientPipe then rdsClientCapabilities around depth desktopWidth desktopHeight service else service
  | .screenSetSize around depth width height => rdpRRScreenSetSize around depth width height service
  | .crtcSet around depth setModes mode physicalSize => rdpRRCrtcSet around depth setModes mode physicalSize service
  | .getInfo around depth => rdpRRGetInfo around depth service
  | .draw drawing => drawing.send service

def Service.step (event : Event) : Service :=
  if service.crashed then service else service.handle event

end FreeRDS.X11
