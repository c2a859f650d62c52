import FreeRDS.Backend.RoundTrip
import FreeRDS.Backend.Dispatch

/-! # The length of a message

A writer is called twice for a message: without a stream, to learn how long the message is going to be, and then with
one. Each call sets the members that it computes, and the second one finds what the first has left. The length is put
together from constants, apart from the members that are written.
-/

namespace FreeRDS.Backend

open Lib Wire Layout Option

/-- The message as a call without a stream leaves it. The call returns the length. -/
structure Measured (β : Type) where
  common : Common
  body : β

def measured (size : UInt32) (bounded : Bool) (msg : Common) : Common :=
  let msg := { msg with msgFlags := if bounded then flagRect else 0 }
  { msg with length := commonHeaderLength msg + size }

def headerSize (bounded : Bool) : Nat := if bounded then 26 else 10

structure Entry (β : Type) where
  measure : Common → β → Option (Measured β)
  write : Common → β → Option (Written β)

structure Writer (β : Type) extends Entry β where
  bounded : Bool
  /-- What the message is long behind its header. The number is not cut off. -/
  size : β → Nat
  /-- There is as much data behind the pointers as the message says. -/
  Backed : β → Prop

namespace Writer

variable {β : Type}

def total (writer : Writer β) (msg : β) : Nat := headerSize writer.bounded + writer.size msg

def run (writer : Writer β) (common : Common) (msg : β) : Option (Measured β × Written β) := do
  let measured ← writer.measure common msg
  let written ← writer.write measured.common measured.body
  pure (measured, written)

/-- For a message whose data is there both calls are there, and for no other one. The first computes the length up to the
width of the member, the second puts out as much as there is, and neither looks at more of the common members than the
type. -/
structure Lawful (writer : Writer β) : Prop where
  runs : ∀ msg, writer.Backed msg → ∃ size body body' bounds data,
    bounds.isSome = writer.bounded ∧ size = .ofNat (writer.size msg) ∧ data.length = writer.size msg ∧
      ∀ common, writer.measure common msg = some ⟨measured size writer.bounded common, body⟩ ∧
        writer.write common body = some (written (stamp size bounds common) body' data)
  backed : ∀ common msg, (writer.run common msg).isSome → writer.Backed msg

theorem length_measured (size : UInt32) (bounded : Bool) (common : Common) :
    (measured size bounded common).length = .ofNat (headerSize bounded) + size := by
  cases bounded <;> simp [measured, commonHeaderLength, headerSize, flagRect]

variable (size : UInt32) (bounds : Option Rect) (common : Common)

theorem length_stamp :
    (stamp size bounds common).length = .ofNat (headerSize bounds.isSome) + size := by
  cases bounds <;> simp [stamp, commonHeaderLength, headerSize, flagRect]

theorem msgFlags_stamp :
    (stamp size bounds common).msgFlags = if bounds.isSome then flagRect else 0 := by
  cases bounds <;> rfl

theorem writeCommonHeader_length :
    (writeCommonHeader (stamp size bounds common)).length = headerSize bounds.isSome := by
  rw [writeCommonHeader, msgFlags_stamp, List.length_append, header.writeItems_length]
  cases bounds with
  | none => simp [headerSize, Layout.size, header, headerSlots]
  | some bounds =>
    have hflag : flagRect &&& flagRect ≠ 0 := by decide
    rw [isSome_some, if_pos rfl, if_pos hflag, headerRect.writeItems_length]
    rfl

theorem length_field (common : Common) (rest : List UInt8) :
    ofBytes (((writeItems header.items common ++ rest).drop 2).take 4) = common.length.toNat := by
  have hitems : writeItems header.items common ++ rest =
      toBytes 2 common.type.toNat ++ (toBytes 4 common.length.toNat ++ (toBytes 4 common.msgFlags.toNat ++ rest)) := by
    simp [writeItems, header]
  rw [hitems, List.drop_left' (toBytes_length 2 _), List.take_left' (toBytes_length 4 _)]
  exact ofBytes_toBytes_of_lt common.length.toNat_lt

def measureRecord (size : UInt32) (bounded : Bool) (common : Common) (msg : β) : Option (Measured β) :=
  some ⟨measured size bounded common, msg⟩

def ofRecord (write : Common → β → Option (Written β)) (size : UInt32) (bounded : Bool) (record : Record β) :
    Writer β where
  measure := measureRecord size bounded
  write := write
  bounded := bounded
  size _ := Layout.size record.slots
  Backed _ := True

theorem ofRecord_lawful {size : UInt32} (bounds : Option (β → Rect)) {record : Record β}
    (hsize : size = .ofNat (Layout.size record.slots)) :
    (ofRecord (writeRecord size bounds record) size bounds.isSome record).Lawful where
  runs msg _ := by
    refine ⟨size, msg, msg, bounds.map fun bounds => bounds msg, writeItems record.items msg, ?_, hsize,
      record.writeItems_length msg, fun common => ⟨rfl, rfl⟩⟩
    rw [isSome_map]
    rfl
  backed _ _ _ := trivial

end Writer

/-! ## Messages with data -/

def Pointer.Holds {α : Type} (pointer : Pointer (List α)) (count : Nat) : Prop := (pointer.take count).isSome

theorem Pointer.Holds.exists_take {α : Type} {pointer : Pointer (List α)} {count : Nat} (h : pointer.Holds count) :
    ∃ data, pointer.take count = some data ∧ data.length = count := by
  obtain ⟨data, hdata⟩ := isSome_iff_exists.mp h
  exact ⟨data, hdata, Pointer.take_length hdata⟩

theorem toBytes_flatMap_length (areas : List Rectangle16) :
    (areas.flatMap Rectangle16.toBytes).length = areas.length * 8 := by
  simp [Rectangle16.toBytes_length]

namespace RefreshRect

def writer : Writer RefreshRect where
  measure common msg := some ⟨measured (2 + msg.numberOfAreas * 8) false common, msg⟩
  write := writeRefreshRect
  bounded := false
  size msg := 2 + msg.numberOfAreas.toNat * 8
  Backed msg := msg.areasToRefresh.Holds msg.numberOfAreas.toNat

theorem writer_lawful : writer.Lawful where
  runs msg hbacked := by
    obtain ⟨areas, hareas, hlen⟩ := hbacked.exists_take
    refine ⟨_, msg, msg, none, writeItems record.items msg ++ areas.flatMap Rectangle16.toBytes, rfl, ?_, ?_,
      fun common => ⟨rfl, ?_⟩⟩
    · simp [writer]
    · rw [List.length_append, record.writeItems_length, toBytes_flatMap_length, hlen]
      rfl
    · simp [writer, writeRefreshRect, hareas]
  backed common msg h := by
    obtain ⟨result, hres⟩ := isSome_iff_exists.mp h
    simp only [Writer.run, writer, writeRefreshRect, bind_eq_bind, bind_some] at hres
    obtain ⟨written, hwritten, -⟩ := bind_eq_some_iff.mp hres
    obtain ⟨areas, hareas, -⟩ := bind_eq_some_iff.mp hwritten
    exact isSome_iff_exists.mpr ⟨areas, hareas⟩

end RefreshRect

namespace PatBlt

def writer : Writer PatBlt where
  measure := Writer.measureRecord 60 true
  write := writePatBlt
  bounded := true
  size _ := 60
  Backed msg := ∃ pattern, msg.brush.data = .data pattern

theorem writer_lawful : writer.Lawful where
  runs msg hbacked := by
    obtain ⟨pattern, hpattern⟩ := hbacked
    refine ⟨60, msg, msg, some msg.bounds, writeItems record.items msg ++ List.ofFn pattern, rfl, rfl, ?_,
      fun common => ⟨rfl, ?_⟩⟩
    · rw [List.length_append, record.writeItems_length, List.length_ofFn]
      rfl
    · simp [writer, writePatBlt, hpattern]
  backed common msg h := by
    cases hdata : msg.brush.data with
    | data pattern => exact ⟨pattern, hdata⟩
    | null | wild => simp [Writer.run, writer, Writer.measureRecord, writePatBlt, hdata] at h

end PatBlt

namespace PaintRect

def writer : Writer PaintRect where
  measure common msg := some ⟨measured msg.size true common, msg⟩
  write := writePaintRect
  bounded := true
  size msg := 20 + if msg.fbSegmentId ≠ 0 then 4 else msg.bitmapDataLength.toNat
  Backed msg := msg.fbSegmentId ≠ 0 ∨ msg.bitmapData.Holds msg.bitmapDataLength.toNat

theorem image_of_backed {msg : PaintRect} (h : writer.Backed msg) :
    ∃ image, msg.image = some image ∧
      image.length = 4 + if msg.fbSegmentId ≠ 0 then 4 else msg.bitmapDataLength.toNat := by
  unfold image
  by_cases hseg : msg.fbSegmentId ≠ 0
  · exact ⟨_, if_pos hseg, by simp [hseg]⟩
  · obtain ⟨data, hdata, hlen⟩ := (h.resolve_left hseg).exists_take
    exact ⟨_, by rw [if_neg hseg, hdata, map_some], by simp [hseg, hlen]⟩

theorem writer_lawful : writer.Lawful where
  runs msg hbacked := by
    obtain ⟨image, himage, hlen⟩ := image_of_backed hbacked
    refine ⟨msg.size, msg, msg, some msg.bounds,
      writeItems targetItems msg ++ image ++ writeItems sourceItems msg, rfl, ?_, ?_, fun common => ⟨rfl, ?_⟩⟩
    · simp only [writer, size, UInt32.ofNat_add]
      split <;> simp
    · rw [List.length_append, List.length_append, writeItems_length, writeItems_length, hlen]
      simp only [targetItems, sourceItems, writer, List.map_cons, List.map_nil, List.sum_cons, List.sum_nil]
      omega
    · simp [writer, writePaintRect, himage]
  backed common msg h := by
    obtain ⟨result, hres⟩ := isSome_iff_exists.mp h
    simp only [Writer.run, writer, writePaintRect, bind_eq_bind, bind_some] at hres
    obtain ⟨written, hwritten, -⟩ := bind_eq_some_iff.mp hres
    obtain ⟨image, himage, -⟩ := bind_eq_some_iff.mp hwritten
    by_cases hseg : msg.fbSegmentId ≠ 0
    · exact .inl hseg
    · rw [PaintRect.image, if_neg hseg, map_eq_some_iff] at himage
      obtain ⟨data, hdata, -⟩ := himage
      exact .inr (isSome_iff_exists.mpr ⟨data, hdata⟩)

end PaintRect

namespace SetPointer

/-- The defaults, without the limits of the position: these come only when there is a stream. -/
def defaulted (msg : SetPointer) : SetPointer :=
  let xorBpp := if msg.xorBpp = 0 then 24 else msg.xorBpp
  { msg with
    xorBpp := xorBpp
    lengthXorMask := if msg.lengthXorMask = 0 then (xorBpp + 7) / 8 * 32 * 32 else msg.lengthXorMask
    lengthAndMask := if msg.lengthAndMask = 0 then 32 * (32 / 8) else msg.lengthAndMask }

def writer : Writer SetPointer where
  measure common msg :=
    let msg := msg.defaulted
    some ⟨measured (10 + msg.lengthXorMask + msg.lengthAndMask) false common, msg⟩
  write := writeSetPointer
  bounded := false
  size msg := 10 + msg.complete.lengthXorMask.toNat + msg.complete.lengthAndMask.toNat
  Backed msg :=
    msg.xorMaskData.Holds msg.complete.lengthXorMask.toNat ∧ msg.andMaskData.Holds msg.complete.lengthAndMask.toNat

theorem complete_defaulted (msg : SetPointer) : msg.defaulted.complete = msg.complete := by
  by_cases hbpp : msg.xorBpp = 0 <;> by_cases hxor : msg.lengthXorMask = 0 <;>
    by_cases hand : msg.lengthAndMask = 0 <;> simp [complete, defaulted, hbpp, hxor, hand]

theorem writer_lawful : writer.Lawful where
  runs msg hbacked := by
    obtain ⟨xorMask, hxor, hxorLen⟩ := hbacked.1.exists_take
    obtain ⟨andMask, hand, handLen⟩ := hbacked.2.exists_take
    refine ⟨10 + msg.complete.lengthXorMask + msg.complete.lengthAndMask, msg.defaulted, msg.complete, none,
      writeItems record.items msg.complete ++ xorMask ++ andMask, rfl, ?_, ?_, fun common => ⟨rfl, ?_⟩⟩
    · simp [writer]
    · rw [List.length_append, List.length_append, record.writeItems_length, hxorLen, handLen]
      rfl
    · have hxor' : msg.complete.xorMaskData.take msg.complete.lengthXorMask.toNat = some xorMask := hxor
      have hand' : msg.complete.andMaskData.take msg.complete.lengthAndMask.toNat = some andMask := hand
      simp [writer, writeSetPointer, complete_defaulted, hxor', hand']
  backed common msg h := by
    obtain ⟨result, hres⟩ := isSome_iff_exists.mp h
    simp only [Writer.run, writer, writeSetPointer, complete_defaulted, bind_eq_bind, bind_some]
      at hres
    obtain ⟨written, hwritten, -⟩ := bind_eq_some_iff.mp hres
    obtain ⟨xorMask, hxor, hwritten⟩ := bind_eq_some_iff.mp hwritten
    obtain ⟨andMask, hand, -⟩ := bind_eq_some_iff.mp hwritten
    exact ⟨isSome_iff_exists.mpr ⟨xorMask, hxor⟩, isSome_iff_exists.mpr ⟨andMask, hand⟩⟩

end SetPointer

namespace WindowNewUpdate

def writer : Writer WindowNewUpdate where
  measure common msg := some ⟨measured msg.size false common, msg⟩
  write := writeWindowNewUpdate
  bounded := false
  size msg :=
    5 * 4 + (2 + msg.titleInfo.length.toNat) + 12 * 4 + (2 + msg.numWindowRects.toNat * 8) + (4 + 4) +
      (2 + msg.numVisibilityRects.toNat * 8) + 4
  Backed msg :=
    msg.titleInfo.string.Holds msg.titleInfo.length.toNat ∧ msg.windowRects.Holds msg.numWindowRects.toNat ∧
      msg.visibilityRects.Holds msg.numVisibilityRects.toNat

theorem writer_lawful : writer.Lawful where
  runs msg hbacked := by
    obtain ⟨title, htitle, htitleLen⟩ := hbacked.1.exists_take
    obtain ⟨windowRects, hwin, hwinLen⟩ := hbacked.2.1.exists_take
    obtain ⟨visibilityRects, hvisibility, hvisibilityLen⟩ := hbacked.2.2.exists_take
    refine ⟨msg.size, msg, msg, none,
      writeItems windowItems msg ++ title ++ writeItems clientItems msg ++ windowRects.flatMap Rectangle16.toBytes ++
        writeItems visibleItems msg ++ visibilityRects.flatMap Rectangle16.toBytes ++ toBytes 4 orderFlags.toNat,
      rfl, ?_, ?_, fun common => ⟨rfl, ?_⟩⟩
    · simp [writer, size]
    · simp only [List.length_append, writeItems_length, toBytes_flatMap_length, toBytes_length, htitleLen,
        hwinLen, hvisibilityLen, windowItems, clientItems, visibleItems, writer, List.map_cons, List.map_nil,
        List.sum_cons, List.sum_nil]
      omega
    · simp [writer, writeWindowNewUpdate, htitle, hwin, hvisibility]
  backed common msg h := by
    obtain ⟨result, hres⟩ := isSome_iff_exists.mp h
    simp only [Writer.run, writer, writeWindowNewUpdate, bind_eq_bind, bind_some] at hres
    obtain ⟨written, hwritten, -⟩ := bind_eq_some_iff.mp hres
    obtain ⟨title, htitle, hwritten⟩ := bind_eq_some_iff.mp hwritten
    obtain ⟨windowRects, hwin, hwritten⟩ := bind_eq_some_iff.mp hwritten
    obtain ⟨visibilityRects, hvisibility, -⟩ := bind_eq_some_iff.mp hwritten
    exact ⟨isSome_iff_exists.mpr ⟨title, htitle⟩, isSome_iff_exists.mpr ⟨windowRects, hwin⟩,
      isSome_iff_exists.mpr ⟨visibilityRects, hvisibility⟩⟩

end WindowNewUpdate

namespace LogonUser

/-- The lengths come from the strings, up to the width of the members. -/
def measureLogonUser (common : Common) (msg : LogonUser) : Option (Measured LogonUser) := do
  let userLength ← msg.user.strlen
  let domainLength ← msg.domain.strlen
  let passwordLength ← msg.password.strlen
  pure ⟨measured (16 + userLength + domainLength + passwordLength) false common,
    { msg with userLength := userLength, domainLength := domainLength, passwordLength := passwordLength }⟩

/-- What `strlen` returns, up to the width of the members. -/
def count (string : Pointer (List UInt8)) : Nat := (UInt32.ofNat string.text.length).toNat

def writer : Writer LogonUser where
  measure := measureLogonUser
  write := writeLogonUser
  bounded := false
  size msg := 16 + count msg.user + count msg.domain + count msg.password
  Backed msg := msg.user ≠ .wild ∧ msg.domain ≠ .wild ∧ msg.password ≠ .wild

theorem strlen_of_not_wild {string : Pointer (List UInt8)} (h : string ≠ .wild) :
    string.strlen = some (.ofNat string.text.length) ∧
      ∃ data, string.take (UInt32.ofNat string.text.length).toNat = some data ∧ data.length = count string := by
  cases string with
  | null => exact ⟨rfl, [], rfl, rfl⟩
  | wild => exact absurd rfl h
  | data target =>
    have hcnt : (UInt32.ofNat (Pointer.data target).text.length).toNat ≤ target.length := by
      rw [UInt32.toNat_ofNat']
      exact (Nat.mod_le ..).trans (Pointer.text_length_le target)
    have htake : (Pointer.data target).take (UInt32.ofNat (Pointer.data target).text.length).toNat =
        some (target.take (UInt32.ofNat (Pointer.data target).text.length).toNat) := if_pos hcnt
    exact ⟨rfl, _, htake, Pointer.take_length htake⟩

theorem not_wild_of_strlen {string : Pointer (List UInt8)} {length : UInt32} (h : string.strlen = some length) :
    string ≠ .wild := by
  rintro rfl
  cases h

theorem writer_lawful : writer.Lawful where
  runs msg hbacked := by
    obtain ⟨huser, user, htakeUser, huserLen⟩ := strlen_of_not_wild hbacked.1
    obtain ⟨hdom, domain, htakeDom, hdomLen⟩ := strlen_of_not_wild hbacked.2.1
    obtain ⟨hpass, password, htakePass, hpassLen⟩ := strlen_of_not_wild hbacked.2.2
    refine ⟨16 + .ofNat msg.user.text.length + .ofNat msg.domain.text.length + .ofNat msg.password.text.length,
      msg.counted, msg.counted, none, writeItems record.items msg.counted ++ user ++ domain ++ password, rfl, ?_, ?_,
      fun common => ⟨?_, ?_⟩⟩
    · simp only [writer, count, UInt32.ofNat_add, UInt32.ofNat_toNat]
      rfl
    · simp only [List.length_append, record.writeItems_length, huserLen, hdomLen, hpassLen]
      rfl
    · simp [writer, measureLogonUser, huser, hdom, hpass, counted]
    · simp only [writer, writeLogonUser, counted, huser, hdom, hpass, htakeUser, htakeDom, htakePass,
        bind_eq_bind, bind_some, pure_def]
  backed common msg h := by
    obtain ⟨result, hres⟩ := isSome_iff_exists.mp h
    simp only [Writer.run, writer, measureLogonUser, bind_eq_bind] at hres
    obtain ⟨measured, hmeasured, -⟩ := bind_eq_some_iff.mp hres
    obtain ⟨userLength, huser, hmeasured⟩ := bind_eq_some_iff.mp hmeasured
    obtain ⟨domainLength, hdom, hmeasured⟩ := bind_eq_some_iff.mp hmeasured
    obtain ⟨passwordLength, hpass, -⟩ := bind_eq_some_iff.mp hmeasured
    exact ⟨not_wild_of_strlen huser, not_wild_of_strlen hdom, not_wild_of_strlen hpass⟩

end LogonUser

/-! ## All messages -/

namespace ServerMessage

def writer : (kind : ServerMessage) → Writer kind.Body
  | beginUpdate => .ofRecord writeBeginUpdate 0 false empty
  | endUpdate => .ofRecord writeEndUpdate 0 false empty
  | setClippingRegion => .ofRecord writeSetClippingRegion 10 false SetClippingRegion.record
  | opaqueRect => .ofRecord writeOpaqueRect 12 true OpaqueRect.record
  | screenBlt => .ofRecord writeScreenBlt 12 true ScreenBlt.record
  | paintRect => PaintRect.writer
  | patBlt => PatBlt.writer
  | dstBlt => .ofRecord writeDstBlt 20 true DstBlt.record
  | lineTo => .ofRecord writeLineTo 32 false LineTo.record
  | createOffscreenSurface => .ofRecord writeCreateOffscreenSurface 8 false CreateOffscreenSurface.record
  | switchOffscreenSurface => .ofRecord writeSwitchOffscreenSurface 4 false SwitchOffscreenSurface.record
  | deleteOffscreenSurface => .ofRecord writeDeleteOffscreenSurface 4 false DeleteOffscreenSurface.record
  | paintOffscreenSurface => .ofRecord writePaintOffscreenSurface 32 false PaintOffscreenSurface.record
  | setPointer => SetPointer.writer
  | sharedFramebuffer => .ofRecord writeSharedFramebuffer 28 false SharedFramebuffer.record
  | windowNewUpdate => WindowNewUpdate.writer
  | windowDelete => .ofRecord writeWindowDelete 4 false WindowDelete.record
  | setSystemPointer => .ofRecord writeSetSystemPointer 4 false SetSystemPointer.record
  | logonUser => LogonUser.writer
  | logoffUser => .ofRecord writeLogoffUser 4 false LogoffUser.record

theorem writer_lawful (kind : ServerMessage) : kind.writer.Lawful := by
  cases kind with
  | beginUpdate | endUpdate | setClippingRegion | lineTo | createOffscreenSurface | switchOffscreenSurface
  | deleteOffscreenSurface | paintOffscreenSurface | sharedFramebuffer | windowDelete | setSystemPointer
  | logoffUser => exact Writer.ofRecord_lawful none rfl
  | opaqueRect => exact Writer.ofRecord_lawful (some OpaqueRect.bounds) rfl
  | screenBlt => exact Writer.ofRecord_lawful (some ScreenBlt.bounds) rfl
  | paintRect => exact PaintRect.writer_lawful
  | patBlt => exact PatBlt.writer_lawful
  | dstBlt => exact Writer.ofRecord_lawful (some DstBlt.bounds) rfl
  | setPointer => exact SetPointer.writer_lawful
  | windowNewUpdate => exact WindowNewUpdate.writer_lawful
  | logonUser => exact LogonUser.writer_lawful

end ServerMessage

namespace ClientMessage

def writer : (kind : ClientMessage) → Writer kind.Body
  | capabilities => .ofRecord writeCapabilities 28 false Capabilities.record
  | synchronizeKeyboardEvent => .ofRecord writeSynchronizeKeyboardEvent 4 false SynchronizeKeyboardEvent.record
  | scancodeKeyboardEvent => .ofRecord writeScancodeKeyboardEvent 12 false ScancodeKeyboardEvent.record
  | virtualKeyboardEvent => .ofRecord writeVirtualKeyboardEvent 8 false VirtualKeyboardEvent.record
  | unicodeKeyboardEvent => .ofRecord writeUnicodeKeyboardEvent 8 false UnicodeKeyboardEvent.record
  | mouseEvent => .ofRecord writeMouseEvent 12 false MouseEvent.record
  | extendedMouseEvent => .ofRecord writeExtendedMouseEvent 12 false ExtendedMouseEvent.record
  | vblankEvent => .ofRecord writeVblankEvent 0 false empty

theorem writer_lawful (kind : ClientMessage) : kind.writer.Lawful := by
  cases kind <;> exact Writer.ofRecord_lawful none rfl

end ClientMessage

def SuppressOutput.writer : Writer SuppressOutput := .ofRecord writeSuppressOutput 4 false SuppressOutput.record

/-- The messages that have a writer. A user logs on and off with the same messages in both directions. -/
inductive Writable
  | server (kind : ServerMessage)
  | client (kind : ClientMessage)
  | refreshRect
  | suppressOutput
  deriving DecidableEq

namespace Writable

def Body : Writable → Type
  | server kind => kind.Body
  | client kind => kind.Body
  | refreshRect => RefreshRect
  | suppressOutput => SuppressOutput

def writer : (kind : Writable) → Writer kind.Body
  | server kind => kind.writer
  | client kind => kind.writer
  | refreshRect => RefreshRect.writer
  | suppressOutput => SuppressOutput.writer

theorem writer_lawful (kind : Writable) : kind.writer.Lawful := by
  cases kind with
  | server kind | client kind => exact kind.writer_lawful
  | refreshRect => exact RefreshRect.writer_lawful
  | suppressOutput => exact Writer.ofRecord_lawful none rfl

end Writable

namespace Writer

variable {β : Type} {writer : Writer β}

theorem Lawful.length (h : writer.Lawful) {common : Common} {msg : β} {measured : Measured β} {written : Written β}
    (hrun : writer.run common msg = some (measured, written)) :
    measured.common.length = .ofNat (writer.total msg) ∧ written.common.length = .ofNat (writer.total msg) ∧
      written.bytes.length = writer.total msg ∧
      ofBytes ((written.bytes.drop 2).take 4) = written.common.length.toNat := by
  have hbacked : writer.Backed msg := h.backed common msg (by simp [hrun])
  obtain ⟨size, body, body', bounds, data, hbounds, hsize, hdata, hcalls⟩ := h.runs msg hbacked
  obtain ⟨hmeas, -⟩ := hcalls common
  have hwrite := (hcalls (Backend.measured size writer.bounded common)).2
  simp only [run, hmeas, hwrite, bind_eq_bind, bind_some, pure_def, some.injEq,
    Prod.mk.injEq] at hrun
  obtain ⟨rfl, rfl⟩ := hrun
  refine ⟨?_, ?_, ?_, ?_⟩
  · rw [length_measured, hsize, total, UInt32.ofNat_add]
  · simp only [Backend.written]
    rw [length_stamp, hbounds, hsize, total, UInt32.ofNat_add]
  · simp only [Backend.written, List.length_append]
    rw [writeCommonHeader_length, hbounds, hdata, total]
  · simp only [Backend.written, writeCommonHeader, List.append_assoc]
    exact length_field _ _

end Writer

end FreeRDS.Backend
