import FreeRDS.Backend.Protocol
import Mathlib.Data.List.TakeWhile

/-! # Messages that are read back

A writer and the reader of the same message know nothing of each other but the layout. What has been written is read
back to a struct whose memory may hold anything, with any bytes behind it.

A reader does not restore the members that its writer leaves out, and it cannot follow a pointer that nobody has set.
-/

namespace FreeRDS.Backend

open Lib Wire Layout List Option Pointer

/-- What a message carries: its members, and the data that they point to. -/
structure Content where
  members : List UInt32
  data : List (List UInt8)
  deriving DecidableEq, Repr

structure Format (β : Type) where
  read : List UInt8 → β → Option (Reading β)
  write : Common → β → Option (Written β)
  bounded : Bool
  content : β → Content
  unsent : β → List UInt32
  /-- The members have their widths, and the data is where the pointers say. -/
  Fits : β → Prop
  Readable : β → β → Prop

namespace Format

variable {β : Type}

variable (format : Format β)

/-- `freerds_read_common_header`, followed by the reader. -/
def readBack (bytes : List UInt8) (target : Common) (destination : β) :
    Option (Common × Reading β) := do
  let (common, stream) ← readCommonHeader bytes target
  let reading ← format.read stream destination
  pure (common, reading)

def Returns (written : Written β) (target : Common) (destination : β) (rest : List UInt8) :
    Prop :=
  ∃ common reading, format.readBack (written.bytes ++ rest) target destination = some (common, reading) ∧
    reading.status = 0 ∧ common.type = written.common.type ∧ common.length = written.common.length ∧
    common.msgFlags = written.common.msgFlags ∧ (format.bounded → common.rect = written.common.rect) ∧
    format.content reading.body = format.content written.body

def ReturnsAll (written : Written β) (target : Common) (destination : β) (rest : List UInt8) :
    Prop :=
  ∃ common reading, format.readBack (written.bytes ++ rest) target destination = some (common, reading) ∧
    reading.status = 0 ∧ common = written.common ∧ format.content reading.body = format.content written.body ∧
    format.unsent reading.body = format.unsent written.body

/-- A message that fits is written, and it returns exactly if it can be read. -/
def Lawful : Prop :=
  ∀ (common : Common) (msg : β), common.type.toNat < 2 ^ 16 → format.Fits msg →
    ∃ written, format.write common msg = some written ∧
      ∀ (target : Common) (destination : β) (rest : List UInt8),
        (format.Returns written target destination rest ↔ format.Readable msg destination) ∧
        (format.ReturnsAll written target destination rest ↔
          format.Readable msg destination ∧ (format.bounded ∨ target.rect = common.rect) ∧
            format.unsent destination = format.unsent msg)

/-! ## Headers -/

def withRect (common : Common) (rect : Rect) : Common := { common with rect := rect }

theorem assigned_header {common : Common} (htype : common.type.toNat < 2 ^ 16) (target : Common) (rest : List UInt8) :
    header.assigned (writeItems header.items common ++ rest) target = withRect common target.rect := by
  have hfits : Layout.Fits header.items common := by
    simp only [Layout.Fits, header, forall_mem_cons]
    exact ⟨htype, common.length.toNat_lt, common.msgFlags.toNat_lt, by simp⟩
  rw [Record.assigned, numbers_writeItems hfits]
  rfl

theorem assigned_headerRect (common target : Common) (rest : List UInt8) :
    headerRect.assigned (writeItems headerRect.items common ++ rest) target = withRect target common.rect := by
  have hfits : Layout.Fits headerRect.items common := by
    simp only [Layout.Fits, headerRect, forall_mem_cons]
    exact ⟨common.rect.x.toNat_lt, common.rect.y.toNat_lt, common.rect.width.toNat_lt, common.rect.height.toNat_lt,
      by simp⟩
  rw [Record.assigned, numbers_writeItems hfits]
  rfl

theorem readCommonHeader_write {common : Common} (htype : common.type.toNat < 2 ^ 16) (target : Common)
    (rest : List UInt8) :
    readCommonHeader (writeCommonHeader common ++ rest) target =
      some (withRect common (if common.msgFlags &&& flagRect ≠ 0 then common.rect else target.rect), rest) := by
  have hslots : headerSlots = header.slots := rfl
  have hrect : rectSlots = headerRect.slots := rfl
  rw [readCommonHeader, writeCommonHeader, append_assoc, hslots, header.readSlots_write,
    assigned_header htype, hrect]
  simp only [bind_eq_bind, bind_some]
  change (if common.msgFlags &&& flagRect ≠ 0 then _ else _) = _
  by_cases hflag : common.msgFlags &&& flagRect ≠ 0
  · rw [if_pos hflag, if_pos hflag, if_pos hflag, headerRect.readSlots_write, assigned_headerRect]
    rfl
  · rw [if_neg hflag, if_neg hflag, if_neg hflag]
    rfl

theorem stamp_type (size : UInt32) (bounds : Option Rect) (common : Common) :
    (stamp size bounds common).type = common.type := by
  cases bounds <;> rfl

theorem readCommonHeader_stamp {common : Common} (htype : common.type.toNat < 2 ^ 16) (size : UInt32)
    (bounds : Option Rect) (target : Common) (rest : List UInt8) :
    readCommonHeader (writeCommonHeader (stamp size bounds common) ++ rest) target =
      some (withRect (stamp size bounds common) (bounds.getD target.rect), rest) := by
  rw [readCommonHeader_write (by rwa [stamp_type])]
  cases bounds with
  | none => simp [stamp, withRect]
  | some bounds => simp [stamp, withRect, flagRect]

/-! ## The law of one message

The writer stamps the header and puts out `data`, and all that is left to say is what the reader makes of the data.
-/

variable {format : Format β} {msg msg' : β} {size : UInt32} {bounds : Option Rect} {common : Common}
  {data : List UInt8}

section

variable (htype : common.type.toNat < 2 ^ 16)

include htype

theorem readBack_written (target : Common) (destination : β)
    (rest : List UInt8) :
    format.readBack ((written (stamp size bounds common) msg' data).bytes ++ rest) target destination =
      (format.read (data ++ rest) destination).map fun reading =>
        (withRect (stamp size bounds common) (bounds.getD target.rect), reading) := by
  rw [readBack, written, append_assoc, readCommonHeader_stamp htype]
  cases hread : format.read (data ++ rest) destination <;> simp [hread]

variable (hbounds : bounds.isSome = format.bounded) (target : Common) (destination : β) (rest : List UInt8)

include hbounds

theorem returns_written_iff :
    format.Returns (written (stamp size bounds common) msg' data) target destination rest ↔
      ∃ reading, format.read (data ++ rest) destination = some reading ∧ reading.status = 0 ∧
        format.content reading.body = format.content msg' := by
  simp only [Returns, readBack_written htype]
  constructor
  · rintro ⟨_, reading, hread, hstat, -, -, -, -, hcontent⟩
    obtain ⟨_, hread, heq⟩ := map_eq_some_iff.mp hread
    cases heq
    exact ⟨reading, hread, hstat, hcontent⟩
  · rintro ⟨reading, hread, hstat, hcontent⟩
    refine ⟨withRect (stamp size bounds common) (bounds.getD target.rect), reading, by rw [hread, map_some],
      hstat, rfl, rfl, rfl, ?_, hcontent⟩
    intro hbounded
    rw [← hbounds] at hbounded
    obtain ⟨bounds, rfl⟩ := isSome_iff_exists.mp hbounded
    rfl

theorem returnsAll_written_iff :
    format.ReturnsAll (written (stamp size bounds common) msg' data) target destination rest ↔
      ∃ reading, format.read (data ++ rest) destination = some reading ∧ reading.status = 0 ∧
        format.content reading.body = format.content msg' ∧ (format.bounded ∨ target.rect = common.rect) ∧
        format.unsent reading.body = format.unsent msg' := by
  have hrect : withRect (stamp size bounds common) (bounds.getD target.rect) = stamp size bounds common ↔
      (format.bounded ∨ target.rect = common.rect) := by
    rw [← hbounds]
    cases bounds <;> simp [stamp, withRect]
  simp only [ReturnsAll, readBack_written htype]
  constructor
  · rintro ⟨_, reading, hread, hstat, hcom, hcontent, hunsent⟩
    obtain ⟨_, hread, heq⟩ := map_eq_some_iff.mp hread
    cases heq
    exact ⟨reading, hread, hstat, hcontent, hrect.mp hcom, hunsent⟩
  · rintro ⟨reading, hread, hstat, hcontent, hsame, hunsent⟩
    exact ⟨_, reading, by rw [hread, map_some], hstat, hrect.mpr hsame, hcontent, hunsent⟩

end

/-- A format is lawful if its reader restores the content of every message that can be read, and nothing of what was
not sent, and never restores the content of another one. -/
theorem lawful_of (h : ∀ common msg, format.Fits msg →
      ∃ size bounds msg' data, format.write common msg = some (written (stamp size bounds common) msg' data) ∧
        bounds.isSome = format.bounded ∧ format.unsent msg' = format.unsent msg ∧
        ∀ destination rest,
          (format.Readable msg destination → ∃ body, format.read (data ++ rest) destination = some ⟨0, body⟩ ∧
            format.content body = format.content msg' ∧ format.unsent body = format.unsent destination) ∧
          (∀ reading, format.read (data ++ rest) destination = some reading →
            format.content reading.body = format.content msg' → format.Readable msg destination)) :
    format.Lawful := by
  intro common msg htype hfits
  obtain ⟨size, bounds, msg', data, hwrite, hbounds, hunsent, hread⟩ := h common msg hfits
  refine ⟨_, hwrite, fun target destination rest => ?_⟩
  obtain ⟨hreads, hreadable⟩ := hread destination rest
  rw [returns_written_iff htype hbounds, returnsAll_written_iff htype hbounds, hunsent]
  constructor
  · constructor
    · rintro ⟨reading, hread, -, hcontent⟩
      exact hreadable reading hread hcontent
    · intro h
      obtain ⟨body, hread, hcontent, -⟩ := hreads h
      exact ⟨⟨0, body⟩, hread, rfl, hcontent⟩
  · constructor
    · rintro ⟨reading, hread, -, hcontent, hrect, hsame⟩
      have h := hreadable reading hread hcontent
      obtain ⟨body, hbody, -, hkept⟩ := hreads h
      cases hbody.symm.trans hread
      exact ⟨h, hrect, hkept.symm.trans hsame⟩
    · rintro ⟨h, hrect, hsame⟩
      obtain ⟨body, hread, hcontent, hkept⟩ := hreads h
      exact ⟨⟨0, body⟩, hread, rfl, hcontent, hrect, hkept.trans hsame⟩

def ofRecord (read : List UInt8 → β → Option (Reading β)) (write : Common → β → Option (Written β)) (bounded : Bool)
    (record : Record β) (unsent : β → List UInt32) : Format β where
  read := read
  write := write
  bounded := bounded
  content msg := ⟨record.members msg, []⟩
  unsent := unsent
  Fits := Layout.Fits record.items
  Readable _ _ := True

theorem readRecord_of_le {record : Record β} {stream : List UInt8} (destination : β)
    (h : Layout.size record.slots ≤ stream.length) :
    readRecord (Layout.size record.slots) record stream destination = some ⟨0, record.assigned stream destination⟩ := by
  rw [readRecord, require, if_neg (by omega), record.readSlots_eq destination h]
  rfl

theorem ofRecord_lawful (size : UInt32) (bounds : Option (β → Rect)) (record : Record β) (unsent : β → List UInt32)
    (hunsent : ∀ bytes msg, unsent (record.assigned bytes msg) = unsent msg) :
    (ofRecord (readRecord (Layout.size record.slots) record) (writeRecord size bounds record) bounds.isSome record
      unsent).Lawful := by
  apply lawful_of
  intro common msg hfits
  refine ⟨size, bounds.map fun bounds => bounds msg, msg, writeItems record.items msg, rfl, ?_, rfl,
    fun destination rest => ⟨fun _ => ?_, fun _ _ _ => trivial⟩⟩
  · simp [ofRecord]
  · have hle : Layout.size record.slots ≤ (writeItems record.items msg ++ rest).length := by
      simp [record.writeItems_length]
    refine ⟨_, readRecord_of_le destination hle, ?_, hunsent _ _⟩
    simp only [ofRecord]
    rw [record.members_assigned_write hfits]

end Format

theorem require_of_le {β : Type} {need : Nat} {stream : List UInt8} (h : need ≤ stream.length) (body : β)
    (next : Option (Reading β)) : require need stream body next = next :=
  if_neg (by omega)

/-! ## Rectangles to refresh -/

namespace Rectangle16

theorem ofBytes_toBytes (area : Rectangle16) (rest : List UInt8) : ofBytes (area.toBytes ++ rest) = area := by
  have hword (value : UInt16) : UInt16.ofNat (Wire.ofBytes (Wire.toBytes 2 value.toNat)) = value := by
    rw [ofBytes_toBytes_of_lt (by simpa using value.toNat_lt), UInt16.ofNat_toNat]
  calc
    ofBytes (area.toBytes ++ rest) =
        ⟨.ofNat (Wire.ofBytes (Wire.toBytes 2 area.left.toNat)), .ofNat (Wire.ofBytes (Wire.toBytes 2 area.top.toNat)),
          .ofNat (Wire.ofBytes (Wire.toBytes 2 area.right.toNat)),
          .ofNat (Wire.ofBytes (Wire.toBytes 2 area.bottom.toNat))⟩ := rfl
    _ = area := by simp [hword]

theorem toBytes_length (area : Rectangle16) : area.toBytes.length = 8 := rfl

end Rectangle16

theorem readRectangles_write (areas : List Rectangle16) (rest : List UInt8) :
    readRectangles areas.length (areas.flatMap Rectangle16.toBytes ++ rest) = areas := by
  induction areas with
  | nil => rfl
  | cons area areas ih =>
    rw [length_cons, readRectangles, flatMap_cons, append_assoc, Rectangle16.ofBytes_toBytes,
      drop_left' area.toBytes_length, ih]

theorem Pointer.take_length {α : Type} {pointer : Pointer (List α)} {count : Nat} {data : List α}
    (h : pointer.take count = some data) : data.length = count := by
  unfold take at h
  split at h
  all_goals
    split at h
    · cases h
      simp_all
    · cases h

theorem Pointer.take_data {α : Type} {data : List α} {count : Nat} (h : data.length = count) :
    (Pointer.data data).take count = some data := by
  simp [take, ← h]

namespace RefreshRect

def areas (msg : RefreshRect) : List Rectangle16 := (msg.areasToRefresh.take msg.numberOfAreas.toNat).getD []

def format : Format RefreshRect where
  read := readRefreshRect
  write := writeRefreshRect
  bounded := false
  content msg :=
    ⟨record.members msg ++ msg.areas.flatMap fun area =>
      [area.left.toUInt32, area.top.toUInt32, area.right.toUInt32, area.bottom.toUInt32], []⟩
  unsent _ := []
  Fits msg := Layout.Fits record.items msg ∧ (msg.areasToRefresh.take msg.numberOfAreas.toNat).isSome
  Readable _ _ := True

theorem readRefreshRect_of_le {data areas : List UInt8} {destination : RefreshRect} {msg : RefreshRect}
    (hdata : readSlots record.slots data destination = some (msg, areas))
    (hareas : 8 * msg.numberOfAreas.toNat ≤ areas.length) :
    readRefreshRect data destination =
      some ⟨0, msg.numberOfAreas, .data (readRectangles msg.numberOfAreas.toNat areas)⟩ := by
  have hmin : min msg.numberOfAreas.toNat (areas.length / 8) = msg.numberOfAreas.toNat := by omega
  have hnum : 2 ≤ data.length := le_of_readSlots hdata
  rw [readRefreshRect, require_of_le hnum, hdata]
  simp only [bind_eq_bind, bind_some, hmin]
  rw [require_of_le hareas]
  rfl

theorem format_lawful : format.Lawful := by
  apply Format.lawful_of
  rintro common msg ⟨hfits, hareas⟩
  obtain ⟨areas, hareas⟩ := isSome_iff_exists.mp hareas
  have hlen := take_length hareas
  refine ⟨2 + msg.numberOfAreas * 8, none, msg, writeItems record.items msg ++ areas.flatMap Rectangle16.toBytes, ?_,
    rfl, rfl, fun destination rest => ⟨fun _ => ?_, fun _ _ _ => trivial⟩⟩
  · simp [format, writeRefreshRect, hareas]
  · rw [append_assoc]
    have hread := record.readSlots_write msg destination (areas.flatMap Rectangle16.toBytes ++ rest)
    have hmbrs := record.members_assigned_write hfits destination (areas.flatMap Rectangle16.toBytes ++ rest)
    generalize record.assigned _ destination = received at hread hmbrs
    have hcnt : received.numberOfAreas = msg.numberOfAreas := by simpa [Record.members, record] using hmbrs
    have hbytes : 8 * received.numberOfAreas.toNat ≤ (areas.flatMap Rectangle16.toBytes ++ rest).length := by
      simp [hcnt, ← hlen, length_flatMap, Rectangle16.toBytes_length, Nat.mul_comm]
    refine ⟨_, readRefreshRect_of_le hread hbytes, ?_, rfl⟩
    rw [hcnt, ← hlen, readRectangles_write]
    simp [format, Record.members, record, RefreshRect.areas, hareas, take_data hlen]

end RefreshRect

/-! ## Patterns -/

namespace PatBlt

variable (msg : PatBlt)

def patternBytes : List UInt8 :=
  match msg.brush.data with
  | .data pattern => List.ofFn pattern
  | .null => []
  | .wild => []

/-- The pattern is copied to the memory of the destination, so there has to be some. -/
def format : Format PatBlt where
  read := readPatBlt
  write := writePatBlt
  bounded := true
  content msg := ⟨record.members msg, [msg.patternBytes]⟩
  unsent _ := []
  Fits msg := ∃ pattern, msg.brush.data = .data pattern
  Readable _ destination := ∃ pattern, destination.brush.data = .data pattern

theorem fits_items : Layout.Fits record.items msg := by
  simp only [Layout.Fits, record, forall_mem_cons]
  refine ⟨?_, ?_, ?_, ?_, ?_, ?_, ?_, ?_, ?_, ?_, ?_, ?_, ?_, by simp⟩
  all_goals exact UInt32.toNat_lt _

variable (pattern : Fin 8 → UInt8)

def withPattern : PatBlt := { msg with brush.data := .data pattern }

theorem assigned_data (bytes : List UInt8) (msg : PatBlt) :
    (record.assigned bytes msg).brush.data = msg.brush.data := rfl

theorem members_withPattern :
    record.members (msg.withPattern pattern) = record.members msg := rfl

theorem readPatBlt_of_le {stream : List UInt8} (h : 60 ≤ stream.length) (destination : PatBlt) :
    readPatBlt stream destination =
      match destination.brush.data with
      | .data _ =>
        some ⟨0, (record.assigned stream destination).withPattern fun i => (stream.drop 52).getD i 0⟩
      | .null => none
      | .wild => none := by
  have hsize : size record.slots ≤ stream.length := Nat.le_trans (by decide) h
  rw [readPatBlt, require_of_le h, record.readSlots_eq destination hsize]
  simp only [bind_eq_bind, bind_some, assigned_data]
  rfl

theorem getD_ofFn (rest : List UInt8) (i : Fin 8) :
    (List.ofFn pattern ++ rest).getD i 0 = pattern i := by
  have hlt : (i : Nat) < (List.ofFn pattern).length := by
    rw [List.length_ofFn]
    exact i.isLt
  rw [List.getD_eq_getElem?_getD, List.getElem?_append_left hlt, List.getElem?_eq_getElem hlt, List.getElem_ofFn,
    getD_some]

theorem format_lawful : format.Lawful := by
  apply Format.lawful_of
  rintro common msg ⟨pattern, hpattern⟩
  refine ⟨60, some msg.bounds, msg, writeItems record.items msg ++ ofFn pattern, ?_, rfl, rfl,
    fun destination rest => ?_⟩
  · simp [format, writePatBlt, hpattern]
  rw [append_assoc]
  have hitems : (writeItems record.items msg).length = 52 := record.writeItems_length msg
  have hlen : 60 ≤ (writeItems record.items msg ++ (ofFn pattern ++ rest)).length := by
    rw [length_append, length_append, hitems, length_ofFn]
    omega
  have hread := readPatBlt_of_le hlen destination
  have hread' : format.read = readPatBlt := rfl
  rw [hread', hread, drop_left' hitems]
  simp only [getD_ofFn]
  constructor
  · rintro ⟨old, hold⟩
    rw [hold]
    refine ⟨_, rfl, ?_, rfl⟩
    have hmbrs := record.members_assigned_write (fits_items msg) destination (ofFn pattern ++ rest)
    have hbytes : msg.patternBytes = ofFn pattern := by rw [patternBytes, hpattern]
    simp only [format, members_withPattern, hmbrs, hbytes]
    rfl
  · intro reading hreading _
    split at hreading
    next old hold => exact ⟨old, hold⟩
    all_goals cases hreading

end PatBlt

/-! ## Pointers -/

namespace SetPointer

def xorMask (msg : SetPointer) : List UInt8 := (msg.xorMaskData.take msg.lengthXorMask.toNat).getD []

def andMask (msg : SetPointer) : List UInt8 := (msg.andMaskData.take msg.lengthAndMask.toNat).getD []

/-- The default of `lengthXorMask` does not fit its width if there are many bits for a pixel. -/
def format : Format SetPointer where
  read := readSetPointer
  write := writeSetPointer
  bounded := false
  content msg := ⟨record.members msg, [msg.xorMask, msg.andMask]⟩
  unsent msg := [msg.width, msg.height]
  Fits msg :=
    msg.xorBpp.toNat < 2 ^ 16 ∧ msg.lengthXorMask.toNat < 2 ^ 16 ∧ msg.lengthAndMask.toNat < 2 ^ 16 ∧
      (msg.xorMaskData.take msg.complete.lengthXorMask.toNat).isSome ∧
      (msg.andMaskData.take msg.complete.lengthAndMask.toNat).isSome
  Readable msg _ := msg.lengthXorMask ≠ 0 ∨ msg.xorBpp ≤ 504

def withMasks (msg : SetPointer) (xorMask andMask : List UInt8) : SetPointer :=
  { msg with xorMaskData := .data xorMask, andMaskData := .data andMask }

variable {msg : SetPointer}

theorem content_of_take {xorMask andMask : List UInt8}
    (hxor : msg.xorMaskData.take msg.lengthXorMask.toNat = some xorMask)
    (hand : msg.andMaskData.take msg.lengthAndMask.toNat = some andMask) :
    format.content msg = ⟨record.members msg, [xorMask, andMask]⟩ := by
  simp [format, SetPointer.xorMask, SetPointer.andMask, hxor, hand]

theorem content_withMasks {xorMask andMask : List UInt8}
    (hxor : xorMask.length = msg.lengthXorMask.toNat) (hand : andMask.length = msg.lengthAndMask.toNat) :
    format.content (msg.withMasks xorMask andMask) = ⟨record.members msg, [xorMask, andMask]⟩ :=
  content_of_take (take_data hxor) (take_data hand)

theorem lengthXorMask_complete_lt (hbpp : msg.xorBpp.toNat < 2 ^ 16)
    (hlen : msg.lengthXorMask.toNat < 2 ^ 16) :
    msg.complete.lengthXorMask.toNat < 2 ^ 16 ↔ msg.lengthXorMask ≠ 0 ∨ msg.xorBpp ≤ 504 := by
  by_cases hzero : msg.lengthXorMask = 0
  · by_cases hdefault : msg.xorBpp = 0
    · simp [complete, hzero, hdefault]
    · simp only [complete, hzero, hdefault, if_true, if_false, UInt32.toNat_mul, UInt32.toNat_div, UInt32.toNat_add,
        UInt32.le_iff_toNat_le, UInt32.reduceToNat, ne_eq, not_true_eq_false, false_or]
      omega
  · simp [complete, hzero]
    omega

theorem fits_complete (hbpp : msg.xorBpp.toNat < 2 ^ 16)
    (hxor : msg.complete.lengthXorMask.toNat < 2 ^ 16) (hand : msg.lengthAndMask.toNat < 2 ^ 16) :
    Layout.Fits record.items msg.complete := by
  simp only [Layout.Fits, record, forall_mem_cons]
  refine ⟨?_, ?_, ?_, hxor, ?_, by simp⟩
  · simp only [complete]
    split
    next => decide
    next h =>
      rw [UInt32.not_lt, UInt32.le_iff_toNat_le] at h
      exact Nat.lt_of_le_of_lt h (by decide)
  · simp only [complete]
    split
    next => decide
    next h =>
      rw [UInt32.not_lt, UInt32.le_iff_toNat_le] at h
      exact Nat.lt_of_le_of_lt h (by decide)
  · simp only [complete]
    split
    next => decide
    next => exact hbpp
  · simp only [complete]
    split
    next => decide
    next => exact hand

theorem readSetPointer_of_le {data masks : List UInt8} {destination msg : SetPointer}
    (hdata : readSlots record.slots data destination = some (msg, masks))
    (hmasks : msg.lengthXorMask.toNat + msg.lengthAndMask.toNat ≤ masks.length) :
    readSetPointer data destination =
      some ⟨0, msg.withMasks (masks.take msg.lengthXorMask.toNat)
        ((masks.drop msg.lengthXorMask.toNat).take msg.lengthAndMask.toNat)⟩ := by
  have hnums : 10 ≤ data.length := le_of_readSlots hdata
  have hand : msg.lengthAndMask.toNat ≤ (masks.drop msg.lengthXorMask.toNat).length := by
    rw [length_drop]
    omega
  rw [readSetPointer, require_of_le hnums, hdata]
  simp only [bind_eq_bind, bind_some]
  rw [require_of_le (by omega), require_of_le hand]
  rfl

theorem members_readSetPointer {data : List UInt8} {destination : SetPointer} {reading : Reading SetPointer}
    (hsize : size record.slots ≤ data.length) (h : readSetPointer data destination = some reading) :
    record.members reading.body = numbers (record.items.map Item.width) data := by
  have hnums : 10 ≤ data.length := hsize
  rw [readSetPointer, require_of_le hnums, record.readSlots_eq destination hsize] at h
  simp only [bind_eq_bind, bind_some, require] at h
  rw [← record.members_assigned data destination]
  split at h
  next => cases h; rfl
  next =>
    split at h <;> (cases h; rfl)

theorem format_lawful : format.Lawful := by
  apply Format.lawful_of
  rintro common msg ⟨hbpp, hxor, hand, hxorMask, handMask⟩
  obtain ⟨xorMask, hxorMask⟩ := isSome_iff_exists.mp hxorMask
  obtain ⟨andMask, handMask⟩ := isSome_iff_exists.mp handMask
  have hxorLen := take_length hxorMask
  have handLen := take_length handMask
  -- The defaults and the limits leave the pointers alone.
  have hxorMask' : msg.complete.xorMaskData.take msg.complete.lengthXorMask.toNat = some xorMask := hxorMask
  have handMask' : msg.complete.andMaskData.take msg.complete.lengthAndMask.toNat = some andMask := handMask
  refine ⟨10 + msg.complete.lengthXorMask + msg.complete.lengthAndMask, none, msg.complete,
    writeItems record.items msg.complete ++ xorMask ++ andMask, ?_, rfl, rfl, fun destination rest => ?_⟩
  · simp [format, writeSetPointer, hxorMask', handMask']
  have hread' : format.read = readSetPointer := rfl
  rw [hread', append_assoc, append_assoc]
  have hread := record.readSlots_write msg.complete destination (xorMask ++ (andMask ++ rest))
  constructor
  · intro hreadable
    have hfits := fits_complete hbpp ((lengthXorMask_complete_lt hbpp hxor).mpr hreadable) hand
    have hmbrs := record.members_assigned_write hfits destination (xorMask ++ (andMask ++ rest))
    generalize hrcv : record.assigned _ destination = received at hread hmbrs
    have hunsent : format.unsent received = format.unsent destination := by rw [← hrcv]; rfl
    obtain ⟨-, -, -, hxorSame, handSame⟩ : received.xPos = msg.complete.xPos ∧ received.yPos = msg.complete.yPos ∧
        received.xorBpp = msg.complete.xorBpp ∧ received.lengthXorMask = msg.complete.lengthXorMask ∧
        received.lengthAndMask = msg.complete.lengthAndMask := by
      simpa [Record.members, record] using hmbrs
    have hle : received.lengthXorMask.toNat + received.lengthAndMask.toNat ≤ (xorMask ++ (andMask ++ rest)).length := by
      rw [hxorSame, handSame, ← hxorLen, ← handLen, length_append, length_append]
      omega
    refine ⟨_, readSetPointer_of_le hread hle, ?_, hunsent⟩
    rw [hxorSame, handSame, take_left' hxorLen, drop_left' hxorLen, take_left' handLen,
      content_withMasks (by rw [hxorLen, hxorSame]) (by rw [handLen, handSame]), hmbrs,
      content_of_take hxorMask' handMask']
  · intro reading hreading hcontent
    have hsize : size record.slots ≤ (writeItems record.items msg.complete ++ (xorMask ++ (andMask ++ rest))).length := by
      simp [record.writeItems_length]
    have hmbrs := members_readSetPointer hsize hreading
    have hsame : record.members reading.body = record.members msg.complete := congrArg Content.members hcontent
    rw [hsame, numbers_writeItems_mod] at hmbrs
    have hmod : msg.complete.lengthXorMask = .ofNat (msg.complete.lengthXorMask.toNat % 256 ^ 2) := by
      simp only [Record.members, record, map_cons, cons.injEq] at hmbrs
      exact hmbrs.2.2.2.1
    apply (lengthXorMask_complete_lt hbpp hxor).mp
    have hnat := congrArg UInt32.toNat hmod
    rw [UInt32.toNat_ofNat'] at hnat
    omega

end SetPointer

/-! ## Users -/

namespace Pointer

theorem text_length_le (target : List UInt8) : (Pointer.data target).text.length ≤ target.length :=
  ( takeWhile_prefix _).length_le

theorem take_strlen {pointer : Pointer (List UInt8)} (hwild : pointer ≠ .wild)
    (hlen : pointer.text.length < 2 ^ 32) :
    pointer.strlen = some (.ofNat pointer.text.length) ∧
      pointer.take (UInt32.ofNat pointer.text.length).toNat = some pointer.text := by
  rw [UInt32.toNat_ofNat_of_lt' hlen]
  cases pointer with
  | null => exact ⟨rfl, rfl⟩
  | wild => exact absurd rfl hwild
  | data target =>
    refine ⟨rfl, ?_⟩
    rw [take, if_pos (text_length_le target), text]
    exact congrArg some (prefix_iff_eq_take.mp ( takeWhile_prefix _)).symm

end Pointer

def ofText (text : List UInt8) : Pointer (List UInt8) := if text = [] then .null else .data text

theorem text_ofText (pointer : Pointer (List UInt8)) : (ofText pointer.text).text = pointer.text := by
  unfold ofText
  split
  next h => rw [h, text]
  next =>
    cases pointer with
    | data target => exact takeWhile_idem
    | null | wild => rfl

def Allocated (text : List UInt8) : Prop := text.length + 1 < 2 ^ 32

theorem readString_of_allocated {text : List UInt8} (h : Allocated text) (rest : List UInt8) :
    readString (.ofNat text.length) (text ++ rest) = some (ofText text, rest) := by
  unfold Allocated at h
  have hlen : text.length < 2 ^ 32 := by omega
  have hnat : (UInt32.ofNat text.length).toNat = text.length := UInt32.toNat_ofNat_of_lt' hlen
  have hwrap : UInt32.ofNat text.length + 1 ≠ 0 := by
    rw [ne_eq, ← UInt32.toNat_inj, UInt32.toNat_add, hnat, UInt32.toNat_zero, UInt32.toNat_one]
    omega
  unfold readString ofText
  by_cases hempty : text = []
  · simp [hempty]
  · have hzero : UInt32.ofNat text.length ≠ 0 := by
      rw [ne_eq, ← UInt32.toNat_inj, hnat]
      exact fun h => hempty (length_eq_zero_iff.mp h)
    rw [if_neg hzero, if_neg hwrap, if_neg (by simp [hnat]), if_neg hempty, hnat, take_left, drop_left]

theorem readString_of_not_allocated {text : List UInt8} (hlen : text.length < 2 ^ 32) (h : ¬Allocated text)
    (stream : List UInt8) : readString (.ofNat text.length) stream = none := by
  unfold Allocated at h
  have hlast : text.length = 2 ^ 32 - 1 := by omega
  rw [readString, hlast, if_neg (by decide), if_pos (by decide)]

namespace LogonUser

def format : Format LogonUser where
  read := readLogonUser
  write := writeLogonUser
  bounded := false
  content msg := ⟨record.members msg, [msg.user.text, msg.domain.text, msg.password.text]⟩
  unsent _ := []
  Fits msg :=
    (msg.user ≠ .wild ∧ msg.user.text.length < 2 ^ 32) ∧ (msg.domain ≠ .wild ∧ msg.domain.text.length < 2 ^ 32) ∧
      msg.password ≠ .wild ∧ msg.password.text.length < 2 ^ 32
  Readable msg _ := Allocated msg.user.text ∧ Allocated msg.domain.text ∧ Allocated msg.password.text

theorem fits_items (msg : LogonUser) : Layout.Fits record.items msg := by
  simp only [Layout.Fits, record, forall_mem_cons]
  exact ⟨msg.flags.toNat_lt, msg.userLength.toNat_lt, msg.domainLength.toNat_lt, msg.passwordLength.toNat_lt, by simp⟩

def counted (msg : LogonUser) : LogonUser :=
  { msg with
    userLength := .ofNat msg.user.text.length
    domainLength := .ofNat msg.domain.text.length
    passwordLength := .ofNat msg.password.text.length }

theorem readLogonUser_of_readSlots {data strings : List UInt8} {destination msg : LogonUser}
    (hdata : readSlots record.slots data destination = some (msg, strings)) :
    readLogonUser data destination =
      (readString msg.userLength strings).bind fun user =>
        (readString msg.domainLength user.2).bind fun domain =>
          (readString msg.passwordLength domain.2).bind fun password =>
            some ⟨0, { msg with user := user.1, domain := domain.1, password := password.1 }⟩ := by
  have hnums : 16 ≤ data.length := le_of_readSlots hdata
  rw [readLogonUser, require_of_le hnums, hdata]
  rfl

theorem format_lawful : format.Lawful := by
  apply Format.lawful_of
  rintro common msg ⟨⟨huser, huserLen⟩, ⟨hdom, hdomLen⟩, hpass, hpassLen⟩
  have huserTake := take_strlen huser huserLen
  have hdomTake := take_strlen hdom hdomLen
  have hpassTake := take_strlen hpass hpassLen
  refine ⟨16 + msg.counted.userLength + msg.counted.domainLength + msg.counted.passwordLength, none, msg.counted,
    writeItems record.items msg.counted ++ msg.user.text ++ msg.domain.text ++ msg.password.text, ?_, rfl, rfl,
    fun destination rest => ?_⟩
  · simp only [format, writeLogonUser, huserTake, hdomTake, hpassTake, bind_eq_bind, bind_some]
    rfl
  have hread' : format.read = readLogonUser := rfl
  simp only [hread', append_assoc]
  have hread := record.readSlots_write msg.counted destination
    (msg.user.text ++ (msg.domain.text ++ (msg.password.text ++ rest)))
  have hmbrs := record.members_assigned_write (fits_items msg.counted) destination
    (msg.user.text ++ (msg.domain.text ++ (msg.password.text ++ rest)))
  generalize record.assigned _ destination = received at hread hmbrs
  obtain ⟨hflagsSame, huserSame, hdomSame, hpassSame⟩ : received.flags = msg.flags ∧
      received.userLength = .ofNat msg.user.text.length ∧ received.domainLength = .ofNat msg.domain.text.length ∧
      received.passwordLength = .ofNat msg.password.text.length := by
    simpa [Record.members, record, counted] using hmbrs
  rw [readLogonUser_of_readSlots hread, huserSame, hdomSame, hpassSame]
  constructor
  · rintro ⟨huser, hdom, hpass⟩
    rw [readString_of_allocated huser, bind_some, readString_of_allocated hdom, bind_some,
      readString_of_allocated hpass, bind_some]
    refine ⟨_, rfl, ?_, rfl⟩
    simp [format, text_ofText, Record.members, record, counted, hflagsSame]
  · intro reading hreading _
    by_cases huser : Allocated msg.user.text
    · rw [readString_of_allocated huser, bind_some] at hreading
      by_cases hdom : Allocated msg.domain.text
      · rw [readString_of_allocated hdom, bind_some] at hreading
        by_cases hpass : Allocated msg.password.text
        · exact ⟨huser, hdom, hpass⟩
        · rw [readString_of_not_allocated hpassLen hpass] at hreading
          cases hreading
      · rw [readString_of_not_allocated hdomLen hdom] at hreading
        cases hreading
    · rw [readString_of_not_allocated huserLen huser] at hreading
      cases hreading

end LogonUser

/-! ## All messages -/

/-- The messages with a reader and a writer, except for `PaintRect` and `WindowNewUpdate`. -/
inductive Kind
  | synchronizeKeyboardEvent
  | scancodeKeyboardEvent
  | virtualKeyboardEvent
  | unicodeKeyboardEvent
  | mouseEvent
  | extendedMouseEvent
  | vblankEvent
  | capabilities
  | refreshRect
  | suppressOutput
  | beginUpdate
  | endUpdate
  | setClippingRegion
  | opaqueRect
  | screenBlt
  | patBlt
  | dstBlt
  | lineTo
  | createOffscreenSurface
  | switchOffscreenSurface
  | deleteOffscreenSurface
  | paintOffscreenSurface
  | setPointer
  | setSystemPointer
  | sharedFramebuffer
  | windowDelete
  | logonUser
  | logoffUser
  deriving DecidableEq, Repr

namespace Kind

def Body : Kind → Type
  | synchronizeKeyboardEvent => SynchronizeKeyboardEvent
  | scancodeKeyboardEvent => ScancodeKeyboardEvent
  | virtualKeyboardEvent => VirtualKeyboardEvent
  | unicodeKeyboardEvent => UnicodeKeyboardEvent
  | mouseEvent => MouseEvent
  | extendedMouseEvent => ExtendedMouseEvent
  | vblankEvent => Unit
  | capabilities => Capabilities
  | refreshRect => RefreshRect
  | suppressOutput => SuppressOutput
  | beginUpdate => Unit
  | endUpdate => Unit
  | setClippingRegion => SetClippingRegion
  | opaqueRect => OpaqueRect
  | screenBlt => ScreenBlt
  | patBlt => PatBlt
  | dstBlt => DstBlt
  | lineTo => LineTo
  | createOffscreenSurface => CreateOffscreenSurface
  | switchOffscreenSurface => SwitchOffscreenSurface
  | deleteOffscreenSurface => DeleteOffscreenSurface
  | paintOffscreenSurface => PaintOffscreenSurface
  | setPointer => SetPointer
  | setSystemPointer => SetSystemPointer
  | sharedFramebuffer => SharedFramebuffer
  | windowDelete => WindowDelete
  | logonUser => LogonUser
  | logoffUser => LogoffUser

open Format in
def format : (kind : Kind) → Format kind.Body
  | synchronizeKeyboardEvent =>
    ofRecord readSynchronizeKeyboardEvent writeSynchronizeKeyboardEvent false SynchronizeKeyboardEvent.record
      fun _ => []
  | scancodeKeyboardEvent =>
    ofRecord readScancodeKeyboardEvent writeScancodeKeyboardEvent false ScancodeKeyboardEvent.record fun _ => []
  | virtualKeyboardEvent =>
    ofRecord readVirtualKeyboardEvent writeVirtualKeyboardEvent false VirtualKeyboardEvent.record fun _ => []
  | unicodeKeyboardEvent =>
    ofRecord readUnicodeKeyboardEvent writeUnicodeKeyboardEvent false UnicodeKeyboardEvent.record fun _ => []
  | mouseEvent => ofRecord readMouseEvent writeMouseEvent false MouseEvent.record fun _ => []
  | extendedMouseEvent =>
    ofRecord readExtendedMouseEvent writeExtendedMouseEvent false ExtendedMouseEvent.record fun _ => []
  | vblankEvent => ofRecord readVblankEvent writeVblankEvent false empty fun _ => []
  | capabilities => ofRecord readCapabilities writeCapabilities false Capabilities.record fun _ => []
  | refreshRect => RefreshRect.format
  | suppressOutput => ofRecord readSuppressOutput writeSuppressOutput false SuppressOutput.record fun _ => []
  | beginUpdate => ofRecord readBeginUpdate writeBeginUpdate false empty fun _ => []
  | endUpdate => ofRecord readEndUpdate writeEndUpdate false empty fun _ => []
  | setClippingRegion =>
    ofRecord readSetClippingRegion writeSetClippingRegion false SetClippingRegion.record fun _ => []
  | opaqueRect => ofRecord readOpaqueRect writeOpaqueRect true OpaqueRect.record fun _ => []
  | screenBlt => ofRecord readScreenBlt writeScreenBlt true ScreenBlt.record fun msg => [msg.bRop]
  | patBlt => PatBlt.format
  | dstBlt => ofRecord readDstBlt writeDstBlt true DstBlt.record fun _ => []
  | lineTo => ofRecord readLineTo writeLineTo false LineTo.record fun msg => [msg.backMode, msg.backColor]
  | createOffscreenSurface =>
    ofRecord readCreateOffscreenSurface writeCreateOffscreenSurface false CreateOffscreenSurface.record fun _ => []
  | switchOffscreenSurface =>
    ofRecord readSwitchOffscreenSurface writeSwitchOffscreenSurface false SwitchOffscreenSurface.record fun _ => []
  | deleteOffscreenSurface =>
    ofRecord readDeleteOffscreenSurface writeDeleteOffscreenSurface false DeleteOffscreenSurface.record fun _ => []
  | paintOffscreenSurface =>
    ofRecord readPaintOffscreenSurface writePaintOffscreenSurface false PaintOffscreenSurface.record fun _ => []
  | setPointer => SetPointer.format
  | setSystemPointer =>
    ofRecord readSetSystemPointer writeSetSystemPointer false SetSystemPointer.record fun _ => []
  | sharedFramebuffer =>
    ofRecord readSharedFramebuffer writeSharedFramebuffer false SharedFramebuffer.record fun _ => []
  | windowDelete => ofRecord readWindowDelete writeWindowDelete false WindowDelete.record fun _ => []
  | logonUser => LogonUser.format
  | logoffUser => ofRecord readLogoffUser writeLogoffUser false LogoffUser.record fun _ => []

theorem format_lawful (kind : Kind) : kind.format.Lawful := by
  cases kind with
  | refreshRect => exact RefreshRect.format_lawful
  | patBlt => exact PatBlt.format_lawful
  | setPointer => exact SetPointer.format_lawful
  | logonUser => exact LogonUser.format_lawful
  | opaqueRect => exact Format.ofRecord_lawful 12 (some OpaqueRect.bounds) _ _ fun _ _ => rfl
  | screenBlt => exact Format.ofRecord_lawful 12 (some ScreenBlt.bounds) _ _ fun _ _ => rfl
  | dstBlt => exact Format.ofRecord_lawful 20 (some DstBlt.bounds) _ _ fun _ _ => rfl
  | _ => exact Format.ofRecord_lawful _ none _ _ fun _ _ => rfl

end Kind

/-- Every message whose members fit is written, and what it carries is read back to any struct and in front of any
bytes, unless a pattern has nowhere to go, a length of its own default is too large for its width, or a string is too
long for a buffer. The struct is the same as a whole if it agreed on the members that are not sent. -/
theorem messages_return_iff (kind : Kind) (common : Common) (msg : kind.Body) (htype : common.type.toNat < 2 ^ 16)
    (hfits : kind.format.Fits msg) :
    ∃ written, kind.format.write common msg = some written ∧
      ∀ (target : Common) (destination : kind.Body) (rest : List UInt8),
        (kind.format.Returns written target destination rest ↔ kind.format.Readable msg destination) ∧
        (kind.format.ReturnsAll written target destination rest ↔
          kind.format.Readable msg destination ∧ (kind.format.bounded ∨ target.rect = common.rect) ∧
            kind.format.unsent destination = kind.format.unsent msg) :=
  kind.format_lawful common msg htype hfits

namespace Sample

def patBlt (data : Pointer (Fin 8 → UInt8)) : PatBlt where
  nLeftRect := 16
  nTopRect := 32
  nWidth := 64
  nHeight := 8
  bRop := 0xF0
  backColor := 0
  foreColor := 0xFFFFFF
  brush := ⟨0, 0, 1, 3, 0, 0, data⟩

def checkers : Fin 8 → UInt8 := fun i => if i.val % 2 = 0 then 0xAA else 0x55

def patBltCommon : Common := ⟨7, 0, 0, ⟨0, 0, 0, 0⟩⟩

end Sample

open Sample in
/-- A pattern returns to a brush that has room for one. -/
theorem pattern_returns :
    ∃ written, Kind.patBlt.format.write patBltCommon (patBlt (.data checkers)) = some written ∧
      Kind.patBlt.format.Returns written patBltCommon (patBlt (.data fun _ => 0)) [] := by
  obtain ⟨written, hwrite, hrets⟩ :=
    messages_return_iff .patBlt patBltCommon (patBlt (.data checkers)) (by decide) ⟨checkers, rfl⟩
  exact ⟨written, hwrite, (hrets patBltCommon (patBlt (.data fun _ => 0)) []).1.mpr ⟨fun _ => 0, rfl⟩⟩

open Sample in
/-- The struct of `freerds_receive_server_message` has no room for a pattern. -/
theorem pattern_never_returns :
    ∃ written, Kind.patBlt.format.write patBltCommon (patBlt (.data checkers)) = some written ∧
      ¬Kind.patBlt.format.Returns written patBltCommon (patBlt .wild) [] := by
  refine ⟨_, rfl, ?_⟩
  rintro ⟨common, reading, hread, -⟩
  cases hread

end FreeRDS.Backend
