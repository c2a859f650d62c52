import FreeRDS.Backend.Extent
import FreeRDS.Lib.Cursor

/-! # What readers touch

The readers once more, now with the position that they move and the memory around the stream. `Stream_Read` does not look
where the stream ends; only `Stream_GetRemainingLength` does. No reader asks for it when it has left the stream.
-/

namespace FreeRDS.Backend

open Lib Wire Layout Cursor

abbrev Walk (β : Type) := Cursor β → Int × Cursor β

/-! ## The readers -/

section

variable {β : Type}

/-- `if (Stream_GetRemainingLength(s) < need) return -1;`. -/
def ifRemaining (need : Nat) (next : Walk β) : Walk β := fun c => if c.remaining < need then (-1, c) else next c

def walkRecord (need : Nat) (record : Record β) : Walk β := ifRemaining need fun c => (0, c.fetch record.slots)

end

def walkCommonHeader : Walk Common := fun c =>
  let c := c.fetch headerSlots
  if c.target.msgFlags &&& flagRect ≠ 0 then (0, c.fetch rectSlots) else (0, c)

def walkPaintRectSource : Walk PaintRect := ifRemaining 8 fun c => (0, c.fetch PaintRect.source)

variable (count : Nat)

def walkBitmap (c : Cursor PaintRect) : Cursor PaintRect :=
  (c.update fun msg => { msg with bitmapData := .data (c.ahead count) }).advance count

def walkPaintRect : Walk PaintRect := ifRemaining 12 fun c =>
  let c := c.fetch PaintRect.target
  if c.target.bitmapDataLength ≠ 0 then
    let count := c.target.bitmapDataLength.toNat
    ifRemaining count (fun c => walkPaintRectSource (walkBitmap count c)) c
  else ifRemaining 4 (fun c => walkPaintRectSource (c.fetch PaintRect.segment)) c

/-- `Stream_Read(s, msg->brush.data, 8)`. -/
def walkPattern (c : Cursor PatBlt) : Cursor PatBlt :=
  let pattern := c.ahead 8
  ((c.follow 8).update fun msg =>
    match msg.brush.data with
    | .data _ => { msg with brush.data := .data fun i => pattern.getD i 0 }
    | .null => msg
    | .wild => msg).advance 8

def walkPatBlt : Walk PatBlt := ifRemaining 60 fun c => (0, walkPattern (c.fetch PatBlt.record.slots))

def walkXorMask (c : Cursor SetPointer) : Cursor SetPointer :=
  (c.update fun msg => { msg with xorMaskData := .data (c.ahead count) }).advance count

def walkAndMask (c : Cursor SetPointer) : Cursor SetPointer :=
  (c.update fun msg => { msg with andMaskData := .data (c.ahead count) }).advance count

def walkSetPointer : Walk SetPointer := ifRemaining 10 fun c =>
  let c := c.fetch SetPointer.record.slots
  let count := c.target.lengthXorMask.toNat
  ifRemaining count (fun c =>
    let c := walkXorMask count c
    let count := c.target.lengthAndMask.toNat
    ifRemaining count (fun c => (0, walkAndMask count c)) c) c

namespace WindowNewUpdate

variable (c : Cursor WindowNewUpdate)

/-- `Stream_Write(s, msg->titleInfo.string, msg->titleInfo.length)`. Nothing reads the title again, so that it does not
matter what is behind a pointer that leads nowhere. -/
def walkTitle : Cursor WindowNewUpdate :=
  let count := c.target.titleInfo.length.toNat
  let title := (c.target.titleInfo.string.take count).getD []
  ((c.follow count).store title count).advance count

/-- The loop over the rectangles of the window: each one is stored where it was read. -/
def walkWindowRects : Nat → Cursor WindowNewUpdate → Cursor WindowNewUpdate
  | 0, c => c
  | count + 1, c => walkWindowRects count ((c.store (c.ahead 8) 8).advance 8)

/-- `msg->windowRects = (RECTANGLE_16*) Stream_Pointer(s)`, and the loop. -/
def walkWindow : Cursor WindowNewUpdate :=
  let count := c.target.numWindowRects.toNat
  walkWindowRects count (c.update fun msg => msg.withWindowRects (readRectangles count (c.ahead (8 * count))))

/-- The loop over the visible rectangles: each one is stored behind `visibilityRects`. -/
def walkVisibilityRects : Nat → Cursor WindowNewUpdate → Cursor WindowNewUpdate
  | 0, c => c
  | count + 1, c => walkVisibilityRects count ((c.follow 8).advance 8)

def walkVisibility : Cursor WindowNewUpdate :=
  let count := c.target.numVisibilityRects.toNat
  let areas := readRectangles count (c.ahead (8 * count))
  walkVisibilityRects count
    (c.update fun msg => msg.withVisibilityRects ((msg.visibilityRects.store count areas).getD msg.visibilityRects))

end WindowNewUpdate

open WindowNewUpdate in
def walkWindowNewUpdate : Walk WindowNewUpdate := fun c =>
  let c := walkTitle (c.fetch window)
  let c := walkWindow (c.fetch client)
  let c := walkVisibility (c.fetch visible)
  (0, c.advance 4)

def walkString (length : LogonUser → UInt32) (set : Pointer (List UInt8) → LogonUser → LogonUser) (c : Cursor LogonUser) :
    Cursor LogonUser :=
  let count := (length c.target).toNat
  if count = 0 then c.update (set .null) else (c.update (set (.data (c.ahead count)))).advance count

def walkUser := walkString (·.userLength) fun user msg => { msg with user := user }

def walkDomain := walkString (·.domainLength) fun domain msg => { msg with domain := domain }

def walkPassword := walkString (·.passwordLength) fun password msg => { msg with password := password }

def walkLogonUser : Walk LogonUser := ifRemaining 16 fun c =>
  (0, walkPassword (walkDomain (walkUser (c.fetch LogonUser.record.slots))))

def ServerMessage.walk : (kind : ServerMessage) → Walk kind.Body
  | beginUpdate => walkRecord 0 empty
  | endUpdate => walkRecord 0 empty
  | setClippingRegion => walkRecord 10 SetClippingRegion.record
  | opaqueRect => walkRecord 12 OpaqueRect.record
  | screenBlt => walkRecord 12 ScreenBlt.record
  | paintRect => walkPaintRect
  | patBlt => walkPatBlt
  | dstBlt => walkRecord 20 DstBlt.record
  | lineTo => walkRecord 32 LineTo.record
  | createOffscreenSurface => walkRecord 8 CreateOffscreenSurface.record
  | switchOffscreenSurface => walkRecord 4 SwitchOffscreenSurface.record
  | deleteOffscreenSurface => walkRecord 4 DeleteOffscreenSurface.record
  | paintOffscreenSurface => walkRecord 32 PaintOffscreenSurface.record
  | setPointer => walkSetPointer
  | sharedFramebuffer => walkRecord 28 SharedFramebuffer.record
  | windowNewUpdate => walkWindowNewUpdate
  | windowDelete => walkRecord 4 WindowDelete.record
  | setSystemPointer => walkRecord 4 SetSystemPointer.record
  | logonUser => walkLogonUser
  | logoffUser => walkRecord 4 LogoffUser.record

def ClientMessage.walk : (kind : ClientMessage) → Walk kind.Body
  | capabilities => walkRecord 28 Capabilities.record
  | synchronizeKeyboardEvent => walkRecord 4 SynchronizeKeyboardEvent.record
  | scancodeKeyboardEvent => walkRecord 12 ScancodeKeyboardEvent.record
  | virtualKeyboardEvent => walkRecord 8 VirtualKeyboardEvent.record
  | unicodeKeyboardEvent => walkRecord 8 UnicodeKeyboardEvent.record
  | mouseEvent => walkRecord 12 MouseEvent.record
  | extendedMouseEvent => walkRecord 12 ExtendedMouseEvent.record
  | vblankEvent => walkRecord 0 empty

section

variable (length : LogonUser → UInt32) (set : Pointer (List UInt8) → LogonUser → LogonUser) {c : Cursor LogonUser}

theorem walkString_of_eq_zero (h : length c.target = 0) : walkString length set c = c.update (set .null) :=
  if_pos (by rw [h]; rfl)

theorem walkString_of_ne_zero (h : length c.target ≠ 0) :
    walkString length set c =
      (c.update (set (.data (c.ahead (length c.target).toNat)))).advance (length c.target).toNat :=
  if_neg fun hzero => h (UInt32.toNat_inj.mp hzero)

end

section

variable {β : Type}

theorem safe_ifRemaining {need : Nat} {next : Walk β} {c : Cursor β} (h : Inside c)
    (hnext : need ≤ c.remaining → Safe (next c)) : Safe (ifRemaining need next c) := by
  unfold ifRemaining
  split
  next => exact h.safe _
  next hneed => exact hnext (by omega)

theorem safe_record {need : Nat} {record : Record β} (hneed : size record.slots = need) {c : Cursor β} (h : Inside c) :
    Safe (walkRecord need record c) :=
  safe_ifRemaining h fun hroom => (h.fetch record.slots (hneed.trans_le hroom)).safe 0

end

theorem safe_paintRectSource {c : Cursor PaintRect} (h : Inside c) : Safe (walkPaintRectSource c) :=
  safe_ifRemaining h fun hroom => (h.fetch PaintRect.source hroom).safe 0

theorem safe_paintRect {c : Cursor PaintRect} (h : Inside c) : Safe (walkPaintRect c) := by
  refine safe_ifRemaining h fun hroom => ?_
  have htarget := h.fetch PaintRect.target hroom
  by_cases hbmp : (c.fetch PaintRect.target).target.bitmapDataLength ≠ 0
  · simp only [if_pos hbmp]
    exact safe_ifRemaining htarget fun hroom => safe_paintRectSource (htarget.advance hroom _)
  · simp only [if_neg hbmp]
    exact safe_ifRemaining htarget fun hroom => safe_paintRectSource (htarget.fetch PaintRect.segment hroom)

theorem safe_setPointer {c : Cursor SetPointer} (h : Inside c) : Safe (walkSetPointer c) := by
  refine safe_ifRemaining h fun hroom => ?_
  have hmbrs := h.fetch SetPointer.record.slots hroom
  generalize c.fetch SetPointer.record.slots = c at hmbrs ⊢
  refine safe_ifRemaining hmbrs fun hroom => ?_
  have hxor : Inside (walkXorMask c.target.lengthXorMask.toNat c) := hmbrs.advance hroom _
  exact safe_ifRemaining hxor fun hroom => (hxor.advance hroom _).safe 0

/-! ## Leaving the stream -/

variable (buffer : Buffer)

theorem safe_pattern_iff (msg : PatBlt) :
    Safe (walkPatBlt (start buffer msg)) ↔ buffer.remaining < 60 := by
  have hremaining : (start buffer msg).remaining = buffer.remaining := rfl
  unfold walkPatBlt ifRemaining
  rw [hremaining]
  split
  next hneed => exact iff_of_true ((inside_start buffer msg).safe _) hneed
  next hneed => exact iff_of_false (fun h => Bool.noConfusion h.2.2) hneed

section

variable {β : Type} {buffer : Buffer} {c : Cursor β}

section

variable (base : Nat) {offset width count : Nat} (hmem : c.memory = buffer.memory)
  (hpos : c.position = buffer.position + base) (h : offset + width ≤ count)

include hmem hpos h

theorem ofBytes_ahead :
    ofBytes (((c.ahead count).drop offset).take width) = buffer.number (base + offset) width := by
  rw [c.ahead_drop_take h]
  simp only [ahead, advance, Buffer.number, hmem, hpos, Nat.add_assoc]

theorem toNat_ahead (hwid : width ≤ 4) :
    (UInt32.ofNat (ofBytes (((c.ahead count).drop offset).take width))).toNat = buffer.number (base + offset) width := by
  rw [toNat_ofNat_number hwid, number, ofBytes_ahead base hmem hpos h]

end

theorem start_position_le_iff (msg : β) (count : Nat) :
    (start buffer msg).position + count ≤ (start buffer msg).length ↔ count ≤ buffer.remaining := by
  have hle := buffer.position_le
  simp only [start, Buffer.remaining]
  omega

end

theorem safe_commonHeader_iff (msg : Common) :
    Safe (walkCommonHeader (start buffer msg)) ↔
      10 ≤ buffer.remaining ∧ (UInt32.ofNat (buffer.number 6 4) &&& flagRect ≠ 0 → 26 ≤ buffer.remaining) := by
  have hflags : ((start buffer msg).fetch headerSlots).target.msgFlags = .ofNat (buffer.number 6 4) := by
    show UInt32.ofNat (ofBytes (((((start buffer msg).ahead 10).drop 2).drop 4).take 4)) = _
    rw [List.drop_drop, ofBytes_ahead 0 rfl rfl (by decide)]
  unfold walkCommonHeader
  simp only [hflags]
  split
  next hflag =>
    have hsafe : Safe (0, ((start buffer msg).fetch headerSlots).fetch rectSlots) ↔ 26 ≤ buffer.remaining := by
      rw [← start_position_le_iff msg]
      exact ⟨fun h => h.1.resolve_left (lt_irrefl 0), fun h => ⟨.inr h, rfl, rfl⟩⟩
    rw [hsafe]
    exact ⟨fun h => ⟨by omega, fun _ => h⟩, fun h => h.2 hflag⟩
  next hflag =>
    have hsafe : Safe (0, (start buffer msg).fetch headerSlots) ↔ 10 ≤ buffer.remaining := by
      rw [← start_position_le_iff msg]
      exact ⟨fun h => h.1.resolve_left (lt_irrefl 0), fun h => ⟨.inr h, rfl, rfl⟩⟩
    rw [hsafe]
    exact ⟨fun h => ⟨h, fun hflag' => absurd hflag' hflag⟩, fun h => h.1⟩

theorem walkString_moves (length : LogonUser → UInt32) (set : Pointer (List UInt8) → LogonUser → LogonUser)
    (c : Cursor LogonUser) :
    ∃ string, walkString length set c = (c.update (set string)).advance (length c.target).toNat := by
  by_cases hzero : length c.target = 0
  · refine ⟨.null, ?_⟩
    rw [walkString_of_eq_zero length set hzero, hzero]
    rfl
  · exact ⟨_, walkString_of_ne_zero length set hzero⟩

theorem walkPassword_moves (c : Cursor LogonUser) :
    ∃ msg, walkPassword (walkDomain (walkUser c)) = ⟨c.memory, c.length,
      c.position + c.target.userLength.toNat + c.target.domainLength.toNat + c.target.passwordLength.toNat, msg,
      c.wrote, c.followed⟩ := by
  obtain ⟨user, huser⟩ : ∃ user, walkUser c = _ := walkString_moves _ _ c
  obtain ⟨domain, hdom⟩ : ∃ domain, walkDomain (walkUser c) = _ := walkString_moves _ _ _
  obtain ⟨password, hpass⟩ : ∃ password, walkPassword (walkDomain (walkUser c)) = _ := walkString_moves _ _ _
  rw [hpass, hdom, huser]
  exact ⟨_, rfl⟩

theorem safe_logonUser_iff (msg : LogonUser) :
    Safe (walkLogonUser (start buffer msg)) ↔
      buffer.remaining < 16 ∨ 16 + buffer.number 4 4 + buffer.number 8 4 + buffer.number 12 4 ≤ buffer.remaining := by
  have hremaining : (start buffer msg).remaining = buffer.remaining := rfl
  have huser : ((start buffer msg).fetch LogonUser.record.slots).target.userLength.toNat = buffer.number 4 4 := by
    show (UInt32.ofNat (ofBytes ((((start buffer msg).ahead 16).drop 4).take 4))).toNat = _
    rw [toNat_ahead 0 rfl rfl (by decide) (by decide)]
  have hdom : ((start buffer msg).fetch LogonUser.record.slots).target.domainLength.toNat = buffer.number 8 4 := by
    show (UInt32.ofNat (ofBytes (((((start buffer msg).ahead 16).drop 4).drop 4).take 4))).toNat = _
    rw [List.drop_drop, toNat_ahead 0 rfl rfl (by decide) (by decide)]
  have hpass :
      ((start buffer msg).fetch LogonUser.record.slots).target.passwordLength.toNat = buffer.number 12 4 := by
    show (UInt32.ofNat (ofBytes ((((((start buffer msg).ahead 16).drop 4).drop 4).drop 4).take 4))).toNat = _
    rw [List.drop_drop, List.drop_drop, toNat_ahead 0 rfl rfl (by decide) (by decide)]
  unfold walkLogonUser ifRemaining
  rw [hremaining]
  split
  next hneed => exact iff_of_true ((inside_start buffer msg).safe _) (.inl hneed)
  next hneed =>
    obtain ⟨msg', hmoves⟩ := walkPassword_moves ((start buffer msg).fetch LogonUser.record.slots)
    rw [or_iff_right hneed, ← start_position_le_iff msg]
    beta_reduce
    rw [hmoves, huser, hdom, hpass]
    have hend : ((start buffer msg).fetch LogonUser.record.slots).position + buffer.number 4 4 + buffer.number 8 4 +
        buffer.number 12 4 =
          (start buffer msg).position + (16 + buffer.number 4 4 + buffer.number 8 4 + buffer.number 12 4) := by
      show (start buffer msg).position + 16 + _ + _ + _ = _
      omega
    rw [← hend]
    exact ⟨fun h => h.1.resolve_left (lt_irrefl 0), fun h => ⟨.inr h, rfl, rfl⟩⟩

namespace WindowNewUpdate

variable {c : Cursor WindowNewUpdate}

theorem walkTitle_of_zero (h : c.target.titleInfo.length.toNat = 0) : walkTitle c = c := by
  have htake : c.target.titleInfo.string.take 0 = some [] := by
    cases c.target.titleInfo.string <;> simp [Pointer.take]
  simp [walkTitle, h, htake, follow, store, advance]

theorem walkTitle_wrote (h : c.target.titleInfo.length.toNat ≠ 0) :
    (walkTitle c).wrote = true := by
  simp [walkTitle, follow, store, advance, Nat.pos_of_ne_zero h]

theorem walkWindowRects_wrote {count : Nat} {c : Cursor WindowNewUpdate} (h : 0 < count ∨ c.wrote = true) :
    (walkWindowRects count c).wrote = true := by
  induction count generalizing c with
  | zero => exact h.resolve_left (lt_irrefl 0)
  | succ count ih => exact ih (.inr (by simp [store, advance]))

theorem walkVisibilityRects_wrote (c : Cursor WindowNewUpdate) :
    (walkVisibilityRects count c).wrote = c.wrote := by
  induction count generalizing c with
  | zero => rfl
  | succ count ih => exact ih _

theorem walkVisibilityRects_followed {count : Nat} {c : Cursor WindowNewUpdate} (h : 0 < count ∨ c.followed = true) :
    (walkVisibilityRects count c).followed = true := by
  induction count generalizing c with
  | zero => exact h.resolve_left (lt_irrefl 0)
  | succ count ih => exact ih (.inr (by simp [follow, advance]))

section

variable (c : Cursor WindowNewUpdate)

theorem titleLength_fetch :
    (c.fetch window).target.titleInfo.length = .ofNat (ofBytes (((c.ahead 22).drop 20).take 2)) := by
  simp [fetch, window, Layout.size, assign, numbers]

theorem numWindowRects_fetch :
    (c.fetch client).target.numWindowRects = .ofNat (ofBytes (((c.ahead 26).drop 24).take 2)) := by
  simp [fetch, client, Layout.size, assign, numbers]

theorem numVisibilityRects_fetch :
    (c.fetch visible).target.numVisibilityRects = .ofNat (ofBytes (((c.ahead 10).drop 8).take 2)) := by
  simp [fetch, visible, Layout.size, assign, numbers]

end

theorem not_safe_of_wrote (h : c.wrote = true) (status : Int) :
    ¬Safe (status, (walkVisibility (c.fetch visible)).advance 4) := by
  intro hsafe
  have hwrote : (walkVisibility (c.fetch visible)).wrote = false := hsafe.2.1
  rw [walkVisibility, walkVisibilityRects_wrote] at hwrote
  exact Bool.noConfusion (h.symm.trans hwrote)

end WindowNewUpdate

open WindowNewUpdate in
theorem safe_windowNewUpdate_iff (msg : WindowNewUpdate) :
    Safe (walkWindowNewUpdate (start buffer msg)) ↔
      62 ≤ buffer.remaining ∧ buffer.number 20 2 = 0 ∧ buffer.number 46 2 = 0 ∧ buffer.number 56 2 = 0 := by
  have htitle : ((start buffer msg).fetch window).target.titleInfo.length.toNat = buffer.number 20 2 := by
    rw [titleLength_fetch, toNat_ahead 0 rfl rfl (by decide) (by decide)]
  dsimp only [walkWindowNewUpdate]
  by_cases hzero : buffer.number 20 2 = 0
  · rw [hzero] at htitle
    simp only [walkTitle_of_zero htitle]
    have hrects : (((start buffer msg).fetch window).fetch client).target.numWindowRects.toNat = buffer.number 46 2 := by
      rw [numWindowRects_fetch, toNat_ahead 22 rfl rfl (by decide) (by decide)]
    by_cases hzero' : buffer.number 46 2 = 0
    · rw [hzero'] at hrects
      simp only [walkWindow, hrects, walkWindowRects]
      generalize hc : Cursor.update _ (((start buffer msg).fetch window).fetch client) = c
      have hvis : (c.fetch visible).target.numVisibilityRects.toNat = buffer.number 56 2 := by
        rw [numVisibilityRects_fetch, toNat_ahead 48 (by rw [← hc]; rfl) (by rw [← hc]; rfl) (by decide) (by decide)]
      by_cases hzero'' : buffer.number 56 2 = 0
      · rw [hzero''] at hvis
        simp only [walkVisibility, hvis, walkVisibilityRects]
        rw [and_iff_left ⟨hzero, hzero', hzero''⟩, ← start_position_le_iff msg]
        subst hc
        exact ⟨fun h => h.1.resolve_left (lt_irrefl 0), fun h => ⟨.inr h, rfl, rfl⟩⟩
      · refine iff_of_false (fun hsafe => ?_) fun h => hzero'' h.2.2.2
        have hfollowed : (walkVisibility (c.fetch visible)).followed = false := hsafe.2.2
        rw [walkVisibility, hvis, walkVisibilityRects_followed (.inl (Nat.pos_of_ne_zero hzero''))] at hfollowed
        exact Bool.noConfusion hfollowed
    · refine iff_of_false (not_safe_of_wrote ?_ 0) fun h => hzero' h.2.2.1
      rw [← hrects] at hzero'
      exact walkWindowRects_wrote (.inl (Nat.pos_of_ne_zero hzero'))
  · rw [← htitle] at hzero
    refine iff_of_false (not_safe_of_wrote ?_ 0) fun h => hzero (htitle.trans h.2.1)
    exact walkWindowRects_wrote (.inr (walkTitle_wrote hzero))

/-! ## All readers -/

/-- The readers that `freerds_transport_receive` and the two dispatchers call. -/
inductive MessageReader
  | commonHeader
  | server (kind : ServerMessage)
  | client (kind : ClientMessage)

namespace MessageReader

def Body : MessageReader → Type
  | commonHeader => Common
  | server kind => kind.Body
  | client kind => kind.Body

def walk : (reader : MessageReader) → Walk reader.Body
  | commonHeader => walkCommonHeader
  | server kind => kind.walk
  | client kind => kind.walk

def Accepts : MessageReader → Buffer → Prop
  | commonHeader, buffer =>
    10 ≤ buffer.remaining ∧ (UInt32.ofNat (buffer.number 6 4) &&& flagRect ≠ 0 → 26 ≤ buffer.remaining)
  | server .patBlt, buffer => buffer.remaining < 60
  | server .windowNewUpdate, buffer =>
    62 ≤ buffer.remaining ∧ buffer.number 20 2 = 0 ∧ buffer.number 46 2 = 0 ∧ buffer.number 56 2 = 0
  | server .logonUser, buffer =>
    buffer.remaining < 16 ∨ 16 + buffer.number 4 4 + buffer.number 8 4 + buffer.number 12 4 ≤ buffer.remaining
  | _, _ => True

end MessageReader

/-- A header is read without any check, and so are a window and the strings of a user. The title of a window is written
to the stream, its rectangles are stored where they lie in it, and those that are visible behind a pointer that nobody
has set, as is the pattern of a brush. -/
theorem reader_safe_iff (reader : MessageReader) (buffer : Buffer) (msg : reader.Body) :
    Safe (reader.walk (start buffer msg)) ↔ reader.Accepts buffer := by
  have hins := inside_start buffer msg
  cases reader with
  | commonHeader => exact safe_commonHeader_iff buffer msg
  | client kind => cases kind <;> exact iff_of_true (safe_record (by rfl) hins) trivial
  | server kind =>
    cases kind with
    | paintRect => exact iff_of_true (safe_paintRect hins) trivial
    | patBlt => exact safe_pattern_iff buffer msg
    | setPointer => exact iff_of_true (safe_setPointer hins) trivial
    | windowNewUpdate => exact safe_windowNewUpdate_iff buffer msg
    | logonUser => exact safe_logonUser_iff buffer msg
    | _ => exact iff_of_true (safe_record (by rfl) hins) trivial

/-- A window with a title of one byte, in a stream that has room for a window without a title. -/
def Sample.titled : Buffer := ⟨fun i => if i = 20 then 1 else 0, 62, 0, by decide⟩

/-- The title is written to the stream from a pointer that nobody has set, and the reader runs over the end. -/
theorem title_written_to_stream :
    ¬Safe ((MessageReader.server .windowNewUpdate).walk (start Sample.titled (default : WindowNewUpdate))) ∧
      (walkWindowNewUpdate (start Sample.titled default)).1 = 0 ∧
      (walkWindowNewUpdate (start Sample.titled default)).2.position = 63 ∧
      (walkWindowNewUpdate (start Sample.titled default)).2.wrote = true ∧
      (walkWindowNewUpdate (start Sample.titled default)).2.followed = true :=
  ⟨fun h => Bool.noConfusion (h.2.1 : true = false), rfl, rfl, rfl, rfl⟩

end FreeRDS.Backend
