import FreeRDS.Backend.Outbound
import FreeRDS.Backend.StaleBytes

/-! # Calls of the client interface

What a connector calls in the outbound interface of the client is to be called in the service at the other end of the
pipe. The writers, the reassembly of the stream and the dispatch each have their own list of the messages.
-/

namespace FreeRDS.Backend

open Lib Wire Layout

/-! ## The interface -/

/-- The functions of `rdsClientInterface` that `freerds_client_outbound_interface_new` sets, with their arguments. -/
inductive Operation
  | synchronizeKeyboardEvent (flags : UInt32)
  | scancodeKeyboardEvent (flags code keyboardType : UInt32)
  | virtualKeyboardEvent (flags code : UInt32)
  | unicodeKeyboardEvent (flags code : UInt32)
  | mouseEvent (flags x y : UInt32)
  | extendedMouseEvent (flags x y : UInt32)
  | vblankEvent
  | logonUser (msg : LogonUser)
  | logoffUser (msg : LogoffUser)
  | suppressOutput (activeOutput : UInt32)

namespace Operation

def kind : Operation → Writable
  | synchronizeKeyboardEvent _ => .client .synchronizeKeyboardEvent
  | scancodeKeyboardEvent _ _ _ => .client .scancodeKeyboardEvent
  | virtualKeyboardEvent _ _ => .client .virtualKeyboardEvent
  | unicodeKeyboardEvent _ _ => .client .unicodeKeyboardEvent
  | mouseEvent _ _ _ => .client .mouseEvent
  | extendedMouseEvent _ _ _ => .client .extendedMouseEvent
  | vblankEvent => .client .vblankEvent
  | logonUser _ => .server .logonUser
  | logoffUser _ => .server .logoffUser
  | suppressOutput _ => .suppressOutput

def type : Operation → UInt32
  | synchronizeKeyboardEvent _ => 104
  | scancodeKeyboardEvent _ _ _ => 105
  | virtualKeyboardEvent _ _ => 106
  | unicodeKeyboardEvent _ _ => 107
  | mouseEvent _ _ _ => 108
  | extendedMouseEvent _ _ _ => 109
  | vblankEvent => 110
  | logonUser _ => 111
  | logoffUser _ => 112
  | suppressOutput _ => 114

def body : (op : Operation) → op.kind.Body
  | synchronizeKeyboardEvent flags => (⟨flags⟩ : SynchronizeKeyboardEvent)
  | scancodeKeyboardEvent flags code keyboardType => (⟨flags, code, keyboardType⟩ : ScancodeKeyboardEvent)
  | virtualKeyboardEvent flags code => (⟨flags, code⟩ : VirtualKeyboardEvent)
  | unicodeKeyboardEvent flags code => (⟨flags, code⟩ : UnicodeKeyboardEvent)
  | mouseEvent flags x y => (⟨flags, x, y⟩ : MouseEvent)
  | extendedMouseEvent flags x y => (⟨flags, x, y⟩ : ExtendedMouseEvent)
  | vblankEvent => ()
  | logonUser msg => msg
  | logoffUser msg => msg
  | suppressOutput activeOutput => (⟨activeOutput⟩ : SuppressOutput)

def ofMessage : Operation → Bool
  | logonUser _ => true
  | logoffUser _ => true
  | _ => false

/-- The functions of the interface, where `memory` is what the header of the message held. -/
def send (growth : Growth) (stream : OutboundStream) (memory : Common) (op : Operation) : Option Sent :=
  if op.ofMessage then writeMessage growth op.kind.writer.toEntry stream { memory with type := op.type } op.body
  else writeEvent op.kind.writer.toEntry stream { memory with msgFlags := 0, type := op.type } op.body

def total (op : Operation) : Nat := op.kind.writer.total op.body

def Backed (op : Operation) : Prop := op.kind.writer.Backed op.body

def HasCase : Operation → Prop
  | logonUser _ => False
  | logoffUser _ => False
  | suppressOutput _ => False
  | _ => True

end Operation

/-- The function of the interface that a callback is. `Capabilities` is no function of the outbound interface. -/
def Callback.operation : Callback → Option Operation
  | .server _ _ _ => none
  | .capabilities _ _ => none
  | .synchronizeKeyboardEvent flags => some (.synchronizeKeyboardEvent flags)
  | .scancodeKeyboardEvent flags code keyboardType => some (.scancodeKeyboardEvent flags code keyboardType)
  | .virtualKeyboardEvent flags code => some (.virtualKeyboardEvent flags code)
  | .unicodeKeyboardEvent flags code => some (.unicodeKeyboardEvent flags code)
  | .mouseEvent flags x y => some (.mouseEvent flags x y)
  | .extendedMouseEvent flags x y => some (.extendedMouseEvent flags x y)
  | .vblankEvent => some .vblankEvent

/-- Whenever a service whose callbacks are registered receives the message, it makes one call, and it is this one. -/
def Operation.Delivered (op : Operation) (message : Message) : Prop :=
  ∀ (connector : Connector) (effect : Handler) (buffer : Memory UInt8) (target : Common) (handed : Handed) (stack : Stack),
    connector.serverMode = true → connector.vblankEvent = true →
      Receives (handler connector effect) buffer message target handed →
        ∃ callback, receiveMessage connector stack handed = some (some callback) ∧ callback.operation = some op

/-! ## The frame -/

theorem WellFormed.exists_message {type : UInt32} {frame : List UInt8} (h : WellFormed type frame)
    (htype : type.toNat < 2 ^ 16) (hfits : frame.length ≤ 8192) :
    ∃ message : Message, message.bytes = frame ∧ message.field 0 2 = type := by
  obtain ⟨common, data, rfl, rfl, hlen⟩ := h
  have hhdr : (writeItems header.items common).length = 10 := header.writeItems_length common
  have hpeek : peekCommonHeaderLength (writeItems header.items common) = common.length.toNat := by
    simpa [peekCommonHeaderLength] using Writer.length_field common []
  rw [writeCommonHeader, List.append_assoc] at hlen hfits ⊢
  rw [List.length_append, hhdr] at hlen hfits
  refine ⟨⟨⟨writeItems header.items common, _, hhdr, ?_⟩, ?_, ?_⟩, rfl, ?_⟩
  · show _ = peekCommonHeaderLength _ - 10
    omega
  · show 10 ≤ peekCommonHeaderLength (writeItems header.items common)
    omega
  · show peekCommonHeaderLength (writeItems header.items common) ≤ 8192
    omega
  · have hitems : writeItems header.items common = toBytes 2 common.type.toNat ++
        (toBytes 4 common.length.toNat ++ toBytes 4 common.msgFlags.toNat) := by simp [writeItems, header]
    simp only [Message.field, List.drop_zero]
    rw [hitems, List.take_left' (toBytes_length 2 _), ofBytes_toBytes_of_lt htype, UInt32.ofNat_toNat]

theorem handedOf_of_written {message : Message} {size : UInt32} {common : Common} {data : List UInt8}
    (hbytes : message.bytes = writeCommonHeader (stamp size none common) ++ data) (htype : common.type.toNat < 2 ^ 16)
    {tail : List UInt8} (htail : tail.length = capacity - message.length) (target : Common) :
    (handedOf message tail target).common.type = common.type ∧ (handedOf message tail target).stream = data ++ tail := by
  have hread := readCommonHeader_tail message htail target
  rw [hbytes, List.append_assoc, Format.readCommonHeader_stamp htype] at hread
  obtain ⟨hcom, hstrm⟩ := Prod.mk.inj (Option.some.inj hread)
  exact ⟨by rw [← hcom]; exact Format.stamp_type .., hstrm.symm⟩

theorem readRecord_written {β : Type} {record : Record β} {msg : β} (hfits : Fits record.items msg)
    (hmbrs : ∀ msg', record.members msg' = record.members msg → msg' = msg) (rest : List UInt8) (memory : β) :
    readRecord (size record.slots) record (writeItems record.items msg ++ rest) memory = some ⟨0, msg⟩ := by
  have hle : size record.slots ≤ (writeItems record.items msg ++ rest).length := by
    simp [record.writeItems_length]
  rw [Format.readRecord_of_le memory hle, hmbrs _ (record.members_assigned_write hfits memory rest)]

namespace ClientMessage

def record : (kind : ClientMessage) → Record kind.Body
  | capabilities => Capabilities.record
  | synchronizeKeyboardEvent => SynchronizeKeyboardEvent.record
  | scancodeKeyboardEvent => ScancodeKeyboardEvent.record
  | virtualKeyboardEvent => VirtualKeyboardEvent.record
  | unicodeKeyboardEvent => UnicodeKeyboardEvent.record
  | mouseEvent => MouseEvent.record
  | extendedMouseEvent => ExtendedMouseEvent.record
  | vblankEvent => empty

variable (kind : ClientMessage)

theorem fits_record (msg : kind.Body) : Fits kind.record.items msg := by
  have hall : (kind.record.items.map Item.width).all (· == 4) = true := by cases kind <;> rfl
  intro item hitem
  have hwid : item.width = 4 := by
    simpa using List.all_eq_true.mp hall item.width (List.mem_map_of_mem hitem)
  rw [hwid]
  exact (item.get msg).toNat_lt

theorem members_record_inj {msg msg' : kind.Body}
    (h : kind.record.members msg' = kind.record.members msg) : msg' = msg := by
  cases kind <;> cases msg <;> cases msg' <;> cases h <;> rfl

theorem read_eq : kind.read = readRecord (size kind.record.slots) kind.record := by
  cases kind <;> rfl

theorem read_written (msg : kind.Body) (rest : List UInt8) (memory : kind.Body) :
    kind.read (writeItems kind.record.items msg ++ rest) memory = some ⟨0, msg⟩ := by
  rw [kind.read_eq]
  exact readRecord_written (kind.fits_record msg) (fun _ => kind.members_record_inj) rest memory

theorem exists_bytes {common : Common} {msg : kind.Body} {measured : Measured kind.Body}
    {written : Written kind.Body} (hrun : kind.writer.run common msg = some (measured, written)) :
    ∃ length, written.bytes =
      writeCommonHeader (stamp length none (Backend.measured length false common)) ++
        writeItems kind.record.items msg := by
  cases kind <;> cases hrun <;> exact ⟨_, rfl⟩

end ClientMessage

namespace Operation

variable {op : Operation}

theorem send_eq (hbacked : op.Backed) (hfits : op.total ≤ 8192) :
    ∃ frame, WellFormed op.type frame ∧ frame.length = op.total ∧
      (∀ common : Common, common.type = op.type →
        ∃ measured written, op.kind.writer.Frames common op.body measured written ∧ written.bytes = frame) ∧
      ∀ growth stream memory, ∃ stream', op.send growth stream memory = some ⟨frame, stream'⟩ := by
  have htotal : op.kind.writer.total op.body < 2 ^ 32 := hfits.trans_lt (by decide)
  obtain ⟨frame, hformed, hframes⟩ := op.kind.writer_lawful.exists_frame hbacked htotal op.type
  have hlen : frame.length = op.total := by
    obtain ⟨measured, written, hwritten, rfl⟩ := hframes ⟨op.type, 0, 0, ⟨0, 0, 0, 0⟩⟩ rfl
    exact (op.kind.writer_lawful.length hwritten.run).2.2.1
  refine ⟨frame, hformed, hlen, hframes, fun growth stream memory => ?_⟩
  unfold send
  split
  next =>
    obtain ⟨measured, written, hwritten, rfl⟩ := hframes { memory with type := op.type } rfl
    exact hwritten.writeMessage growth stream
  next =>
    obtain ⟨measured, written, hwritten, rfl⟩ := hframes { memory with msgFlags := 0, type := op.type } rfl
    exact hwritten.writeEvent ((hlen.trans_le hfits).trans stream.minimum)

theorem not_delivered {message : Message} (htype : ClientMessage.ofType (message.field 0 2) = none) :
    ¬op.Delivered message := by
  intro h
  have htail : (List.replicate (capacity - message.length) (0 : UInt8)).length = capacity - message.length :=
    List.length_replicate
  obtain ⟨callback, hcb, -⟩ := h ⟨true, true, true⟩ (fun _ buffer => buffer) (fun _ => 0) default _
    ⟨fun _ => default, fun _ => default⟩ rfl rfl ((receives_iff ..).mpr ⟨_, htail, rfl⟩)
  simp [receiveMessage, receiveClientMessage, message.handedOf_common_type, htype] at hcb

theorem delivered {kind : ClientMessage} {msg : kind.Body} {message : Message} {size : UInt32}
    {common : Common} {data : List UInt8}
    (hbytes : message.bytes = writeCommonHeader (stamp size none common) ++ data) (htype : common.type.toNat < 2 ^ 16)
    (hkind : ClientMessage.ofType common.type = some kind)
    (hread : ∀ tail memory, kind.read (data ++ tail) memory = some ⟨0, msg⟩)
    (hcall : ∀ connector : Connector, connector.vblankEvent = true → ∀ common,
      ∃ callback, clientCallback connector common kind msg = some callback ∧ callback.operation = some op) :
    op.Delivered message := by
  intro connector effect buffer target handed stack hmode hvblank hrecv
  obtain ⟨tail, htail, rfl⟩ := (receives_iff ..).mp hrecv
  obtain ⟨htype', hstrm⟩ := handedOf_of_written hbytes htype htail target
  obtain ⟨callback, hcb, hoperation⟩ := hcall connector hvblank (handedOf message tail target).common
  refine ⟨callback, ?_, hoperation⟩
  simp [receiveMessage, hmode, receiveClientMessage, htype', hkind, hstrm, hread, hcb]

theorem delivered_of_frames (kind : ClientMessage) {msg : kind.Body} {common : Common}
    {measured : Measured kind.Body} {written : Written kind.Body} {message : Message}
    (hframes : kind.writer.Frames common msg measured written) (hbytes : written.bytes = message.bytes)
    (htype : common.type.toNat < 2 ^ 16) (hkind : ClientMessage.ofType common.type = some kind)
    (hcall : ∀ connector : Connector, connector.vblankEvent = true → ∀ common,
      ∃ callback, clientCallback connector common kind msg = some callback ∧ callback.operation = some op) :
    op.Delivered message := by
  obtain ⟨length, hwritten⟩ := kind.exists_bytes hframes.run
  exact delivered (hbytes.symm.trans hwritten) htype hkind (kind.read_written msg) hcall

theorem type_lt (op : Operation) : op.type.toNat < 2 ^ 16 := by
  cases op <;> exact of_decide_eq_true rfl

theorem delivered_of_hasCase (hcase : op.HasCase) {message : Message}
    (hframes : ∀ common : Common, common.type = op.type →
      ∃ measured written, op.kind.writer.Frames common op.body measured written ∧ written.bytes = message.bytes) :
    op.Delivered message := by
  obtain ⟨measured, written, hwritten, hbytes⟩ := hframes ⟨op.type, 0, 0, ⟨0, 0, 0, 0⟩⟩ rfl
  cases op with
  | synchronizeKeyboardEvent flags =>
    exact delivered_of_frames .synchronizeKeyboardEvent hwritten hbytes (type_lt _) rfl
      fun _ _ _ => ⟨_, rfl, rfl⟩
  | scancodeKeyboardEvent flags code keyboardType =>
    exact delivered_of_frames .scancodeKeyboardEvent hwritten hbytes (type_lt _) rfl fun _ _ _ => ⟨_, rfl, rfl⟩
  | virtualKeyboardEvent flags code =>
    exact delivered_of_frames .virtualKeyboardEvent hwritten hbytes (type_lt _) rfl fun _ _ _ => ⟨_, rfl, rfl⟩
  | unicodeKeyboardEvent flags code =>
    exact delivered_of_frames .unicodeKeyboardEvent hwritten hbytes (type_lt _) rfl fun _ _ _ => ⟨_, rfl, rfl⟩
  | mouseEvent flags x y =>
    exact delivered_of_frames .mouseEvent hwritten hbytes (type_lt _) rfl fun _ _ _ => ⟨_, rfl, rfl⟩
  | extendedMouseEvent flags x y =>
    exact delivered_of_frames .extendedMouseEvent hwritten hbytes (type_lt _) rfl fun _ _ _ => ⟨_, rfl, rfl⟩
  | vblankEvent =>
    exact delivered_of_frames .vblankEvent hwritten hbytes (type_lt _) rfl
      fun _ hvblank _ => ⟨_, if_pos hvblank, rfl⟩
  | logonUser msg | logoffUser msg | suppressOutput activeOutput => exact hcase.elim

theorem hasCase_of_ofType {kind : ClientMessage} (h : ClientMessage.ofType op.type = some kind) :
    op.HasCase := by
  cases op with
  | logonUser msg | logoffUser msg | suppressOutput activeOutput => cases h
  | _ => trivial

end Operation

/-- A call reaches the service unless it logs a user on or off or suppresses the output: these messages are sent, and
there is no case for them. -/
theorem client_call_delivered_iff (op : Operation) (hbacked : op.Backed) (hfits : op.total ≤ 8192) :
    ∃ message : Message,
      (∀ growth stream memory, ∃ stream', op.send growth stream memory = some ⟨message.bytes, stream'⟩) ∧
      (op.Delivered message ↔ op.HasCase) := by
  obtain ⟨frame, hformed, hlen, hframes, hsend⟩ := Operation.send_eq hbacked hfits
  obtain ⟨message, rfl, hfield⟩ := hformed.exists_message op.type_lt (hlen.trans_le hfits)
  refine ⟨message, hsend, fun hdelivered => ?_, fun hcase => Operation.delivered_of_hasCase hcase hframes⟩
  cases hkind : ClientMessage.ofType op.type with
  | none => exact absurd hdelivered (Operation.not_delivered (hfield ▸ hkind))
  | some kind => exact Operation.hasCase_of_ofType hkind

theorem mouse_event_delivered :
    ∃ message : Message,
      (∀ growth stream memory,
        ∃ stream', (Operation.mouseEvent 1 20 30).send growth stream memory = some ⟨message.bytes, stream'⟩) ∧
      (Operation.mouseEvent 1 20 30).Delivered message := by
  obtain ⟨message, hsend, hdelivered⟩ := client_call_delivered_iff (.mouseEvent 1 20 30) trivial (by decide)
  exact ⟨message, hsend, hdelivered.mpr trivial⟩

/-- `RDS_CLIENT_LOGOFF_USER`. -/
def Sample.logoffUser : Message where
  header := [112, 0, 14, 0, 0, 0, 0, 0, 0, 0]
  payload := [0, 0, 0, 0]
  header_length := by decide
  payload_length := by decide +kernel
  length_ge := by decide +kernel
  length_le := by decide +kernel

/-- A user who logs off is never reported to the service. -/
theorem logoff_user_not_delivered :
    ((Operation.logoffUser ⟨0⟩).send .least .created (Sample.leftover 0)).map Sent.bytes =
        some Sample.logoffUser.bytes ∧
      ¬(Operation.logoffUser ⟨0⟩).Delivered Sample.logoffUser :=
  ⟨by decide, Operation.not_delivered (by decide +kernel)⟩

end FreeRDS.Backend
