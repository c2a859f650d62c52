import FreeRDS.Backend.Arrival

/-! # A service and its next client

`rdp_check` disconnects a client whose pipe fails and accepts the next one. `InboundStream` belongs to the service: what
it holds of a message of the old client stays, and so does the position behind it.
-/

namespace FreeRDS.Backend

open Lib Wire Layout Receiver List

inductive ServiceEvent
  | link (event : Event)
  /-- The client has closed its end, and `rds_service_disconnect` closes the other. -/
  | close
  /-- `rds_service_accept`. -/
  | accept

namespace Link

/-- What has arrived from the old client and was not read is gone with its pipe. -/
def accept (s : Link) : Link :=
  if s.connected then s else ⟨{ s.receiver with arrived := [], between := [] }, true⟩

variable (handle : Handler) (s : Link)

def serve : ServiceEvent → Link
  | .link event => s.step handle event
  | .close => { s with connected := false }
  | .accept => s.accept

/-- What `freerds_receive_message` gets from the next client. -/
def delivered (events : List Event) : List Delivery :=
  ((events.foldl (step handle) s.accept).receiver.handed.drop s.receiver.handed.length).map Handed.delivery

/-- A new client that sends messages, the last of which may be incomplete, is understood as it would be by a service
without a history. -/
def Isolated : Prop :=
  ∀ (buffer : Memory UInt8) (messages : List Message) (events : List Event) (coming : List UInt8),
    (∀ event ∈ events, ∀ piece ∈ event.pieces, piece ≠ []) →
    (events.flatMap Event.pieces).flatten ++ coming = stream messages →
      s.delivered handle events =
        (events.foldl (step handle) (.new buffer [])).receiver.handed.map Handed.delivery

end Link

/-! ## What a call depends on -/

/-- The receivers differ at most in what lies behind the position, and in what they have done so far. -/
structure Agree (s s' : Receiver) : Prop where
  position : s.position = s'.position
  arrived : s.arrived = s'.arrived
  between : s.between = s'.between
  contents : s.buffer.contents s.position = s'.buffer.contents s'.position

namespace Agree

variable {s s' : Receiver}

theorem namedPipeRead (h : Agree s s') (target size target' : Nat) :
    (s.namedPipeRead target size).1 = (s'.namedPipeRead target' size).1 ∧
      Agree (s.namedPipeRead target size).2 (s'.namedPipeRead target' size).2 := by
  have hread : Pieces.read size s.arrived = Pieces.read size s'.arrived := by rw [h.arrived]
  refine ⟨by simp only [Receiver.namedPipeRead, hread], ?_, ?_, rfl, ?_⟩
  · simp [Receiver.namedPipeRead, hread, h.position]
  · simp [Receiver.namedPipeRead, hread, h.between]
  · simp only [Receiver.namedPipeRead, hread, Memory.contents_write, h.contents]

end Agree

/-- Both receivers have handed over a message, or none of them has. -/
def InStep (s s' t t' : Receiver) : Prop :=
  t.handed = s.handed ∧ t'.handed = s'.handed ∨
    ∃ handed handed', t.handed = s.handed ++ [handed] ∧ t'.handed = s'.handed ++ [handed']

namespace Agree

variable {s s' : Receiver}

variable (h : Agree s s')

include h

theorem length_eq (hhdr : headerLength ≤ s.position) : s.length = s'.length := by
  have hcont := congrArg (take headerLength) h.contents
  rw [Memory.contents_take _ hhdr, Memory.contents_take _ (h.position ▸ hhdr)] at hcont
  rw [← intake_length, ← intake_length, intake.length_eq, intake.length_eq]
  exact congrArg peekCommonHeaderLength hcont

theorem readHeader :
    (intake.readHeader s).1 = (intake.readHeader s').1 ∧ Agree (intake.readHeader s).2 (intake.readHeader s').2 := by
  have hpos : intake.position s = intake.position s' := h.position
  unfold Intake.readHeader
  rw [hpos]
  split
  · exact h.namedPipeRead ..
  · exact ⟨rfl, h⟩

theorem readBody :
    (intake.readBody s).1 = (intake.readBody s').1 ∧ Agree (intake.readBody s).2 (intake.readBody s').2 := by
  have hpos : intake.position s = intake.position s' := h.position
  by_cases hhdr : intake.headerLength ≤ intake.position s
  · have hlen : intake.length s = intake.length s' := by rw [intake_length, intake_length, h.length_eq hhdr]
    unfold Intake.readBody Intake.left
    rw [← hpos, ← hlen]
    split
    · exact h.namedPipeRead ..
    · exact ⟨rfl, h⟩
  · have hhdr' : ¬intake.headerLength ≤ intake.position s' := hpos ▸ hhdr
    unfold Intake.readBody
    rw [if_neg fun hread => hhdr hread.1, if_neg fun hread => hhdr' hread.1]
    exact ⟨rfl, h⟩

theorem gather :
    (intake.gather s).1 = (intake.gather s').1 ∧ Agree (intake.gather s).2 (intake.gather s').2 := by
  obtain ⟨hok, hhdr⟩ := h.readHeader
  unfold Intake.gather
  dsimp only
  rw [← hok]
  split
  · exact hhdr.readBody
  · exact ⟨rfl, hhdr⟩

theorem dispatch (handle : Handler) (common : Common) :
    Agree (s.dispatch handle common) (s'.dispatch handle common) ∧
      InStep s s' (s.dispatch handle common) (s'.dispatch handle common) := by
  have hpos := h.position
  rcases s.dispatch_cases handle common with ⟨hhdr, hlen, handed, -, hdisp⟩ | ⟨hmore, hdisp⟩ <;>
    rcases s'.dispatch_cases handle common with ⟨hhdr', hlen', handed', -, hdisp'⟩ | ⟨hmore', hdisp'⟩ <;>
    rw [hdisp, hdisp']
  · exact ⟨⟨rfl, h.arrived, h.between, rfl⟩, .inr ⟨handed, handed', rfl, rfl⟩⟩
  · have heq := h.length_eq hhdr
    omega
  · have heq := h.length_eq (hpos ▸ hhdr')
    omega
  · exact ⟨h, .inl ⟨rfl, rfl⟩⟩

theorem transportReceive (handle : Handler) (common : Common) :
    (transportReceive handle common s).1 = (transportReceive handle common s').1 ∧
      Agree (transportReceive handle common s).2 (transportReceive handle common s').2 ∧
      InStep s s' (transportReceive handle common s).2 (transportReceive handle common s').2 := by
  obtain ⟨hok, hagree⟩ := h.gather
  have hdisp := hagree.dispatch handle common
  unfold InStep at hdisp ⊢
  rw [s.gather_handed, s'.gather_handed] at hdisp
  rw [transportReceive_eq, transportReceive_eq, ← hok]
  split
  · exact ⟨rfl, hdisp⟩
  · exact ⟨rfl, hagree, .inl ⟨s.gather_handed, s'.gather_handed⟩⟩

end Agree

/-! ## Two services -/

/-- Two links in the same state but for what lies behind the position, the first of which has a history. -/
structure Twins (s s' : Link) (history : List Delivery) (messages : List Message) (coming : List UInt8) : Prop where
  agree : Agree s.receiver s'.receiver
  connected : s.connected = s'.connected
  awaiting : s.connected = true → Awaiting s.receiver messages coming ∧ Awaiting s'.receiver messages coming
  handed : s.receiver.handed.map Handed.delivery = history ++ s'.receiver.handed.map Handed.delivery

namespace Twins

variable {s s' : Link} {history : List Delivery} {messages : List Message} {coming : List UInt8}

theorem arrive {pieces : List (List UInt8)} (h : Twins s s' history messages (pieces.flatten ++ coming))
    (hpcs : ∀ piece ∈ pieces, piece ≠ []) : Twins (s.arrive pieces) (s'.arrive pieces) history messages coming where
  agree := ⟨h.agree.position, by simp only [Link.arrive, h.agree.arrived], h.agree.between, h.agree.contents⟩
  connected := h.connected
  awaiting hconn := ⟨(h.awaiting hconn).1.arrive hpcs, (h.awaiting hconn).2.arrive hpcs⟩
  handed := h.handed

theorem call (between : List (List UInt8)) (h : Twins s s' history messages (between.flatten ++ coming))
    (hpcs : ∀ piece ∈ between, piece ≠ []) (handle : Handler) (common : Common) :
    ∃ messages', Twins (s.call handle between common) (s'.call handle between common) history messages' coming := by
  by_cases hready : s.connected = true ∧ s.receiver.arrived ≠ []
  case neg =>
    have hready' : ¬(s'.connected = true ∧ s'.receiver.arrived ≠ []) := by rwa [← h.connected, ← h.agree.arrived]
    rw [Link.call_of_not_ready handle between common hready, Link.call_of_not_ready handle between common hready']
    exact ⟨messages, h.arrive hpcs⟩
  obtain ⟨hconn, harr⟩ := hready
  have hconn' : s'.connected = true := h.connected ▸ hconn
  have harr' : s'.receiver.arrived ≠ [] := h.agree.arrived ▸ harr
  obtain ⟨hawait, hawait'⟩ := h.awaiting hconn
  have hcall := hawait.transportReceive_handsOver between hpcs harr handle common
  have hcall' := hawait'.transportReceive_handsOver between hpcs harr' handle common
  have hagree : Agree { s.receiver with between := between } { s'.receiver with between := between } :=
    ⟨h.agree.position, h.agree.arrived, rfl, h.agree.contents⟩
  obtain ⟨hstat, hagain, hstep⟩ := hagree.transportReceive handle common
  have hfail : (transportReceive handle common { s.receiver with between := between }).1 = -1 → _ :=
    transportReceive_handed_of_fail
  have hfail' : (transportReceive handle common { s'.receiver with between := between }).1 = -1 → _ :=
    transportReceive_handed_of_fail
  rw [Link.call_of_ready handle between common hconn harr,
    Link.call_of_ready handle between common hconn' harr']
  generalize transportReceive handle common { s.receiver with between := between } = result
    at hcall hstat hagain hstep hfail ⊢
  generalize transportReceive handle common { s'.receiver with between := between } = result'
    at hcall' hstat hagain hstep hfail' ⊢
  have hsame : decide (0 ≤ result.1) = decide (0 ≤ result'.1) := by rw [hstat]
  rcases hcall with ⟨-, hlost⟩ | ⟨-, hkept, hhands, -⟩
  · -- Both links are lost.
    refine ⟨messages, hagain, hsame, fun hup => ?_, ?_⟩
    · rw [hlost] at hup
      cases hup
    · rw [hfail hlost, hfail' (hstat ▸ hlost)]
      exact h.handed
  · rcases hcall' with ⟨-, hlost⟩ | ⟨-, -, hhands', -⟩
    · rw [hstat, hlost] at hkept
      cases hkept
    · rcases hhands with ⟨hnext, hnone⟩ | ⟨message, messages', before, handed, hcons, hnext, hmsg, hone⟩ <;>
        rcases hhands' with ⟨hnext', hnone'⟩ | ⟨message', messages'', before', handed', hcons', hnext', hmsg', hone'⟩
      · exact ⟨messages, hagain, hsame, fun _ => ⟨hnext, hnext'⟩, by rw [hnone, hnone']; exact h.handed⟩
      · rcases hstep with ⟨-, hnone'⟩ | ⟨_, _, hone, -⟩
        · simp [hone'] at hnone'
        · simp [hone] at hnone
      · rcases hstep with ⟨hnone, -⟩ | ⟨_, _, -, hone'⟩
        · simp [hone] at hnone
        · simp [hone'] at hnone'
      · rw [hcons] at hcons'
        obtain ⟨rfl, rfl⟩ := cons.inj hcons'
        refine ⟨messages', hagain, hsame, fun _ => ⟨hnext, hnext'⟩, ?_⟩
        rw [hone, hone', map_append, map_append, map_singleton, map_singleton,
          handed_delivery hmsg, handed_delivery hmsg', h.handed, append_assoc]

theorem step (handle : Handler) (event : Event)
    (h : Twins s s' history messages (event.pieces.flatten ++ coming)) (hpcs : ∀ piece ∈ event.pieces, piece ≠ []) :
    ∃ messages', Twins (s.step handle event) (s'.step handle event) history messages' coming := by
  cases event with
  | arrive piece => exact ⟨messages, h.arrive hpcs⟩
  | call between common => exact h.call between hpcs handle common

theorem run (handle : Handler) {events : List Event}
    (h : Twins s s' history messages ((events.flatMap Event.pieces).flatten ++ coming))
    (hpcs : ∀ event ∈ events, ∀ piece ∈ event.pieces, piece ≠ []) :
    ∃ messages', Twins (events.foldl (Link.step handle) s) (events.foldl (Link.step handle) s') history messages'
      coming := by
  induction events generalizing s s' messages with
  | nil => exact ⟨messages, h⟩
  | cons event events ih =>
    rw [forall_mem_cons] at hpcs
    rw [flatMap_cons, flatten_append, append_assoc] at h
    obtain ⟨messages', hnext⟩ := h.step handle event hpcs.1
    exact ih hnext hpcs.2

end Twins

namespace Link

variable {handle : Handler} {s : Link}

theorem accept_of_closed (h : s.connected = false) :
    s.accept = ⟨{ s.receiver with arrived := [], between := [] }, true⟩ := by
  rw [accept, h]
  rfl

theorem isolated_of_position (hclosed : s.connected = false) (hpos : s.receiver.position = 0) :
    s.Isolated handle := by
  intro buffer messages events coming hpcs hstrm
  have htwins : Twins s.accept (.new buffer []) (s.receiver.handed.map Handed.delivery) messages
      ((events.flatMap Event.pieces).flatten ++ coming) := by
    rw [accept_of_closed hclosed]
    refine ⟨⟨hpos, rfl, rfl, ?_⟩, rfl, fun _ => ⟨?_, ?_⟩, ?_⟩
    · simp [hpos, new, Receiver.new]
    · exact .of_stream rfl (by simp) hpos (by simpa using hstrm)
    · exact Awaiting.of_stream rfl (by simp [new, Receiver.new]) rfl (by simpa [new, Receiver.new] using hstrm)
    · simp [new, Receiver.new]
  obtain ⟨messages', hend⟩ := htwins.run handle hpcs
  rw [delivered, map_drop, hend.handed, ← length_map, drop_left]

end Link

/-! ## What is left of an incomplete message -/

theorem incomplete_transportReceive {s : Receiver} (h : intake.Incomplete s) (handle : Handler) (common : Common) :
    intake.Incomplete (transportReceive handle common s).2 := by
  rw [transportReceive_eq]
  split
  · rcases (intake.gather s).2.dispatch_cases handle common with ⟨-, -, handed, -, hdisp⟩ | ⟨hlt, hdisp⟩ <;> rw [hdisp]
    · exact .of_lt (.inl (by decide : 0 < headerLength))
    · exact .of_lt (by rwa [intake_length])
  · rename_i hfail
    exact h.gather (Bool.eq_false_of_not_eq_true hfail)

namespace Link

variable {handle : Handler} {s : Link}

theorem incomplete_serve (h : intake.Incomplete s.receiver) (event : ServiceEvent) :
    intake.Incomplete (s.serve handle event).receiver := by
  cases event with
  | close => exact h
  | accept =>
    show intake.Incomplete s.accept.receiver
    unfold accept
    split <;> exact h
  | link event =>
    cases event with
    | arrive piece => exact h
    | call between common =>
      show intake.Incomplete (s.call handle between common).receiver
      unfold call
      split
      · exact incomplete_transportReceive (s := { s.receiver with between := between }) h handle common
      · exact h

theorem incomplete_run (handle : Handler) (buffer : Memory UInt8) (events : List ServiceEvent) :
    intake.Incomplete (events.foldl (serve handle) (.new buffer [])).receiver := by
  have hfirst : intake.Incomplete (new buffer []).receiver := .of_lt (.inl (by decide : 0 < headerLength))
  exact Along.invariant (I := fun s : Link => intake.Incomplete s.receiver) (P := fun _ _ => True)
    (fun _ event h _ => incomplete_serve h event) hfirst (.of_forall fun _ _ => trivial)

end Link

/-! ## The rest of another message -/

section

variable {common : Common} {buffer : Memory UInt8} {handed : Handed} (h : handOver common buffer = some handed)

include h

theorem handOver_header :
    [handed.common.type, handed.common.length, handed.common.msgFlags] =
      numbers [2, 4, 4] (buffer.contents capacity) := by
  obtain ⟨⟨result, stream⟩, hread, rfl⟩ := Option.map_eq_some_iff.mp h
  have hhdr : size headerSlots ≤ (buffer.contents capacity).length := by
    rw [Memory.contents_length]
    decide
  generalize buffer.contents capacity = bytes at hread hhdr ⊢
  simp only [readCommonHeader, readSlots_of_le _ hhdr, Option.bind_eq_bind, Option.bind_some] at hread
  split at hread
  · rw [readSlots_of_le _ (le_of_readSlots hread), Option.some.injEq, Prod.mk.injEq] at hread
    obtain ⟨rfl, -⟩ := hread
    simp [assign, headerSlots, rectSlots, numbers]
  · cases hread
    simp [assign, headerSlots, numbers]

theorem header_of_delivery (hdelivery : handed.delivery = Sample.beginUpdate.delivery) :
    buffer.contents headerLength = Sample.beginUpdate.header := by
  have htype : handed.common.type = 1 := congrArg Delivery.type hdelivery
  have hlen : handed.common.length = 10 := congrArg Delivery.length hdelivery
  have hflags : handed.common.msgFlags = 0 := congrArg Delivery.msgFlags hdelivery
  have hnums := handOver_header h
  rw [htype, hlen, hflags] at hnums
  have hsame : numbers [2, 4, 4] (buffer.contents capacity) = numbers [2, 4, 4] Sample.beginUpdate.header := by
    rw [← hnums]
    decide
  have htake := numbers_inj (by decide) (by rw [Memory.contents_length]; decide) (by decide) hsame
  have hcont : (buffer.contents capacity).take headerLength = buffer.contents headerLength :=
    Memory.contents_take _ (by decide)
  rw [← hcont]
  exact htake

end

theorem transportReceive_beginUpdate {s : Receiver} (h : intake.Incomplete s) (hpos : s.position ≠ 0)
    (harr : s.arrived = [Sample.beginUpdate.header]) (hbetween : s.between = []) (handle : Handler)
    (common : Common) :
    (∃ handed, (transportReceive handle common s).2.handed = s.handed ++ [handed] ∧
        handed.delivery ≠ Sample.beginUpdate.delivery) ∨
      (transportReceive handle common s).2.handed = s.handed ∧
        (transportReceive handle common s).2.arrived = [] := by
  obtain ⟨hok, hne, hend⟩ := h.gather_header hpos harr hbetween (by decide) rfl (by decide)
  have hhanded := s.gather_handed
  rw [intake_length] at hend
  rw [transportReceive_eq, if_pos hok]
  rcases (intake.gather s).2.dispatch_cases handle common with ⟨-, -, handed, hsome, hdisp⟩ | ⟨hmore, hdisp⟩ <;>
    rw [hdisp]
  · exact .inl ⟨handed, congrArg (· ++ _) hhanded, fun hdelivery => hne (header_of_delivery hsome hdelivery)⟩
  · refine .inr ⟨hhanded, hend.resolve_left fun hdone => ?_⟩
    exact hmore.elim (Nat.not_lt.mpr hdone.1) (Nat.not_lt.mpr hdone.2)

theorem handed_isPrefix_transportReceive (handle : Handler) (common : Common) (s : Receiver) :
    s.handed <+: (transportReceive handle common s).2.handed := by
  have hhanded := s.gather_handed
  rw [transportReceive_eq]
  split
  · rcases (intake.gather s).2.dispatch_cases handle common with ⟨-, -, handed, -, hdisp⟩ | ⟨-, hdisp⟩ <;> rw [hdisp]
    · exact hhanded ▸ prefix_append ..
    · rw [hhanded]
  · rw [hhanded]

namespace Link

variable {handle : Handler} {s : Link}

theorem handed_isPrefix_calls (handle : Handler) (s : Link) (commons : List Common) :
    s.receiver.handed <+: (s.calls handle commons).receiver.handed := by
  induction commons generalizing s with
  | nil => exact prefix_rfl
  | cons common commons ih =>
    refine .trans ?_ (ih (s.call handle [] common))
    unfold call
    split
    · exact handed_isPrefix_transportReceive handle common { s.receiver with between := [] }
    · exact prefix_rfl

/-- A new client that sends `RDS_SERVER_BEGIN_UPDATE`, and the calls that it takes. -/
def oneMessage : List Event := .arrive Sample.beginUpdate.header :: List.replicate 10 (.call [] Sample.common)

theorem foldl_oneMessage (handle : Handler) (s : Link) :
    oneMessage.foldl (step handle) s =
      (s.arrive [Sample.beginUpdate.header]).calls handle (List.replicate 10 Sample.common) := rfl

theorem handed_oneMessage (handle : Handler) (buffer : Memory UInt8) :
    (oneMessage.foldl (step handle) (new buffer [])).receiver.handed.map Handed.delivery =
      [Sample.beginUpdate.delivery] := by
  have hpcs : ∀ piece ∈ [Sample.beginUpdate.header], piece ≠ [] := by decide
  have hstrm : [Sample.beginUpdate.header].flatten = stream [Sample.beginUpdate] := by decide
  have hnew : (new buffer []).arrive [Sample.beginUpdate.header] = new buffer [Sample.beginUpdate.header] := rfl
  rw [foldl_oneMessage, hnew]
  exact (messages_delivered handle buffer [Sample.beginUpdate] _ hpcs hstrm _ (by decide)).1

theorem delivered_oneMessage_ne (h : intake.Incomplete s.receiver) (hclosed : s.connected = false)
    (hpos : s.receiver.position ≠ 0) : s.delivered handle oneMessage ≠ [Sample.beginUpdate.delivery] := by
  intro hdelivered
  let receiver : Receiver := { s.receiver with arrived := [Sample.beginUpdate.header], between := [] }
  have hincomp : intake.Incomplete receiver := h
  have hhanded : receiver.handed = s.receiver.handed := rfl
  have hfirst := transportReceive_beginUpdate hincomp hpos rfl rfl handle Sample.common
  have hcall : call handle ⟨receiver, true⟩ [] Sample.common = _ :=
    call_of_ready handle [] Sample.common rfl (cons_ne_nil _ _)
  have hsteps : oneMessage.foldl (step handle) s.accept =
      (call handle ⟨receiver, true⟩ [] Sample.common).calls handle (replicate 9 Sample.common) := by
    rw [accept_of_closed hclosed]
    rfl
  rw [delivered, hsteps] at hdelivered
  rcases hfirst with ⟨handed, hone, hne⟩ | ⟨hnone, hempty⟩
  · obtain ⟨more, hmore⟩ :=
      handed_isPrefix_calls handle (call handle ⟨receiver, true⟩ [] Sample.common) (replicate 9 Sample.common)
    rw [← hmore, hcall] at hdelivered
    have hall : _ = [Sample.beginUpdate.delivery] := hdelivered
    rw [hone, hhanded, append_assoc, drop_left] at hall
    exact hne (cons.inj hall).1
  · have hnil : (call handle ⟨receiver, true⟩ [] Sample.common).receiver.arrived = [] := by rw [hcall]; exact hempty
    rw [calls_of_arrived_eq_nil hnil, hcall] at hdelivered
    have hall : _ = [Sample.beginUpdate.delivery] := hdelivered
    rw [hnone, hhanded, drop_length] at hall
    cases hall

theorem position_of_isolated (h : intake.Incomplete s.receiver) (hclosed : s.connected = false)
    (hisolated : s.Isolated handle) : s.receiver.position = 0 := by
  by_contra hpos
  have hdelivered := hisolated s.receiver.buffer [Sample.beginUpdate] oneMessage [] (by decide) (by decide)
  rw [handed_oneMessage] at hdelivered
  exact delivered_oneMessage_ne h hclosed hpos hdelivered

theorem isolated_iff (handle : Handler) (buffer : Memory UInt8) (events : List ServiceEvent)
    (hclosed : (events.foldl (serve handle) (new buffer [])).connected = false) :
    (events.foldl (serve handle) (new buffer [])).Isolated handle ↔
      (events.foldl (serve handle) (new buffer [])).receiver.position = 0 :=
  ⟨position_of_isolated (incomplete_run handle buffer events) hclosed, isolated_of_position hclosed⟩

end Link

end FreeRDS.Backend
