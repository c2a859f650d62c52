import FreeRDS.X11.Service

/-! # Attach before paint

Whatever a client is sent, the last framebuffer message before it was an attach of the framebuffer that the service
draws to. The flag `fbAttached` stands for this: while it is set, the client has been told.
-/

namespace FreeRDS.X11

open Backend FreeRDS.Core

def lastFramebuffer (connection : Nat) (log : List Sent) : Option SharedFramebuffer :=
  ((log.filter (·.connection = connection)).filterMap (·.message.framebuffer?)).getLast?

def Message.isAttach (message : Message) : Bool := message.framebuffer?.any attaches

/-- Every message of the log, apart from the attaches, was sent to a client that knew the framebuffer. -/
def Told (log : List Sent) : Prop :=
  ∀ before sent after, log = before ++ sent :: after → sent.message.isAttach = false →
    lastFramebuffer sent.connection before = some (sent.screen.framebuffer flagAttach)

section

variable {log : List Sent} {sent : Sent}

theorem told_append (h : Told log)
    (hsent : sent.message.isAttach = false →
      lastFramebuffer sent.connection log = some (sent.screen.framebuffer flagAttach)) :
    Told (log ++ [sent]) := by
  intro before other after heq hother
  rcases List.eq_nil_or_concat after with rfl | ⟨after, last, rfl⟩
  · obtain ⟨rfl, hlast⟩ := List.append_inj' heq rfl
    obtain rfl := List.singleton_inj.mp hlast
    exact hsent hother
  · have hinit : log ++ [sent] = (before ++ other :: after) ++ [last] := by simpa using heq
    obtain ⟨rfl, -⟩ := List.append_inj' hinit rfl
    exact h before other after rfl hother

theorem lastFramebuffer_append_other {connection : Nat} (h : sent.message.framebuffer? = none) :
    lastFramebuffer connection (log ++ [sent]) = lastFramebuffer connection log := by
  unfold lastFramebuffer
  rw [List.filter_append, List.filterMap_append]
  by_cases hc : sent.connection = connection <;> simp [hc, h]

theorem lastFramebuffer_append_self (log : List Sent) (sent : Sent) {msg : SharedFramebuffer}
    (h : sent.message.framebuffer? = some msg) : lastFramebuffer sent.connection (log ++ [sent]) = some msg := by
  simp [lastFramebuffer, h]

end

theorem attaches_framebuffer (screen : ScreenInfo) : attaches (screen.framebuffer flagAttach) = true := by
  change decide (flagAttach &&& flagAttach ≠ 0) = true
  decide

theorem Update.framebuffer?_eq (update : Update) : update.toMessage.framebuffer? = none := by
  obtain ⟨⟨kind, body⟩, hdrawn⟩ := update
  cases kind with
  | sharedFramebuffer => exact (hdrawn rfl).elim
  | _ => rfl

/-! ## The invariant -/

structure Service.Announced (service : Service) : Prop where
  told : Told service.log
  attached : service.screen.fbAttached = true →
    lastFramebuffer service.connection service.log = some (service.screen.framebuffer flagAttach)

namespace Service.Announced

variable {service : Service}

theorem congr (h : service.Announced) {other : Service} (hlog : other.log = service.log)
    (hconn : other.connection = service.connection) (hscreen : other.screen = service.screen) :
    other.Announced :=
  ⟨hlog ▸ h.told, by rw [hlog, hconn, hscreen]; exact h.attached⟩

theorem of_detached (h : Told service.log) (hdet : service.screen.fbAttached = false) : service.Announced :=
  ⟨h, fun hatt => by rw [hdet] at hatt; cases hatt⟩

theorem attach (h : service.Announced) : (rdpAttachFramebuffer service).Announced := by
  unfold rdpAttachFramebuffer
  split_ifs with hact hatt
  · exact h
  · constructor
    · refine told_append h.told fun hno => ?_
      simp [Message.isAttach, Message.framebuffer?, attaches_framebuffer] at hno
    · exact fun _ => lastFramebuffer_append_self service.log ⟨_, _, _⟩ rfl
  · exact h

end Service.Announced

section

variable {service : Service}

theorem fbAttached_attach (hact : service.active = true) :
    (rdpAttachFramebuffer service).screen.fbAttached = true := by
  unfold rdpAttachFramebuffer
  cases hatt : service.screen.fbAttached <;> simp [hact, hatt, Service.setAttached]

theorem told_send (h : service.Announced) (message : Message) : Told (rdpSendUpdate message service).log := by
  unfold rdpSendUpdate
  split_ifs with hready
  · have hact : service.active = true := (Bool.and_eq_true_iff.mp hready).2
    exact told_append h.attach.told fun _ => h.attach.attached (fbAttached_attach hact)
  · exact h.told

theorem fbAttached_detach (service : Service) : (rdpDetachFramebuffer service).screen.fbAttached = false := by
  unfold rdpDetachFramebuffer
  split_ifs with hatt
  · rfl
  · exact Bool.not_eq_true _ ▸ hatt

theorem fbAttached_alloc (memory : SharedMemory) (screen : ScreenInfo) :
    (rdpScreenFrameBufferAlloc memory screen).fbAttached = screen.fbAttached := by
  unfold rdpScreenFrameBufferAlloc
  dsimp only
  split_ifs <;> rfl

end

namespace Service.Announced

variable {service : Service}

variable (h : service.Announced)

include h

theorem send (message : Message) (hother : message.framebuffer? = none) :
    (rdpSendUpdate message service).Announced := by
  refine ⟨told_send h message, ?_⟩
  unfold rdpSendUpdate
  split_ifs with hready
  · exact fun hatt => (lastFramebuffer_append_other hother).trans (h.attach.attached hatt)
  · exact h.attached

theorem detach : (rdpDetachFramebuffer service).Announced := by
  refine of_detached ?_ (fbAttached_detach service)
  unfold rdpDetachFramebuffer
  split_ifs
  · exact told_send h _
  · exact h.told

theorem drawing (drawing : Drawing) : (drawing.send service).Announced := by
  cases drawing with
  | update message => exact h.send message.toMessage message.framebuffer?_eq
  | area x y w h =>
    unfold Drawing.send rdpSendAreaUpdate
    dsimp only
    split_ifs
    · assumption
    · exact send ‹_› _ rfl

theorem drawings (drawings : List Drawing) :
    (drawings.foldl Drawing.send service).Announced := by
  induction drawings generalizing service with
  | nil => exact h
  | cons first drawings ih => exact ih (h.drawing first)

theorem replaceFrameBuffer (around : Surroundings) (width height : UInt16) :
    (X11.replaceFrameBuffer around width height service).Announced := by
  have hsel (randr : RandR) : Announced { service with randr } := h.congr rfl rfl rfl
  have hdrawn (randr : RandR) := (hsel randr).drawings around.unmapped
  refine of_detached (hdrawn _).detach.told ?_
  refine (fbAttached_alloc around.memory _).trans ?_
  split_ifs <;> exact fbAttached_detach _

section

variable (around : Nat → Surroundings) (depth : Nat)

theorem screenSetSize (width height : UInt16) :
    (rdpRRScreenSetSize around depth width height service).Announced := by
  by_cases hsize : (width < 1 || height < 1) = true
  · rw [rdpRRScreenSetSize_none hsize]
    exact h
  · exact rdpRRScreenSetSize_induct (fun around service h => h.replaceFrameBuffer around _ _)
      (fun service h => h.congr rfl rfl rfl) (fun service drawing h => h.drawing drawing) hsize
      (h.replaceFrameBuffer (around depth) width height)

theorem getInfo :
    (rdpRRGetInfo around depth service).Announced := by
  unfold rdpRRGetInfo
  split_ifs
  · exact h.screenSetSize around depth _ _
  · exact h

theorem crtcSet (setModes : Bool)
    (mode : Option Size) (physicalSize : Bool) :
    (rdpRRCrtcSet around depth setModes mode physicalSize service).Announced := by
  unfold rdpRRCrtcSet
  cases mode with
  | none => exact h.getInfo around depth
  | some mode =>
    have hsel : Announced { service with randr := rdpModeSelect setModes mode service.randr } :=
      h.congr rfl rfl rfl
    have hsized := hsel.screenSetSize around depth
    dsimp only
    split_ifs
    · exact hsel
    · exact hsized _ _
    · exact (hsized _ _).getInfo around depth

theorem capabilities (desktopWidth desktopHeight : UInt32) :
    (rdsClientCapabilities around depth desktopWidth desktopHeight service).Announced := by
  have hsized := h.screenSetSize around depth desktopWidth.toUInt16 desktopHeight.toUInt16
  unfold rdsClientCapabilities
  dsimp only
  split_ifs
  · exact hsized
  · exact hsized.congr rfl rfl rfl
  · exact h
  · exact h.congr rfl rfl rfl

end

theorem accept (endpoint pipe : Bool) : (rdsServiceAccept endpoint pipe service).Announced := by
  unfold rdsServiceAccept
  split_ifs
  · exact h.congr rfl rfl rfl
  · exact of_detached h.told rfl

theorem handle (event : Event) : (service.handle event).Announced := by
  cases event with
  | accept endpoint pipe =>
    simp only [Service.handle]
    split_ifs
    · exact h.accept endpoint pipe
    · exact h
  | disconnect =>
    simp only [Service.handle]
    split_ifs
    · exact of_detached h.told rfl
    · exact h
  | capabilities around depth desktopWidth desktopHeight =>
    simp only [Service.handle]
    split_ifs
    · exact h.capabilities around depth desktopWidth desktopHeight
    · exact h
  | screenSetSize around depth width height => exact h.screenSetSize around depth width height
  | crtcSet around depth setModes mode physicalSize => exact h.crtcSet around depth setModes mode physicalSize
  | getInfo around depth => exact h.getInfo around depth
  | draw drawing => exact h.drawing drawing

theorem step (event : Event) : (service.step event).Announced := by
  unfold Service.step
  split_ifs
  · exact h
  · exact h.handle event

end Service.Announced

/--
On every connection, each message other than an attach comes after an attach, and the last framebuffer message before it
is an attach with the values that `g_rdpScreen` has when it is sent. This includes the detach.
-/
theorem attached_before_update (screen : ScreenInfo) (shmmax : Int) (initial : Size) (events : List Event)
    (before : List Sent) (sent : Sent) (after : List Sent)
    (hlog : (events.foldl Service.step (.start screen shmmax initial)).log = before ++ sent :: after)
    (hother : sent.message.isAttach = false) :
    ∃ msg, lastFramebuffer sent.connection before = some msg ∧ attaches msg = true ∧
      msg.width = sent.screen.width.toUInt32 ∧ msg.height = sent.screen.height.toUInt32 ∧
      msg.scanline = sent.screen.scanline.toUInt32 ∧ msg.segmentId = sent.screen.segmentId.toUInt32 := by
  have hstart : (Service.start screen shmmax initial).Announced :=
    .of_detached (fun before sent after hnil => (List.append_ne_nil_of_right_ne_nil _ (by simp) hnil.symm).elim) rfl
  have hrun : (events.foldl Service.step (.start screen shmmax initial)).Announced :=
    List.foldlRecOn events Service.step hstart fun service h event _ => h.step event
  exact ⟨_, hrun.told before sent after hlog hother, attaches_framebuffer sent.screen, rfl, rfl, rfl, rfl⟩

namespace Sample

def screen : ScreenInfo := ⟨1024, 768, 24, 4096, 32, 4, 3145728, 7, true, false⟩

def around (_depth : Nat) : Surroundings := ⟨true, [], ⟨1, 8, true⟩, []⟩

/-- A client connects, wants the screen as it is and is told to paint. -/
def events : List Event :=
  [.accept true true, .capabilities around 0 1024 768, .draw (.area 100 100 10 10)]

def painted : PaintRect := ⟨96, 96, 28, 28, 0, 0, .null, 0, 7, .wild⟩

def attached : ScreenInfo := { screen with fbAttached := true }

end Sample

theorem attached_before_update_paint :
    let sent : Sent := ⟨1, ⟨.paintRect, Sample.painted⟩, Sample.attached⟩
    ∃ before, (Sample.events.foldl Service.step (.start Sample.screen 0 ⟨1024, 768⟩)).log = before ++ [sent] ∧
      ∃ msg, lastFramebuffer 1 before = some msg ∧ attaches msg = true ∧ msg.width = 1024 ∧ msg.height = 768 ∧
        msg.scanline = 4096 ∧ msg.segmentId = 7 := by
  have hlog : (Sample.events.foldl Service.step (.start Sample.screen 0 ⟨1024, 768⟩)).log =
      [⟨1, ⟨.sharedFramebuffer, Sample.screen.framebuffer flagAttach⟩, Sample.screen⟩] ++
        ⟨1, ⟨.paintRect, Sample.painted⟩, Sample.attached⟩ :: [] := rfl
  exact ⟨_, hlog, attached_before_update Sample.screen 0 ⟨1024, 768⟩ Sample.events _ _ _ hlog rfl⟩

end FreeRDS.X11
