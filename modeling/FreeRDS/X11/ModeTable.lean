import FreeRDS.X11.Service

/-! # The mode table over the life of the X server

The table holds the sizes that were probed, the first size of the screen and every size that was asked for since, each
once. The accesses to it stay inside as long as these are not more than 64.
-/

namespace FreeRDS.X11

open Finset

theorem size_rdpModeSelect (setModes : Bool) (size : Size) (randr : RandR) :
    let selected := rdpModeSelect setModes size randr
    (selected.width = size.width ∧ selected.height = size.height) ∨
      (selected.width = randr.width ∧ selected.height = randr.height) := by
  fun_induction rdpModeSelect setModes size randr with
  | case1 => exact .inl ⟨rfl, rfl⟩
  | case2 randr scanned _ added _ ih => exact ih
  | case3 => exact .inr ⟨rfl, rfl⟩

/-- The table holds the `sizes` and nothing else, and the current size is among them. -/
structure RandR.Holds (randr : RandR) (sizes : Finset Size) : Prop where
  tracked : randr.Tracked
  modes : randr.modes.toFinset = sizes
  current : ⟨randr.width, randr.height⟩ ∈ sizes

theorem RandR.holds_select {randr : RandR} {sizes : Finset Size} {size : Size} (htracked : randr.Tracked)
    (hmodes : randr.modes.toFinset = sizes) (hcur : ⟨randr.width, randr.height⟩ ∈ insert size sizes)
    (setModes : Bool) : (rdpModeSelect setModes size randr).Holds (insert size sizes) := by
  refine ⟨htracked.select setModes size, ?_, ?_⟩
  · ext mode
    rw [List.mem_toFinset, mem_rdpModeSelect, mem_insert, ← hmodes, List.mem_toFinset]
  · rcases size_rdpModeSelect setModes size randr with ⟨hwid, hhgt⟩ | ⟨hwid, hhgt⟩
    · rw [hwid, hhgt]
      exact mem_insert_self size sizes
    · rw [hwid, hhgt]
      exact hcur

structure Service.Holds (service : Service) (sizes : Finset Size) : Prop where
  randr : service.randr.Holds sizes
  shown : ⟨service.pScreenWidth.toUInt16, service.pScreenHeight.toUInt16⟩ ∈ sizes

/-- What a call of `rdpRRScreenSetSize` asks for. -/
def requestedSize (width height : UInt16) : Finset Size := if width < 1 || height < 1 then ∅ else {⟨width, height⟩}

/-- What an event asks for, if there is a client where one is needed. -/
def Service.wanted (service : Service) : Event → Finset Size
  | .capabilities _ _ desktopWidth desktopHeight =>
    if service.hClientPipe then requestedSize desktopWidth.toUInt16 desktopHeight.toUInt16 else ∅
  | .screenSetSize _ _ width height => requestedSize width height
  | .crtcSet _ _ _ (some mode) _ => {mode}
  | _ => ∅

def Service.requested (service : Service) (event : Event) : Finset Size :=
  if service.crashed then ∅ else service.wanted event

def Service.requestedAlong : Service → List Event → Finset Size
  | _, [] => ∅
  | service, event :: events => service.requested event ∪ (service.step event).requestedAlong events

/-! ## What drawing leaves alone -/

def Service.Drawn (service other : Service) : Prop := ∃ screen log, other = { service with screen, log }

namespace Service.Drawn

variable {service other last : Service}

theorem refl (service : Service) : service.Drawn service := ⟨service.screen, service.log, rfl⟩

theorem trans (h : service.Drawn other) (h' : other.Drawn last) : service.Drawn last := by
  obtain ⟨_, _, rfl⟩ := h
  obtain ⟨screen, log, rfl⟩ := h'
  exact ⟨screen, log, rfl⟩

section

variable (service : Service)

theorem update (message : Message) : service.Drawn (rdpSendUpdate message service) := by
  unfold rdpSendUpdate rdpAttachFramebuffer
  split_ifs
  · exact ⟨_, _, rfl⟩
  · exact ⟨_, _, rfl⟩
  · exact ⟨_, _, rfl⟩
  · exact refl service

theorem detach : service.Drawn (rdpDetachFramebuffer service) := by
  unfold rdpDetachFramebuffer
  split_ifs
  · exact (update service _).trans ⟨_, _, rfl⟩
  · exact refl service

theorem drawing (drawing : Drawing) : service.Drawn (drawing.send service) := by
  cases drawing with
  | update message => exact update service message.toMessage
  | area x y w h =>
    unfold Drawing.send rdpSendAreaUpdate
    dsimp only
    split_ifs
    · exact refl service
    · exact update service _

theorem drawings (drawings : List Drawing) :
    service.Drawn (drawings.foldl Drawing.send service) :=
  List.foldlRecOn drawings Drawing.send (refl service) fun _ h drawing _ => h.trans (Drawn.drawing _ drawing)

end

theorem holds (h : service.Drawn other) {sizes : Finset Size} (hs : service.Holds sizes) : other.Holds sizes := by
  obtain ⟨_, _, rfl⟩ := h
  exact ⟨hs.randr, hs.shown⟩

end Service.Drawn

theorem replaceFrameBuffer_eq (around : Surroundings) (width height : UInt16) (service : Service) :
    ∃ screen log, replaceFrameBuffer around width height service =
      { service with
        randr := rdpModeSelect around.setModes ⟨width, height⟩ { service.randr with width, height }
        pScreenWidth := width.toInt16
        pScreenHeight := height.toInt16
        screen, log } := by
  unfold replaceFrameBuffer
  dsimp only
  generalize rdpModeSelect around.setModes _ _ = randr
  obtain ⟨screen, log, heq⟩ := (Service.Drawn.drawings { service with randr } around.unmapped).trans (.detach _)
  rw [heq]
  exact ⟨_, _, rfl⟩

/-! ## What the requests put in -/

namespace Service.Holds

variable {service : Service} {sizes : Finset Size}

theorem replaceFrameBuffer (h : service.Holds sizes) (around : Surroundings) (width height : UInt16) :
    (X11.replaceFrameBuffer around width height service).Holds (insert ⟨width, height⟩ sizes) := by
  obtain ⟨screen, log, heq⟩ := replaceFrameBuffer_eq around width height service
  rw [heq]
  have htracked : RandR.Tracked { service.randr with width, height } :=
    ⟨h.randr.tracked.nodup, h.randr.tracked.safe_iff⟩
  exact ⟨RandR.holds_select htracked h.randr.modes (mem_insert_self _ _) around.setModes,
    mem_insert_self _ _⟩

theorem screenSetSize (h : service.Holds sizes) (around : Nat → Surroundings) (depth : Nat) (width height : UInt16) :
    (rdpRRScreenSetSize around depth width height service).Holds (requestedSize width height ∪ sizes) := by
  unfold requestedSize
  split_ifs with hsize
  · rw [rdpRRScreenSetSize_none hsize, empty_union]
    exact h
  · rw [singleton_union]
    refine rdpRRScreenSetSize_induct ?_ (fun service h => ⟨h.randr, h.shown⟩)
      (fun service drawing h => (Drawn.drawing service drawing).holds h) hsize
      (h.replaceFrameBuffer (around depth) width height)
    -- The calls that nest set the size that has been set.
    intro around service h
    have hagain := h.replaceFrameBuffer around service.randr.width service.randr.height
    rwa [insert_eq_of_mem h.randr.current] at hagain

theorem requested_union {width height : UInt16} (hmem : ⟨width, height⟩ ∈ sizes) :
    requestedSize width height ∪ sizes = sizes := by
  unfold requestedSize
  split_ifs
  · exact empty_union sizes
  · exact union_eq_right.mpr (singleton_subset_iff.mpr hmem)

section

variable (h : service.Holds sizes) (around : Nat → Surroundings) (depth : Nat)

include h

theorem screenSetSize_current :
    (rdpRRScreenSetSize around depth service.randr.width service.randr.height service).Holds sizes := by
  have hset := h.screenSetSize around depth service.randr.width service.randr.height
  rwa [requested_union h.randr.current] at hset

theorem getInfo :
    (rdpRRGetInfo around depth service).Holds sizes := by
  unfold rdpRRGetInfo
  split_ifs
  · exact h.screenSetSize_current around depth
  · exact h

theorem crtcSet (setModes : Bool) (mode : Size)
    (physicalSize : Bool) :
    (rdpRRCrtcSet around depth setModes (some mode) physicalSize service).Holds (insert mode sizes) := by
  have hsel : Holds { service with randr := rdpModeSelect setModes mode service.randr } (insert mode sizes) :=
    ⟨RandR.holds_select h.randr.tracked h.randr.modes (mem_insert_of_mem h.randr.current) setModes,
      mem_insert_of_mem h.shown⟩
  have hsized := hsel.screenSetSize_current around depth
  unfold rdpRRCrtcSet
  dsimp only
  split_ifs
  · exact hsel
  · exact hsized
  · exact hsized.getInfo around depth

end

theorem toUInt16_of_toInt_eq {shown : Int16} {desktop : UInt32} (h : shown.toInt = desktop.toInt32.toInt) :
    desktop.toUInt16 = shown.toUInt16 := by
  have hshown : shown.toInt = shown.toUInt16.toBitVec.toInt := rfl
  have hdsk : desktop.toInt32.toInt = desktop.toBitVec.toInt := rfl
  rw [hshown, hdsk, BitVec.toInt_eq_toNat_bmod, BitVec.toInt_eq_toNat_bmod, UInt16.toNat_toBitVec,
    UInt32.toNat_toBitVec, Int.bmod_def, Int.bmod_def] at h
  have hshownLt := shown.toUInt16.toNat_lt
  have hdskLt := desktop.toNat_lt
  apply UInt16.toNat_inj.mp
  rw [UInt32.toNat_toUInt16]
  omega

variable (h : service.Holds sizes)

include h

theorem capabilities (around : Nat → Surroundings) (depth : Nat)
    (desktopWidth desktopHeight : UInt32) :
    (rdsClientCapabilities around depth desktopWidth desktopHeight service).Holds
      (requestedSize desktopWidth.toUInt16 desktopHeight.toUInt16 ∪ sizes) := by
  have hsized := h.screenSetSize around depth desktopWidth.toUInt16 desktopHeight.toUInt16
  unfold rdsClientCapabilities
  dsimp only
  split_ifs with hdiffers hcrashed hcrashed
  · exact hsized
  · exact ⟨hsized.randr, hsized.shown⟩
  all_goals
    obtain ⟨hwid, hhgt⟩ := not_or.mp hdiffers
    rw [requested_union (by
      rw [toUInt16_of_toInt_eq (not_not.mp hwid), toUInt16_of_toInt_eq (not_not.mp hhgt)]
      exact h.shown)]
  · exact h
  · exact ⟨h.randr, h.shown⟩

theorem handle (event : Event) :
    (service.handle event).Holds (service.wanted event ∪ sizes) := by
  cases event with
  | accept endpoint pipe =>
    simp only [Service.handle, Service.wanted, empty_union]
    unfold rdsServiceAccept
    split_ifs <;> exact ⟨h.randr, h.shown⟩
  | disconnect =>
    simp only [Service.handle, Service.wanted, empty_union]
    split_ifs <;> exact ⟨h.randr, h.shown⟩
  | capabilities around depth desktopWidth desktopHeight =>
    simp only [Service.handle, Service.wanted]
    split_ifs
    · exact h.capabilities around depth desktopWidth desktopHeight
    · exact (empty_union sizes).symm ▸ h
  | screenSetSize around depth width height => exact h.screenSetSize around depth width height
  | crtcSet around depth setModes mode physicalSize =>
    cases mode with
    | none => exact (empty_union sizes).symm ▸ h.getInfo around depth
    | some mode => exact (singleton_union mode sizes).symm ▸ h.crtcSet around depth setModes mode physicalSize
  | getInfo around depth => exact (empty_union sizes).symm ▸ h.getInfo around depth
  | draw drawing => exact (empty_union sizes).symm ▸ (Drawn.drawing service drawing).holds h

theorem step (event : Event) :
    (service.step event).Holds (service.requested event ∪ sizes) := by
  unfold Service.step Service.requested
  split_ifs
  · exact (empty_union sizes).symm ▸ h
  · exact h.handle event

theorem run (events : List Event) :
    (events.foldl Service.step service).Holds (service.requestedAlong events ∪ sizes) := by
  induction events generalizing service sizes with
  | nil => exact (empty_union sizes).symm ▸ h
  | cons event events ih =>
    have hrun := ih (h.step event)
    rw [requestedAlong, union_assoc, union_left_comm]
    exact hrun

end Service.Holds

theorem holds_start (screen : ScreenInfo) (shmmax : Int) (initial : Size) :
    (Service.start screen shmmax initial).Holds (insert initial (probedSizes shmmax).toFinset) :=
  ⟨RandR.holds_select (RandR.tracked_probed shmmax initial) rfl (mem_insert_self _ _) true,
    mem_insert_self _ _⟩

theorem Service.Holds.safe_iff {service : Service} {sizes : Finset Size} (h : service.Holds sizes) :
    service.randr.Safe ↔ sizes.card ≤ modeCount := by
  rw [h.randr.tracked.safe_iff_card, h.randr.modes]

/--
`rdpModeSelect` and `rdpModeAdd` have stayed inside the 64 entries of the table if and only if there were not more than
64 sizes: those that were probed, the initial one and those that were asked for.
-/
theorem modeTable_safe_iff (screen : ScreenInfo) (shmmax : Int) (initial : Size) (events : List Event) :
    (events.foldl Service.step (.start screen shmmax initial)).randr.Safe ↔
      ((Service.start screen shmmax initial).requestedAlong events ∪
        insert initial (probedSizes shmmax).toFinset).card ≤ modeCount :=
  ((holds_start screen shmmax initial).run events).safe_iff

/-- Both sides are at least one pixel, and not negative as a `short`. -/
def Size.Small (size : Size) : Prop :=
  1 ≤ size.width ∧ size.width < 32768 ∧ 1 ≤ size.height ∧ size.height < 32768

instance (size : Size) : Decidable size.Small := inferInstanceAs (Decidable (_ ∧ _ ∧ _ ∧ _))

theorem toInt_toInt16 {side : UInt16} (h : side < 32768) : side.toInt16.toInt = side.toNat := by
  have hside : side.toInt16.toInt = side.toBitVec.toInt := rfl
  have hlt : side.toNat < 32768 := h
  rw [hside, BitVec.toInt_eq_toNat_bmod, UInt16.toNat_toBitVec, Int.bmod_def]
  omega

section

variable {size : Size} (hsize : size.Small)

include hsize

theorem resized_replaceFrameBuffer (around : Surroundings) (service : Service) :
    (replaceFrameBuffer around size.width size.height service).resized = false := by
  obtain ⟨screen, log, heq⟩ := replaceFrameBuffer_eq around size.width size.height service
  obtain ⟨hwid, hhgt⟩ := or_self_iff.mp
    (size_rdpModeSelect around.setModes size { service.randr with width := size.width, height := size.height })
  rw [heq]
  simp only [Service.resized]
  rw [hwid, hhgt]
  simp [toInt_toInt16 hsize.2.1, toInt_toInt16 hsize.2.2.2]

theorem Size.Small.not_none : ¬(size.width < 1 || size.height < 1) = true := by
  simp [UInt16.not_lt.mpr hsize.1, UInt16.not_lt.mpr hsize.2.2.1]

theorem crashed_screenSetSize (around : Nat → Surroundings) (depth : Nat)
    (service : Service) :
    (rdpRRScreenSetSize around depth size.width size.height service).crashed = service.crashed := by
  have hreplaced : (replaceFrameBuffer (around depth) size.width size.height service).crashed = service.crashed := by
    obtain ⟨screen, log, heq⟩ := replaceFrameBuffer_eq (around depth) size.width size.height service
    rw [heq]
  have hpainted : rdpRRScreenSetSize around depth size.width size.height service =
      let replaced := replaceFrameBuffer (around depth) size.width size.height service
      if replaced.crashed then replaced else (around depth).painted.foldl Drawing.send replaced := by
    cases depth <;>
      rw [rdpRRScreenSetSize, if_neg hsize.not_none] <;>
      simp [resized_replaceFrameBuffer hsize]
  rw [hpainted]
  dsimp only
  split_ifs
  · exact hreplaced
  · obtain ⟨screen, log, heq⟩ := Service.Drawn.drawings
      (replaceFrameBuffer (around depth) size.width size.height service) (around depth).painted
    rw [heq]
    exact hreplaced

end

theorem requestedAlong_small {sizes : List Size} (hsizes : ∀ size ∈ sizes, size.Small) (around : Nat → Surroundings)
    (depth : Nat) {service : Service} (hrun : service.crashed = false) :
    service.requestedAlong (sizes.map fun size => .screenSetSize around depth size.width size.height) =
      sizes.toFinset := by
  induction sizes generalizing service with
  | nil => rfl
  | cons size sizes ih =>
    obtain ⟨hsize, hsizes⟩ := List.forall_mem_cons.mp hsizes
    have hstep : service.step (.screenSetSize around depth size.width size.height) =
        rdpRRScreenSetSize around depth size.width size.height service := by
      simp [Service.step, Service.handle, hrun]
    have hwanted : service.requested (.screenSetSize around depth size.width size.height) = {size} := by
      rw [Service.requested, hrun, if_neg Bool.false_ne_true]
      exact if_neg hsize.not_none
    rw [List.map_cons, Service.requestedAlong, hwanted, hstep,
      ih hsizes ((crashed_screenSetSize hsize around depth service).trans hrun), List.toFinset_cons,
      insert_eq]

def widenings : List Size := (List.range 65).map fun i => ⟨.ofNat (640 + i), 480⟩

theorem nodup_widenings : widenings.Nodup := by
  refine .map_on ?_ List.nodup_range
  intro i hi j hj heq
  have hwid : (640 + i) % 2 ^ 16 = (640 + j) % 2 ^ 16 := congrArg (fun size : Size => size.width.toNat) heq
  have hi := List.mem_range.mp hi
  have hj := List.mem_range.mp hj
  omega

theorem modeTable_unsafe_of_widenings :
    let around (_depth : Nat) : Surroundings := ⟨true, [], ⟨1, 8, true⟩, []⟩
    let requests := widenings.map fun size => Event.screenSetSize around 0 size.width size.height
    (∀ size ∈ widenings, 1 ≤ size.width ∧ 1 ≤ size.height) ∧
      ¬(requests.foldl Service.step
        (.start ⟨640, 480, 24, 2560, 32, 4, 1228800, 7, true, false⟩ 0 ⟨640, 480⟩)).randr.Safe := by
  intro around requests
  have hsmall : ∀ size ∈ widenings, size.Small := by decide
  refine ⟨fun size hmem => ⟨(hsmall size hmem).1, (hsmall size hmem).2.2.1⟩, ?_⟩
  rw [((holds_start _ 0 ⟨640, 480⟩).run requests).safe_iff, requestedAlong_small hsmall around 0 rfl]
  intro hfits
  have hcard := (card_le_card subset_union_left).trans hfits
  rw [List.toFinset_card_of_nodup nodup_widenings] at hcard
  exact absurd hcard (by decide)

end FreeRDS.X11
