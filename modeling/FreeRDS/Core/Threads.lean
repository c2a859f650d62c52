import FreeRDS.Core.PaintBounds

/-! # Two threads

The thread of the connector receives messages and packs them. The thread of the connection handles the messages of the
queue. There is no lock: the size of the desktop and the flag of the framebuffer are written by the one thread while the
other reads them, and every read and write of these is a step of its own. What only one of the threads reads and writes
goes with the step before it.
-/

namespace FreeRDS.Core

open Lib Backend List

/-! ## The alignment, read by read -/

def signedMod16 (n : UInt32) : UInt32 := if n.toNat < 2 ^ 31 then n % 16 else -(-n % 16)

def growSize (start size : UInt32) : UInt32 :=
  let size := size + signedMod16 start
  size + size % 16

/-- The horizontal half of `freerds_message_server_align_rect`, with a value for each time that it reads the width of the
desktop. -/
def alignXReads (w₁ w₂ w₃ w₄ x width : UInt32) : UInt32 × UInt32 :=
  let x := if 2 ^ 31 ≤ x.toNat then 0 else x
  let x := if w₁ - 1 < x then w₂ - 1 else x
  let width := growSize x width
  let x := x - signedMod16 x
  let width := if w₃ < x + width then w₄ - x else width
  (x, width)

def alignYReads (h₁ h₂ h₃ h₄ h₅ h₆ y height : UInt32) : UInt32 × UInt32 :=
  let y := if 2 ^ 31 ≤ y.toNat then 0 else y
  let y := if h₁ - 1 < y then h₂ - 1 else y
  let height := growSize y height
  let y := y - signedMod16 y
  let height := if h₃ < height then h₄ else height
  let height := if h₅ < y + height then h₆ - y else height
  (y, height)

def alignReads : List UInt32 → Rect → Rect
  | [w₁, w₂, w₃, w₄, h₁, h₂, h₃, h₄, h₅, h₆], rect =>
    let (x, width) := alignXReads w₁ w₂ w₃ w₄ rect.x rect.width
    let (y, height) := alignYReads h₁ h₂ h₃ h₄ h₅ h₆ rect.y rect.height
    ⟨x, y, width, height⟩
  | _, rect => rect

variable (desktop : Desktop)

def Desktop.reads : List UInt32 := List.replicate 4 desktop.width ++ List.replicate 6 desktop.height

theorem signedMod16_of_lt {n : UInt32} (h : n.toNat < 2 ^ 31) : signedMod16 n = n % 16 := if_pos h

theorem growSize_of_lt {start : UInt32} (size : UInt32) (h : start.toNat < 2 ^ 31) :
    growSize start size = grownSize start size := by
  rw [growSize, signedMod16_of_lt h, grownSize]

theorem clampStart_lt (limit start : UInt32) : (clampStart limit start).toNat < 2 ^ 31 := by
  have hstart : (if 2 ^ 31 ≤ start.toNat then 0 else start).toNat < 2 ^ 31 := by
    split
    · decide
    · omega
  unfold clampStart
  generalize (if 2 ^ 31 ≤ start.toNat then 0 else start) = start at hstart
  simp only
  split
  next h =>
    rw [UInt32.lt_iff_toNat_lt] at h
    omega
  next => exact hstart

theorem alignReads_reads (rect : Rect) : alignReads desktop.reads rect = alignRect desktop rect := by
  have hhoriz : ∀ w, alignXReads w w w w rect.x rect.width = alignX w rect.x rect.width := by
    intro w
    have hlt := clampStart_lt w rect.x
    unfold alignX
    simp only [← growSize_of_lt _ hlt, ← signedMod16_of_lt hlt]
    rfl
  have hvert : ∀ h, alignYReads h h h h h h rect.y rect.height = alignY h rect.y rect.height := by
    intro h
    have hlt := clampStart_lt h rect.y
    unfold alignY
    simp only [← growSize_of_lt _ hlt, ← signedMod16_of_lt hlt]
    rfl
  show alignReads [_, _, _, _, _, _, _, _, _, _] rect = _
  rw [alignReads, alignRect, hhoriz, hvert]

theorem Desktop.length_reads : desktop.reads.length = 10 := rfl

theorem Desktop.reads_width {n : Nat} (h : n < 4) : desktop.reads[n]? = some desktop.width := by
  rw [reads, getElem?_append_left (by simpa using h), getElem?_replicate, if_pos h]

theorem Desktop.reads_height {n : Nat} (h : 4 ≤ n) (h' : n < 10) :
    desktop.reads[n]? = some desktop.height := by
  rw [reads, getElem?_append_right (by simpa using h), getElem?_replicate,
    if_pos (by rw [length_replicate]; omega)]

theorem concat_prefix {reads all : List UInt32} {value : UInt32} (h : reads <+: all)
    (hval : all[reads.length]? = some value) : reads ++ [value] <+: all := by
  obtain ⟨rest, rfl⟩ := h
  cases rest with
  | nil => simp at hval
  | cons first rest =>
    simp only [getElem?_append_right le_rfl, Nat.sub_self, getElem?_cons_zero, Option.some_inj] at hval
    exact ⟨rest, by rw [hval, append_assoc]; rfl⟩

/-! ## The machine -/

/-- Where the thread of the connector is in `freerds_message_server_queue_pack`. -/
inductive Packer (library : RegionLibrary) where
  | idle
  | walking (region : library.Region) (rest : List AnyMessage)
  | aligning (rect : Rect) (reads : List UInt32)
  | checking (rect : Rect)
  | posting (rect : Rect)

/-- Where the thread of the connection is in `freerds_message_server_queue_process_message`. -/
inductive Handler where
  | idle
  | handling (message : AnyMessage)
  | mapping (msg : SharedFramebuffer)
  | resizingWidth (msg : SharedFramebuffer)
  | resizingHeight (msg : SharedFramebuffer)
  | repainting (msg : SharedFramebuffer)

/-- A rectangle that was received, and what has been painted since. -/
structure Owed where
  rect : Rect
  painted : List (Box Int)

/-- The state that the threads share, where each of them is, and what was received: the last `SharedFramebuffer`, the last
of these that attaches, and the rectangles since. -/
structure Threads (library : RegionLibrary) where
  list : List AnyMessage
  queue : List AnyMessage
  desktop : Desktop
  framebuffer : Framebuffer
  packer : Packer library
  handler : Handler
  latest : Option SharedFramebuffer
  announced : Option SharedFramebuffer
  owed : List Owed

/-- Whether `freerds_receive_server_message` has a case for the type. -/
def dispatched : ServerType → Bool
  | .received _ => true
  | _ => false

namespace Threads

variable {library : RegionLibrary}

variable (threads : Threads library)

def record (message : AnyMessage) : Threads library :=
  match shared? message with
  | some msg =>
    if attaches msg then
      { threads with
        latest := some msg
        announced := some msg
        owed := [] }
    else { threads with latest := some msg }
  | none =>
    if message.flagged then { threads with owed := threads.owed ++ [⟨message.common.rect, []⟩] } else threads

def receive (message : AnyMessage) : Threads library :=
  match threads.packer with
  | .idle =>
    if dispatched message.kind && message.kind.enqueued then
      { threads.record message with list := threads.list ++ [message.typed.copy] }
    else threads
  | _ => threads

def timer : Threads library :=
  match threads.packer with
  | .idle => { threads with packer := .walking library.init threads.list }
  | _ => threads

/-- The next step of `freerds_message_server_queue_pack`. -/
def pack : Threads library :=
  match threads.packer with
  | .idle => threads
  | .walking region (message :: rest) =>
    if message.flagged then
      { threads with packer := .walking (library.unionRect region (rect16 message.common.rect)) rest }
    else
      { threads with
        queue := threads.queue ++ [message]
        packer := .walking region rest }
  | .walking region [] =>
    { threads with
      list := []
      packer := .aligning (ofExtents (library.extents region)) [] }
  | .aligning rect reads =>
    if reads.length < 4 then { threads with packer := .aligning rect (reads ++ [threads.desktop.width]) }
    else if reads.length < 10 then { threads with packer := .aligning rect (reads ++ [threads.desktop.height]) }
    else { threads with packer := .checking (alignReads reads rect) }
  | .checking rect =>
    if threads.framebuffer.fbAttached ∧ rect.width * rect.height ≠ 0 then { threads with packer := .posting rect }
    else { threads with packer := .idle }
  | .posting rect =>
    { threads with
      queue := threads.queue ++ [paintRect threads.framebuffer.fbSegmentId rect]
      packer := .idle }

/-- `MessageQueue_Peek`. -/
def take : Threads library :=
  match threads.handler, threads.queue with
  | .idle, message :: rest =>
    { threads with
      queue := rest
      handler := .handling message }
  | _, _ => threads

def paint (painted : Box Int) : Threads library :=
  { threads with owed := threads.owed.map fun owed => { owed with painted := owed.painted ++ [painted] } }

/-- What the callback for a message does at once. A rectangle without a framebuffer is not handled to its end. -/
def handle : AnyMessage → Threads library
  | ⟨.received .paintRect, _, msg⟩ =>
    match msg.framebuffer with
    | .data () =>
      match inboundPaintRect threads.framebuffer msg with
      | some msg => { threads.paint (painted msg) with handler := .idle }
      | none => { threads with handler := .idle }
    | .null => threads
    | .wild => threads
  | ⟨.received .sharedFramebuffer, _, msg⟩ =>
    if attaches msg then
      { threads with
        framebuffer := .announced msg
        handler := .mapping msg }
    else
      { threads with
        framebuffer := if threads.framebuffer.fbAttached then .detached else threads.framebuffer
        handler := .idle }
  | ⟨.reset, _, msg⟩ =>
    { threads with
      desktop := ⟨msg.desktopWidth, msg.desktopHeight⟩
      handler := .idle }
  | _ => { threads with handler := .idle }

/-- The next step of a callback. The argument `mapped` says whether `shmat` succeeds. -/
def process (mapped : Bool) (threads : Threads library) : Threads library :=
  match threads.handler with
  | .idle => threads
  | .handling message => threads.handle message
  | .mapping msg =>
    if mapped then
      { threads with
        framebuffer := .attached msg
        handler := .resizingWidth msg }
    else { threads with handler := .idle }
  | .resizingWidth msg =>
    { threads with
      desktop := { threads.desktop with width := msg.width }
      handler := .resizingHeight msg }
  | .resizingHeight msg =>
    { threads with
      desktop := { threads.desktop with height := msg.height }
      handler := .repainting msg }
  | .repainting msg =>
    { threads with
      queue := threads.queue ++ [fullPaint msg]
      handler := .idle }

inductive Event where
  | receive (message : AnyMessage)
  | timer
  | pack
  | take
  | process (mapped : Bool)

def step : Event → Threads library
  | .receive message => threads.receive message
  | .timer => threads.timer
  | .pack => threads.pack
  | .take => threads.take
  | .process mapped => threads.process mapped

def init (library : RegionLibrary) (desktop : Desktop) : Threads library :=
  ⟨[], [], desktop, .detached, .idle, .idle, none, none, []⟩

/-! ## One operation after the other -/

section

variable {threads : Threads library}

section

variable (threads : Threads library)

theorem foldl_walking (packing : Packing library) (rest : List AnyMessage) :
    (List.replicate rest.length Event.pack).foldl step
        { threads with
          queue := threads.queue ++ packing.posted
          packer := .walking packing.region rest } =
      { threads with
        queue := threads.queue ++ (rest.foldl Packing.node packing).posted
        packer := .walking (rest.foldl Packing.node packing).region [] } := by
  induction rest generalizing packing with
  | nil => rfl
  | cons message rest ih =>
    rw [foldl_cons, ← ih, length_cons, replicate_succ, foldl_cons]
    congr 1
    by_cases hflag : message.flagged = true
    all_goals simp [step, pack, Packing.node, hflag]

theorem foldl_reading (rect : Rect) {n : Nat} (hn : n ≤ 10) :
    (List.replicate n Event.pack).foldl step { threads with packer := (.aligning rect [] : Packer library) } =
      { threads with packer := (.aligning rect (threads.desktop.reads.take n) : Packer library) } := by
  induction n with
  | zero => rfl
  | succ n ih =>
    have hlen : (threads.desktop.reads.take n).length = n := by
      rw [length_take, Desktop.length_reads]
      omega
    rw [replicate_succ', foldl_append, ih (by omega), take_add_one]
    simp only [foldl_cons, foldl_nil, step, pack, hlen]
    by_cases hwid : n < 4
    · rw [if_pos hwid, Desktop.reads_width _ hwid, Option.toList_some]
    · rw [if_neg hwid, if_pos (by omega), Desktop.reads_height _ (by omega) (by omega), Option.toList_some]

theorem pack_checking (rect : Rect) :
    pack (pack { threads with packer := (.checking rect : Packer library) }) =
      { threads with
        queue := threads.queue ++ postRect threads.framebuffer rect
        packer := (.idle : Packer library) } := by
  by_cases h : threads.framebuffer.fbAttached ∧ rect.width * rect.height ≠ 0
  · have hcheck : pack { threads with packer := (.checking rect : Packer library) } =
        { threads with packer := .posting rect } := if_pos h
    rw [hcheck, postRect, if_pos h]
    rfl
  · have hcheck : pack { threads with packer := (.checking rect : Packer library) } =
        { threads with packer := .idle } := if_neg h
    rw [hcheck, postRect, if_neg h, append_nil]
    rfl

theorem foldl_aligning (region : library.Region) :
    (List.replicate 14 Event.pack).foldl step { threads with packer := .walking region [] } =
      { threads with
        list := []
        queue := threads.queue ++
          postRect threads.framebuffer (alignRect threads.desktop (ofExtents (library.extents region)))
        packer := .idle } := by
  let cleared : Threads library := { threads with list := [] }
  have hreads := foldl_reading cleared (ofExtents (library.extents region)) le_rfl
  rw [take_of_length_le (Desktop.length_reads _).le] at hreads
  have hclear : step { threads with packer := .walking region [] } .pack =
      { cleared with packer := .aligning (ofExtents (library.extents region)) [] } := rfl
  rw [replicate_succ, foldl_cons, hclear, replicate_add 10 3, foldl_append, hreads,
    ← alignReads_reads]
  exact pack_checking cleared _

end

theorem foldl_pack (hidle : threads.packer = .idle) :
    (Event.timer :: List.replicate (threads.list.length + 14) .pack).foldl step threads =
      { threads with
        list := []
        queue := (Pipeline.queuePack library threads.desktop threads.framebuffer ⟨threads.list, threads.queue⟩).queue } := by
  have htimer : step threads .timer =
      { threads with
        queue := threads.queue ++ (Packing.start library).posted
        packer := .walking (Packing.start library).region threads.list } := by
    simp [step, timer, hidle, Packing.start]
  rw [foldl_cons, htimer, replicate_add, foldl_append, foldl_walking]
  rw [foldl_aligning { threads with queue := threads.queue ++ (threads.list.foldl Packing.node (.start library)).posted }]
  simp [Pipeline.queuePack, Packing.rect, hidle]

end

variable {threads : Threads library}

theorem foldl_process_idle (hhand : threads.handler = .idle) (mapped : Bool) (n : Nat) :
    (List.replicate n (Event.process mapped)).foldl step threads = threads := by
  induction n with
  | zero => rfl
  | succ n ih =>
    have hstep : step threads (.process mapped) = threads := by simp [step, process, hhand]
    rw [replicate_succ, foldl_cons, hstep, ih]

theorem foldl_process_attach (threads : Threads library) (common : Common) {msg : SharedFramebuffer}
    (hatts : attaches msg = true) :
    (List.replicate 5 (Event.process true)).foldl step
        { threads with handler := .handling ⟨.received .sharedFramebuffer, common, msg⟩ } =
      { threads with
        queue := threads.queue ++ [fullPaint msg]
        desktop := ⟨msg.width, msg.height⟩
        framebuffer := .attached msg
        handler := .idle } := by
  have hann : step { threads with handler := .handling ⟨.received .sharedFramebuffer, common, msg⟩ }
        (.process true) =
      { threads with
        framebuffer := .announced msg
        handler := .mapping msg } := if_pos hatts
  rw [replicate_succ, foldl_cons, hann]
  rfl

end Threads

end FreeRDS.Core
