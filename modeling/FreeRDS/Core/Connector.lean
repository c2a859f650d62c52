import FreeRDS.Core.Pipeline
import FreeRDS.Lib.Run

/-! # A connector

The thread of a connector puts copies of messages in `ServerList` and packs them to `ServerQueue`. The thread of the
connection takes the first message of the queue, handles it and gives it back.
-/

namespace FreeRDS.Core

open Lib Backend

namespace Framebuffer

/-- `freerds_client_detach_framebuffer`. -/
def detached : Framebuffer := ⟨0, 0, false, 0⟩

/-- What `freerds_client_inbound_shared_framebuffer` has set before it maps the segment. A framebuffer that was attached
has been detached then. -/
def announced (msg : SharedFramebuffer) : Framebuffer := ⟨msg.width, msg.height, false, msg.segmentId⟩

def attached (msg : SharedFramebuffer) : Framebuffer := { announced msg with fbAttached := true }

end Framebuffer

/-- `RDS_FRAMEBUFFER_FLAG_ATTACH`. -/
def flagAttach : UInt32 := 0x00000001

def attaches (msg : SharedFramebuffer) : Bool := msg.flags &&& flagAttach ≠ 0

/-- The message that a `SharedFramebuffer` is. -/
def shared? : AnyMessage → Option SharedFramebuffer
  | ⟨.received .sharedFramebuffer, _, msg⟩ => some msg
  | _ => none

def fullPaint (msg : SharedFramebuffer) : AnyMessage := paintRect msg.segmentId ⟨0, 0, msg.width, msg.height⟩

/-! ## The machine -/

structure Copy where
  address : Nat
  message : AnyMessage

/-- What belongs to a connector. The copies are numbered in the order in which they are made, and `freed` lists those that
have been given back. -/
structure Connector where
  list : List Copy
  queue : List Copy
  copies : Nat
  freed : List Nat
  desktop : Desktop
  framebuffer : Framebuffer

namespace Connector

variable (connector : Connector)

/-- `freerds_server_message_copy` and `MessageQueue_Post`. -/
def post (message : AnyMessage) : Connector :=
  { connector with
    queue := connector.queue ++ [⟨connector.copies, message⟩]
    copies := connector.copies + 1 }

/-- `freerds_server_message_enqueue`, by the callback for the message. -/
def enqueue (message : AnyMessage) : Connector :=
  if message.kind.enqueued then
    { connector with
      list := connector.list ++ [⟨connector.copies, message.typed.copy⟩]
      copies := connector.copies + 1 }
  else connector

/-- The copies that the loop of `freerds_message_server_queue_pack` posts. -/
def kept : List Copy := connector.list.filter fun copy => !copy.message.flagged

def dropped : List Copy := connector.list.filter fun copy => copy.message.flagged

variable (library : RegionLibrary) (connector : Connector)

def packedRect : Rect :=
  ((connector.list.map Copy.message).foldl Packing.node (.start library)).rect connector.desktop

/-- `freerds_message_server_queue_pack`. -/
def pack : Connector :=
  (postRect connector.framebuffer (connector.packedRect library)).foldl post
    { connector with
      list := []
      queue := connector.queue ++ connector.kept }

variable (mapped : Bool) (connector : Connector)

/-- The callbacks for a message that was taken from the queue. The argument `mapped` says whether `shmat` succeeds. -/
def handle : AnyMessage → Connector
  | ⟨.received .sharedFramebuffer, _, msg⟩ =>
    if attaches msg then
      if mapped then
        { connector with
          framebuffer := .attached msg
          desktop := ⟨msg.width, msg.height⟩ }.post (fullPaint msg)
      else { connector with framebuffer := .announced msg }
    else if connector.framebuffer.fbAttached then { connector with framebuffer := .detached }
    else connector
  | ⟨.reset, _, msg⟩ => { connector with desktop := ⟨msg.desktopWidth, msg.desktopHeight⟩ }
  | _ => connector

theorem handle_cases (message : AnyMessage) :
    (∃ msg, shared? message = some msg ∧ attaches msg = true ∧ mapped = true ∧
        connector.handle mapped message =
          { connector with
            framebuffer := .attached msg
            desktop := ⟨msg.width, msg.height⟩ }.post (fullPaint msg)) ∨
      (∃ msg, connector.handle mapped message = { connector with framebuffer := .announced msg }) ∨
      connector.handle mapped message = { connector with framebuffer := .detached } ∨
      message.kind = .reset ∨ connector.handle mapped message = connector := by
  unfold handle
  split
  next common msg =>
    split
    next hattach =>
      cases mapped with
      | true => exact .inl ⟨msg, rfl, hattach, rfl, rfl⟩
      | false => exact .inr (.inl ⟨msg, rfl⟩)
    next =>
      split
      · exact .inr (.inr (.inl rfl))
      · exact .inr (.inr (.inr (.inr rfl)))
  next => exact .inr (.inr (.inr (.inl rfl)))
  next => exact .inr (.inr (.inr (.inr rfl)))

/-- `freerds_server_message_free`. -/
def free (address : Nat) : Connector :=
  { connector with freed := connector.freed ++ [address] }

/-- `freerds_message_server_queue_process_message` for the first message of the queue. -/
def process : Connector :=
  match connector.queue with
  | [] => connector
  | copy :: queue => (handle mapped { connector with queue } copy.message).free copy.address

inductive Event where
  | enqueue (message : AnyMessage)
  | pack
  | process (mapped : Bool)

def step : Event → Connector
  | .enqueue message => connector.enqueue message
  | .pack => connector.pack library
  | .process mapped => connector.process mapped

/-- A new connector. The framebuffer is that of a struct filled with zeros. -/
def init (desktop : Desktop) : Connector := ⟨[], [], 0, [], desktop, .detached⟩

def pipeline : Pipeline := ⟨connector.list.map Copy.message, connector.queue.map Copy.message⟩

theorem pipeline_enqueue (message : AnyMessage) :
    (connector.enqueue message).pipeline = connector.pipeline.enqueue message := by
  unfold enqueue Pipeline.enqueue
  split <;> simp [pipeline]

variable (messages : List AnyMessage)

@[simp] theorem list_foldl_post :
    (messages.foldl post connector).list = connector.list := by
  induction messages generalizing connector with
  | nil => rfl
  | cons message messages ih =>
    rw [List.foldl_cons, ih]
    rfl

@[simp] theorem desktop_foldl_post :
    (messages.foldl post connector).desktop = connector.desktop := by
  induction messages generalizing connector with
  | nil => rfl
  | cons message messages ih =>
    rw [List.foldl_cons, ih]
    rfl

@[simp] theorem framebuffer_foldl_post :
    (messages.foldl post connector).framebuffer = connector.framebuffer := by
  induction messages generalizing connector with
  | nil => rfl
  | cons message messages ih =>
    rw [List.foldl_cons, ih]
    rfl

theorem queue_foldl_post :
    (messages.foldl post connector).queue.map Copy.message = connector.queue.map Copy.message ++ messages := by
  induction messages generalizing connector with
  | nil => simp
  | cons message messages ih =>
    rw [List.foldl_cons, ih]
    simp [post]

theorem pipeline_pack :
    (connector.pack library).pipeline =
      connector.pipeline.queuePack library connector.desktop connector.framebuffer := by
  have hposted : (connector.pipeline.list.foldl Packing.node (.start library)).posted =
      connector.kept.map Copy.message := by
    rw [Packing.foldl_node]
    simp [pipeline, kept, Packing.start, List.filter_map, Function.comp_def]
  rw [Pipeline.queuePack, hposted]
  simp [pipeline, pack, packedRect, queue_foldl_post]

end Connector

end FreeRDS.Core
