import FreeRDS.Fdsapi.Transport
import FreeRDS.Lib.Run
import Mathlib.Data.Fintype.Defs
import Mathlib.Logic.Function.Basic

/-! # Threads that send on one pipe

`freerds_rpc_client_send_message` writes the length and then the payload, each in as many `WriteFile` calls as it
takes. The manager answers requests on a client's own thread and broadcasts session events from others; a client
library sends from whatever thread an application calls it on. They share the pipe and no lock, so a step here is one
`WriteFile` of one thread.
-/

namespace FreeRDS.Fdsapi

open Lib List Function

variable {ι : Type}

/-- A thread in `freerds_rpc_client_send_message`. -/
structure Sending where
  payload : List UInt8
  /-- What is left of the part that `freerds_rpc_named_pipe_write` is writing. -/
  left : List UInt8
  next : Option (List UInt8)
  deriving DecidableEq, Repr

namespace Sending

def start (payload : List UInt8) : Sending where
  payload := payload
  left := Wire.toBytes headerLength (payload.length + headerLength)
  next := some payload

/-- The loop of `freerds_rpc_named_pipe_write` after `count` more bytes; it is not entered for a part without a byte. -/
def advance (sending : Sending) (count : Nat) : Option Sending :=
  match sending.left.drop count, sending.next with
  | [], none | [], some [] => none
  | [], some payload => some { sending with left := payload, next := none }
  | left, _ => some { sending with left := left }

def remaining (sending : Sending) : List UInt8 := sending.left ++ sending.next.getD []

def Begun (sending : Sending) : Prop := sending.remaining.length < (sendMessage sending.payload).length

instance (sending : Sending) : Decidable sending.Begun := inferInstanceAs (Decidable (_ < _))

end Sending

structure SharedPipe (ι : Type) where
  bytes : List UInt8
  sending : ι → Option Sending
  sent : List (List UInt8)

inductive SendEvent (ι : Type)
  /-- A thread calls `freerds_rpc_client_send_message`. -/
  | send (t : ι) (payload : List UInt8)
  /-- A `WriteFile` that writes so many bytes; without any the call fails. -/
  | writeFile (t : ι) (count : Nat)

namespace SharedPipe

def new : SharedPipe ι where
  bytes := []
  sending _ := none
  sent := []

variable [DecidableEq ι]

def writeFile (s : SharedPipe ι) (t : ι) (sending : Sending) (count : Nat) : SharedPipe ι :=
  if count = 0 then { s with sending := Function.update s.sending t none }
  else
    { bytes := s.bytes ++ sending.left.take count
      sending := Function.update s.sending t (sending.advance count)
      sent := if sending.advance count = none then s.sent ++ [sending.payload] else s.sent }

def step (s : SharedPipe ι) : SendEvent ι → SharedPipe ι
  | .send t payload =>
    match s.sending t with
    | none => { s with sending := Function.update s.sending t (some (.start payload)) }
    | some _ => s
  | .writeFile t count =>
    match s.sending t with
    | none => s
    | some sending => s.writeFile t sending count

/-- Payloads fit the buffer of the receiver. A thread writes only while no other thread is within a message, and none
gives up within one. -/
def Undisturbed (s : SharedPipe ι) : SendEvent ι → Prop
  | .send _ payload => Fits payload
  | .writeFile t count => ∀ sending ∈ s.sending t,
      (∀ u, u ≠ t → ∀ other ∈ s.sending u, ¬other.Begun) ∧ (count = 0 → ¬sending.Begun)

instance [Fintype ι] (s : SharedPipe ι) : (event : SendEvent ι) → Decidable (s.Undisturbed event)
  | .send _ _ => inferInstanceAs (Decidable (_ ≤ _))
  | .writeFile t count => inferInstanceAs (Decidable (∀ sending ∈ s.sending t,
      (∀ u, u ≠ t → ∀ other ∈ s.sending u, ¬other.Begun) ∧ (count = 0 → ¬sending.Begun)))

end SharedPipe

/-! ## A message and what is left of it -/

namespace Sending

variable {sending sending' : Sending} {part : List UInt8} {count : Nat}

/-- `part` has been written, and something is left. -/
structure Written (sending : Sending) (part : List UInt8) : Prop where
  whole : part ++ sending.remaining = sendMessage sending.payload
  left : sending.left ≠ []

theorem written_start (payload : List UInt8) : (start payload).Written [] := by
  refine ⟨rfl, ?_⟩
  intro hnil
  have hlen := Wire.toBytes_length headerLength (payload.length + headerLength)
  rw [show Wire.toBytes headerLength (payload.length + headerLength) = [] from hnil] at hlen
  exact absurd hlen (by decide)

theorem Written.begun_iff (h : sending.Written part) : sending.Begun ↔ part ≠ [] := by
  have hlen := congrArg length h.whole
  rw [length_append] at hlen
  rw [Begun, ← hlen, ← length_pos_iff]
  omega

theorem advance_cases (sending : Sending) (count : Nat) :
    sending.advance count = none ∧ sending.left.drop count = [] ∧ sending.next.getD [] = [] ∨
      ∃ sending', sending.advance count = some sending' ∧ sending'.payload = sending.payload ∧
        sending'.remaining = sending.left.drop count ++ sending.next.getD [] ∧ sending'.left ≠ [] := by
  unfold advance
  cases hleft : sending.left.drop count with
  | nil =>
    cases hnext : sending.next with
    | none => exact .inl ⟨rfl, rfl, rfl⟩
    | some payload =>
      cases payload with
      | nil => exact .inl ⟨rfl, rfl, rfl⟩
      | cons byte payload => exact .inr ⟨_, rfl, rfl, by simp [remaining], by simp⟩
  | cons byte left => exact .inr ⟨_, rfl, rfl, rfl, by simp⟩

theorem Written.append_take (h : sending.Written part) (count : Nat) :
    (part ++ sending.left.take count) ++ (sending.left.drop count ++ sending.next.getD []) =
      sendMessage sending.payload := by
  rw [← h.whole, remaining, append_assoc, ← append_assoc (sending.left.take count), take_append_drop]

end Sending

/-! ## Whole messages -/

namespace SharedPipe

/-- The pipe holds the messages that have been sent, and a part of the one message that a thread is within. -/
structure Whole (s : SharedPipe ι) : Prop where
  fits : ∀ payload ∈ s.sent, Fits payload
  sending : ∀ t sending, s.sending t = some sending → Fits sending.payload ∧ ∃ part, sending.Written part ∧
    (sending.Begun → s.bytes = s.sent.flatMap sendMessage ++ part)
  between : (∀ t sending, s.sending t = some sending → ¬sending.Begun) → s.bytes = s.sent.flatMap sendMessage

theorem Whole.new : (SharedPipe.new : SharedPipe ι).Whole where
  fits := by simp [SharedPipe.new]
  sending t sending h := by cases h
  between _ := rfl

variable {s : SharedPipe ι} {t : ι} {sending : Sending} {count : Nat}

theorem Whole.bytes_eq (h : s.Whole) (ht : s.sending t = some sending)
    (hother : ∀ u, u ≠ t → ∀ other, s.sending u = some other → ¬other.Begun) :
    ∃ part, sending.Written part ∧ s.bytes = s.sent.flatMap sendMessage ++ part := by
  obtain ⟨-, part, hwritten, hbytes⟩ := h.sending t sending ht
  refine ⟨part, hwritten, ?_⟩
  by_cases hbegun : sending.Begun
  · exact hbytes hbegun
  · have hpart : part = [] := not_not.mp fun hne => hbegun (hwritten.begun_iff.mpr hne)
    rw [hpart, append_nil]
    refine h.between fun u other hu => ?_
    by_cases heq : u = t
    · subst heq
      rw [ht] at hu
      cases hu
      exact hbegun
    · exact hother u heq other hu

theorem Whole.received (h : s.Whole) (buffer : Memory UInt8) {pieces : List (List UInt8)}
    (hpcs : ∀ piece ∈ pieces, piece ≠ []) (hbytes : pieces.flatten = s.bytes) {n : Nat}
    (hn : s.bytes.length ≤ n) :
    ((RpcClient.new buffer pieces).turns n).received = s.sent.map Received.ofPayload := by
  -- The message that a thread is within is the last one, and the rest of it is still coming.
  obtain ⟨payloads, coming, hfits, hsent, hwhole⟩ : ∃ payloads coming, (∀ payload ∈ payloads, Fits payload) ∧
      s.bytes ++ coming = payloads.flatMap sendMessage ∧ arrived payloads s.bytes.length = s.sent := by
    by_cases hnone : ∀ t sending, s.sending t = some sending → ¬sending.Begun
    · have hbetween := h.between hnone
      exact ⟨s.sent, [], h.fits, by rw [append_nil, hbetween], by rw [hbetween, arrived_all]⟩
    · push Not at hnone
      obtain ⟨t, sending, ht, hbegun⟩ := hnone
      obtain ⟨hfits, part, hwritten, hins⟩ := h.sending t sending ht
      have hpart := hins hbegun
      have hall : s.bytes ++ sending.remaining = (s.sent ++ [sending.payload]).flatMap sendMessage := by
        simp [hpart, hwritten.whole]
      refine ⟨s.sent ++ [sending.payload], sending.remaining, ?_, hall, arrived_append_of_lt ?_ ?_⟩
      · intro payload hpay
        rcases mem_append.mp hpay with hold | hnew
        · exact h.fits payload hold
        · rw [mem_singleton.mp hnew]
          exact hfits
      · rw [hpart, length_append]
        exact Nat.le_add_right _ _
      · have hleft := length_pos_iff.mpr hwritten.left
        rw [← hall, length_append, Sending.remaining, length_append]
        omega
  have hrcv := (RpcClient.received_of_sent (s := .new buffer pieces) hfits hpcs rfl rfl
    ((congrArg (· ++ coming) hbytes).trans hsent)).2 n
  simp only [RpcClient.new, nil_append, hbytes, hwhole] at hrcv
  exact hrcv hn

variable [DecidableEq ι]

theorem Whole.writeFile (h : s.Whole) (ht : s.sending t = some sending) (hcnt : count ≠ 0)
    (hother : ∀ u, u ≠ t → ∀ other, s.sending u = some other → ¬other.Begun) :
    (s.writeFile t sending count).Whole := by
  obtain ⟨part, hwritten, hbytes⟩ := h.bytes_eq ht hother
  have hfits := (h.sending t sending ht).1
  have hwhole := hwritten.append_take count
  -- The messages of the other threads are not begun, so they say nothing about the bytes.
  have hkeep : ∀ bytes (u : ι) other, u ≠ t → s.sending u = some other → Fits other.payload ∧ ∃ part,
      other.Written part ∧ (other.Begun → s.bytes ++ sending.left.take count = bytes ++ part) := by
    intro bytes u other hne hu
    obtain ⟨hfits', part', hwritten', -⟩ := h.sending u other hu
    exact ⟨hfits', part', hwritten', fun hbegun => absurd hbegun (hother u hne other hu)⟩
  rw [SharedPipe.writeFile, if_neg hcnt]
  rcases sending.advance_cases count with ⟨hdone, hleft, hnext⟩ | ⟨sending', hmore, hpay, hremaining, hleft⟩
  · rw [hleft, hnext, append_nil, append_nil] at hwhole
    rw [hdone, if_pos rfl]
    refine ⟨?_, fun u other hu => ?_, fun _ => ?_⟩
    · intro payload hpay
      rcases mem_append.mp hpay with hold | hnew
      · exact h.fits payload hold
      · rw [mem_singleton.mp hnew]
        exact hfits
    · have hne : u ≠ t := by
        rintro rfl
        simp at hu
      simp only [update_of_ne hne] at hu
      exact hkeep _ u other hne hu
    · simp [hbytes, hwhole]
  · rw [hmore, if_neg (by simp)]
    have hwritten' : sending'.Written (part ++ sending.left.take count) :=
      ⟨by rw [hremaining, hpay]; exact hwhole, hleft⟩
    refine ⟨h.fits, fun u other hu => ?_, fun hnone => ?_⟩
    · by_cases hne : u = t
      · subst hne
        simp only [update_self] at hu
        cases hu
        refine ⟨hpay ▸ hfits, _, hwritten', fun _ => ?_⟩
        simp [hbytes]
      · simp only [update_of_ne hne] at hu
        exact hkeep _ u other hne hu
    · have hbegun : sending'.Begun := hwritten'.begun_iff.mpr (by simp [hwritten.left, hcnt])
      exact absurd hbegun (hnone t sending' (by simp))

theorem Whole.step (h : s.Whole) (event : SendEvent ι) (hev : s.Undisturbed event) : (s.step event).Whole := by
  cases event with
  | send t payload =>
    simp only [SharedPipe.step]
    split
    · rename_i hidle
      refine ⟨h.fits, fun u other hu => ?_, fun hnone => ?_⟩
      · by_cases hne : u = t
        · subst hne
          simp only [update_self] at hu
          cases hu
          have hwritten := Sending.written_start payload
          exact ⟨hev, [], hwritten, fun hbegun => absurd rfl (hwritten.begun_iff.mp hbegun)⟩
        · simp only [update_of_ne hne] at hu
          exact h.sending u other hu
      · refine h.between fun u other hu => hnone u other ?_
        have hne : u ≠ t := by
          rintro rfl
          rw [hidle] at hu
          cases hu
        simpa [update_of_ne hne] using hu
    · exact h
  | writeFile t count =>
    simp only [SharedPipe.step]
    split
    · exact h
    · rename_i sending hsending
      obtain ⟨hother, hfail⟩ := hev sending hsending
      by_cases hcnt : count = 0
      · -- The call fails before it has written anything.
        have hbegun := hfail hcnt
        rw [SharedPipe.writeFile, if_pos hcnt]
        refine ⟨h.fits, fun u other hu => ?_, fun _ => h.between fun u other hu => ?_⟩
        · have hne : u ≠ t := by
            rintro rfl
            simp at hu
          simp only [update_of_ne hne] at hu
          exact h.sending u other hu
        · by_cases hne : u = t
          · subst hne
            rw [hsending] at hu
            cases hu
            exact hbegun
          · exact hother u hne other hu
      · exact h.writeFile hsending hcnt hother

theorem Whole.run {events : List (SendEvent ι)} (h : s.Whole)
    (hevs : Along SharedPipe.step Undisturbed s events) :
    (events.foldl SharedPipe.step s).Whole :=
  hevs.invariant (fun _ event hwhole hev => hwhole.step event hev) h

/-- While the threads take turns message by message, whatever pieces the bytes come in, the receiver is handed the
payloads that have been sent, each once and in the order in which the messages were completed. -/
theorem messages_intact (events : List (SendEvent ι)) (hevents : Along step Undisturbed new events)
    (buffer : Memory UInt8) (pieces : List (List UInt8)) (hpieces : ∀ piece ∈ pieces, piece ≠ [])
    (hbytes : pieces.flatten = (events.foldl step new).bytes) (n : Nat) (hn : pieces.flatten.length ≤ n) :
    ((RpcClient.new buffer pieces).turns n).received.map Received.data = (events.foldl step new).sent := by
  have hwhole : (events.foldl step new).Whole := Whole.new.run hevents
  rw [hwhole.received buffer hpieces hbytes (hbytes ▸ hn), map_map]
  exact map_id _

/-- Two threads, one after the other. -/
theorem messages_intact_turns :
    let events : List (SendEvent (Fin 2)) :=
      [.send 0 [1], .send 1 [2], .writeFile 0 3, .writeFile 0 1, .writeFile 0 1, .writeFile 1 4, .writeFile 1 1]
    Along step Undisturbed new events ∧
      ((RpcClient.new (fun _ => 0) [[5, 0, 0, 0, 1, 5, 0], [0, 0, 2]]).turns 10).received.map Received.data =
        (events.foldl step new).sent :=
  ⟨by decide, messages_intact _ (by decide) _ _ (by decide) (by decide) 10 (by decide)⟩

/-- Both lengths are written before the payloads: the receiver takes the second length for the first payload. -/
theorem messages_not_intact :
    let events : List (SendEvent Nat) :=
      [.send 0 [1], .send 1 [2], .writeFile 0 4, .writeFile 1 4, .writeFile 0 1, .writeFile 1 1]
    let s := events.foldl step new
    let receiver := (RpcClient.new (fun _ => 0) [s.bytes]).turns 10
    s.sending 0 = none ∧ s.sending 1 = none ∧ s.sent = [[1], [2]] ∧ receiver.connected = false ∧
      ¬(receiver.received.map Received.data).Perm s.sent := by
  decide

end SharedPipe

end FreeRDS.Fdsapi
