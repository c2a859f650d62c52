import FreeRDS.Rpc.Reader
import Mathlib.Logic.Function.Basic

/-! # Frames on the pipe to the manager

`pbrpc_send_message` writes the header of a frame and then its payload. The main loop calls it for what is in
the write queue and for its own responses; the threads of connections call it for theirs. There is one pipe and
no lock, and a thread goes by the value of `context->hPipe` at each of its two writes.
-/

namespace FreeRDS.Pbrpc

open Lib FrameFormat Rpc List Function

inductive Writer
  | mainLoop
  | connection (id : Nat)
  deriving DecidableEq, Repr

structure ManagerPipe where
  bytes : List UInt8
  /-- The frame of which a thread has written the header and not yet the payload. -/
  halfSent : Writer → Option fdsapi.Frame
  /-- The frames that `pbrpc_send_message` has been called for. -/
  begun : List fdsapi.Frame

inductive PipeEvent
  /-- The first `WriteFile` of `pbrpc_send_message`, and how many bytes it has written. -/
  | writeHeader (writer : Writer) (frame : fdsapi.Frame) (written : Nat)
  /-- The second `WriteFile`. -/
  | writePayload (writer : Writer) (written : Nat)
  /-- `pbrpc_reconnect` closes the pipe and opens it anew. -/
  | reopen

namespace ManagerPipe

def new : ManagerPipe where
  bytes := []
  halfSent _ := none
  begun := []

variable (s : ManagerPipe) (writer : Writer) (frame : fdsapi.Frame)

/-- `tp_npipe_write` fails if less than the header has been written, and the payload is not tried then. -/
def writeHeader (written : Nat) : ManagerPipe where
  bytes := s.bytes ++ frame.header.take written
  halfSent := Function.update s.halfSent writer (if written < Rpc.headerSize then none else some frame)
  begun := frame :: s.begun

def writePayload (written : Nat) : ManagerPipe where
  bytes := s.bytes ++ frame.payload.take written
  halfSent := Function.update s.halfSent writer none
  begun := s.begun

def step (s : ManagerPipe) : PipeEvent → ManagerPipe
  | .writeHeader writer frame written =>
    match s.halfSent writer with
    | none => s.writeHeader writer frame written
    | some _ => s
  | .writePayload writer written =>
    match s.halfSent writer with
    | none => s
    | some frame => s.writePayload writer frame written
  | .reopen => { s with bytes := [] }

def Owes : Prop :=
  s.halfSent writer = some frame ∧ frame.payload ≠ []

/-- Whole frames, each of them one that was to be sent, and behind them the header of the one frame whose payload
is still to be written, if there is such a frame. -/
inductive Whole (s : ManagerPipe) : Prop
  | between (frames : List fdsapi.Frame) (hbegun : frames ⊆ s.begun) (hbytes : s.bytes = encode frames)
      (hnone : ∀ writer frame, ¬s.Owes writer frame)
  | inside (frames : List fdsapi.Frame) (writer : Writer) (frame : fdsapi.Frame) (hbegun : frames ⊆ s.begun)
      (hbytes : s.bytes = encode frames ++ frame.header) (howes : s.Owes writer frame)
      (hone : ∀ writer' frame', s.Owes writer' frame' → writer' = writer)

/-- A `WriteFile` writes all it is given, or nothing of a header; no thread writes a header, and the pipe is not
opened anew, while another thread has a payload to write. -/
def Undisturbed (s : ManagerPipe) : PipeEvent → Prop
  | .writeHeader writer _ written =>
    s.halfSent writer = none → written = 0 ∨ Rpc.headerSize ≤ written ∧ ∀ writer' frame', ¬s.Owes writer' frame'
  | .writePayload writer written => ∀ frame, s.halfSent writer = some frame → frame.payload.length ≤ written
  | .reopen => ∀ writer frame, ¬s.Owes writer frame

variable {s : ManagerPipe} {writer : Writer} {frame : fdsapi.Frame} {written : Nat}

def Known (s : ManagerPipe) : Prop := ∀ writer frame, s.halfSent writer = some frame → frame ∈ s.begun

theorem Known.step (h : s.Known) (event : PipeEvent) : (s.step event).Known := by
  cases event with
  | reopen => exact h
  | writeHeader writer frame written =>
    simp only [ManagerPipe.step]
    split
    · intro writer' frame' hframe'
      by_cases hwriter : writer' = writer
      · subst hwriter
        simp only [writeHeader, update_self] at hframe'
        split at hframe'
        · cases hframe'
        · cases hframe'
          exact mem_cons_self
      · simp only [writeHeader, update_of_ne hwriter] at hframe'
        exact mem_cons_of_mem _ (h writer' frame' hframe')
    · exact h
  | writePayload writer written =>
    simp only [ManagerPipe.step]
    split
    · exact h
    · intro writer' frame' hframe'
      by_cases hwriter : writer' = writer
      · subst hwriter
        simp [writePayload] at hframe'
      · simp only [writePayload, update_of_ne hwriter] at hframe'
        exact h writer' frame' hframe'

theorem owes_of_ne {writer' : Writer} {frame' : fdsapi.Frame} {value : Option fdsapi.Frame}
    {bytes : List UInt8}
    {begun : List fdsapi.Frame} (hne : writer' ≠ writer) :
    Owes ⟨bytes, Function.update s.halfSent writer value, begun⟩ writer' frame' ↔
      s.Owes writer' frame' := by
  simp [Owes, update_of_ne hne]

theorem owes_self {frame' : fdsapi.Frame} {value : Option fdsapi.Frame} {bytes : List UInt8}
    {begun : List fdsapi.Frame} :
    Owes ⟨bytes, Function.update s.halfSent writer value, begun⟩ writer frame' ↔
      value = some frame' ∧ frame'.payload ≠ [] := by
  simp [Owes]

variable {frames : List fdsapi.Frame}

theorem not_whole_of_rest {rest : List UInt8}
    (hbytes : s.bytes = encode frames ++ rest)
    (hnone : ∀ writer frame, ¬s.Owes writer frame)
    (hrest : ∀ more : List fdsapi.Frame, encode more ≠ rest) :
    ¬s.Whole := by
  intro hwhole
  cases hwhole with
  | inside _ writer frame _ _ howes _ => exact hnone writer frame howes
  | between frames' _ hbytes' _ =>
    have heq : encode frames' ++ [] = encode frames ++ rest := by
      rw [append_nil, ← hbytes', hbytes]
    have hle : (encode frames).length ≤ (encode frames').length := by
      have hlen := congrArg length heq
      simp only [length_append, length_nil] at hlen
      omega
    obtain ⟨more, -, hmore⟩ := encode_append_cancel heq hle
    rw [append_nil] at hmore
    exact hrest more hmore

theorem not_whole_of_owes {rest : List UInt8}
    (hbytes : s.bytes = encode frames ++ (frame.header ++ rest)) (howes : s.Owes writer frame)
    (hrest : rest ≠ [])
    (hle : rest.length ≤ Rpc.headerSize) : ¬s.Whole := by
  intro hwhole
  cases hwhole with
  | between _ _ _ hnone => exact hnone writer frame howes
  | inside frames' writer' frame' _ hbytes' howes' hone =>
    obtain rfl := hone writer frame howes
    obtain rfl : frame' = frame := Option.some.inj (howes'.1.symm.trans howes.1)
    have heq : encode frames' ++ frame'.header = encode frames ++ (frame'.header ++ rest) := by
      rw [← hbytes', hbytes]
    have hlen := congrArg length heq
    simp only [length_append] at hlen
    obtain ⟨more, rfl, hmore⟩ := encode_append_cancel heq (by omega)
    rw [encode_append, length_append] at hlen
    have hpos := length_pos_iff.mpr hrest
    have hne : more ≠ [] := by
      rintro rfl
      rw [encode_nil, length_nil] at hlen
      omega
    have hsize := size_le_encode_length hne hmore
    have hpay := length_pos_iff.mpr howes.2
    have hhdr : fdsapi.headerSize = Rpc.headerSize := rfl
    rw [Frame.size, hhdr] at hsize
    omega

/-! ## One step -/

theorem reopen_whole : Whole { s with bytes := [] } ↔ ∀ writer frame, ¬s.Owes writer frame := by
  constructor
  · intro hwhole
    cases hwhole with
    | between _ _ _ hnone => exact hnone
    | inside frames writer frame _ hbytes _ _ =>
      have hlen := congrArg length hbytes
      have hhdr : frame.header.length = Rpc.headerSize := frame.header_length
      simp only [length_nil, length_append, hhdr, Rpc.headerSize] at hlen
      omega
  · intro hnone
    exact .between [] (nil_subset _) rfl hnone

theorem Whole.writeHeader_zero (h : s.Whole) (hfree : s.halfSent writer = none) (frame : fdsapi.Frame) :
    (s.writeHeader writer frame 0).Whole := by
  have hsame : update s.halfSent writer none = s.halfSent := by
    rw [← hfree, update_eq_self]
  have hstate : s.writeHeader writer frame 0 = { s with begun := frame :: s.begun } := by
    simp [writeHeader, hsame, Rpc.headerSize]
  rw [hstate]
  cases h with
  | between frames hbegun hbytes hnone =>
    exact .between frames (subset_cons_of_subset _ hbegun) hbytes hnone
  | inside frames writer' frame' hbegun hbytes howes hone =>
    exact .inside frames writer' frame' (subset_cons_of_subset _ hbegun) hbytes howes hone

theorem writeHeader_whole (hbegun : frames ⊆ s.begun)
    (hbytes : s.bytes = encode frames)
    (hnone : ∀ writer frame, ¬s.Owes writer frame) (hle : Rpc.headerSize ≤ written) :
    (s.writeHeader writer frame written).Whole := by
  have hhdr : frame.header.take written = frame.header :=
    take_of_length_le (Nat.le_trans (Nat.le_of_eq frame.header_length) hle)
  have hstate : s.writeHeader writer frame written =
      ⟨s.bytes ++ frame.header, update s.halfSent writer (some frame), frame :: s.begun⟩ := by
    simp [writeHeader, hhdr, Nat.not_lt.mpr hle]
  rw [hstate]
  by_cases hempty : frame.payload = []
  · refine .between (frames ++ [frame]) ?_ ?_ ?_
    · exact append_subset.mpr ⟨subset_cons_of_subset _ hbegun, by simp⟩
    · simp [hbytes, Frame.bytes, hempty]
    · intro writer' frame' howes
      by_cases hwriter : writer' = writer
      · subst hwriter
        obtain ⟨heq, hpay⟩ := owes_self.mp howes
        cases heq
        exact hpay hempty
      · exact hnone writer' frame' ((owes_of_ne hwriter).mp howes)
  · refine .inside frames writer frame (subset_cons_of_subset _ hbegun) (by rw [hbytes]) ?_ ?_
    · exact owes_self.mpr ⟨rfl, hempty⟩
    · intro writer' frame' howes
      by_contra hwriter
      exact hnone writer' frame' ((owes_of_ne hwriter).mp howes)

theorem Whole.writeHeader (h : s.Whole) (hfree : s.halfSent writer = none) :
    (s.writeHeader writer frame written).Whole ↔
      written = 0 ∨ Rpc.headerSize ≤ written ∧ ∀ writer' frame', ¬s.Owes writer' frame' := by
  have hlen : frame.header.length = Rpc.headerSize := frame.header_length
  constructor
  · intro hwhole
    by_contra hnot
    obtain ⟨hpos, hdisturbed⟩ := not_or.mp hnot
    have hpart : frame.header.take written ≠ [] := by
      rw [← length_pos_iff, length_take, hlen, Rpc.headerSize]
      omega
    cases h with
    | between frames hbegun hbytes hnone =>
      have hlt : written < Rpc.headerSize := by
        by_contra hle
        exact hdisturbed ⟨Nat.le_of_not_lt hle, hnone⟩
      have hbytes' : (s.writeHeader writer frame written).bytes =
          encode frames ++ frame.header.take written := by
        rw [ManagerPipe.writeHeader, hbytes]
      refine not_whole_of_rest hbytes' ?_ ?_ hwhole
      · intro writer' frame' howes
        by_cases hwriter : writer' = writer
        · subst hwriter
          simpa [hlt] using (owes_self.mp howes).1
        · exact hnone writer' frame' ((owes_of_ne hwriter).mp howes)
      · intro more hmore
        have hne : more ≠ [] := by
          rintro rfl
          exact hpart hmore.symm
        have hle : Rpc.headerSize ≤ (encode more).length := headerSize_le_encode_length hne
        rw [hmore, length_take] at hle
        omega
    | inside frames other frame' hbegun hbytes howes hone =>
      have hother : other ≠ writer := by
        rintro rfl
        rw [howes.1] at hfree
        cases hfree
      have hbytes' : (s.writeHeader writer frame written).bytes =
          encode frames ++ (frame'.header ++ frame.header.take written) := by
        rw [ManagerPipe.writeHeader, hbytes, append_assoc]
      refine not_whole_of_owes hbytes' ((owes_of_ne hother).mpr howes) hpart ?_ hwhole
      rw [length_take, hlen]
      exact Nat.min_le_right _ _
  · rintro (rfl | ⟨hle, hnone⟩)
    · exact h.writeHeader_zero hfree frame
    · cases h with
      | between frames hbegun hbytes _ => exact writeHeader_whole hbegun hbytes hnone hle
      | inside _ other frame' _ _ howes _ => exact absurd howes (hnone other frame')

theorem Whole.writePayload_nil (h : s.Whole) (hhalf : s.halfSent writer = some frame)
    (hempty : frame.payload = []) :
    (s.writePayload writer frame written).Whole := by
  have howes' : ∀ writer' frame',
      (s.writePayload writer frame written).Owes writer' frame' ↔ s.Owes writer' frame' := by
    intro writer' frame'
    by_cases hwriter : writer' = writer
    · subst hwriter
      refine iff_of_false (fun howes => nomatch (owes_self.mp howes).1) fun howes => ?_
      obtain rfl := Option.some.inj (hhalf.symm.trans howes.1)
      exact howes.2 hempty
    · exact owes_of_ne hwriter
  have hbytes' : (s.writePayload writer frame written).bytes = s.bytes := by
    simp [ManagerPipe.writePayload, hempty]
  cases h with
  | between frames hbegun hbytes hnone =>
    refine .between frames hbegun (hbytes'.trans hbytes) ?_
    intro writer' frame'
    exact mt (howes' _ _).mp (hnone writer' frame')
  | inside frames other frame' hbegun hbytes howes hone =>
    exact .inside frames other frame' hbegun (hbytes'.trans hbytes) ((howes' _ _).mpr howes)
      fun writer' frame' h => hone writer' frame' ((howes' _ _).mp h)

theorem Whole.writePayload (h : s.Whole) (hknown : s.Known) (hhalf : s.halfSent writer = some frame) :
    (s.writePayload writer frame written).Whole ↔ frame.payload.length ≤ written := by
  by_cases hempty : frame.payload = []
  · exact iff_of_true (h.writePayload_nil hhalf hempty) (by simp [hempty])
  · have howes : s.Owes writer frame := ⟨hhalf, hempty⟩
    cases h with
    | between _ _ _ hnone => exact absurd howes (hnone writer frame)
    | inside frames other frame' hbegun hbytes howes' hone =>
      obtain rfl := hone writer frame howes
      obtain rfl : frame' = frame := Option.some.inj (howes'.1.symm.trans howes.1)
      have hnone : ∀ writer' frame'', ¬(s.writePayload writer frame' written).Owes writer' frame'' := by
        intro writer' frame'' howes''
        by_cases hwriter : writer' = writer
        · subst hwriter
          exact nomatch (owes_self.mp howes'').1
        · exact hwriter (hone writer' frame'' ((owes_of_ne hwriter).mp howes''))
      have hbytes' : (s.writePayload writer frame' written).bytes =
          encode frames ++ (frame'.header ++ frame'.payload.take written) := by
        rw [ManagerPipe.writePayload, hbytes, append_assoc]
      constructor
      · intro hwhole
        by_contra hlt
        refine not_whole_of_rest hbytes' hnone ?_ hwhole
        intro more hmore
        have hhdr : frame'.header.length = Rpc.headerSize := frame'.header_length
        have hne : more ≠ [] := by
          rintro rfl
          have hlen := congrArg length hmore
          simp only [encode_nil, length_nil, length_append, hhdr, Rpc.headerSize] at hlen
          omega
        have hmore' : encode more ++ [] = frame'.header ++ frame'.payload.take written := by
          rw [append_nil, hmore]
        have hsize := size_le_encode_length hne hmore'
        rw [hmore, length_append, length_take, Frame.size, frame'.header_length] at hsize
        omega
      · intro hle
        refine .between (frames ++ [frame']) ?_ ?_ hnone
        · have hmem := hknown writer frame' hhalf
          exact append_subset.mpr ⟨hbegun, cons_subset.mpr ⟨hmem, nil_subset _⟩⟩
        · rw [hbytes', take_of_length_le hle]
          simp [Frame.bytes]

theorem Whole.step (h : s.Whole) (hknown : s.Known) (event : PipeEvent) :
    (s.step event).Whole ↔ s.Undisturbed event := by
  cases event with
  | reopen => exact reopen_whole
  | writeHeader writer frame written =>
    simp only [ManagerPipe.step, Undisturbed]
    split
    · rename_i hfree
      rw [h.writeHeader hfree]
      simp [hfree]
    · rename_i hhalf
      exact iff_of_true h fun hfree => by simp [hhalf] at hfree
  | writePayload writer written =>
    simp only [ManagerPipe.step, Undisturbed]
    split
    · rename_i hfree
      exact iff_of_true h fun frame hhalf => by simp [hfree] at hhalf
    · rename_i frame hhalf
      rw [h.writePayload hknown hhalf]
      simp [hhalf]

end ManagerPipe

/-- In every interleaving, what is on the pipe is always whole frames and the header of at most one more, which is
followed by its own payload, exactly if no thread writes a header, and the pipe is not opened anew, while another
thread has a payload to write, and no `WriteFile` writes a part of what it is given. -/
theorem frames_whole_iff (events : List PipeEvent) :
    (∀ j, ((events.take j).foldl ManagerPipe.step .new).Whole) ↔
      Along ManagerPipe.step ManagerPipe.Undisturbed .new events := by
  have hknown : ManagerPipe.new.Known := nofun
  have hfirst : ManagerPipe.new.Whole := .between [] (nil_subset _) rfl fun _ _ howes => nomatch howes.1
  apply Along.always_iff ManagerPipe.Whole ?_ ?_ hknown hfirst
  · intro s event h
    exact h.step event
  · intro s event h hwhole
    exact hwhole.step h event

namespace Sample

def frame (byte : UInt8) : fdsapi.Frame where
  header := Rpc.Sample.header [1, 0, 0, 0]
  payload := [byte]
  header_length := by decide
  payload_length := by
    have hsize : fdsapi.payloadSize (Rpc.Sample.header [1, 0, 0, 0]) = 1 := by decide
    exact hsize.symm

/-- The response of a connection comes between the header and the payload of a queued request. -/
def interleaved : List PipeEvent :=
  [.writeHeader .mainLoop (frame 7) Rpc.headerSize, .writeHeader (.connection 0) (frame 9) Rpc.headerSize]

end Sample

/-- A header on the pipe is followed by the header of another frame. -/
theorem interleaved_not_whole : ¬(Sample.interleaved.foldl ManagerPipe.step .new).Whole := by
  have hbytes : (Sample.interleaved.foldl ManagerPipe.step .new).bytes =
      encode ([] : List fdsapi.Frame) ++ ((Sample.frame 7).header ++ (Sample.frame 9).header) := by
    decide +kernel
  have howes : (Sample.interleaved.foldl ManagerPipe.step .new).Owes .mainLoop (Sample.frame 7) := ⟨rfl, by decide⟩
  apply ManagerPipe.not_whole_of_owes hbytes howes
  all_goals decide

end FreeRDS.Pbrpc
