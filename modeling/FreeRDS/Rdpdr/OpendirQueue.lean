import FreeRDS.Lib.Run

/-! # The queue of directories between two threads

The FUSE thread runs `rdpdr_fuse_cb_opendir` and the thread of the RDPDR server runs
`rdpdr_fuse_query_directory_done`. Each operation of the queue is under the queue's own lock and each Drive
call is a single step; nothing holds the two functions apart.
-/

namespace FreeRDS.Rdpdr.OpendirQueue

open FreeRDS.Lib

/-! ## The threads -/

/-- Where a thread stands in `rdpdr_fuse_proc_opendir_req`. -/
inductive Proc
  | entry (req : Nat)
  /-- Before `DriveQueryDirectory`. -/
  | query (req : Nat)
  /-- Before the `Queue_Dequeue` of a request that needs no query. -/
  | dequeue
  deriving DecidableEq

/-- Where the FUSE thread stands in `rdpdr_fuse_cb_opendir`. -/
inductive FuseThread
  | idle
  | count (req : Nat)
  /-- Before `Queue_Enqueue`, with what `Queue_Count` has found. -/
  | enqueue (req : Nat) (empty : Bool)
  | proc (p : Proc)
  deriving DecidableEq

/-- Where the thread of the server stands in `rdpdr_fuse_query_directory_done`. -/
inductive ServerThread
  | idle
  | dequeue
  | peek
  | proc (p : Proc)
  deriving DecidableEq

structure Threads where
  queue : List Nat := []
  outstanding : List Nat := []
  /-- The requests that `rdpdr_fuse_proc_opendir_req` has been entered with. -/
  processed : List Nat := []
  arrivals : List Nat := []
  fuse : FuseThread := .idle
  server : ServerThread := .idle

/-- One step of either thread, of the kernel or of the client. The choice is, at the entry of
`rdpdr_fuse_proc_opendir_req`, whether the client has to be asked for the directory, and at
`DriveQueryDirectory` whether it succeeds. -/
inductive Turn
  | arrive (req : Nat)
  | fuse (choice : Bool)
  /-- The client has listed outstanding directory `k`. -/
  | completed (k : Nat)
  | server (choice : Bool)

variable (choice : Bool) (s : Threads)

/-- The step leads on in the function, or returns whether the next request is to be processed. -/
def Proc.step : Proc → (Proc ⊕ Bool) × Threads
  | .entry req => (.inl (if choice then .query req else .dequeue), { s with processed := s.processed ++ [req] })
  | .query req => (.inr false, if choice then { s with outstanding := s.outstanding ++ [req] } else s)
  | .dequeue => (.inr true, { s with queue := s.queue.tail })

def stepFuse : Threads :=
  match s.fuse with
  | .idle => s
  | .count req => { s with fuse := .enqueue req s.queue.isEmpty }
  | .enqueue req empty =>
    { s with queue := s.queue ++ [req], fuse := if empty then .proc (.entry req) else .idle }
  | .proc p =>
    match p.step choice s with
    | (.inl p, s) => { s with fuse := .proc p }
    | (.inr _, s) => { s with fuse := .idle }

def stepServer : Threads :=
  match s.server with
  | .idle => s
  | .dequeue => { s with queue := s.queue.tail, server := .peek }
  | .peek => { s with server := s.queue.head?.elim .idle fun req => .proc (.entry req) }
  | .proc p =>
    match p.step choice s with
    | (.inl p, s) => { s with server := .proc p }
    | (.inr next, s) => { s with server := if next then .peek else .idle }

/-- A request arrives while the FUSE thread waits for one, and a listing ends while the server does. -/
def step (s : Threads) : Turn → Threads
  | .arrive req => if s.fuse = .idle then { s with arrivals := s.arrivals ++ [req], fuse := .count req } else s
  | .fuse choice => stepFuse choice s
  | .completed k =>
    if s.server = .idle ∧ k < s.outstanding.length then
      { s with outstanding := s.outstanding.eraseIdx k, server := .dequeue }
    else s
  | .server choice => stepServer choice s

/-- Requests are processed once each in the order in which they arrive, all of them by the time that nothing
is left to do, with one directory listed at a time, and a request in the queue has a thread or a listing to
go on with it. -/
structure Threads.InOrder (s : Threads) : Prop where
  order : s.processed <+: s.arrivals
  single : s.outstanding.length ≤ 1
  attended : s.queue ≠ [] → s.outstanding ≠ [] ∨ (∃ p, s.fuse = .proc p) ∨ s.server ≠ .idle
  done : s.fuse = .idle → s.server = .idle → s.outstanding = [] → s.processed = s.arrivals

/-! ## When the threads keep apart -/

/-- Before the `Queue_Count` that its callback starts with. -/
def FuseThread.Outside : FuseThread → Prop
  | .idle | .count _ => True
  | _ => False

/-- Before the `Queue_Dequeue` that a listing ends with. -/
def ServerThread.Outside : ServerThread → Prop
  | .idle | .dequeue => True
  | _ => False

/-- A thread goes on only where the other is outside its function, and queries can be sent. -/
def Turn.Exclusive (s : Threads) : Turn → Prop
  | .fuse choice => s.server.Outside ∧ ((∃ req, s.fuse = .proc (.query req)) → choice = true)
  | .server choice => s.fuse.Outside ∧ ((∃ req, s.server = .proc (.query req)) → choice = true)
  | _ => True

/-- The thread has not counted the requests of the queue, or has found it empty or not. -/
def FuseThread.Found (empty : Bool) : FuseThread → Prop
  | .idle | .count _ => True
  | .enqueue _ found => found = empty
  | .proc _ => False

theorem FuseThread.Outside.found {fuse : FuseThread} (h : fuse.Outside) (empty : Bool) : fuse.Found empty := by
  cases fuse with
  | idle | count req => trivial
  | enqueue req found | proc p => exact h.elim

def FuseThread.pending : FuseThread → List Nat
  | .count req | .enqueue req _ => [req]
  | _ => []

def Proc.Processes (req : Nat) : Proc → Prop
  | .entry r | .query r => r = req
  | .dequeue => True

def Proc.ahead (req : Nat) : Proc → List Nat
  | .entry _ => [req]
  | _ => []

/-- How the queue, the listing and the two threads stand to each other, with the requests of the queue that
have not been processed. -/
inductive Stage : List Nat → List Nat → FuseThread → ServerThread → List Nat → Prop
  | free {fuse : FuseThread} (hfuse : fuse.Found true) : Stage [] [] fuse .idle []
  /-- The directory of the head is being listed, or the listing has ended. -/
  | listing {fuse : FuseThread} {server : ServerThread} {outstanding : List Nat} {req : Nat} {rest : List Nat}
      (hfuse : fuse.Found false)
      (hserver : outstanding = [req] ∧ server = .idle ∨ outstanding = [] ∧ server = .dequeue) :
      Stage (req :: rest) outstanding fuse server rest
  | looking {fuse : FuseThread} {queue : List Nat} (hfuse : fuse.Outside) : Stage queue [] fuse .peek queue
  | server {fuse : FuseThread} {p : Proc} {req : Nat} {rest : List Nat} (hfuse : fuse.Outside)
      (hp : p.Processes req) : Stage (req :: rest) [] fuse (.proc p) (p.ahead req ++ rest)
  | fuse {p : Proc} {req : Nat} (hp : p.Processes req) : Stage [req] [] (.proc p) .idle (p.ahead req)

/-- Every request has been processed, or waits in the queue, or is about to go into it. -/
def Threads.Staged (s : Threads) : Prop :=
  ∃ waiting, Stage s.queue s.outstanding s.fuse s.server waiting ∧
    s.arrivals = s.processed ++ waiting ++ s.fuse.pending

section Staged

variable {s : Threads}

theorem Threads.Staged.inOrder (hs : s.Staged) : s.InOrder := by
  obtain ⟨queue, outstanding, processed, arrivals, fuse, server⟩ := s
  obtain ⟨waiting, hstage, harrs⟩ := hs
  dsimp only at hstage harrs
  subst harrs
  refine ⟨⟨waiting ++ fuse.pending, (List.append_assoc _ _ _).symm⟩, ?_, ?_, ?_⟩
  · cases hstage with
    | listing hfuse hsrv =>
      obtain ⟨rfl, -⟩ | ⟨rfl, -⟩ := hsrv
      · exact Nat.le_refl 1
      · exact Nat.zero_le 1
    | _ => exact Nat.zero_le 1
  · intro hqueue
    cases hstage with
    | free hfuse => exact absurd rfl hqueue
    | listing hfuse hsrv =>
      obtain ⟨rfl, -⟩ | ⟨-, rfl⟩ := hsrv
      · exact .inl (List.cons_ne_nil _ _)
      · exact .inr (.inr ServerThread.noConfusion)
    | looking hfuse | server hfuse hp => exact .inr (.inr ServerThread.noConfusion)
    | fuse hp => exact .inr (.inl ⟨_, rfl⟩)
  · rintro rfl rfl rfl
    cases hstage with
    | free hfuse => simp [FuseThread.pending]
    | listing hfuse hsrv => obtain ⟨⟨⟩, -⟩ | ⟨-, ⟨⟩⟩ := hsrv

theorem Threads.Staged.arrive (hs : s.Staged) (req : Nat) (hidle : s.fuse = .idle) :
    Threads.Staged { s with arrivals := s.arrivals ++ [req], fuse := .count req } := by
  obtain ⟨queue, outstanding, processed, arrivals, fuse, server⟩ := s
  obtain ⟨waiting, hstage, harrs⟩ := hs
  obtain rfl : fuse = .idle := hidle
  refine ⟨waiting, ?_, ?_⟩
  · cases hstage with
    | free hfuse => exact .free trivial
    | listing hfuse hsrv => exact .listing trivial hsrv
    | looking hfuse => exact .looking trivial
    | server hfuse hp => exact .server trivial hp
  · change arrivals ++ [req] = processed ++ waiting ++ [req]
    rw [show arrivals = processed ++ waiting ++ [] from harrs, List.append_nil]

theorem Threads.Staged.completed {k : Nat} (hs : s.Staged) (hidle : s.server = .idle)
    (hk : k < s.outstanding.length) :
    Threads.Staged { s with outstanding := s.outstanding.eraseIdx k, server := .dequeue } := by
  obtain ⟨queue, outstanding, processed, arrivals, fuse, server⟩ := s
  obtain ⟨waiting, hstage, harrs⟩ := hs
  obtain rfl : server = .idle := hidle
  refine ⟨waiting, ?_, harrs⟩
  cases hstage with
  | free hfuse | fuse hp => exact absurd hk (Nat.not_lt_zero k)
  | listing hfuse hsrv =>
    obtain ⟨rfl, -⟩ | ⟨-, ⟨⟩⟩ := hsrv
    obtain rfl : k = 0 := Nat.lt_one_iff.mp hk
    exact .listing hfuse (.inr ⟨rfl, rfl⟩)

theorem Threads.Staged.stepFuse {choice : Bool} (hs : s.Staged) (houtside : s.server.Outside)
    (hchoice : (∃ req, s.fuse = .proc (.query req)) → choice = true) :
    (OpendirQueue.stepFuse choice s).Staged := by
  obtain ⟨queue, outstanding, processed, arrivals, fuse, server⟩ := s
  obtain ⟨waiting, hstage, harrs⟩ := hs
  dsimp only at hstage harrs houtside hchoice
  subst harrs
  cases hstage with
  | free hfuse =>
    cases fuse with
    | idle => exact ⟨[], .free hfuse, rfl⟩
    | count req => exact ⟨[], .free rfl, rfl⟩
    | enqueue req empty =>
      obtain rfl : empty = true := hfuse
      refine ⟨[req], .fuse (p := .entry req) rfl, ?_⟩
      change processed ++ [] ++ [req] = processed ++ [req] ++ []
      rw [List.append_nil, List.append_nil]
    | proc p => exact hfuse.elim
  | listing hfuse hsrv =>
    cases fuse with
    | idle => exact ⟨waiting, .listing hfuse hsrv, rfl⟩
    | count req => exact ⟨waiting, .listing rfl hsrv, rfl⟩
    | enqueue req empty =>
      obtain rfl : empty = false := hfuse
      refine ⟨waiting ++ [req], .listing trivial hsrv, ?_⟩
      change processed ++ waiting ++ [req] = processed ++ (waiting ++ [req]) ++ []
      rw [List.append_nil, List.append_assoc]
    | proc p => exact hfuse.elim
  | looking hfuse | server hfuse hp => exact houtside.elim
  | @fuse p req hp =>
    cases p with
    | entry r =>
      obtain rfl : r = req := hp
      refine ⟨[], ?_, ?_⟩
      · cases choice with
        | true => exact .fuse (p := .query r) rfl
        | false => exact .fuse (p := .dequeue) trivial
      · change processed ++ [r] ++ [] = processed ++ [r] ++ [] ++ []
        rw [List.append_nil, List.append_nil]
    | query r =>
      obtain rfl : r = req := hp
      obtain rfl := hchoice ⟨r, rfl⟩
      exact ⟨[], .listing trivial (.inl ⟨rfl, rfl⟩), rfl⟩
    | dequeue => exact ⟨[], .free trivial, rfl⟩

theorem Threads.Staged.stepServer {choice : Bool} (hs : s.Staged) (houtside : s.fuse.Outside)
    (hchoice : (∃ req, s.server = .proc (.query req)) → choice = true) :
    (OpendirQueue.stepServer choice s).Staged := by
  obtain ⟨queue, outstanding, processed, arrivals, fuse, server⟩ := s
  obtain ⟨waiting, hstage, harrs⟩ := hs
  dsimp only at hstage harrs houtside hchoice
  subst harrs
  cases hstage with
  | free hfuse => exact ⟨[], .free hfuse, rfl⟩
  | listing hfuse hsrv =>
    obtain ⟨rfl, rfl⟩ | ⟨rfl, rfl⟩ := hsrv
    · exact ⟨waiting, .listing hfuse (.inl ⟨rfl, rfl⟩), rfl⟩
    · exact ⟨waiting, .looking houtside, rfl⟩
  | looking hfuse =>
    cases queue with
    | nil => exact ⟨[], .free (hfuse.found true), rfl⟩
    | cons req rest => exact ⟨req :: rest, .server (p := .entry req) hfuse rfl, rfl⟩
  | @server _ p req rest hfuse hp =>
    cases p with
    | entry r =>
      obtain rfl : r = req := hp
      refine ⟨rest, ?_, ?_⟩
      · cases choice with
        | true => exact .server (p := .query r) hfuse rfl
        | false => exact .server (p := .dequeue) hfuse trivial
      · change processed ++ (r :: rest) ++ fuse.pending = processed ++ [r] ++ rest ++ fuse.pending
        rw [List.append_assoc processed [r], List.singleton_append]
    | query r =>
      obtain rfl : r = req := hp
      obtain rfl := hchoice ⟨r, rfl⟩
      exact ⟨rest, .listing (hfuse.found false) (.inl ⟨rfl, rfl⟩), rfl⟩
    | dequeue => exact ⟨rest, .looking hfuse, rfl⟩
  | fuse hp => exact houtside.elim

theorem Threads.Staged.step (hs : s.Staged) {t : Turn} (h : t.Exclusive s) : (OpendirQueue.step s t).Staged := by
  cases t with
  | arrive req =>
    dsimp only [OpendirQueue.step]
    split
    · exact hs.arrive req ‹_›
    · exact hs
  | fuse choice => exact hs.stepFuse h.1 h.2
  | completed k =>
    dsimp only [OpendirQueue.step]
    split
    · next hready => exact hs.completed hready.1 hready.2
    · exact hs
  | server choice => exact hs.stepServer h.1 h.2

end Staged

namespace Sample

/-- A request comes to an empty queue and its directory is asked for. -/
def asked : List Turn := [.arrive 0, .fuse true, .fuse true, .fuse true, .fuse true]

/-- The listing ends, and the queue is found empty by the FUSE thread before the server looks into it. -/
def twice : List Turn :=
  asked ++ [.completed 0, .arrive 1, .server true, .fuse true, .fuse true, .server true, .server true, .fuse true]

/-- The FUSE thread finds a request in the queue, which is gone when its own goes in. -/
def lost : List Turn :=
  asked ++ [.completed 0, .arrive 1, .fuse true, .server true, .server true, .fuse true]

def unsent : List Turn := [.arrive 0, .fuse true, .fuse true, .fuse true, .fuse false]

end Sample

end FreeRDS.Rdpdr.OpendirQueue
