import FreeRDS.Lib.CriticalSection
import FreeRDS.Lib.Run
import Mathlib.Logic.Function.Basic

/-! # SignalingQueue

A queue of elements behind a critical section, with a manual-reset event that tells the consumer
to look. `RpcEngine::serveClient` and `Executor::runExecutor` consume in cycles: wait for the
event, reset it, enter the critical section, take elements until there is none, leave. The event
is reset outside the critical section, so a step here is one operation of one thread.

The consumer also adds elements itself, before it waits and while it processes an element; the
critical section is then entered twice.
-/

namespace FreeRDS.Utils.SignalingQueue

open Lib

inductive ThreadId
  | consumer
  | producer (n : Nat)
  deriving DecidableEq, Repr

variable {α : Type}

/-- The operation of `addElement` that a thread executes next. -/
inductive Adding (α : Type)
  | enterCriticalSection (element : α)
  | pushBack (element : α)
  | setEvent
  | leaveCriticalSection
  deriving DecidableEq, Repr

inductive Cycle (α : Type)
  /-- The wait for `getSignalHandle()`. -/
  | wait
  /-- The first line of `resetEventAndLockQueue`. -/
  | resetEvent
  | enterCriticalSection
  /-- `mlist.empty()` of `getElementLockFree`. -/
  | empty
  | front
  | popFront (element : α)
  | process (element : α)
  /-- `unlockQueue`. -/
  | leaveCriticalSection
  deriving DecidableEq, Repr

structure State (α : Type) where
  mCSection : CriticalSection ThreadId := {}
  /-- `mSignalHandle`. -/
  signaled : Bool := false
  mlist : List α := []
  adding : ThreadId → Option (Adding α) := fun _ => none
  cycle : Cycle α := .wait
  /-- Ghost: the elements in the order of their `push_back`. -/
  added : List α := []
  /-- Ghost: what `getElementLockFree` has returned. -/
  consumed : List α := []

inductive Event (α : Type)
  /-- A thread calls `addElement`. -/
  | call (t : ThreadId) (element : α)
  | turn (t : ThreadId)

namespace State

variable (s : State α)

/-- `addElement`, one operation. -/
def addElement (t : ThreadId) : Adding α → State α
  | .enterCriticalSection element =>
    match s.mCSection.enter t with
    | some entered =>
      { s with mCSection := entered, adding := Function.update s.adding t (some (.pushBack element)) }
    | none => s
  | .pushBack element =>
    { s with
      mlist := s.mlist ++ [element]
      added := s.added ++ [element]
      adding := Function.update s.adding t (some .setEvent) }
  | .setEvent => { s with signaled := true, adding := Function.update s.adding t (some .leaveCriticalSection) }
  | .leaveCriticalSection =>
    { s with mCSection := s.mCSection.leave, adding := Function.update s.adding t none }

def consume : State α :=
  match s.cycle with
  | .wait => if s.signaled then { s with cycle := .resetEvent } else s
  | .resetEvent => { s with signaled := false, cycle := .enterCriticalSection }
  | .enterCriticalSection =>
    match s.mCSection.enter .consumer with
    | some entered => { s with mCSection := entered, cycle := .empty }
    | none => s
  | .empty => if s.mlist.isEmpty then { s with cycle := .leaveCriticalSection } else { s with cycle := .front }
  | .front =>
    match s.mlist.head? with
    | some element => { s with cycle := .popFront element }
    | none => s
  | .popFront element =>
    { s with mlist := s.mlist.tail, consumed := s.consumed ++ [element], cycle := .process element }
  | .process _ => { s with cycle := .empty }
  | .leaveCriticalSection => { s with mCSection := s.mCSection.leave, cycle := .wait }

/-- The consumer calls `addElement` only before its wait and while it processes an element. -/
def mayAdd : ThreadId → Bool
  | .producer _ => true
  | .consumer =>
    match s.cycle with
    | .wait | .process _ => true
    | _ => false

def step : Event α → State α
  | .call t element =>
    if s.adding t = none ∧ s.mayAdd t then
      { s with adding := Function.update s.adding t (some (.enterCriticalSection element)) }
    else s
  | .turn t =>
    match s.adding t with
    | some operation => s.addElement t operation
    | none =>
      match t with
      | .consumer => s.consume
      | .producer _ => s

end State

/-! ## What a step does -/

namespace Adding

def inside : Adding α → Bool
  | .enterCriticalSection _ => false
  | _ => true

end Adding

namespace Cycle

def inside : Cycle α → Bool
  | .wait | .resetEvent | .enterCriticalSection => false
  | _ => true

/-- From the reset of the event on, the consumer looks at the list before it waits again. -/
def looks : Cycle α → Bool
  | .wait | .resetEvent => false
  | _ => true

end Cycle

def depth (adding : ThreadId → Option (Adding α)) (cycle : Cycle α) (t : ThreadId) : Nat :=
  (if (adding t).any Adding.inside then 1 else 0) + if t = .consumer ∧ cycle.inside then 1 else 0

section Depth

variable {adding : ThreadId → Option (Adding α)} {cycle cycle' : Cycle α} {next : Option (Adding α)} {t : ThreadId}

theorem depth_update_of_ne (u : ThreadId) (hu : u ≠ t) :
    depth (Function.update adding t next) cycle u = depth adding cycle u := by
  simp [depth, Function.update_of_ne hu]

theorem depth_update_inside (ht : (adding t).any Adding.inside = next.any Adding.inside) (u : ThreadId) :
    depth (Function.update adding t next) cycle u = depth adding cycle u := by
  by_cases hu : u = t
  · subst hu
    simp [depth, ht]
  · exact depth_update_of_ne u hu

theorem depth_update_enter (ht : (adding t).any Adding.inside = false) (hnext : next.any Adding.inside = true) :
    depth (Function.update adding t next) cycle t = depth adding cycle t + 1 := by
  simp only [depth, Function.update_self, ht, hnext, Bool.false_eq_true, if_true, if_false]
  omega

theorem depth_update_leave (ht : (adding t).any Adding.inside = true) (hnext : next.any Adding.inside = false) :
    depth adding cycle t = depth (Function.update adding t next) cycle t + 1 := by
  simp only [depth, Function.update_self, ht, hnext, Bool.false_eq_true, if_true, if_false]
  omega

theorem depth_cycle_of_ne (u : ThreadId) (hu : u ≠ .consumer) : depth adding cycle' u = depth adding cycle u := by
  simp [depth, hu]

theorem depth_cycle_inside (h : cycle'.inside = cycle.inside) (u : ThreadId) :
    depth adding cycle' u = depth adding cycle u := by
  simp [depth, h]

theorem depth_consumer (hidle : adding .consumer = none) :
    depth adding cycle .consumer = if cycle.inside then 1 else 0 := by
  simp [depth, hidle]

end Depth

namespace State

structure Inv (s : State α) : Prop where
  guards : s.mCSection.Guards (depth s.adding s.cycle)
  mayAdd : s.adding .consumer ≠ none → s.mayAdd .consumer = true
  drained : s.cycle = .leaveCriticalSection → s.mlist = []
  found : s.cycle = .front → s.mlist ≠ []
  front : ∀ element, s.cycle = .popFront element → s.mlist.head? = some element
  order : s.added = s.consumed ++ s.mlist
  /-- A non-empty list is announced, or about to be, or about to be looked at. -/
  announced : s.mlist ≠ [] → s.signaled = true ∨ (∃ t, s.adding t = some .setEvent) ∨ s.cycle.looks = true

theorem Inv.init : ({} : State α).Inv where
  guards := ⟨fun t => by simp [depth, Cycle.inside], (fun t h => by cases h), fun _ => rfl⟩
  mayAdd h := absurd rfl h
  drained h := by cases h
  found h := by cases h
  front element h := by cases h
  order := rfl
  announced h := absurd rfl h

variable {s : State α} {t : ThreadId}

/-! ### A thread adds -/

section Adding

variable {next : Option (Adding α)}

theorem Inv.mayAdd_update (h : s.Inv) (hmay : s.mayAdd t = true)
    (hconsumer : Function.update s.adding t next .consumer ≠ none) : s.mayAdd .consumer = true := by
  by_cases heq : .consumer = t
  · subst heq
    exact hmay
  · rw [Function.update_of_ne heq] at hconsumer
    exact h.mayAdd hconsumer

theorem Inv.announced_update (h : s.Inv) (ht : s.adding t ≠ some .setEvent) (hlist : s.mlist ≠ []) :
    s.signaled = true ∨ (∃ u, Function.update s.adding t next u = some .setEvent) ∨ s.cycle.looks = true := by
  refine (h.announced hlist).imp_right (.imp_left ?_)
  rintro ⟨u, hu⟩
  have hne : u ≠ t := fun heq => ht (heq ▸ hu)
  exact ⟨u, by rw [Function.update_of_ne hne, hu]⟩

section

variable (h : s.Inv) {operation : Adding α} (ht : s.adding t = some operation)

include h ht

theorem Inv.mayAdd_of_adding :
    s.mayAdd t = true := by
  cases t with
  | consumer => exact h.mayAdd (by simp [ht])
  | producer n => rfl

theorem Inv.not_leaving (hins : operation.inside = true) : s.cycle ≠ .leaveCriticalSection := by
  intro hcycle
  have hdepth : 0 < depth s.adding s.cycle t := by
    simp only [depth, ht, Option.any_some, hins, if_true]
    omega
  have hconsumer : 0 < depth s.adding s.cycle .consumer := by simp [depth, hcycle, Cycle.inside]
  obtain rfl := h.guards.eq_of_pos hdepth hconsumer
  have hmay := h.mayAdd_of_adding ht
  simp [State.mayAdd, hcycle] at hmay

theorem Inv.addElement :
    (s.addElement t operation).Inv := by
  have hmay := h.mayAdd_of_adding ht
  cases operation with
  | enterCriticalSection element =>
    simp only [State.addElement]
    split
    · rename_i entered henter
      exact ⟨h.guards.enter henter (depth_update_enter (by rw [ht]; rfl) rfl) depth_update_of_ne,
        h.mayAdd_update hmay, h.drained, h.found, h.front, h.order, h.announced_update (by simp [ht])⟩
    · exact h
  | pushBack element =>
    refine ⟨h.guards.congr (depth_update_inside (by rw [ht]; rfl)), h.mayAdd_update hmay,
      fun hcycle => absurd hcycle (h.not_leaving ht rfl), fun _ => by simp [State.addElement], ?_, ?_,
      fun _ => .inr (.inl ⟨t, Function.update_self ..⟩)⟩
    · intro found hcycle
      simp [State.addElement, h.front found hcycle]
    · simp [State.addElement, h.order]
  | setEvent =>
    exact ⟨h.guards.congr (depth_update_inside (by rw [ht]; rfl)), h.mayAdd_update hmay, h.drained,
      h.found, h.front, h.order, fun _ => .inl rfl⟩
  | leaveCriticalSection =>
    exact ⟨h.guards.leave (depth_update_leave (by rw [ht]; rfl) rfl) depth_update_of_ne,
      h.mayAdd_update hmay, h.drained, h.found, h.front, h.order, h.announced_update (by simp [ht])⟩

end

theorem Inv.call (h : s.Inv) {element : α} (ht : s.adding t = none) (hmay : s.mayAdd t = true) :
    ({ s with adding := Function.update s.adding t (some (.enterCriticalSection element)) } : State α).Inv :=
  ⟨h.guards.congr (depth_update_inside (by rw [ht]; rfl)), h.mayAdd_update hmay, h.drained, h.found, h.front,
    h.order, h.announced_update (by simp [ht])⟩

end Adding

/-! ### The consumer goes on -/

theorem Inv.consume (h : s.Inv) (hidle : s.adding .consumer = none) : s.consume.Inv := by
  have hadds : ∀ {P : Prop}, s.adding .consumer ≠ none → P := fun hadds => absurd hidle hadds
  unfold State.consume
  cases hcycle : s.cycle with
  | wait =>
    dsimp only
    split
    · rename_i hsig
      exact ⟨h.guards.congr (depth_cycle_inside (by rw [hcycle]; rfl)), hadds, by simp, by simp, by simp, h.order,
        fun _ => .inl hsig⟩
    · exact h
  | resetEvent | process element =>
    exact ⟨h.guards.congr (depth_cycle_inside (by rw [hcycle]; rfl)), hadds, by simp, by simp, by simp, h.order,
      fun _ => .inr (.inr rfl)⟩
  | enterCriticalSection =>
    dsimp only
    split
    · rename_i entered henter
      refine ⟨h.guards.enter henter ?_ depth_cycle_of_ne, hadds, by simp, by simp, by simp, h.order,
        fun _ => .inr (.inr rfl)⟩
      simp [depth_consumer hidle, hcycle, Cycle.inside]
    · exact h
  | empty =>
    dsimp only
    split
    · rename_i hempty
      exact ⟨h.guards.congr (depth_cycle_inside (by rw [hcycle]; rfl)), hadds,
        fun _ => List.isEmpty_iff.mp hempty, by simp, by simp, h.order, fun _ => .inr (.inr rfl)⟩
    · rename_i hempty
      exact ⟨h.guards.congr (depth_cycle_inside (by rw [hcycle]; rfl)), hadds, by simp,
        fun _ hnil => hempty (List.isEmpty_iff.mpr hnil), by simp, h.order, fun _ => .inr (.inr rfl)⟩
  | front =>
    dsimp only
    split
    · rename_i element helement
      refine ⟨h.guards.congr (depth_cycle_inside (by rw [hcycle]; rfl)), hadds, by simp, by simp, ?_, h.order,
        fun _ => .inr (.inr rfl)⟩
      intro element' heq
      cases heq
      exact helement
    · exact h
  | popFront element =>
    obtain ⟨rest, hlist⟩ := List.head?_eq_some_iff.mp (h.front element hcycle)
    refine ⟨h.guards.congr (depth_cycle_inside (by rw [hcycle]; rfl)), hadds, by simp, by simp, by simp, ?_,
      fun _ => .inr (.inr rfl)⟩
    simp [h.order, hlist]
  | leaveCriticalSection =>
    refine ⟨h.guards.leave ?_ depth_cycle_of_ne, hadds, by simp, by simp, by simp, h.order,
      fun hlist => absurd (h.drained hcycle) hlist⟩
    simp [depth_consumer hidle, hcycle, Cycle.inside]

theorem Inv.step (h : s.Inv) (event : Event α) : (s.step event).Inv := by
  cases event with
  | call t element =>
    simp only [State.step]
    split
    · rename_i hcall
      exact h.call hcall.1 hcall.2
    · exact h
  | turn t =>
    simp only [State.step]
    split
    · rename_i operation ht
      exact h.addElement ht
    · rename_i ht
      cases t with
      | consumer => exact h.consume ht
      | producer n => exact h

theorem Inv.run (h : s.Inv) (events : List (Event α)) : (events.foldl State.step s).Inv :=
  Along.invariant (fun _ event h _ => h.step event) h (Along.of_forall (P := fun _ _ => True) fun _ _ => trivial)

end State

/-! ## Every element is reached

The rank says how many operations it takes at most until the list is shorter; the consumer's own
calls come before its loop, and a producer that is inside before the consumer.
-/

def Adding.rank : Adding α → Nat
  | .enterCriticalSection _ => 14
  | .pushBack _ => 13
  | .setEvent => 2
  | .leaveCriticalSection => 1

def Cycle.rank : Cycle α → Nat
  | .wait => 8
  | .resetEvent => 7
  | .enterCriticalSection => 6
  | .empty => 5
  | .front => 4
  | .popFront _ => 3
  | .process _ => 6
  | .leaveCriticalSection => 0

def addingRank (operation : Option (Adding α)) : Nat := (operation.map Adding.rank).getD 0

def holderRank (c : CriticalSection ThreadId) (adding : ThreadId → Option (Adding α)) : Nat :=
  match c.owner with
  | some (.producer n) => addingRank (adding (.producer n))
  | _ => 0

section Holder

variable {c : CriticalSection ThreadId} (howner : ∀ n, c.owner ≠ some (.producer n))

include howner

theorem holderRank_eq_zero (adding : ThreadId → Option (Adding α)) : holderRank c adding = 0 := by
  unfold holderRank
  split
  · rename_i n hn
    exact absurd hn (howner n)
  · rfl

theorem enter_consumer : c.enter .consumer = some ⟨some .consumer, c.recursionCount + 1⟩ := by
  unfold CriticalSection.enter
  cases hcase : c.owner with
  | none => rfl
  | some t =>
    cases t with
    | consumer => rfl
    | producer n => exact absurd hcase (howner n)

theorem leave_owner_ne (n : Nat) : c.leave.owner ≠ some (.producer n) := by
  unfold CriticalSection.leave
  split
  · simp
  · exact howner n

end Holder

namespace State

variable {s : State α} {t : ThreadId}

def rank (s : State α) : Nat :=
  10 * s.mlist.length + s.cycle.rank + addingRank (s.adding .consumer) + holderRank s.mCSection s.adding

theorem Inv.adding_of_owner (h : s.Inv) {n : Nat} (howner : s.mCSection.owner = some (.producer n)) :
    ∃ operation, s.adding (.producer n) = some operation ∧ operation.inside = true := by
  have hdepth := (h.guards.owner_iff _).mp howner
  cases hadding : s.adding (.producer n) with
  | none => simp [depth, hadding] at hdepth
  | some operation =>
    refine ⟨operation, rfl, ?_⟩
    by_contra hout
    simp [depth, hadding, hout] at hdepth

theorem step_turn {operation : Adding α} (ht : s.adding t = some operation) :
    s.step (.turn t) = s.addElement t operation := by
  simp [step, ht]

theorem step_turn_consumer (hidle : s.adding .consumer = none) : s.step (.turn .consumer) = s.consume := by
  simp [step, hidle]

theorem Inv.rank_producer (h : s.Inv) {n : Nat} (howner : s.mCSection.owner = some (.producer n)) :
    (s.step (.turn (.producer n))).rank < s.rank := by
  obtain ⟨operation, hadding, hins⟩ := h.adding_of_owner howner
  rw [step_turn hadding]
  cases operation with
  | enterCriticalSection element => cases hins
  | pushBack element =>
    simp [State.addElement, hadding, rank, holderRank, howner, addingRank, Adding.rank]
    omega
  | setEvent => simp [State.addElement, hadding, rank, holderRank, howner, addingRank, Adding.rank]
  | leaveCriticalSection =>
    have hcnt := h.guards.count _ howner
    have hleft : s.mCSection.leave.owner = none := by
      simp [CriticalSection.leave, hcnt, depth, hadding, Adding.inside]
    simp [State.addElement, hadding, rank, holderRank, howner, hleft, addingRank, Adding.rank]

theorem rank_consumer_adding (howner : ∀ n, s.mCSection.owner ≠ some (.producer n))
    {operation : Adding α} (hadding : s.adding .consumer = some operation) :
    (s.step (.turn .consumer)).rank < s.rank := by
  rw [step_turn hadding, rank, rank, holderRank_eq_zero howner]
  cases operation with
  | enterCriticalSection element =>
    simp [addElement, enter_consumer howner, hadding, holderRank, addingRank, Adding.rank]
  | pushBack element =>
    simp only [addElement, holderRank_eq_zero howner]
    simp [hadding, addingRank, Adding.rank]
    omega
  | setEvent =>
    simp only [addElement, holderRank_eq_zero howner]
    simp [hadding, addingRank, Adding.rank]
  | leaveCriticalSection =>
    simp only [addElement, holderRank_eq_zero (leave_owner_ne howner)]
    simp [hadding, addingRank, Adding.rank]

section

variable (h : s.Inv) (howner : ∀ n, s.mCSection.owner ≠ some (.producer n)) (hidle : s.adding .consumer = none)
  (hlist : s.mlist ≠ [])

include h howner hidle hlist

theorem Inv.signaled (hcycle : s.cycle.looks = false) :
    s.signaled = true := by
  rcases h.announced hlist with hsig | ⟨t, ht⟩ | hlooks
  · exact hsig
  · have hdepth : 0 < depth s.adding s.cycle t := by
      simp only [depth, ht, Option.any_some, Adding.inside, if_true]
      omega
    cases t with
    | consumer => rw [hidle] at ht; cases ht
    | producer n => exact absurd ((h.guards.owner_iff _).mpr hdepth) (howner n)
  · rw [hcycle] at hlooks
    cases hlooks

theorem Inv.rank_consumer : (s.step (.turn .consumer)).rank < s.rank := by
  rw [step_turn_consumer hidle, rank, rank, State.consume]
  cases hcycle : s.cycle with
  | wait =>
    have hsig := h.signaled howner hidle hlist (by rw [hcycle]; rfl)
    simp [hsig, Cycle.rank]
  | resetEvent | process element => simp [Cycle.rank]
  | enterCriticalSection => simp [enter_consumer howner, holderRank, Cycle.rank]
  | empty =>
    have hempty : s.mlist.isEmpty = false := by simpa using hlist
    simp [hempty, Cycle.rank]
  | front =>
    obtain ⟨element, rest, hcons⟩ := List.exists_cons_of_ne_nil hlist
    simp [hcons, Cycle.rank]
  | popFront element =>
    obtain ⟨rest, hcons⟩ := List.head?_eq_some_iff.mp (h.front element hcycle)
    simp [hcons, Cycle.rank]
    omega
  | leaveCriticalSection => exact absurd (h.drained hcycle) hlist

end

theorem Inv.exists_turn (h : s.Inv) (hlist : s.mlist ≠ []) : ∃ t, (s.step (.turn t)).rank < s.rank := by
  by_cases hproducer : ∃ n, s.mCSection.owner = some (.producer n)
  · obtain ⟨n, howner⟩ := hproducer
    exact ⟨.producer n, h.rank_producer howner⟩
  · have howner : ∀ n, s.mCSection.owner ≠ some (.producer n) := fun n heq => hproducer ⟨n, heq⟩
    cases hadding : s.adding .consumer with
    | none => exact ⟨.consumer, h.rank_consumer howner hadding hlist⟩
    | some operation => exact ⟨.consumer, rank_consumer_adding howner hadding⟩

theorem added_isPrefix_step (s : State α) (event : Event α) : s.added <+: (s.step event).added := by
  cases event with
  | call t element =>
    simp only [step]
    split <;> exact List.prefix_rfl
  | turn t =>
    simp only [step]
    split
    · rename_i operation ht
      cases operation with
      | enterCriticalSection element =>
        simp only [addElement]
        split <;> exact List.prefix_rfl
      | pushBack element => exact List.prefix_append _ _
      | setEvent | leaveCriticalSection => exact List.prefix_rfl
    · split
      · unfold consume
        split <;> (try split) <;> exact List.prefix_rfl
      · exact List.prefix_rfl

theorem Inv.drains (h : s.Inv) : ∃ turns : List ThreadId,
    s.added <+: ((turns.map Event.turn).foldl State.step s).consumed := by
  induction hrank : s.rank using Nat.strongRecOn generalizing s with
  | _ rank ih =>
    subst hrank
    by_cases hlist : s.mlist = []
    · refine ⟨[], ?_⟩
      simp [h.order, hlist]
    · obtain ⟨t, ht⟩ := h.exists_turn hlist
      obtain ⟨turns, hturns⟩ := ih _ ht (h.step _) rfl
      exact ⟨t :: turns, (added_isPrefix_step s _).trans hturns⟩

def Waiting (s : State α) : Prop := s.cycle = .wait ∧ s.adding .consumer = none

/-- In every interleaving the elements are consumed once each and in the order in which they were
added; when the consumer waits for an event that is not set although the list is not empty, a thread
is between its `push_back` and its `SetEvent`, which nothing keeps it from; and the threads can
always go on until everything added is consumed. -/
theorem consumed_once_in_order (events : List (Event α)) :
    let s := events.foldl step ({} : State α)
    s.added = s.consumed ++ s.mlist ∧
      (s.mlist ≠ [] → s.signaled = false → s.Waiting →
        ∃ t, s.adding t = some .setEvent ∧ (s.step (.turn t)).signaled = true) ∧
      ∃ turns : List ThreadId, s.added <+: ((turns.map Event.turn).foldl step s).consumed := by
  intro s
  have h : s.Inv := Inv.init.run events
  refine ⟨h.order, ?_, h.drains⟩
  rintro hlist hunset ⟨hcycle, -⟩
  rcases h.announced hlist with hsig | ⟨t, ht⟩ | hlooks
  · rw [hunset] at hsig
    cases hsig
  · exact ⟨t, ht, by rw [step_turn ht]; rfl⟩
  · rw [hcycle] at hlooks
    cases hlooks

/-- A producer has entered the critical section and appended its element; its `SetEvent` is next. -/
theorem waiting_before_setEvent :
    let s := [Event.call (.producer 0) 5, .turn (.producer 0), .turn (.producer 0)].foldl step ({} : State Nat)
    s.mlist ≠ [] ∧ s.signaled = false ∧ s.Waiting :=
  ⟨by decide, rfl, rfl, rfl⟩

end State

end FreeRDS.Utils.SignalingQueue
