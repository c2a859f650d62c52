import FreeRDS.ChannelServer.Server
import FreeRDS.Manager.System
import Mathlib.Data.List.Chain

/-! # What the plugins are told about the connection

The plugins open their channels on a connect event and close them on a disconnect event. The channel
server derives the two from successive samples of the session state and remembers one sample only. A
session that passes through `WTSConnectQuery` while it is disconnected is reported wrongly.
-/

namespace FreeRDS.ChannelServer

open Lib Manager

/-- The loop of `process_ts_events` between two iterations. -/
structure Loop where
  sessionState : ConnectState := .connected
  delivered : List WtsEvent := [.create, .connect]
  /-- Not in the source: the last sample that was connected, active or disconnected. -/
  definite : ConnectState := .connected
  deriving DecidableEq, Repr

def isDefinite : ConnectState → Bool
  | .connected | .active | .disconnected => true
  | _ => false

def isConnection : WtsEvent → Bool
  | .connect | .disconnect => true
  | _ => false

namespace Loop

def step (loop : Loop) (answer : Option ConnectState) : Loop :=
  let newSessionState := getSessionState answer
  { sessionState := newSessionState
    delivered := loop.delivered ++ stateChange loop.sessionState newSessionState
    definite := if isDefinite newSessionState then newSessionState else loop.definite }

def connections (loop : Loop) : List WtsEvent := loop.delivered.filter isConnection

/-- The plugins have been told what the sample says, and connect and disconnect events alternate. -/
structure Informed (loop : Loop) : Prop where
  connected : loop.sessionState = .connected ∨ loop.sessionState = .active →
    loop.connections.getLast? = some .connect
  disconnected : loop.sessionState = .disconnected → loop.connections.getLast? = some .disconnect
  alternate : loop.connections.IsChain (· ≠ ·)

/-- A sample that differs from the one before: connected comes after disconnected, disconnected does not, and
active comes right after disconnected or otherwise not after it, where samples in between that are none of the
three do not count. -/
def Orderly (loop : Loop) (answer : Option ConnectState) : Prop :=
  getSessionState answer ≠ loop.sessionState →
    match getSessionState answer with
    | .connected => loop.definite = .disconnected
    | .disconnected => loop.definite ≠ .disconnected
    | .active => loop.sessionState = .disconnected ∨ loop.definite ≠ .disconnected
    | _ => True

structure Inv (loop : Loop) : Prop where
  last : loop.connections.getLast? = some (if loop.definite = .disconnected then .disconnect else .connect)
  definite : isDefinite loop.sessionState = true → loop.definite = loop.sessionState

variable {loop : Loop} {answer : Option ConnectState}

theorem delivered_foldl_step (answers : List (Option ConnectState)) :
    (answers.foldl step {}).delivered = processTsEvents answers := by
  have hloop : ∀ loop : Loop,
      (answers.foldl step loop).delivered = loop.delivered ++ loopEvents loop.sessionState answers := by
    induction answers with
    | nil => exact fun loop => (List.append_nil _).symm
    | cons answer answers ih =>
      intro loop
      rw [List.foldl_cons, ih]
      simp [step, loopEvents]
  exact hloop {}

theorem connections_step :
    (loop.step answer).connections =
      loop.connections ++ (stateChange loop.sessionState (getSessionState answer)).filter isConnection := by
  simp [connections, step]

theorem alternate_append_iff {events : List WtsEvent} {last event : WtsEvent} (h : events.IsChain (· ≠ ·))
    (hlast : events.getLast? = some last) : (events ++ [event]).IsChain (· ≠ ·) ↔ last ≠ event := by
  simp [List.isChain_append, h, hlast]

theorem Inv.quiet (h : loop.Inv) (hquiet : (loop.step answer).connections = loop.connections)
    (hdefinite : isDefinite (getSessionState answer) = true →
      (getSessionState answer = .disconnected ↔ loop.definite = .disconnected)) : (loop.step answer).Inv where
  last := by
    rw [hquiet, h.last]
    simp only [step]
    split_ifs <;> simp_all
  definite hnew := if_pos hnew

theorem Inv.told (h : (loop.step answer).connections = loop.connections ++
      [if getSessionState answer = .disconnected then .disconnect else .connect])
    (hdefinite : isDefinite (getSessionState answer) = true) : (loop.step answer).Inv where
  last := by
    rw [h, List.getLast?_concat]
    simp [step, hdefinite]
  definite hnew := if_pos hnew

theorem connections_cases (hne : getSessionState answer ≠ loop.sessionState) :
    (loop.step answer).connections = loop.connections ++
      match getSessionState answer with
      | .connected => [.connect]
      | .disconnected => [.disconnect]
      | .active => if loop.sessionState = .disconnected then [.connect] else []
      | _ => [] := by
  rw [connections_step]
  unfold stateChange
  rw [if_neg hne]
  cases getSessionState answer with
  | active =>
    by_cases hold : loop.sessionState = .disconnected
    · simp only [hold, if_true]
      rfl
    · simp [hold, isConnection]
  | _ => rfl

theorem Inv.step (h : loop.Inv) (hord : loop.Orderly answer) : (loop.step answer).Inv := by
  by_cases hsame : getSessionState answer = loop.sessionState
  · refine h.quiet (by simp [connections_step, stateChange, hsame]) fun hnew => ?_
    rw [h.definite (hsame ▸ hnew), hsame]
  · have hconns := connections_cases hsame
    have hnext := hord hsame
    cases hnew : getSessionState answer <;> simp only [hnew] at hconns hnext
    case connected => exact .told (by simp [hconns, hnew]) (by simp [hnew, isDefinite])
    case disconnected => exact .told (by simp [hconns, hnew]) (by simp [hnew, isDefinite])
    case active =>
      by_cases hold : loop.sessionState = .disconnected
      · exact .told (by simp [hconns, hnew, hold]) (by simp [hnew, isDefinite])
      · refine h.quiet (by simp [hconns, hold]) fun _ => ?_
        simpa [hnew] using hnext.resolve_left hold
    all_goals exact h.quiet (by simp [hconns]) fun hdefinite => by simp [hnew, isDefinite] at hdefinite

theorem informed_step_iff (h : loop.Inv) (hloop : loop.Informed) :
    (loop.step answer).Informed ↔ loop.Orderly answer := by
  by_cases hsame : getSessionState answer = loop.sessionState
  · have hquiet : (loop.step answer).connections = loop.connections := by simp [connections_step, stateChange, hsame]
    have hstate : (loop.step answer).sessionState = loop.sessionState := hsame
    refine iff_of_true ⟨?_, ?_, ?_⟩ fun hne => absurd hsame hne
    · rw [hquiet, hstate]
      exact hloop.connected
    · rw [hquiet, hstate]
      exact hloop.disconnected
    · rw [hquiet]
      exact hloop.alternate
  · have hconns := connections_cases hsame
    have hstate : (loop.step answer).sessionState = getSessionState answer := rfl
    have hord : loop.Orderly answer ↔ _ := forall_prop_of_true hsame
    have halternate := fun event => @alternate_append_iff _ _ event hloop.alternate h.last
    rw [hord]
    cases hnew : getSessionState answer <;> simp only [hnew] at hconns hstate ⊢
    case connected =>
      have hiff := halternate .connect
      rw [← hconns] at hiff
      refine ⟨fun hinformed => by simpa using hiff.mp hinformed.alternate, fun hdefinite => ⟨?_, ?_, ?_⟩⟩
      · simp [hconns]
      · simp [hstate]
      · exact hiff.mpr (by simp [hdefinite])
    case disconnected =>
      have hiff := halternate .disconnect
      rw [← hconns] at hiff
      refine ⟨fun hinformed => by simpa using hiff.mp hinformed.alternate, fun hdefinite => ⟨?_, ?_, ?_⟩⟩
      · simp [hstate]
      · simp [hconns]
      · exact hiff.mpr (by simp [hdefinite])
    case active =>
      by_cases hold : loop.sessionState = .disconnected
      · have hiff := halternate .connect
        have hdefinite : loop.definite = .disconnected := hold ▸ h.definite (by simp [hold, isDefinite])
        rw [if_pos hold] at hconns
        rw [← hconns] at hiff
        refine iff_of_true ⟨?_, ?_, hiff.mpr (by simp [hdefinite])⟩ (.inl hold)
        · simp [hconns]
        · simp [hstate]
      · rw [if_neg hold, List.append_nil] at hconns
        refine ⟨fun hinformed => .inr ?_, fun hdefinite => ⟨fun _ => ?_, ?_, ?_⟩⟩
        · have hlast := hinformed.connected (.inr hstate)
          rw [hconns, h.last] at hlast
          simpa using hlast
        · rw [hconns, h.last, if_neg (hdefinite.resolve_left hold)]
        · simp [hstate]
        · rw [hconns]
          exact hloop.alternate
    all_goals
      refine iff_of_true ⟨by simp [hstate], by simp [hstate], ?_⟩ trivial
      rw [hconns, List.append_nil]
      exact hloop.alternate

end Loop

/-- After every iteration the plugins know whether the session is connected, and their connect and
disconnect events alternate, exactly if the samples are orderly. -/
theorem plugins_informed_iff (answers : List (Option ConnectState)) :
    (∀ j, ((answers.take j).foldl Loop.step {}).Informed) ↔ Along Loop.step Loop.Orderly {} answers := by
  have hfirst : Loop.Informed {} := ⟨fun _ => rfl, nofun, by decide⟩
  exact Along.always_iff_while (I := Loop.Inv) Loop.Informed (fun _ _ h _ => h.step)
    (fun _ _ h _ hloop => Loop.informed_step_iff h hloop) ⟨rfl, fun _ => rfl⟩ hfirst (.of_forall fun _ _ => trivial)

namespace Sample

/-- Alice disconnects and logs on at the greeter of a second connection, and freerds does not switch. -/
def failedSwitch : List Manager.Event :=
  [.startTaskExecutor, Manager.Sample.logon 1 "alice" "secret", .disconnectUser 1, Manager.Sample.logon 2 "bob" "wrong",
    .startSession Manager.Sample.answers ⟨2, some "alice", none, some "secret"⟩, .runTask, .callAnswered 1 false]

/-- The state of the session of alice after the first `j` events. -/
def sampledAfter (j : Nat) : Option ConnectState :=
  some ((System.after Manager.Sample.config (failedSwitch.take j)).manager.session 0).currentState

end Sample

/-- The session is seen active, disconnected, about to be reattached, and disconnected again: the
plugins are told twice in a row that it is disconnected. -/
theorem plugins_disconnected_twice :
    [2, 3, 5, 7].map Sample.sampledAfter = [some .active, some .disconnected, some .connectQuery, some .disconnected] ∧
    ¬∀ j, ((([2, 3, 5, 7].map Sample.sampledAfter).take j).foldl Loop.step {}).Informed := by
  refine ⟨by decide +kernel, fun h => ?_⟩
  exact absurd (h 4).alternate (by decide +kernel)

end FreeRDS.ChannelServer
