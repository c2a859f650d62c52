import Mathlib.Tactic.Common

/-! # Runs of a state machine

A run is a list of events. `Along step P s events` says that `P` holds of every
state and event on the way; a fact about one step becomes a fact about every run by
the two rules below.
-/

namespace FreeRDS.Lib

variable {σ ε : Type*}

def Along (step : σ → ε → σ) (P : σ → ε → Prop) : σ → List ε → Prop
  | _, [] => True
  | s, e :: events => P s e ∧ Along step P (step s e) events

namespace Along

variable {step : σ → ε → σ} {P Q : σ → ε → Prop} {I : σ → Prop} {s : σ} {events : List ε}

instance decidable [∀ s e, Decidable (P s e)] : (s : σ) → (events : List ε) → Decidable (Along step P s events)
  | _, [] => inferInstanceAs (Decidable True)
  | s, e :: events =>
    have := decidable (step s e) events
    inferInstanceAs (Decidable (_ ∧ _))

theorem invariant (hstep : ∀ s e, I s → P s e → I (step s e)) (hs : I s)
    (h : Along step P s events) : I (events.foldl step s) := by
  induction events generalizing s with
  | nil => exact hs
  | cons e events ih => exact ih (hstep s e hs h.1) h.2

theorem of_invariant (hstep : ∀ s e, I s → P s e → I (step s e)) (hout : ∀ s e, I s → P s e → Q s e)
    (hs : I s) (h : Along step P s events) : Along step Q s events := by
  induction events generalizing s with
  | nil => trivial
  | cons e events ih => exact ⟨hout s e hs h.1, ih (hstep s e hs h.1) h.2⟩

theorem and (hP : Along step P s events) (hQ : Along step Q s events) :
    Along step (fun s e => P s e ∧ Q s e) s events := by
  induction events generalizing s with
  | nil => trivial
  | cons e events ih => exact ⟨⟨hP.1, hQ.1⟩, ih hP.2 hQ.2⟩

theorem append_iff {events' : List ε} :
    Along step P s (events ++ events') ↔ Along step P s events ∧ Along step P (events.foldl step s) events' := by
  induction events generalizing s with
  | nil => simp [Along]
  | cons e events ih => simp [Along, ih, and_assoc]

theorem of_forall (hP : ∀ s e, P s e) : Along step P s events := by
  induction events generalizing s with
  | nil => trivial
  | cons e events ih => exact ⟨hP s e, ih⟩

theorem forall_iff {R : ε → Prop} : Along step (fun _ e => R e) s events ↔ ∀ e ∈ events, R e := by
  induction events generalizing s with
  | nil => simp [Along]
  | cons e events ih => simp [Along, ih]

theorem always_of_invariant (hstep : ∀ s e, I s → P s e → I (step s e)) (hs : I s)
    (h : Along step P s events) (j : Nat) : I ((events.take j).foldl step s) := by
  induction events generalizing s j with
  | nil => simpa using hs
  | cons e events ih =>
    cases j with
    | zero => exact hs
    | succ j => exact ih (hstep s e hs h.1) h.2 j

variable (good : σ → Prop)

theorem of_always (hgood : ∀ s e, good (step s e) → Q s e)
    (h : ∀ j, good ((events.take j).foldl step s)) : Along step Q s events := by
  induction events generalizing s with
  | nil => trivial
  | cons e events ih => exact ⟨hgood s e (h 1), ih fun j => h (j + 1)⟩

theorem always_cons {e : ε} (good : σ → Prop) :
    (∀ j, good (((e :: events).take j).foldl step s)) ↔ good s ∧ ∀ j, good ((events.take j).foldl step (step s e)) := by
  rw [← Nat.and_forall_add_one]
  simp

/-- If a step from a good state leads to a good state exactly when it meets `Q`, all states of a run that
meets `P` are good exactly if all its steps meet `Q`. The invariant has to be kept by the steps that meet `Q` only. -/
theorem always_iff_while (hstep : ∀ s e, I s → P s e → Q s e → I (step s e))
    (hgood : ∀ s e, I s → P s e → good s → (good (step s e) ↔ Q s e)) (hs : I s) (hfirst : good s)
    (h : Along step P s events) :
    (∀ j, good ((events.take j).foldl step s)) ↔ Along step Q s events := by
  induction events generalizing s with
  | nil =>
    simp only [List.take_nil, List.foldl_nil, forall_const]
    exact iff_of_true hfirst trivial
  | cons e events ih =>
    rw [always_cons good]
    simp only [hfirst, true_and, Along]
    constructor
    · intro hall
      have hnext := (hgood s e hs h.1 hfirst).mp (hall 0)
      exact ⟨hnext, (ih (hstep s e hs h.1 hnext) (hall 0) h.2).mp hall⟩
    · intro hall
      have hnext := (hgood s e hs h.1 hfirst).mpr hall.1
      exact (ih (hstep s e hs h.1 hall.1) hnext h.2).mpr hall.2

theorem always_iff_of (hstep : ∀ s e, I s → P s e → I (step s e))
    (hgood : ∀ s e, I s → P s e → good s → (good (step s e) ↔ Q s e)) (hs : I s) (hfirst : good s)
    (h : Along step P s events) :
    (∀ j, good ((events.take j).foldl step s)) ↔ Along step Q s events :=
  always_iff_while good (fun s e hI hP _ => hstep s e hI hP) hgood hs hfirst h

theorem always_iff (hstep : ∀ s e, I s → I (step s e))
    (hgood : ∀ s e, I s → good s → (good (step s e) ↔ Q s e)) (hs : I s) (hfirst : good s) :
    (∀ j, good ((events.take j).foldl step s)) ↔ Along step Q s events :=
  always_iff_of good (fun s e h _ => hstep s e h) (fun s e h _ => hgood s e h) hs hfirst
    (of_forall fun _ _ => trivial)

/-- If a step that meets `R` from a state of the invariant meets `P` exactly when it meets `Q`, so does a whole
run. The invariant has to be kept by the steps that meet `Q` only. -/
theorem iff_while_of {R : σ → ε → Prop} (hstep : ∀ s e, I s → R s e → Q s e → I (step s e))
    (hout : ∀ s e, I s → R s e → (P s e ↔ Q s e)) (hs : I s) (h : Along step R s events) :
    Along step P s events ↔ Along step Q s events := by
  induction events generalizing s with
  | nil => exact .rfl
  | cons e events ih =>
    refine (and_congr_left' (hout s e hs h.1)).trans (and_congr_right fun hQ => ?_)
    exact ih (hstep s e hs h.1 hQ) h.2

theorem iff_while (hstep : ∀ s e, I s → Q s e → I (step s e)) (hout : ∀ s e, I s → (P s e ↔ Q s e))
    (hs : I s) : Along step P s events ↔ Along step Q s events :=
  iff_while_of (fun s e hI _ => hstep s e hI) (fun s e hI _ => hout s e hI) hs (of_forall fun _ _ => trivial)

theorem last_iff (hgood : ∀ s e, good s → (good (step s e) ↔ Q s e))
    (hback : ∀ s e, good (step s e) → good s) (hfirst : good s) :
    good (events.foldl step s) ↔ Along step Q s events := by
  have hfoldl : ∀ (events : List ε) (s : σ), good (events.foldl step s) → good s := by
    intro events
    induction events with
    | nil => exact fun s h => h
    | cons e events ih => exact fun s h => hback s e (ih _ h)
  induction events generalizing s with
  | nil => exact iff_of_true hfirst trivial
  | cons e events ih =>
    constructor
    · intro hlast
      have hnext := hfoldl events _ hlast
      exact ⟨(hgood s e hfirst).mp hnext, (ih hnext).mp hlast⟩
    · intro hall
      exact (ih ((hgood s e hfirst).mpr hall.1)).mpr hall.2

end Along

end FreeRDS.Lib
