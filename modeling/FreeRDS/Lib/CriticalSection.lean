import Mathlib.Tactic.Common

/-! # Critical sections

A lock that its owner may enter again. How often each thread is inside is a function of where the
threads are; `Guards` ties the lock to it, and entering and leaving keep the tie.
-/

namespace FreeRDS.Lib

structure CriticalSection (ι : Type) where
  owner : Option ι := none
  recursionCount : Nat := 0

namespace CriticalSection

variable {ι : Type}

/-- `none` when the thread has to wait. -/
def enter [DecidableEq ι] (c : CriticalSection ι) (t : ι) : Option (CriticalSection ι) :=
  if c.owner = none ∨ c.owner = some t then some ⟨some t, c.recursionCount + 1⟩ else none

def leave (c : CriticalSection ι) : CriticalSection ι :=
  if c.recursionCount ≤ 1 then ⟨none, 0⟩ else ⟨c.owner, c.recursionCount - 1⟩

/-- `depth t` is how often thread `t` is inside. -/
structure Guards (c : CriticalSection ι) (depth : ι → Nat) : Prop where
  owner_iff : ∀ t, c.owner = some t ↔ 0 < depth t
  count : ∀ t, c.owner = some t → c.recursionCount = depth t
  free : c.owner = none → c.recursionCount = 0

namespace Guards

variable {c c' : CriticalSection ι} {depth depth' : ι → Nat} {t u : ι}

theorem eq_of_pos (h : c.Guards depth) (ht : 0 < depth t) (hu : 0 < depth u) : t = u := by
  have hown := (h.owner_iff t).mpr ht
  rw [(h.owner_iff u).mpr hu] at hown
  exact (Option.some.inj hown).symm

theorem enter [DecidableEq ι] (h : c.Guards depth) (henter : c.enter t = some c') (ht : depth' t = depth t + 1)
    (hother : ∀ u, u ≠ t → depth' u = depth u) : c'.Guards depth' := by
  unfold CriticalSection.enter at henter
  split at henter
  · rename_i hready
    cases henter
    -- nobody else is inside
    have hout : ∀ u, u ≠ t → depth u = 0 := by
      intro u hu
      by_contra hpos
      have hown := (h.owner_iff u).mpr (Nat.pos_of_ne_zero hpos)
      rcases hready with hready | hready <;> rw [hown] at hready
      · cases hready
      · exact hu (Option.some.inj hready)
    have hcnt : c.recursionCount = depth t := by
      rcases hready with hready | hready
      · have hzero : ¬0 < depth t := by
          intro hpos
          rw [(h.owner_iff t).mpr hpos] at hready
          cases hready
        rw [h.free hready]
        omega
      · exact h.count t hready
    refine ⟨?_, ?_, fun hnone => by cases hnone⟩
    · intro u
      by_cases hu : u = t
      · subst hu
        exact iff_of_true rfl (by omega)
      · refine iff_of_false (fun heq => hu (Option.some.inj heq).symm) ?_
        rw [hother u hu, hout u hu]
        exact Nat.lt_irrefl 0
    · intro u hu
      cases hu
      simp [ht, hcnt]
  · cases henter

theorem leave (h : c.Guards depth) (ht : depth t = depth' t + 1) (hother : ∀ u, u ≠ t → depth' u = depth u) :
    c.leave.Guards depth' := by
  have hown := (h.owner_iff t).mpr (by omega)
  have hcnt := h.count t hown
  have hout : ∀ u, u ≠ t → depth' u = 0 := by
    intro u hu
    rw [hother u hu]
    by_contra hpos
    exact hu (h.eq_of_pos (Nat.pos_of_ne_zero hpos) (by omega))
  unfold CriticalSection.leave
  split
  · refine ⟨fun u => iff_of_false (fun hnone => by cases hnone) ?_, (fun u hu => by cases hu), fun _ => rfl⟩
    by_cases hu : u = t
    · subst hu
      omega
    · rw [hout u hu]
      exact Nat.lt_irrefl 0
  · refine ⟨fun u => ?_, fun u hu => ?_, fun hnone => ?_⟩
    · by_cases hu : u = t
      · subst hu
        exact iff_of_true hown (by omega)
      · refine iff_of_false (fun heq => ?_) (by rw [hout u hu]; exact Nat.lt_irrefl 0)
        rw [hown] at heq
        exact hu (Option.some.inj heq).symm
    · rw [hown] at hu
      cases hu
      simp only
      omega
    · rw [hown] at hnone
      cases hnone

theorem congr (h : c.Guards depth) (heq : ∀ u, depth' u = depth u) : c.Guards depth' :=
  (funext heq : depth' = depth) ▸ h

end Guards

end CriticalSection

end FreeRDS.Lib
