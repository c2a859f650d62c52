import Mathlib.Tactic.Common

/-! # Programs over atomic actions

A program performs one atomic action after another on a shared state and goes on
with the answer. The same program has two readings: `run` executes it with nothing
in between, and a pool of threads executes one action of one thread at a time.
-/

namespace FreeRDS.Lib

/-- The actions `Act β` on a state `σ`, each answering with a `β`. -/
class Atomic (Act : Type → Type) (σ : outParam Type) where
  exec {β : Type} : Act β → σ → β × σ

export Atomic (exec)

inductive Prog (Act : Type → Type) (α : Type) : Type 1
  | ret (value : α) : Prog Act α
  | act {β : Type} (action : Act β) (next : β → Prog Act α) : Prog Act α

namespace Prog

variable {Act : Type → Type} {σ α β γ : Type}

def bind : Prog Act α → (α → Prog Act β) → Prog Act β
  | .ret value, f => f value
  | .act action next, f => .act action fun answer => (next answer).bind f

instance : Monad (Prog Act) where
  pure := .ret
  bind := .bind

def perform (action : Act β) : Prog Act β := .act action .ret

theorem bind_bind (p : Prog Act α) (f : α → Prog Act β) (g : β → Prog Act γ) :
    (p >>= f) >>= g = p >>= fun value => f value >>= g := by
  induction p with
  | ret value => rfl
  | act action next ih => exact congrArg (Prog.act action) (funext ih)

theorem pure_bind_eq (value : α) (f : α → Prog Act β) : pure value >>= f = f value := rfl

theorem ite_bind {c : Prop} [Decidable c] (p q : Prog Act α) (f : α → Prog Act β) :
    (if c then p else q) >>= f = if c then p >>= f else q >>= f := apply_ite (· >>= f) c p q

/-- The program with every action replaced by a program of its own. -/
def translate {Op : Type → Type} (f : ∀ {β : Type}, Act β → Prog Op β) : Prog Act α → Prog Op α
  | .ret value => .ret value
  | .act action next => (f action).bind fun answer => (next answer).translate f

def peek {δ : Type} (f : ∀ {β : Type}, Act β → Option δ) : Prog Act α → Option δ
  | .ret _ => none
  | .act action _ => f action

/-! ## Execution without interruption -/

section Run

variable [Atomic Act σ]

def run : Prog Act α → σ → α × σ
  | .ret value, s => (value, s)
  | .act action next, s => (next (exec action s).1).run (exec action s).2

@[simp] theorem run_pure (value : α) (s : σ) : (pure value : Prog Act α).run s = (value, s) := rfl

@[simp] theorem run_perform (action : Act α) (s : σ) : (perform action).run s = exec action s := rfl

@[simp] theorem run_bind (p : Prog Act α) (f : α → Prog Act β) (s : σ) :
    (p >>= f).run s = (f (p.run s).1).run (p.run s).2 := by
  induction p generalizing s with
  | ret value => rfl
  | act action next ih => exact ih (exec action s).1 (exec action s).2

end Run

/-! ## Weakest preconditions

`p.wp G post s` says two things about the execution of `p` from `s`: every action
satisfies the guard `G` in the state it is executed in, and the result and the final
state satisfy `post`.
-/

section Wp

variable [Atomic Act σ]

def wp (G : ∀ {β : Type}, Act β → σ → Prop) : Prog Act α → (α → σ → Prop) → σ → Prop
  | .ret value, post, s => post value s
  | .act action next, post, s => G action s ∧ (next (exec action s).1).wp G post (exec action s).2

/-- Every action that `p` executes from `s` satisfies the guard. -/
def Checks (G : ∀ {β : Type}, Act β → σ → Prop) (p : Prog Act α) (s : σ) : Prop :=
  p.wp G (fun _ _ => True) s

variable {G : ∀ {β : Type}, Act β → σ → Prop} {post post' : α → σ → Prop} {s : σ}

instance wp.decidable [∀ {β : Type} (action : Act β) (s : σ), Decidable (G action s)]
    [∀ value s, Decidable (post value s)] : (p : Prog Act α) → (s : σ) → Decidable (p.wp G post s)
  | .ret value, s => inferInstanceAs (Decidable (post value s))
  | .act action next, s =>
    have := wp.decidable (next (exec action s).1) (exec action s).2
    inferInstanceAs (Decidable (_ ∧ _))

instance [∀ {β : Type} (action : Act β) (s : σ), Decidable (G action s)] (p : Prog Act α) (s : σ) :
    Decidable (p.Checks G s) := inferInstanceAs (Decidable (p.wp G (fun _ _ => True) s))

@[simp] theorem wp_pure (value : α) : (pure value : Prog Act α).wp G post s ↔ post value s := .rfl

@[simp] theorem wp_perform (action : Act α) :
    (perform action).wp G post s ↔ G action s ∧ post (exec action s).1 (exec action s).2 := .rfl

@[simp] theorem wp_bind (p : Prog Act β) (f : β → Prog Act α) :
    (p >>= f).wp G post s ↔ p.wp G (fun value s' => (f value).wp G post s') s := by
  induction p generalizing s with
  | ret value => rfl
  | act action next ih => exact and_congr_right fun _ => ih _

@[simp] theorem wp_ite (c : Prop) [Decidable c] (p q : Prog Act α) :
    (if c then p else q).wp G post s ↔ (c → p.wp G post s) ∧ (¬c → q.wp G post s) := by
  split <;> simp [*]

theorem wp.mono {p : Prog Act α} (h : p.wp G post s)
    (hpost : ∀ value s', post value s' → post' value s') :
    p.wp G post' s := by
  induction p generalizing s with
  | ret value => exact hpost value s h
  | act action next ih => exact ⟨h.1, ih _ h.2⟩

theorem wp.weaken {G' : ∀ {β : Type}, Act β → σ → Prop} {p : Prog Act α} (h : p.wp G post s)
    (hguard : ∀ {β : Type} (action : Act β) (s : σ), G action s → G' action s) : p.wp G' post s := by
  induction p generalizing s with
  | ret value => exact h
  | act action next ih => exact ⟨hguard action s h.1, ih _ h.2⟩

theorem wp_iff_run (p : Prog Act α) :
    p.wp G post s ↔ p.Checks G s ∧ post (p.run s).1 (p.run s).2 := by
  induction p generalizing s with
  | ret value => simp [Checks, wp, run]
  | act action next ih => simp [Checks, wp, run, ih, and_assoc]

theorem wp.and_run {p : Prog Act α} (h : p.wp G post s) :
    p.wp G (fun value s' => p.run s = (value, s') ∧ post value s') s := by
  rw [wp_iff_run] at h ⊢
  exact ⟨h.1, rfl, h.2⟩

theorem Checks.invariant {I : σ → Prop} {p : Prog Act α} (hp : p.Checks G s)
    (h : ∀ {β : Type} (action : Act β) (s : σ), G action s → I s → I (exec action s).2) (hs : I s) :
    I (p.run s).2 := by
  induction p generalizing s with
  | ret value => exact hs
  | act action next ih => exact ih _ hp.2 (h action s hp.1 hs)

theorem Checks.strengthen {G' : ∀ {β : Type}, Act β → σ → Prop} {I : σ → Prop} {p : Prog Act α}
    (hp : p.Checks G s)
    (h : ∀ {β : Type} (action : Act β) (s : σ), G action s → I s → I (exec action s).2)
    (hout : ∀ {β : Type} (action : Act β) (s : σ), G action s → I s → G' action s) (hs : I s) :
    p.Checks G' s := by
  induction p generalizing s with
  | ret value => trivial
  | act action next ih => exact ⟨hout action s hp.1 hs, ih _ hp.2 (h action s hp.1 hs)⟩

end Wp

end Prog

end FreeRDS.Lib
