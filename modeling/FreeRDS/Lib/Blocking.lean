import FreeRDS.Lib.Interleaving
import Mathlib.Logic.Function.Basic

/-! # Threads that wait

The operations of a thread may have to wait until another thread has moved. A protocol
says which operations a thread may execute in which phase and which phase comes next; a
machine whose threads all follow the protocol keeps every invariant of the shared state and
the phases that the permitted operations keep.
-/

namespace FreeRDS.Lib

/-- Operations that a thread `t : ι` executes on a state `σ` once they are ready. -/
class Blocking (Op : Type → Type) (ι σ : outParam Type) where
  ready {β : Type} (t : ι) (op : Op β) (s : σ) : Bool
  execute {β : Type} (t : ι) (op : Op β) (s : σ) : β × σ

export Blocking (ready execute)

/-- The phase after an operation, or `none` when the operation is not permitted. -/
structure Protocol (Op : Type → Type) (ι κ : Type) where
  move {β : Type} (t : ι) (op : Op β) (phase : κ) : Option κ

namespace Prog

variable {Act Op : Type → Type} {ι σ τ κ α β : Type}

section Follows

variable (protocol : Protocol Op ι κ) (t : ι)

/-- Whatever the answers are, every operation is permitted and the last phase satisfies `post`. -/
def Follows (post : κ → Prop) : Prog Op α → κ → Prop
  | .ret _, k => post k
  | .act op next, k => ∃ k', protocol.move t op k = some k' ∧ ∀ answer, (next answer).Follows post k'

variable {protocol t} {post post' : κ → Prop} {k k' : κ}

theorem Follows.perform {op : Op α} (h : protocol.move t op k = some k') (hpost : post k') :
    (perform op).Follows protocol t post k := ⟨k', h, fun _ => hpost⟩

theorem Follows.bind {p : Prog Op β} {f : β → Prog Op α} (hp : p.Follows protocol t post' k)
    (hf : ∀ value k', post' k' → (f value).Follows protocol t post k') :
    (p >>= f).Follows protocol t post k := by
  induction p generalizing k with
  | ret value => exact hf value k hp
  | act op next ih =>
    obtain ⟨k', hmove, hnext⟩ := hp
    exact ⟨k', hmove, fun answer => ih answer (hnext answer)⟩

theorem Follows.perform_bind {op : Op β} {f : β → Prog Op α} (h : protocol.move t op k = some k')
    (hf : ∀ value, (f value).Follows protocol t post k') :
    (Prog.perform op >>= f).Follows protocol t post k := ⟨k', h, hf⟩

theorem Follows.ite {c : Prop} [Decidable c] {p q : Prog Op α} (hp : p.Follows protocol t post k)
    (hq : q.Follows protocol t post k) : (if c then p else q).Follows protocol t post k := by
  split
  · exact hp
  · exact hq

theorem Follows.mono {p : Prog Op α} (h : p.Follows protocol t post k) (hpost : ∀ k, post k → post' k) :
    p.Follows protocol t post' k := by
  induction p generalizing k with
  | ret value => exact hpost k h
  | act op next ih =>
    obtain ⟨k', hmove, hnext⟩ := h
    exact ⟨k', hmove, fun answer => ih answer (hnext answer)⟩

theorem Every.follows {P : ∀ {β : Type}, Act β → Prop} {f : ∀ {β : Type}, Act β → Prog Op β}
    {p : Prog Act α}
    (hp : p.Every P)
    (h : ∀ {β : Type} (action : Act β) k, P action → post k → (f action).Follows protocol t post k)
    (hk : post k) :
    (p.translate f).Follows protocol t post k := by
  induction p generalizing k with
  | ret value => exact hk
  | act action next ih => exact (h action k hp.1 hk).bind fun answer k' hk' => ih answer (hp.2 answer) hk'

end Follows

section RunAs

variable [Blocking Op ι σ] (t : ι)

def runAs : Prog Op α → σ → α × σ
  | .ret value, s => (value, s)
  | .act op next, s => (next (execute t op s).1).runAs (execute t op s).2

@[simp] theorem runAs_pure (value : α) (s : σ) : (pure value : Prog Op α).runAs t s = (value, s) := rfl

@[simp] theorem runAs_bind (p : Prog Op α) (f : α → Prog Op β) (s : σ) :
    (p >>= f).runAs t s = (f (p.runAs t s).1).runAs t (p.runAs t s).2 := by
  induction p generalizing s with
  | ret value => rfl
  | act op next ih => exact ih (execute t op s).1 (execute t op s).2

@[simp] theorem runAs_ite (c : Prop) [Decidable c] (p q : Prog Op α) (s : σ) :
    (if c then p else q).runAs t s = if c then p.runAs t s else q.runAs t s := by
  split <;> rfl

theorem translate_runAs [Atomic Act τ] {f : ∀ {β : Type}, Act β → Prog Op β} {view : σ → τ}
    (h : ∀ {β : Type} (action : Act β) s, ((f action).runAs t s).1 = (exec action (view s)).1 ∧
      view ((f action).runAs t s).2 = (exec action (view s)).2) (p : Prog Act α) (s : σ) :
    ((p.translate f).runAs t s).1 = (p.run (view s)).1 ∧
      view ((p.translate f).runAs t s).2 = (p.run (view s)).2 := by
  induction p generalizing s with
  | ret value => exact ⟨rfl, rfl⟩
  | act action next ih =>
    obtain ⟨hans, hview⟩ := h action s
    have hbind := runAs_bind t (f action) (fun answer => (next answer).translate f) s
    have hnext := ih ((f action).runAs t s).1 ((f action).runAs t s).2
    rw [hview, hans] at hnext
    unfold translate run
    rw [hans] at hbind
    exact hbind ▸ hnext

end RunAs

end Prog

structure Machine (Op : Type → Type) (ι σ κ : Type) where
  shared : σ
  program : ι → Prog Op Unit
  phase : ι → κ

namespace Machine

variable {Op : Type → Type} {ι σ κ : Type} {protocol : Protocol Op ι κ} {post : ι → κ → Prop}
  {m : Machine Op ι σ κ} {t : ι}

def Follows (protocol : Protocol Op ι κ) (post : ι → κ → Prop) (m : Machine Op ι σ κ) : Prop :=
  ∀ t, (m.program t).Follows protocol t (post t) (m.phase t)

theorem Follows.next {β : Type} {op : Op β} {next : β → Prog Op Unit} (h : m.Follows protocol post)
    (hop : m.program t = .act op next) :
    ∃ k, protocol.move t op (m.phase t) = some k ∧ ∀ answer, (next answer).Follows protocol t (post t) k := by
  have ht := h t
  rw [hop] at ht
  exact ht

variable [DecidableEq ι]

def start (m : Machine Op ι σ κ) (t : ι) (p : Prog Op Unit) : Machine Op ι σ κ :=
  match m.program t with
  | .ret _ => { m with program := Function.update m.program t p }
  | .act _ _ => m

section

variable (m : Machine Op ι σ κ) (t : ι) (p : Prog Op Unit)

@[simp] theorem start_shared :
    (m.start t p).shared = m.shared := by
  unfold start
  split <;> rfl

@[simp] theorem start_phase :
    (m.start t p).phase = m.phase := by
  unfold start
  split <;> rfl

end

theorem Follows.start {p : Prog Op Unit} (h : m.Follows protocol post)
    (hp : post t (m.phase t) → p.Follows protocol t (post t) (m.phase t)) :
    (m.start t p).Follows protocol post := by
  intro t'
  unfold Machine.start
  split
  · rename_i value hdone
    have ht := h t
    rw [hdone] at ht
    by_cases heq : t' = t
    · subst heq
      simpa using hp ht
    · simpa [Function.update_of_ne heq] using h t'
  · exact h t'

/-! ### A thread executes an operation -/

variable [Blocking Op ι σ]

def advance (protocol : Protocol Op ι κ) (m : Machine Op ι σ κ) (t : ι) : Machine Op ι σ κ :=
  match m.program t with
  | .ret _ => m
  | .act op next =>
    if ready t op m.shared then
      { shared := (execute t op m.shared).2
        program := Function.update m.program t (next (execute t op m.shared).1)
        phase := Function.update m.phase t ((protocol.move t op (m.phase t)).getD (m.phase t)) }
    else m

theorem advance_of_ready {β : Type} {op : Op β} {next : β → Prog Op Unit}
    (hop : m.program t = .act op next)
    (hready : ready t op m.shared = true) :
    m.advance protocol t =
      { shared := (execute t op m.shared).2
        program := Function.update m.program t (next (execute t op m.shared).1)
        phase := Function.update m.phase t ((protocol.move t op (m.phase t)).getD (m.phase t)) } := by
  unfold advance
  rw [hop]
  exact if_pos hready

theorem advance_cases (protocol : Protocol Op ι κ) (m : Machine Op ι σ κ) (t : ι) :
    m.advance protocol t = m ∨
      ∃ (β : Type) (op : Op β) (next : β → Prog Op Unit),
        m.program t = .act op next ∧ ready t op m.shared = true := by
  cases hop : m.program t with
  | ret value => exact .inl (by unfold advance; rw [hop])
  | act op next =>
    by_cases hready : ready t op m.shared = true
    · exact .inr ⟨_, op, next, rfl, hready⟩
    · refine .inl ?_
      unfold advance
      rw [hop]
      exact if_neg hready

theorem Follows.advance (h : m.Follows protocol post) (t : ι) :
    (m.advance protocol t).Follows protocol post := by
  obtain hwaits | ⟨β, op, next, hop, hready⟩ := m.advance_cases protocol t
  · exact hwaits.symm ▸ h
  · obtain ⟨k, hmove, hnext⟩ := h.next hop
    rw [advance_of_ready hop hready, hmove]
    intro t'
    by_cases heq : t' = t
    · subst heq
      simpa using hnext _
    · simpa [Function.update_of_ne heq] using h t'

theorem Follows.invariant {I : σ → (ι → κ) → Prop} (h : m.Follows protocol post)
    (hI : I m.shared m.phase)
    (hkeeps : ∀ {β : Type} (op : Op β) (next : β → Prog Op Unit) (k : κ), m.program t = .act op next →
      ready t op m.shared = true → protocol.move t op (m.phase t) = some k →
      I (execute t op m.shared).2 (Function.update m.phase t k)) :
    I (m.advance protocol t).shared (m.advance protocol t).phase := by
  obtain hwaits | ⟨β, op, next, hop, hready⟩ := m.advance_cases protocol t
  · rw [hwaits]
    exact hI
  · obtain ⟨k, hmove, -⟩ := h.next hop
    rw [advance_of_ready hop hready, hmove]
    exact hkeeps op next k hop hready hmove

end Machine

end FreeRDS.Lib
