import FreeRDS.Lib.Prog

/-! # Threads that take turns

A pool runs programs over one shared state, one action of one thread at a time. Each
thread carries a ghost value that its own actions update. `Secures` is a weakest
precondition for a thread among others: between any two of its actions the rest of the
pool may change the state by a rely relation. A pool whose threads are all secured
executes only actions that satisfy the guard.
-/

namespace FreeRDS.Lib

namespace Prog

variable {Act : Type → Type} {α β : Type}

/-- Every action of the program, whatever the answers to the earlier ones, satisfies `P`. -/
def Every (P : ∀ {β : Type}, Act β → Prop) : Prog Act α → Prop
  | .ret _ => True
  | .act action next => P action ∧ ∀ answer, (next answer).Every P

variable {P : ∀ {β : Type}, Act β → Prop}

@[simp] theorem every_perform (action : Act α) : (perform action).Every P ↔ P action := by
  simp [perform, Every]

@[simp] theorem every_pure (value : α) : (pure value : Prog Act α).Every P ↔ True := .rfl

@[simp] theorem every_perform_bind (action : Act α) (f : α → Prog Act β) :
    (perform action >>= f).Every P ↔ P action ∧ ∀ answer, (f answer).Every P := .rfl

@[simp] theorem every_ite {c : Prop} [Decidable c] {p q : Prog Act α} :
    (if c then p else q).Every P ↔ (c → p.Every P) ∧ (¬c → q.Every P) := by
  split <;> simp_all

theorem Every.bind {p : Prog Act α} {f : α → Prog Act β} (hp : p.Every P)
    (hf : ∀ value, (f value).Every P) :
    (p >>= f).Every P := by
  induction p with
  | ret value => exact hf value
  | act action next ih => exact ⟨hp.1, fun answer => ih answer (hp.2 answer)⟩

theorem Every.of_forall (h : ∀ {β : Type} (action : Act β), P action) (p : Prog Act α) : p.Every P := by
  induction p with
  | ret value => trivial
  | act action next ih => exact ⟨h action, ih⟩

theorem Every.mono {P' : ∀ {β : Type}, Act β → Prop} {p : Prog Act α} (hp : p.Every P)
    (h : ∀ {β : Type} (action : Act β), P action → P' action) : p.Every P' := by
  induction p with
  | ret value => trivial
  | act action next ih => exact ⟨h action hp.1, fun answer => ih answer (hp.2 answer)⟩

end Prog

/-- How a thread's ghost value starts, and how an action executed in a state updates it. -/
structure Ghost (Act : Type → Type) (σ γ : Type) where
  init : γ
  update {β : Type} : γ → Act β → σ → γ

structure Thread (Act : Type → Type) (γ : Type) where
  program : Prog Act Unit
  ghost : γ

structure Pool (Act : Type → Type) (σ γ : Type) where
  shared : σ
  threads : List (Thread Act γ)

inductive PoolEvent (Act : Type → Type)
  | fork (program : Prog Act Unit)
  /-- A thread that is through with its program begins the next one. -/
  | begin (i : Nat) (program : Prog Act Unit)
  | exec (i : Nat)

section Pool

variable {Act : Type → Type} {σ γ : Type}

def Thread.done (thread : Thread Act γ) : Bool :=
  match thread.program with
  | .ret _ => true
  | .act _ _ => false

variable [Atomic Act σ] (ghost : Ghost Act σ γ)

def Thread.exec (thread : Thread Act γ) (s : σ) : Thread Act γ × σ :=
  match thread.program with
  | .ret _ => (thread, s)
  | .act action next =>
    (⟨next (Lib.exec action s).1, ghost.update thread.ghost action s⟩, (Lib.exec action s).2)

def Pool.step (pool : Pool Act σ γ) : PoolEvent Act → Pool Act σ γ
  | .fork program => { pool with threads := pool.threads ++ [⟨program, ghost.init⟩] }
  | .begin i program =>
    match pool.threads[i]? with
    | some thread =>
      if thread.done then { pool with threads := pool.threads.set i ⟨program, ghost.init⟩ } else pool
    | none => pool
  | .exec i =>
    match pool.threads[i]? with
    | some thread =>
      let done := thread.exec ghost pool.shared
      ⟨done.2, pool.threads.set i done.1⟩
    | none => pool

end Pool

/-! ## Rely and guard -/

structure Discipline (Act : Type → Type) (σ γ : Type) [Atomic Act σ] extends Ghost Act σ γ where
  rely : σ → σ → Prop
  guard {β : Type} : γ → Act β → σ → Prop
  rely_refl : ∀ s, rely s s
  rely_trans : ∀ {s s' s''}, rely s s' → rely s' s'' → rely s s''
  /-- Every action, of whatever thread, keeps to the rely relation. -/
  rely_exec : ∀ {β : Type} (action : Act β) (s : σ), rely s (Lib.exec action s).2

section Secures

variable {Act : Type → Type} {σ γ α β : Type} [Atomic Act σ] (d : Discipline Act σ γ)

namespace Prog

/-- Among threads that keep to the rely relation, every action satisfies the guard, and the end
satisfies `post`. -/
def Secures : Prog Act α → (α → γ → σ → Prop) → γ → σ → Prop
  | .ret value, post, g, s => post value g s
  | .act action next, post, g, s => ∀ s', d.rely s s' → d.guard g action s' ∧
      (next (exec action s').1).Secures post (d.update g action s') (exec action s').2

variable {d} {post post' : α → γ → σ → Prop} {g : γ} {s : σ}

theorem secures_perform (action : Act α) :
    (perform action).Secures d post g s ↔ ∀ s', d.rely s s' → d.guard g action s' ∧
      post (exec action s').1 (d.update g action s') (exec action s').2 := .rfl

theorem secures_bind (p : Prog Act β) (f : β → Prog Act α) :
    (p >>= f).Secures d post g s ↔ p.Secures d (fun value g s => (f value).Secures d post g s) g s := by
  induction p generalizing g s with
  | ret value => rfl
  | act action next ih => exact forall₂_congr fun s' _ => and_congr_right fun _ => ih _

theorem secures_ite (c : Prop) [Decidable c] (p q : Prog Act α) :
    (if c then p else q).Secures d post g s ↔ (c → p.Secures d post g s) ∧ (¬c → q.Secures d post g s) := by
  split <;> simp [*]

theorem Secures.mono {p : Prog Act α} (h : p.Secures d post g s)
    (hpost : ∀ value g s, post value g s → post' value g s) : p.Secures d post' g s := by
  induction p generalizing g s with
  | ret value => exact hpost value g s h
  | act action next ih => exact fun s' hs' => ⟨(h s' hs').1, ih _ (h s' hs').2⟩

/-- An action that owes nothing and leaves the ghost value as it is. -/
def Quiet (d : Discipline Act σ γ) {β : Type} (action : Act β) : Prop :=
  ∀ g s, d.guard g action s ∧ d.update g action s = g

theorem Every.secures {p : Prog Act α} (hp : p.Every (Quiet d))
    (hpost : ∀ value s', d.rely s s' → post value g s') : p.Secures d post g s := by
  induction p generalizing s with
  | ret value => exact hpost value s (d.rely_refl s)
  | act action next ih =>
    intro s' hs'
    obtain ⟨hguard, hupdate⟩ := hp.1 g s'
    refine ⟨hguard, ?_⟩
    rw [hupdate]
    exact ih _ (hp.2 _) fun value s'' hs'' =>
      hpost value s'' (d.rely_trans (d.rely_trans hs' (d.rely_exec action s')) hs'')

def Unguarded (d : Discipline Act σ γ) {β : Type} (action : Act β) : Prop := ∀ g s, d.guard g action s

theorem Every.secures_of_unguarded {p : Prog Act α} (hp : p.Every (Unguarded d)) :
    p.Secures d (fun _ _ _ => True) g s := by
  induction p generalizing g s with
  | ret value => trivial
  | act action next ih => exact fun s' _ => ⟨hp.1 g s', ih _ (hp.2 _)⟩

theorem Every.secures_bind {p : Prog Act β} {f : β → Prog Act α} (hp : p.Every (Quiet d))
    (hf : ∀ value s', d.rely s s' → (f value).Secures d post g s') : (p >>= f).Secures d post g s :=
  (Prog.secures_bind p f).mpr (hp.secures hf)

end Prog

/-- Whatever the others do from now on, the actions of the thread are guarded. -/
def Thread.Secured (thread : Thread Act γ) (s : σ) : Prop :=
  thread.program.Secures d (fun _ _ _ => True) thread.ghost s

def Pool.Secured (pool : Pool Act σ γ) : Prop := ∀ thread ∈ pool.threads, thread.Secured d pool.shared

def PoolEvent.program : PoolEvent Act → Option (Prog Act Unit)
  | .fork program | .begin _ program => some program
  | .exec _ => none

def PoolEvent.Secured (event : PoolEvent Act) : Prop :=
  ∀ program ∈ event.program, ∀ s, program.Secures d (fun _ _ _ => True) d.init s

end Secures

/-! ## Steps of a pool -/

section Step

variable {Act : Type → Type} {σ γ : Type} [Atomic Act σ] {pool : Pool Act σ γ}
  {event : PoolEvent Act}

theorem Pool.step_cases (ghost : Ghost Act σ γ) (pool : Pool Act σ γ) (event : PoolEvent Act) :
    (pool.step ghost event).shared = pool.shared ∧
        (∀ (j : Nat) (thread : Thread Act γ), (pool.step ghost event).threads[j]? = some thread →
          pool.threads[j]? = some thread ∨
          ∃ program ∈ event.program, thread = ⟨program, ghost.init⟩) ∨
      ∃ (i : Nat) (β : Type) (action : Act β) (next : β → Prog Act Unit) (g : γ),
        event = .exec i ∧ pool.threads[i]? = some ⟨.act action next, g⟩ ∧
        pool.step ghost event = ⟨(Lib.exec action pool.shared).2,
          pool.threads.set i ⟨next (Lib.exec action pool.shared).1, ghost.update g action pool.shared⟩⟩ := by
  cases event with
  | fork program =>
    refine .inl ⟨rfl, fun j thread h => ?_⟩
    simp only [step, List.getElem?_append] at h
    split at h
    · exact .inl h
    · refine .inr ⟨program, rfl, ?_⟩
      simp only [List.getElem?_singleton] at h
      split at h
      · exact (Option.some.inj h).symm
      · cases h
  | begin i program =>
    refine .inl ⟨?_, fun j thread h => ?_⟩
    · unfold step
      dsimp only
      split
      · split <;> rfl
      · rfl
    · unfold step at h
      dsimp only at h
      split at h
      · split at h
        · rw [List.getElem?_set] at h
          split at h
          · refine .inr ⟨program, rfl, ?_⟩
            split at h
            · exact (Option.some.inj h).symm
            · cases h
          · exact .inl h
        · exact .inl h
      · exact .inl h
  | exec i =>
    cases hi : pool.threads[i]? with
    | none =>
      have hstep : pool.step ghost (.exec i) = pool := by simp [step, hi]
      exact .inl ⟨by rw [hstep], fun j thread h => .inl (hstep ▸ h)⟩
    | some thread =>
      obtain ⟨program, g⟩ := thread
      cases program with
      | ret value =>
        refine .inl ⟨by simp [step, hi, Thread.exec], fun j thread h => .inl ?_⟩
        simp only [step, hi, Thread.exec, List.getElem?_set] at h
        split at h
        · rename_i hij
          subst hij
          split at h
          · rw [hi]
            exact h
          · cases h
        · exact h
      | act action next => exact .inr ⟨i, _, action, next, g, rfl, hi, by simp [step, hi, Thread.exec]⟩

theorem Pool.getElem?_set_cases {threads : List (Thread Act γ)} {i j : Nat}
    {moved thread : Thread Act γ}
    (h : (threads.set i moved)[j]? = some thread) :
    j = i ∧ thread = moved ∨ j ≠ i ∧ threads[j]? = some thread := by
  rw [List.getElem?_set] at h
  split at h
  · rename_i hij
    refine .inl ⟨hij.symm, ?_⟩
    split at h
    · exact (Option.some.inj h).symm
    · cases h
  · rename_i hij
    exact .inr ⟨fun hji => hij hji.symm, h⟩

variable {d : Discipline Act σ γ}

theorem Thread.Secured.rely {thread : Thread Act γ} {s s' : σ} (h : thread.Secured d s)
    (hs : d.rely s s') :
    thread.Secured d s' := by
  obtain ⟨program, g⟩ := thread
  cases program with
  | ret value => trivial
  | act action next => exact fun s'' hs'' => h s'' (d.rely_trans hs hs'')

theorem Thread.Secured.next {β : Type} {action : Act β} {next : β → Prog Act Unit} {g : γ} {s : σ}
    (h : (⟨.act action next, g⟩ : Thread Act γ).Secured d s) :
    d.guard g action s ∧
      (⟨next (Lib.exec action s).1, d.update g action s⟩ : Thread Act γ).Secured d (Lib.exec action s).2 :=
  h s (d.rely_refl s)

theorem Pool.step_secured (hpool : pool.Secured d) (hev : event.Secured d) :
    (pool.step d.toGhost event).Secured d := by
  intro thread hthr
  obtain ⟨j, hj⟩ := List.mem_iff_getElem?.mp hthr
  obtain ⟨hshared, hold⟩ | ⟨i, β, action, next, g, rfl, hi, hstep⟩ := pool.step_cases d.toGhost event
  · rw [hshared]
    rcases hold j thread hj with hsame | ⟨program, hprg, rfl⟩
    · exact hpool thread (List.mem_of_getElem? hsame)
    · exact hev program hprg pool.shared
  · rw [hstep] at hj ⊢
    rcases Pool.getElem?_set_cases hj with ⟨-, rfl⟩ | ⟨-, hsame⟩
    · exact (hpool _ (List.mem_of_getElem? hi)).next.2
    · exact (hpool thread (List.mem_of_getElem? hsame)).rely (d.rely_exec action pool.shared)

end Step

end FreeRDS.Lib
