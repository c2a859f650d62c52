import FreeRDS.Manager.Steps

/-! # What a logon is reattached to

The reattach search looks at the user name, the domain and the connect state. Two facts
about the connect state decide what it can find: which greeters become disconnected, and
which sessions without a module do.
-/

namespace FreeRDS.Manager

open Lib Prog

variable {config : Config} {sys : System} {event : Event}

/-! ## Greeters -/

def Session.NotWaiting (session : Session) : Prop :=
  session.authSession = true → session.currentState ≠ .disconnected ∧ session.currentState ≠ .connectQuery

variable (m : ApplicationContext)

def Event.DisconnectsGreeter (event : Event) : Prop :=
  ∃ p ∈ event.disconnects m, (m.session p).authSession = true

instance (m : ApplicationContext) (event : Event) : Decidable (event.DisconnectsGreeter m) :=
  inferInstanceAs (Decidable (∃ p ∈ event.disconnects m, _))

theorem Session.Same.authSession {s s' : Session} (h : s.Same s') : s'.authSession = s.authSession :=
  congrArg (·.2.2) h.account

theorem SessionChange.notWaiting (hev : ¬event.DisconnectsGreeter sys.manager) {p : Ptr}
    {s s' : Session}
    (h : SessionChange config sys event p s s') (hs : s.NotWaiting) : s'.NotWaiting := by
  intro hauth
  cases h with
  | keep same state =>
    rw [state]
    exact hs (same.authSession ▸ hauth)
  | setUp _ _ state' | start _ _ state' | stop _ _ state' => simp [state']
  | activate _ _ _ state' => rcases state' with state' | state' <;> simp [state']
  | reattach _ same state => exact absurd state (hs (same.authSession ▸ hauth)).1
  | disconnect cause untouched same =>
    rw [same.authSession, untouched] at hauth
    exact absurd ⟨p, cause, hauth⟩ hev
  | rollBack same state => exact absurd state (hs (same.authSession ▸ hauth)).2

def Action.search {β : Type} : Action β → Option (String × String)
  | .getFirstDisconnectedSessionUserName username domain => some (username, domain)
  | _ => none

def FindsUserSession {β : Type} (action : Action β) (m : ApplicationContext) : Prop :=
  ∀ account ∈ action.search,
    ∀ p ∈ m.sessionStore.getFirstDisconnectedSessionUserName account.1 account.2,
      (m.session p).authSession = false

instance {β : Type} (action : Action β) (m : ApplicationContext) : Decidable (FindsUserSession action m) :=
  inferInstanceAs (Decidable (∀ account ∈ action.search,
    ∀ p ∈ m.sessionStore.getFirstDisconnectedSessionUserName account.1 account.2, _))

theorem findsUserSession {m : ApplicationContext} (hm : ∀ p, (m.session p).NotWaiting) {β : Type}
    (action : Action β) : FindsUserSession action m := by
  intro account _ p hp
  have hstate := (SessionStore.getFirstDisconnectedSessionUserName_some hp).2.2.2
  exact Bool.eq_false_iff.mpr fun hauth => (hm p hauth).1 hstate

/-- Along every run in which no connection is disconnected while it shows a greeter, every
search for a session to reattach answers with a user session. -/
theorem greeter_never_reattached (config : Config) (events : List Event)
    (h : Along (System.step config) (fun sys event => ¬event.DisconnectsGreeter sys.manager)
      System.init events) :
    Along (System.step config)
      (fun sys event => (event.handler config sys).Checks FindsUserSession (event.prepare sys))
      System.init events := by
  refine h.of_invariant (I := fun sys => ∀ p, (sys.manager.session p).NotWaiting) ?_ ?_ (fun p => nofun)
  · intro sys event hsys hev
    exact System.step_sessions (fun id => nofun) (fun p s s' hchange => hchange.notWaiting hev) hsys
  · intro sys event hsys hev
    refine (handler_performs config sys event).strengthen (I := fun m => ∀ p, (m.session p).NotWaiting)
      (Performs.sessions (fun id => nofun) fun p s s' hchange => hchange.notWaiting hev)
      (fun action m _ hm => findsUserSession hm action) ?_
    simpa [event.session_prepare] using hsys

/-- A disconnected user session is found again. -/
theorem greeter_never_reattached_user :
    Along (System.step Sample.config)
      (fun sys event => (event.handler Sample.config sys).Checks FindsUserSession (event.prepare sys))
      System.init [Sample.logon 1 "alice" "secret", .disconnectUser 1, Sample.logon 2 "alice" "secret"] :=
  greeter_never_reattached Sample.config _ (by decide +kernel)

/-- A greeter shown to alice is disconnected and given to the next logon of alice. -/
theorem greeter_reattached_after_disconnect :
    ¬Along (System.step Sample.config)
      (fun sys event => (event.handler Sample.config sys).Checks FindsUserSession (event.prepare sys))
      System.init [Sample.logon 1 "alice" "wrong", .disconnectUser 1, Sample.logon 2 "alice" "secret"] := by
  decide +kernel

/-! ## Sessions without a module -/

def Session.Served (session : Session) : Prop :=
  session.currentState = .active ∨ session.currentState = .disconnected ∨
    session.currentState = .connectQuery → session.HasModule

/-- The event marks a session disconnected that has no module, such as one whose start failed. -/
def Event.DisconnectsUnserved (event : Event) : Prop :=
  ∃ p ∈ event.disconnects m, ¬(m.session p).HasModule

instance (m : ApplicationContext) (event : Event) : Decidable (event.DisconnectsUnserved m) :=
  inferInstanceAs (Decidable (∃ p ∈ event.disconnects m, _))

theorem SessionChange.served (hev : ¬event.DisconnectsUnserved sys.manager) {p : Ptr}
    {s s' : Session}
    (h : SessionChange config sys event p s s') (hs : s.Served) : s'.Served := by
  intro hstate
  cases h with
  | keep same state =>
    rw [state] at hstate
    exact same.hasModule.mpr (hs hstate)
  | setUp _ _ state' | stop _ _ state' => simp [state'] at hstate
  | start _ _ _ started => exact started
  | activate _ same started => exact same.hasModule.mpr started
  | reattach _ same state => exact same.hasModule.mpr (hs (.inr (.inl state)))
  | disconnect cause untouched same =>
    refine same.hasModule.mpr (untouched ▸ ?_)
    by_contra hmod
    exact hev ⟨p, cause, hmod⟩
  | rollBack same state => exact same.hasModule.mpr (hs (.inr (.inr state)))

/-- Each active or disconnected session in the store has a started module and a pipe. -/
def ApplicationContext.EndpointsReady : Prop :=
  ∀ id p, m.sessionStore.getSession id = some p →
    (m.session p).currentState = .disconnected ∨ (m.session p).currentState = .active → (m.session p).HasModule

/-- Every state reached by a run that marks no session without a module disconnected. -/
theorem endpoints_ready (config : Config) (events : List Event)
    (h : Along (System.step config) (fun sys event => ¬event.DisconnectsUnserved sys.manager)
      System.init events) : (System.after config events).manager.EndpointsReady := by
  have hserved : ∀ p, ((System.after config events).manager.session p).Served := by
    refine h.invariant (I := fun sys => ∀ p, (sys.manager.session p).Served) ?_ ?_
    · intro sys event hsys hev
      exact System.step_sessions (fun id => by simp [Session.Served])
        (fun p s s' hchange => hchange.served hev) hsys
    · exact fun p hstate => by rcases hstate with hstate | hstate | hstate <;> cases hstate
  intro id p _ hstate
  exact hserved p (hstate.elim (fun h => .inr (.inl h)) .inl)

/-- A session is disconnected by request and again by the loss of freerds. -/
theorem endpoints_ready_twice : (System.after Sample.config
    [Sample.logon 1 "alice" "secret", .disconnectUser 1, Sample.logon 2 "alice" "secret",
      .rpcDisconnected]).manager.EndpointsReady :=
  endpoints_ready Sample.config _ (by decide +kernel)

/-- The module of the first logon does not start, and its session is disconnected all the same. -/
def Sample.failedStart : List Event :=
  [.logonUser { answers with start := fun _ _ => none } (logonRequest 1 "alice" "secret"), .disconnectUser 1]

theorem disconnected_without_endpoint :
    ¬(System.after Sample.config Sample.failedStart).manager.EndpointsReady := by
  intro h
  have hmod := h 1 0 (by decide +kernel) (by decide +kernel)
  revert hmod
  decide +kernel

end FreeRDS.Manager
