import FreeRDS.Manager.Steps

/-! # A user token before a user's module

The module of a user session runs with the token of `generateUserToken`. LogonUser and
StartSession give up when there is none; the FDSAPI goes on without looking.
-/

namespace FreeRDS.Manager

open Lib Prog

def Action.starts {β : Type} : Action β → Option Ptr
  | .startModule p _ _ => some p
  | _ => none

/-- A session that is not a greeter holds a token of its account when its module is started. -/
def StartsWithToken {β : Type} (action : Action β) (m : ApplicationContext) : Prop :=
  ∀ p ∈ action.starts, (m.session p).authSession = false → (m.session p).HoldsToken

instance {β : Type} (action : Action β) (m : ApplicationContext) : Decidable (StartsWithToken action m) :=
  inferInstanceAs (Decidable (∀ p ∈ action.starts,
    (m.session p).authSession = false → (m.session p).userToken = some _))

theorem startsWithToken_of_performs {config : Config} {sys : System} {event : Event}
    (hev : ¬event.TokenDenied config sys.manager) {β : Type} (action : Action β)
    (m : ApplicationContext)
    (h : Performs config sys event action m) : StartsWithToken action m := by
  intro p hp hauth
  cases action with
  | startModule q _ _ =>
    cases hp
    exact (h.2.2 hauth).resolve_right hev
  | _ => cases hp

/-- Along every run in which no request of the FDSAPI is denied a token for the session it
creates, a user's module is only started with the token of that user. -/
theorem module_starts_with_token (config : Config) (events : List Event)
    (h : Along (System.step config) (fun sys event => ¬event.TokenDenied config sys.manager)
      System.init events) :
    Along (System.step config)
      (fun sys event => (event.handler config sys).Checks StartsWithToken (event.prepare sys))
      System.init events := by
  refine h.of_invariant (I := fun _ => True) (fun _ _ _ _ => trivial) (fun sys event _ hev => ?_) trivial
  exact (handler_performs config sys event).strengthen (I := fun _ => True) (fun _ _ _ _ => trivial)
    (fun action m hperforms _ => startsWithToken_of_performs hev action m hperforms) trivial

/-- A greeter and the session its user logs on to both start. -/
theorem module_starts_with_token_greeter :
    Along (System.step Sample.config)
      (fun sys event => (event.handler Sample.config sys).Checks StartsWithToken (event.prepare sys))
      System.init [Sample.logon 1 "alice" "wrong", Sample.fdsApiLogon 1 "alice"] :=
  module_starts_with_token Sample.config _ (by decide +kernel)

namespace Sample

/-- `LogonUserA` fails for the account that PAM has just accepted. -/
def tokenless : Answers := { answers with logonUserA := fun _ _ => false }

def tokenlessRun : List Event :=
  [logon 1 "alice" "wrong", .authenticateUser tokenless ⟨1, "alice", "secret", ""⟩]

end Sample

theorem fdsApi_starts_module_without_token :
    ¬Along (System.step Sample.config)
      (fun sys event => (event.handler Sample.config sys).Checks StartsWithToken (event.prepare sys))
      System.init Sample.tokenlessRun := by
  decide +kernel

end FreeRDS.Manager
