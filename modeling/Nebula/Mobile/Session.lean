import Nebula.Runs
import Nebula.Work

/-!
# The session the app holds

Restores, sign-ins, token refreshes and sign-outs of `AuthNotifier` go on after each `await` without
a look at what the others did meanwhile.

A session is the number of the sign-in it comes from; its tokens replace each other. A write to the
token store is in effect from the call on. The account of a session, `me`, is loaded once the
session is held. That one refresh runs at a time is left to the events.
-/

namespace Nebula.Mobile.Sessions

open Work Runs Option

abbrev Session := Nat

inductive AuthState where
  | authenticating
  | unauthenticated
  | unreachable
  | sessionExpired
  /-- `me` is the account of the session it was loaded for. -/
  | authenticated (session : Session) (me : Option Session)
  deriving DecidableEq

def AuthState.session : AuthState → Option Session
  | .authenticated session _ => some session
  | _ => none

/-- `copyWith(me: me)`, if the state is `AuthAuthenticated`. -/
def AuthState.load (me : Session) : AuthState → AuthState
  | .authenticated session _ => .authenticated session (some me)
  | state => state

/-- Whose tokens are written; a refresh goes on with the state it began in. -/
inductive Writer where
  | restore
  | login
  | refreshSession (me : Option Session)
  deriving DecidableEq

def Writer.me : Writer → Option Session
  | .refreshSession me => me
  | _ => none

/-- What a flow waits for. `_forgetSession` clears the token store before the others; a restore goes
on in `_loadMe`, which nobody awaits. -/
inductive Await where
  | readRefreshToken
  | restore (session : Session)
  | refreshSession (session : Session) (me : Option Session)
  | login
  | writeRefreshToken (session : Session) (writer : Writer)
  | loadMe (session : Session)
  | writeDeviceId (session : Session)
  | forgetSession (signsOut : Bool) (final : AuthState)

inductive Answer where
  | granted (writes : Bool)
  | rejected (clears : Bool)
  | failed

/-- What the last sign-in or sign-out has settled, until the next writes or the server rejects a
token. -/
inductive Settled where
  | nothing
  | signedOut
  | signedIn (session : Session)
  deriving DecidableEq

def Settled.reject (session : Session) (settled : Settled) : Settled :=
  if settled = .signedIn session then .nothing else settled

structure App where
  state : AuthState
  stored : Option Session
  nextSession : Session
  flows : Pool Await
  settled : Settled

inductive Event where
  | restore
  | login
  | refreshSession
  | logout (clears : Bool)
  | goOn (number : Nat) (answer : Answer)

namespace App

variable (app : App)

def forgetSession (clears signsOut : Bool) (settled : Settled) (final : AuthState) :
    App × Option Await :=
  if clears then
    ({ app with stored := none, settled := settled }, some (.forgetSession signsOut final))
  else (app, none)

def react : Await → Answer → App × Option Await
  | .readRefreshToken, .granted _ =>
    match app.stored with
    | none => ({ app with state := .unauthenticated }, none)
    | some session => (app, some (.restore session))
  | .restore session, .granted true =>
    ({ app with stored := some session }, some (.writeRefreshToken session .restore))
  | .refreshSession session me, .granted true =>
    ({ app with stored := some session }, some (.writeRefreshToken session (.refreshSession me)))
  | .restore session, .rejected clears =>
    app.forgetSession clears false (app.settled.reject session) .unauthenticated
  | .refreshSession session _, .rejected clears =>
    app.forgetSession clears false (app.settled.reject session) .sessionExpired
  | .restore _, .granted false | .restore _, .failed => ({ app with state := .unreachable }, none)
  | .login, .granted true =>
    ({ app with
        stored := some app.nextSession
        nextSession := app.nextSession + 1
        settled := .nothing },
      some (.writeRefreshToken app.nextSession .login))
  | .writeRefreshToken session writer, _ =>
    ({ app with
        state := .authenticated session writer.me
        settled := if writer = .login then .signedIn session else app.settled },
      match writer with
      | .restore | .login => some (.loadMe session)
      | .refreshSession _ => none)
  | .loadMe session, .granted _ => (app, some (.writeDeviceId session))
  | .writeDeviceId session, .granted _ => ({ app with state := app.state.load session }, none)
  | .forgetSession signsOut final, _ =>
    ({ app with
        state := final
        settled := if signsOut then .signedOut else app.settled }, none)
  | _, _ => (app, none)

end App

variable (app : App)

def step : Event → Option App
  | .restore =>
    if app.state = .authenticating ∨ app.state = .unreachable then
      some { app with flows := app.flows.begin .readRefreshToken }
    else none
  | .login => some { app with flows := app.flows.begin .login }
  | .refreshSession =>
    match app.state with
    | .authenticated session me =>
      some { app with flows := app.flows.begin (.refreshSession session me) }
    | _ => none
  | .logout clears =>
    let forgot := app.forgetSession clears true .nothing .unauthenticated
    some { forgot.1 with flows := forgot.2.elim app.flows app.flows.begin }
  | .goOn number answer =>
    (app.flows.find number).map fun waiting =>
      let reacted := app.react waiting answer
      { reacted.1 with flows := app.flows.resume number reacted.2 }

def AuthState.Holds (state : AuthState) (session : Session) : Prop :=
  state = .authenticated session none ∨ state = .authenticated session (some session)
  deriving Decidable

/-- Nothing is held after a sign-out, and after a sign-in its own session and account. -/
def Final : Prop :=
  match app.settled with
  | .nothing => True
  | .signedOut => app.state.session = none ∧ app.stored = none
  | .signedIn session => app.state.Holds session ∧ app.stored = some session

instance : Decidable (Final app) := by
  unfold Final
  split <;> infer_instance

def BegunAlone : Event → Prop
  | .goOn _ _ => True
  | _ => app.flows.jobs = []

instance (event : Event) : Decidable (BegunAlone app event) := by
  unfold BegunAlone
  split <;> infer_instance

def Fits : Await → Prop
  | .readRefreshToken => ∀ session, app.settled ≠ .signedIn session
  | .login => True
  | .restore _ => app.settled = .nothing
  | .refreshSession session me => app.settled = .nothing ∨
    app.settled = .signedIn session ∧ (AuthState.authenticated session me).Holds session
  | .writeRefreshToken session writer => app.stored = some session ∧ (app.settled = .nothing ∨
    app.settled = .signedIn session ∧ (AuthState.authenticated session writer.me).Holds session)
  | .loadMe session | .writeDeviceId session =>
    app.settled = .nothing ∨ app.settled = .signedIn session
  | .forgetSession _ final =>
    app.settled = .nothing ∧ app.stored = none ∧ final.session = none

structure Held : Prop where
  alone : ∀ one ∈ app.flows.jobs, ∀ other ∈ app.flows.jobs, one.1 = other.1
  fits : ∀ flow ∈ app.flows.jobs, Fits app flow.2
  final : Final app

section

variable {app : App}

theorem forgetSession_spec (clears signsOut : Bool) {final : AuthState}
    (nobody : final.session = none) (kept : Final app) :
    Final (app.forgetSession clears signsOut .nothing final).1 ∧
      ∀ later ∈ (app.forgetSession clears signsOut .nothing final).2,
        Fits (app.forgetSession clears signsOut .nothing final).1 later := by
  cases clears with
  | false => exact ⟨kept, by simp [App.forgetSession]⟩
  | true => exact ⟨trivial, by simp [App.forgetSession, Fits, nobody]⟩

theorem load_holds {state : AuthState} {session : Session} (holds : state.Holds session) :
    (state.load session).Holds session := by
  rcases holds with rfl | rfl <;> exact Or.inr rfl

theorem final_nothing (settled : app.settled = .nothing) : Final app := by
  simp only [Final, settled]

theorem final_of_holds {session : Session} (settled : app.settled = .signedIn session)
    (holds : app.state.Holds session) (stored : app.stored = some session) : Final app := by
  simpa only [Final, settled] using ⟨holds, stored⟩

theorem Final.holds (kept : Final app) {session : Session}
    (settled : app.settled = .signedIn session) :
    app.state.Holds session ∧ app.stored = some session := by
  simpa only [Final, settled] using kept

theorem readRefreshToken_spec (kept : Final app)
    (unsettled : ∀ session, app.settled ≠ .signedIn session) (writes : Bool) :
    Final (app.react .readRefreshToken (.granted writes)).1 ∧
      ∀ later ∈ (app.react .readRefreshToken (.granted writes)).2,
        Fits (app.react .readRefreshToken (.granted writes)).1 later := by
  simp only [App.react]
  cases settled : app.settled with
  | signedIn session => exact absurd settled (unsettled session)
  | signedOut =>
    have out : app.state.session = none ∧ app.stored = none := by simpa [Final, settled] using kept
    simp [out.2, Final, AuthState.session]
  | nothing => cases app.stored <;> simp [Final, Fits, settled]

theorem writeRefreshToken_spec {session : Session} {writer : Writer}
    (fits : Fits app (.writeRefreshToken session writer)) (answer : Answer) :
    Final (app.react (.writeRefreshToken session writer) answer).1 ∧
      ∀ later ∈ (app.react (.writeRefreshToken session writer) answer).2,
        Fits (app.react (.writeRefreshToken session writer) answer).1 later := by
  obtain ⟨stored, settled⟩ := fits
  cases writer with
  | login => exact ⟨⟨Or.inl rfl, stored⟩, by simp [App.react, Fits]⟩
  | restore | refreshSession =>
    rcases settled with nothing | ⟨signedIn, holds⟩
    · exact ⟨final_nothing nothing, by simp [App.react, Fits, nothing]⟩
    · exact ⟨final_of_holds signedIn holds stored, by simp [App.react, Fits, signedIn]⟩

theorem react_spec (kept : Final app) {waiting : Await} (fits : Fits app waiting)
    (answer : Answer) :
    Final (app.react waiting answer).1 ∧
      ∀ later ∈ (app.react waiting answer).2, Fits (app.react waiting answer).1 later := by
  have stays : Final app ∧ ∀ later ∈ (none : Option Await), Fits app later := ⟨kept, nofun⟩
  cases waiting with
  | readRefreshToken =>
    cases answer with
    | granted writes => exact readRefreshToken_spec kept fits writes
    | rejected | failed => exact stays
  | restore session =>
    have nothing : app.settled = .nothing := fits
    rcases answer with (_ | _) | clears | _
    · exact ⟨final_nothing nothing, nofun⟩
    · exact ⟨final_nothing nothing, by simp [App.react, Fits, nothing]⟩
    · simpa [App.react, nothing, Settled.reject] using forgetSession_spec clears false rfl kept
    · exact ⟨final_nothing nothing, nofun⟩
  | refreshSession session me =>
    rcases answer with (_ | _) | clears | _
    · exact stays
    · refine ⟨?_, fun later goesOn => some.inj goesOn ▸ ⟨rfl, fits⟩⟩
      rcases fits with nothing | ⟨signedIn, _⟩
      · exact final_nothing nothing
      · exact final_of_holds signedIn (kept.holds signedIn).1 rfl
    · -- the server rejects the token of the session that is held
      have cleared : app.settled.reject session = .nothing := by
        rcases fits with nothing | ⟨signedIn, _⟩ <;> simp [Settled.reject, *]
      simpa [App.react, cleared] using forgetSession_spec clears false rfl kept
    · exact stays
  | login =>
    rcases answer with (_ | _) | _ | _
    · exact stays
    · exact ⟨trivial, by simp [App.react, Fits]⟩
    · exact stays
    · exact stays
  | writeRefreshToken session writer => exact writeRefreshToken_spec fits answer
  | loadMe session =>
    cases answer with
    | granted => exact ⟨kept, fun later goesOn => some.inj goesOn ▸ fits⟩
    | rejected | failed => exact stays
  | writeDeviceId session =>
    cases answer with
    | granted =>
      refine ⟨?_, nofun⟩
      rcases fits with nothing | signedIn
      · exact final_nothing nothing
      · obtain ⟨holds, stored⟩ := kept.holds signedIn
        exact final_of_holds signedIn (load_holds holds) stored
    | rejected | failed => exact stays
  | forgetSession signsOut final =>
    obtain ⟨nothing, stored, nobody⟩ := fits
    refine ⟨?_, nofun⟩
    cases signsOut with
    | false => exact final_nothing nothing
    | true => exact ⟨nobody, stored⟩

theorem Held.begin (none : app.flows.jobs = []) {next : App} (kept : Final next) (waiting : Await)
    (flows : next.flows = app.flows.begin waiting) (fits : Fits next waiting) : Held next := by
  have only : ∀ flow ∈ next.flows.jobs, flow = (app.flows.nextId, waiting) := by
    simp [flows, Pool.begin, none]
  refine ⟨fun one first other second => ?_, fun flow member => ?_, kept⟩
  · rw [only one first, only other second]
  · rw [only flow member]
    exact fits

theorem step_held {event : Event} {next : App} (held : Held app) (alone : BegunAlone app event)
    (taken : step app event = some next) : Held next := by
  cases event with
  | restore =>
    obtain ⟨trying, same⟩ := ite_none_right_eq_some.mp taken
    cases same
    refine .begin alone held.final .readRefreshToken rfl ?_
    intro session (settled : app.settled = .signedIn session)
    have holds := (held.final.holds settled).1
    rcases trying with state | state <;> simp [AuthState.Holds, state] at holds
  | login =>
    cases taken
    exact .begin alone held.final .login rfl trivial
  | refreshSession =>
    simp only [step] at taken
    split at taken
    · rename_i session me state
      cases taken
      refine .begin alone held.final (.refreshSession session me) rfl ?_
      cases settled : app.settled with
      | nothing => exact Or.inl rfl
      | signedOut => simpa [Final, settled, state, AuthState.session] using held.final
      | signedIn own =>
        have holds := (held.final.holds settled).1
        rw [state] at holds
        have same : session = own := by rcases holds with same | same <;> cases same <;> rfl
        exact Or.inr ⟨same ▸ rfl, same ▸ holds⟩
    · cases taken
  | logout clears =>
    cases taken
    obtain ⟨kept, fits⟩ := forgetSession_spec clears true
      (rfl : AuthState.unauthenticated.session = none) held.final
    cases clears with
    | false => exact { held with }
    | true => exact .begin alone kept _ rfl (fits _ rfl)
  | goOn number answer =>
    obtain ⟨waiting, found, rfl⟩ := map_eq_some_iff.mp taken
    have own := app.flows.find_mem number waiting found
    obtain ⟨kept, fits⟩ := react_spec held.final (held.fits _ own) answer
    have only : ∀ flow ∈ (app.flows.resume number (app.react waiting answer).2).jobs,
        flow.1 = number ∧ flow.2 ∈ (app.react waiting answer).2 := by
      intro flow member
      rcases app.flows.mem_resume number member with ⟨old, other⟩ | new
      · exact absurd (held.alone flow old _ own) other
      · exact new
    refine ⟨fun one first other second => ?_, fun flow member => ?_, kept⟩
    · rw [(only one first).1, (only other second).1]
    · exact fits _ (only flow member).2

end

def App.begun (stored : Option Session) (nextSession : Session) : App where
  state := .authenticating
  stored := stored
  nextSession := nextSession
  flows := .empty
  settled := .nothing

/-- Sign-outs and sign-ins are final, in every run in which each flow begins while none is under
way. -/
theorem signOut_and_signIn_final (stored : Option Session) (nextSession : Session)
    (events : List Event) (alone : RunMeets step BegunAlone events (.begun stored nextSession)) :
    AlwaysAlong step Final events (.begun stored nextSession) := by
  refine alwaysAlong_of_invariant Held Final ?_ (fun _ held => held.final) ?_ alone
  · intro app event next held alone taken
    exact step_held held alone taken
  · exact ⟨List.forall_mem_nil _, List.forall_mem_nil _, trivial⟩

def inTurn : List Event :=
  [.restore, .goOn 0 (.granted true), .goOn 0 (.granted true), .goOn 0 .failed,
    .goOn 0 (.granted true), .goOn 0 (.granted true), .refreshSession, .goOn 1 (.rejected true),
    .goOn 1 .failed, .login, .goOn 2 (.granted true), .goOn 2 .failed, .goOn 2 .failed,
    .logout true, .goOn 3 .failed]

theorem signOut_and_signIn_final_inTurn :
    AlwaysAlong step Final inTurn (.begun (some 4) 5) ∧
      (runEvents step inTurn (.begun (some 4) 5)).map App.settled = some .signedOut :=
  ⟨signOut_and_signIn_final (some 4) 5 inTurn (by decide +kernel), by decide +kernel⟩

def refreshedAfterSignOut : List Event :=
  [.restore, .goOn 0 (.granted true), .login, .goOn 1 (.granted true), .goOn 1 .failed,
    .refreshSession, .logout true, .goOn 3 .failed, .goOn 2 (.granted true)]

theorem session_held_after_signOut :
    ¬ AlwaysAlong step Final refreshedAfterSignOut (.begun none 0) :=
  not_alwaysAlong Final refreshedAfterSignOut _ (by decide +kernel)

end Nebula.Mobile.Sessions
