import Nebula.Runs
import Nebula.Work

/-!
# What a background check is about

A check waits for its answer and then decides by the counters and flags of whatever connection is up
by then.

Connections are numbered. The app does not keep `asked`, the one that was up when a check began,
nor `effects`: what each check was about and what it counted against or took down. What keeps a
check from being asked is left to the events, and so is the connect that follows a dead tunnel.
-/

namespace Nebula.Mobile.Checks

open Work Runs Option

abbrev Connection := Nat

inductive Check where
  | checkTunnel
  | checkEngine
  | checkTraffic
  | checkTrafficOnResume (tried : Nat)
  | resumeDelay (tried : Nat)
  | checkAccess
  | confirmWithServer (profileCode : Nat)
  | retryRevokedCredential
  | recordProtocol
  | endTunnel

inductive Answer where
  | good
  | bad
  | unknown
  | revoked
  | sessionOver
  deriving DecidableEq

structure Job where
  asked : Connection
  check : Check

structure State where
  connection : Option Connection
  nextConnection : Connection
  activeProfileCode : Nat
  xrayClient : Bool
  isSubmitting : Bool
  watching : Bool
  tunnelMissingReadings : Nat
  engineDeadReadings : Nat
  trafficFailedReadings : Nat
  jobs : Pool Job
  effects : List (Connection × Connection)

inductive Event where
  | establish (profileCode : Nat) (xrayClient : Bool)
  | submit (busy : Bool)
  | disconnect
  | ask (check : Check)
  | answer (number : Nat) (answer : Answer)

namespace State

variable (state : State) (asked : Connection)

def stopWatchingTunnel : State :=
  { state with
    watching := false
    tunnelMissingReadings := 0
    engineDeadReadings := 0
    trafficFailedReadings := 0 }

def against : State :=
  { state with effects := (state.connection.map fun current => (asked, current)).toList ++
      state.effects }

def takeDown : State :=
  { (state.against asked).stopWatchingTunnel with connection := none }

def unchanged : Bool :=
  state.watching && !state.isSubmitting && state.connection.isSome

def enough (readings needed : Nat) : Bool :=
  needed ≤ readings && !state.isSubmitting && state.connection.isSome

def react : Check → Answer → State × Option Job
  | .checkTunnel, .bad =>
    if !state.watching then (state, none)
    else
      let counted := { state.against asked with
        tunnelMissingReadings := state.tunnelMissingReadings + 1 }
      if counted.enough counted.tunnelMissingReadings 2 then
        (counted.takeDown asked, some ⟨asked, .endTunnel⟩)
      else (counted, none)
  | .checkTunnel, answer =>
    if !state.watching then (state, none)
    else
      -- The engine is asked about now, whatever connection is up.
      ({ state with tunnelMissingReadings := 0 },
        if answer = .good then state.connection.map (⟨·, .checkEngine⟩) else none)
  | .checkEngine, answer =>
    if !state.watching || answer = .unknown then (state, none)
    else if answer = .bad then
      let counted := { state.against asked with
        engineDeadReadings := state.engineDeadReadings + 1 }
      (counted, if counted.enough counted.engineDeadReadings 2 then
        some ⟨asked, .recordProtocol⟩ else none)
    else ({ state with engineDeadReadings := 0 }, none)
  | .checkTraffic, answer =>
    if !state.watching then (state, none)
    else if answer = .good then ({ state with trafficFailedReadings := 0 }, none)
    else
      let counted := { state.against asked with
        trafficFailedReadings := state.trafficFailedReadings + 1 }
      (counted, if counted.enough counted.trafficFailedReadings 3 then
        some ⟨asked, .recordProtocol⟩ else none)
  | .checkTrafficOnResume tried, answer =>
    if answer = .good then ({ state with trafficFailedReadings := 0 }, none)
    else if tried < 2 then (state, some ⟨asked, .resumeDelay (tried + 1)⟩)
    else (state, if state.unchanged then some ⟨asked, .recordProtocol⟩ else none)
  | .resumeDelay tried, _ =>
    (state, if state.unchanged then some ⟨asked, .checkTrafficOnResume tried⟩ else none)
  | .checkAccess, answer =>
    if answer = .sessionOver ∨ (answer = .bad ∧ state.connection.isSome) then
      ((state.against asked).stopWatchingTunnel, some ⟨asked, .endTunnel⟩)
    else (state, if answer = .revoked ∧ state.connection.isSome then
      some ⟨asked, .retryRevokedCredential⟩ else none)
  | .confirmWithServer profileCode, answer =>
    if answer = .bad ∧ state.connection.isSome ∧ state.activeProfileCode = profileCode then
      ((state.against asked).stopWatchingTunnel, some ⟨asked, .endTunnel⟩)
    else (state, none)
  | .retryRevokedCredential, _ | .recordProtocol, _ =>
    ((state.against asked).stopWatchingTunnel, some ⟨asked, .endTunnel⟩)
  | .endTunnel, _ => (state.takeDown asked, none)

end State

variable (state : State)

/-- What the timers, the app's return and a connect from a saved credential begin. -/
def Check.begins : Check → Bool
  | .checkTunnel | .checkAccess => state.watching
  | .checkTraffic => state.watching && state.xrayClient && !state.isSubmitting
  | .checkTrafficOnResume tried => state.xrayClient && state.unchanged && tried = 0
  | .confirmWithServer profileCode => state.activeProfileCode = profileCode
  | _ => false

def step : Event → Option State
  | .establish profileCode xrayClient =>
    if state.connection.isNone then
      some { state.stopWatchingTunnel with
        connection := some state.nextConnection
        nextConnection := state.nextConnection + 1
        activeProfileCode := profileCode
        xrayClient := xrayClient
        watching := true }
    else none
  | .submit busy => some { state with isSubmitting := busy }
  | .disconnect => some { state.stopWatchingTunnel with connection := none }
  | .ask check =>
    match state.connection with
    | none => none
    | some current =>
      if check.begins state then some { state with jobs := state.jobs.begin ⟨current, check⟩ }
      else none
  | .answer number answer =>
    (state.jobs.find number).map fun job =>
      let reacted := state.react job.asked job.check answer
      { reacted.1 with jobs := state.jobs.resume number reacted.2 }

/-- No check counts against, or takes down, a connection established after it was asked. -/
def OnlyAskedAbout : Prop :=
  ∀ effect ∈ state.effects, effect.2 ≤ effect.1
  deriving Decidable

def EstablishedAlone : Event → Prop
  | .establish _ _ => state.jobs.jobs = []
  | _ => True

instance (event : Event) : Decidable (EstablishedAlone state event) := by
  unfold EstablishedAlone
  split <;> infer_instance

structure Current : Prop where
  jobs : ∀ job ∈ state.jobs.jobs, ∀ current ∈ state.connection, job.2.asked = current
  own : OnlyAskedAbout state

section

variable {state : State}

structure Reacts (state : State) (asked : Connection) (outcome : State × Option Job) : Prop where
  stays : ∀ current ∈ outcome.1.connection, state.connection = some current
  effects : ∀ effect ∈ outcome.1.effects,
    effect ∈ state.effects ∨ ∃ current, state.connection = some current ∧ (asked, current) = effect
  next : ∀ job ∈ outcome.2, job.asked = asked ∨ state.connection = some job.asked

variable {asked : Connection} {after : State} {check : Check} {again : Prop} [Decidable again]

theorem reacts_end (connection : after.connection = state.connection)
    (effects : after.effects = state.effects) : Reacts state asked (after, none) :=
  ⟨fun _ up => connection ▸ up, fun _ old => Or.inl (effects ▸ old), nofun⟩

theorem reacts_against (stays : ∀ current ∈ after.connection, state.connection = some current)
    (effects : after.effects ⊆ (state.against asked).effects) : Reacts state asked (after, none) := by
  refine ⟨stays, fun effect among => ?_, nofun⟩
  simpa [State.against, or_comm] using effects among

theorem Reacts.asks (reacts : Reacts state asked (after, none)) :
    Reacts state asked (after, some ⟨asked, check⟩) :=
  ⟨reacts.stays, reacts.effects,
    fun _ same => Or.inl (congrArg Job.asked (some.inj same)).symm⟩

theorem Reacts.mayAsk (reacts : Reacts state asked (after, none)) :
    Reacts state asked (after, if again then some ⟨asked, check⟩ else none) := by
  split
  · exact reacts.asks
  · exact reacts

theorem react_spec (state : State) (asked : Connection) (check : Check) (answer : Answer) :
    Reacts state asked (state.react asked check answer) := by
  have kept : Reacts state asked (state, none) := reacts_end rfl rfl
  have ended : Reacts state asked ((state.against asked).stopWatchingTunnel, none) :=
    reacts_against (fun _ up => up) (List.Subset.refl _)
  cases check with
  | checkTunnel =>
    cases answer with
    | bad =>
      simp only [State.react]
      split
      · exact kept
      split
      · exact Reacts.asks (reacts_against nofun (by simp [State.takeDown, State.against,
          State.stopWatchingTunnel]))
      · exact reacts_against (fun _ up => up) (List.Subset.refl _)
    | good =>
      simp only [State.react, if_true]
      split
      · exact kept
      refine ⟨fun _ up => up, fun _ old => Or.inl old, fun job begun => ?_⟩
      obtain ⟨current, up, same⟩ := map_eq_some_iff.mp begun
      exact Or.inr (same ▸ up)
    | unknown | revoked | sessionOver =>
      simp only [State.react]
      split
      · exact kept
      · exact reacts_end rfl rfl
  | checkEngine =>
    simp only [State.react]
    split
    · exact kept
    split
    · exact Reacts.mayAsk (reacts_against (fun _ up => up) (List.Subset.refl _))
    · exact reacts_end rfl rfl
  | checkTraffic =>
    simp only [State.react]
    split
    · exact kept
    split
    · exact reacts_end rfl rfl
    · exact Reacts.mayAsk (reacts_against (fun _ up => up) (List.Subset.refl _))
  | checkTrafficOnResume tried =>
    simp only [State.react]
    split
    · exact reacts_end rfl rfl
    split
    · exact kept.asks
    · exact kept.mayAsk
  | resumeDelay tried => exact kept.mayAsk
  | checkAccess =>
    simp only [State.react]
    split
    · exact ended.asks
    · exact kept.mayAsk
  | confirmWithServer profileCode =>
    simp only [State.react]
    split
    · exact ended.asks
    · exact kept
  | retryRevokedCredential | recordProtocol => exact ended.asks
  | endTunnel => exact reacts_against nofun (List.Subset.refl _)

theorem step_current {event : Event} {next : State} (current : Current state)
    (alone : EstablishedAlone state event) (taken : step state event = some next) :
    Current next := by
  cases event with
  | establish profileCode xrayClient =>
    obtain ⟨_, same⟩ := ite_none_right_eq_some.mp taken
    cases same
    refine ⟨?_, current.own⟩
    simp [State.stopWatchingTunnel, show state.jobs.jobs = [] from alone]
  | submit busy =>
    cases taken
    exact { current with }
  | disconnect =>
    cases taken
    exact ⟨by simp, current.own⟩
  | ask check =>
    simp only [step] at taken
    split at taken
    · cases taken
    rename_i up
    obtain ⟨_, same⟩ := ite_none_right_eq_some.mp taken
    cases same
    exact ⟨Pool.forall_begin current.jobs (by simp [up]), current.own⟩
  | answer number answer =>
    obtain ⟨job, found, rfl⟩ := map_eq_some_iff.mp taken
    have own := current.jobs _ (state.jobs.find_mem number job found)
    obtain ⟨stays, done, next⟩ := react_spec state job.asked job.check answer
    refine ⟨fun other member now up => ?_, fun effect among => ?_⟩
    · have up := stays now up
      rcases state.jobs.mem_resume number member with ⟨old, _⟩ | ⟨_, new⟩
      · exact current.jobs other old now up
      rcases next _ new with same | same
      · rw [same]
        exact own now up
      · exact some.inj (same.symm.trans up)
    · rcases done effect among with old | ⟨now, up, rfl⟩
      · exact current.own effect old
      · exact (own now up).ge

end

def State.begun : State where
  connection := none
  nextConnection := 0
  activeProfileCode := 0
  xrayClient := false
  isSubmitting := false
  watching := false
  tunnelMissingReadings := 0
  engineDeadReadings := 0
  trafficFailedReadings := 0
  jobs := .empty
  effects := []

/-- Checks end only the connection they asked about, if none begins while one is under way. -/
theorem checks_end_their_own (events : List Event)
    (alone : RunMeets step EstablishedAlone events .begun) :
    AlwaysAlong step OnlyAskedAbout events .begun := by
  refine alwaysAlong_of_invariant Current OnlyAskedAbout ?_ (fun _ current => current.own) ?_ alone
  · intro state event next current alone taken
    exact step_current current alone taken
  · exact ⟨List.forall_mem_nil _, List.forall_mem_nil _⟩

def stalled : List Event :=
  [.establish 1 true, .ask .checkTraffic, .answer 0 .bad, .ask .checkTraffic, .answer 1 .bad,
    .ask .checkTraffic, .answer 2 .bad, .answer 2 .good, .answer 2 .good]

theorem checks_end_their_own_stalled :
    AlwaysAlong step OnlyAskedAbout stalled .begun ∧
      (runEvents step stalled .begun).map (fun final => (final.connection, final.effects.length)) =
        some (none, 5) :=
  ⟨checks_end_their_own stalled (by decide +kernel), by decide +kernel⟩

/-- The answer to a question about the first connection comes when the second is up. -/
def askedBefore : List Event :=
  [.establish 1 true, .ask .checkTraffic, .disconnect, .establish 1 true, .answer 0 .bad]

theorem later_connection_counted_against : ¬ AlwaysAlong step OnlyAskedAbout askedBefore .begun :=
  not_alwaysAlong OnlyAskedAbout askedBefore _ (by decide +kernel)

end Nebula.Mobile.Checks
