import Mathlib.Data.List.Induction

/-!
# Runs of a partial step function

A system is a step function that says which state follows a state and an event, or that the event is
not enabled there. A run is a list of events. A guard restricts a run to events taken in states
that meet it; an invariant of the guarded steps is one of the guarded runs.
-/

namespace Nebula.Runs

open List Option

variable {State Event : Type}

/-- The state the events lead to; `none` once an event is not enabled. -/
def runEvents (step : State → Event → Option State) : List Event → State → Option State
  | [], state => some state
  | event :: rest, state => (step state event).bind (runEvents step rest)

/-- Every event of the run is taken in a state that meets the guard. -/
def RunMeets (step : State → Event → Option State) (guard : State → Event → Prop) :
    List Event → State → Prop
  | [], _ => True
  | event :: rest, state =>
    guard state event ∧
      ∀ next, step state event = some next → RunMeets step guard rest next

instance decidableRunMeets (step : State → Event → Option State)
    (guard : State → Event → Prop) [∀ state event, Decidable (guard state event)] :
    ∀ events state, Decidable (RunMeets step guard events state)
  | [], _ => isTrue trivial
  | event :: rest, state =>
    match taken : step state event with
    | none => decidable_of_iff (guard state event) (by simp [RunMeets, taken])
    | some next =>
      have := decidableRunMeets step guard rest next
      decidable_of_iff (guard state event ∧ RunMeets step guard rest next)
        (by simp [RunMeets, taken])

section

variable (step : State → Event → Option State)

@[simp] theorem runEvents_nil (state : State) : runEvents step [] state = some state :=
  rfl

@[simp] theorem runEvents_cons (event : Event) (rest : List Event) (state : State) :
    runEvents step (event :: rest) state = (step state event).bind (runEvents step rest) :=
  rfl

theorem runEvents_append (earlier later : List Event) (state : State) :
    runEvents step (earlier ++ later) state =
      (runEvents step earlier state).bind (runEvents step later) := by
  induction earlier generalizing state with
  | nil => rfl
  | cons event rest ih =>
    cases taken : step state event with
    | none => simp [taken]
    | some next => simp [taken, ih]

theorem runEvents_exists (events : List Event) (state : State) (test : State → Prop)
    [∀ final, Decidable (test final)]
    (passes : (runEvents step events state).any fun final => decide (test final)) :
    ∃ final, runEvents step events state = some final ∧ test final := by
  cases run : runEvents step events state with
  | none => simp [run] at passes
  | some final =>
    rw [run] at passes
    exact ⟨final, rfl, by simpa using passes⟩

theorem runEvents_exists_between (count : Nat) (events : List Event) (state : State)
    (first second : State → Prop) [∀ middle, Decidable (first middle)]
    [∀ final, Decidable (second final)]
    (passesFirst : (runEvents step (events.take count) state).any fun middle =>
      decide (first middle))
    (passesSecond : (runEvents step events state).any fun final => decide (second final)) :
    ∃ middle final,
      runEvents step (events.take count) state = some middle ∧ first middle ∧
      runEvents step (events.drop count) middle = some final ∧ second final := by
  obtain ⟨middle, earlierRun, holdsFirst⟩ := runEvents_exists step _ state first passesFirst
  obtain ⟨final, run, holdsSecond⟩ := runEvents_exists step events state second passesSecond
  refine ⟨middle, final, earlierRun, holdsFirst, ?_, holdsSecond⟩
  rw [← run, ← take_append_drop count events, runEvents_append, take_append_drop, earlierRun]
  rfl

variable {step}

theorem runMeets_append (guard : State → Event → Prop) {earlier later : List Event}
    (state middle : State) (run : runEvents step earlier state = some middle)
    (meets : RunMeets step guard (earlier ++ later) state) :
    RunMeets step guard earlier state ∧ RunMeets step guard later middle := by
  induction earlier generalizing state with
  | nil =>
    cases run
    exact ⟨trivial, meets⟩
  | cons event rest ih =>
    obtain ⟨next, taken, run⟩ := bind_eq_some_iff.mp run
    obtain ⟨meetsRest, meetsLater⟩ := ih next run (meets.2 next taken)
    refine ⟨⟨meets.1, ?_⟩, meetsLater⟩
    intro other takenOther
    rw [taken] at takenOther
    cases takenOther
    exact meetsRest

end

section

variable {step : State → Event → Option State} {guard : State → Event → Prop}

variable {events : List Event}

/-- What every guarded step preserves, every guarded run preserves. -/
theorem runEvents_invariant (invariant : State → Prop)
    (preserved : ∀ state event next, invariant state → guard state event →
      step state event = some next → invariant next) (start : State)
    {final : State} (holds : invariant start) (meets : RunMeets step guard events start)
    (run : runEvents step events start = some final) : invariant final := by
  induction events generalizing start with
  | nil =>
    cases run
    exact holds
  | cons event rest ih =>
    obtain ⟨next, taken, run⟩ := bind_eq_some_iff.mp run
    exact ih next (preserved start event next holds meets.1 taken) (meets.2 next taken) run

variable (step)

theorem runMeets_of_forall (holds : ∀ state event, guard state event) (events : List Event)
    (start : State) : RunMeets step guard events start := by
  induction events generalizing start with
  | nil => trivial
  | cons event rest ih => exact ⟨holds start event, fun next _ => ih next⟩

variable (guard)

/-- The property holds in every state the run passes through, its start included. -/
def AlwaysAlong (property : State → Prop) (events : List Event) (start : State) : Prop :=
  ∀ earlier later middle, events = earlier ++ later →
    runEvents step earlier start = some middle → property middle

variable {step guard}

theorem alwaysAlong_of_invariant (invariant property : State → Prop)
    (preserved : ∀ state event next, invariant state → guard state event →
      step state event = some next → invariant next)
    (implies : ∀ state, invariant state → property state) {start : State}
    (holds : invariant start) (meets : RunMeets step guard events start) :
    AlwaysAlong step property events start := by
  intro earlier later middle split run
  subst split
  obtain ⟨meetsEarlier, _⟩ := runMeets_append guard start middle run meets
  exact implies middle (runEvents_invariant invariant preserved start holds meetsEarlier run)

theorem not_alwaysAlong (property : State → Prop) [∀ state, Decidable (property state)]
    (events : List Event) (start : State)
    (fails : (runEvents step events start).any fun final => decide (¬ property final)) :
    ¬ AlwaysAlong step property events start := by
  intro always
  obtain ⟨final, run, broken⟩ := runEvents_exists step events start _ fails
  exact broken (always events [] final (by simp) run)

variable (step guard)

def EachStep (property : State → Event → State → Prop) (events : List Event) (start : State) :
    Prop :=
  ∀ earlier event later middle next, events = earlier ++ event :: later →
    runEvents step earlier start = some middle → step middle event = some next →
    property middle event next

variable {step guard}

theorem eachStep_of_invariant (invariant : State → Prop) {property : State → Event → State → Prop}
    (preserved : ∀ state event next, invariant state → guard state event →
      step state event = some next → invariant next)
    (implies : ∀ state event next, invariant state → guard state event →
      step state event = some next → property state event next)
    {start : State} (holds : invariant start) (meets : RunMeets step guard events start) :
    EachStep step property events start := by
  intro earlier event later middle next split run taken
  subst split
  obtain ⟨meetsEarlier, meetsLater⟩ := runMeets_append guard start middle run meets
  exact implies middle event next
    (runEvents_invariant invariant preserved start holds meetsEarlier run) meetsLater.1 taken

variable (step)

theorem not_eachStep {property : State → Event → State → Prop}
    [∀ state event next, Decidable (property state event next)] {earlier : List Event}
    {event : Event} {start : State}
    (fails : (runEvents step earlier start).any fun middle =>
      (step middle event).any fun next => decide (¬ property middle event next)) :
    ¬ EachStep step property (earlier ++ [event]) start := by
  intro each
  obtain ⟨middle, run, last⟩ := runEvents_exists step earlier start
    (fun middle => (step middle event).any fun next => decide (¬ property middle event next))
    (by simpa using fails)
  cases taken : step middle event with
  | none => simp [taken] at last
  | some next =>
    have broken : ¬ property middle event next := by simpa [taken] using last
    exact broken (each earlier event [] middle next rfl run taken)

end

section

variable (step : State → Event → Option State)

/-- Something begins at a step of the run, and the property holds from then on. -/
def Since (begins : State → Event → Prop) (holds : State → Prop) (events : List Event)
    (start : State) : Prop :=
  ∃ earlier event later before after, events = earlier ++ event :: later ∧
    runEvents step earlier start = some before ∧ begins before event ∧
    step before event = some after ∧ AlwaysAlong step holds later after

section

variable (begins : State → Event → Prop) {holds : State → Prop}

variable {events : List Event}

theorem since_holds {start final : State} (since : Since step begins holds events start)
    (run : runEvents step events start = some final) : holds final := by
  obtain ⟨earlier, event, later, before, after, split, runEarlier, _, taken, always⟩ := since
  subst split
  rw [runEvents_append, runEarlier] at run
  simp only [bind_some, runEvents_cons, taken] at run
  exact always later [] final (append_nil later).symm run

variable {step}

theorem since_now {earlier : List Event} {event : Event} {start before after : State}
    (run : runEvents step earlier start = some before) (begun : begins before event)
    (taken : step before event = some after) (now : holds after) :
    Since step begins holds (earlier ++ [event]) start := by
  refine ⟨earlier, event, [], before, after, rfl, run, begun, taken, ?_⟩
  intro first second middle split passed
  obtain ⟨rfl, -⟩ := append_eq_nil_iff.mp split.symm
  cases passed
  exact now

theorem alwaysAlong_concat {event : Event} {start : State}
    (always : AlwaysAlong step holds events start)
    (last : ∀ final, runEvents step (events ++ [event]) start = some final → holds final) :
    AlwaysAlong step holds (events ++ [event]) start := by
  intro earlier later middle split run
  rcases eq_nil_or_concat later with ended | ⟨rest, final, concat⟩
  · subst ended
    rw [append_nil] at split
    subst split
    exact last middle run
  · subst concat
    rw [concat_eq_append, ← append_assoc] at split
    exact always earlier rest middle (append_inj_left' split rfl) run

theorem since_next {event : Event} {start before after : State}
    (since : Since step begins holds events start) (run : runEvents step events start = some before)
    (taken : step before event = some after) (still : holds after) :
    Since step begins holds (events ++ [event]) start := by
  obtain ⟨earlier, first, later, opening, opened, split, runEarlier, begun, begins, always⟩ := since
  subst split
  rw [runEvents_append, runEarlier] at run
  simp only [bind_some, runEvents_cons, begins] at run
  refine ⟨earlier, first, later ++ [event], opening, opened, by simp, runEarlier, begun, begins, ?_⟩
  refine alwaysAlong_concat always ?_
  intro final ended
  rw [runEvents_append, run] at ended
  simp only [bind_some, runEvents_cons, taken, runEvents_nil] at ended
  cases ended
  exact still

end

theorem runEvents_history {guard : State → Event → Prop} {invariant : List Event → State → Prop}
    {start : State}
    (preserved : ∀ earlier state event next, runEvents step earlier start = some state →
      invariant earlier state → guard state event → step state event = some next →
      invariant (earlier ++ [event]) next)
    (holds : invariant [] start) {events : List Event} (meets : RunMeets step guard events start)
    (final : State) (run : runEvents step events start = some final) : invariant events final := by
  induction events using reverseRecOn generalizing final with
  | nil =>
    cases run
    exact holds
  | append_singleton earlier event ih =>
    rw [runEvents_append] at run
    obtain ⟨middle, runEarlier, last⟩ := bind_eq_some_iff.mp run
    obtain ⟨next, taken, ended⟩ := bind_eq_some_iff.mp last
    obtain rfl : next = final := some.inj ended
    obtain ⟨meetsEarlier, meetsLast⟩ := runMeets_append guard start middle runEarlier meets
    exact preserved earlier middle event next runEarlier (ih meetsEarlier middle runEarlier)
      meetsLast.1 taken

end

end Nebula.Runs
