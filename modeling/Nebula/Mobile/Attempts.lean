import Mathlib.Logic.Function.Basic
import Nebula.Runs

/-!
# Connect attempts

`connect` keeps the future of the latest attempt's run in `_attemptRun`. An attempt that finds one
awaits it, then stands down if it is no longer the live one; a run completes after everything it
did, undoing included. The latest attempt clears the field when it ends.

`turns` and `replaced` are not stored by the code: whose turn has come, and who was waiting when a
later tap or a cancel took its place.
-/

namespace Nebula.Mobile.Attempts

open Runs Function List

inductive Phase where
  | unasked
  | waiting (previous : Nat)
  | running
  | ended
  deriving DecidableEq

structure Controller where
  attemptCounter : Nat
  liveAttempt : Nat
  attemptRun : Option Nat
  phase : Nat → Phase
  turns : List Nat
  replaced : List Nat

def Controller.idle : Controller :=
  ⟨0, 0, none, fun _ => .unasked, [], []⟩

inductive Event where
  /-- A tap or an automatic reconnect; `usable` if what is selected can be connected to. -/
  | connect (usable : Bool)
  | cancelConnect
  | resume (attempt : Nat) (mounted : Bool)
  | finish (attempt : Nat)

namespace Controller

variable (app : Controller)

def live (attempt : Nat) : Controller :=
  { app with
    liveAttempt := attempt
    replaced := match app.phase app.liveAttempt with
      | .waiting _ => app.liveAttempt :: app.replaced
      | _ => app.replaced }

def turn (attempt : Nat) : Controller :=
  { app with
    phase := update app.phase attempt .running
    turns := app.turns ++ [attempt] }

def ask : Controller :=
  let attempt := app.attemptCounter + 1
  let asked := { app.live attempt with
    attemptCounter := attempt, attemptRun := some attempt }
  match app.attemptRun with
  | none => asked.turn attempt
  | some previous => { asked with phase := update app.phase attempt (.waiting previous) }

def close (attempt : Nat) : Controller :=
  { app with
    liveAttempt := if app.liveAttempt = attempt then 0 else app.liveAttempt
    phase := update app.phase attempt .ended
    attemptRun := if app.attemptRun = some attempt then none else app.attemptRun }

def step (app : Controller) : Event → Option Controller
  | .connect usable => some (if usable then app.ask else app)
  | .cancelConnect => some (if app.liveAttempt = 0 then app else app.live 0)
  | .resume attempt mounted =>
    match app.phase attempt with
    | .waiting previous =>
      if app.phase previous = .ended then
        some (if mounted ∧ attempt = app.liveAttempt then app.turn attempt
          else (app.turn attempt).close attempt)
      else none
    | _ => none
  | .finish attempt =>
    if app.phase attempt = .running then some (app.close attempt) else none

end Controller

/-- One attempt at a time has its turn, in the order asked for, and never one replaced while
waiting. -/
structure TakeTurns (app : Controller) : Prop where
  alone : ∀ first second, app.phase first = .running → app.phase second = .running →
    first = second
  inOrder : app.turns = List.range' 1 app.turns.length
  idle : ∀ attempt ∈ app.replaced, app.phase attempt ≠ .running

def phaseAt (turns counter : Nat) (last : Phase) (attempt : Nat) : Phase :=
  if attempt = 0 ∨ counter < attempt then .unasked
  else if attempt < turns then .ended
  else if attempt = turns then last
  else .waiting (attempt - 1)

structure Queue (app : Controller) (last : Phase) : Prop where
  taken : last = .running ∨ last = .ended
  inOrder : app.turns = List.range' 1 app.turns.length
  phase : ∀ attempt, app.phase attempt = phaseAt app.turns.length app.attemptCounter last attempt
  within : app.turns.length ≤ app.attemptCounter
  field : app.attemptRun =
    if app.turns.length = app.attemptCounter ∧ last = .ended then none
    else some app.attemptCounter

structure Kept (app : Controller) : Prop where
  queue : ∃ last, Queue app last
  known : app.liveAttempt ≤ app.attemptCounter
  replaced : ∀ attempt ∈ app.replaced, 0 < attempt ∧ attempt ≤ app.attemptCounter ∧
    attempt ≠ app.liveAttempt ∧ app.phase attempt ≠ .running

section

variable {app : Controller} {last : Phase} (queue : Queue app last)
include queue

theorem waiting_later {attempt previous : Nat} (waits : app.phase attempt = .waiting previous) :
    app.turns.length < attempt ∧ attempt ≤ app.attemptCounter ∧ previous + 1 = attempt := by
  have taken := queue.taken
  have phase := queue.phase attempt
  grind [phaseAt]

theorem running_last {attempt : Nat} (running : app.phase attempt = .running) :
    attempt = app.turns.length ∧ 0 < attempt ∧ last = .running := by
  have phase := queue.phase attempt
  grind [phaseAt]

theorem inOrder_turn : app.turns ++ [app.turns.length + 1] = range' 1 (app.turns.length + 1) := by
  rw [range'_concat, ← queue.inOrder, Nat.one_mul, Nat.add_comm]

theorem queue_ask : ∃ last, Queue app.ask last := by
  have phase := queue.phase
  have within := queue.within
  have field := queue.field
  unfold Controller.ask
  split at field
  · rename_i settled
    rw [field]
    refine ⟨.running, Or.inl rfl, ?_, ?_, ?_, ?_⟩
    · simpa [Controller.turn, Controller.live, settled.1] using inOrder_turn queue
    all_goals
      simp only [Controller.turn, Controller.live, length_append, length_singleton]
      grind [phaseAt, update_apply]
  · rw [field]
    refine ⟨last, queue.taken, queue.inOrder, ?_, ?_, ?_⟩
    all_goals
      simp only [Controller.live]
      grind [phaseAt, update_apply]

theorem queue_turn {attempt previous : Nat} (waits : app.phase attempt = .waiting previous)
    (ended : app.phase previous = .ended) : Queue (app.turn attempt) .running := by
  obtain ⟨later, asked, next⟩ := waiting_later queue waits
  have phase := queue.phase
  have field := queue.field
  have settled : last = .ended ∧ attempt = app.turns.length + 1 := by
    grind [phaseAt]
  refine ⟨Or.inl rfl, ?_, ?_, ?_, ?_⟩
  · simpa [Controller.turn, settled.2] using inOrder_turn queue
  all_goals
    simp only [Controller.turn, length_append, length_singleton]
    grind [phaseAt, update_apply]

theorem queue_close {attempt : Nat} (running : app.phase attempt = .running) :
    Queue (app.close attempt) .ended := by
  have phase := queue.phase
  have field := queue.field
  refine ⟨Or.inr rfl, queue.inOrder, ?_, queue.within, ?_⟩
  all_goals
    simp only [Controller.close]
    grind [phaseAt, update_apply]

end

theorem replaced_live {app : Controller} (kept : Kept app) {attempt : Nat}
    (fresh : attempt = 0 ∨ app.attemptCounter < attempt) :
    ∀ other ∈ (app.live attempt).replaced, 0 < other ∧ other ≤ app.attemptCounter ∧
      other ≠ attempt ∧ app.phase other ≠ .running := by
  obtain ⟨last, queue⟩ := kept.queue
  have replaced := kept.replaced
  have later : ∀ previous, app.phase app.liveAttempt = .waiting previous → _ :=
    fun _ => waiting_later queue
  grind [Controller.live]

theorem step_kept {app next : Controller} {event : Event} (kept : Kept app)
    (taken : app.step event = some next) : Kept next := by
  obtain ⟨last, queue⟩ := kept.queue
  have known := kept.known
  have replaced := kept.replaced
  cases event with
  | connect usable =>
    cases usable with
    | false => exact Option.some.inj taken ▸ kept
    | true =>
      cases taken
      have left := replaced_live kept (Or.inr (Nat.lt_succ_self app.attemptCounter))
      simp only [Controller.live] at left
      refine ⟨queue_ask queue, ?_, ?_⟩
      all_goals
        simp only [if_true, Controller.ask]
        cases app.attemptRun
        all_goals
          simp only [Controller.turn, Controller.live]
          grind [update_apply]
  | cancelConnect =>
    cases taken
    split
    · exact kept
    · exact ⟨⟨last, queue.taken, queue.inOrder, queue.phase, queue.within, queue.field⟩,
        Nat.zero_le _, replaced_live kept (Or.inl rfl)⟩
  | resume attempt mounted =>
    simp only [Controller.step] at taken
    split at taken
    case h_2 => cases taken
    split at taken
    case isFalse => cases taken
    rename_i previous waits ended
    have turned := queue_turn queue waits ended
    cases taken
    split
    · refine ⟨⟨_, turned⟩, known, ?_⟩
      simp only [Controller.turn]
      grind [update_apply]
    refine ⟨⟨_, queue_close turned (by simp [Controller.turn])⟩, ?_, ?_⟩
    all_goals
      simp only [Controller.turn, Controller.close]
      grind [update_apply]
  | finish attempt =>
    simp only [Controller.step] at taken
    split at taken
    case isFalse => cases taken
    rename_i running
    cases taken
    refine ⟨⟨_, queue_close queue running⟩, ?_, ?_⟩
    all_goals
      simp only [Controller.close]
      grind [update_apply]

/-- For every sequence of taps, cancels and reconnects and every interleaving. -/
theorem attempts_take_turns (events : List Event) :
    AlwaysAlong Controller.step TakeTurns events .idle := by
  refine alwaysAlong_of_invariant Kept TakeTurns (fun _ _ _ kept _ => step_kept kept) ?_ ?_
    (runMeets_of_forall _ (fun _ _ => trivial) events _)
  · intro app kept
    obtain ⟨last, queue⟩ := kept.queue
    refine ⟨?_, queue.inOrder, fun attempt member => (kept.replaced attempt member).2.2.2⟩
    intro first second firstRuns secondRuns
    rw [(running_last queue firstRuns).1, (running_last queue secondRuns).1]
  · refine ⟨⟨.ended, Or.inr rfl, rfl, ?_, Nat.le_refl _, rfl⟩, Nat.le_refl _, forall_mem_nil _⟩
    intro attempt
    simp [Controller.idle, phaseAt, Nat.pos_iff_ne_zero, em]

end Nebula.Mobile.Attempts
