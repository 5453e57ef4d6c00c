import Nebula.Runs
import Mathlib.Data.List.Nodup

/-!
# The race between addresses

`RouteFallbackInterceptor._race`. A repeatable request goes down the address in use, and down
the next one whenever the hedge timer fires or an attempt fails. Every callback returns at once
when something has settled the race.
-/

namespace Nebula.Mobile.Hedging

open Runs List

inductive DioExceptionType where
  | connectionTimeout | sendTimeout | receiveTimeout | badCertificate
  | badResponse | cancel | connectionError | unknown
  deriving DecidableEq

structure DioException where
  type : DioExceptionType
  handshake : Bool := false
  statusCode : Option Nat := none
  detail : Bool := false

namespace DioException

variable (err : DioException)

def neverArrived : Bool :=
  err.type = .connectionTimeout || err.type = .connectionError || err.handshake

def notFromNebula : Bool :=
  err.type = .badResponse && !err.detail

def retryable (repeatable : Bool) : Bool :=
  err.neverArrived || (err.type = .receiveTimeout && repeatable) ||
    (err.notFromNebula && (repeatable || err.statusCode.getD 500 < 500))

end DioException

inductive Settlement where
  | resolved (attempt : Nat)
  | rejected
  deriving DecidableEq

inductive Event where
  | timer
  | ends (attempt : Nat) (error : Option DioException)
  | cancel

def Event.failure : Event → Option DioException
  | .ends _ error => error
  | _ => none

structure Race (Address : Type) where
  order : List Address
  attempts : Nat := 0
  underWay : List Nat := []
  failed : Nat := 0
  completions : List Settlement := []

section

variable {Address : Type}

namespace Race

variable (race : Race Address)

def complete (settlement : Settlement) : Race Address :=
  { race with completions := race.completions ++ [settlement] }

def start : Race Address :=
  if race.order.length ≤ race.attempts then race
  else { race with attempts := race.attempts + 1, underWay := race.underWay ++ [race.attempts] }

def begin [DecidableEq Address] (first : Address) (known : List Address) : Race Address :=
  start { order := first :: known.filter (· ≠ first) }

def onEnd (attempt : Nat) : Option DioException → Race Address
  | none => race.complete (.resolved attempt)
  | some failure =>
    if !failure.retryable true then race.complete .rejected
    else
      let race := { race with failed := race.failed + 1 }
      if race.attempts < race.order.length then race.start
      else if race.failed = race.attempts then race.complete .rejected
      else race

def step (event : Event) : Option (Race Address) :=
  if race.completions ≠ [] then some race
  else match event with
    | .timer => some race.start
    | .ends attempt error =>
      if attempt ∈ race.underWay then
        some ({ race with underWay := race.underWay.erase attempt }.onEnd attempt error)
      else none
    | .cancel => some (race.complete .rejected)

/-- An answer, a cancel, a refusal of the API, or a failure after those of all other addresses. -/
def Allows : Event → Settlement → Prop
  | .ends attempt none, settlement => settlement = .resolved attempt
  | .ends _ (some failure), settlement => settlement = .rejected ∧
    (failure.type = .badResponse ∧ failure.detail ∨ race.failed + 1 = race.order.length)
  | .cancel, settlement => settlement = .rejected
  | .timer, _ => False

/-- The race stays as settled as it is, or this event settles it; an answer does. -/
def SettledBy (before : Race Address) (event : Event) (after : Race Address) : Prop :=
  (after.completions = before.completions ∧
      (before.completions = [] → ∀ attempt, event ≠ .ends attempt none)) ∨
    before.completions = [] ∧
      ∃ settlement, after.completions = [settlement] ∧ before.Allows event settlement

def Whole : Prop :=
  (race.order.take race.attempts).Nodup ∧ (race.underWay = [] → race.completions ≠ [])

/-- While nothing has settled the race, what fails is retried or has been answered, or is the last.
-/
def Refuses (event : Event) : Prop :=
  race.completions = [] → ∀ failure ∈ event.failure,
    failure.retryable true ∨ failure.type = .badResponse ∨ race.failed + 1 = race.order.length
  deriving Decidable

end Race

structure Kept (race : Race Address) : Prop where
  distinct : race.order.Nodup
  pending : race.completions = [] → race.underWay ≠ [] ∧ race.attempts ≤ race.order.length ∧
    race.failed + race.underWay.length = race.attempts

theorem step_spec {race next : Race Address} {event : Event} (kept : Kept race)
    (taken : race.step event = some next) :
    Kept next ∧ (race.SettledBy event next ↔ race.Refuses event) := by
  have distinct := kept.distinct
  unfold Race.step at taken
  split at taken
  · rename_i settled
    cases taken
    exact ⟨kept, iff_of_true (Or.inl ⟨rfl, fun open_ => absurd open_ settled⟩)
      fun open_ => absurd open_ settled⟩
  rename_i settled
  have open_ : race.completions = [] := not_not.mp settled
  have completed : ∀ settlement, race.completions ++ [settlement] = [settlement] := by
    simp [open_]
  obtain ⟨_, within, count⟩ := kept.pending open_
  cases event with
  | timer =>
    cases taken
    unfold Race.start
    split
    · exact ⟨kept, iff_of_true (Or.inl ⟨rfl, nofun⟩) nofun⟩
    · exact ⟨⟨distinct, by grind⟩, iff_of_true (Or.inl ⟨rfl, nofun⟩) nofun⟩
  | cancel =>
    cases taken
    exact ⟨⟨distinct, by simp [Race.complete]⟩,
      iff_of_true (Or.inr ⟨open_, _, completed _, rfl⟩) nofun⟩
  | ends attempt error =>
    obtain ⟨under, taken⟩ := Option.ite_none_right_eq_some.mp taken
    have fewer := length_erase_of_mem under
    cases taken
    cases error with
    | none =>
      exact ⟨⟨distinct, by simp [Race.onEnd, Race.complete]⟩,
        iff_of_true (Or.inr ⟨open_, _, completed _, rfl⟩) nofun⟩
    | some failure =>
      simp only [Race.onEnd]
      split
      · refine ⟨⟨distinct, by simp [Race.complete]⟩, ?_⟩
        simp only [Race.SettledBy, Race.Allows, Race.Refuses, Event.failure, Race.complete, open_]
        grind [DioException.retryable, DioException.notFromNebula]
      rename_i retried
      have refuses : race.Refuses (.ends attempt (some failure)) := by
        simp_all [Race.Refuses, Event.failure]
      split
      · rename_i more
        rw [Race.start, if_neg (Nat.not_le.mpr more)]
        exact ⟨⟨distinct, by grind⟩, iff_of_true (Or.inl ⟨rfl, nofun⟩) refuses⟩
      split
      · have all : race.failed + 1 = race.order.length := by omega
        exact ⟨⟨distinct, by simp [Race.complete]⟩,
          iff_of_true (Or.inr ⟨open_, _, completed _, rfl, Or.inr all⟩) refuses⟩
      · exact ⟨⟨distinct, by grind⟩, iff_of_true (Or.inl ⟨rfl, nofun⟩) refuses⟩

theorem race_settles_once [DecidableEq Address] (first : Address) {known : List Address}
    (distinct : known.Nodup) (events : List Event) :
    AlwaysAlong Race.step Race.Whole events (.begin first known) ∧
      (EachStep Race.step Race.SettledBy events (.begin first known) ↔
        EachStep Race.step (fun race event _ => race.Refuses event) events
          (.begin first known)) := by
  have begun : Kept (.begin first known) :=
    ⟨nodup_cons.mpr ⟨by simp, distinct.filter _⟩,
      fun _ => ⟨nofun, by simp [Race.begin, Race.start], rfl⟩⟩
  have always : AlwaysAlong Race.step Kept events (.begin first known) :=
    alwaysAlong_of_invariant Kept Kept (fun _ _ _ kept _ taken => (step_spec kept taken).1)
      (fun _ kept => kept) begun (runMeets_of_forall _ (fun _ _ => trivial) events _)
  constructor
  · intro earlier later race split run
    have kept := always earlier later race split run
    exact ⟨kept.distinct.sublist (take_sublist _ _), fun idle none => (kept.pending none).1 idle⟩
  · exact ⟨fun each earlier event later race next split run taken =>
        (step_spec (always earlier _ race split run) taken).2.mp
          (each earlier event later race next split run taken),
      fun each earlier event later race next split run taken =>
        (step_spec (always earlier _ race split run) taken).2.mpr
          (each earlier event later race next split run taken)⟩

end

def hedged : List Event :=
  [.ends 0 (some { type := .connectionError }), .timer, .ends 1 none,
    .ends 2 (some { type := .cancel })]

/-- The attempt that lost is cancelled after the race is settled. -/
theorem race_settles_once_hedged :
    EachStep Race.step Race.SettledBy hedged (.begin 0 [0, 1, 2]) ∧
      (runEvents Race.step hedged (.begin 0 [0, 1, 2])).map Race.completions = some [.resolved 1] :=
  ⟨(race_settles_once 0 (by decide) hedged).2.mpr
    (eachStep_of_invariant (fun _ => True) (fun _ _ _ _ _ _ => trivial)
      (fun _ _ _ _ refuses _ => refuses) trivial
      (by decide : RunMeets Race.step Race.Refuses hedged (.begin 0 [0, 1, 2]))), by decide⟩

/-- A connection lost while the answer is read rejects the race, with an address untried. -/
theorem lost_answer_rejects :
    ¬ EachStep Race.step Race.SettledBy [.ends 0 (some { type := .unknown })]
      (.begin 0 [0, 1]) := by
  intro each
  rcases each [] _ [] _ _ rfl rfl rfl with ⟨same, _⟩ | ⟨_, _, _, _, ⟨bad, _⟩ | all⟩
  · cases same
  · cases bad
  · cases all

end Nebula.Mobile.Hedging
