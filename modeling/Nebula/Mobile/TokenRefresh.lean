import Mathlib.Logic.Function.Basic
import Nebula.Runs

/-!
# Shared token refreshes

`TokenRefresher` and `AuthInterceptor`. A copy of a request that is answered 401 awaits the refresh
in flight or starts one, and is then sent again with a mark that it will not be refreshed for. A
call's end completes the future that all of them wait for and clears `_inFlight` in one turn of the
event loop; they go on in later ones.

Copies and calls are numbered. `resent`, which copy each retry is of, is not stored by the code.
-/

namespace Nebula.Mobile.TokenRefresh

open Runs Function List

variable {Tokens Failure : Type}

structure Request (Tokens : Type) where
  unauthenticatedPath : Bool
  authorization : Option Tokens
  retried : Bool

def Request.again (request : Request Tokens) (tokens : Tokens) : Request Tokens :=
  { request with authorization := some tokens, retried := true }

/-- What a copy's caller is left with: its own answer, that of the retry, or the `DioException`
that `_retryAfterRefresh` makes of the refresh's error. -/
inductive Outcome (Failure : Type) where
  | own
  | resent (retry : Nat)
  | failed (error : Failure)

inductive Phase (Failure : Type) where
  | unsent
  | sent
  | waiting (call : Nat)
  | settled (outcome : Outcome Failure)

inductive Call (Tokens Failure : Type) where
  | unstarted
  | running
  | ended (result : Except Failure Tokens)

structure App (Tokens Failure : Type) where
  inFlight : Option Nat
  calls : Nat → Call Tokens Failure
  nextCall : Nat
  request : Nat → Request Tokens
  phase : Nat → Phase Failure
  nextCopy : Nat
  resent : List (Nat × Nat)

inductive Event (Tokens Failure : Type) where
  | send (request : Request Tokens)
  | answered (copy : Nat) (unauthorized : Bool)
  | refreshEnds (call : Nat) (result : Except Failure Tokens)
  | resume (copy : Nat)

namespace App

def start : App Tokens Failure :=
  ⟨none, fun _ => .unstarted, 0, fun _ => ⟨false, none, false⟩, fun _ => .unsent, 0, []⟩

variable (app : App Tokens Failure)

def send (request : Request Tokens) : App Tokens Failure :=
  { app with
    request := update app.request app.nextCopy request
    phase := update app.phase app.nextCopy .sent
    nextCopy := app.nextCopy + 1 }

def eligibleForRefresh (copy : Nat) : Bool :=
  !(app.request copy).unauthenticatedPath && (app.request copy).authorization.isSome &&
    !(app.request copy).retried

def move (copy : Nat) (phase : Phase Failure) : App Tokens Failure :=
  { app with phase := update app.phase copy phase }

/-- `refresh`, for a copy that awaits it. -/
def refresh (copy : Nat) : App Tokens Failure :=
  match app.inFlight with
  | some call => app.move copy (.waiting call)
  | none =>
    { app.move copy (.waiting app.nextCall) with
      inFlight := some app.nextCall
      calls := update app.calls app.nextCall .running
      nextCall := app.nextCall + 1 }

/-- `_retryAfterRefresh` from where it has awaited the refresh. -/
def retry (copy : Nat) : Except Failure Tokens → App Tokens Failure
  | .error error => app.move copy (.settled (.failed error))
  | .ok tokens =>
    { (app.move copy (.settled (.resent app.nextCopy))).send ((app.request copy).again tokens) with
      resent := (copy, app.nextCopy) :: app.resent }

def step (app : App Tokens Failure) : Event Tokens Failure → Option (App Tokens Failure)
  | .send request => some (app.send request)
  | .answered copy unauthorized =>
    match app.phase copy with
    | .sent =>
      some (if unauthorized && app.eligibleForRefresh copy then app.refresh copy
        else app.move copy (.settled .own))
    | _ => none
  | .refreshEnds call result =>
    match app.calls call with
    | .running =>
      some { app with
        calls := update app.calls call (.ended result)
        inFlight := if app.inFlight = some call then none else app.inFlight }
    | _ => none
  | .resume copy =>
    match app.phase copy with
    | .waiting call =>
      match app.calls call with
      | .ended result => some (app.retry copy result)
      | _ => none
    | _ => none

end App

/-- `copy` is sent again, once, with the tokens a refresh gave it, or ends with its error. -/
def Told (app next : App Tokens Failure) (copy : Nat) : Except Failure Tokens → Prop
  | .error error => next = { app with phase := update app.phase copy (.settled (.failed error)) }
  | .ok tokens =>
    next.phase copy = .settled (.resent app.nextCopy) ∧ next.phase app.nextCopy = .sent ∧
      next.request app.nextCopy = ⟨(app.request copy).unauthenticatedPath, some tokens, true⟩ ∧
      next.nextCopy = app.nextCopy + 1 ∧ next.resent = (copy, app.nextCopy) :: app.resent

structure Kept (app : App Tokens Failure) : Prop where
  field : ∀ call, app.calls call = .running ↔ app.inFlight = some call
  started : ∀ call, app.calls call = .unstarted ↔ app.nextCall ≤ call
  unsent : ∀ copy, app.nextCopy ≤ copy → app.phase copy = .unsent
  waits : ∀ copy call, app.phase copy = .waiting call →
    call < app.nextCall ∧ (app.request copy).retried = false
  resent : ∀ pair ∈ app.resent, app.phase pair.1 = .settled (.resent pair.2) ∧
    (app.request pair.1).retried = false ∧ (app.request pair.2).retried = true ∧
    pair.2 < app.nextCopy
  once : (app.resent.map Prod.fst).Nodup

variable {app next : App Tokens Failure}

variable (kept : Kept app)
include kept

theorem kept_send (request : Request Tokens) : Kept (app.send request) := by
  obtain ⟨field, started, unsent, waits, resent, once⟩ := kept
  refine ⟨field, started, ?_, ?_, ?_, once⟩
  all_goals
    simp only [App.send]
    grind [update_apply]

theorem kept_move {copy : Nat} {phase : Phase Failure}
    (sent : app.phase copy ≠ .unsent) (free : ∀ outcome, app.phase copy ≠ .settled outcome)
    (waits : ∀ call, phase = .waiting call →
      call < app.nextCall ∧ (app.request copy).retried = false) : Kept (app.move copy phase) := by
  obtain ⟨field, started, unsent, waiting, resent, once⟩ := kept
  refine ⟨field, started, ?_, ?_, ?_, once⟩
  all_goals
    simp only [App.move]
    grind [update_apply]

theorem kept_refresh {copy : Nat} (sent : app.phase copy = .sent)
    (eligible : app.eligibleForRefresh copy) : Kept (app.refresh copy) := by
  have unmarked : (app.request copy).retried = false := by
    simp only [App.eligibleForRefresh, Bool.and_eq_true, Bool.not_eq_true'] at eligible
    exact eligible.2
  obtain ⟨field, started, unsent, waits, resent, once⟩ := kept
  unfold App.refresh
  split
  · apply kept_move ⟨field, started, unsent, waits, resent, once⟩
    all_goals
      grind
  · refine ⟨?_, ?_, ?_, ?_, ?_, once⟩
    all_goals
      simp only [App.move]
      grind [update_apply]

theorem waiting_ne {copy call : Nat} (waits : app.phase copy = .waiting call) :
    copy ≠ app.nextCopy := by
  rintro rfl
  simp [kept.unsent] at waits

theorem kept_retry {copy call : Nat} (waits : app.phase copy = .waiting call)
    (result : Except Failure Tokens) : Kept (app.retry copy result) := by
  have unmarked := (kept.waits copy call waits).2
  have resent := kept.resent
  have moved outcome : Kept (app.move copy (.settled outcome)) :=
    kept_move kept (by simp [waits]) (by simp [waits]) (by simp)
  cases result with
  | error error => exact moved (.failed error)
  | ok tokens =>
    obtain ⟨field, started, later, waiting, earlier, once⟩ :=
      kept_send (moved (.resent app.nextCopy)) ((app.request copy).again tokens)
    refine ⟨field, started, later, waiting, ?_, nodup_cons.mpr ⟨?_, once⟩⟩
    · refine forall_mem_cons.mpr ⟨?_, earlier⟩
      have known := waiting_ne kept waits
      simp [App.retry, App.send, App.move, Request.again, known, unmarked]
    · intro member
      obtain ⟨pair, listed, rfl⟩ := mem_map.mp member
      simp [(resent pair listed).1] at waits

omit kept

theorem step_kept {event : Event Tokens Failure} (kept : Kept app)
    (taken : app.step event = some next) : Kept next := by
  cases event with
  | send request => exact Option.some.inj taken ▸ kept_send kept request
  | answered copy unauthorized =>
    simp only [App.step] at taken
    split at taken
    case h_2 => cases taken
    rename_i sent
    cases taken
    split
    · rename_i eligible
      exact kept_refresh kept sent (Bool.and_eq_true _ _ ▸ eligible).2
    · exact kept_move kept (by simp [sent]) (by simp [sent]) (by simp)
  | refreshEnds call result =>
    simp only [App.step] at taken
    split at taken
    case h_2 => cases taken
    rename_i running
    cases taken
    obtain ⟨field, started, unsent, waits, resent, once⟩ := kept
    refine ⟨?_, ?_, unsent, waits, resent, once⟩
    all_goals
      grind [update_apply]
  | resume copy =>
    simp only [App.step] at taken
    split at taken
    case h_2 => cases taken
    split at taken
    case h_2 => cases taken
    rename_i call waits _ result ended
    cases taken
    exact kept_retry kept waits result

end Nebula.Mobile.TokenRefresh
