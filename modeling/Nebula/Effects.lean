import Mathlib.Logic.Basic

/-!
# Programs that keep their state when they raise

A program over a state and a class of errors, as an interpreter of exceptions
runs it: what was done before an error stays done, and a handler goes on from
there. The lemmas run a program one construct at a time.
-/

namespace Nebula.Effects

abbrev Program (Error State : Type) := EStateM Error State

variable {Error State Value Result : Type}

@[simp] theorem run_bind (first : Program Error State Value)
    (next : Value → Program Error State Result) (state : State) :
    (first >>= next).run state =
      match first.run state with
      | .ok value after => (next value).run after
      | .error error after => .error error after :=
  rfl

@[simp] theorem run_pure (value : Value) (state : State) :
    (pure value : Program Error State Value).run state = .ok value state :=
  rfl

@[simp] theorem run_get (state : State) :
    (get : Program Error State State).run state = .ok state state :=
  rfl

@[simp] theorem run_modify (change : State → State) (state : State) :
    (modify change : Program Error State Unit).run state = .ok () (change state) :=
  rfl

@[simp] theorem run_throw (error : Error) (state : State) :
    (throw error : Program Error State Value).run state = .error error state :=
  rfl

@[simp] theorem run_tryCatch (body : Program Error State Value)
    (handler : Error → Program Error State Value) (state : State) :
    (tryCatch body handler).run state =
      match body.run state with
      | .ok value after => .ok value after
      | .error error after => (handler error).run after := by
  have unfolded : (tryCatch body handler).run state = EStateM.tryCatch body handler state := rfl
  rw [unfolded]
  delta EStateM.tryCatch
  simp only [EStateM.run]
  cases body state <;> rfl

theorem run_ite (condition : Prop) [Decidable condition] (yes no : Program Error State Value)
    (state : State) :
    (if condition then yes else no).run state =
      if condition then yes.run state else no.run state := by
  split <;> rfl

end Nebula.Effects
