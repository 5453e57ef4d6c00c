import Nebula.Runs
import Nebula.Work

/-!
# What a sign-out leaves in the keystores

`_forgetSession` clears the saved credentials and then the saved peers, key by key; a keystore that
throws ends it. What connects, confirmations and protocol tests save is saved after an answer,
without a look at who is signed in by then: credentials by `_connectXray`,
`_serverChangedCredential`, `_confirmWithServer` and `_freshTestCredential`, peers by
`_connectWireGuard` and `_pingWireGuard`, which also writes back one it found.
-/

namespace Nebula.Mobile.Leftovers

open Store Work Runs Option

abbrev Account := Nat

abbrev Code := Nat

inductive Keystore where
  | xrayCredential
  | wireGuardPeer
  deriving DecidableEq

/-- `code` is the key, and `issuedTo` whom the server issued it to, which is not saved. -/
structure Entry where
  code : Code
  issuedTo : Account

structure Flow where
  keystore : Keystore
  entry : Entry
  answered : Bool

inductive Clearing where
  | readAll (keystore : Keystore)
  | delete (keystore : Keystore) (code : Code)

/-- `left` is who has signed out, while nobody has signed in since. -/
structure App where
  account : Option Account
  left : Option Account
  entries : Keystore → List Entry
  flows : Pool Flow
  forgetting : Option (Account × List Clearing)

inductive Event where
  | signIn (account : Account)
  | request (keystore : Keystore) (code : Code)
  | reread (code : Code)
  | answer (number : Nat) (issued : Bool)
  | save (number : Nat) (works : Bool)
  | forget (keystore : Keystore) (code : Code)
  | signOut
  | clear (works : Bool)

namespace App

variable (app : App)

def write (keystore : Keystore) (change : List Entry → List Entry) : App :=
  { app with
    entries := fun other =>
      if other = keystore then change (app.entries other) else app.entries other }

/-- One `await` of `_forgetSession`; `AuthUnauthenticated` follows the last. -/
def clear (works : Bool) (account : Account) : List Clearing → App
  | [] => { app with account := none, left := some account, forgetting := none }
  | .readAll keystore :: rest =>
    let found := (app.entries keystore).map fun entry => .delete keystore entry.code
    { app with forgetting := some (account, if works then found ++ rest else []) }
  | .delete keystore code :: rest =>
    if works then
      { app.write keystore (remove Entry.code code) with forgetting := some (account, rest) }
    else { app with forgetting := some (account, []) }

end App

variable (app : App)

def step : Event → Option App
  | .signIn account => some { app with account := some account, left := none }
  | .request keystore code => app.account.map fun account =>
      { app with flows := app.flows.begin ⟨keystore, ⟨code, account⟩, false⟩ }
  | .reread code => do
    let _ ← app.account
    let entry ← lookup Entry.code code (app.entries .wireGuardPeer)
    some { app with flows := app.flows.begin ⟨.wireGuardPeer, entry, true⟩ }
  | .answer number issued =>
    (app.flows.find number).map fun flow =>
      let later := if issued then some { flow with answered := true } else none
      { app with flows := app.flows.resume number later }
  | .save number works =>
    match app.flows.find number with
    | some ⟨keystore, entry, true⟩ =>
      some { app.write keystore (if works then upsert Entry.code entry else id) with
        flows := app.flows.resume number none }
    | _ => none
  | .forget keystore code => some (app.write keystore (remove Entry.code code))
  | .signOut => app.account.map fun account =>
      { app with
        forgetting := some (account, [.readAll .xrayCredential, .readAll .wireGuardPeer]) }
  | .clear works => app.forgetting.map fun work => app.clear works work.1 work.2

/-- Once nothing is under way, nothing is saved of the account that signed out. -/
def NothingLeft : Prop :=
  app.flows.jobs = [] → app.forgetting = none → ∀ account ∈ app.left,
    ∀ entry ∈ app.entries .xrayCredential ++ app.entries .wireGuardPeer, entry.issuedTo ≠ account
  deriving Decidable

def App.reads : Option Keystore :=
  match app.forgetting with
  | some (_, .readAll keystore :: _) => some keystore
  | _ => none

/-- A keystore is read to be cleared while no flow will save in it; no flow begins, and none throws,
before the sign-out is over. -/
def ClearedAlone : Event → Prop
  | .request _ _ => app.forgetting = none
  | .reread _ => app.forgetting = none
  | .clear works => works = true ∧ ∀ keystore ∈ app.reads,
      ∀ flow ∈ app.flows.jobs, flow.2.keystore ≠ keystore
  | _ => True

instance (event : Event) : Decidable (ClearedAlone app event) := by
  unfold ClearedAlone
  split <;> infer_instance

def Covered (account : Account) (todo : List Clearing) (keystore : Keystore) : Prop :=
  .readAll keystore ∈ todo ∨
    (∀ flow ∈ app.flows.jobs, flow.2.keystore ≠ keystore) ∧
      ∀ entry ∈ app.entries keystore, entry.issuedTo = account →
        .delete keystore entry.code ∈ todo

structure Cleared : Prop where
  out : ∀ account ∈ app.left, app.account = none ∧ app.flows.jobs = [] ∧
    ∀ keystore, ∀ entry ∈ app.entries keystore, entry.issuedTo ≠ account
  going : ∀ account todo, app.forgetting = some (account, todo) →
    ∀ keystore, Covered app account todo keystore

section

variable {app : App}

theorem mem_forget {keystore other : Keystore} {code : Code} {entry : Entry} :
    entry ∈ (app.write keystore (remove Entry.code code)).entries other ↔
      entry ∈ app.entries other ∧ (other = keystore → entry.code ≠ code) := by
  by_cases same : other = keystore <;> simp [App.write, same, mem_remove]

variable (cleared : Cleared app)
include cleared

theorem Cleared.begin {account : Account} (signedIn : app.account = some account) (flow : Flow)
    (quiet : app.forgetting = none) : Cleared { app with flows := app.flows.begin flow } := by
  refine ⟨fun other left => ?_, by simp [quiet]⟩
  cases (cleared.out other left).1.symm.trans signedIn

theorem Cleared.goesOn {number : Nat} {flow : Flow} (found : app.flows.find number = some flow)
    (change : List Entry → List Entry) (next : Option Flow)
    (same : ∀ later ∈ next, later.keystore = flow.keystore) :
    Cleared { app.write flow.keystore change with flows := app.flows.resume number next } := by
  have own := app.flows.find_mem number flow found
  constructor
  · intro account left
    simp [(cleared.out account left).2.1] at own
  intro account todo forgets keystore
  refine (cleared.going account todo forgets keystore).imp_right ?_
  rintro ⟨quiet, deleted⟩
  refine ⟨Pool.forall_resume quiet fun later goes => ?_, ?_⟩
  · rw [same later goes]
    exact quiet _ own
  · simpa [App.write, (quiet _ own).symm] using deleted

theorem Cleared.forget (keystore : Keystore) (code : Code) :
    Cleared (app.write keystore (remove Entry.code code)) := by
  constructor
  · intro account left
    obtain ⟨out, quiet, gone⟩ := cleared.out account left
    exact ⟨out, quiet, fun other entry member => gone other entry (mem_forget.mp member).1⟩
  · intro account todo forgets other
    refine (cleared.going account todo forgets other).imp_right (And.imp_right ?_)
    exact fun deleted entry member => deleted entry (mem_forget.mp member).1

theorem Cleared.clear {account : Account} {todo : List Clearing}
    (forgets : app.forgetting = some (account, todo))
    (alone : ∀ keystore ∈ app.reads, ∀ flow ∈ app.flows.jobs, flow.2.keystore ≠ keystore) :
    Cleared (app.clear true account todo) := by
  have own := cleared.going account todo forgets
  cases todo with
  | nil =>
    have covered := fun keystore => (own keystore).resolve_left List.not_mem_nil
    refine ⟨?_, by simp [App.clear]⟩
    rintro _ ⟨⟩
    refine ⟨rfl, List.eq_nil_iff_forall_not_mem.mpr fun flow member => ?_, ?_⟩
    · exact (covered flow.2.keystore).1 flow member rfl
    · intro keystore entry member mine
      simpa using (covered keystore).2 entry member mine
  | cons first rest =>
    cases first with
    | readAll keystore =>
      refine ⟨cleared.out, ?_⟩
      rintro _ _ ⟨⟩ other
      by_cases same : other = keystore
      · subst same
        refine .inr ⟨alone other (by simp [App.reads, forgets]), fun entry member _ => ?_⟩
        simpa using .inl ⟨entry, member, rfl⟩
      · refine (own other).imp (by simp [same]) (And.imp_right ?_)
        intro deleted entry member mine
        simpa using .inr (by simpa using deleted entry member mine)
    | delete keystore code =>
      refine ⟨(cleared.forget keystore code).out, ?_⟩
      rintro _ _ ⟨⟩ other
      refine (own other).imp (by simp) (And.imp_right ?_)
      intro deleted entry member mine
      obtain ⟨old, another⟩ := mem_forget.mp member
      rcases List.mem_cons.mp (deleted entry old mine) with same | later
      · cases same
        exact absurd rfl (another rfl)
      · exact later

end

def App.begun : App where
  account := none
  left := none
  entries _ := []
  flows := .empty
  forgetting := none

/-- While `ClearedAlone`, nothing of the account that signed out stays saved. -/
theorem signOut_leaves_nothing (events : List Event)
    (alone : RunMeets step ClearedAlone events .begun) :
    AlwaysAlong step NothingLeft events .begun := by
  refine alwaysAlong_of_invariant Cleared NothingLeft ?_ ?_ ?_ alone
  · intro app event next cleared alone taken
    cases event with
    | signIn account =>
      cases taken
      exact ⟨by simp, cleared.going⟩
    | request keystore code =>
      obtain ⟨account, signedIn, rfl⟩ := map_eq_some_iff.mp taken
      exact cleared.begin signedIn _ alone
    | reread code =>
      obtain ⟨account, signedIn, taken⟩ := bind_eq_some_iff.mp taken
      obtain ⟨entry, _, same⟩ := bind_eq_some_iff.mp taken
      cases same
      exact cleared.begin signedIn _ alone
    | answer number issued =>
      obtain ⟨flow, found, rfl⟩ := map_eq_some_iff.mp taken
      have kept := cleared.goesOn found id
        (if issued then some { flow with answered := true } else none) (by cases issued <;> simp)
      simpa [App.write] using kept
    | save number works =>
      simp only [step] at taken
      split at taken
      · rename_i found
        cases taken
        exact cleared.goesOn found _ none (by simp)
      · cases taken
    | forget keystore code =>
      cases taken
      exact cleared.forget keystore code
    | signOut =>
      obtain ⟨account, signedIn, rfl⟩ := map_eq_some_iff.mp taken
      refine ⟨cleared.out, ?_⟩
      rintro _ _ ⟨⟩ keystore
      cases keystore <;> simp [Covered]
    | clear works =>
      obtain ⟨rfl, alone⟩ := alone
      obtain ⟨⟨account, todo⟩, forgets, rfl⟩ := map_eq_some_iff.mp taken
      exact cleared.clear forgets alone
  · intro app cleared _ _ account left entry member
    rcases List.mem_append.mp member with credential | peer
    · exact (cleared.out account left).2.2 _ entry credential
    · exact (cleared.out account left).2.2 _ entry peer
  · exact ⟨by simp [App.begun], by simp [App.begun]⟩

def confirmedBefore : List Event :=
  [.signIn 7, .request .xrayCredential 1, .signOut, .answer 0 true, .save 0 true, .clear true,
    .clear true, .clear true, .clear true]

theorem signOut_leaves_nothing_confirmedBefore :
    AlwaysAlong step NothingLeft confirmedBefore .begun ∧
      (runEvents step confirmedBefore .begun).map App.left = some (some 7) :=
  ⟨signOut_leaves_nothing confirmedBefore (by decide +kernel), by decide +kernel⟩

def confirmedAfter : List Event :=
  [.signIn 7, .request .xrayCredential 1, .signOut, .clear true, .clear true, .clear true,
    .answer 0 true, .save 0 true]

theorem credential_left_confirmedAfter : ¬ AlwaysAlong step NothingLeft confirmedAfter .begun :=
  not_alwaysAlong NothingLeft confirmedAfter _ (by decide +kernel)

end Nebula.Mobile.Leftovers
