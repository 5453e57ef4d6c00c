import Nebula.Effects
import Nebula.ControlPlane.State

/-!
# The summary of a pass

A row is counted before the last of its writes, and the loop around it counts it again, as
`errored`, whatever raised.
-/

namespace Nebula.ControlPlane

open Effects

structure ReconciliationSummary where
  checked : Nat
  inSync : Nat
  repaired : Nat
  repairFailed : Nat
  ambiguous : Nat
  errored : Nat

def ReconciliationSummary.outcomes (summary : ReconciliationSummary) : Nat :=
  summary.inSync + summary.repaired + summary.repairFailed + summary.ambiguous + summary.errored

inductive RepairOutcome where
  | repairSucceeded
  | repairFailed
  | ambiguous

structure RowCalls where
  /-- Whether a client's credential can be read; a peer has none to read. -/
  decrypted : Option Bool
  /-- `none` inside is an error of the agent client, which the step catches. -/
  probed : Option (Option ReconcileOutcome)
  recorded : Option Unit
  recovered : Option Unit
  repaired : Option RepairOutcome
  outcomeRecorded : Option Unit

abbrev Counting := Program Unit ReconciliationSummary

def await {Value : Type} : Option Value → Counting Value
  | some value => pure value
  | none => throw ()

variable (calls : RowCalls)

def noteAmbiguous : Counting Unit := do
  modify fun summary => { summary with ambiguous := summary.ambiguous + 1 }
  await calls.recorded

def noteInSync : Counting Unit := do
  modify fun summary => { summary with inSync := summary.inSync + 1 }
  await calls.recorded
  await calls.recovered

def noteRepair : Counting Unit := do
  await calls.recorded
  match ← await calls.repaired with
  | .repairSucceeded =>
    modify fun summary => { summary with repaired := summary.repaired + 1 }
  | .repairFailed =>
    modify fun summary => { summary with repairFailed := summary.repairFailed + 1 }
  | .ambiguous =>
    modify fun summary => { summary with ambiguous := summary.ambiguous + 1 }
  await calls.outcomeRecorded

def reconcileOne (wantsPresent : Bool) (calls : RowCalls) : Counting Unit := do
  if !(← await calls.decrypted) then noteAmbiguous calls
  else
    match ← await calls.probed with
    | none | some .ambiguous => noteAmbiguous calls
    | some outcome =>
      if (outcome == .inSync) == wantsPresent then noteInSync calls else noteRepair calls

/-- One turn of the loop of `run_reconciliation` and `run_xray_reconciliation`. -/
def reconcileRow (row : Bool × RowCalls) : Counting Unit := do
  modify fun summary => { summary with checked := summary.checked + 1 }
  tryCatch (reconcileOne row.1 row.2) fun _ =>
    modify fun summary => { summary with errored := summary.errored + 1 }

def runReconciliation : List (Bool × RowCalls) → Counting Unit
  | [] => pure ()
  | row :: rest => do
    reconcileRow row
    runReconciliation rest

/-- What is written after a row was counted goes through. -/
def RowCalls.settles (wantsPresent : Bool) : Bool :=
  match calls.decrypted, calls.probed with
  | none, _ | some true, none => true
  | some false, _ | some true, some none | some true, some (some .ambiguous) =>
    calls.recorded.isSome
  | some true, some (some outcome) =>
    if (outcome == .inSync) == wantsPresent then calls.recorded.isSome && calls.recovered.isSome
    else calls.recorded.isNone || calls.repaired.isNone || calls.outcomeRecorded.isSome

/-- A row is counted if its step ended, and if it raised after it had been counted. -/
def Counted (settles : Bool) (summary : ReconciliationSummary) :
    EStateM.Result Unit ReconciliationSummary Unit → Prop
  | .ok _ after =>
    after.checked = summary.checked ∧ after.outcomes = summary.outcomes + 1 ∧ settles = true
  | .error _ after =>
    after.checked = summary.checked ∧ after.outcomes = summary.outcomes + (!settles).toNat

section

variable (calls : RowCalls) (summary : ReconciliationSummary)

theorem noteAmbiguous_counted :
    Counted calls.recorded.isSome summary ((noteAmbiguous calls).run summary) := by
  cases recorded : calls.recorded <;>
    simp [noteAmbiguous, await, recorded, Counted, ReconciliationSummary.outcomes] <;> omega

theorem noteInSync_counted :
    Counted (calls.recorded.isSome && calls.recovered.isSome) summary
      ((noteInSync calls).run summary) := by
  cases recorded : calls.recorded with
  | none =>
    simp [noteInSync, await, recorded, Counted, ReconciliationSummary.outcomes]
    omega
  | some _ =>
    cases recovered : calls.recovered <;>
      simp [noteInSync, await, recorded, recovered, Counted, ReconciliationSummary.outcomes] <;>
      omega

theorem noteRepair_counted :
    Counted (calls.recorded.isNone || calls.repaired.isNone || calls.outcomeRecorded.isSome) summary
      ((noteRepair calls).run summary) := by
  cases recorded : calls.recorded with
  | none => simp [noteRepair, await, recorded, Counted]
  | some _ =>
    rcases repaired : calls.repaired with _ | _ | _ | _
    · simp [noteRepair, await, recorded, repaired, Counted]
    all_goals
      cases outcomeRecorded : calls.outcomeRecorded <;>
        simp [noteRepair, await, recorded, repaired, outcomeRecorded, Counted,
          ReconciliationSummary.outcomes] <;> omega

theorem reconcileOne_counted (wantsPresent : Bool) :
    Counted (calls.settles wantsPresent) summary
      ((reconcileOne wantsPresent calls).run summary) := by
  have ambiguous := noteAmbiguous_counted calls summary
  have inSync := noteInSync_counted calls summary
  have repair := noteRepair_counted calls summary
  unfold RowCalls.settles
  rcases decrypted : calls.decrypted with _ | _ | _
  · simp [reconcileOne, await, decrypted, Counted]
  · simpa [reconcileOne, await, decrypted]
  rcases probed : calls.probed with _ | _ | outcome
  · simp [reconcileOne, await, decrypted, probed, Counted]
  · simpa [reconcileOne, await, decrypted, probed]
  · cases outcome <;> cases wantsPresent <;> simpa [reconcileOne, await, decrypted, probed]

theorem reconcileRow_counted (row : Bool × RowCalls) :
    ∃ after, (reconcileRow row).run summary = .ok () after ∧
      after.checked = summary.checked + 1 ∧
      after.outcomes = summary.outcomes + 1 + (!row.2.settles row.1).toNat := by
  have counted := reconcileOne_counted row.2 { summary with checked := summary.checked + 1 } row.1
  simp only [reconcileRow, run_bind, run_modify, run_tryCatch]
  cases ended : (reconcileOne row.1 row.2).run { summary with checked := summary.checked + 1 } with
  | ok _ middle =>
    rw [ended] at counted
    refine ⟨middle, rfl, counted.1, ?_⟩
    rw [counted.2.2]
    exact counted.2.1
  | error _ middle =>
    rw [ended] at counted
    exact ⟨_, rfl, counted.1, (congrArg (· + 1) counted.2).trans (Nat.add_right_comm _ _ _)⟩

/-- A row that does not settle is counted twice. -/
theorem runReconciliation_counted (rows : List (Bool × RowCalls)) :
    ∃ after, (runReconciliation rows).run summary = .ok () after ∧
      after.checked = summary.checked + rows.length ∧
      after.outcomes = summary.outcomes + rows.length +
        rows.countP fun row => !row.2.settles row.1 := by
  induction rows generalizing summary with
  | nil => exact ⟨summary, rfl, rfl, rfl⟩
  | cons row rest ih =>
    obtain ⟨middle, turned, checked, outcome⟩ := reconcileRow_counted summary row
    obtain ⟨after, ran, checkedAll, outcomes⟩ := ih middle
    refine ⟨after, ?_, ?_, ?_⟩
    · simp only [runReconciliation, run_bind, turned, ran]
    · rw [checkedAll, checked, List.length_cons]
      omega
    · rw [outcomes, outcome, List.countP_cons, List.length_cons]
      cases row.2.settles row.1 <;> simp <;> omega

end

/-- Every candidate counts as checked, and the outcomes add up exactly if every row settles. -/
theorem summary_counts_each_row (rows : List (Bool × RowCalls)) :
    ∃ summary, (runReconciliation rows).run ⟨0, 0, 0, 0, 0, 0⟩ = .ok () summary ∧
      summary.checked = rows.length ∧
      (summary.checked = summary.outcomes ↔ ∀ row ∈ rows, row.2.settles row.1 = true) := by
  obtain ⟨summary, ran, checked, outcomes⟩ := runReconciliation_counted ⟨0, 0, 0, 0, 0, 0⟩ rows
  refine ⟨summary, ran, by rw [checked, Nat.zero_add], ?_⟩
  have twice : rows.countP (fun row => !row.2.settles row.1) = 0 ↔
      ∀ row ∈ rows, row.2.settles row.1 = true := by simp [List.countP_eq_zero]
  rw [checked, outcomes, ← twice]
  simp [ReconciliationSummary.outcomes]

def threeRows : List (Bool × RowCalls) :=
  [(true, ⟨some false, none, some (), some (), none, some ()⟩),
    (true, ⟨some true, some (some .driftDetected), none, some (), none, some ()⟩),
    (true, ⟨some true, some (some .driftDetected), some (), some (), some .repairFailed, some ()⟩)]

theorem summary_counts_threeRows :
    ∃ summary, (runReconciliation threeRows).run ⟨0, 0, 0, 0, 0, 0⟩ = .ok () summary ∧
      summary.checked = 3 ∧ summary.checked = summary.outcomes := by
  obtain ⟨summary, ran, checked, balanced⟩ := summary_counts_each_row threeRows
  exact ⟨summary, ran, checked, balanced.mpr (by decide)⟩

def unwritten : RowCalls := ⟨some true, some (some .inSync), none, none, none, none⟩

theorem summary_counts_unwritten_twice :
    ¬ ∀ rows : List (Bool × RowCalls), ∃ summary,
      (runReconciliation rows).run ⟨0, 0, 0, 0, 0, 0⟩ = .ok () summary ∧
        summary.checked = rows.length ∧ summary.checked = summary.outcomes := by
  intro always
  obtain ⟨summary, ran, -, balanced⟩ := always [(true, unwritten)]
  obtain rfl : ⟨1, 1, 0, 0, 0, 1⟩ = summary := by
    injection ran
  exact absurd balanced (by decide)

end Nebula.ControlPlane
